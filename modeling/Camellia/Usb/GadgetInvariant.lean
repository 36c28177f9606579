import Camellia.Usb.GadgetSystem

/-!
# What holds at each point of a request

A request leaves behind a function directory, an endpoint list and a monitor,
and the next one starts from whatever that is.  The invariant ties each phase of
a request to what the directory, the list and the monitor are then; all
properties of requests and of reported configurations are read off it.
-/

namespace Camellia.Usb
namespace Gadget

open Transition

/-! ## The invariant -/

/-- The directory and the list are what the operations `finished` leave behind. -/
def SetUpTo (state : State) (finished : List SetupOp) : Prop :=
  functionEntries state.configDir = functionLinks (linkedFunctions finished) ∧
    state.mEndpointList = addedEndpoints finished

def Clean (state : State) : Prop :=
  SetUpTo state [] ∧ state.monitor.isSome = false

structure Request.Runs (request : Request) (setup : Setup) : Prop where
  runs : request.setup = some setup
  program : setup.finished ++ setup.remaining =
    setupFunctions request.functions setup.vendorFunctions
  accepted : Accepted request.functions

structure Request.Quiet (request : Request) : Prop where
  replies : request.replies = []
  pulledUp : request.pulledUp = false
  recorded : request.recorded = false

/-- What the reply `SUCCESS` stands for. -/
def Request.Earned (request : Request) : Prop :=
  (request.functions = GadgetFunction.none ∧ request.tornDown = true) ∨
    (request.pulledUp = true ∧
      (ffsEnabled request.functions = true → request.recorded = true))

structure Request.Replied (request : Request) : Prop where
  once : request.callback = true → ∃ status,
    request.replies = [(request.functions, status)] ∧
      (status = .success ↔ request.Earned)
  recorded : request.recorded = true → request.pulledUp = true

/-- Before `setupFunctions`, with an operation `op` of `tearDownGadget` done once it is
not among the remaining ones. -/
def TearingDown (state : State) (remaining : List TearDownOp) : Prop :=
  remaining <:+ tearDownGadget ∧
    (.unlinkFunctions ∉ remaining → functionEntries state.configDir = []) ∧
    (.joinMonitor ∉ remaining → state.monitor.isSome = false)

def RequestOk (state : State) (request : Request) : Prop :=
  match request.phase with
  | .assigning => request.Quiet ∧ request.setup = none ∧ request.tornDown = false
  | .tearingDown remaining =>
      request.Quiet ∧ request.setup = none ∧ request.tornDown = false ∧
        TearingDown state remaining
  | .validating =>
      request.Quiet ∧ request.setup = none ∧
        request.functions ≠ GadgetFunction.none ∧ Clean state
  | .validated =>
      request.Quiet ∧ request.setup = none ∧ Accepted request.functions ∧ Clean state
  | .settingUp =>
      request.Quiet ∧ ∃ setup, request.Runs setup ∧ SetUpTo state setup.finished ∧
        state.monitor.isSome = false
  | .waiting =>
      request.replies = [] ∧ (request.recorded = true → request.pulledUp = true) ∧
        ffsEnabled request.functions = true ∧ state.monitor.isSome = true ∧
        state.gadgetPullup = request.recorded ∧
        ∃ setup, request.Runs setup ∧ setup.remaining = [] ∧
          SetUpTo state setup.finished
  | .failing status =>
      request.Quiet ∧ status ≠ .success ∧
        ¬(request.functions = GadgetFunction.none ∧ request.tornDown = true) ∧
        ∀ setup, request.setup = some setup →
          setup.remaining ≠ [] ∧ state.monitor.isSome = false
  | .returned =>
      request.Replied ∧
        (request.pulledUp = true →
          ∃ setup, request.setup = some setup ∧ setup.remaining = []) ∧
        ∀ setup, request.setup = some setup →
          if setup.remaining = [] then
            request.Runs setup ∧ SetUpTo state setup.finished ∧
              state.monitor.isSome = ffsEnabled request.functions
          else state.monitor.isSome = false

/-- A monitor is that of the latest request exactly once this one has set up its
functions. -/
def MonitorOk (state : State) (monitor : Monitor) (request : Request) : Prop :=
  match request.setup with
  | none => monitor.request < state.requests
  | some setup =>
      monitor.request = state.requests ∧ setup.remaining = [] ∧
        ffsEnabled request.functions = true ∧
        (monitor.stage = .pulledUp → request.pulledUp = true)

/-- A monitor is only told to stop where `tearDownGadget` joins it next. -/
def Request.Joins (request : Request) : Prop :=
  ∃ remaining, request.phase = .tearingDown remaining ∧ .signalMonitor ∉ remaining

structure Consistent (state : State) : Prop where
  created : state.mMonitorCreated = state.monitor.isSome
  current : ∀ request, state.request = some request →
    request.functions = state.mCurrentUsbFunctions
  fresh : state.request = none → state.monitor = none
  stopped : ∀ monitor, state.monitor = some monitor → monitor.stage = .stopped →
    monitor.signalled = true
  signalled : ∀ monitor request, state.monitor = some monitor →
    state.request = some request → monitor.signalled = true → request.Joins
  monitor : ∀ monitor request, state.monitor = some monitor →
    state.request = some request → MonitorOk state monitor request
  request : ∀ request, state.request = some request → RequestOk state request

theorem consistent_initial (functions : Functions) (configDir : List ConfigEntry) :
    Consistent (State.initial functions configDir) := by
  refine ⟨rfl, ?_, fun _ => rfl, ?_, ?_, ?_, ?_⟩
  · intro request hrequest
    contradiction
  · intro monitor hmonitor
    contradiction
  · intro monitor request hmonitor
    contradiction
  · intro monitor request hmonitor
    contradiction
  · intro request hrequest
    contradiction

theorem Accepted.ne_none {functions : Functions} (haccepted : Accepted functions) :
    functions ≠ GadgetFunction.none :=
  forall_accepted (P := fun functions => functions ≠ GadgetFunction.none) (by decide)
    haccepted

/-- The flag of the monitor matters in the wait only. -/
theorem RequestOk.congr {state next : State} {request : Request}
    (hok : RequestOk state request) (hconfigDir : next.configDir = state.configDir)
    (hendpoints : next.mEndpointList = state.mEndpointList)
    (hmonitor : next.monitor.isSome = state.monitor.isSome)
    (hpullup : request.phase = .waiting → next.gadgetPullup = state.gadgetPullup) :
    RequestOk next request := by
  unfold RequestOk at hok ⊢
  split at hok <;>
    simpa only [TearingDown, Clean, SetUpTo, hconfigDir, hendpoints, hmonitor, hpullup,
      *] using hok

theorem Request.Runs.congr {request moved : Request} {setup : Setup}
    (hruns : request.Runs setup) (hsetup : moved.setup = request.setup)
    (hfunctions : moved.functions = request.functions) : moved.Runs setup := by
  refine ⟨hsetup.trans hruns.runs, ?_, ?_⟩
  · rw [hfunctions]
    exact hruns.program
  · rw [hfunctions]
    exact hruns.accepted

/-! ## Steps of a request -/

/-- A step of the request that leaves the monitor alone. -/
theorem Consistent.request_step {state : State} (hconsistent : Consistent state)
    {request moved : Request} {configDir : List ConfigEntry} {udc : Option UdcContent}
    {applied : Bool} (hrequest : state.request = some request)
    (hfunctions : moved.functions = request.functions)
    (hjoins : request.Joins → moved.Joins)
    (hown : ∀ monitor, MonitorOk state monitor request → MonitorOk state monitor moved)
    (hok : RequestOk { state with configDir := configDir } moved) :
    Consistent { state with
      mCurrentUsbFunctionsApplied := applied
      configDir := configDir
      udc := udc
      request := some moved } := by
  refine ⟨hconsistent.created, ?_, ?_, hconsistent.stopped, ?_, ?_, ?_⟩
  · intro other hother
    obtain rfl := Option.some.inj hother
    exact hfunctions.trans (hconsistent.current request hrequest)
  · intro hnone
    contradiction
  · intro monitor other hsome hother hsignalled
    obtain rfl := Option.some.inj hother
    exact hjoins (hconsistent.signalled monitor request hsome hrequest hsignalled)
  · intro monitor other hsome hother
    obtain rfl := Option.some.inj hother
    exact hown monitor (hconsistent.monitor monitor request hsome hrequest)
  · intro other hother
    obtain rfl := Option.some.inj hother
    exact hok.congr rfl rfl rfl fun _ => rfl

/-- A step of the request after which there is no monitor. -/
theorem Consistent.of_no_monitor {next : State} {moved : Request}
    (hmonitor : next.monitor = none) (hcreated : next.mMonitorCreated = false)
    (hmoved : next.request = some moved)
    (hcurrent : moved.functions = next.mCurrentUsbFunctions) (hok : RequestOk next moved) :
    Consistent next := by
  have hnever : ∀ monitor, next.monitor ≠ some monitor := by
    intro monitor hsome
    rw [hmonitor] at hsome
    contradiction
  refine ⟨?_, ?_, fun _ => hmonitor, ?_, ?_, ?_, ?_⟩
  · rw [hcreated, hmonitor]
    rfl
  · intro other hother
    rw [hmoved, Option.some.injEq] at hother
    exact hother ▸ hcurrent
  · exact fun monitor hsome => absurd hsome (hnever monitor)
  · exact fun monitor _ hsome => absurd hsome (hnever monitor)
  · exact fun monitor _ hsome => absurd hsome (hnever monitor)
  · intro other hother
    rw [hmoved, Option.some.injEq] at hother
    subst other
    exact hok

theorem Request.Replied.of_reply {request : Request} {status : Status}
    (hreplies : request.replies = [])
    (hrecorded : request.recorded = true → request.pulledUp = true)
    (hstatus : status = .success ↔ request.Earned) : (request.reply status).Replied := by
  refine ⟨fun hcallback => ⟨status, ?_, hstatus⟩, hrecorded⟩
  have hcalled : request.callback = true := hcallback
  simp [Request.reply, hreplies, hcalled]

theorem Request.Joins.phase_ne {request : Request} (hjoins : request.Joins) {phase : Phase}
    (hphase : request.phase = phase) (hother : ∀ remaining, phase ≠ .tearingDown remaining) :
    False := by
  obtain ⟨remaining, hjoining, _⟩ := hjoins
  exact hother remaining (hphase.symm.trans hjoining)

theorem Request.Quiet.move {request : Request} (hquiet : request.Quiet) (phase : Phase) :
    Request.Quiet { request with phase := phase } :=
  ⟨hquiet.replies, hquiet.pulledUp, hquiet.recorded⟩

theorem Consistent.clearApplied {state next : State} (hconsistent : Consistent state)
    (hstep : clearApplied state = some next) : Consistent next := by
  obtain ⟨request, hrequest, hphase, rfl⟩ := clearApplied_cases hstep
  have hok := hconsistent.request request hrequest
  simp only [RequestOk, hphase] at hok
  obtain ⟨hquiet, hsetup, htornDown⟩ := hok
  refine hconsistent.request_step hrequest rfl
    (fun hjoins => (hjoins.phase_ne hphase (by simp)).elim) (fun _ => id) ?_
  refine ⟨hquiet.move _, hsetup, htornDown, List.suffix_refl _, ?_, ?_⟩
  · intro hunlinked
    exact absurd (by decide) hunlinked
  · intro hjoined
    exact absurd (by decide) hjoined

/-! ## Steps of `tearDownGadget` -/

/-- In `tearDownGadget` the operations that may fail come before the monitor is told to
stop, which comes before it is joined. -/
theorem tearDownGadget_order {op : TearDownOp} {remaining : List TearDownOp}
    (hsuffix : (op :: remaining) <:+ tearDownGadget) :
    match op with
    | .signalMonitor => .signalMonitor ∉ remaining ∧ .unlinkFunctions ∉ remaining
    | .joinMonitor => .signalMonitor ∉ remaining
    | .clearEndpoints => remaining = []
    | _ => .signalMonitor ∈ remaining := by
  have hall : tearDownGadget.tails.all (fun tail =>
      match tail with
      | [] => true
      | .signalMonitor :: rest =>
          decide (.signalMonitor ∉ rest ∧ .unlinkFunctions ∉ rest)
      | .joinMonitor :: rest => decide (.signalMonitor ∉ rest)
      | .clearEndpoints :: rest => decide (rest = [])
      | _ :: rest => decide (.signalMonitor ∈ rest)) = true := by decide
  have hone := List.all_eq_true.mp hall _ ((List.mem_tails _ _).mpr hsuffix)
  cases op <;> simpa using hone

theorem TearingDown.advance {state next : State} {op : TearDownOp}
    {remaining : List TearDownOp} (htearing : TearingDown state (op :: remaining))
    (hkept : functionEntries state.configDir = [] → functionEntries next.configDir = [])
    (hunlink : op = .unlinkFunctions → functionEntries next.configDir = [])
    (hmonitor : next.monitor.isSome = true → state.monitor.isSome = true)
    (hjoin : op = .joinMonitor → next.monitor.isSome = false) :
    TearingDown next remaining := by
  obtain ⟨hsuffix, hclean, hjoined⟩ := htearing
  refine ⟨(List.suffix_cons op remaining).trans hsuffix, ?_, ?_⟩
  · intro hmem
    by_cases hop : op = .unlinkFunctions
    · exact hunlink hop
    · refine hkept (hclean ?_)
      rw [List.mem_cons, not_or]
      exact ⟨Ne.symm hop, hmem⟩
  · intro hmem
    by_cases hop : op = .joinMonitor
    · exact hjoin hop
    · have hnone : state.monitor.isSome = false := by
        refine hjoined ?_
        rw [List.mem_cons, not_or]
        exact ⟨Ne.symm hop, hmem⟩
      by_contra hsome
      rw [Bool.not_eq_false] at hsome
      rw [hmonitor hsome] at hnone
      contradiction

theorem Consistent.tearingDown {state : State} (hconsistent : Consistent state)
    {request : Request} {remaining : List TearDownOp} (hrequest : state.request = some request)
    (hphase : request.phase = .tearingDown remaining) :
    request.Quiet ∧ request.setup = none ∧ request.tornDown = false ∧
      TearingDown state remaining := by
  have hok := hconsistent.request request hrequest
  simpa only [RequestOk, hphase] using hok

/-- Where the monitor is still to be told to stop, it has not been. -/
theorem Request.not_joins {request : Request} {remaining : List TearDownOp}
    (hphase : request.phase = .tearingDown remaining) (hmem : .signalMonitor ∈ remaining) :
    ¬request.Joins := by
  rintro ⟨other, hother, hsignal⟩
  rw [hphase, Phase.tearingDown.injEq] at hother
  exact hsignal (hother ▸ hmem)

/-- An operation before the monitor is told to stop succeeds. -/
theorem Consistent.tearDown_advance {state : State} (hconsistent : Consistent state)
    {request : Request} {op : TearDownOp} {remaining : List TearDownOp}
    {configDir : List ConfigEntry} {udc : Option UdcContent}
    (hrequest : state.request = some request)
    (hphase : request.phase = .tearingDown (op :: remaining))
    (hmem : .signalMonitor ∈ remaining)
    (htearing : TearingDown { state with configDir := configDir } remaining) :
    Consistent { state with
      configDir := configDir
      udc := udc
      request := some { request with phase := .tearingDown remaining } } := by
  obtain ⟨hquiet, hsetup, htornDown, _⟩ := hconsistent.tearingDown hrequest hphase
  have hunjoined := Request.not_joins hphase (List.mem_cons_of_mem op hmem)
  exact hconsistent.request_step hrequest rfl (fun hjoins => absurd hjoins hunjoined)
    (fun _ => id) ⟨hquiet.move _, hsetup, htornDown, htearing⟩

/-- An operation before the monitor is told to stop fails. -/
theorem Consistent.tearDown_fail {state : State} (hconsistent : Consistent state)
    {request : Request} {op : TearDownOp} {remaining : List TearDownOp}
    {configDir : List ConfigEntry} (hrequest : state.request = some request)
    (hphase : request.phase = .tearingDown (op :: remaining))
    (hmem : .signalMonitor ∈ remaining) :
    Consistent { state with
      configDir := configDir
      request := some { request with phase := .failing .error } } := by
  obtain ⟨hquiet, hsetup, htornDown, _⟩ := hconsistent.tearingDown hrequest hphase
  have hunjoined := Request.not_joins hphase (List.mem_cons_of_mem op hmem)
  refine hconsistent.request_step hrequest rfl (fun hjoins => absurd hjoins hunjoined)
    (fun _ => id) ⟨hquiet.move _, by simp, ?_, ?_⟩
  · rintro ⟨_, hdone⟩
    exact absurd (hdone.symm.trans htornDown) (by simp)
  · exact fun setup hrun => absurd (hrun.symm.trans hsetup) (by simp)

theorem Consistent.signalMonitor {state next : State} {succeeds : Bool}
    (hconsistent : Consistent state) {request : Request} {remaining : List TearDownOp}
    (hrequest : state.request = some request)
    (hphase : request.phase = .tearingDown (.signalMonitor :: remaining))
    (hstep : performTearDown state request remaining succeeds .signalMonitor = some next) :
    Consistent next := by
  obtain ⟨hquiet, hsetup, htornDown, htearing⟩ := hconsistent.tearingDown hrequest hphase
  have horder := tearDownGadget_order htearing.1
  obtain rfl := Option.some.inj hstep
  refine ⟨?_, ?_, ?_, ?_, ?_, ?_, ?_⟩
  · rw [Option.isSome_map]
    exact hconsistent.created
  · intro other hother
    obtain rfl := Option.some.inj hother
    exact hconsistent.current request hrequest
  · intro hnone
    contradiction
  · intro monitor hmonitor hstopped
    obtain ⟨before, hbefore, rfl⟩ := Option.map_eq_some_iff.mp hmonitor
    split
    · rfl
    · rename_i hunsignalled
      rw [if_neg hunsignalled] at hstopped
      exact hconsistent.stopped before hbefore hstopped
  · intro monitor other hmonitor hother _
    obtain rfl := Option.some.inj hother
    exact ⟨remaining, rfl, horder.1⟩
  · intro monitor other hmonitor hother
    obtain rfl := Option.some.inj hother
    obtain ⟨before, hbefore, rfl⟩ := Option.map_eq_some_iff.mp hmonitor
    have hown := hconsistent.monitor before request hbefore hrequest
    simp only [MonitorOk, hsetup] at hown ⊢
    split <;> exact hown
  · intro other hother
    obtain rfl := Option.some.inj hother
    refine ⟨hquiet.move _, hsetup, htornDown, htearing.advance id (by simp) ?_ (by simp)⟩
    rw [Option.isSome_map]
    exact id

theorem Consistent.joinMonitor {state next : State} {succeeds : Bool}
    (hconsistent : Consistent state) {request : Request} {remaining : List TearDownOp}
    (hrequest : state.request = some request)
    (hphase : request.phase = .tearingDown (.joinMonitor :: remaining))
    (hstep : performTearDown state request remaining succeeds .joinMonitor = some next) :
    Consistent next := by
  obtain ⟨hquiet, hsetup, htornDown, htearing⟩ := hconsistent.tearingDown hrequest hphase
  have hcurrent := hconsistent.current request hrequest
  simp only [performTearDown, Bool.not_eq_true'] at hstep
  split at hstep
  · rename_i hcreated
    have hnone : state.monitor.isSome = false := hconsistent.created.symm.trans hcreated
    obtain rfl := Option.some.inj hstep
    refine Consistent.of_no_monitor (by simpa using hnone) hcreated rfl hcurrent ?_
    exact ⟨hquiet.move _, hsetup, htornDown, htearing.advance id (by simp) id fun _ => hnone⟩
  · split at hstep
    · obtain rfl := Option.some.inj hstep
      refine Consistent.of_no_monitor rfl rfl rfl hcurrent ?_
      exact ⟨hquiet.move _, hsetup, htornDown,
        htearing.advance id (by simp) (by simp) fun _ => rfl⟩
    · contradiction

theorem Consistent.clearEndpoints {state next : State} {succeeds : Bool}
    (hconsistent : Consistent state) {request : Request} {remaining : List TearDownOp}
    (hrequest : state.request = some request)
    (hphase : request.phase = .tearingDown (.clearEndpoints :: remaining))
    (hstep : performTearDown state request remaining succeeds .clearEndpoints = some next) :
    Consistent next := by
  obtain ⟨hquiet, hsetup, htornDown, htearing⟩ := hconsistent.tearingDown hrequest hphase
  have hcurrent := hconsistent.current request hrequest
  have hremaining : remaining = [] := tearDownGadget_order htearing.1
  rw [hremaining] at htearing
  have hnone : state.monitor.isSome = false := htearing.2.2 (by simp)
  have hclean : functionEntries state.configDir = [] := htearing.2.1 (by simp)
  have hmonitor : state.monitor = none := by simpa using hnone
  have hcreated : state.mMonitorCreated = false := hconsistent.created.trans hnone
  obtain rfl := Option.some.inj hstep
  by_cases hfunctions : request.functions = GadgetFunction.none
  · rw [if_pos hfunctions]
    refine Consistent.of_no_monitor hmonitor hcreated rfl hcurrent ⟨?_, ?_, ?_⟩
    · exact Request.Replied.of_reply hquiet.replies
        (fun hrecorded => absurd hrecorded (by simp [hquiet.recorded]))
        (iff_of_true rfl (Or.inl ⟨hfunctions, rfl⟩))
    · exact fun hpulledUp => absurd (hquiet.pulledUp.symm.trans hpulledUp) (by simp)
    · exact fun setup hrun => absurd (hrun.symm.trans hsetup) (by simp)
  · rw [if_neg hfunctions]
    refine Consistent.of_no_monitor hmonitor hcreated rfl hcurrent ?_
    exact ⟨⟨hquiet.replies, hquiet.pulledUp, hquiet.recorded⟩, hsetup, hfunctions,
      ⟨hclean, rfl⟩, hnone⟩

theorem Consistent.tearDown {state next : State} {succeeds : Bool}
    (hconsistent : Consistent state) (hstep : tearDown state succeeds = some next) :
    Consistent next := by
  obtain ⟨request, op, remaining, hrequest, hphase, hperform⟩ := tearDown_cases hstep
  obtain ⟨_, _, _, htearing⟩ := hconsistent.tearingDown hrequest hphase
  have horder := tearDownGadget_order htearing.1
  cases op with
  | pullDown =>
      obtain rfl := Option.some.inj hperform
      exact hconsistent.tearDown_advance hrequest hphase horder
        (htearing.advance id (by simp) id (by simp))
  | writeFile path content =>
      obtain rfl := Option.some.inj hperform
      cases succeeds with
      | true =>
          exact hconsistent.tearDown_advance hrequest hphase horder
            (htearing.advance id (by simp) id (by simp))
      | false => exact hconsistent.tearDown_fail hrequest hphase horder
  | unlinkFunctions => contradiction
  | signalMonitor => exact hconsistent.signalMonitor hrequest hphase hperform
  | joinMonitor => exact hconsistent.joinMonitor hrequest hphase hperform
  | clearEndpoints => exact hconsistent.clearEndpoints hrequest hphase hperform

theorem functionEntries_filter (configDir : List ConfigEntry) (removed : List String) :
    functionEntries (configDir.filter fun entry => entry.name ∉ removed) =
      (functionEntries configDir).filter fun entry => entry.name ∉ removed := by
  simp only [functionEntries, List.filter_filter, Bool.and_comm]

theorem Consistent.unlinkFunctions {state next : State} {listing : List String}
    {failsAt : Option ℕ} (hconsistent : Consistent state)
    (hstep : unlinkFunctions state listing failsAt = some next) : Consistent next := by
  obtain ⟨request, remaining, hrequest, hphase, hlisting, hcases⟩ :=
    unlinkFunctions_cases hstep
  obtain ⟨_, _, _, htearing⟩ := hconsistent.tearingDown hrequest hphase
  have horder : TearDownOp.signalMonitor ∈ remaining := tearDownGadget_order htearing.1
  rcases hcases with ⟨_, rfl⟩ | ⟨index, _, rfl⟩
  · have hunlinked : functionEntries (state.configDir.filter fun entry =>
        entry.name ∉ listing) = [] := by
      rw [functionEntries_filter, List.filter_eq_nil_iff]
      intro entry hentry
      have hlisted : entry.name ∈ listing :=
        hlisting.mem_iff.mpr (List.mem_map_of_mem hentry)
      simpa using hlisted
    exact hconsistent.tearDown_advance hrequest hphase horder
      (htearing.advance (fun _ => hunlinked) (fun _ => hunlinked) id (by simp))
  · exact hconsistent.tearDown_fail hrequest hphase horder

/-! ## From `tearDownGadget` to `setupFunctions` -/

theorem Consistent.setVidPid {state next : State} {properties : Properties}
    {written : Bool} (hconsistent : Consistent state)
    (hstep : setVidPid state properties written = some next) : Consistent next := by
  obtain ⟨request, hrequest, hphase, hcases⟩ := setVidPid_cases hstep
  have hok := hconsistent.request request hrequest
  simp only [RequestOk, hphase] at hok
  obtain ⟨hquiet, hsetup, hfunctions, hclean⟩ := hok
  have hunjoined : ¬request.Joins := fun hjoins => hjoins.phase_ne hphase (by simp)
  rcases hcases with ⟨status, hstatus, rfl⟩ | ⟨haccepted, rfl⟩
  · refine hconsistent.request_step hrequest rfl
      (fun hjoins => absurd hjoins hunjoined) (fun _ => id) ?_
    exact ⟨hquiet.move _, hstatus, fun hnone => hfunctions hnone.1,
      fun setup hrun => absurd (hrun.symm.trans hsetup) (by simp)⟩
  · refine hconsistent.request_step hrequest rfl
      (fun hjoins => absurd hjoins hunjoined) (fun _ => id) ?_
    exact ⟨hquiet.move _, hsetup, haccepted, hclean⟩

theorem Consistent.enterSetupFunctions {state next : State} {properties : Properties}
    (hconsistent : Consistent state)
    (hstep : enterSetupFunctions state properties = some next) : Consistent next := by
  obtain ⟨request, hrequest, hphase, rfl⟩ := enterSetupFunctions_cases hstep
  have hok := hconsistent.request request hrequest
  simp only [RequestOk, hphase] at hok
  obtain ⟨hquiet, hsetup, haccepted, hclean⟩ := hok
  have hnone : state.monitor.isSome = false := hclean.2
  refine Consistent.of_no_monitor (by simpa using hnone)
    (hconsistent.created.trans hnone) rfl (hconsistent.current request hrequest) ?_
  exact ⟨⟨hquiet.replies, hquiet.pulledUp, hquiet.recorded⟩, _, ⟨rfl, rfl, haccepted⟩,
    hclean⟩

/-! ## Steps of `setupFunctions` -/

theorem Request.Runs.advance {request : Request} {vendorFunctions : String}
    {finished remaining : List SetupOp} {op : SetupOp}
    (hruns : request.Runs {
      vendorFunctions := vendorFunctions
      finished := finished
      remaining := op :: remaining })
    {moved : Request} (hfunctions : moved.functions = request.functions)
    (hsetup : moved.setup = some {
      vendorFunctions := vendorFunctions
      finished := finished ++ [op]
      remaining := remaining }) :
    moved.Runs {
      vendorFunctions := vendorFunctions
      finished := finished ++ [op]
      remaining := remaining } := by
  refine ⟨hsetup, ?_, hfunctions ▸ hruns.accepted⟩
  rw [hfunctions, ← hruns.program]
  simp

theorem SetUpTo.perform {state next : State} {request : Request}
    {finished : List SetupOp} {op : SetupOp} (hsetUp : SetUpTo state finished)
    (hstep : performSetup state request finished op = some next) :
    SetUpTo next (finished ++ [op]) := by
  obtain ⟨hlinks, hendpoints⟩ := hsetUp
  rw [SetUpTo, linkedFunctions_append, addedEndpoints_append]
  cases op with
  | linkFunction function =>
      unfold performSetup at hstep
      dsimp only at hstep
      split at hstep
      · contradiction
      · rw [Option.some.injEq] at hstep
        subst next
        have hlink : (functionLink function (linkedFunctions finished).length).isFunction =
            true := isFunction_functionLink _ _
        refine ⟨?_, ?_⟩
        · have hentries : functionEntries (state.configDir ++
                [functionLink function (linkedFunctions finished).length]) =
              functionEntries state.configDir ++
                [functionLink function (linkedFunctions finished).length] := by
            rw [functionEntries, List.filter_append, List.filter_singleton, hlink]
            rfl
          rw [hentries, hlinks, ← functionLinks_append]
          rfl
        · rw [hendpoints]
          exact (List.append_nil _).symm
  | addEndpoints endpoints =>
      obtain rfl := Option.some.inj hstep
      refine ⟨?_, ?_⟩
      · rw [hlinks]
        exact congrArg functionLinks (List.append_nil _).symm
      · rw [hendpoints]
        simp [addedEndpoints, SetupOp.endpoints]
  | _ =>
      obtain rfl := Option.some.inj hstep
      refine ⟨?_, ?_⟩
      · rw [hlinks]
        exact congrArg functionLinks (List.append_nil _).symm
      · rw [hendpoints]
        exact (List.append_nil _).symm

theorem performSetup_of_not_last {state next : State} {request : Request}
    {finished : List SetupOp} {op : SetupOp} (hlast : op.isLast = false)
    (hstep : performSetup state request finished op = some next) :
    ∃ configDir endpoints, next = { state with
      configDir := configDir
      mEndpointList := endpoints
      request := some request } := by
  cases op with
  | linkFunction function =>
      unfold performSetup at hstep
      dsimp only at hstep
      split at hstep
      · contradiction
      · exact ⟨_, _, (Option.some.inj hstep).symm⟩
  | pullUp => contradiction
  | startMonitor => contradiction
  | _ => exact ⟨_, _, (Option.some.inj hstep).symm⟩

theorem Consistent.perform {state next : State} {request : Request} {setup : Setup}
    {finished : List SetupOp} {op : SetupOp} (hconsistent : Consistent state)
    (hstep : performSetup state request finished op = some next)
    (hruns : request.Runs setup) (hfinished : setup.finished = finished ++ [op])
    (hlast : op.isLast = true → setup.remaining = [] ∧
      op = if ffsEnabled request.functions then .startMonitor else .pullUp)
    (hphase : request.phase = .settingUp) (hquiet : request.Quiet)
    (hcurrent : request.functions = state.mCurrentUsbFunctions)
    (hsetUp : SetUpTo state finished) (hnone : state.monitor.isSome = false) :
    Consistent next := by
  have hmonitor : state.monitor = none := by simpa using hnone
  have hcreated : state.mMonitorCreated = false := hconsistent.created.trans hnone
  have hnext : SetUpTo next setup.finished := hfinished ▸ hsetUp.perform hstep
  cases hop : op.isLast with
  | false =>
      obtain ⟨configDir, endpoints, rfl⟩ := performSetup_of_not_last hop hstep
      refine Consistent.of_no_monitor hmonitor hcreated rfl hcurrent ?_
      simp only [RequestOk, hphase]
      exact ⟨hquiet, setup, hruns, hnext, hnone⟩
  | true =>
      obtain ⟨hremaining, hwhich⟩ := hlast hop
      cases hffs : ffsEnabled request.functions with
      | false =>
          rw [hffs] at hwhich
          subst op
          obtain rfl := Option.some.inj hstep
          have hlinked : request.linked = true := by
            simp [Request.linked, hruns.runs, hremaining, linkedFunctions]
          refine Consistent.of_no_monitor hmonitor hcreated rfl hcurrent ⟨?_, ?_, ?_⟩
          · have hpulledUp : request.pullUp.pulledUp = true := by
              simp [Request.pullUp, hlinked]
            have hearned : request.pullUp.Earned :=
              Or.inr ⟨hpulledUp, fun hffsEnabled =>
                absurd (hffs.symm.trans hffsEnabled) (by simp)⟩
            exact Request.Replied.of_reply hquiet.replies (fun _ => hpulledUp)
              (iff_of_true rfl hearned)
          · exact fun _ => ⟨setup, hruns.runs, hremaining⟩
          · intro other hother
            obtain rfl := Option.some.inj (hruns.runs.symm.trans hother)
            rw [if_pos hremaining]
            exact ⟨hruns.congr rfl rfl, hnext, hnone.trans hffs.symm⟩
      | true =>
          rw [hffs] at hwhich
          subst op
          obtain rfl := Option.some.inj hstep
          refine ⟨rfl, ?_, ?_, ?_, ?_, ?_, ?_⟩
          · intro other hother
            obtain rfl := Option.some.inj hother
            exact hcurrent
          · intro hnever
            contradiction
          · intro monitor hstarted hstopped
            obtain rfl := Option.some.inj hstarted
            contradiction
          · intro monitor other hstarted hother hsignalled
            obtain rfl := Option.some.inj hstarted
            contradiction
          · intro monitor other hstarted hother
            obtain rfl := Option.some.inj hstarted
            obtain rfl := Option.some.inj hother
            simp only [MonitorOk, hruns.runs]
            exact ⟨trivial, hremaining, hffs, by simp⟩
          · intro other hother
            obtain rfl := Option.some.inj hother
            have hunrecorded : request.recorded = true → request.pulledUp = true :=
              fun hrecorded => absurd (hquiet.recorded.symm.trans hrecorded) (by simp)
            by_cases hcallback : request.callback = true
            · rw [if_pos hcallback]
              exact ⟨hquiet.replies, hunrecorded, hffs, rfl, hquiet.recorded.symm, setup,
                hruns.congr rfl rfl, hremaining, hnext⟩
            · rw [if_neg hcallback]
              refine ⟨⟨fun hcalled => absurd hcalled hcallback, hunrecorded⟩,
                fun _ => ⟨setup, hruns.runs, hremaining⟩, ?_⟩
              intro other hother
              obtain rfl := Option.some.inj (hruns.runs.symm.trans hother)
              rw [if_pos hremaining]
              exact ⟨hruns.congr rfl rfl, hnext, hffs.symm⟩

theorem Consistent.setup {state next : State} {succeeds : Bool}
    (hconsistent : Consistent state) (hstep : setup state succeeds = some next) :
    Consistent next := by
  obtain ⟨request, vendorFunctions, finished, op, remaining, hrequest, ⟨hphase, hrun⟩,
    hcases⟩ := setup_cases hstep
  have hok := hconsistent.request request hrequest
  simp only [RequestOk, hphase] at hok
  obtain ⟨hquiet, setup, hruns, hsetUp, hnone⟩ := hok
  obtain rfl := Option.some.inj (hrun.symm.trans hruns.runs)
  rcases hcases with ⟨_, hperform⟩ | ⟨_, rfl⟩
  · exact hconsistent.perform hperform (hruns.advance rfl rfl) rfl
      (fun hlast => setupFunctions_split hruns.accepted hruns.program hlast) hphase
      ⟨hquiet.replies, hquiet.pulledUp, hquiet.recorded⟩
      (hconsistent.current request hrequest) hsetUp hnone
  · refine Consistent.of_no_monitor (by simpa using hnone)
      (hconsistent.created.trans hnone) rfl (hconsistent.current request hrequest) ?_
    refine ⟨hquiet.move _, by simp, ?_, ?_⟩
    · exact fun hfunctions => Accepted.ne_none hruns.accepted hfunctions.1
    · intro other hother
      obtain rfl := Option.some.inj (hrun.symm.trans hother)
      exact ⟨by simp, hnone⟩

end Gadget
end Camellia.Usb

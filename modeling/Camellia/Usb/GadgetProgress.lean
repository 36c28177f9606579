import Camellia.Inevitable
import Camellia.Usb.GadgetRuns

/-!
# Requests come to an end

A request has a bounded number of operations left, and waits for nobody but the monitor
that it joins.  The monitor stops when it has been told to, so that a request can only
hang there, and only if the event that should stop the monitor could not be written.
-/

namespace Camellia.Usb
namespace Gadget

open Transition

/-! ## What is left to do -/

def Phase.order : Phase → ℕ
  | .assigning => 7
  | .tearingDown _ => 6
  | .validating => 5
  | .validated => 4
  | .settingUp => 3
  | .waiting => 2
  | .failing _ => 1
  | .returned => 0

def MonitorStage.left : MonitorStage → ℕ
  | .starting => 4
  | .pullingUp => 3
  | .pulledUp => 2
  | .watching => 1
  | .stopped => 0

/-- The operations left in the phase. -/
def Request.operations (request : Request) : ℕ :=
  match request.phase with
  | .tearingDown remaining => remaining.length
  | .settingUp => request.setup.elim 0 fun setup => setup.remaining.length
  | _ => 0

def Request.left (request : Request) : ℕ ×ₗ ℕ :=
  toLex (request.phase.order, request.operations)

def State.left (state : State) : (ℕ ×ₗ ℕ) ×ₗ ℕ :=
  toLex (state.request.elim (toLex (0, 0)) Request.left,
    state.monitor.elim 0 fun monitor => monitor.stage.left)

/-- Where there are operations to perform, there is a next one. -/
def Request.Proper (request : Request) : Prop :=
  match request.phase with
  | .tearingDown remaining => remaining ≠ []
  | .settingUp => ∀ setup, request.setup = some setup → setup.remaining ≠ []
  | _ => True

/-- The steps of the request and of the monitor, if the event for the monitor can be
written and nothing happens to the endpoint files. -/
def Serving (state : State) : Action → Prop
  | .setCurrentUsbFunctions _ _ => False
  | .reset _ => False
  | .enableUsbDataSignal _ _ => False
  | .monitorEvent _ => False
  | .tearDown succeeds => succeeds = true ∨ ∀ request, state.request = some request →
      ∀ remaining, request.phase ≠ .tearingDown (.signalMonitor :: remaining)
  | _ => True

/-- A monitor that is going to be joined has been told to stop. -/
def Joinable (state : State) : Prop :=
  ∀ request monitor, state.request = some request → state.monitor = some monitor →
    request.Joins → monitor.signalled = true

/-! ## Steps of the request -/

/-- The request has come further. -/
structure RequestMoves (state next : State) (request moved : Request) : Prop where
  before : state.request = some request
  after : next.request = some moved
  left : moved.left < request.left
  proper : moved.Proper

section
variable {state next : State} {request moved : Request}

theorem left_of_order (horder : moved.phase.order < request.phase.order) :
    moved.left < request.left :=
  Prod.Lex.toLex_lt_toLex.mpr (.inl horder)

theorem left_of_operations (horder : moved.phase.order = request.phase.order)
    (hless : moved.operations < request.operations) : moved.left < request.left :=
  Prod.Lex.toLex_lt_toLex.mpr (.inr ⟨horder, hless⟩)

theorem clearApplied_moves (hstep : clearApplied state = some next) :
    ∃ request moved, RequestMoves state next request moved := by
  obtain ⟨request, hrequest, hphase, rfl⟩ := clearApplied_cases hstep
  refine ⟨request, _, hrequest, rfl, left_of_order ?_, List.cons_ne_nil _ _⟩
  rw [hphase]
  exact Nat.lt_succ_self 6

theorem tearDownGadget_nonempty {op : TearDownOp} {remaining : List TearDownOp}
    (hsuffix : (op :: remaining) <:+ tearDownGadget) (hop : op ≠ .clearEndpoints) :
    remaining ≠ [] := by
  have hall : ∀ tail ∈ tearDownGadget.tails, ∀ op ∈ tail.head?,
      op ≠ .clearEndpoints → tail.tail ≠ [] := by
    decide
  exact hall _ ((List.mem_tails _ _).mpr hsuffix) op rfl hop

/-- The next operation of `tearDownGadget`. -/
theorem tearingDown_moves {op : TearDownOp} {remaining : List TearDownOp}
    (hrequest : state.request = some request)
    (hphase : request.phase = .tearingDown (op :: remaining)) (hremaining : remaining ≠ [])
    (hnext : next.request = some { request with phase := .tearingDown remaining }) :
    ∃ request moved, RequestMoves state next request moved := by
  refine ⟨request, _, hrequest, hnext, left_of_operations ?_ ?_, hremaining⟩
  · rw [hphase]
    rfl
  · rw [Request.operations, Request.operations, hphase]
    exact Nat.lt_succ_self _

theorem phase_moves (phase : Phase) (hrequest : state.request = some request)
    (horder : phase.order < request.phase.order)
    (hnext : next.request = some moved) (hphase : moved.phase = phase)
    (hproper : moved.Proper) : ∃ request moved, RequestMoves state next request moved :=
  ⟨request, moved, hrequest, hnext, left_of_order (hphase ▸ horder), hproper⟩

theorem tearDown_moves (hconsistent : Consistent state) {succeeds : Bool}
    (hstep : tearDown state succeeds = some next) :
    ∃ request moved, RequestMoves state next request moved := by
  obtain ⟨request, op, remaining, hrequest, hphase, hstep⟩ := tearDown_cases hstep
  obtain ⟨_, _, _, hsuffix, _⟩ := hconsistent.tearingDown hrequest hphase
  have hnonempty : op ≠ .clearEndpoints → remaining ≠ [] := tearDownGadget_nonempty hsuffix
  cases op with
  | pullDown =>
      obtain rfl := Option.some.inj hstep
      exact tearingDown_moves hrequest hphase (hnonempty nofun) rfl
  | writeFile path content =>
      obtain rfl := Option.some.inj hstep
      cases succeeds with
      | true => exact tearingDown_moves hrequest hphase (hnonempty nofun) rfl
      | false =>
          refine phase_moves (.failing .error) hrequest ?_ rfl rfl trivial
          rw [hphase]
          exact (by decide : 1 < 6)
  | unlinkFunctions => contradiction
  | signalMonitor =>
      obtain rfl := Option.some.inj hstep
      exact tearingDown_moves hrequest hphase (hnonempty nofun) rfl
  | joinMonitor =>
      unfold performTearDown at hstep
      dsimp only at hstep
      split at hstep
      · obtain rfl := Option.some.inj hstep
        exact tearingDown_moves hrequest hphase (hnonempty nofun) rfl
      · split at hstep
        · obtain rfl := Option.some.inj hstep
          exact tearingDown_moves hrequest hphase (hnonempty nofun) rfl
        · contradiction
  | clearEndpoints =>
      obtain rfl := Option.some.inj hstep
      by_cases hnone : request.functions = GadgetFunction.none
      · refine phase_moves .returned hrequest ?_ (congrArg some (if_pos hnone)) rfl
          trivial
        rw [hphase]
        exact (by decide : 0 < 6)
      · refine phase_moves .validating hrequest ?_ (congrArg some (if_neg hnone))
          rfl trivial
        rw [hphase]
        exact (by decide : 5 < 6)

theorem unlinkFunctions_moves (hconsistent : Consistent state) {listing : List String}
    {failsAt : Option ℕ} (hstep : unlinkFunctions state listing failsAt = some next) :
    ∃ request moved, RequestMoves state next request moved := by
  obtain ⟨request, remaining, hrequest, hphase, _, ⟨_, rfl⟩ | ⟨_, _, rfl⟩⟩ :=
    unlinkFunctions_cases hstep
  · obtain ⟨_, _, _, hsuffix, _⟩ := hconsistent.tearingDown hrequest hphase
    exact tearingDown_moves hrequest hphase (tearDownGadget_nonempty hsuffix nofun) rfl
  · refine phase_moves (.failing .error) hrequest ?_ rfl rfl trivial
    rw [hphase]
    exact (by decide : 1 < 6)

theorem setVidPid_moves {properties : Properties} {written : Bool}
    (hstep : setVidPid state properties written = some next) :
    ∃ request moved, RequestMoves state next request moved := by
  obtain ⟨request, hrequest, hphase, ⟨status, _, rfl⟩ | ⟨_, rfl⟩⟩ := setVidPid_cases hstep
  · refine phase_moves (.failing status) hrequest ?_ rfl rfl trivial
    rw [hphase]
    exact (by decide : 1 < 5)
  · refine phase_moves .validated hrequest ?_ rfl rfl trivial
    rw [hphase]
    exact Nat.lt_succ_self 4

theorem enterSetupFunctions_moves (hconsistent : Consistent state) {properties : Properties}
    (hstep : enterSetupFunctions state properties = some next) :
    ∃ request moved, RequestMoves state next request moved := by
  obtain ⟨request, hrequest, hphase, rfl⟩ := enterSetupFunctions_cases hstep
  have hok := hconsistent.request request hrequest
  simp only [RequestOk, hphase] at hok
  obtain ⟨before, _, hsetup⟩ :=
    setupFunctions_last hok.2.2.1 (getVendorFunctions properties)
  refine phase_moves .settingUp hrequest ?_ rfl rfl fun setup hruns => ?_
  · rw [hphase]
    exact Nat.lt_succ_self 3
  · obtain rfl := Option.some.inj hruns
    rw [hsetup]
    simp

/-- After an operation of `setupFunctions` that is not its last there is another. -/
theorem setup_nonempty {functions : Functions} (haccepted : Accepted functions)
    {vendorFunctions : String} {finished remaining : List SetupOp} {op : SetupOp}
    (hprogram : finished ++ op :: remaining = setupFunctions functions vendorFunctions)
    (hlast : op.isLast = false) : remaining ≠ [] := by
  rintro rfl
  obtain ⟨before, _, hsetup⟩ := setupFunctions_last haccepted vendorFunctions
  rw [hsetup] at hprogram
  have hsame := List.singleton_inj.mp (List.append_inj' hprogram rfl).2
  rw [hsame] at hlast
  split at hlast <;> contradiction

theorem performSetup_moves {setup : Setup} {finished : List SetupOp} {op : SetupOp}
    (hrequest : state.request = some request) (hphase : request.phase = .settingUp)
    (hstep : performSetup state moved finished op = some next)
    (hmovedPhase : moved.phase = .settingUp) (hsetup : moved.setup = some setup)
    (hless : setup.remaining.length < request.operations)
    (hremaining : op.isLast = false → setup.remaining ≠ []) :
    ∃ request moved, RequestMoves state next request moved := by
  have horder : ∀ phase : Phase, phase.order < 3 → phase.order < request.phase.order := by
    intro phase hphaseOrder
    rw [hphase]
    exact hphaseOrder
  cases hlast : op.isLast with
  | false =>
      obtain ⟨_, _, rfl⟩ := performSetup_of_not_last hlast hstep
      refine ⟨request, moved, hrequest, rfl, left_of_operations ?_ ?_, ?_⟩
      · rw [hmovedPhase, hphase]
      · rw [Request.operations, hmovedPhase, hsetup]
        exact hless
      · rw [Request.Proper, hmovedPhase]
        intro other hother
        obtain rfl := Option.some.inj (hsetup.symm.trans hother)
        exact hremaining hlast
  | true =>
      cases op with
      | pullUp =>
          obtain rfl := Option.some.inj hstep
          exact phase_moves .returned hrequest (horder .returned (by decide)) rfl rfl trivial
      | startMonitor =>
          obtain rfl := Option.some.inj hstep
          by_cases hcallback : moved.callback = true
          · refine phase_moves .waiting hrequest (horder .waiting (by decide)) rfl
              (if_pos hcallback) ?_
            simp [Request.Proper, hcallback]
          · refine phase_moves .returned hrequest (horder .returned (by decide)) rfl
              (if_neg hcallback) ?_
            simp [Request.Proper, hcallback]
      | _ => contradiction

theorem setup_moves (hconsistent : Consistent state) {succeeds : Bool}
    (hstep : setup state succeeds = some next) :
    ∃ request moved, RequestMoves state next request moved := by
  obtain ⟨request, vendorFunctions, finished, op, remaining, hrequest, ⟨hphase, hsetup⟩,
    ⟨_, hperform⟩ | ⟨_, rfl⟩⟩ := setup_cases hstep
  · have hok := hconsistent.request request hrequest
    simp only [RequestOk, hphase] at hok
    obtain ⟨_, setup, hruns, _⟩ := hok
    obtain rfl := Option.some.inj (hsetup.symm.trans hruns.runs)
    refine performSetup_moves hrequest hphase hperform hphase rfl ?_ ?_
    · rw [Request.operations, hphase, hsetup]
      exact Nat.lt_succ_self _
    · exact fun hlast => setup_nonempty hruns.accepted hruns.program hlast
  · refine phase_moves (.failing .error) hrequest ?_ rfl rfl trivial
    rw [hphase]
    exact (by decide : 1 < 3)

theorem waitEnds_moves (hstep : waitEnds state = some next) :
    ∃ request moved, RequestMoves state next request moved := by
  obtain ⟨request, hrequest, hphase, rfl⟩ := waitEnds_cases hstep
  refine phase_moves .returned hrequest ?_ rfl rfl trivial
  rw [hphase]
  exact Nat.succ_pos 1

theorem replyError_moves (hstep : replyError state = some next) :
    ∃ request moved, RequestMoves state next request moved := by
  obtain ⟨request, status, hrequest, hphase, rfl⟩ := replyError_cases hstep
  refine phase_moves .returned hrequest ?_ rfl rfl trivial
  rw [hphase]
  exact Nat.succ_pos 0

/-! ## Steps of the monitor -/

/-- The monitor leaves the request at its place. -/
structure MonitorMoves (state next : State) (monitor moved : Monitor) : Prop where
  before : state.monitor = some monitor
  after : next.monitor = some moved
  signalled : moved.signalled = monitor.signalled
  request : ∃ mark : Request → Request, next.request = state.request.map mark ∧
    ∀ request, (mark request).phase = request.phase ∧ (mark request).setup = request.setup

theorem MonitorMoves.of_same {monitor movedMonitor : Monitor}
    (hbefore : state.monitor = some monitor) (hafter : next.monitor = some movedMonitor)
    (hsignalled : movedMonitor.signalled = monitor.signalled)
    (hrequest : next.request = state.request) :
    MonitorMoves state next monitor movedMonitor :=
  ⟨hbefore, hafter, hsignalled, id, by rw [hrequest, Option.map_id_fun, id], fun _ => ⟨rfl, rfl⟩⟩

def Action.isMonitor : Action → Bool
  | .monitorStart _ | .monitorWrite _ | .monitorRecord | .monitorEvent _ | .monitorStop => true
  | _ => false

/-- An event at the endpoint files may send the monitor back. -/
theorem monitor_moves {action : Action} (hmonitor : action.isMonitor = true)
    (hstep : step state action = some next) :
    ∃ monitor moved, MonitorMoves state next monitor moved ∧
      (Serving state action → moved.stage.left < monitor.stage.left) := by
  cases action with
  | monitorStart descriptorWritten =>
      obtain ⟨monitor, hmonitor, hstage, rfl⟩ := moveMonitor_cases hstep
      refine ⟨monitor, _, .of_same hmonitor rfl rfl rfl, fun _ => ?_⟩
      rw [hstage]
      cases descriptorWritten with
      | true => exact (by decide : 3 < 4)
      | false => exact (by decide : 1 < 4)
  | monitorWrite succeeds =>
      obtain ⟨monitor, hmonitor, hstage, ⟨_, rfl⟩ | ⟨_, rfl⟩⟩ := monitorWrite_cases hstep
      · refine ⟨monitor, _, .of_same hmonitor rfl rfl rfl, fun _ => ?_⟩
        rw [hstage]
        exact (by decide : 1 < 3)
      · refine ⟨monitor, _, ⟨hmonitor, rfl, rfl, Request.pullUp, rfl, fun _ => ⟨rfl, rfl⟩⟩,
          fun _ => ?_⟩
        rw [hstage]
        exact (by decide : 2 < 3)
  | monitorRecord =>
      obtain ⟨monitor, hmonitor, hstage, rfl⟩ := monitorRecord_cases hstep
      refine ⟨monitor, _, ⟨hmonitor, rfl, rfl, _, rfl, fun _ => ⟨rfl, rfl⟩⟩, fun _ => ?_⟩
      rw [hstage]
      exact (by decide : 1 < 2)
  | monitorEvent descriptorPresent =>
      obtain ⟨monitor, hmonitor, _, rfl⟩ := moveMonitor_cases hstep
      refine ⟨monitor, _, .of_same hmonitor rfl ?_ rfl, nofun⟩
      split
      · rfl
      · split <;> rfl
  | monitorStop =>
      obtain ⟨monitor, hmonitor, hstage, _, rfl⟩ := monitorStop_cases hstep
      refine ⟨monitor, _, .of_same hmonitor rfl rfl rfl, fun _ => ?_⟩
      rw [hstage]
      exact Nat.succ_pos 0
  | _ => contradiction

def Action.isRequest : Action → Bool
  | .clearApplied | .tearDown _ | .unlinkFunctions _ _ | .validateAndSetVidPid _ _ => true
  | .enterSetupFunctions _ | .setup _ | .waitEnds | .replyError => true
  | _ => false

theorem request_moves (hconsistent : Consistent state) {action : Action}
    (hrequest : action.isRequest = true) (hstep : step state action = some next) :
    ∃ request moved, RequestMoves state next request moved := by
  cases action with
  | clearApplied => exact clearApplied_moves hstep
  | tearDown succeeds => exact tearDown_moves hconsistent hstep
  | unlinkFunctions listing failsAt => exact unlinkFunctions_moves hconsistent hstep
  | validateAndSetVidPid properties written => exact setVidPid_moves hstep
  | enterSetupFunctions properties => exact enterSetupFunctions_moves hconsistent hstep
  | setup succeeds => exact setup_moves hconsistent hstep
  | waitEnds => exact waitEnds_moves hstep
  | replyError => exact replyError_moves hstep
  | _ => contradiction

/-! ## Every request is proper -/

def State.Proper (state : State) : Prop :=
  ∀ request, state.request = some request → request.Proper

theorem Request.proper_congr (hphase : moved.phase = request.phase)
    (hsetup : moved.setup = request.setup) : moved.Proper ↔ request.Proper := by
  rw [Request.Proper, Request.Proper, hphase, hsetup]

theorem State.Proper.step (hproper : state.Proper) (hconsistent : Consistent state)
    {action : Action} (hstep : Gadget.step state action = some next) : next.Proper := by
  cases hrequest : action.isRequest with
  | true =>
      obtain ⟨request, moved, hmoves⟩ := request_moves hconsistent hrequest hstep
      intro other hother
      rw [hmoves.after, Option.some.injEq] at hother
      exact hother ▸ hmoves.proper
  | false =>
  cases hmonitor : action.isMonitor with
  | true =>
      obtain ⟨_, _, hmoves, _⟩ := monitor_moves hmonitor hstep
      obtain ⟨mark, hnext, hmark⟩ := hmoves.request
      intro other hother
      rw [hnext, Option.map_eq_some_iff] at hother
      obtain ⟨request, hbefore, rfl⟩ := hother
      exact (Request.proper_congr (hmark request).1 (hmark request).2).mpr
        (hproper request hbefore)
  | false =>
      cases action with
      | setCurrentUsbFunctions functions callback =>
          rw [Gadget.step, setCurrentUsbFunctions, Option.ite_none_right_eq_some,
            Option.some.injEq] at hstep
          obtain ⟨_, rfl⟩ := hstep
          intro request hnew
          obtain rfl := Option.some.inj hnew
          trivial
      | reset succeeds =>
          rw [Gadget.step, reset, Option.ite_none_right_eq_some, Option.some.injEq] at hstep
          obtain ⟨_, rfl⟩ := hstep
          exact hproper
      | enableUsbDataSignal enable succeeds =>
          rw [Gadget.step, enableUsbDataSignal, Option.ite_none_right_eq_some,
            Option.some.injEq] at hstep
          obtain ⟨_, rfl⟩ := hstep
          exact hproper
      | _ => contradiction

/-! ## The work gets less -/

theorem RequestMoves.left_lt (hmoves : RequestMoves state next request moved) :
    next.left < state.left := by
  rw [State.left, State.left, hmoves.before, hmoves.after]
  exact Prod.Lex.toLex_lt_toLex.mpr (.inl hmoves.left)

theorem MonitorMoves.left_lt {monitor movedMonitor : Monitor}
    (hmoves : MonitorMoves state next monitor movedMonitor)
    (hless : movedMonitor.stage.left < monitor.stage.left) : next.left < state.left := by
  obtain ⟨mark, hnext, hmark⟩ := hmoves.request
  have hsame : next.request.elim (toLex (0, 0)) Request.left =
      state.request.elim (toLex (0, 0)) Request.left := by
    rw [hnext]
    cases state.request with
    | none => rfl
    | some request =>
        simp only [Option.map_some, Option.elim_some, Request.left, Request.operations,
          (hmark request).1, (hmark request).2]
  rw [State.left, State.left, hmoves.before, hmoves.after]
  exact Prod.Lex.toLex_lt_toLex.mpr (.inr ⟨hsame, hless⟩)

theorem serving_cases {action : Action} (hserving : Serving state action) :
    action.isRequest = true ∨ action.isMonitor = true := by
  cases action with
  | setCurrentUsbFunctions functions callback => contradiction
  | reset succeeds => contradiction
  | enableUsbDataSignal enable succeeds => contradiction
  | monitorEvent descriptorPresent => contradiction
  | _ => first | exact .inl rfl | exact .inr rfl

theorem serving_left_lt (hconsistent : Consistent state) {action : Action}
    (hserving : Serving state action) (hstep : step state action = some next) :
    next.left < state.left := by
  rcases serving_cases hserving with hrequest | hmonitor
  · obtain ⟨_, _, hmoves⟩ := request_moves hconsistent hrequest hstep
    exact hmoves.left_lt
  · obtain ⟨_, _, hmoves, hless⟩ := monitor_moves hmonitor hstep
    exact hmoves.left_lt (hless hserving)

/-! ## The monitor is told to stop -/

theorem not_joins_of_phase (hphase : ∀ remaining, request.phase ≠ .tearingDown remaining) :
    ¬request.Joins := by
  rintro ⟨remaining, htearing, _⟩
  exact hphase remaining htearing

theorem joinable_of_not_joins (hnext : next.request = some moved) (hjoins : ¬moved.Joins) :
    Joinable next := by
  intro other monitor hother _ hotherJoins
  rw [hnext, Option.some.injEq] at hother
  exact absurd (hother ▸ hotherJoins) hjoins

theorem joinable_of_no_monitor (hnone : next.monitor = none) : Joinable next := by
  intro request monitor _ hmonitor
  rw [hnone] at hmonitor
  contradiction

theorem joinable_tearDown (hconsistent : Consistent state) {succeeds : Bool}
    (hserving : Serving state (.tearDown succeeds))
    (hstep : tearDown state succeeds = some next) : Joinable next := by
  obtain ⟨request, op, remaining, hrequest, hphase, hstep⟩ := tearDown_cases hstep
  obtain ⟨_, _, _, hsuffix, _⟩ := hconsistent.tearingDown hrequest hphase
  have horder := tearDownGadget_order hsuffix
  cases op with
  | pullDown =>
      obtain rfl := Option.some.inj hstep
      exact joinable_of_not_joins rfl (Request.not_joins rfl horder)
  | writeFile path content =>
      obtain rfl := Option.some.inj hstep
      refine joinable_of_not_joins rfl ?_
      cases succeeds with
      | true => exact Request.not_joins rfl horder
      | false => exact not_joins_of_phase nofun
  | unlinkFunctions => contradiction
  | signalMonitor =>
      rcases hserving with rfl | hother
      · obtain rfl := Option.some.inj hstep
        intro other monitor _ hmonitor _
        obtain ⟨before, hbefore, rfl⟩ := Option.map_eq_some_iff.mp hmonitor
        have hcreated : state.mMonitorCreated = true := by
          rw [hconsistent.created, hbefore]
          rfl
        simp [hcreated]
      · exact absurd hphase (hother request hrequest remaining)
  | joinMonitor =>
      unfold performTearDown at hstep
      dsimp only at hstep
      split at hstep
      case isTrue hcreated =>
        obtain rfl := Option.some.inj hstep
        have hsome : state.monitor.isSome = false := by
          rw [← hconsistent.created]
          simpa using hcreated
        exact joinable_of_no_monitor (by simpa using hsome)
      case isFalse =>
        split at hstep
        · obtain rfl := Option.some.inj hstep
          exact joinable_of_no_monitor rfl
        · contradiction
  | clearEndpoints =>
      obtain rfl := Option.some.inj hstep
      refine joinable_of_not_joins rfl (not_joins_of_phase fun other => ?_)
      split <;> exact nofun

/-- A request that has left `tearDownGadget` joins nobody. -/
theorem RequestMoves.joinable (hmoves : RequestMoves state next request moved)
    (horder : request.phase.order < 6) : Joinable next := by
  refine joinable_of_not_joins hmoves.after (not_joins_of_phase fun remaining hphase => ?_)
  have hless : moved.phase.order < request.phase.order ∨
      moved.phase.order = request.phase.order ∧ moved.operations < request.operations :=
    Prod.Lex.toLex_lt_toLex.mp hmoves.left
  have htearing : (Phase.tearingDown remaining).order = 6 := rfl
  rw [hphase] at hless
  omega

theorem joinable_after (hconsistent : Consistent state) {action : Action}
    (haction : action.isRequest = true) (hstep : step state action = some next)
    (hbefore : state.request = some request) {phase : Phase} (hphase : request.phase = phase)
    (horder : phase.order < 6) : Joinable next := by
  obtain ⟨other, _, hmoves⟩ := request_moves hconsistent haction hstep
  obtain rfl := Option.some.inj (hbefore.symm.trans hmoves.before)
  exact hmoves.joinable (hphase ▸ horder)

theorem joinable_request (hconsistent : Consistent state) {action : Action}
    (hrequest : action.isRequest = true) (hserving : Serving state action)
    (hstep : step state action = some next) : Joinable next := by
  cases action with
  | clearApplied =>
      obtain ⟨_, _, _, rfl⟩ := clearApplied_cases hstep
      exact joinable_of_not_joins rfl (Request.not_joins rfl (by decide))
  | tearDown succeeds => exact joinable_tearDown hconsistent hserving hstep
  | unlinkFunctions listing failsAt =>
      obtain ⟨request, remaining, hbefore, hphase, _, ⟨_, rfl⟩ | ⟨_, _, rfl⟩⟩ :=
        unlinkFunctions_cases hstep
      · obtain ⟨_, _, _, hsuffix, _⟩ := hconsistent.tearingDown hbefore hphase
        exact joinable_of_not_joins rfl (Request.not_joins rfl (tearDownGadget_order hsuffix))
      · exact joinable_of_not_joins rfl (not_joins_of_phase nofun)
  | validateAndSetVidPid properties written =>
      obtain ⟨_, hbefore, hphase, _⟩ := setVidPid_cases hstep
      exact joinable_after hconsistent hrequest hstep hbefore hphase
        (by decide : 5 < 6)
  | enterSetupFunctions properties =>
      obtain ⟨_, hbefore, hphase, _⟩ := enterSetupFunctions_cases hstep
      exact joinable_after hconsistent hrequest hstep hbefore hphase
        (by decide : 4 < 6)
  | setup succeeds =>
      obtain ⟨_, _, _, _, _, hbefore, ⟨hphase, _⟩, _⟩ := setup_cases hstep
      exact joinable_after hconsistent hrequest hstep hbefore hphase
        (by decide : 3 < 6)
  | waitEnds =>
      obtain ⟨_, hbefore, hphase, _⟩ := waitEnds_cases hstep
      exact joinable_after hconsistent hrequest hstep hbefore hphase
        (by decide : 2 < 6)
  | replyError =>
      obtain ⟨_, _, hbefore, hphase, _⟩ := replyError_cases hstep
      exact joinable_after hconsistent hrequest hstep hbefore hphase
        (by decide : 1 < 6)
  | _ => contradiction

theorem joins_map {mark : Request → Request}
    (hmark : ∀ request, (mark request).phase = request.phase) (request : Request) :
    (mark request).Joins ↔ request.Joins := by
  rw [Request.Joins, Request.Joins, hmark request]

theorem MonitorMoves.joinable_iff {monitor movedMonitor : Monitor}
    (hmoves : MonitorMoves state next monitor movedMonitor) :
    Joinable next ↔ Joinable state := by
  obtain ⟨mark, hnext, hmark⟩ := hmoves.request
  have hjoins := joins_map fun request => (hmark request).1
  constructor
  · intro hjoinable request found hrequest hfound hrequestJoins
    obtain rfl := Option.some.inj (hmoves.before.symm.trans hfound)
    rw [← hmoves.signalled]
    exact hjoinable (mark request) movedMonitor (by rw [hnext, hrequest]; rfl) hmoves.after
      ((hjoins request).mpr hrequestJoins)
  · intro hjoinable other found hother hfound hotherJoins
    obtain rfl := Option.some.inj (hmoves.after.symm.trans hfound)
    rw [hnext, Option.map_eq_some_iff] at hother
    obtain ⟨request, hrequest, rfl⟩ := hother
    rw [hmoves.signalled]
    exact hjoinable request monitor hrequest hmoves.before ((hjoins request).mp hotherJoins)

theorem joinable_step (hconsistent : Consistent state) (hjoinable : Joinable state)
    {action : Action} (hserving : Serving state action)
    (hstep : step state action = some next) : Joinable next := by
  rcases serving_cases hserving with hrequest | hmonitor
  · exact joinable_request hconsistent hrequest hserving hstep
  · obtain ⟨_, _, hmoves, _⟩ := monitor_moves hmonitor hstep
    exact hmoves.joinable_iff.mpr hjoinable

/-! ## Somebody can go on -/

def State.CanServe (state : State) : Prop :=
  ∃ action next, Serving state action ∧ step state action = some next

theorem canServe (action : Action) (hserving : Serving state action)
    (henabled : (step state action).isSome = true) : state.CanServe := by
  obtain ⟨next, hnext⟩ := Option.isSome_iff_exists.mp henabled
  exact ⟨action, next, hserving, hnext⟩

/-- A monitor that has been told to stop does so, unless it needs `mLock` and a request
has it. -/
theorem monitor_canServe {monitor : Monitor} (hmonitor : state.monitor = some monitor)
    (hsignalled : monitor.signalled = true) (hrunning : monitor.stage ≠ .stopped)
    (hlock : state.mLockFree = true) : state.CanServe := by
  cases hstage : monitor.stage with
  | starting =>
      refine canServe (.monitorStart true) trivial ?_
      simp [step, monitorStart, moveMonitor, hmonitor, hstage]
  | pullingUp =>
      refine canServe (.monitorWrite true) trivial ?_
      simp [step, monitorWrite, moveMonitor, hmonitor, hstage]
  | pulledUp =>
      refine canServe .monitorRecord trivial ?_
      simp [step, monitorRecord, moveMonitor, hmonitor, hstage, hlock]
  | watching =>
      refine canServe .monitorStop trivial ?_
      simp [step, monitorStop, moveMonitor, hmonitor, hstage, hsignalled]
  | stopped => contradiction

theorem tearDown_canServe (hconsistent : Consistent state) (hjoinable : Joinable state)
    (hrequest : state.request = some request) {op : TearDownOp} {remaining : List TearDownOp}
    (hphase : request.phase = .tearingDown (op :: remaining)) : state.CanServe := by
  obtain ⟨_, _, _, hsuffix, _⟩ := hconsistent.tearingDown hrequest hphase
  have hnext : step state (.tearDown true) =
      performTearDown state request remaining true op := by
    simp [step, tearDown, hrequest, hphase]
  cases op with
  | pullDown => exact canServe (.tearDown true) (.inl rfl) (by rw [hnext]; rfl)
  | writeFile path content => exact canServe (.tearDown true) (.inl rfl) (by rw [hnext]; rfl)
  | unlinkFunctions =>
      refine canServe
        (.unlinkFunctions ((functionEntries state.configDir).map ConfigEntry.name) none)
        trivial ?_
      simp [step, unlinkFunctions, hrequest, hphase]
  | signalMonitor => exact canServe (.tearDown true) (.inl rfl) (by rw [hnext]; rfl)
  | joinMonitor =>
      cases hmonitor : state.monitor with
      | none =>
          have hcreated : state.mMonitorCreated = false := by
            rw [hconsistent.created, hmonitor]
            rfl
          refine canServe (.tearDown true) (.inl rfl) ?_
          rw [hnext]
          simp [performTearDown, hcreated]
      | some monitor =>
          by_cases hstopped : monitor.stage = .stopped
          · refine canServe (.tearDown true) (.inl rfl) ?_
            rw [hnext]
            cases hcreated : state.mMonitorCreated <;>
              simp [performTearDown, hcreated, hmonitor, hstopped]
          · have hjoins : request.Joins := ⟨_, hphase, by
              rw [List.mem_cons, not_or]
              exact ⟨by simp, tearDownGadget_order hsuffix⟩⟩
            refine monitor_canServe hmonitor (hjoinable request monitor hrequest hmonitor hjoins)
              hstopped ?_
            simp [State.mLockFree, hrequest, hphase]
  | clearEndpoints => exact canServe (.tearDown true) (.inl rfl) (by rw [hnext]; rfl)

theorem serving_canServe (hconsistent : Consistent state) (hproper : state.Proper)
    (hjoinable : Joinable state) (hbusy : ¬state.idle = true) : state.CanServe := by
  have hsome : state.request ≠ none := by
    intro hnone
    rw [State.idle, hnone] at hbusy
    exact hbusy rfl
  obtain ⟨request, hrequest⟩ := Option.ne_none_iff_exists'.mp hsome
  have hok := hconsistent.request request hrequest
  have hready := hproper request hrequest
  cases hphase : request.phase with
  | assigning =>
      exact canServe .clearApplied trivial (by simp [step, clearApplied, hrequest, hphase])
  | tearingDown remaining =>
      rw [Request.Proper, hphase] at hready
      obtain ⟨op, rest, rfl⟩ := List.exists_cons_of_ne_nil hready
      exact tearDown_canServe hconsistent hjoinable hrequest hphase
  | validating =>
      refine canServe (.validateAndSetVidPid ⟨"", "", "", ""⟩ true) trivial ?_
      cases hids : validateAndSetVidPid request.functions (getVendorFunctions ⟨"", "", "", ""⟩)
        <;> simp [step, setVidPid, hrequest, hphase, hids]
  | validated =>
      refine canServe (.enterSetupFunctions ⟨"", "", "", ""⟩) trivial ?_
      simp [step, enterSetupFunctions, hrequest, hphase]
  | settingUp =>
      simp only [RequestOk, hphase] at hok
      obtain ⟨_, ⟨vendorFunctions, finished, remaining⟩, hruns, _⟩ := hok
      rw [Request.Proper, hphase] at hready
      obtain ⟨op, rest, rfl⟩ := List.exists_cons_of_ne_nil (hready _ hruns.runs)
      cases hfallible : op.fallible with
      | true =>
          refine canServe (.setup false) trivial ?_
          simp [step, setup, hrequest, hphase, hruns.runs, hfallible]
      | false =>
          refine canServe (.setup true) trivial ?_
          cases op <;> first
            | contradiction
            | simp [step, setup, hrequest, hphase, hruns.runs, performSetup]
  | waiting => exact canServe .waitEnds trivial (by simp [step, waitEnds, hrequest, hphase])
  | failing status =>
      exact canServe .replyError trivial (by simp [step, replyError, hrequest, hphase])
  | returned => exact absurd (by simp [State.idle, hrequest, hphase]) hbusy

/-! ## A monitor that nobody stops -/

/-- The request is at the join, and the monitor goes on. -/
theorem not_joinable_cases (hconsistent : Consistent state) (hhung : ¬Joinable state) :
    ∃ request monitor remaining, state.request = some request ∧
      state.monitor = some monitor ∧ monitor.signalled = false ∧
      request.phase = .tearingDown (.joinMonitor :: remaining) := by
  simp only [Joinable, not_forall] at hhung
  obtain ⟨request, monitor, hrequest, hmonitor, ⟨remaining, hphase, hsignal⟩, hunsignalled⟩ :=
    hhung
  obtain ⟨_, _, _, hsuffix, _, hjoined⟩ := hconsistent.tearingDown hrequest hphase
  have hjoin : .joinMonitor ∈ remaining := by
    by_contra hjoin
    have hnone := hjoined hjoin
    rw [hmonitor] at hnone
    contradiction
  have hall : ∀ tail ∈ tearDownGadget.tails, .signalMonitor ∉ tail → .joinMonitor ∈ tail →
      tail = [.joinMonitor, .clearEndpoints] := by
    decide
  have hremaining := hall remaining ((List.mem_tails _ _).mpr hsuffix) hsignal hjoin
  exact ⟨request, monitor, _, hrequest, hmonitor, by simpa using hunsignalled,
    hremaining ▸ hphase⟩

/-- At the join of such a monitor no operation of the request is enabled. -/
theorem join_blocks (hconsistent : Consistent state) {monitor : Monitor}
    (hbefore : state.request = some request) (hmonitor : state.monitor = some monitor)
    (hunsignalled : monitor.signalled = false) {remaining : List TearDownOp}
    (hphase : request.phase = .tearingDown (.joinMonitor :: remaining)) {action : Action}
    (hrequest : action.isRequest = true) : step state action = none := by
  have hcreated : state.mMonitorCreated = true := by
    rw [hconsistent.created, hmonitor]
    rfl
  have hrunning : monitor.stage ≠ .stopped := by
    intro hstopped
    rw [hconsistent.stopped monitor hmonitor hstopped] at hunsignalled
    contradiction
  cases action with
  | clearApplied => simp [step, clearApplied, hbefore, hphase]
  | tearDown succeeds =>
      simp [step, tearDown, performTearDown, hbefore, hphase, hcreated, hmonitor, hrunning]
  | unlinkFunctions listing failsAt => simp [step, unlinkFunctions, hbefore, hphase]
  | validateAndSetVidPid properties written => simp [step, setVidPid, hbefore, hphase]
  | enterSetupFunctions properties => simp [step, enterSetupFunctions, hbefore, hphase]
  | setup succeeds => simp [step, setup, hbefore, hphase]
  | waitEnds => simp [step, waitEnds, hbefore, hphase]
  | replyError => simp [step, replyError, hbefore, hphase]
  | _ => contradiction

theorem not_joinable_step (hconsistent : Consistent state) (hhung : ¬Joinable state)
    {action : Action} (hserving : Serving state action)
    (hstep : step state action = some next) : ¬Joinable next := by
  rcases serving_cases hserving with hrequest | hmonitor
  · obtain ⟨request, monitor, remaining, hbefore, hmonitor, hunsignalled, hphase⟩ :=
      not_joinable_cases hconsistent hhung
    rw [join_blocks hconsistent hbefore hmonitor hunsignalled hphase hrequest] at hstep
    contradiction
  · obtain ⟨_, _, hmoves, _⟩ := monitor_moves hmonitor hstep
    exact fun hjoinable => hhung (hmoves.joinable_iff.mp hjoinable)

theorem not_joinable_busy (hconsistent : Consistent state) (hhung : ¬Joinable state) :
    ¬state.idle = true := by
  obtain ⟨request, _, _, hrequest, _, _, hphase⟩ := not_joinable_cases hconsistent hhung
  simp [State.idle, hrequest, hphase]

end

/-- As long as nothing happens to the endpoint files and the event can be written, the
request being served returns, whatever order it and the monitor take their steps in; from
the states of a run this is so exactly unless it joins a monitor that was never told to
stop. -/
theorem requests_return_iff {functions : Functions} {configDir : List ConfigEntry}
    {actions : List Action} {state : State}
    (hrun : run step (State.initial functions configDir) actions = some state) :
    Inevitable step Serving (fun state => state.idle = true) state ↔ Joinable state := by
  have hreach : Reachable step (State.initial functions configDir) state := ⟨actions, hrun⟩
  have hgood : Consistent state ∧ state.Proper := by
    refine hreach.invariant (P := fun state => Consistent state ∧ state.Proper)
      ⟨consistent_initial functions configDir, fun _ hnone => by cases hnone⟩ ?_
    exact fun _ _ _ ⟨hconsistent, hproper⟩ hstep =>
      ⟨hconsistent.step hstep, hproper.step hconsistent hstep⟩
  obtain ⟨hconsistent, hproper⟩ := hgood
  constructor
  · intro hinevitable
    by_contra hhung
    refine not_inevitable (P := fun state => Consistent state ∧ ¬Joinable state) ?_ ?_
      ⟨hconsistent, hhung⟩ hinevitable
    · exact fun _ ⟨hconsistent, hhung⟩ => not_joinable_busy hconsistent hhung
    · exact fun _ ⟨hconsistent, hhung⟩ => .inr fun _ _ hserving hstep =>
        ⟨hconsistent.step hstep, not_joinable_step hconsistent hhung hserving hstep⟩
  · intro hjoinable
    refine Inevitable.of_rank
      (P := fun state => Consistent state ∧ state.Proper ∧ Joinable state)
      State.left ?_ ?_ ?_ state ⟨hconsistent, hproper, hjoinable⟩
    · exact fun _ _ _ ⟨hconsistent, hproper, hjoinable⟩ hserving hstep =>
        ⟨hconsistent.step hstep, hproper.step hconsistent hstep,
          joinable_step hconsistent hjoinable hserving hstep⟩
    · exact fun _ _ _ ⟨hconsistent, _⟩ hserving hstep =>
        serving_left_lt hconsistent hserving hstep
    · exact fun _ ⟨hconsistent, hproper, hjoinable⟩ hbusy =>
        serving_canServe hconsistent hproper hjoinable hbusy

def adbRequested : List Action :=
  [.setCurrentUsbFunctions GadgetFunction.adb true, .clearApplied, .tearDown true,
    .tearDown true, .tearDown true, .tearDown true, .tearDown true, .unlinkFunctions [] none,
    .tearDown true, .tearDown true, .tearDown true,
    .validateAndSetVidPid ⟨"userdebug", "", "", ""⟩ true,
    .enterSetupFunctions ⟨"userdebug", "", "", ""⟩]

def adbTakenDown : List Action :=
  [.waitEnds, .setCurrentUsbFunctions GadgetFunction.none true, .clearApplied,
    .tearDown true, .tearDown true, .tearDown true, .tearDown true, .tearDown true,
    .unlinkFunctions ["function0"] none, .tearDown false]

/-- ADB is set up and taken down again; the event for its monitor is not written. -/
def unsignalled : List Action :=
  adbRequested ++ List.replicate 10 (Action.setup true) ++ adbTakenDown

theorem requests_return_unsignalled :
    (∃ state, run step (State.initial GadgetFunction.none []) (unsignalled.take 26) =
        some state ∧ Inevitable step Serving (fun state => state.idle = true) state) ∧
      ∃ state, run step (State.initial GadgetFunction.none []) unsignalled = some state ∧
        ¬Inevitable step Serving (fun state => state.idle = true) state := by
  have hserved : (run step (State.initial GadgetFunction.none []) (unsignalled.take 26)).any
      (fun state => state.request.any fun request =>
        request.phase = .tearingDown tearDownGadget) = true := by
    decide
  have hhung : (run step (State.initial GadgetFunction.none []) unsignalled).any
      (fun state =>
        (state.request.any fun request =>
          request.phase = .tearingDown [.joinMonitor, .clearEndpoints]) &&
        state.monitor.any fun monitor => !monitor.signalled) = true := by
    decide
  simp only [Option.any_eq_true, Bool.and_eq_true, decide_eq_true_eq, Bool.not_eq_true']
    at hserved hhung
  obtain ⟨served, hrun, before, hbefore, htearing⟩ := hserved
  obtain ⟨hung, hhungRun, ⟨request, hrequest, hphase⟩, monitor, hmonitor, hunsignalled⟩ :=
    hhung
  refine ⟨⟨served, hrun, (requests_return_iff hrun).mpr ?_⟩, hung, hhungRun,
    fun hreturns => ?_⟩
  · exact joinable_of_not_joins hbefore (Request.not_joins htearing (by decide))
  · have hjoins : request.Joins := ⟨_, hphase, by decide⟩
    rw [(requests_return_iff hhungRun).mp hreturns request monitor hrequest hmonitor hjoins]
      at hunsignalled
    contradiction

end Gadget
end Camellia.Usb

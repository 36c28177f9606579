import Camellia.Transition
import Camellia.Usb.Gadget

/-!
# The gadget, its requests and its monitor

One request is served at a time; it performs its operations one by one, each of
which may fail.  The thread of `monitorFfs` that a request starts runs until a
later request stops it, and so beside the operations of that request.  `mLock`
is held by `setupFunctions` except in its wait, and by a monitor that records a
pull-up.  The file system, the properties and the clock are free to answer
anything.
-/

namespace Camellia.Usb
namespace Gadget

open Transition

inductive UdcContent where
  | none
  | gadgetName
deriving DecidableEq

/-- Where `monitorFfs` is: before its first check, about to write the UDC file, between
that write and the record under `mLock`, in its loop, or gone. -/
inductive MonitorStage where
  | starting
  | pullingUp
  | pulledUp
  | watching
  | stopped
deriving DecidableEq

/-- `request` is the number of the request that started the thread. -/
structure Monitor where
  stage : MonitorStage
  writeUdc : Bool
  signalled : Bool
  request : ℕ
deriving DecidableEq

/-- A run of `setupFunctions`, with the vendor functions it reads. -/
structure Setup where
  vendorFunctions : String
  finished : List SetupOp
  remaining : List SetupOp
deriving DecidableEq

inductive Phase where
  /-- between the assignments of `mCurrentUsbFunctions` and `mCurrentUsbFunctionsApplied` -/
  | assigning
  | tearingDown (remaining : List TearDownOp)
  | validating
  | validated
  | settingUp
  | waiting
  /-- at the label `error` -/
  | failing (status : Status)
  | returned
deriving DecidableEq

/-- A call of `setCurrentUsbFunctions`.  The last three fields are a record of what has
happened: whether `tearDownGadget` succeeded, whether this class wrote the gadget name to
the UDC file after all functions were linked, and whether the monitor of this request
recorded its pull-up before the wait ended. -/
structure Request where
  functions : Functions
  callback : Bool
  phase : Phase
  setup : Option Setup
  replies : List (Functions × Status)
  tornDown : Bool
  pulledUp : Bool
  recorded : Bool
deriving DecidableEq

/-- `udc` is the last successful write of this service to the UDC file; `requests` counts
the requests so far, of which `request` is the latest. -/
structure State where
  mMonitorCreated : Bool
  mEndpointList : List String
  mCurrentUsbFunctions : Functions
  mCurrentUsbFunctionsApplied : Bool
  gadgetPullup : Bool
  configDir : List ConfigEntry
  udc : Option UdcContent
  monitor : Option Monitor
  request : Option Request
  requests : ℕ
deriving DecidableEq

/-- The service after its start.  The constructor leaves `mCurrentUsbFunctions` as it is,
and the directory may hold links from before. -/
def State.initial (mCurrentUsbFunctions : Functions) (configDir : List ConfigEntry) :
    State where
  mMonitorCreated := false
  mEndpointList := []
  mCurrentUsbFunctions := mCurrentUsbFunctions
  mCurrentUsbFunctionsApplied := false
  gadgetPullup := false
  configDir := configDir
  udc := none
  monitor := none
  request := none
  requests := 0

def getCurrentUsbFunctions (state : State) : Functions × Status :=
  (state.mCurrentUsbFunctions,
    if state.mCurrentUsbFunctionsApplied then .functionsApplied else .functionsNotApplied)

inductive Action where
  | setCurrentUsbFunctions (functions : Functions) (callback : Bool)
  | clearApplied
  | tearDown (succeeds : Bool)
  | unlinkFunctions (listing : List String) (failsAt : Option ℕ)
  | validateAndSetVidPid (properties : Properties) (written : Bool)
  | enterSetupFunctions (properties : Properties)
  | setup (succeeds : Bool)
  | waitEnds
  | replyError
  | reset (succeeds : Bool)
  | enableUsbDataSignal (enable succeeds : Bool)
  | monitorStart (descriptorWritten : Bool)
  | monitorWrite (succeeds : Bool)
  | monitorRecord
  | monitorEvent (descriptorPresent : Bool)
  | monitorStop

/-! ## Requests -/

def Request.reply (request : Request) (status : Status) : Request :=
  { request with
    replies := request.replies ++
      if request.callback then [(request.functions, status)] else []
    phase := .returned }

/-- All functions of the request have been linked. -/
def Request.linked (request : Request) : Bool :=
  request.setup.any fun setup => linkedFunctions setup.remaining = []

def Request.pullUp (request : Request) : Request :=
  { request with pulledUp := request.pulledUp || request.linked }

/-- The monitor counts for this request while it waits and if the monitor is its `own`. -/
def Request.recordPullUp (request : Request) (own : Bool) : Request :=
  { request with recorded := request.recorded || (request.phase = .waiting && own) }

/-- No request is being served. -/
def State.idle (state : State) : Bool :=
  state.request.all fun request => request.phase = .returned

def setCurrentUsbFunctions (state : State) (functions : Functions) (callback : Bool) :
    Option State :=
  if state.idle then
    some { state with
      mCurrentUsbFunctions := functions
      request := some {
        functions := functions
        callback := callback
        phase := .assigning
        setup := none
        replies := []
        tornDown := false
        pulledUp := false
        recorded := false }
      requests := state.requests + 1 }
  else none

def clearApplied (state : State) : Option State := do
  let request ← state.request
  let .assigning := request.phase | none
  some { state with
    mCurrentUsbFunctionsApplied := false
    request := some { request with phase := .tearingDown tearDownGadget } }

/-- An operation of `tearDownGadget`, other than `unlinkFunctions`. -/
def performTearDown (state : State) (request : Request) (remaining : List TearDownOp)
    (succeeds : Bool) : TearDownOp → Option State
  | .pullDown =>
      -- a failure is only logged
      some { state with
        udc := if succeeds then some .none else state.udc
        request := some { request with phase := .tearingDown remaining } }
  | .writeFile _ _ =>
      some { state with
        request := some { request with
          phase := if succeeds then .tearingDown remaining else .failing .error } }
  | .unlinkFunctions => none
  | .signalMonitor =>
      some { state with
        monitor := state.monitor.map fun monitor =>
          if state.mMonitorCreated && succeeds then { monitor with signalled := true }
          else monitor
        request := some { request with phase := .tearingDown remaining } }
  | .joinMonitor =>
      if !state.mMonitorCreated then
        some { state with request := some { request with phase := .tearingDown remaining } }
      else if state.monitor.all fun monitor => monitor.stage = .stopped then
        some { state with
          mMonitorCreated := false
          monitor := none
          request := some { request with phase := .tearingDown remaining } }
      else none
  | .clearEndpoints =>
      let tornDown := { request with phase := .validating, tornDown := true }
      some { state with
        mEndpointList := []
        request := some
          (if request.functions = GadgetFunction.none then tornDown.reply .success
          else tornDown) }

def tearDown (state : State) (succeeds : Bool) : Option State := do
  let request ← state.request
  let .tearingDown (op :: remaining) := request.phase | none
  performTearDown state request remaining succeeds op

def functionEntries (configDir : List ConfigEntry) : List ConfigEntry :=
  configDir.filter ConfigEntry.isFunction

/-- `unlinkFunctions` meets every function entry once, in the order of `listing`, and stops
at the first that it cannot remove; `some 0` is also a failure of `opendir`. -/
def unlinkFunctions (state : State) (listing : List String) (failsAt : Option ℕ) :
    Option State := do
  let request ← state.request
  let .tearingDown (.unlinkFunctions :: remaining) := request.phase | none
  if listing.Perm ((functionEntries state.configDir).map ConfigEntry.name) then
    match failsAt with
    | none =>
        some { state with
          configDir := state.configDir.filter fun entry => entry.name ∉ listing
          request := some { request with phase := .tearingDown remaining } }
    | some index =>
        some { state with
          configDir := state.configDir.filter fun entry => entry.name ∉ listing.take index
          request := some { request with phase := .failing .error } }
  else none

/-- `written` tells whether both files of the identity could be written. -/
def setVidPid (state : State) (properties : Properties) (written : Bool) :
    Option State := do
  let request ← state.request
  let .validating := request.phase | none
  match validateAndSetVidPid request.functions (getVendorFunctions properties) with
  | none =>
      some { state with
        request := some { request with phase := .failing .configurationNotSupported } }
  | some _ =>
      some { state with
        request := some { request with
          phase := if written then .validated else .failing .error } }

def enterSetupFunctions (state : State) (properties : Properties) : Option State := do
  let request ← state.request
  let .validated := request.phase | none
  let vendorFunctions := getVendorFunctions properties
  some { state with
    request := some { request with
      phase := .settingUp
      setup := some {
        vendorFunctions := vendorFunctions
        finished := []
        remaining := setupFunctions request.functions vendorFunctions } } }

/-- The effect of one successful operation of `setupFunctions`; `finished` are the ones
before it. -/
def performSetup (state : State) (request : Request) (finished : List SetupOp) :
    SetupOp → Option State
  | .linkFunction function =>
      let link := functionLink function (linkedFunctions finished).length
      if link.name ∈ state.configDir.map ConfigEntry.name then none
      else some { state with
        configDir := state.configDir ++ [link]
        request := some request }
  | .addEndpoints endpoints =>
      some { state with
        mEndpointList := state.mEndpointList ++ endpoints
        request := some request }
  | .pullUp =>
      some { state with
        udc := some .gadgetName
        mCurrentUsbFunctionsApplied := true
        request := some (request.pullUp.reply .success) }
  | .startMonitor =>
      some { state with
        gadgetPullup := false
        monitor := some {
          stage := .starting
          writeUdc := true
          signalled := false
          request := state.requests }
        mMonitorCreated := true
        request := some { request with
          phase := if request.callback then .waiting else .returned } }
  | _ => some { state with request := some request }

def setup (state : State) (succeeds : Bool) : Option State := do
  let request ← state.request
  let .settingUp := request.phase | none
  let { vendorFunctions, finished, remaining := op :: remaining } ← request.setup | none
  if succeeds || !op.fallible then
    performSetup state
      { request with
        setup := some {
          vendorFunctions := vendorFunctions
          finished := finished ++ [op]
          remaining := remaining } }
      finished op
  else some { state with request := some { request with phase := .failing .error } }

/-- The wait ends, because a monitor has notified it or because its time is over. -/
def waitEnds (state : State) : Option State := do
  let request ← state.request
  let .waiting := request.phase | none
  some { state with
    request := some (request.reply (if state.gadgetPullup then .success else .error)) }

def replyError (state : State) : Option State := do
  let request ← state.request
  let .failing status := request.phase | none
  some { state with request := some (request.reply status) }

/-! ## Operations between requests -/

def reset (state : State) (succeeds : Bool) : Option State :=
  if state.idle then
    some { state with udc := if succeeds then some .none else state.udc }
  else none

/-- The write to the UDC file in `Usb::enableUsbDataSignal`. -/
def enableUsbDataSignal (state : State) (enable succeeds : Bool) : Option State :=
  if state.idle then
    some { state with
      udc :=
        if succeeds then some (if enable then .gadgetName else .none) else state.udc }
  else none

/-! ## The monitor -/

def moveMonitor (state : State) (stage : MonitorStage) (next : Monitor → Monitor) :
    Option State := do
  let monitor ← state.monitor
  if monitor.stage = stage then some { state with monitor := some (next monitor) } else none

def monitorStart (state : State) (descriptorWritten : Bool) : Option State :=
  moveMonitor state .starting fun monitor =>
    { monitor with stage := if descriptorWritten then .pullingUp else .watching }

def monitorWrite (state : State) (succeeds : Bool) : Option State := do
  let next ← moveMonitor state .pullingUp fun monitor =>
    { monitor with stage := if succeeds then .pulledUp else .watching }
  if succeeds then
    some { next with
      udc := some .gadgetName
      request := state.request.map Request.pullUp }
  else some next

def State.mLockFree (state : State) : Bool :=
  state.request.all fun request => request.phase ≠ .settingUp

def monitorRecord (state : State) : Option State := do
  let monitor ← state.monitor
  let next ← moveMonitor state .pulledUp fun monitor =>
    { monitor with stage := .watching, writeUdc := false }
  if state.mLockFree then
    some { next with
      mCurrentUsbFunctionsApplied := true
      gadgetPullup := true
      request := state.request.map fun request =>
        request.recordPullUp (monitor.request = state.requests) }
  else none

def monitorEvent (state : State) (descriptorPresent : Bool) : Option State :=
  moveMonitor state .watching fun monitor =>
    if !descriptorPresent && !monitor.writeUdc then { monitor with writeUdc := true }
    else if descriptorPresent && monitor.writeUdc then { monitor with stage := .pullingUp }
    else monitor

def monitorStop (state : State) : Option State := do
  let monitor ← state.monitor
  if monitor.signalled then
    moveMonitor state .watching fun monitor => { monitor with stage := .stopped }
  else none

def step (state : State) : Action → Option State
  | .setCurrentUsbFunctions functions callback =>
      setCurrentUsbFunctions state functions callback
  | .clearApplied => clearApplied state
  | .tearDown succeeds => tearDown state succeeds
  | .unlinkFunctions listing failsAt => unlinkFunctions state listing failsAt
  | .validateAndSetVidPid properties written => setVidPid state properties written
  | .enterSetupFunctions properties => enterSetupFunctions state properties
  | .setup succeeds => setup state succeeds
  | .waitEnds => waitEnds state
  | .replyError => replyError state
  | .reset succeeds => reset state succeeds
  | .enableUsbDataSignal enable succeeds => enableUsbDataSignal state enable succeeds
  | .monitorStart descriptorWritten => monitorStart state descriptorWritten
  | .monitorWrite succeeds => monitorWrite state succeeds
  | .monitorRecord => monitorRecord state
  | .monitorEvent descriptorPresent => monitorEvent state descriptorPresent
  | .monitorStop => monitorStop state

/-! ## Where a step is enabled and what it does -/

theorem clearApplied_cases {state next : State} (hstep : clearApplied state = some next) :
    ∃ request, state.request = some request ∧ request.phase = .assigning ∧
      next = { state with
        mCurrentUsbFunctionsApplied := false
        request := some { request with phase := .tearingDown tearDownGadget } } := by
  unfold clearApplied at hstep
  simp only [Option.bind_eq_bind, Option.bind_eq_some_iff] at hstep
  obtain ⟨request, hrequest, hstep⟩ := hstep
  split at hstep
  · rename_i hphase
    exact ⟨request, hrequest, hphase, (Option.some.inj hstep).symm⟩
  · contradiction

theorem tearDown_cases {state next : State} {succeeds : Bool}
    (hstep : tearDown state succeeds = some next) :
    ∃ request op remaining, state.request = some request ∧
      request.phase = .tearingDown (op :: remaining) ∧
      performTearDown state request remaining succeeds op = some next := by
  unfold tearDown at hstep
  simp only [Option.bind_eq_bind, Option.bind_eq_some_iff] at hstep
  obtain ⟨request, hrequest, hstep⟩ := hstep
  split at hstep
  · rename_i op remaining hphase
    exact ⟨request, op, remaining, hrequest, hphase, hstep⟩
  · contradiction

theorem unlinkFunctions_cases {state next : State} {listing : List String}
    {failsAt : Option ℕ} (hstep : unlinkFunctions state listing failsAt = some next) :
    ∃ request remaining, state.request = some request ∧
      request.phase = .tearingDown (.unlinkFunctions :: remaining) ∧
      listing.Perm ((functionEntries state.configDir).map ConfigEntry.name) ∧
      ((failsAt = none ∧ next = { state with
          configDir := state.configDir.filter fun entry => entry.name ∉ listing
          request := some { request with phase := .tearingDown remaining } }) ∨
        ∃ index, failsAt = some index ∧ next = { state with
          configDir := state.configDir.filter fun entry => entry.name ∉ listing.take index
          request := some { request with phase := .failing .error } }) := by
  unfold unlinkFunctions at hstep
  simp only [Option.bind_eq_bind, Option.bind_eq_some_iff] at hstep
  obtain ⟨request, hrequest, hstep⟩ := hstep
  split at hstep
  · rename_i remaining hphase
    split at hstep
    · rename_i hlisting
      refine ⟨request, remaining, hrequest, hphase, hlisting, ?_⟩
      cases failsAt with
      | none => exact Or.inl ⟨rfl, (Option.some.inj hstep).symm⟩
      | some index => exact Or.inr ⟨index, rfl, (Option.some.inj hstep).symm⟩
    · contradiction
  · contradiction

theorem setVidPid_cases {state next : State} {properties : Properties} {written : Bool}
    (hstep : setVidPid state properties written = some next) :
    ∃ request, state.request = some request ∧ request.phase = .validating ∧
      ((∃ status, status ≠ .success ∧ next = { state with
          request := some { request with phase := .failing status } }) ∨
        Accepted request.functions ∧ next = { state with
          request := some { request with phase := .validated } }) := by
  unfold setVidPid at hstep
  simp only [Option.bind_eq_bind, Option.bind_eq_some_iff] at hstep
  obtain ⟨request, hrequest, hstep⟩ := hstep
  split at hstep
  · rename_i hphase
    refine ⟨request, hrequest, hphase, ?_⟩
    split at hstep
    · exact Or.inl ⟨_, by simp, (Option.some.inj hstep).symm⟩
    · rename_i ids hids
      cases written with
      | true =>
          exact Or.inr ⟨⟨_, Option.isSome_iff_exists.mpr ⟨ids, hids⟩⟩,
            (Option.some.inj hstep).symm⟩
      | false => exact Or.inl ⟨.error, by simp, (Option.some.inj hstep).symm⟩
  · contradiction

theorem enterSetupFunctions_cases {state next : State} {properties : Properties}
    (hstep : enterSetupFunctions state properties = some next) :
    ∃ request, state.request = some request ∧ request.phase = .validated ∧
      next = { state with
        request := some { request with
          phase := .settingUp
          setup := some {
            vendorFunctions := getVendorFunctions properties
            finished := []
            remaining :=
              setupFunctions request.functions (getVendorFunctions properties) } } } := by
  unfold enterSetupFunctions at hstep
  simp only [Option.bind_eq_bind, Option.bind_eq_some_iff] at hstep
  obtain ⟨request, hrequest, hstep⟩ := hstep
  split at hstep
  · rename_i hphase
    exact ⟨request, hrequest, hphase, (Option.some.inj hstep).symm⟩
  · contradiction

/-- A request at an operation `op` of `setupFunctions`. -/
def Request.At (request : Request) (vendorFunctions : String) (finished : List SetupOp)
    (op : SetupOp) (remaining : List SetupOp) : Prop :=
  request.phase = .settingUp ∧ request.setup = some {
    vendorFunctions := vendorFunctions
    finished := finished
    remaining := op :: remaining }

theorem setup_cases {state next : State} {succeeds : Bool}
    (hstep : setup state succeeds = some next) :
    ∃ request vendorFunctions finished op remaining, state.request = some request ∧
      request.At vendorFunctions finished op remaining ∧
      ((succeeds || !op.fallible) = true ∧
          performSetup state
            { request with
              setup := some {
                vendorFunctions := vendorFunctions
                finished := finished ++ [op]
                remaining := remaining } }
            finished op = some next ∨
        (succeeds || !op.fallible) = false ∧
          next = { state with
            request := some { request with phase := .failing .error } }) := by
  unfold setup at hstep
  simp only [Option.bind_eq_bind, Option.bind_eq_some_iff] at hstep
  obtain ⟨request, hrequest, hstep⟩ := hstep
  split at hstep
  · rename_i hphase
    rw [Option.bind_eq_some_iff] at hstep
    obtain ⟨setup, hsetup, hstep⟩ := hstep
    split at hstep
    · rename_i vendorFunctions finished op remaining
      refine ⟨request, vendorFunctions, finished, op, remaining, hrequest,
        ⟨hphase, hsetup⟩, ?_⟩
      split at hstep
      · rename_i hsucceeds
        exact Or.inl ⟨hsucceeds, hstep⟩
      · rename_i hfails
        exact Or.inr ⟨Bool.not_eq_true _ ▸ hfails, (Option.some.inj hstep).symm⟩
    · contradiction
  · contradiction

theorem waitEnds_cases {state next : State} (hstep : waitEnds state = some next) :
    ∃ request, state.request = some request ∧ request.phase = .waiting ∧
      next = { state with
        request := some
          (request.reply (if state.gadgetPullup then .success else .error)) } := by
  unfold waitEnds at hstep
  simp only [Option.bind_eq_bind, Option.bind_eq_some_iff] at hstep
  obtain ⟨request, hrequest, hstep⟩ := hstep
  split at hstep
  · rename_i hphase
    exact ⟨request, hrequest, hphase, (Option.some.inj hstep).symm⟩
  · contradiction

theorem replyError_cases {state next : State} (hstep : replyError state = some next) :
    ∃ request status, state.request = some request ∧ request.phase = .failing status ∧
      next = { state with request := some (request.reply status) } := by
  unfold replyError at hstep
  simp only [Option.bind_eq_bind, Option.bind_eq_some_iff] at hstep
  obtain ⟨request, hrequest, hstep⟩ := hstep
  split at hstep
  · rename_i status hphase
    exact ⟨request, status, hrequest, hphase, (Option.some.inj hstep).symm⟩
  · contradiction

theorem moveMonitor_cases {state next : State} {stage : MonitorStage}
    {move : Monitor → Monitor} (hstep : moveMonitor state stage move = some next) :
    ∃ monitor, state.monitor = some monitor ∧ monitor.stage = stage ∧
      next = { state with monitor := some (move monitor) } := by
  unfold moveMonitor at hstep
  simp only [Option.bind_eq_bind, Option.bind_eq_some_iff] at hstep
  obtain ⟨monitor, hmonitor, hstep⟩ := hstep
  split at hstep
  · rename_i hstage
    exact ⟨monitor, hmonitor, hstage, (Option.some.inj hstep).symm⟩
  · contradiction

theorem monitorWrite_cases {state next : State} {succeeds : Bool}
    (hstep : monitorWrite state succeeds = some next) :
    ∃ monitor, state.monitor = some monitor ∧ monitor.stage = .pullingUp ∧
      (succeeds = false ∧
          next = { state with monitor := some { monitor with stage := .watching } } ∨
        succeeds = true ∧ next = { state with
          monitor := some { monitor with stage := .pulledUp }
          udc := some .gadgetName
          request := state.request.map Request.pullUp }) := by
  unfold monitorWrite at hstep
  simp only [Option.bind_eq_bind, Option.bind_eq_some_iff] at hstep
  obtain ⟨written, hwritten, hstep⟩ := hstep
  obtain ⟨monitor, hmonitor, hstage, rfl⟩ := moveMonitor_cases hwritten
  refine ⟨monitor, hmonitor, hstage, ?_⟩
  cases succeeds with
  | false => exact Or.inl ⟨rfl, (Option.some.inj hstep).symm⟩
  | true => exact Or.inr ⟨rfl, (Option.some.inj hstep).symm⟩

theorem monitorRecord_cases {state next : State}
    (hstep : monitorRecord state = some next) :
    ∃ monitor, state.monitor = some monitor ∧ monitor.stage = .pulledUp ∧
      next = { state with
        monitor := some { monitor with stage := .watching, writeUdc := false }
        mCurrentUsbFunctionsApplied := true
        gadgetPullup := true
        request := state.request.map fun request =>
          request.recordPullUp (monitor.request = state.requests) } := by
  unfold monitorRecord at hstep
  simp only [Option.bind_eq_bind, Option.bind_eq_some_iff] at hstep
  obtain ⟨monitor, hmonitor, moved, hmoved, hstep⟩ := hstep
  obtain ⟨recording, hrecording, hstage, rfl⟩ := moveMonitor_cases hmoved
  obtain rfl := Option.some.inj (hmonitor.symm.trans hrecording)
  split at hstep
  · exact ⟨monitor, hmonitor, hstage, (Option.some.inj hstep).symm⟩
  · contradiction

theorem monitorStop_cases {state next : State} (hstep : monitorStop state = some next) :
    ∃ monitor, state.monitor = some monitor ∧ monitor.stage = .watching ∧
      monitor.signalled = true ∧
      next = { state with monitor := some { monitor with stage := .stopped } } := by
  unfold monitorStop at hstep
  simp only [Option.bind_eq_bind, Option.bind_eq_some_iff] at hstep
  obtain ⟨monitor, hmonitor, hstep⟩ := hstep
  split at hstep
  · rename_i hsignalled
    obtain ⟨stopping, hstopping, hstage, rfl⟩ := moveMonitor_cases hstep
    obtain rfl := Option.some.inj (hmonitor.symm.trans hstopping)
    exact ⟨monitor, hmonitor, hstage, hsignalled, rfl⟩
  · contradiction

end Gadget
end Camellia.Usb

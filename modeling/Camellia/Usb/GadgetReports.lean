import Camellia.Usb.GadgetRuns

/-!
# What the service reports of the gadget

`getCurrentUsbFunctions` answers from `mCurrentUsbFunctions` and
`mCurrentUsbFunctionsApplied`, which the requests and the monitors write, while
the UDC file is written by these, by `reset` and by `enableUsbDataSignal`.  This
file says once what each step does to the flag and to the file.
-/

namespace Camellia.Usb
namespace Gadget

open Transition

/-! ## What a step does to the report -/

def State.nextTearDownOp (state : State) : Option TearDownOp := do
  let request ← state.request
  let .tearingDown (op :: _) := request.phase | none
  some op

def State.nextSetupOp (state : State) : Option SetupOp := do
  let request ← state.request
  let .settingUp := request.phase | none
  let setup ← request.setup
  setup.remaining.head?

/-- The latest request has been pulled up. -/
def State.pulledUp (state : State) : Bool := state.request.any Request.pulledUp

/-- The step writes `none` to the UDC file. -/
def pullsDown (state : State) : Action → Bool
  | .tearDown succeeds => succeeds && state.nextTearDownOp = some .pullDown
  | .reset succeeds => succeeds
  | .enableUsbDataSignal enable succeeds => !enable && succeeds
  | _ => false

/-- The step writes the gadget name to the UDC file. -/
def pullsUp (state : State) : Action → Bool
  | .setup succeeds => succeeds && state.nextSetupOp = some .pullUp
  | .enableUsbDataSignal enable succeeds => enable && succeeds
  | .monitorWrite succeeds => succeeds
  | _ => false

/-- The step sets `mCurrentUsbFunctionsApplied`. -/
def applies (state : State) : Action → Bool
  | .setup succeeds => succeeds && state.nextSetupOp = some .pullUp
  | .monitorRecord => true
  | _ => false

def udcAfter (state : State) (action : Action) : Option UdcContent :=
  if pullsDown state action then some .none
  else if pullsUp state action then some .gadgetName
  else state.udc

def appliedAfter (state : State) : Action → Bool
  | .clearApplied => false
  | action => applies state action || state.mCurrentUsbFunctionsApplied

def requestsAfter (state : State) : Action → ℕ
  | .setCurrentUsbFunctions _ _ => state.requests + 1
  | _ => state.requests

/-- The latest request is between its two assignments. -/
def State.assigning (state : State) : Bool :=
  state.request.any fun request => request.phase = .assigning

def assigningAfter (state : State) : Action → Bool
  | .setCurrentUsbFunctions _ _ => true
  | .clearApplied => false
  | _ => state.assigning

/-- A monitor has written the gadget name and not yet recorded this. -/
def State.recording (state : State) : Bool :=
  state.monitor.any fun monitor => monitor.stage = .pulledUp

def recordingAfter (state : State) : Action → Bool
  | .setup _ => state.recording && state.nextSetupOp ≠ some .startMonitor
  | .monitorWrite succeeds => succeeds
  | .monitorRecord => false
  | _ => state.recording

/-- What a step does to the report and to all that it depends on.  A request keeps the
record that it has been pulled up. -/
structure Reports (state : State) (action : Action) (next : State) : Prop where
  udc : next.udc = udcAfter state action
  applied : next.mCurrentUsbFunctionsApplied = appliedAfter state action
  requests : next.requests = requestsAfter state action
  assigning : next.assigning = assigningAfter state action
  recording : next.recording = recordingAfter state action
  pulledUp : next.requests = state.requests → state.pulledUp = true → next.pulledUp = true

theorem State.recording_of_some {state : State} {monitor : Monitor}
    (hmonitor : state.monitor = some monitor) :
    state.recording = decide (monitor.stage = .pulledUp) := by
  rw [State.recording, hmonitor]
  rfl

/-- A step after which the request is in another phase. -/
theorem Reports.of_moved {state next : State} {action : Action} {request moved : Request}
    (hrequest : state.request = some request) (hmoved : next.request = some moved)
    (hpulledUp : request.pulledUp = true → moved.pulledUp = true)
    (hbefore : request.phase ≠ .assigning) (hafter : moved.phase ≠ .assigning)
    (hudc : next.udc = udcAfter state action)
    (happlied : next.mCurrentUsbFunctionsApplied = appliedAfter state action)
    (hrequests : next.requests = requestsAfter state action)
    (hassigning : assigningAfter state action = state.assigning)
    (hrecording : next.recording = recordingAfter state action) :
    Reports state action next := by
  refine ⟨hudc, happlied, hrequests, ?_, hrecording, fun _ => ?_⟩
  · rw [hassigning]
    simp [State.assigning, hrequest, hmoved, hbefore, hafter]
  · simpa [State.pulledUp, hrequest, hmoved] using hpulledUp

theorem setCurrentUsbFunctions_reports {state next : State} {functions : Functions}
    {callback : Bool}
    (hstep : setCurrentUsbFunctions state functions callback = some next) :
    Reports state (.setCurrentUsbFunctions functions callback) next := by
  unfold setCurrentUsbFunctions at hstep
  split at hstep
  · obtain rfl := Option.some.inj hstep
    exact ⟨rfl, rfl, rfl, rfl, rfl, fun hsame => absurd hsame (Nat.succ_ne_self _)⟩
  · contradiction

theorem clearApplied_reports {state next : State}
    (hstep : clearApplied state = some next) : Reports state .clearApplied next := by
  obtain ⟨request, hrequest, _, rfl⟩ := clearApplied_cases hstep
  refine ⟨rfl, rfl, rfl, by simp [State.assigning, assigningAfter], rfl,
    fun _ hbefore => ?_⟩
  simpa [State.pulledUp, hrequest] using hbefore

theorem tearDown_reports {state next : State} {succeeds : Bool}
    (hstep : tearDown state succeeds = some next) :
    Reports state (.tearDown succeeds) next := by
  obtain ⟨request, op, remaining, hrequest, hphase, hperform⟩ := tearDown_cases hstep
  have hop : state.nextTearDownOp = some op := by
    simp [State.nextTearDownOp, hrequest, hphase]
  have hbefore : request.phase ≠ .assigning := by simp [hphase]
  cases op with
  | pullDown =>
      obtain rfl := Option.some.inj hperform
      refine .of_moved hrequest rfl id hbefore (by simp) ?_ rfl rfl rfl rfl
      simp [udcAfter, pullsDown, pullsUp, hop]
  | writeFile path content =>
      obtain rfl := Option.some.inj hperform
      refine .of_moved hrequest rfl id hbefore (by cases succeeds <;> simp) ?_ rfl rfl rfl rfl
      simp [udcAfter, pullsDown, pullsUp, hop]
  | unlinkFunctions => contradiction
  | signalMonitor =>
      obtain rfl := Option.some.inj hperform
      refine .of_moved hrequest rfl id hbefore (by simp) ?_ rfl rfl rfl ?_
      · simp [udcAfter, pullsDown, pullsUp, hop]
      · simp only [State.recording, recordingAfter, Option.any_map]
        refine congrArg (Option.any · state.monitor) (funext fun monitor => ?_)
        split <;> rfl
  | joinMonitor =>
      have hudc : state.udc = udcAfter state (.tearDown succeeds) := by
        simp [udcAfter, pullsDown, pullsUp, hop]
      simp only [performTearDown] at hperform
      split at hperform
      · obtain rfl := Option.some.inj hperform
        exact .of_moved hrequest rfl id hbefore (by simp) hudc rfl rfl rfl rfl
      · split at hperform
        · rename_i hstopped
          have hunrecorded : state.recording = false := by
            cases hmonitor : state.monitor with
            | none => simp [State.recording, hmonitor]
            | some monitor =>
                rw [hmonitor] at hstopped
                have hstage : monitor.stage = .stopped := of_decide_eq_true hstopped
                rw [State.recording_of_some hmonitor, hstage]
                rfl
          obtain rfl := Option.some.inj hperform
          exact .of_moved hrequest rfl id hbefore (by simp) hudc rfl rfl rfl hunrecorded.symm
        · contradiction
  | clearEndpoints =>
      obtain rfl := Option.some.inj hperform
      refine .of_moved hrequest rfl ?_ hbefore ?_ ?_ rfl rfl rfl rfl
      · split
        · exact id
        · exact id
      · split
        · simp [Request.reply]
        · simp
      · simp [udcAfter, pullsDown, pullsUp, hop]

theorem unlinkFunctions_reports {state next : State} {listing : List String}
    {failsAt : Option ℕ} (hstep : unlinkFunctions state listing failsAt = some next) :
    Reports state (.unlinkFunctions listing failsAt) next := by
  obtain ⟨request, remaining, hrequest, hphase, _, hcases⟩ := unlinkFunctions_cases hstep
  rcases hcases with ⟨_, rfl⟩ | ⟨index, _, rfl⟩
  · exact .of_moved hrequest rfl id (by simp [hphase]) (by simp) rfl rfl rfl rfl rfl
  · exact .of_moved hrequest rfl id (by simp [hphase]) (by simp) rfl rfl rfl rfl rfl

theorem setVidPid_reports {state next : State} {properties : Properties} {written : Bool}
    (hstep : setVidPid state properties written = some next) :
    Reports state (.validateAndSetVidPid properties written) next := by
  obtain ⟨request, hrequest, hphase, hcases⟩ := setVidPid_cases hstep
  rcases hcases with ⟨status, _, rfl⟩ | ⟨_, rfl⟩
  · exact .of_moved hrequest rfl id (by simp [hphase]) (by simp) rfl rfl rfl rfl rfl
  · exact .of_moved hrequest rfl id (by simp [hphase]) (by simp) rfl rfl rfl rfl rfl

theorem enterSetupFunctions_reports {state next : State} {properties : Properties}
    (hstep : enterSetupFunctions state properties = some next) :
    Reports state (.enterSetupFunctions properties) next := by
  obtain ⟨request, hrequest, hphase, rfl⟩ := enterSetupFunctions_cases hstep
  exact .of_moved hrequest rfl id (by simp [hphase]) (by simp) rfl rfl rfl rfl rfl

theorem setup_reports {state next : State} {succeeds : Bool}
    (hstep : setup state succeeds = some next) : Reports state (.setup succeeds) next := by
  obtain ⟨request, vendorFunctions, finished, op, remaining, hrequest, ⟨hphase, hrun⟩,
    hcases⟩ := setup_cases hstep
  have hop : state.nextSetupOp = some op := by
    simp [State.nextSetupOp, hrequest, hphase, hrun]
  have hbefore : request.phase ≠ .assigning := by simp [hphase]
  rcases hcases with ⟨hsucceeds, hperform⟩ | ⟨hfails, rfl⟩
  · cases hlast : op.isLast with
    | false =>
        obtain ⟨configDir, endpoints, rfl⟩ := performSetup_of_not_last hlast hperform
        have hother : op ≠ .pullUp := by
          rintro rfl
          contradiction
        have hnostart : op ≠ .startMonitor := by
          rintro rfl
          contradiction
        refine .of_moved hrequest rfl id hbefore hbefore ?_ ?_ rfl rfl ?_
        · simp [udcAfter, pullsDown, pullsUp, hop, hother]
        · simp [appliedAfter, applies, hop, hother]
        · simp [State.recording, recordingAfter, hop, hnostart]
    | true =>
        cases op with
        | pullUp =>
            have hwritten : succeeds = true := by simpa [SetupOp.fallible] using hsucceeds
            obtain rfl := Option.some.inj hperform
            refine .of_moved hrequest rfl ?_ hbefore (by simp [Request.reply]) ?_ ?_ rfl rfl ?_
            · intro hpulledUp
              simp [Request.reply, Request.pullUp, hpulledUp]
            · simp [udcAfter, pullsDown, pullsUp, hop, hwritten]
            · simp [appliedAfter, applies, hop, hwritten]
            · simp [State.recording, recordingAfter, hop]
        | startMonitor =>
            obtain rfl := Option.some.inj hperform
            refine .of_moved hrequest rfl id hbefore ?_ ?_ ?_ rfl rfl ?_
            · dsimp only
              split <;> simp
            · simp [udcAfter, pullsDown, pullsUp, hop]
            · simp [appliedAfter, applies, hop]
            · simp [State.recording, recordingAfter, hop]
        | _ => contradiction
  · have hfailed : succeeds = false := by
      cases succeeds with
      | false => rfl
      | true => contradiction
    subst succeeds
    have hnostart : op ≠ .startMonitor := by
      rintro rfl
      contradiction
    refine .of_moved hrequest rfl id hbefore (by simp) rfl rfl rfl rfl ?_
    simp [State.recording, recordingAfter, hop, hnostart]

theorem waitEnds_reports {state next : State} (hstep : waitEnds state = some next) :
    Reports state .waitEnds next := by
  obtain ⟨request, hrequest, hphase, rfl⟩ := waitEnds_cases hstep
  exact .of_moved hrequest rfl id (by simp [hphase]) (by simp [Request.reply])
    rfl rfl rfl rfl rfl

theorem replyError_reports {state next : State} (hstep : replyError state = some next) :
    Reports state .replyError next := by
  obtain ⟨request, status, hrequest, hphase, rfl⟩ := replyError_cases hstep
  exact .of_moved hrequest rfl id (by simp [hphase]) (by simp [Request.reply])
    rfl rfl rfl rfl rfl

theorem reset_reports {state next : State} {succeeds : Bool}
    (hstep : reset state succeeds = some next) : Reports state (.reset succeeds) next := by
  unfold reset at hstep
  split at hstep
  · obtain rfl := Option.some.inj hstep
    exact ⟨rfl, rfl, rfl, rfl, rfl, fun _ => id⟩
  · contradiction

theorem enableUsbDataSignal_reports {state next : State} {enable succeeds : Bool}
    (hstep : enableUsbDataSignal state enable succeeds = some next) :
    Reports state (.enableUsbDataSignal enable succeeds) next := by
  unfold enableUsbDataSignal at hstep
  split at hstep
  · obtain rfl := Option.some.inj hstep
    refine ⟨?_, rfl, rfl, rfl, rfl, fun _ => id⟩
    cases enable <;> cases succeeds <;> rfl
  · contradiction

/-- A step of the monitor that leaves the flag and the file alone, before and after its
write. -/
theorem moveMonitor_reports {state next : State} {stage : MonitorStage}
    {move : Monitor → Monitor} {action : Action}
    (hstep : moveMonitor state stage move = some next) (hstage : stage ≠ .pulledUp)
    (hmoved : ∀ monitor, monitor.stage = stage → (move monitor).stage ≠ .pulledUp)
    (hudc : state.udc = udcAfter state action)
    (happlied : state.mCurrentUsbFunctionsApplied = appliedAfter state action)
    (hrequests : state.requests = requestsAfter state action)
    (hassigning : state.assigning = assigningAfter state action)
    (hrecording : recordingAfter state action = state.recording) :
    Reports state action next := by
  obtain ⟨monitor, hmonitor, hbefore, rfl⟩ := moveMonitor_cases hstep
  refine ⟨hudc, happlied, hrequests, hassigning, ?_, fun _ => id⟩
  rw [hrecording, State.recording_of_some hmonitor, State.recording_of_some rfl]
  simp [hbefore, hstage, hmoved monitor hbefore]

/-- What the monitor writes to the records of a request leaves its phase. -/
theorem State.assigning_map {state next : State} {write : Request → Request}
    (hnext : next.request = state.request.map write)
    (hphase : ∀ request, (write request).phase = request.phase) :
    next.assigning = state.assigning := by
  simp only [State.assigning, hnext, Option.any_map, hphase]

theorem monitorWrite_reports {state next : State} {succeeds : Bool}
    (hstep : monitorWrite state succeeds = some next) :
    Reports state (.monitorWrite succeeds) next := by
  obtain ⟨monitor, _, _, hcases⟩ := monitorWrite_cases hstep
  rcases hcases with ⟨rfl, rfl⟩ | ⟨rfl, rfl⟩
  · exact ⟨rfl, rfl, rfl, rfl, rfl, fun _ => id⟩
  · refine ⟨rfl, rfl, rfl, State.assigning_map rfl fun _ => rfl, rfl, fun _ hbefore => ?_⟩
    simp only [State.pulledUp, Option.any_map, Option.any_eq_true] at hbefore ⊢
    obtain ⟨request, hrequest, hpulledUp⟩ := hbefore
    exact ⟨request, hrequest, by simp [Request.pullUp, hpulledUp]⟩

theorem monitorRecord_pulledUp {state next : State}
    (hstep : monitorRecord state = some next) : next.pulledUp = state.pulledUp := by
  obtain ⟨monitor, _, _, rfl⟩ := monitorRecord_cases hstep
  simp only [State.pulledUp, Option.any_map, Request.recordPullUp]

theorem monitorRecord_reports {state next : State}
    (hstep : monitorRecord state = some next) : Reports state .monitorRecord next := by
  have hpulledUp := monitorRecord_pulledUp hstep
  obtain ⟨monitor, _, _, rfl⟩ := monitorRecord_cases hstep
  exact ⟨rfl, rfl, rfl, State.assigning_map rfl fun _ => rfl, rfl, fun _ => hpulledUp.trans⟩

theorem monitorStop_reports {state next : State} (hstep : monitorStop state = some next) :
    Reports state .monitorStop next := by
  obtain ⟨monitor, hmonitor, hstage, _, rfl⟩ := monitorStop_cases hstep
  have hunrecorded : state.recording = false := by
    rw [State.recording_of_some hmonitor, hstage]
    rfl
  exact ⟨rfl, rfl, rfl, rfl, hunrecorded.symm, fun _ => id⟩

theorem step_reports {state next : State} {action : Action}
    (hstep : step state action = some next) : Reports state action next := by
  cases action with
  | setCurrentUsbFunctions functions callback => exact setCurrentUsbFunctions_reports hstep
  | clearApplied => exact clearApplied_reports hstep
  | tearDown succeeds => exact tearDown_reports hstep
  | unlinkFunctions listing failsAt => exact unlinkFunctions_reports hstep
  | validateAndSetVidPid properties written => exact setVidPid_reports hstep
  | enterSetupFunctions properties => exact enterSetupFunctions_reports hstep
  | setup succeeds => exact setup_reports hstep
  | waitEnds => exact waitEnds_reports hstep
  | replyError => exact replyError_reports hstep
  | reset succeeds => exact reset_reports hstep
  | enableUsbDataSignal enable succeeds => exact enableUsbDataSignal_reports hstep
  | monitorStart descriptorWritten =>
      refine moveMonitor_reports hstep (by simp) (fun monitor _ => ?_) rfl rfl rfl rfl rfl
      cases descriptorWritten <;> simp
  | monitorWrite succeeds => exact monitorWrite_reports hstep
  | monitorRecord => exact monitorRecord_reports hstep
  | monitorEvent descriptorPresent =>
      refine moveMonitor_reports hstep (by simp) (fun monitor hstage => ?_) rfl rfl rfl rfl rfl
      split
      · simp [hstage]
      · split <;> simp [hstage]
  | monitorStop => exact monitorStop_reports hstep

end Gadget
end Camellia.Usb

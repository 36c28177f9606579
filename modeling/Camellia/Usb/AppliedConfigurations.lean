import Camellia.Usb.GadgetReports
import Camellia.Usb.GadgetRequests

/-!
# Configurations that are reported as applied

Where a configuration is reported as applied, its functions should be the linked
ones and the gadget should be pulled up.  A monitor that outlives the request
that started it, and the writers of the UDC file that do not know the flag,
break this; both properties hold along precisely those runs in which they do not
come in between.
-/

namespace Camellia.Usb
namespace Gadget

open Transition

/-! ## An applied configuration is pulled up -/

def AppliedIsPulledUp (state : State) : Prop :=
  (getCurrentUsbFunctions state).2 = .functionsApplied → state.udc = some .gadgetName

theorem getCurrentUsbFunctions_applied {state : State} :
    (getCurrentUsbFunctions state).2 = .functionsApplied ↔
      state.mCurrentUsbFunctionsApplied = true := by
  simp [getCurrentUsbFunctions]

/-- The UDC file is not set to `none` under a reported configuration, and not between a
pull-up of the monitor and its record. -/
def KeepsPullUp (state : State) (action : Action) : Prop :=
  (pullsDown state action = true → state.mCurrentUsbFunctionsApplied = false) ∧
    match action with
    | .monitorRecord => state.udc = some .gadgetName
    | _ => True

theorem appliedAfter_of_ne {state : State} {action : Action} (hother : action ≠ .clearApplied) :
    appliedAfter state action =
      (applies state action || state.mCurrentUsbFunctionsApplied) := by
  cases action with
  | clearApplied => exact absurd rfl hother
  | _ => rfl

theorem keepsPullUp_of_ne {state : State} {action : Action}
    (hother : action ≠ .monitorRecord) :
    KeepsPullUp state action ↔
      (pullsDown state action = true → state.mCurrentUsbFunctionsApplied = false) := by
  cases action with
  | monitorRecord => exact absurd rfl hother
  | _ => exact and_iff_left trivial

theorem applies_pullsUp {state : State} {action : Action} (hother : action ≠ .monitorRecord)
    (happlies : applies state action = true) :
    pullsUp state action = true ∧ pullsDown state action = false := by
  cases action with
  | setup succeeds => exact ⟨happlies, rfl⟩
  | monitorRecord => exact absurd rfl hother
  | _ => contradiction

/-- A step other than a record sets the flag only together with the file. -/
theorem pulledUp_after {state : State} {action : Action} (hother : action ≠ .monitorRecord)
    (hpulledUp : state.mCurrentUsbFunctionsApplied = true → state.udc = some .gadgetName) :
    ((applies state action || state.mCurrentUsbFunctionsApplied) = true →
        udcAfter state action = some .gadgetName) ↔
      (pullsDown state action = true → state.mCurrentUsbFunctionsApplied = false) := by
  cases hdown : pullsDown state action with
  | true =>
      have hunapplies : applies state action = false := by
        by_contra happlies
        rw [Bool.not_eq_false] at happlies
        have hnever := (applies_pullsUp hother happlies).2
        rw [hdown] at hnever
        contradiction
      simp [udcAfter, hdown, hunapplies]
  | false =>
      refine iff_of_true (fun hafter => ?_) (by simp)
      cases hup : pullsUp state action with
      | true => simp [udcAfter, hdown, hup]
      | false =>
          have hunapplies : applies state action = false := by
            by_contra happlies
            rw [Bool.not_eq_false] at happlies
            have hboth := (applies_pullsUp hother happlies).1
            rw [hup] at hboth
            contradiction
          rw [hunapplies, Bool.false_or] at hafter
          simpa [udcAfter, hdown, hup] using hpulledUp hafter

theorem appliedIsPulledUp_step {state next : State} {action : Action}
    (hpulledUp : AppliedIsPulledUp state) (hstep : step state action = some next) :
    AppliedIsPulledUp next ↔ KeepsPullUp state action := by
  have hreports := step_reports hstep
  simp only [AppliedIsPulledUp, getCurrentUsbFunctions_applied] at hpulledUp ⊢
  rw [hreports.udc, hreports.applied]
  cases action with
  | clearApplied => simp [KeepsPullUp, appliedAfter, pullsDown]
  | monitorRecord =>
      simp [KeepsPullUp, appliedAfter, applies, udcAfter, pullsDown, pullsUp]
  | _ =>
      rw [appliedAfter_of_ne (by simp), keepsPullUp_of_ne (by simp)]
      exact pulledUp_after (by simp) hpulledUp

/-- What a monitor is about to record is true as well. -/
def RecordingIsPulledUp (state : State) : Prop :=
  state.recording = true → state.udc = some .gadgetName

/-- The gadget is pulled down only where it is neither reported as applied nor about to
be. -/
def PullsDownUnreported (state : State) (action : Action) : Prop :=
  pullsDown state action = true →
    state.mCurrentUsbFunctionsApplied = false ∧ state.recording = false

theorem recordingAfter_of_pullsDown {state : State} {action : Action}
    (hdown : pullsDown state action = true) :
    recordingAfter state action = state.recording ∧
      appliedAfter state action = state.mCurrentUsbFunctionsApplied ∧
      udcAfter state action = some .none := by
  have hudc : udcAfter state action = some .none := by rw [udcAfter, if_pos hdown]
  cases action with
  | tearDown succeeds => exact ⟨rfl, rfl, hudc⟩
  | reset succeeds => exact ⟨rfl, rfl, hudc⟩
  | enableUsbDataSignal enable succeeds => exact ⟨rfl, rfl, hudc⟩
  | _ => contradiction

theorem recording_pullsUp {state : State} {action : Action}
    (hup : pullsUp state action = false) (hafter : recordingAfter state action = true) :
    state.recording = true := by
  cases action with
  | setup succeeds =>
      rw [recordingAfter, Bool.and_eq_true] at hafter
      exact hafter.1
  | monitorWrite succeeds =>
      rw [recordingAfter] at hafter
      rw [pullsUp, hafter] at hup
      contradiction
  | monitorRecord => contradiction
  | _ => exact hafter

theorem appliedAndRecording_step {state next : State} {action : Action}
    (happlied : AppliedIsPulledUp state) (hrecording : RecordingIsPulledUp state)
    (hstep : step state action = some next) :
    AppliedIsPulledUp next ∧ RecordingIsPulledUp next ↔
      PullsDownUnreported state action := by
  have hreports := step_reports hstep
  cases hdown : pullsDown state action with
  | true =>
      obtain ⟨hrecordingSame, happliedSame, hudc⟩ := recordingAfter_of_pullsDown hdown
      simp only [AppliedIsPulledUp, RecordingIsPulledUp, getCurrentUsbFunctions_applied,
        hreports.applied, hreports.recording, hreports.udc, hrecordingSame, happliedSame,
        hudc, PullsDownUnreported, hdown]
      simp
  | false =>
      refine iff_of_true ⟨(appliedIsPulledUp_step happlied hstep).mpr ?_, ?_⟩ ?_
      · refine ⟨fun hnever => absurd (hdown.symm.trans hnever) (by simp), ?_⟩
        cases action with
        | monitorRecord =>
            obtain ⟨monitor, hmonitor, hstage, _⟩ := monitorRecord_cases hstep
            refine hrecording ?_
            rw [State.recording_of_some hmonitor, hstage]
            rfl
        | _ => trivial
      · intro hafter
        rw [hreports.recording] at hafter
        rw [hreports.udc, udcAfter, hdown]
        cases hup : pullsUp state action with
        | true => rfl
        | false => exact hrecording (recording_pullsUp hup hafter)
      · intro hnever
        rw [hdown] at hnever
        contradiction

/-- Reported configurations are pulled up along a run exactly when `none` is written only
where none is reported, and a monitor records its pull-up only while the file still has the
gadget name.  So are those that a monitor is about to record exactly when `none` is not
written between a pull-up and its record either. -/
theorem everyState_appliedIsPulledUp_iff (functions : Functions) (configDir : List ConfigEntry)
    (actions : List Action) :
    (EveryState step AppliedIsPulledUp (State.initial functions configDir) actions ↔
        EveryStep step KeepsPullUp (State.initial functions configDir) actions) ∧
      (EveryState step (fun state => AppliedIsPulledUp state ∧ RecordingIsPulledUp state)
          (State.initial functions configDir) actions ↔
        EveryStep step PullsDownUnreported (State.initial functions configDir) actions) := by
  have happlied : AppliedIsPulledUp (State.initial functions configDir) := by
    simp [AppliedIsPulledUp, getCurrentUsbFunctions, State.initial]
  have hrecording : RecordingIsPulledUp (State.initial functions configDir) := by
    simp [RecordingIsPulledUp, State.recording, State.initial]
  refine ⟨?_, ?_⟩
  · exact everyState_iff_everyStep
      (fun _ _ _ hpulledUp hstep => appliedIsPulledUp_step hpulledUp hstep) happlied actions
  · exact everyState_iff_everyStep
      (fun _ _ _ hboth hstep => appliedAndRecording_step hboth.1 hboth.2 hstep)
      ⟨happlied, hrecording⟩ actions

/-- MIDI is set up and reported; `reset` pulls the gadget down and leaves the report. -/
theorem not_appliedIsPulledUp_reset :
    ¬EveryState step AppliedIsPulledUp (State.initial GadgetFunction.none [])
      (requestUpToSetup GadgetFunction.midi plainProperties ++
        List.replicate 3 (Action.setup true) ++ [.reset true]) := by
  intro hevery
  have hrun : (run step (State.initial GadgetFunction.none [])
      (requestUpToSetup GadgetFunction.midi plainProperties ++
        List.replicate 3 (Action.setup true) ++ [.reset true])).any (fun state =>
      state.mCurrentUsbFunctionsApplied && state.udc = some .none) = true := by
    decide
  rw [Option.any_eq_true] at hrun
  obtain ⟨final, hfinal, hreported⟩ := hrun
  rw [Bool.and_eq_true, decide_eq_true_eq] at hreported
  have hpulledUp := hevery.final hfinal (getCurrentUsbFunctions_applied.mpr hreported.1)
  rw [hreported.2] at hpulledUp
  contradiction

/-! ## An applied configuration is the linked one -/

/-- The latest request is for the reported functions, has linked them and nothing else,
and the gadget has been pulled up since. -/
def LinkedAndPulledUp (state : State) : Prop :=
  ∃ request setup, state.request = some request ∧
    request.functions = (getCurrentUsbFunctions state).1 ∧ request.setup = some setup ∧
    functionEntries state.configDir =
      functionLinks (configuredFunctions request.functions setup.vendorFunctions) ∧
    request.pulledUp = true

def AppliedIsLinked (state : State) : Prop :=
  (getCurrentUsbFunctions state).2 = .functionsApplied → LinkedAndPulledUp state

/-- The monitor is the one that the latest request has started. -/
def OwnMonitor (state : State) : Prop :=
  ∃ monitor, state.monitor = some monitor ∧ monitor.request = state.requests

/-- A request that has been pulled up has been set up completely. -/
theorem Consistent.set_up_of_pulledUp {state : State} (hconsistent : Consistent state)
    {request : Request} (hrequest : state.request = some request)
    (hpulledUp : request.pulledUp = true) :
    ∃ setup, request.Runs setup ∧ setup.remaining = [] ∧ SetUpTo state setup.finished := by
  have hloud : ¬request.Quiet := by
    intro hquiet
    rw [hquiet.pulledUp] at hpulledUp
    contradiction
  have hok := hconsistent.request request hrequest
  unfold RequestOk at hok
  split at hok
  · exact absurd hok.1 hloud
  · exact absurd hok.1 hloud
  · exact absurd hok.1 hloud
  · exact absurd hok.1 hloud
  · exact absurd hok.1 hloud
  · obtain ⟨_, _, _, _, _, hsetUp⟩ := hok
    exact hsetUp
  · exact absurd hok.1 hloud
  · obtain ⟨_, hdone, hleft⟩ := hok
    obtain ⟨setup, hrun, hremaining⟩ := hdone hpulledUp
    have hone := hleft setup hrun
    rw [if_pos hremaining] at hone
    exact ⟨setup, hone.1, hremaining, hone.2.1⟩

theorem Consistent.linkedAndPulledUp_iff {state : State} (hconsistent : Consistent state) :
    LinkedAndPulledUp state ↔ state.pulledUp = true := by
  rw [State.pulledUp, Option.any_eq_true]
  constructor
  · rintro ⟨request, setup, hrequest, _, _, _, hpulledUp⟩
    exact ⟨request, hrequest, hpulledUp⟩
  · rintro ⟨request, hrequest, hpulledUp⟩
    obtain ⟨setup, hruns, hremaining, hsetUp⟩ :=
      hconsistent.set_up_of_pulledUp hrequest hpulledUp
    exact ⟨request, setup, hrequest, hconsistent.current request hrequest, hruns.runs,
      (hruns.linked hremaining hsetUp).1, hpulledUp⟩

theorem Consistent.appliedIsLinked_iff {state : State} (hconsistent : Consistent state) :
    AppliedIsLinked state ↔
      (state.mCurrentUsbFunctionsApplied = true → state.pulledUp = true) := by
  rw [AppliedIsLinked, getCurrentUsbFunctions_applied, hconsistent.linkedAndPulledUp_iff]

/-- A monitor between its write and its record has pulled up the request that started it,
and that request alone. -/
theorem Consistent.pulledUp_iff_own {state : State} (hconsistent : Consistent state)
    {monitor : Monitor} (hmonitor : state.monitor = some monitor)
    (hstage : monitor.stage = .pulledUp) :
    state.pulledUp = true ↔ OwnMonitor state := by
  cases hrequest : state.request with
  | none =>
      rw [hconsistent.fresh hrequest] at hmonitor
      contradiction
  | some request =>
      have hown := hconsistent.monitor monitor request hmonitor hrequest
      have hpulledUp : state.pulledUp = request.pulledUp := by
        rw [State.pulledUp, hrequest]
        rfl
      rw [hpulledUp]
      cases hrun : request.setup with
      | none =>
          simp only [MonitorOk, hrun] at hown
          refine iff_of_false (fun hpulled => ?_) ?_
          · obtain ⟨setup, hruns, _⟩ := hconsistent.set_up_of_pulledUp hrequest hpulled
            exact absurd (hruns.runs.symm.trans hrun) (by simp)
          · rintro ⟨other, hother, hlatest⟩
            obtain rfl := Option.some.inj (hmonitor.symm.trans hother)
            exact absurd hlatest hown.ne
      | some setup =>
          obtain ⟨hlatest, hwritten⟩ := hown.own hrun
          exact iff_of_true (hwritten hstage) ⟨monitor, hmonitor, hlatest⟩

theorem appliedIsLinked_record {state next : State}
    (hconsistent : Consistent state) (hstep : monitorRecord state = some next) :
    AppliedIsLinked next ↔ OwnMonitor state := by
  have hreports := monitorRecord_reports hstep
  have hpulledUp : next.pulledUp = state.pulledUp := monitorRecord_pulledUp hstep
  obtain ⟨monitor, hmonitor, hstage, _⟩ := monitorRecord_cases hstep
  rw [(hconsistent.monitorRecord hstep).appliedIsLinked_iff, hreports.applied, hpulledUp,
    hconsistent.pulledUp_iff_own hmonitor hstage]
  simp [appliedAfter, applies]

theorem appliedIsLinked_request {state next : State} {functions : Functions}
    {callback : Bool} (hconsistent : Consistent state)
    (hstep : setCurrentUsbFunctions state functions callback = some next) :
    AppliedIsLinked next ↔ state.mCurrentUsbFunctionsApplied = false := by
  have hreports := setCurrentUsbFunctions_reports hstep
  have hunlit : next.pulledUp = false := by
    unfold setCurrentUsbFunctions at hstep
    split at hstep
    · obtain rfl := Option.some.inj hstep
      rfl
    · contradiction
  rw [(hconsistent.setCurrentUsbFunctions hstep).appliedIsLinked_iff, hreports.applied,
    hunlit]
  simp [appliedAfter, applies]

/-- The pull-up of `setupFunctions` itself counts for the request. -/
theorem pulledUp_of_setup {state next : State} {succeeds : Bool}
    (hconsistent : Consistent state) (hstep : setup state succeeds = some next)
    (happlies : applies state (.setup succeeds) = true) : next.pulledUp = true := by
  obtain ⟨request, vendorFunctions, finished, op, remaining, hrequest, ⟨hphase, hrun⟩,
    hcases⟩ := setup_cases hstep
  have hop : state.nextSetupOp = some op := by
    simp [State.nextSetupOp, hrequest, hphase, hrun]
  obtain ⟨hsucceeds, rfl⟩ : succeeds = true ∧ op = .pullUp := by
    simpa [applies, hop] using happlies
  have hok := hconsistent.request request hrequest
  simp only [RequestOk, hphase] at hok
  obtain ⟨_, setup, hruns, _⟩ := hok
  obtain rfl := Option.some.inj (hrun.symm.trans hruns.runs)
  obtain ⟨hremaining, _⟩ := setupFunctions_split hruns.accepted hruns.program rfl
  rcases hcases with ⟨_, hperform⟩ | ⟨hfails, _⟩
  · obtain rfl := Option.some.inj hperform
    simp [State.pulledUp, Request.reply, Request.pullUp, Request.linked, hremaining,
      linkedFunctions]
  · rw [hsucceeds] at hfails
    contradiction

/-- A step of any other kind keeps the property. -/
theorem appliedIsLinked_keep {state next : State} {action : Action}
    (hconsistent : Consistent state) (hlinked : AppliedIsLinked state)
    (hrecord : action ≠ .monitorRecord) (hstep : step state action = some next)
    (hkept : requestsAfter state action = state.requests) : AppliedIsLinked next := by
  have hreports := step_reports hstep
  rw [(hconsistent.step hstep).appliedIsLinked_iff]
  rw [hconsistent.appliedIsLinked_iff] at hlinked
  intro happlied
  have hkeep := hreports.pulledUp (hreports.requests.trans hkept)
  cases action with
  | clearApplied =>
      rw [hreports.applied] at happlied
      contradiction
  | monitorRecord => exact absurd rfl hrecord
  | setup succeeds =>
      rw [hreports.applied, appliedAfter_of_ne (by simp), Bool.or_eq_true] at happlied
      rcases happlied with happlies | hbefore
      · exact pulledUp_of_setup hconsistent hstep happlies
      · exact hkeep (hlinked hbefore)
  | _ =>
      rw [hreports.applied] at happlied
      exact hkeep (hlinked happlied)

/-- The flag is set for the latest request only, and a request comes only where no
configuration is reported. -/
def KeepsLinked (state : State) : Action → Prop
  | .setCurrentUsbFunctions _ _ => state.mCurrentUsbFunctionsApplied = false
  | .monitorRecord => OwnMonitor state
  | _ => True

/-- As before, outside the window between the two assignments of a request. -/
def KeepsLinkedWhenAssigned (state : State) : Action → Prop
  | .monitorRecord => OwnMonitor state ∨ state.assigning = true
  | _ => True

theorem appliedIsLinked_step {state next : State} {action : Action}
    (hconsistent : Consistent state) (hlinked : AppliedIsLinked state)
    (hstep : step state action = some next) :
    AppliedIsLinked next ↔ KeepsLinked state action := by
  cases action with
  | setCurrentUsbFunctions functions callback =>
      exact appliedIsLinked_request hconsistent hstep
  | monitorRecord => exact appliedIsLinked_record hconsistent hstep
  | _ =>
      exact iff_of_true (appliedIsLinked_keep hconsistent hlinked (by simp) hstep rfl)
        trivial

theorem appliedIsLinked_step_when_assigned {state next : State} {action : Action}
    (hconsistent : Consistent state)
    (hlinked : state.assigning = false → AppliedIsLinked state)
    (hstep : step state action = some next) :
    (next.assigning = false → AppliedIsLinked next) ↔
      KeepsLinkedWhenAssigned state action := by
  have hreports := step_reports hstep
  rw [hreports.assigning]
  cases action with
  | setCurrentUsbFunctions functions callback =>
      exact iff_of_true (fun hassigned => absurd hassigned (by simp [assigningAfter])) trivial
  | clearApplied =>
      refine iff_of_true (fun _ happlied => ?_) trivial
      rw [getCurrentUsbFunctions_applied, hreports.applied] at happlied
      contradiction
  | monitorRecord =>
      have hone := appliedIsLinked_record hconsistent hstep
      simp only [assigningAfter, KeepsLinkedWhenAssigned, hone]
      cases state.assigning <;> simp
  | _ =>
      refine iff_of_true (fun hassigned => ?_) trivial
      exact appliedIsLinked_keep hconsistent (hlinked hassigned) (by simp) hstep rfl

/-- The reported configuration is the linked one along a run exactly when no request comes
while a configuration is reported and no monitor of an earlier request records a pull-up.
If the window between the two assignments of a request is left out, it is so exactly when
no monitor of an earlier request records one outside this window. -/
theorem everyState_appliedIsLinked_iff (functions : Functions) (configDir : List ConfigEntry)
    (actions : List Action) :
    (EveryState step AppliedIsLinked (State.initial functions configDir) actions ↔
        EveryStep step KeepsLinked (State.initial functions configDir) actions) ∧
      (EveryState step (fun state => state.assigning = false → AppliedIsLinked state)
          (State.initial functions configDir) actions ↔
        EveryStep step KeepsLinkedWhenAssigned (State.initial functions configDir)
          actions) := by
  have hstart : AppliedIsLinked (State.initial functions configDir) := by
    simp [AppliedIsLinked, getCurrentUsbFunctions, State.initial]
  refine ⟨?_, ?_⟩
  · exact everyState_iff_everyStep_of_invariant (fun _ _ _ hconsistent => hconsistent.step)
      (fun _ _ _ => appliedIsLinked_step) (consistent_initial functions configDir) hstart
      actions
  · exact everyState_iff_everyStep_of_invariant (fun _ _ _ hconsistent => hconsistent.step)
      (fun _ _ _ => appliedIsLinked_step_when_assigned)
      (consistent_initial functions configDir) (fun _ => hstart) actions

/-- The wait of a request for ADB has timed out.  The endpoints appear when the next
request, for MTP, has cleared the flag and not yet stopped the monitor. -/
def lateMonitorRun : List Action :=
  requestUpToSetup GadgetFunction.adb plainProperties ++
    List.replicate 10 (Action.setup true) ++
    [.waitEnds, .monitorStart false, .setCurrentUsbFunctions GadgetFunction.mtp true,
      .clearApplied, .tearDown true, .monitorEvent true, .monitorWrite true, .monitorRecord]

theorem not_appliedIsLinked_late_monitor :
    ¬EveryState step AppliedIsLinked (State.initial GadgetFunction.none [])
      lateMonitorRun := by
  intro hevery
  have hrun : (run step (State.initial GadgetFunction.none []) lateMonitorRun).any
      (fun state => state.mCurrentUsbFunctionsApplied &&
        state.request.any fun request => request.setup = none) = true := by decide
  rw [Option.any_eq_true] at hrun
  obtain ⟨final, hfinal, hreported⟩ := hrun
  rw [Bool.and_eq_true, Option.any_eq_true] at hreported
  obtain ⟨happlied, request, hrequest, hunset⟩ := hreported
  obtain ⟨other, setup, hother, _, hsetup, _⟩ :=
    hevery.final hfinal (getCurrentUsbFunctions_applied.mpr happlied)
  obtain rfl := Option.some.inj (hrequest.symm.trans hother)
  rw [decide_eq_true_eq] at hunset
  exact absurd (hunset.symm.trans hsetup) (by simp)

end Gadget
end Camellia.Usb

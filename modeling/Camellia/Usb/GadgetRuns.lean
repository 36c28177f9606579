import Camellia.Usb.GadgetInvariant

/-!
# Runs of the gadget

The steps that end a request, the operations between requests and the steps of
the monitor keep the invariant as well, and so it holds all along every run.
-/

namespace Camellia.Usb
namespace Gadget

open Transition

/-! ## The end of a request and the start of the next -/

theorem Consistent.waitEnds {state next : State} (hconsistent : Consistent state)
    (hstep : waitEnds state = some next) : Consistent next := by
  obtain ⟨request, hrequest, hphase, rfl⟩ := waitEnds_cases hstep
  have hok := hconsistent.request request hrequest
  simp only [RequestOk, hphase] at hok
  obtain ⟨hreplies, hrecorded, hffs, hmonitor, hpullup, setup, hruns, hremaining,
    hsetUp⟩ := hok
  refine hconsistent.request_step hrequest rfl
    (fun hjoins => (hjoins.phase_ne hphase (by simp)).elim) (fun _ => id) ?_
  refine ⟨Request.Replied.of_reply hreplies hrecorded ?_,
    fun _ => ⟨setup, hruns.runs, hremaining⟩, ?_⟩
  · have hearned : request.Earned ↔ request.recorded = true := by
      constructor
      · rintro (⟨hnone, _⟩ | ⟨_, himp⟩)
        · exact absurd hnone (Accepted.ne_none hruns.accepted)
        · exact himp hffs
      · exact fun hdone => Or.inr ⟨hrecorded hdone, fun _ => hdone⟩
    rw [hearned, hpullup]
    split <;> simp [*]
  · intro other hother
    obtain rfl := Option.some.inj (hruns.runs.symm.trans hother)
    rw [if_pos hremaining]
    exact ⟨hruns.congr rfl rfl, hsetUp, hmonitor.trans hffs.symm⟩

theorem Consistent.replyError {state next : State} (hconsistent : Consistent state)
    (hstep : replyError state = some next) : Consistent next := by
  obtain ⟨request, status, hrequest, hphase, rfl⟩ := replyError_cases hstep
  have hok := hconsistent.request request hrequest
  simp only [RequestOk, hphase] at hok
  obtain ⟨hquiet, hstatus, hnone, hfailed⟩ := hok
  refine hconsistent.request_step hrequest rfl
    (fun hjoins => (hjoins.phase_ne hphase (by simp)).elim) (fun _ => id) ?_
  have hunearned : ¬request.Earned := by
    rintro (hdone | ⟨hpulledUp, _⟩)
    · exact hnone hdone
    · rw [hquiet.pulledUp] at hpulledUp
      contradiction
  refine ⟨Request.Replied.of_reply hquiet.replies ?_ (iff_of_false hstatus hunearned),
    fun hpulledUp => absurd (hquiet.pulledUp.symm.trans hpulledUp) (by simp), ?_⟩
  · exact fun hrecorded => absurd (hquiet.recorded.symm.trans hrecorded) (by simp)
  · intro setup hrun
    obtain ⟨hremaining, hmonitor⟩ := hfailed setup hrun
    rw [if_neg hremaining]
    exact hmonitor

theorem MonitorOk.request_le {state : State} {monitor : Monitor} {request : Request}
    (hown : MonitorOk state monitor request) : monitor.request ≤ state.requests := by
  unfold MonitorOk at hown
  split at hown
  · exact hown.le
  · exact hown.1.le

theorem State.idle_iff {state : State} :
    state.idle = true ↔
      ∀ request, state.request = some request → request.phase = .returned := by
  simp [State.idle, Option.all_eq_true]

theorem Consistent.setCurrentUsbFunctions {state next : State} {functions : Functions}
    {callback : Bool} (hconsistent : Consistent state)
    (hstep : setCurrentUsbFunctions state functions callback = some next) :
    Consistent next := by
  unfold Gadget.setCurrentUsbFunctions at hstep
  split at hstep
  · rename_i hidle
    rw [Option.some.injEq] at hstep
    subst next
    -- every monitor was started by a request
    have hearlier : ∀ monitor, state.monitor = some monitor →
        ∃ request, state.request = some request := by
      intro monitor hmonitor
      rw [← Option.ne_none_iff_exists']
      intro hnone
      rw [hconsistent.fresh hnone] at hmonitor
      contradiction
    refine ⟨hconsistent.created, ?_, ?_, hconsistent.stopped, ?_, ?_, ?_⟩
    · intro other hother
      obtain rfl := Option.some.inj hother
      rfl
    · intro hnone
      contradiction
    · intro monitor other hmonitor _ hsignalled
      obtain ⟨request, hrequest⟩ := hearlier monitor hmonitor
      have hjoins := hconsistent.signalled monitor request hmonitor hrequest hsignalled
      exact (hjoins.phase_ne (State.idle_iff.mp hidle request hrequest) (by simp)).elim
    · intro monitor other hmonitor hother
      obtain rfl := Option.some.inj hother
      obtain ⟨request, hrequest⟩ := hearlier monitor hmonitor
      exact Nat.lt_succ_of_le
        (hconsistent.monitor monitor request hmonitor hrequest).request_le
    · intro other hother
      obtain rfl := Option.some.inj hother
      exact ⟨⟨rfl, rfl, rfl⟩, rfl, rfl⟩
  · contradiction

/-- The invariant does not mention the UDC file. -/
theorem Consistent.write_udc {state : State} (hconsistent : Consistent state)
    (udc : Option UdcContent) : Consistent { state with udc := udc } :=
  ⟨hconsistent.created, hconsistent.current, hconsistent.fresh, hconsistent.stopped,
    hconsistent.signalled, hconsistent.monitor, fun request hrequest =>
      (hconsistent.request request hrequest).congr rfl rfl rfl fun _ => rfl⟩

theorem Consistent.reset {state next : State} {succeeds : Bool}
    (hconsistent : Consistent state) (hstep : reset state succeeds = some next) :
    Consistent next := by
  unfold Gadget.reset at hstep
  split at hstep
  · obtain rfl := Option.some.inj hstep
    exact hconsistent.write_udc _
  · contradiction

theorem Consistent.enableUsbDataSignal {state next : State} {enable succeeds : Bool}
    (hconsistent : Consistent state)
    (hstep : enableUsbDataSignal state enable succeeds = some next) : Consistent next := by
  unfold Gadget.enableUsbDataSignal at hstep
  split at hstep
  · obtain rfl := Option.some.inj hstep
    exact hconsistent.write_udc _
  · contradiction

/-! ## Steps of the monitor -/

/-- A step of the monitor, which may write to the records of the request. -/
theorem Consistent.monitor_step {state : State} (hconsistent : Consistent state)
    {monitor : Monitor} {stage : MonitorStage} {writeUdc applied pullup : Bool}
    {udc : Option UdcContent} {written : Option Request}
    (hmonitor : state.monitor = some monitor)
    (hstopped : stage = .stopped → monitor.signalled = true)
    (hrequests : ∀ other, written = some other →
      ∃ request, state.request = some request ∧ other.phase = request.phase ∧
        other.functions = request.functions ∧
        (MonitorOk state monitor request →
          MonitorOk state { monitor with stage := stage, writeUdc := writeUdc } other) ∧
        (MonitorOk state monitor request → RequestOk state request →
          RequestOk { state with gadgetPullup := pullup } other))
    (hfresh : written = none → state.request = none) :
    Consistent { state with
      mCurrentUsbFunctionsApplied := applied
      gadgetPullup := pullup
      udc := udc
      monitor := some { monitor with stage := stage, writeUdc := writeUdc }
      request := written } := by
  have hsome : state.monitor.isSome = true := by
    rw [hmonitor]
    rfl
  refine ⟨?_, ?_, ?_, ?_, ?_, ?_, ?_⟩
  · exact hconsistent.created.trans hsome
  · intro other hother
    obtain ⟨request, hrequest, _, hfunctions, _⟩ := hrequests other hother
    exact hfunctions.trans (hconsistent.current request hrequest)
  · intro hnone
    rw [hconsistent.fresh (hfresh hnone)] at hmonitor
    contradiction
  · intro final hfinal hstage
    obtain rfl := Option.some.inj hfinal
    exact hstopped hstage
  · intro final other hfinal hother hsignal
    obtain rfl := Option.some.inj hfinal
    obtain ⟨request, hrequest, hphase, _⟩ := hrequests other hother
    obtain ⟨remaining, hjoining, hmem⟩ :=
      hconsistent.signalled monitor request hmonitor hrequest hsignal
    exact ⟨remaining, hphase.trans hjoining, hmem⟩
  · intro final other hfinal hother
    obtain rfl := Option.some.inj hfinal
    obtain ⟨request, hrequest, _, _, hown, _⟩ := hrequests other hother
    exact hown (hconsistent.monitor monitor request hmonitor hrequest)
  · intro other hother
    obtain ⟨request, hrequest, _, _, _, hok⟩ := hrequests other hother
    have hone := hok (hconsistent.monitor monitor request hmonitor hrequest)
      (hconsistent.request request hrequest)
    exact hone.congr rfl rfl hsome.symm fun _ => rfl

theorem MonitorOk.move {state : State} {monitor : Monitor} {request : Request}
    {stage : MonitorStage} (hown : MonitorOk state monitor request)
    (hstage : stage ≠ .pulledUp) (writeUdc : Bool) :
    MonitorOk state { monitor with stage := stage, writeUdc := writeUdc } request := by
  unfold MonitorOk at hown ⊢
  split at hown
  · exact hown
  · exact ⟨hown.1, hown.2.1, hown.2.2.1, fun hpulled => absurd hpulled hstage⟩

/-- A step of the monitor that changes nothing but the monitor. -/
theorem Consistent.move {state : State} (hconsistent : Consistent state) {monitor : Monitor}
    {stage : MonitorStage} {writeUdc : Bool} (hmonitor : state.monitor = some monitor)
    (hstage : stage ≠ .pulledUp) (hstopped : stage = .stopped → monitor.signalled = true) :
    Consistent { state with
      monitor := some { monitor with stage := stage, writeUdc := writeUdc } } := by
  refine hconsistent.monitor_step hmonitor hstopped ?_ id
  intro request hrequest
  exact ⟨request, hrequest, rfl, rfl, fun hown => hown.move hstage writeUdc, fun _ => id⟩

theorem Consistent.monitorStart {state next : State} {descriptorWritten : Bool}
    (hconsistent : Consistent state)
    (hstep : monitorStart state descriptorWritten = some next) : Consistent next := by
  obtain ⟨monitor, hmonitor, _, rfl⟩ := moveMonitor_cases hstep
  cases descriptorWritten with
  | true => exact hconsistent.move hmonitor (by simp) (by simp)
  | false => exact hconsistent.move hmonitor (by simp) (by simp)

theorem Consistent.monitorEvent {state next : State} {descriptorPresent : Bool}
    (hconsistent : Consistent state)
    (hstep : monitorEvent state descriptorPresent = some next) : Consistent next := by
  obtain ⟨monitor, hmonitor, hstage, rfl⟩ := moveMonitor_cases hstep
  split
  · exact hconsistent.move hmonitor (by simp [hstage]) (by simp [hstage])
  · split
    · exact hconsistent.move hmonitor (by simp) (by simp)
    · exact hconsistent.move hmonitor (by simp [hstage]) (by simp [hstage])

theorem Consistent.monitorStop {state next : State} (hconsistent : Consistent state)
    (hstep : monitorStop state = some next) : Consistent next := by
  obtain ⟨monitor, hmonitor, _, hsignalled, rfl⟩ := monitorStop_cases hstep
  exact hconsistent.move hmonitor (by simp) (fun _ => hsignalled)

/-- Beside a monitor, a request that has entered `setupFunctions` has finished it. -/
theorem RequestOk.set_up {state : State} {request : Request} {setup : Setup}
    (hok : RequestOk state request) (hmonitor : state.monitor.isSome = true)
    (hrun : request.setup = some setup) :
    (request.phase = .waiting ∨ request.phase = .returned) ∧ setup.remaining = [] ∧
      ffsEnabled request.functions = true := by
  have hunset : request.setup ≠ none := by
    rw [hrun]
    exact Option.some_ne_none setup
  have halone : state.monitor.isSome ≠ false := by
    rw [hmonitor]
    exact Bool.true_eq_false_eq_False
  unfold RequestOk at hok
  split at hok
  · exact absurd hok.2.1 hunset
  · exact absurd hok.2.1 hunset
  · exact absurd hok.2.1 hunset
  · exact absurd hok.2.1 hunset
  · obtain ⟨_, _, _, _, hnone⟩ := hok
    exact absurd hnone halone
  · rename_i hphase
    obtain ⟨_, _, hffs, _, _, own, hruns, hremaining, _⟩ := hok
    obtain rfl := Option.some.inj (hrun.symm.trans hruns.runs)
    exact ⟨Or.inl hphase, hremaining, hffs⟩
  · exact absurd (hok.2.2.2 setup hrun).2 halone
  · rename_i hphase
    have hleft := hok.2.2 setup hrun
    split at hleft
    · rename_i hremaining
      exact ⟨Or.inr hphase, hremaining, hleft.2.2.symm.trans hmonitor⟩
    · exact absurd hleft halone

theorem Request.earned_pullUp {request : Request}
    (hrecorded : request.recorded = true → request.pulledUp = true)
    (hffs : ffsEnabled request.functions = true) :
    request.pullUp.Earned ↔ request.Earned := by
  refine or_congr Iff.rfl ?_
  constructor
  · exact fun hwritten => ⟨hrecorded (hwritten.2 hffs), hwritten.2⟩
  · rintro ⟨hpulledUp, himp⟩
    exact ⟨by simp [Request.pullUp, hpulledUp], himp⟩

theorem RequestOk.pullUp {state : State} {request : Request} (hok : RequestOk state request)
    (hsome : state.monitor.isSome = true) : RequestOk state request.pullUp := by
  cases hrun : request.setup with
  | none =>
      have hsame : request.pullUp = request := by
        unfold Request.pullUp Request.linked
        simp only [hrun, Option.any_none, Bool.or_false]
        rw [← hrun]
      rwa [hsame]
  | some setup =>
      obtain ⟨hphase, hremaining, hffs⟩ := hok.set_up hsome hrun
      have hkept : request.pulledUp = true → request.pullUp.pulledUp = true :=
        fun hpulledUp => by simp [Request.pullUp, hpulledUp]
      rcases hphase with hphase | hphase
      · simp only [RequestOk, hphase] at hok
        obtain ⟨hreplies, hrecorded, _, _, hflag, own, hruns, hleft⟩ := hok
        have hafter : request.pullUp.phase = .waiting := hphase
        simp only [RequestOk, hafter]
        exact ⟨hreplies, fun hflagged => hkept (hrecorded hflagged), hffs, hsome, hflag,
          own, hruns.congr rfl rfl, hleft⟩
      · simp only [RequestOk, hphase] at hok
        obtain ⟨⟨honce, hrecorded⟩, _, hleft⟩ := hok
        have hafter : request.pullUp.phase = .returned := hphase
        simp only [RequestOk, hafter]
        refine ⟨⟨fun hcallback => ?_, fun hdone => hkept (hrecorded hdone)⟩,
          fun _ => ⟨setup, hrun, hremaining⟩, ?_⟩
        · obtain ⟨status, hreplies, hstatus⟩ := honce hcallback
          exact ⟨status, hreplies,
            hstatus.trans (Request.earned_pullUp hrecorded hffs).symm⟩
        · intro own hown
          obtain rfl := Option.some.inj (hrun.symm.trans hown)
          have hone := hleft setup hrun
          rw [if_pos hremaining] at hone ⊢
          exact ⟨hone.1.congr rfl rfl, hone.2⟩

theorem MonitorOk.pullUp {state : State} {monitor : Monitor} {request : Request}
    (hown : MonitorOk state monitor request) (stage : MonitorStage) (writeUdc : Bool) :
    MonitorOk state { monitor with stage := stage, writeUdc := writeUdc }
      request.pullUp := by
  cases hrun : request.setup with
  | none =>
      have hpullUp : request.pullUp.setup = none := hrun
      simp only [MonitorOk, hrun] at hown
      simpa only [MonitorOk, hpullUp] using hown
  | some setup =>
      have hpullUp : request.pullUp.setup = some setup := hrun
      simp only [MonitorOk, hrun] at hown
      obtain ⟨hlatest, hremaining, hffs, _⟩ := hown
      simp only [MonitorOk, hpullUp]
      refine ⟨hlatest, hremaining, hffs, fun _ => ?_⟩
      simp [Request.pullUp, Request.linked, hrun, hremaining, linkedFunctions]

theorem Consistent.monitorWrite {state next : State} {succeeds : Bool}
    (hconsistent : Consistent state) (hstep : monitorWrite state succeeds = some next) :
    Consistent next := by
  obtain ⟨monitor, hmonitor, _, hcases⟩ := monitorWrite_cases hstep
  rcases hcases with ⟨_, rfl⟩ | ⟨_, rfl⟩
  · exact hconsistent.move hmonitor (by simp) (by simp)
  · refine hconsistent.monitor_step hmonitor (by simp) ?_ ?_
    · intro other hother
      obtain ⟨request, hrequest, rfl⟩ := Option.map_eq_some_iff.mp hother
      have hsome : state.monitor.isSome = true := by
        rw [hmonitor]
        rfl
      exact ⟨request, hrequest, rfl, rfl, fun hown => hown.pullUp _ _,
        fun _ hok => hok.pullUp hsome⟩
    · exact fun hnone => Option.map_eq_none_iff.mp hnone

theorem MonitorOk.own {state : State} {monitor : Monitor} {request : Request}
    {setup : Setup} (hown : MonitorOk state monitor request)
    (hrun : request.setup = some setup) :
    monitor.request = state.requests ∧
      (monitor.stage = .pulledUp → request.pulledUp = true) := by
  simp only [MonitorOk, hrun] at hown
  exact ⟨hown.1, hown.2.2.2⟩

theorem RequestOk.recordPullUp {state : State} {monitor : Monitor} {request : Request}
    (hown : MonitorOk state monitor request) (hstage : monitor.stage = .pulledUp)
    (hok : RequestOk state request) :
    RequestOk { state with gadgetPullup := true }
      (request.recordPullUp (monitor.request = state.requests)) := by
  by_cases hphase : request.phase = .waiting
  · simp only [RequestOk, hphase] at hok
    obtain ⟨hreplies, _, hffs, hsome, _, setup, hruns, hremaining, hsetUp⟩ := hok
    obtain ⟨hsame, hpulledUp⟩ := hown.own hruns.runs
    have hafter : request.recordPullUp (monitor.request = state.requests) =
        { request with recorded := true } := by
      simp [Request.recordPullUp, hphase, hsame]
    rw [hafter]
    simp only [RequestOk, hphase]
    exact ⟨hreplies, fun _ => hpulledUp hstage, hffs, hsome, trivial, setup,
      hruns.congr rfl rfl, hremaining, hsetUp⟩
  · have hsame : request.recordPullUp (monitor.request = state.requests) = request := by
      simp [Request.recordPullUp, hphase]
    rw [hsame]
    exact hok.congr rfl rfl rfl fun hwaiting => absurd hwaiting hphase

theorem Consistent.monitorRecord {state next : State} (hconsistent : Consistent state)
    (hstep : monitorRecord state = some next) : Consistent next := by
  obtain ⟨monitor, hmonitor, hstage, rfl⟩ := monitorRecord_cases hstep
  refine hconsistent.monitor_step hmonitor (by simp) ?_ ?_
  · intro other hother
    obtain ⟨request, hrequest, rfl⟩ := Option.map_eq_some_iff.mp hother
    exact ⟨request, hrequest, rfl, rfl, fun hown => hown.move (by simp) _,
      fun hown hok => hok.recordPullUp hown hstage⟩
  · exact fun hnone => Option.map_eq_none_iff.mp hnone

/-! ## Runs -/

theorem Consistent.step {state next : State} {action : Action}
    (hconsistent : Consistent state) (hstep : step state action = some next) :
    Consistent next := by
  cases action with
  | setCurrentUsbFunctions functions callback =>
      exact hconsistent.setCurrentUsbFunctions hstep
  | clearApplied => exact hconsistent.clearApplied hstep
  | tearDown succeeds => exact hconsistent.tearDown hstep
  | unlinkFunctions listing failsAt => exact hconsistent.unlinkFunctions hstep
  | validateAndSetVidPid properties written => exact hconsistent.setVidPid hstep
  | enterSetupFunctions properties => exact hconsistent.enterSetupFunctions hstep
  | setup succeeds => exact hconsistent.setup hstep
  | waitEnds => exact hconsistent.waitEnds hstep
  | replyError => exact hconsistent.replyError hstep
  | reset succeeds => exact hconsistent.reset hstep
  | enableUsbDataSignal enable succeeds => exact hconsistent.enableUsbDataSignal hstep
  | monitorStart descriptorWritten => exact hconsistent.monitorStart hstep
  | monitorWrite succeeds => exact hconsistent.monitorWrite hstep
  | monitorRecord => exact hconsistent.monitorRecord hstep
  | monitorEvent descriptorPresent => exact hconsistent.monitorEvent hstep
  | monitorStop => exact hconsistent.monitorStop hstep

theorem consistent_run (functions : Functions) (configDir : List ConfigEntry)
    (actions : List Action) :
    EveryState step Consistent (State.initial functions configDir) actions :=
  EveryState.of_invariant (fun _ _ _ hconsistent => hconsistent.step)
    (consistent_initial functions configDir) actions

end Gadget
end Camellia.Usb

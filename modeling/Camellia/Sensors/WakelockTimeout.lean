import Camellia.Sensors.SystemSteps

/-!
# How long the wakelock thread waits

`handleWakelocks` waits for acknowledgements with what is left of the timeout, a
difference of two clock readings that other threads may move.  With a clock that
never goes back the wait is between zero and the full timeout.  It is zero, which
the message queue takes for no limit at all, when the check falls exactly on the
timeout, since `sharedWakelockDidTimeout` compares strictly.
-/

namespace Camellia.Sensors

theorem Wakelock.timeLeft_bounds {kWakelockTimeoutNs timeNow timeLeft : ℤ} {lock : Wakelock}
    (htime : lock.sharedWakelockDidTimeout kWakelockTimeoutNs timeNow = some timeLeft)
    (hstart : lock.mWakelockTimeoutStartTime ≤ timeNow) :
    (0 < timeLeft ↔ timeNow - lock.mWakelockTimeoutStartTime ≠ kWakelockTimeoutNs) ∧
      timeLeft ≤ kWakelockTimeoutNs := by
  unfold sharedWakelockDidTimeout at htime
  by_cases hlate : timeNow - lock.mWakelockTimeoutStartTime > kWakelockTimeoutNs
  · simp [hlate] at htime
  · simp only [hlate, if_false, Option.some.injEq] at htime
    omega

namespace System

open Transition

variable {header : HalProxyHeader}

/-- The readings of a run, in the order they are taken, never go back. -/
def MonotoneClock (actions : List Action) : Prop :=
  (actions.flatMap Action.clockReadings).Pairwise (· ≤ ·)

instance (actions : List Action) : Decidable (MonotoneClock actions) :=
  inferInstanceAs (Decidable (List.Pairwise _ _))

/-- The timeout passed to `readBlocking` limits the wait. -/
def WaitsBounded (header : HalProxyHeader) (system : System) : Prop :=
  ∀ timeLeft, system.wakelockThread = .reading timeLeft →
    0 < timeLeft ∧ timeLeft ≤ header.kWakelockTimeoutNs

/-- A check of the wakelock does not fall exactly on its timeout. -/
def missesTimeout (header : HalProxyHeader) (system : System) : Action → Bool
  | .checkWakelock timeNow _ =>
      timeNow - system.proxy.wakelock.mWakelockTimeoutStartTime ≠ header.kWakelockTimeoutNs
  | _ => true

/-- While something is counted, the clock has passed the start of its timeout. -/
def StartedBefore (system : System) (rest : List Action) : Prop :=
  0 < system.proxy.wakelock.mWakelockRefCount →
    ∀ reading ∈ rest.flatMap Action.clockReadings,
      system.proxy.wakelock.mWakelockTimeoutStartTime ≤ reading

theorem MonotoneClock.tail {action : Action} {rest : List Action}
    (hclock : MonotoneClock (action :: rest)) :
    MonotoneClock rest ∧ ∀ earlier ∈ action.clockReadings,
      ∀ later ∈ rest.flatMap Action.clockReadings, earlier ≤ later := by
  unfold MonotoneClock at hclock
  rw [List.flatMap_cons, List.pairwise_append] at hclock
  exact ⟨hclock.2.1, hclock.2.2⟩

theorem increment_mem_clockReadings {system : System} {action : Action} {delta : ℕ}
    {timeNow : ℤ} (hop : wakelockOp header system action = .increment delta timeNow) :
    timeNow ∈ action.clockReadings := by
  have hcalls := wakelockOp_calls header system action
  rw [hop] at hcalls
  rcases hcalls with ⟨_, rfl⟩ | ⟨index, writeOk, post, rfl, _⟩
  · exact List.mem_singleton_self timeNow
  · exact List.mem_singleton_self timeNow

theorem StartedBefore.step {system next : System} {action : Action} {rest : List Action}
    (hstarted : StartedBefore system (action :: rest))
    (hclock : MonotoneClock (action :: rest))
    (hstep : step header system action = some next) : StartedBefore next rest := by
  intro hpos reading hreading
  rw [(step_effects hstep).wakelock] at hpos ⊢
  rcases Wakelock.apply_startTime hpos with ⟨hbefore, hsame⟩ | ⟨delta, timeNow, hop, hnew⟩
  · rw [hsame]
    refine hstarted hbefore reading ?_
    rw [List.flatMap_cons]
    exact List.mem_append_right _ hreading
  · rw [hnew]
    exact hclock.tail.2 timeNow (increment_mem_clockReadings hop) reading hreading

theorem waitsBounded_step {system next : System} {action : Action} {rest : List Action}
    (hstarted : StartedBefore system (action :: rest)) (hwaits : WaitsBounded header system)
    (hstep : step header system action = some next) :
    WaitsBounded header next ↔ missesTimeout header system action = true := by
  have hthread := (service_effects hstep).wakelockThread
  unfold WaitsBounded
  rw [hthread]
  cases action with
  | checkWakelock timeNow resetTime =>
      obtain ⟨hwaiting, _, hcount, _⟩ := checkWakelock_spec hstep
      have hpassed : system.proxy.wakelock.mWakelockTimeoutStartTime ≤ timeNow :=
        hstarted hcount timeNow (by simp [Action.clockReadings])
      simp only [wakelockThreadAfter, missesTimeout]
      cases htime : system.proxy.wakelock.sharedWakelockDidTimeout
          header.kWakelockTimeoutNs timeNow with
      | none =>
          have hlate : timeNow - system.proxy.wakelock.mWakelockTimeoutStartTime ≠
              header.kWakelockTimeoutNs := by
            intro hexact
            simp [Wakelock.sharedWakelockDidTimeout, hexact] at htime
          simp [hwaiting, hlate]
      | some timeLeft =>
          obtain ⟨hpos, hle⟩ := Wakelock.timeLeft_bounds htime hpassed
          simp [hpos, hle]
  | readWakeLockQueue value => simp [wakelockThreadAfter, missesTimeout]
  | exitWakelocks timeNow => simp [wakelockThreadAfter, missesTimeout]
  | initializeCommon args timeNow => simp [wakelockThreadAfter, missesTimeout]
  | _ => exact iff_of_true hwaits rfl

/-- With a clock that never goes back, the wakelock thread waits with a positive timeout
of at most `kWakelockTimeoutNs` throughout a run, if and only if no check of the
wakelock is made exactly `kWakelockTimeoutNs` after the start of its timeout. -/
theorem wakelock_wait_bounded_iff (header : HalProxyHeader) (subHals : SubHalList)
    (actions : List Action) (hclock : MonotoneClock actions) :
    EveryState (step header) (WaitsBounded header) (construct subHals) actions ↔
      EveryStep (step header) (fun system action => missesTimeout header system action = true)
        (construct subHals) actions := by
  refine everyState_iff_everyStep_of_remaining
    (J := fun system rest =>
      WaitsBounded header system ∧ StartedBefore system rest ∧ MonotoneClock rest)
    (fun system rest hall => hall.1) ?_ ?_ ⟨?_, ?_, hclock⟩
  · rintro system action rest next ⟨hwaits, hstarted, hclock⟩ hstep hmisses
    exact ⟨(waitsBounded_step hstarted hwaits hstep).mpr hmisses,
      hstarted.step hclock hstep, hclock.tail.1⟩
  · rintro system action rest next ⟨hwaits, hstarted, _⟩ hstep hnext
    exact (waitsBounded_step hstarted hwaits hstep).mp hnext
  · rintro timeLeft hreading
    exact WakelockThread.noConfusion hreading
  · intro hpos
    exact absurd hpos (Nat.lt_irrefl 0)

/-- The timeout of the sample header is `10`. -/
def checkAtTimeout : List Action :=
  startUp 4 ++ [.createScopedWakelock true 1, .checkWakelock 11 11]

theorem wakelock_wait_bounded_at_timeout :
    MonotoneClock checkAtTimeout ∧
      (sampleState checkAtTimeout).wakelockThread = .reading 0 ∧
      ¬EveryState (step sampleHeader) (WaitsBounded sampleHeader) (construct sampleSubHals)
        checkAtTimeout := by
  refine ⟨by decide, by decide, ?_⟩
  intro hevery
  have hfinal : WaitsBounded sampleHeader (sampleState checkAtTimeout) := hevery.final rfl
  exact absurd (hfinal 0 (by decide)).1 (by decide)

theorem wakelock_wait_bounded_example :
    EveryState (step sampleHeader) (WaitsBounded sampleHeader) (construct sampleSubHals)
      (startUp 4 ++ [.createScopedWakelock true 1, .checkWakelock 10 10]) :=
  (wakelock_wait_bounded_iff sampleHeader sampleSubHals _ (by decide)).mpr (by decide)

end System

end Camellia.Sensors

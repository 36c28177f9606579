import Camellia.Sensors.SystemSteps

/-!
# The wakelock over whole runs

The kernel wake lock and the count are tied together in every run except through
one door: a batch posted with a locked scoped wakelock whose wake-up events were
all filtered out adds nothing to the count, but takes the lock if the count is
zero at that moment.  Stopping the threads freezes both, so a restart finds what
the previous session left.  A scoped wakelock that outlives a reset is inert.
-/

namespace Camellia.Sensors
namespace System

open Transition

variable {header : HalProxyHeader}

/-! ## Lock and count -/

/-- A call that posts under a locked wakelock and has no wake-up event left finds
something counted. -/
def EmptyPostFindsCount (system : System) : Action → Prop
  | .postEventsToMessageQueue index _ _ =>
      ∀ post, system.posts[index]? = some post → post.wakelock.isLocked = true →
        post.numWakeupEvents = 0 → system.proxy.mThreadsRun = true →
          0 < system.proxy.wakelock.mWakelockRefCount
  | _ => True

theorem wakelockOp_eq_increment_zero {system : System} {action : Action} {timeNow : ℤ}
    (hop : wakelockOp header system action = .increment 0 timeNow) :
    ∃ index writeOk post, action = .postEventsToMessageQueue index writeOk timeNow ∧
      system.posts[index]? = some post ∧ post.wakelock.isLocked = true ∧
      post.numWakeupEvents = 0 := by
  have hcalls := wakelockOp_calls header system action
  rw [hop] at hcalls
  rcases hcalls with ⟨hone, _⟩ | hpost
  · exact absurd hone (by decide)
  · exact hpost

theorem emptyPostFindsCount_iff (system : System) (action : Action) :
    EmptyPostFindsCount system action ↔
      ∀ timeNow, wakelockOp header system action = .increment 0 timeNow →
        system.proxy.mThreadsRun = true → 0 < system.proxy.wakelock.mWakelockRefCount := by
  constructor
  · intro hfinds timeNow hop hrun
    obtain ⟨index, writeOk, post, rfl, hpost, hlocked, hzero⟩ :=
      wakelockOp_eq_increment_zero hop
    exact hfinds post hpost hlocked hzero hrun
  · intro hfinds
    cases action with
    | postEventsToMessageQueue index writeOk timeNow =>
        intro post hpost hlocked hzero hrun
        refine hfinds timeNow ?_ hrun
        simp [wakelockOp, hpost, hlocked, hzero]
    | _ => trivial

/-- In every run the wake lock is held exactly when the count is positive, in all
states passed through, if and only if every post under a locked wakelock that has
no wake-up event left finds a positive count. -/
theorem held_iff_counted_iff (header : HalProxyHeader) (subHals : SubHalList)
    (actions : List Action) :
    EveryState (step header) (fun system => system.proxy.wakelock.HeldIffCounted)
        (construct subHals) actions ↔
      EveryStep (step header) EmptyPostFindsCount (construct subHals) actions := by
  apply everyState_iff_everyStep
  · intro system action next hlock hstep
    rw [(step_effects hstep).wakelock, Wakelock.apply_heldIffCounted_iff hlock]
    exact (emptyPostFindsCount_iff system action).symm
  · simp [construct, HalProxy.construct, Wakelock.initial, Wakelock.HeldIffCounted]

/-- The contract of a sub-HAL: it passes a locked wakelock exactly when the batch has
an event of a sensor flagged `WAKE_UP`. -/
def keepsWakelockContract (system : System) : Action → Bool
  | .postEvents mSubHalIndex index events =>
      match system.wakelocks[index]? with
      | some wakelock =>
          wakelock.isLocked == events.any fun event =>
            isWakeUpEvent system.proxy.mSensors system.proxy.mDynamicSensors
              (HalProxyCallback.tagEvent mSubHalIndex event)
      | none => true
  | _ => true

/-- A locked wakelock is taken for a pick-up report that announces no gesture; the
shared wakelock times out before the report is posted. -/
def filteredPost : List Action :=
  startUp 4 ++
    [.createScopedWakelock true 1, .checkWakelock 100 101,
      .postEvents 0 0 [sampleEvent 2 50], .postEventsToMessageQueue 0 true 102,
      .returnFromPostEvents 0]

theorem held_not_counted :
    EveryStep (step sampleHeader)
        (fun system action => keepsWakelockContract system action = true)
        (construct sampleSubHals) filteredPost ∧
      (run (step sampleHeader) (construct sampleSubHals) filteredPost).map
          (fun system => (system.proxy.wakelock.held,
            system.proxy.wakelock.mWakelockRefCount)) = some (true, 0) := by
  decide

/-! ## Restarts -/

structure StartsClean (system : System) : Prop where
  noBatches : system.proxy.eventPath.mPendingWriteEventsQueue = []
  noSize : system.proxy.eventPath.mSizePendingWriteEventsQueue = 0
  noDynamicSensors : system.proxy.mDynamicSensors = ∅
  noCount : system.proxy.wakelock.mWakelockRefCount = 0
  released : system.proxy.wakelock.held = false

/-- While the binder thread waits for the joins, no thread changes the count or the
lock: every operation on them sees `mThreadsRun` cleared. -/
theorem stopping_step {system next : System} {action : Action}
    (hother : action.isInitializeCommon = false)
    (hphase : system.phase = .stopping) (hstopped : system.proxy.mThreadsRun = false)
    (hstep : step header system action = some next) :
    next.phase = .stopping ∧ next.proxy.mThreadsRun = false ∧
      next.proxy.wakelock.mWakelockRefCount = system.proxy.wakelock.mWakelockRefCount ∧
      next.proxy.wakelock.held = system.proxy.wakelock.held := by
  have heffects := step_effects hstep
  have hwakelock := heffects.wakelock
  rw [hstopped] at hwakelock
  have hfrozen := Wakelock.apply_of_not_running system.proxy.wakelock
    (wakelockOp header system action)
  rw [← hwakelock] at hfrozen
  have hcontrol : (next.phase, next.proxy.mThreadsRun) = (Phase.stopping, false) := by
    rw [heffects.control]
    cases action with
    | initializeCommon args timeNow => simp [Action.isInitializeCommon] at hother
    | initializeSubHals outcome => simp [step, hphase] at hstep
    | stopThreads => rfl
    | _ => simp only [controlAfter, hphase, hstopped]
  exact ⟨congrArg Prod.fst hcontrol, congrArg Prod.snd hcontrol, hfrozen.1, hfrozen.2⟩

theorem stopThreads_run {system final : System} {actions : List Action}
    (hothers : ∀ action ∈ actions, action.isInitializeCommon = false)
    (hrun : run (step header) system (.stopThreads :: actions) = some final) :
    final.proxy.mThreadsRun = false ∧
      final.proxy.wakelock.mWakelockRefCount = system.proxy.wakelock.mWakelockRefCount ∧
      final.proxy.wakelock.held = system.proxy.wakelock.held := by
  obtain ⟨stopping, hstop, hrest⟩ := run_cons_eq_some.mp hrun
  simp only [step, Option.ite_none_right_eq_some, Option.some.injEq] at hstop
  obtain ⟨_, rfl⟩ := hstop
  have hfinal := run_preserves
    (P := fun state => state.phase = .stopping ∧ state.proxy.mThreadsRun = false ∧
      state.proxy.wakelock.mWakelockRefCount = system.proxy.wakelock.mWakelockRefCount ∧
      state.proxy.wakelock.held = system.proxy.wakelock.held)
    (fun state action next hother hstate hstep => by
      obtain ⟨hphase, hstopped, hcount, hheld⟩ := hstate
      obtain ⟨hnextPhase, hnextStopped, hnextCount, hnextHeld⟩ :=
        stopping_step hother hphase hstopped hstep
      exact ⟨hnextPhase, hnextStopped, hnextCount.trans hcount, hnextHeld.trans hheld⟩)
    hothers ⟨rfl, rfl, rfl, rfl⟩ hrest
  exact hfinal.2

def stopWhileLocked : List Action :=
  startUp 4 ++
    [.createScopedWakelock true 1, .stopThreads, .exitPendingWrites, .exitWakelocks 2]

def StrictClock (actions : List Action) : Prop :=
  (actions.flatMap Action.clockReadings).Pairwise (· < ·)

instance (actions : List Action) : Decidable (StrictClock actions) :=
  inferInstanceAs (Decidable (List.Pairwise _ _))

def EffectiveReset (header : HalProxyHeader) (system : System) (action : Action) : Prop :=
  system.proxy.mThreadsRun = true ∧ ∃ timeNow, wakelockOp header system action = .reset timeNow

def Destroys (system : System) (wakelock : ScopedWakelock) : Action → Prop
  | .destroyScopedWakelock index => system.wakelocks[index]? = some wakelock
  | .returnFromPostEvents index =>
      ∃ post, system.posts[index]? = some post ∧ post.wakelock = wakelock
  | _ => False

theorem reset_mem_clockReadings {system : System} {action : Action} {timeNow : ℤ}
    (hop : wakelockOp header system action = .reset timeNow) :
    timeNow ∈ action.clockReadings := by
  have hcalls := wakelockOp_calls header system action
  rw [hop] at hcalls
  exact hcalls

theorem resetTime_step {system next : System} {action : Action} {time : ℤ}
    (hlater : ∀ reading ∈ action.clockReadings, time < reading)
    (htime : time < system.proxy.wakelock.mWakelockTimeoutResetTime)
    (hstep : step header system action = some next) :
    time < next.proxy.wakelock.mWakelockTimeoutResetTime := by
  rw [(step_effects hstep).wakelock, Wakelock.apply_resetTime]
  cases hop : wakelockOp header system action with
  | reset timeNow => exact hlater timeNow (reset_mem_clockReadings hop)
  | _ => exact htime

theorem destroys_wakelockOp {system : System} {wakelock : ScopedWakelock} {action : Action}
    (hdestroys : Destroys system wakelock action) :
    wakelockOp header system action = wakelock.destroyOp := by
  cases action with
  | destroyScopedWakelock index =>
      have hwakelock : system.wakelocks[index]? = some wakelock := hdestroys
      simp only [wakelockOp, hwakelock]
  | returnFromPostEvents index =>
      obtain ⟨post, hpost, rfl⟩ := hdestroys
      simp only [wakelockOp, hpost]
  | _ => exact absurd hdestroys id

def ReachedAfterCreating (header : HalProxyHeader) (system : System) (createTime : ℤ)
    (wakelock : ScopedWakelock) (before : List Action) (state : System) : Prop :=
  ∃ created, step header system (.createScopedWakelock true createTime) = some created ∧
    created.wakelocks.getLast? = some wakelock ∧
    run (step header) created before = some state

/-- With a strictly increasing clock, destroying a scoped wakelock that was created
before an effective reset changes neither the count nor the wake lock. -/
theorem stale_scoped_wakelock_inert (header : HalProxyHeader)
    {system atReset afterReset final next : System} {createTime : ℤ}
    {wakelock : ScopedWakelock} {before after : List Action} {reset destroy : Action}
    (hcreated : ReachedAfterCreating header system createTime wakelock before atReset)
    (heffective : EffectiveReset header atReset reset)
    (hreset : step header atReset reset = some afterReset)
    (hafter : run (step header) afterReset after = some final)
    (hdestroys : Destroys final wakelock destroy)
    (hdestroy : step header final destroy = some next)
    (hnonneg : 0 ≤ createTime)
    (hclock : StrictClock
      (.createScopedWakelock true createTime :: before ++ reset :: after)) :
    next.proxy.wakelock.mWakelockRefCount = final.proxy.wakelock.mWakelockRefCount ∧
      next.proxy.wakelock.held = final.proxy.wakelock.held := by
  have htime : wakelock.mCreatedAtTimeNs = createTime := by
    obtain ⟨created, hcreate, hlast, _⟩ := hcreated
    rw [step, Option.some.injEq] at hcreate
    subst created
    rw [List.getLast?_concat, Option.some.injEq] at hlast
    rw [← hlast]
    rfl
  have hreadings : ∀ reading ∈ (before ++ reset :: after).flatMap Action.clockReadings,
      createTime < reading := by
    have hpairs : (createTime ::
        (before ++ reset :: after).flatMap Action.clockReadings).Pairwise (· < ·) := hclock
    exact (List.pairwise_cons.mp hpairs).1
  have hlater : ∀ action ∈ reset :: after, ∀ reading ∈ action.clockReadings,
      createTime < reading := by
    intro action hmem reading hreading
    exact hreadings reading
      (List.mem_flatMap.mpr ⟨action, List.mem_append_right before hmem, hreading⟩)
  have hjust : createTime < afterReset.proxy.wakelock.mWakelockTimeoutResetTime := by
    obtain ⟨_, timeNow, hop⟩ := heffective
    rw [(step_effects hreset).wakelock, Wakelock.apply_resetTime, hop]
    exact hlater reset (by simp) timeNow (reset_mem_clockReadings hop)
  have hstale : createTime < final.proxy.wakelock.mWakelockTimeoutResetTime :=
    run_preserves
      (P := fun state => createTime < state.proxy.wakelock.mWakelockTimeoutResetTime)
      (C := fun action => ∀ reading ∈ action.clockReadings, createTime < reading)
      (fun _ _ _ hallowed htime hstep => resetTime_step hallowed htime hstep)
      (fun action hmem => hlater action (List.mem_cons_of_mem reset hmem)) hjust hafter
  have hwakelock : next.proxy.wakelock = final.proxy.wakelock := by
    rw [(step_effects hdestroy).wakelock, destroys_wakelockOp hdestroys]
    unfold ScopedWakelock.destroyOp
    split
    · rw [htime]
      exact Wakelock.decrement_of_stale
        (by simp only [Wakelock.noTimeoutStart]; omega) hstale final.proxy.mThreadsRun 1
    · rfl
  rw [hwakelock]
  exact ⟨rfl, rfl⟩

theorem stale_scoped_wakelock_example :
    let locked := startUp 4 ++ [.createScopedWakelock true 1]
    let final := sampleState
      (locked ++ [.checkWakelock 100 101, .createScopedWakelock true 102])
    final.proxy.wakelock.mWakelockRefCount = 1 ∧
      ∃ next, step sampleHeader final (.destroyScopedWakelock 0) = some next ∧
        next.proxy.wakelock.mWakelockRefCount = 1 := by
  intro locked final
  have hcreated : ReachedAfterCreating sampleHeader (sampleState (startUp 4)) 1
      { mLocked := true, mCreatedAtTimeNs := 1 } [] (sampleState locked) :=
    ⟨_, rfl, rfl, rfl⟩
  have heffective :
      EffectiveReset sampleHeader (sampleState locked) (.checkWakelock 100 101) :=
    ⟨rfl, 101, rfl⟩
  have hreset : step sampleHeader (sampleState locked) (.checkWakelock 100 101) =
      some (sampleState (locked ++ [.checkWakelock 100 101])) := rfl
  have hafter : run (step sampleHeader) (sampleState (locked ++ [.checkWakelock 100 101]))
      [.createScopedWakelock true 102] = some final := rfl
  have hdestroys : Destroys final { mLocked := true, mCreatedAtTimeNs := 1 }
      (.destroyScopedWakelock 0) := show final.wakelocks[0]? = _ from rfl
  exact ⟨rfl, _, rfl, (stale_scoped_wakelock_inert sampleHeader hcreated heffective hreset
    hafter hdestroys rfl (by decide) (by decide)).1⟩

/-- Two wake-up events with a timeout between them; the framework has read the first
when the reset happens and acknowledges it after the second was posted. -/
def lateAcknowledgement : List Action :=
  startUp 4 ++
    [.createScopedWakelock true 1, .postEvents 0 0 [sampleEvent 1 50],
      .postEventsToMessageQueue 0 true 2, .returnFromPostEvents 0, .readEvents 1,
      .checkWakelock 100 101,
      .createScopedWakelock true 102, .postEvents 0 0 [sampleEvent 1 60],
      .postEventsToMessageQueue 0 true 103, .returnFromPostEvents 0,
      .checkWakelock 104 105]

/-- The thread is writing an event posted before the timeout when another is stored. -/
def lateDrop : List Action :=
  startUp 1 ++
    [.createScopedWakelock true 1, .postEvents 0 0 [sampleEvent 1 40, sampleEvent 1 50],
      .postEventsToMessageQueue 0 true 2, .returnFromPostEvents 0, .pickPendingWrite,
      .checkWakelock 100 101,
      .createScopedWakelock true 102, .postEvents 0 0 [sampleEvent 1 60],
      .postEventsToMessageQueue 0 true 103, .returnFromPostEvents 0]

theorem late_settlements_release :
    (StrictClock (lateAcknowledgement ++ [.readWakeLockQueue (some 1)]) ∧
      StrictClock (lateDrop ++ [.writeBlocking false])) ∧
      (run (step sampleHeader) (construct sampleSubHals) lateAcknowledgement).map
        (fun system => (system.proxy.wakelock.mWakelockRefCount, system.proxy.wakelock.held,
          system.proxy.eventPath.mEventQueue.map MessageQueue.unread)) =
            some (1, true, some [sampleEvent 1 60]) ∧
      (run (step sampleHeader) (construct sampleSubHals)
          (lateAcknowledgement ++ [.readWakeLockQueue (some 1)])).map
        (fun system => (system.proxy.wakelock.mWakelockRefCount, system.proxy.wakelock.held,
          system.proxy.eventPath.mEventQueue.map MessageQueue.unread)) =
            some (0, false, some [sampleEvent 1 60]) ∧
      (run (step sampleHeader) (construct sampleSubHals) lateDrop).map
        (fun system => (system.proxy.wakelock.mWakelockRefCount, system.proxy.wakelock.held,
          system.proxy.eventPath.pendingEvents)) =
            some (1, true, [sampleEvent 1 50, sampleEvent 1 60]) ∧
      (run (step sampleHeader) (construct sampleSubHals)
          (lateDrop ++ [.writeBlocking false])).map
        (fun system => (system.proxy.wakelock.mWakelockRefCount, system.proxy.wakelock.held,
          system.proxy.eventPath.pendingEvents)) =
            some (0, false, [sampleEvent 1 50, sampleEvent 1 60]) := by
  decide

end System
end Camellia.Sensors

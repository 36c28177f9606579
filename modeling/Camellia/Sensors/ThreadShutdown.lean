import Camellia.Transition

/-!
# Stopping the proxy's threads

Each of the two threads sleeps on a condition variable between a check of its
predicate and the release of its mutex, and `stopThreads` wakes it with one
notification.  Here the sections that the system takes as one action are split at
these points: `stopThreads` stores the flag and notifies without the mutexes, so
that a notification may fall between the check of a thread and its sleep.  Posts
and wakelock changes notify too, but under the mutex.
-/

namespace Camellia.Sensors
namespace ThreadShutdown

open Transition

inductive WorkerId where
  | pendingWrites
  | wakelocks
deriving DecidableEq

/-- Where a thread is in `handlePendingWrites` or `handleWakelocks`: before it first
takes its mutex, at the test of the loop, at the predicate of the wait, between the
predicate and the sleep, in the sleep, after it, behind the wait, in the body of the
loop, in the blocking call on the message queue, gone. -/
inductive WorkerStage where
  | entering
  | testing
  | checking
  | committed
  | asleep
  | woken
  | serving
  | running
  | blocked
  | exited
deriving DecidableEq

def WorkerStage.holdsMutex : WorkerStage → Bool
  | .testing | .checking | .committed | .serving | .running => true
  | _ => false

/-- `work` is what the predicate of the wait looks at: the number of pending batches, or
`mWakelockRefCount`. -/
structure Worker where
  stage : WorkerStage
  work : ℕ
deriving DecidableEq

/-- `notify_one` on the condition variable of the thread. -/
def Worker.notify (worker : Worker) : Worker :=
  if worker.stage = .asleep then { worker with stage := .woken } else worker

/-- Where `stopThreads` is, by the last thing it has done. -/
inductive StopStage where
  | idle
  | stored
  | notifiedWakelocks
  | notifiedPendingWrites
  | joinedPendingWrites
  | joined
deriving DecidableEq

structure State where
  mThreadsRun : Bool
  stop : StopStage
  pendingWrites : Worker
  wakelocks : Worker
deriving DecidableEq

namespace State

def initial : State where
  mThreadsRun := false
  stop := .idle
  pendingWrites := { stage := .exited, work := 0 }
  wakelocks := { stage := .exited, work := 0 }

def worker (state : State) : WorkerId → Worker
  | .pendingWrites => state.pendingWrites
  | .wakelocks => state.wakelocks

def setWorker (state : State) (id : WorkerId) (worker : Worker) : State :=
  match id with
  | .pendingWrites => { state with pendingWrites := worker }
  | .wakelocks => { state with wakelocks := worker }

end State

inductive Action where
  -- the binder thread
  | storeThreadsRun
  | notifyWakelocks
  | notifyPendingWrites
  | joinPendingWrites
  | joinWakelocks
  | restart
  -- both threads
  | lockMutex (id : WorkerId)
  | testThreadsRun (id : WorkerId)
  | checkPredicate (id : WorkerId)
  | sleep (id : WorkerId)
  | wakeSpuriously (id : WorkerId)
  | relock (id : WorkerId)
  | serve (id : WorkerId)
  | unlock (id : WorkerId)
  -- one of them
  | finishPendingWrite (popped : Bool)
  | resetSharedWakelock
  | readBlocking (numWakeLocksProcessed : ℕ)
  -- other threads
  | pushPendingWrite
  | incrementRefCount (delta : ℕ)
  | decrementRefCount (delta : ℕ)
deriving DecidableEq

/-- A thread moves on from `stage`. -/
def moveWorker (state : State) (id : WorkerId) (stage next : WorkerStage) : Option State :=
  if (state.worker id).stage = stage then
    some (state.setWorker id { state.worker id with stage := next })
  else none

/-- A thread ends the body of its loop with the mutex held. -/
def endBody (state : State) (id : WorkerId) (stage : WorkerStage) (work : ℕ) : Option State :=
  if (state.worker id).stage = stage then
    some (state.setWorker id { stage := .testing, work := work })
  else none

/-- Another thread updates `work`, and perhaps notifies, under the mutex. -/
def underMutex (state : State) (id : WorkerId) (worker : Worker) : Option State :=
  if (state.worker id).stage.holdsMutex then none else some (state.setWorker id worker)

/-- The calls that change `mWakelockRefCount` do nothing once the flag is cleared.  Other
threads read it before they take the mutex and may still find it set. -/
def ifRunning (state : State) (work : ℕ) : ℕ :=
  if state.mThreadsRun then work else state.wakelocks.work

def step (state : State) : Action → Option State
  | .storeThreadsRun =>
      if state.stop = .idle then some { state with mThreadsRun := false, stop := .stored }
      else none
  | .notifyWakelocks =>
      if state.stop = .stored then
        some { state with stop := .notifiedWakelocks, wakelocks := state.wakelocks.notify }
      else none
  | .notifyPendingWrites =>
      if state.stop = .notifiedWakelocks then
        some { state with
          stop := .notifiedPendingWrites
          pendingWrites := state.pendingWrites.notify }
      else none
  | .joinPendingWrites =>
      if state.stop = .notifiedPendingWrites ∧ state.pendingWrites.stage = .exited then
        some { state with stop := .joinedPendingWrites }
      else none
  | .joinWakelocks =>
      if state.stop = .joinedPendingWrites ∧ state.wakelocks.stage = .exited then
        some { state with stop := .joined }
      else none
  | .restart =>
      if state.stop = .joined then
        some {
          mThreadsRun := true
          stop := .idle
          pendingWrites := { stage := .entering, work := 0 }
          wakelocks := { state.wakelocks with stage := .entering } }
      else none
  | .lockMutex id => moveWorker state id .entering .testing
  | .testThreadsRun id =>
      moveWorker state id .testing (if state.mThreadsRun then .checking else .exited)
  | .checkPredicate id =>
      moveWorker state id .checking
        (if 0 < (state.worker id).work ∨ !state.mThreadsRun then .serving else .committed)
  | .sleep id => moveWorker state id .committed .asleep
  | .wakeSpuriously id => moveWorker state id .asleep .woken
  | .relock id => moveWorker state id .woken .checking
  | .serve id =>
      moveWorker state id .serving (if state.mThreadsRun then .running else .testing)
  | .unlock id => moveWorker state id .running .blocked
  | .finishPendingWrite popped =>
      endBody state .pendingWrites .blocked
        (state.pendingWrites.work - if popped then 1 else 0)
  | .resetSharedWakelock => endBody state .wakelocks .running (ifRunning state 0)
  | .readBlocking numWakeLocksProcessed =>
      endBody state .wakelocks .blocked
        (ifRunning state (state.wakelocks.work - numWakeLocksProcessed))
  | .pushPendingWrite =>
      underMutex state .pendingWrites
        { state.pendingWrites with work := state.pendingWrites.work + 1 }.notify
  | .incrementRefCount delta =>
      let worker := { state.wakelocks with work := state.wakelocks.work + delta }
      underMutex state .wakelocks
        (if state.wakelocks.work = 0 then worker.notify else worker)
  | .decrementRefCount delta =>
      underMutex state .wakelocks
        { state.wakelocks with work := state.wakelocks.work - delta }

/-! ## The wake-up -/

/-- `stopThreads` is about to join threads, one of which is asleep. -/
def WakeUpLost (state : State) : Prop :=
  state.mThreadsRun = false ∧
    (state.stop = .notifiedPendingWrites ∨ state.stop = .joinedPendingWrites) ∧
    ∃ id, (state.worker id).stage = .asleep

/-- `stopThreads` has notified the condition variable of `id`. -/
def StopStage.notified : StopStage → WorkerId → Bool
  | .idle, _ => false
  | .stored, _ => false
  | .notifiedWakelocks, id => id = .wakelocks
  | _, _ => true

/-- A notification of `stopThreads` does not find its thread between the check of the
predicate and the sleep. -/
def missesWindow (state : State) : Action → Bool
  | .notifyWakelocks => state.wakelocks.stage ≠ .committed
  | .notifyPendingWrites => state.pendingWrites.stage ≠ .committed
  | _ => true

/-- The thread sleeps, or will do so at its next step. -/
def WorkerStage.goesToSleep : WorkerStage → Bool
  | .committed | .asleep => true
  | _ => false

def Stopped (state : State) : Prop :=
  state.stop ≠ .idle → state.mThreadsRun = false

/-- No thread that has been notified to stop goes to sleep. -/
def Awake (state : State) : Prop :=
  ∀ id, state.stop.notified id = true → (state.worker id).stage.goesToSleep = false

@[simp] theorem worker_setWorker (state : State) (id : WorkerId) (worker : Worker) :
    (state.setWorker id worker).worker id = worker := by
  cases id <;> rfl

theorem worker_setWorker_of_ne (state : State) {id other : WorkerId} (hne : other ≠ id)
    (worker : Worker) : (state.setWorker id worker).worker other = state.worker other := by
  cases id <;> cases other <;> first | rfl | contradiction

@[simp] theorem setWorker_stop (state : State) (id : WorkerId) (worker : Worker) :
    (state.setWorker id worker).stop = state.stop := by
  cases id <;> rfl

@[simp] theorem setWorker_mThreadsRun (state : State) (id : WorkerId) (worker : Worker) :
    (state.setWorker id worker).mThreadsRun = state.mThreadsRun := by
  cases id <;> rfl

theorem notify_goesToSleep {worker : Worker} (hstage : worker.stage ≠ .committed) :
    worker.notify.stage.goesToSleep = false := by
  unfold Worker.notify
  cases hworker : worker.stage <;> simp_all [WorkerStage.goesToSleep]

theorem moveWorker_spec {state next : State} {id : WorkerId} {stage after : WorkerStage}
    (hstep : moveWorker state id stage after = some next) :
    (state.worker id).stage = stage ∧
      next = state.setWorker id { state.worker id with stage := after } := by
  rw [moveWorker, Option.ite_none_right_eq_some, Option.some.injEq] at hstep
  exact ⟨hstep.1, hstep.2.symm⟩

theorem endBody_spec {state next : State} {id : WorkerId} {stage : WorkerStage} {work : ℕ}
    (hstep : endBody state id stage work = some next) :
    next = state.setWorker id { stage := .testing, work := work } := by
  rw [endBody, Option.ite_none_right_eq_some, Option.some.injEq] at hstep
  exact hstep.2.symm

theorem underMutex_spec {state next : State} {id : WorkerId} {worker : Worker}
    (hstep : underMutex state id worker = some next) : next = state.setWorker id worker := by
  rw [underMutex, Option.ite_none_left_eq_some, Option.some.injEq] at hstep
  exact hstep.2.symm

def Action.isBinder : Action → Bool
  | .storeThreadsRun | .notifyWakelocks | .notifyPendingWrites => true
  | .joinPendingWrites | .joinWakelocks | .restart => true
  | _ => false

theorem notify_goesToSleep_le {worker : Worker}
    (hsleeps : worker.notify.stage.goesToSleep = true) :
    worker.stage.goesToSleep = true := by
  unfold Worker.notify at hsleeps
  split at hsleeps
  · contradiction
  · exact hsleeps

/-- Every other step changes one thread, which starts to go to sleep only when it finds
the flag set. -/
theorem worker_step {state next : State} {action : Action} (hother : action.isBinder = false)
    (hstep : step state action = some next) :
    ∃ id worker, next = state.setWorker id worker ∧
      (worker.stage.goesToSleep = true →
        (state.worker id).stage.goesToSleep = true ∨ state.mThreadsRun = true) := by
  have hmove {id : WorkerId} {stage after : WorkerStage} (hafter : after.goesToSleep = false)
      (hstep : moveWorker state id stage after = some next) :
      ∃ id worker, next = state.setWorker id worker ∧
        (worker.stage.goesToSleep = true →
          (state.worker id).stage.goesToSleep = true ∨ state.mThreadsRun = true) := by
    refine ⟨id, _, (moveWorker_spec hstep).2, fun hsleeps => ?_⟩
    rw [hafter] at hsleeps
    contradiction
  cases action with
  | lockMutex id => exact hmove rfl hstep
  | testThreadsRun id => exact hmove (by split <;> rfl) hstep
  | checkPredicate id =>
      refine ⟨id, _, (moveWorker_spec hstep).2, fun hsleeps => Or.inr ?_⟩
      by_contra hflag
      rw [if_pos (Or.inr (by simpa using hflag))] at hsleeps
      contradiction
  | sleep id =>
      obtain ⟨hcommitted, rfl⟩ := moveWorker_spec hstep
      exact ⟨id, _, rfl, fun _ => Or.inl (by rw [hcommitted]; rfl)⟩
  | wakeSpuriously id => exact hmove rfl hstep
  | relock id => exact hmove rfl hstep
  | serve id => exact hmove (by split <;> rfl) hstep
  | unlock id => exact hmove rfl hstep
  | finishPendingWrite popped => exact ⟨_, _, endBody_spec hstep, fun hsleeps => nomatch hsleeps⟩
  | resetSharedWakelock => exact ⟨_, _, endBody_spec hstep, fun hsleeps => nomatch hsleeps⟩
  | readBlocking processed => exact ⟨_, _, endBody_spec hstep, fun hsleeps => nomatch hsleeps⟩
  | pushPendingWrite =>
      refine ⟨_, _, underMutex_spec hstep, fun hsleeps => Or.inl ?_⟩
      have hslept := notify_goesToSleep_le hsleeps
      exact hslept
  | incrementRefCount delta =>
      refine ⟨_, _, underMutex_spec hstep, fun hsleeps => Or.inl ?_⟩
      by_cases hzero : state.wakelocks.work = 0
      · rw [if_pos hzero] at hsleeps
        have hslept := notify_goesToSleep_le hsleeps
        exact hslept
      · rw [if_neg hzero] at hsleeps
        exact hsleeps
  | decrementRefCount delta =>
      exact ⟨_, _, underMutex_spec hstep, fun hsleeps => Or.inl hsleeps⟩
  | _ => contradiction

theorem stopped_step {state next : State} {action : Action} (hstopped : Stopped state)
    (hstep : step state action = some next) : Stopped next := by
  cases hbinder : action.isBinder with
  | false =>
      obtain ⟨id, worker, rfl, _⟩ := worker_step hbinder hstep
      rw [Stopped, setWorker_stop, setWorker_mThreadsRun]
      exact hstopped
  | true =>
      cases action with
      | storeThreadsRun =>
          rw [step, Option.ite_none_right_eq_some, Option.some.injEq] at hstep
          exact hstep.2 ▸ fun _ => rfl
      | notifyWakelocks =>
          rw [step, Option.ite_none_right_eq_some, Option.some.injEq] at hstep
          exact hstep.2 ▸ fun _ => hstopped (by simp [hstep.1])
      | notifyPendingWrites =>
          rw [step, Option.ite_none_right_eq_some, Option.some.injEq] at hstep
          exact hstep.2 ▸ fun _ => hstopped (by simp [hstep.1])
      | joinPendingWrites =>
          rw [step, Option.ite_none_right_eq_some, Option.some.injEq] at hstep
          exact hstep.2 ▸ fun _ => hstopped (by simp [hstep.1.1])
      | joinWakelocks =>
          rw [step, Option.ite_none_right_eq_some, Option.some.injEq] at hstep
          exact hstep.2 ▸ fun _ => hstopped (by simp [hstep.1.1])
      | restart =>
          rw [step, Option.ite_none_right_eq_some, Option.some.injEq] at hstep
          exact hstep.2 ▸ fun hbusy => absurd rfl hbusy
      | _ => contradiction

/-! ## Nobody goes to sleep -/

theorem Awake.setWorker {state : State} (hawake : Awake state) (hstopped : Stopped state)
    {id : WorkerId} {worker : Worker}
    (hworker : worker.stage.goesToSleep = true →
      (state.worker id).stage.goesToSleep = true ∨ state.mThreadsRun = true) :
    Awake (state.setWorker id worker) := by
  intro other hnotified
  rw [setWorker_stop] at hnotified
  by_cases hsame : other = id
  · subst other
    rw [worker_setWorker]
    by_contra hsleeps
    rcases hworker (by simpa using hsleeps) with hslept | hrun
    · rw [hawake id hnotified] at hslept
      contradiction
    · have hbusy : state.stop ≠ .idle := by
        intro hidle
        rw [hidle] at hnotified
        contradiction
      rw [hstopped hbusy] at hrun
      contradiction
  · rw [worker_setWorker_of_ne state hsame]
    exact hawake other hnotified

theorem awake_step {state next : State} {action : Action} (hawake : Awake state)
    (hstopped : Stopped state) (hmisses : missesWindow state action = true)
    (hstep : step state action = some next) : Awake next := by
  cases hbinder : action.isBinder with
  | false =>
      obtain ⟨id, worker, rfl, hworker⟩ := worker_step hbinder hstep
      exact hawake.setWorker hstopped hworker
  | true =>
      intro id hnotified
      cases action with
      | storeThreadsRun =>
          rw [step, Option.ite_none_right_eq_some, Option.some.injEq] at hstep
          obtain ⟨_, rfl⟩ := hstep
          contradiction
      | notifyWakelocks =>
          rw [step, Option.ite_none_right_eq_some, Option.some.injEq] at hstep
          obtain ⟨_, rfl⟩ := hstep
          cases id with
          | pendingWrites => contradiction
          | wakelocks => exact notify_goesToSleep (of_decide_eq_true hmisses)
      | notifyPendingWrites =>
          rw [step, Option.ite_none_right_eq_some, Option.some.injEq] at hstep
          obtain ⟨hstop, rfl⟩ := hstep
          cases id with
          | pendingWrites => exact notify_goesToSleep (of_decide_eq_true hmisses)
          | wakelocks => exact hawake .wakelocks (by rw [hstop]; rfl)
      | joinPendingWrites =>
          rw [step, Option.ite_none_right_eq_some, Option.some.injEq] at hstep
          obtain ⟨⟨hstop, _⟩, rfl⟩ := hstep
          exact hawake id (by rw [hstop]; rfl)
      | joinWakelocks =>
          rw [step, Option.ite_none_right_eq_some, Option.some.injEq] at hstep
          obtain ⟨⟨hstop, _⟩, rfl⟩ := hstep
          exact hawake id (by rw [hstop]; rfl)
      | restart =>
          rw [step, Option.ite_none_right_eq_some, Option.some.injEq] at hstep
          obtain ⟨_, rfl⟩ := hstep
          contradiction
      | _ => contradiction

theorem Awake.not_lost {state : State} (hawake : Awake state) : ¬WakeUpLost state := by
  rintro ⟨_, hstop, id, hasleep⟩
  have hnotified : state.stop.notified id = true := by
    rcases hstop with hstop | hstop <;> rw [hstop] <;> rfl
  have hsleepless := hawake id hnotified
  rw [hasleep] at hsleepless
  contradiction

theorem not_lost_of_missesWindow {actions : List Action}
    (hmisses : EveryStep step (fun state action => missesWindow state action = true)
      .initial actions) :
    EveryState step (fun state => ¬WakeUpLost state) .initial actions := by
  have hawake : EveryState step (fun state => Awake state ∧ Stopped state) .initial actions := by
    refine EveryStep.everyState ?_ ⟨?_, ?_⟩ hmisses
    · rintro state action next ⟨hawake, hstopped⟩ hone hstep
      exact ⟨awake_step hawake hstopped hone hstep, stopped_step hstopped hstep⟩
    · intro id hnotified
      contradiction
    · exact fun hbusy => absurd rfl hbusy
  exact hawake.imp fun state hboth => hboth.1.not_lost

theorem run_sleep {state : State} {id : WorkerId}
    (hcommitted : (state.worker id).stage = .committed) :
    run step state [.sleep id] =
      some (state.setWorker id { state.worker id with stage := .asleep }) := by
  simp [run, step, moveWorker, hcommitted]

/-- A notification inside the window can be followed by the sleep before the join. -/
theorem lost_of_window {state next : State} {action : Action} (hstopped : Stopped state)
    (hstep : step state action = some next) (hinside : missesWindow state action = false) :
    ∃ later final, run step next later = some final ∧ WakeUpLost final := by
  cases action with
  | notifyWakelocks =>
      rw [step, Option.ite_none_right_eq_some, Option.some.injEq] at hstep
      obtain ⟨hstop, rfl⟩ := hstep
      have hcommitted : state.wakelocks.stage = .committed := by
        simpa [missesWindow] using hinside
      have hflag : state.mThreadsRun = false := hstopped (by simp [hstop])
      have hmissed : state.wakelocks.notify = state.wakelocks := by
        simp [Worker.notify, hcommitted]
      refine ⟨.notifyPendingWrites :: [.sleep .wakelocks], _, run_cons_eq_some.mpr
        ⟨_, rfl, run_sleep ?_⟩, hflag, Or.inl rfl, .wakelocks, rfl⟩
      exact (congrArg Worker.stage hmissed).trans hcommitted
  | notifyPendingWrites =>
      rw [step, Option.ite_none_right_eq_some, Option.some.injEq] at hstep
      obtain ⟨hstop, rfl⟩ := hstep
      have hcommitted : state.pendingWrites.stage = .committed := by
        simpa [missesWindow] using hinside
      have hflag : state.mThreadsRun = false := hstopped (by simp [hstop])
      have hmissed : state.pendingWrites.notify = state.pendingWrites := by
        simp [Worker.notify, hcommitted]
      refine ⟨[.sleep .pendingWrites], _, run_sleep ?_, hflag, Or.inl rfl,
        .pendingWrites, rfl⟩
      exact (congrArg Worker.stage hmissed).trans hcommitted
  | _ => simp [missesWindow] at hinside

/-- A run whose notifications miss the window loses no wake-up, and every notification
that hits the window has a continuation that loses one. -/
theorem stopThreads_wakes_iff (actions : List Action) :
    (EveryStep step (fun state action => missesWindow state action = true) .initial actions →
        EveryState step (fun state => ¬WakeUpLost state) .initial actions) ∧
      ∀ state action next, Reachable step .initial state → step state action = some next →
        missesWindow state action = false →
          ∃ later final, run step next later = some final ∧ WakeUpLost final := by
  refine ⟨not_lost_of_missesWindow, ?_⟩
  intro state action next hreach hstep hinside
  have hstopped : Stopped state :=
    hreach.invariant (fun hbusy => absurd rfl hbusy) fun _ _ _ => stopped_step
  exact lost_of_window hstopped hstep hinside

/-- The wakelock thread checks its predicate, `stopThreads` stores the flag and notifies
both threads, the wakelock thread falls asleep. -/
def stopInWindow : List Action :=
  [.storeThreadsRun, .notifyWakelocks, .notifyPendingWrites, .joinPendingWrites,
    .joinWakelocks, .restart, .lockMutex .wakelocks, .testThreadsRun .wakelocks,
    .checkPredicate .wakelocks, .storeThreadsRun, .notifyWakelocks, .notifyPendingWrites,
    .sleep .wakelocks]

theorem stopThreads_loses_wakeUp :
    ¬EveryState step (fun state => ¬WakeUpLost state) .initial stopInWindow := by
  intro hevery
  have hrun : run step .initial stopInWindow = some {
      mThreadsRun := false
      stop := .notifiedPendingWrites
      pendingWrites := { stage := .entering, work := 0 }
      wakelocks := { stage := .asleep, work := 0 } } := by decide
  exact hevery.final hrun ⟨rfl, Or.inl rfl, .wakelocks, rfl⟩

theorem stopThreads_wakes_example :
    EveryState step (fun state => ¬WakeUpLost state) .initial
        (stopInWindow.take 9 ++ [.sleep .wakelocks, .storeThreadsRun, .notifyWakelocks]) ∧
      ∃ next later final, run step .initial (stopInWindow.take 11) = some next ∧
        run step next later = some final ∧ WakeUpLost final := by
  refine ⟨(stopThreads_wakes_iff _).1 (by decide), ?_⟩
  have hreach : run step .initial (stopInWindow.take 10) = some {
      mThreadsRun := false
      stop := .stored
      pendingWrites := { stage := .entering, work := 0 }
      wakelocks := { stage := .committed, work := 0 } } := by decide
  obtain ⟨later, final, hrun, hlost⟩ :=
    (stopThreads_wakes_iff []).2 _ .notifyWakelocks _ ⟨_, hreach⟩ rfl rfl
  exact ⟨_, later, final, by decide, hrun, hlost⟩

end ThreadShutdown
end Camellia.Sensors

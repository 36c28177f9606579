import Camellia.Inevitable
import Camellia.Sensors.ThreadShutdown

/-!
# Whether `stopThreads` returns

Once the flag is cleared a thread can only go on to its end, except from the window
between the predicate and the sleep.  A thread inside it may be notified too early, and
one that sleeps after its notification is waited for for ever; from every other state
`stopThreads` returns, whatever order it and the threads take their steps in.
-/

namespace Camellia.Sensors
namespace ThreadShutdown

open Transition

/-- The steps of `stopThreads` and of the two threads.  No other thread gives them anything
to do, and nobody wakes up without a notification. -/
def Action.own : Action → Bool
  | .storeThreadsRun | .restart | .wakeSpuriously _ => false
  | .pushPendingWrite | .incrementRefCount _ | .decrementRefCount _ => false
  | _ => true

def Own (_ : State) (action : Action) : Prop := action.own = true

/-- No thread is about to sleep, and none that has been notified is asleep. -/
def Ready (state : State) : Prop :=
  ∀ id, (state.worker id).stage ≠ .committed ∧
    (state.stop.notified id = true → (state.worker id).stage ≠ .asleep)

def StopStage.hasJoined : StopStage → WorkerId → Bool
  | .joinedPendingWrites, id => id = .pendingWrites
  | .joined, _ => true
  | _, _ => false

/-- A thread that has been joined is gone. -/
def Joined (state : State) : Prop :=
  ∀ id, state.stop.hasJoined id = true → (state.worker id).stage = .exited

/-! ## What is left to do -/

def WorkerStage.left : WorkerStage → ℕ
  | .committed => 6
  | .asleep => 5
  | .woken => 4
  | .checking => 3
  | .running => 3
  | .entering => 2
  | .serving => 2
  | .blocked => 2
  | .testing => 1
  | .exited => 0

def StopStage.left : StopStage → ℕ
  | .idle => 5
  | .stored => 4
  | .notifiedWakelocks => 3
  | .notifiedPendingWrites => 2
  | .joinedPendingWrites => 1
  | .joined => 0

def left (state : State) : ℕ :=
  state.stop.left + (state.pendingWrites.stage.left + state.wakelocks.stage.left)

theorem left_setWorker {state : State} {id : WorkerId} {worker : Worker}
    (hless : worker.stage.left < (state.worker id).stage.left) :
    left (state.setWorker id worker) < left state := by
  cases id with
  | pendingWrites =>
      exact Nat.add_lt_add_left (Nat.add_lt_add_right hless _) _
  | wakelocks =>
      exact Nat.add_lt_add_left (Nat.add_lt_add_left hless _) _

theorem notify_left_le (worker : Worker) : worker.notify.stage.left ≤ worker.stage.left := by
  unfold Worker.notify
  split
  case isTrue hasleep =>
    rw [hasleep]
    exact Nat.le_succ 4
  case isFalse => exact le_rfl

/-- What a step of one of the threads does once the flag is cleared. -/
structure Winds (state : State) (id : WorkerId) (worker : Worker) : Prop where
  left : worker.stage.left < (state.worker id).stage.left
  committed : worker.stage ≠ .committed
  asleep : worker.stage = .asleep → (state.worker id).stage = .committed
  slept : (state.worker id).stage.goesToSleep = true → worker.stage = .asleep

section
variable {state next : State} {action : Action}

theorem Winds.move {id : WorkerId} {stage after : WorkerStage}
    (hstep : moveWorker state id stage after = some next) (hleft : after.left < stage.left)
    (hcommitted : after ≠ .committed) (hasleep : after = .asleep → stage = .committed)
    (hslept : stage.goesToSleep = true → after = .asleep) :
    ∃ id worker, next = state.setWorker id worker ∧ Winds state id worker := by
  obtain ⟨hstage, hnext⟩ := moveWorker_spec hstep
  subst hstage
  exact ⟨id, _, hnext, hleft, hcommitted, hasleep, hslept⟩

theorem Winds.body {id : WorkerId} {stage : WorkerStage} {work : ℕ}
    (hstep : endBody state id stage work = some next) (hleft : 1 < stage.left)
    (hslept : stage.goesToSleep = false) :
    ∃ id worker, next = state.setWorker id worker ∧ Winds state id worker := by
  have hstage : (state.worker id).stage = stage := by
    rw [endBody, Option.ite_none_right_eq_some] at hstep
    exact hstep.1
  subst hstage
  refine ⟨id, _, endBody_spec hstep, hleft, by simp, by simp, fun hsleeps => ?_⟩
  rw [hslept] at hsleeps
  contradiction

theorem own_step (hflag : state.mThreadsRun = false) (hown : action.own = true)
    (hbinder : action.isBinder = false) (hstep : step state action = some next) :
    ∃ id worker, next = state.setWorker id worker ∧ Winds state id worker := by
  cases action with
  | lockMutex id => exact Winds.move hstep (by decide) (by decide) (by decide) (by decide)
  | testThreadsRun id =>
      rw [step, hflag] at hstep
      exact Winds.move hstep (by decide) (by decide) (by decide) (by decide)
  | checkPredicate id =>
      have hpredicate : 0 < (state.worker id).work ∨ (!false) = true := .inr rfl
      rw [step, hflag, if_pos hpredicate] at hstep
      exact Winds.move hstep (by decide) (by decide) (by decide) (by decide)
  | sleep id => exact Winds.move hstep (by decide) (by decide) (fun _ => rfl) (fun _ => rfl)
  | relock id => exact Winds.move hstep (by decide) (by decide) (by decide) (by decide)
  | serve id =>
      rw [step, hflag] at hstep
      exact Winds.move hstep (by decide) (by decide) (by decide) (by decide)
  | unlock id => exact Winds.move hstep (by decide) (by decide) (by decide) (by decide)
  | finishPendingWrite popped => exact Winds.body hstep (by decide) rfl
  | resetSharedWakelock => exact Winds.body hstep (by decide) rfl
  | readBlocking processed => exact Winds.body hstep (by decide) rfl
  | _ => contradiction

/-- What `stopThreads` does next, by where it is. -/
theorem binder_cases (hown : action.own = true) (hbinder : action.isBinder = true)
    (hstep : step state action = some next) :
    (state.stop = .stored ∧ next = { state with
        stop := .notifiedWakelocks, wakelocks := state.wakelocks.notify }) ∨
    (state.stop = .notifiedWakelocks ∧ next = { state with
        stop := .notifiedPendingWrites, pendingWrites := state.pendingWrites.notify }) ∨
    (state.stop = .notifiedPendingWrites ∧ state.pendingWrites.stage = .exited ∧
      next = { state with stop := .joinedPendingWrites }) ∨
    (state.stop = .joinedPendingWrites ∧ state.wakelocks.stage = .exited ∧
      next = { state with stop := .joined }) := by
  cases action with
  | notifyWakelocks =>
      rw [step, Option.ite_none_right_eq_some, Option.some.injEq] at hstep
      exact .inl ⟨hstep.1, hstep.2.symm⟩
  | notifyPendingWrites =>
      rw [step, Option.ite_none_right_eq_some, Option.some.injEq] at hstep
      exact .inr (.inl ⟨hstep.1, hstep.2.symm⟩)
  | joinPendingWrites =>
      rw [step, Option.ite_none_right_eq_some, Option.some.injEq] at hstep
      exact .inr (.inr (.inl ⟨hstep.1.1, hstep.1.2, hstep.2.symm⟩))
  | joinWakelocks =>
      rw [step, Option.ite_none_right_eq_some, Option.some.injEq] at hstep
      exact .inr (.inr (.inr ⟨hstep.1.1, hstep.1.2, hstep.2.symm⟩))
  | _ => contradiction

theorem left_lt (hflag : state.mThreadsRun = false) (hown : action.own = true)
    (hstep : step state action = some next) : left next < left state := by
  cases hbinder : action.isBinder with
  | false =>
      obtain ⟨id, worker, rfl, hwinds⟩ := own_step hflag hown hbinder hstep
      exact left_setWorker hwinds.left
  | true =>
      have hwakelocks := notify_left_le state.wakelocks
      have hpendingWrites := notify_left_le state.pendingWrites
      rcases binder_cases hown hbinder hstep with
        ⟨hstop, rfl⟩ | ⟨hstop, rfl⟩ | ⟨hstop, _, rfl⟩ | ⟨hstop, _, rfl⟩
      all_goals
        simp only [left, hstop, StopStage.left]
        omega

/-! ## Joined threads are gone -/

theorem notify_exited {worker : Worker} (hexited : worker.stage = .exited) :
    worker.notify.stage = .exited := by
  have hawake : worker.stage ≠ .asleep := by
    rw [hexited]
    decide
  rw [Worker.notify, if_neg hawake]
  exact hexited

/-- A thread that is gone takes no step. -/
theorem worker_exited (hbinder : action.isBinder = false)
    (hstep : step state action = some next) :
    ∃ id worker, next = state.setWorker id worker ∧
      ((state.worker id).stage = .exited → worker.stage = .exited) := by
  have hmove {id : WorkerId} {stage after : WorkerStage}
      (hstep : moveWorker state id stage after = some next) (hstage : stage ≠ .exited) :
      ∃ id worker, next = state.setWorker id worker ∧
        ((state.worker id).stage = .exited → worker.stage = .exited) := by
    obtain ⟨hplace, hnext⟩ := moveWorker_spec hstep
    exact ⟨id, _, hnext, fun hexited => absurd (hplace.symm.trans hexited) hstage⟩
  have hbody {id : WorkerId} {stage : WorkerStage} {work : ℕ}
      (hstep : endBody state id stage work = some next) (hstage : stage ≠ .exited) :
      ∃ id worker, next = state.setWorker id worker ∧
        ((state.worker id).stage = .exited → worker.stage = .exited) := by
    have hplace : (state.worker id).stage = stage := by
      rw [endBody, Option.ite_none_right_eq_some] at hstep
      exact hstep.1
    exact ⟨id, _, endBody_spec hstep,
      fun hexited => absurd (hplace.symm.trans hexited) hstage⟩
  cases action with
  | lockMutex id => exact hmove hstep (by decide)
  | testThreadsRun id => exact hmove hstep (by decide)
  | checkPredicate id => exact hmove hstep (by decide)
  | sleep id => exact hmove hstep (by decide)
  | wakeSpuriously id => exact hmove hstep (by decide)
  | relock id => exact hmove hstep (by decide)
  | serve id => exact hmove hstep (by decide)
  | unlock id => exact hmove hstep (by decide)
  | finishPendingWrite popped => exact hbody hstep (by decide)
  | resetSharedWakelock => exact hbody hstep (by decide)
  | readBlocking processed => exact hbody hstep (by decide)
  | pushPendingWrite =>
      exact ⟨_, _, underMutex_spec hstep, fun hexited => notify_exited hexited⟩
  | incrementRefCount delta =>
      refine ⟨_, _, underMutex_spec hstep, fun hexited => ?_⟩
      split
      · exact notify_exited hexited
      · exact hexited
  | decrementRefCount delta => exact ⟨_, _, underMutex_spec hstep, id⟩
  | _ => contradiction

theorem joined_step (hjoined : Joined state) (hstep : step state action = some next) :
    Joined next := by
  cases hbinder : action.isBinder with
  | false =>
      obtain ⟨id, worker, rfl, hexited⟩ := worker_exited hbinder hstep
      intro other hother
      rw [setWorker_stop] at hother
      by_cases hsame : other = id
      · subst other
        rw [worker_setWorker]
        exact hexited (hjoined id hother)
      · rw [worker_setWorker_of_ne state hsame]
        exact hjoined other hother
  | true =>
      intro id hid
      cases action with
      | storeThreadsRun =>
          rw [step, Option.ite_none_right_eq_some, Option.some.injEq] at hstep
          obtain ⟨_, rfl⟩ := hstep
          contradiction
      | notifyWakelocks =>
          rw [step, Option.ite_none_right_eq_some, Option.some.injEq] at hstep
          obtain ⟨_, rfl⟩ := hstep
          contradiction
      | notifyPendingWrites =>
          rw [step, Option.ite_none_right_eq_some, Option.some.injEq] at hstep
          obtain ⟨_, rfl⟩ := hstep
          contradiction
      | joinPendingWrites =>
          rw [step, Option.ite_none_right_eq_some, Option.some.injEq] at hstep
          obtain ⟨⟨_, hexited⟩, rfl⟩ := hstep
          cases id with
          | pendingWrites => exact hexited
          | wakelocks => contradiction
      | joinWakelocks =>
          rw [step, Option.ite_none_right_eq_some, Option.some.injEq] at hstep
          obtain ⟨⟨hstop, hexited⟩, rfl⟩ := hstep
          cases id with
          | pendingWrites => exact hjoined .pendingWrites (by rw [hstop]; rfl)
          | wakelocks => exact hexited
      | restart =>
          rw [step, Option.ite_none_right_eq_some, Option.some.injEq] at hstep
          obtain ⟨_, rfl⟩ := hstep
          contradiction
      | _ => contradiction

/-! ## From a ready state -/

structure Stopping (state : State) : Prop where
  flag : state.mThreadsRun = false
  stop : state.stop ≠ .idle
  joined : Joined state

theorem Stopping.step (hstopping : Stopping state) (hown : action.own = true)
    (hstep : ThreadShutdown.step state action = some next) : Stopping next := by
  have hjoined : Joined next := joined_step hstopping.joined hstep
  cases hbinder : action.isBinder with
  | false =>
      obtain ⟨id, worker, rfl, _⟩ := own_step hstopping.flag hown hbinder hstep
      refine ⟨?_, ?_, hjoined⟩
      · rw [setWorker_mThreadsRun]
        exact hstopping.flag
      · rw [setWorker_stop]
        exact hstopping.stop
  | true =>
      rcases binder_cases hown hbinder hstep with
        ⟨_, rfl⟩ | ⟨_, rfl⟩ | ⟨_, _, rfl⟩ | ⟨_, _, rfl⟩
      all_goals exact ⟨hstopping.flag, nofun, hjoined⟩

theorem ready_step (hready : Ready state) (hflag : state.mThreadsRun = false)
    (hown : action.own = true) (hstep : step state action = some next) : Ready next := by
  have hnotify : ∀ worker : Worker, worker.stage ≠ .committed →
      worker.notify.stage ≠ .committed ∧ worker.notify.stage ≠ .asleep := by
    intro worker hcommitted
    have hawake := notify_goesToSleep hcommitted
    constructor <;>
    · intro hstage
      rw [hstage] at hawake
      contradiction
  cases hbinder : action.isBinder with
  | false =>
      obtain ⟨id, worker, rfl, hwinds⟩ := own_step hflag hown hbinder hstep
      intro other
      rw [setWorker_stop]
      by_cases hsame : other = id
      · subst other
        rw [worker_setWorker]
        exact ⟨hwinds.committed, fun _ hasleep => (hready id).1 (hwinds.asleep hasleep)⟩
      · rw [worker_setWorker_of_ne state hsame]
        exact hready other
  | true =>
      intro id
      rcases binder_cases hown hbinder hstep with
        ⟨_, rfl⟩ | ⟨hstop, rfl⟩ | ⟨hstop, _, rfl⟩ | ⟨hstop, _, rfl⟩
      · cases id with
        | pendingWrites => exact ⟨(hready .pendingWrites).1, nofun⟩
        | wakelocks =>
            have hboth := hnotify _ (hready .wakelocks).1
            exact ⟨hboth.1, fun _ => hboth.2⟩
      · cases id with
        | pendingWrites =>
            have hboth := hnotify _ (hready .pendingWrites).1
            exact ⟨hboth.1, fun _ => hboth.2⟩
        | wakelocks =>
            exact ⟨(hready .wakelocks).1, fun _ => (hready .wakelocks).2 (by rw [hstop]; rfl)⟩
      · exact ⟨(hready id).1, fun _ => (hready id).2 (by rw [hstop]; rfl)⟩
      · exact ⟨(hready id).1, fun _ => (hready id).2 (by rw [hstop]; rfl)⟩

/-- A thread that is neither gone nor asleep can go on. -/
theorem worker_moves (id : WorkerId) (hexited : (state.worker id).stage ≠ .exited)
    (hasleep : (state.worker id).stage ≠ .asleep) :
    ∃ action next, Own state action ∧ step state action = some next := by
  have hmove : ∀ {stage after : WorkerStage}, (state.worker id).stage = stage →
      moveWorker state id stage after =
        some (state.setWorker id { state.worker id with stage := after }) :=
    fun hstage => if_pos hstage
  cases hstage : (state.worker id).stage with
  | entering => exact ⟨.lockMutex id, _, rfl, hmove hstage⟩
  | testing => exact ⟨.testThreadsRun id, _, rfl, hmove hstage⟩
  | checking => exact ⟨.checkPredicate id, _, rfl, hmove hstage⟩
  | committed => exact ⟨.sleep id, _, rfl, hmove hstage⟩
  | asleep => contradiction
  | woken => exact ⟨.relock id, _, rfl, hmove hstage⟩
  | serving => exact ⟨.serve id, _, rfl, hmove hstage⟩
  | running => exact ⟨.unlock id, _, rfl, hmove hstage⟩
  | blocked =>
      cases id with
      | pendingWrites => exact ⟨.finishPendingWrite true, _, rfl, if_pos hstage⟩
      | wakelocks => exact ⟨.readBlocking 0, _, rfl, if_pos hstage⟩
  | exited => contradiction

theorem ready_moves (hready : Ready state) (hstopping : Stopping state)
    (hbusy : state.stop ≠ .joined) :
    ∃ action next, Own state action ∧ step state action = some next := by
  cases hstop : state.stop with
  | idle => exact absurd hstop hstopping.stop
  | stored => exact ⟨.notifyWakelocks, _, rfl, if_pos hstop⟩
  | notifiedWakelocks => exact ⟨.notifyPendingWrites, _, rfl, if_pos hstop⟩
  | notifiedPendingWrites =>
      by_cases hexited : state.pendingWrites.stage = .exited
      · exact ⟨.joinPendingWrites, _, rfl, if_pos ⟨hstop, hexited⟩⟩
      · exact worker_moves .pendingWrites hexited
          ((hready .pendingWrites).2 (by rw [hstop]; rfl))
  | joinedPendingWrites =>
      by_cases hexited : state.wakelocks.stage = .exited
      · exact ⟨.joinWakelocks, _, rfl, if_pos ⟨hstop, hexited⟩⟩
      · exact worker_moves .wakelocks hexited ((hready .wakelocks).2 (by rw [hstop]; rfl))
  | joined => contradiction

/-! ## From any other state -/

/-- A thread has been notified and sleeps all the same, or is about to. -/
def Missed (state : State) : Prop :=
  ∃ id, state.stop.notified id = true ∧ (state.worker id).stage.goesToSleep = true

theorem missed_step (hmissed : Missed state) (hstopping : Stopping state)
    (hown : action.own = true) (hstep : step state action = some next) : Missed next := by
  obtain ⟨id, hnotified, hsleeps⟩ := hmissed
  have hexited : (state.worker id).stage ≠ .exited := by
    intro hexited
    rw [hexited] at hsleeps
    contradiction
  cases hbinder : action.isBinder with
  | false =>
      obtain ⟨other, worker, rfl, hwinds⟩ := own_step hstopping.flag hown hbinder hstep
      refine ⟨id, ?_, ?_⟩
      · rw [setWorker_stop]
        exact hnotified
      · by_cases hsame : id = other
        · subst other
          rw [worker_setWorker, hwinds.slept hsleeps]
          rfl
        · rw [worker_setWorker_of_ne state hsame]
          exact hsleeps
  | true =>
      rcases binder_cases hown hbinder hstep with
        ⟨hstop, rfl⟩ | ⟨hstop, rfl⟩ | ⟨hstop, _, rfl⟩ | ⟨hstop, hgone, rfl⟩
      · rw [hstop] at hnotified
        contradiction
      · cases id with
        | pendingWrites =>
            rw [hstop] at hnotified
            contradiction
        | wakelocks => exact ⟨.wakelocks, rfl, hsleeps⟩
      · exact ⟨id, rfl, hsleeps⟩
      · exact ⟨id, rfl, hsleeps⟩

theorem Missed.not_joined (hmissed : Missed state) (hstopping : Stopping state) :
    state.stop ≠ .joined := by
  obtain ⟨id, _, hsleeps⟩ := hmissed
  intro hstop
  rw [hstopping.joined id (by rw [hstop]; rfl)] at hsleeps
  contradiction

/-- A thread in the window can be notified there. -/
theorem committed_step {id : WorkerId} (hcommitted : (state.worker id).stage = .committed)
    (hunnotified : state.stop.notified id = false) (hstopping : Stopping state) :
    ∃ action next, Own state action ∧ step state action = some next ∧
      (next.worker id).stage = .committed := by
  have hnotify : ∀ worker : Worker, worker.stage = .committed → worker.notify = worker := by
    intro worker hstage
    rw [Worker.notify, hstage]
    rfl
  cases hstop : state.stop with
  | idle => exact absurd hstop hstopping.stop
  | stored =>
      refine ⟨.notifyWakelocks, _, rfl, if_pos hstop, ?_⟩
      cases id with
      | pendingWrites => exact hcommitted
      | wakelocks => exact (congrArg Worker.stage (hnotify _ hcommitted)).trans hcommitted
  | notifiedWakelocks =>
      refine ⟨.notifyPendingWrites, _, rfl, if_pos hstop, ?_⟩
      cases id with
      | pendingWrites => exact (congrArg Worker.stage (hnotify _ hcommitted)).trans hcommitted
      | wakelocks => exact hcommitted
  | _ =>
      rw [hstop] at hunnotified
      cases id <;> contradiction

theorem Missed.not_ready (hmissed : Missed state) : ¬Ready state := by
  obtain ⟨id, hnotified, hsleeps⟩ := hmissed
  intro hready
  obtain ⟨hcommitted, hasleep⟩ := hready id
  cases hstage : (state.worker id).stage with
  | committed => exact hcommitted hstage
  | asleep => exact hasleep hnotified hstage
  | _ =>
      rw [hstage] at hsleeps
      contradiction

theorem not_ready_cases (hready : ¬Ready state) :
    Missed state ∨ ∃ id, (state.worker id).stage = .committed ∧
      state.stop.notified id = false := by
  unfold Ready at hready
  push Not at hready
  obtain ⟨id, hid⟩ := hready
  by_cases hcommitted : (state.worker id).stage = .committed
  · cases hnotified : state.stop.notified id with
    | true => exact .inl ⟨id, hnotified, by rw [hcommitted]; rfl⟩
    | false => exact .inr ⟨id, hcommitted, hnotified⟩
  · obtain ⟨hnotified, hasleep⟩ := hid hcommitted
    exact .inl ⟨id, hnotified, by rw [hasleep]; rfl⟩

theorem not_ready_not_joined (hstopping : Stopping state) (hready : ¬Ready state) :
    state.stop ≠ .joined := by
  rcases not_ready_cases hready with hmissed | ⟨id, _, hunnotified⟩
  · exact hmissed.not_joined hstopping
  · intro hstop
    rw [hstop] at hunnotified
    contradiction

theorem not_ready_stays (hstopping : Stopping state) (hready : ¬Ready state) :
    (∃ action next, Own state action ∧ step state action = some next ∧
      Stopping next ∧ ¬Ready next) ∨
    ∀ action next, Own state action → step state action = some next →
      Stopping next ∧ ¬Ready next := by
  rcases not_ready_cases hready with hmissed | ⟨id, hcommitted, hunnotified⟩
  · right
    intro action next hown hstep
    exact ⟨hstopping.step hown hstep, (missed_step hmissed hstopping hown hstep).not_ready⟩
  · left
    obtain ⟨action, next, hown, hstep, hstill⟩ :=
      committed_step hcommitted hunnotified hstopping
    exact ⟨action, next, hown, hstep, hstopping.step hown hstep,
      fun hnext => (hnext id).1 hstill⟩

end

end ThreadShutdown
end Camellia.Sensors

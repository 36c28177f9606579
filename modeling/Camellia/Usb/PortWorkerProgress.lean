import Camellia.Inevitable
import Camellia.Usb.PortWorker

/-!
# When the worker thread can be joined

`setCallback(NULL)` sends `SIGUSR1` to the worker thread and joins it.  The handler sets
`destroyThread`, which the thread tests before each `epoll_wait`; a signal handled there
also interrupts it.  A signal handled after the test and before `epoll_wait` does not, and
the thread stays until the next uevent.  This file shows that nothing else keeps the call
from returning.
-/

namespace Camellia.Usb
namespace PortWorker

open Transition

/-- The calls of the client come one after the other. -/
def Sequential (state : State) : Action → Prop
  | .setCallback _ _ => state.calls = []
  | _ => True

/-- A signal that comes after the test of `destroyThread` finds the thread in
`epoll_wait`. -/
def Interrupts (state : State) : Action → Prop
  | .sighandler worker false => ∀ thread ∈ state.workers[worker]?, thread.stage ≠ .polling
  | _ => True

instance (state : State) (action : Action) : Decidable (Sequential state action) := by
  unfold Sequential
  split <;> infer_instance

instance (state : State) (action : Action) : Decidable (Interrupts state action) := by
  unfold Interrupts
  split <;> infer_instance

/-- The steps of the calls and of the threads while no uevent comes in. -/
def Own (state : State) : Action → Prop
  | .setCallback _ _ => False
  | .epollWait _ _ => False
  | action => Interrupts state action

/-! ## What is left to do -/

def WorkerStage.left : WorkerStage → ℕ
  | .starting => 3
  | .checking => 2
  | .polling => 1
  | .exited => 0

def Worker.left (worker : Worker) : ℕ :=
  worker.stage.left + if worker.signalled then 2 else 0

def CallStage.left : CallStage → ℕ
  | .killing => 5
  | .killed => 2
  | .joining _ => 1

def State.left (state : State) : ℕ :=
  (state.calls.map CallStage.left).sum + (state.workers.map Worker.left).sum

theorem sum_map_set {α : Type*} (weight : α → ℕ) {list : List α} {index : ℕ} {old : α}
    (hget : list[index]? = some old) (new : α) :
    ((list.set index new).map weight).sum + weight old =
      (list.map weight).sum + weight new := by
  induction list generalizing index with
  | nil => contradiction
  | cons head tail ih =>
      cases index with
      | zero =>
          rw [List.getElem?_cons_zero, Option.some.injEq] at hget
          subst hget
          simp only [List.set_cons_zero, List.map_cons, List.sum_cons]
          omega
      | succ index =>
          have htail := ih hget
          simp only [List.set_cons_succ, List.map_cons, List.sum_cons]
          omega

theorem sum_map_eraseIdx {α : Type*} (weight : α → ℕ) {list : List α} {index : ℕ} {old : α}
    (hget : list[index]? = some old) :
    ((list.eraseIdx index).map weight).sum + weight old = (list.map weight).sum := by
  induction list generalizing index with
  | nil => contradiction
  | cons head tail ih =>
      cases index with
      | zero =>
          rw [List.getElem?_cons_zero, Option.some.injEq] at hget
          subst hget
          simp only [List.eraseIdx_cons_zero, List.map_cons, List.sum_cons]
          omega
      | succ index =>
          have htail := ih hget
          simp only [List.eraseIdx_cons_succ, List.map_cons, List.sum_cons]
          omega

/-! ## Steps -/

section Steps

variable {state next : State} {call worker : ℕ}

theorem pthreadKill_cases {succeeds : Bool}
    (hstep : pthreadKill state call succeeds = some next) :
    state.calls[call]? = some .killing ∧
      ((∃ worker thread, state.mPoll = some worker ∧ state.workers[worker]? = some thread ∧
          next = { state with
            workers := state.workers.set worker { thread with signalled := true }
            calls := state.calls.set call .killed }) ∨
        next = { state with calls := state.calls.eraseIdx call }) := by
  unfold pthreadKill at hstep
  simp only [Option.bind_eq_bind, Option.bind_eq_some_iff] at hstep
  obtain ⟨stage, hcall, hstep⟩ := hstep
  cases stage with
  | killed => contradiction
  | joining worker => contradiction
  | killing =>
      simp only [Option.bind_eq_some_iff] at hstep
      obtain ⟨worker, hpoll, thread, hget, hstep⟩ := hstep
      refine ⟨hcall, ?_⟩
      split at hstep
      case isTrue =>
        exact .inl ⟨worker, thread, hpoll, hget, (Option.some.inj hstep).symm⟩
      case isFalse =>
        split at hstep
        case isTrue => exact .inr (Option.some.inj hstep).symm
        case isFalse => contradiction

theorem pthreadJoin_cases (hstep : pthreadJoin state call = some next) :
    state.calls[call]? = some .killed ∧ ∃ worker, state.mPoll = some worker ∧
      next = { state with calls := state.calls.set call (.joining worker) } := by
  unfold pthreadJoin at hstep
  simp only [Option.bind_eq_bind, Option.bind_eq_some_iff] at hstep
  obtain ⟨stage, hcall, hstep⟩ := hstep
  cases stage with
  | killing => contradiction
  | joining worker => contradiction
  | killed =>
      simp only [Option.bind_eq_some_iff, Option.some.injEq] at hstep
      obtain ⟨worker, hpoll, hnext⟩ := hstep
      exact ⟨hcall, worker, hpoll, hnext.symm⟩

theorem joined_cases (hstep : joined state call = some next) :
    ∃ worker, state.calls[call]? = some (.joining worker) ∧ state.exited worker = true ∧
      next = { state with calls := state.calls.eraseIdx call } := by
  unfold joined at hstep
  simp only [Option.bind_eq_bind, Option.bind_eq_some_iff] at hstep
  obtain ⟨stage, hcall, hstep⟩ := hstep
  cases stage with
  | killing => contradiction
  | killed => contradiction
  | joining worker =>
      dsimp only at hstep
      split at hstep
      case isTrue hexited => exact ⟨worker, hcall, hexited, (Option.some.inj hstep).symm⟩
      case isFalse => contradiction

theorem sighandler_cases {interrupts : Bool}
    (hstep : sighandler state worker interrupts = some next) :
    ∃ thread, state.workers[worker]? = some thread ∧ thread.stage ≠ .exited ∧
      thread.signalled = true ∧ next = { state with
        destroyThread := true
        workers := state.workers.set worker {
          stage :=
            if thread.stage = .polling ∧ interrupts then .checking else thread.stage
          signalled := false } } := by
  unfold sighandler at hstep
  simp only [Option.bind_eq_bind, Option.bind_eq_some_iff] at hstep
  obtain ⟨thread, hget, hstep⟩ := hstep
  split at hstep
  case isTrue hpending =>
    exact ⟨thread, hget, hpending.1, hpending.2, (Option.some.inj hstep).symm⟩
  case isFalse => contradiction

end Steps

/-! ## Threads that leave -/

/-- The thread leaves without waiting for a uevent. -/
def Worker.Leaves (destroyThread : Bool) (thread : Worker) : Prop :=
  thread.stage = .exited ∨ thread.signalled = true ∨
    (destroyThread = true ∧ thread.stage ≠ .polling)

def State.Leaves (state : State) (worker : ℕ) : Prop :=
  ∃ thread, state.workers[worker]? = some thread ∧ thread.Leaves state.destroyThread

/-- What a call needs in order to return. -/
def CallStage.Ready (state : State) : CallStage → Prop
  | .killing => ∃ worker thread, state.mPoll = some worker ∧
      state.workers[worker]? = some thread
  | .killed => ∃ worker, state.mPoll = some worker ∧ state.Leaves worker
  | .joining worker => state.Leaves worker

structure State.Ready (state : State) : Prop where
  calls : ∀ call ∈ state.calls, call.Ready state
  created : state.mCallback = true → CallStage.killing.Ready state

theorem ready_initial : State.initial.Ready where
  calls _ hmem := absurd hmem List.not_mem_nil
  created hcallback := by contradiction

section Ready

variable {state next : State} {worker : ℕ} {thread moved : Worker} {destroyThread : Bool}

theorem getElem?_set_workers (hget : state.workers[worker]? = some thread) (other : ℕ) :
    (state.workers.set worker moved)[other]? =
      if other = worker then some moved else state.workers[other]? := by
  have hlt := (List.getElem?_eq_some_iff.mp hget).1
  by_cases hother : other = worker
  · rw [if_pos hother, hother, List.getElem?_set_self hlt]
  · rw [if_neg hother, List.getElem?_set_ne (Ne.symm hother)]

theorem State.Leaves.set {other : ℕ} (hleaves : state.Leaves other)
    (hget : state.workers[worker]? = some thread)
    (hmoved : thread.Leaves state.destroyThread → moved.Leaves destroyThread)
    (hkept : state.destroyThread = true → destroyThread = true) :
    State.Leaves { state with
      destroyThread := destroyThread
      workers := state.workers.set worker moved } other := by
  obtain ⟨running, hrunning, hrunningLeaves⟩ := hleaves
  rw [State.Leaves]
  simp only [getElem?_set_workers hget]
  by_cases hother : other = worker
  · subst other
    obtain rfl : thread = running := Option.some.inj (hget.symm.trans hrunning)
    exact ⟨moved, if_pos rfl, hmoved hrunningLeaves⟩
  · refine ⟨running, (if_neg hother).trans hrunning, ?_⟩
    rcases hrunningLeaves with hexited | hsignalled | ⟨hdestroy, hstage⟩
    · exact .inl hexited
    · exact .inr (.inl hsignalled)
    · exact .inr (.inr ⟨hkept hdestroy, hstage⟩)

/-- A thread that moves on and still leaves. -/
theorem State.Ready.moves (hready : state.Ready)
    (hget : state.workers[worker]? = some thread)
    (hmoved : thread.Leaves state.destroyThread → moved.Leaves destroyThread)
    (hkept : state.destroyThread = true → destroyThread = true) :
    State.Ready { state with
      destroyThread := destroyThread
      workers := state.workers.set worker moved } := by
  have hkilling : CallStage.killing.Ready state → CallStage.killing.Ready { state with
      destroyThread := destroyThread
      workers := state.workers.set worker moved } := by
    rintro ⟨current, running, hpoll, hrunning⟩
    rw [CallStage.Ready]
    simp only [getElem?_set_workers hget]
    by_cases hcurrent : current = worker
    · exact ⟨current, moved, hpoll, if_pos hcurrent⟩
    · exact ⟨current, running, hpoll, (if_neg hcurrent).trans hrunning⟩
  refine ⟨?_, fun hcallback => hkilling (hready.created hcallback)⟩
  intro call hmem
  have hcall := hready.calls call hmem
  cases call with
  | killing => exact hkilling hcall
  | killed =>
      obtain ⟨current, hpoll, hleaves⟩ := hcall
      exact ⟨current, hpoll, hleaves.set hget hmoved hkept⟩
  | joining joined => exact hcall.set hget hmoved hkept

theorem State.Ready.moveWorker {stage after : WorkerStage} (hready : state.Ready)
    (hstage : stage ≠ .exited)
    (hafter : (state.destroyThread = true → stage ≠ .polling → after ≠ .polling) ∨
      after = .exited)
    (hstep : PortWorker.moveWorker state worker stage after = some next) : next.Ready := by
  obtain ⟨thread, hget, rfl, rfl⟩ := moveWorker_eq_some.mp hstep
  apply hready.moves hget ?_ id
  rintro (hexited | hsignalled | ⟨hdestroy, hpolling⟩)
  · exact absurd hexited hstage
  · exact .inr (.inl hsignalled)
  · rcases hafter with hother | hgone
    · exact .inr (.inr ⟨hdestroy, hother hdestroy hpolling⟩)
    · exact .inl hgone

theorem State.Ready.sighandler {interrupts : Bool} (hready : state.Ready)
    (hinterrupts : Interrupts state (.sighandler worker interrupts))
    (hstep : PortWorker.sighandler state worker interrupts = some next) : next.Ready := by
  obtain ⟨thread, hget, _, _, rfl⟩ := sighandler_cases hstep
  refine hready.moves hget ?_ fun _ => rfl
  rintro -
  refine .inr (.inr ⟨rfl, ?_⟩)
  cases interrupts with
  | true =>
      by_cases hpolling : thread.stage = .polling <;> simp [hpolling]
  | false =>
      have hpolling : thread.stage ≠ .polling := hinterrupts thread hget
      simpa using hpolling

/-- A call that goes on or returns. -/
theorem State.Ready.withCalls {calls : List CallStage} (hready : state.Ready)
    (hcalls : ∀ call ∈ calls, call ∈ state.calls ∨ call.Ready state) :
    State.Ready { state with calls := calls } := by
  have hsame : ∀ call : CallStage, call.Ready state →
      call.Ready { state with calls := calls } := by
    intro call hcall
    cases call <;> exact hcall
  refine ⟨?_, fun hcallback => hsame .killing (hready.created hcallback)⟩
  intro call hmem
  rcases hcalls call hmem with hbefore | hnow
  · exact hsame call (hready.calls call hbefore)
  · exact hsame call hnow

theorem State.Ready.erase (hready : state.Ready) (call : ℕ) :
    State.Ready { state with calls := state.calls.eraseIdx call } :=
  hready.withCalls fun _ hmem => .inl (List.mem_of_mem_eraseIdx hmem)

theorem State.Ready.advance (hready : state.Ready) {stage : CallStage}
    (hstage : stage.Ready state) (call : ℕ) :
    State.Ready { state with calls := state.calls.set call stage } := by
  apply hready.withCalls
  intro other hmem
  rcases List.mem_or_eq_of_mem_set hmem with hbefore | rfl
  · exact .inl hbefore
  · exact .inr hstage

theorem State.Ready.pthreadKill {call : ℕ} {succeeds : Bool} (hready : state.Ready)
    (hstep : PortWorker.pthreadKill state call succeeds = some next) : next.Ready := by
  obtain ⟨_, ⟨worker, thread, hpoll, hget, rfl⟩ | rfl⟩ := pthreadKill_cases hstep
  · have hsignalled : ({ thread with signalled := true } : Worker).Leaves
        state.destroyThread := .inr (.inl rfl)
    have hsent := hready.moves hget (fun _ => hsignalled) id
    apply hsent.advance ?_ call
    refine ⟨worker, hpoll, { thread with signalled := true }, ?_, hsignalled⟩
    exact (getElem?_set_workers hget worker).trans (if_pos rfl)
  · exact hready.erase call

theorem State.Ready.setCallback {callback created : Bool} (hready : state.Ready)
    (hreturned : state.calls = []) :
    (setCallback state callback created).Ready := by
  by_cases hsame : state.mCallback = callback
  · rw [setCallback_same hsame]
    exact hready
  cases callback with
  | false =>
      have hcallback : state.mCallback = true := by simpa using hsame
      have hnull : PortWorker.setCallback state false created =
          { state with mCallback := false, calls := state.calls ++ [.killing] } := by
        simp [PortWorker.setCallback, hcallback]
      rw [hnull, hreturned]
      refine ⟨?_, fun hagain => absurd hagain Bool.false_ne_true⟩
      intro call hmem
      rw [List.nil_append, List.mem_singleton] at hmem
      exact hmem ▸ hready.created hcallback
  | true =>
      have hcallback : state.mCallback = false := by simpa using hsame
      cases created with
      | false =>
          have hfails : PortWorker.setCallback state true false =
              { state with mCallback := false, destroyThread := false } := by
            simp [PortWorker.setCallback, hcallback]
          rw [hfails]
          refine ⟨?_, fun hagain => absurd hagain Bool.false_ne_true⟩
          intro call hmem
          rw [hreturned] at hmem
          exact absurd hmem List.not_mem_nil
      | true =>
          have hcreates : PortWorker.setCallback state true true = { state with
              mCallback := true
              destroyThread := false
              mPoll := some state.workers.length
              workers := state.workers ++ [{ stage := .starting, signalled := false }] } := by
            simp [PortWorker.setCallback, hcallback]
          rw [hcreates]
          refine ⟨?_, fun _ => ?_⟩
          · intro call hmem
            rw [hreturned] at hmem
            exact absurd hmem List.not_mem_nil
          · exact ⟨state.workers.length, _, rfl, List.getElem?_concat_length⟩

theorem State.Ready.step (hready : state.Ready) {action : Action}
    (hsequential : Sequential state action) (hinterrupts : Interrupts state action)
    (hstep : step state action = some next) : next.Ready := by
  cases action with
  | setCallback callback created =>
      obtain rfl := Option.some.inj hstep
      exact hready.setCallback hsequential
  | pthreadKill call succeeds => exact hready.pthreadKill hstep
  | pthreadJoin call =>
      obtain ⟨hcall, worker, hpoll, rfl⟩ := pthreadJoin_cases hstep
      obtain ⟨current, hcurrent, hleaves⟩ :=
        hready.calls .killed (List.mem_of_getElem? hcall)
      obtain rfl : worker = current := Option.some.inj (hpoll.symm.trans hcurrent)
      have hjoining : CallStage.Ready state (.joining worker) := hleaves
      exact hready.advance hjoining call
  | joined call =>
      obtain ⟨_, _, _, rfl⟩ := joined_cases hstep
      exact hready.erase call
  | startUp worker succeeds =>
      apply hready.moveWorker (by decide) ?_ hstep
      cases succeeds with
      | true => exact .inl fun _ _ => by decide
      | false => exact .inr rfl
  | check worker =>
      apply hready.moveWorker (by decide) ?_ hstep
      cases hdestroy : state.destroyThread with
      | true => exact .inr rfl
      | false => exact .inl fun hset => absurd hset nofun
  | epollWait worker succeeds =>
      apply hready.moveWorker (by decide) ?_ hstep
      exact .inl fun _ hpolling => absurd rfl hpolling
  | sighandler worker interrupts => exact hready.sighandler hinterrupts hstep

end Ready

/-! ## Calls that return -/

section Progress

variable {state next : State}

theorem left_moveWorker {worker : ℕ} {stage after : WorkerStage}
    (hlower : after.left < stage.left)
    (hstep : moveWorker state worker stage after = some next) : next.left < state.left := by
  obtain ⟨thread, hget, rfl, rfl⟩ := moveWorker_eq_some.mp hstep
  have hsum := sum_map_set Worker.left hget { thread with stage := after }
  simp only [Worker.left] at hsum
  simp only [State.left]
  omega

theorem left_sighandler {worker : ℕ} {interrupts : Bool}
    (hstep : sighandler state worker interrupts = some next) : next.left < state.left := by
  obtain ⟨thread, hget, _, hsignalled, rfl⟩ := sighandler_cases hstep
  set moved : Worker := {
    stage := if thread.stage = .polling ∧ interrupts then .checking else thread.stage
    signalled := false } with hmoved
  have hsum := sum_map_set Worker.left hget moved
  -- an interrupted thread has one more test before it, and no signal
  have hlower : moved.left < thread.left := by
    rw [Worker.left, Worker.left, hsignalled, if_pos rfl, hmoved]
    by_cases hpolling : thread.stage = .polling ∧ interrupts = true
    · simp [hpolling.1, hpolling.2, WorkerStage.left]
    · simp [if_neg hpolling]
  simp only [State.left]
  omega

theorem left_pthreadKill {call : ℕ} {succeeds : Bool}
    (hstep : pthreadKill state call succeeds = some next) : next.left < state.left := by
  obtain ⟨hcall, ⟨worker, thread, _, hget, rfl⟩ | rfl⟩ := pthreadKill_cases hstep
  · have hcalls := sum_map_set CallStage.left hcall .killed
    have hworkers := sum_map_set Worker.left hget { thread with signalled := true }
    simp only [CallStage.left] at hcalls
    simp only [Worker.left, if_true] at hworkers
    simp only [State.left]
    split at hworkers <;> omega
  · have hcalls := sum_map_eraseIdx CallStage.left hcall
    simp only [CallStage.left] at hcalls
    simp only [State.left]
    omega

theorem left_own {action : Action} (hown : Own state action)
    (hstep : step state action = some next) : next.left < state.left := by
  cases action with
  | setCallback callback created => contradiction
  | pthreadKill call succeeds => exact left_pthreadKill hstep
  | pthreadJoin call =>
      obtain ⟨hcall, worker, _, rfl⟩ := pthreadJoin_cases hstep
      have hcalls := sum_map_set CallStage.left hcall (.joining worker)
      simp only [CallStage.left] at hcalls
      simp only [State.left]
      omega
  | joined call =>
      obtain ⟨worker, hcall, _, rfl⟩ := joined_cases hstep
      have hcalls := sum_map_eraseIdx CallStage.left hcall
      simp only [CallStage.left] at hcalls
      simp only [State.left]
      omega
  | startUp worker succeeds =>
      apply left_moveWorker ?_ hstep
      cases succeeds <;> decide
  | check worker =>
      apply left_moveWorker ?_ hstep
      cases state.destroyThread <;> decide
  | epollWait worker succeeds => contradiction
  | sighandler worker interrupts => exact left_sighandler hstep

theorem step_of_leaves {worker : ℕ} (hleaves : state.Leaves worker)
    (hrunning : state.exited worker = false) :
    ∃ action next, Own state action ∧ step state action = some next := by
  obtain ⟨thread, hget, hthread⟩ := hleaves
  have hstage : thread.stage ≠ .exited := by
    simpa [State.exited, hget] using hrunning
  rcases hthread with hexited | hsignalled | ⟨hdestroy, hpolling⟩
  · exact absurd hexited hstage
  · obtain ⟨next, hnext⟩ : ∃ next, sighandler state worker true = some next := by
      simp [sighandler, hget, hstage, hsignalled]
    exact ⟨.sighandler worker true, next, trivial, hnext⟩
  · cases hwhere : thread.stage with
    | starting =>
        exact ⟨.startUp worker true, _, trivial,
          moveWorker_eq_some.mpr ⟨thread, hget, hwhere, rfl⟩⟩
    | checking =>
        exact ⟨.check worker, _, trivial,
          moveWorker_eq_some.mpr ⟨thread, hget, hwhere, rfl⟩⟩
    | polling => exact absurd hwhere hpolling
    | exited => exact absurd hwhere hstage

theorem State.Ready.some_step (hready : state.Ready) (hbusy : state.calls ≠ []) :
    ∃ action next, Own state action ∧ PortWorker.step state action = some next := by
  obtain ⟨call, rest, hcalls⟩ := List.exists_cons_of_ne_nil hbusy
  have hfirst : state.calls[0]? = some call := by rw [hcalls, List.getElem?_cons_zero]
  have hcall := hready.calls call (List.mem_of_getElem? hfirst)
  cases call with
  | killing =>
      obtain ⟨worker, thread, hpoll, hget⟩ := hcall
      obtain ⟨next, hnext⟩ : ∃ next, PortWorker.pthreadKill state 0 true = some next := by
        simp [PortWorker.pthreadKill, hfirst, hpoll, hget]
      exact ⟨.pthreadKill 0 true, next, trivial, hnext⟩
  | killed =>
      obtain ⟨worker, hpoll, _⟩ := hcall
      obtain ⟨next, hnext⟩ : ∃ next, pthreadJoin state 0 = some next := by
        simp [pthreadJoin, hfirst, hpoll]
      exact ⟨.pthreadJoin 0, next, trivial, hnext⟩
  | joining worker =>
      cases hexited : state.exited worker with
      | true =>
          obtain ⟨next, hnext⟩ : ∃ next, joined state 0 = some next := by
            simp [joined, hfirst, hexited]
          exact ⟨.joined 0, next, trivial, hnext⟩
      | false => exact step_of_leaves hcall hexited

theorem own_sequential {action : Action} (hown : Own state action) :
    Sequential state action ∧ Interrupts state action := by
  cases action with
  | setCallback callback created => contradiction
  | epollWait worker succeeds => contradiction
  | sighandler worker interrupts => exact ⟨trivial, hown⟩
  | _ => exact ⟨trivial, trivial⟩

theorem State.Ready.inevitable (hready : state.Ready) :
    Inevitable PortWorker.step Own (fun state => state.calls = []) state := by
  refine Inevitable.of_rank (P := State.Ready) State.left ?_ ?_ ?_ state hready
  · intro state action next hready hown hstep
    obtain ⟨hsequential, hinterrupts⟩ := own_sequential hown
    exact hready.step hsequential hinterrupts hstep
  · exact fun _ _ _ _ hown hstep => left_own hown hstep
  · exact fun _ hready hbusy => hready.some_step hbusy

end Progress

/-! ## The signal that is missed -/

/-- A signal is pending for the call that has sent it, which is the only one. -/
structure State.Asked (state : State) : Prop where
  single : state.calls.length ≤ 1
  signalled : ∀ (worker : ℕ) thread, state.workers[worker]? = some thread →
    thread.stage ≠ .exited → thread.signalled = true →
      (state.calls = [.killed] ∧ state.mPoll = some worker) ∨
        state.calls = [.joining worker]

/-- The thread is past the test, and its signal has been handled. -/
structure State.Missed (worker : ℕ) (state : State) : Prop where
  polling : state.workers[worker]? = some ⟨.polling, false⟩
  waits : (state.calls = [.killed] ∧ state.mPoll = some worker) ∨
    state.calls = [.joining worker]

section Missed

variable {state next : State}

theorem eq_singleton_of_getElem? {call : ℕ} {stage : CallStage}
    (hsingle : state.calls.length ≤ 1) (hcall : state.calls[call]? = some stage) :
    call = 0 ∧ state.calls = [stage] := by
  have hlt := (List.getElem?_eq_some_iff.mp hcall).1
  have hzero : call = 0 := by omega
  subst hzero
  obtain ⟨first, hfirst⟩ := List.length_eq_one_iff.mp (by omega : state.calls.length = 1)
  rw [hfirst, List.getElem?_cons_zero, Option.some.injEq] at hcall
  exact ⟨rfl, hcall ▸ hfirst⟩

theorem asked_initial : State.initial.Asked where
  single := Nat.zero_le _
  signalled _ _ hget := absurd (List.mem_of_getElem? hget) List.not_mem_nil

theorem State.Asked.moves (hasked : state.Asked) {worker : ℕ} {thread moved : Worker}
    {destroyThread : Bool} (hget : state.workers[worker]? = some thread)
    (hmoved : moved.signalled = true → thread.stage ≠ .exited ∧ thread.signalled = true) :
    State.Asked { state with
      destroyThread := destroyThread
      workers := state.workers.set worker moved } := by
  refine ⟨hasked.single, ?_⟩
  intro other running hrunning hstage hsignalled
  rw [getElem?_set_workers hget] at hrunning
  split at hrunning
  case isTrue hsame =>
    obtain rfl := Option.some.inj hrunning
    obtain ⟨hbefore, hpending⟩ := hmoved hsignalled
    exact hasked.signalled other thread (hsame ▸ hget) hbefore hpending
  case isFalse => exact hasked.signalled other running hrunning hstage hsignalled

theorem State.Asked.moveWorker (hasked : state.Asked) {worker : ℕ}
    {stage after : WorkerStage} (hstage : stage ≠ .exited)
    (hstep : PortWorker.moveWorker state worker stage after = some next) : next.Asked := by
  obtain ⟨thread, hget, rfl, rfl⟩ := moveWorker_eq_some.mp hstep
  exact hasked.moves hget fun hsignalled => ⟨hstage, hsignalled⟩

theorem State.Asked.none_signalled (hasked : state.Asked)
    (hcalls : state.calls = [] ∨ state.calls = [.killing]) {worker : ℕ} {thread : Worker}
    (hget : state.workers[worker]? = some thread) (hstage : thread.stage ≠ .exited) :
    thread.signalled = false := by
  by_contra hsome
  have hsignalled : thread.signalled = true := by simpa using hsome
  rcases hasked.signalled worker thread hget hstage hsignalled with ⟨hother, _⟩ | hother
  · rcases hcalls with hnow | hnow <;> simp [hnow] at hother
  · rcases hcalls with hnow | hnow <;> simp [hnow] at hother

/-- With the threads as they are, while no signal is pending. -/
theorem State.Asked.quiet (hasked : state.Asked)
    (hcalls : state.calls = [] ∨ state.calls = [.killing])
    (hworkers : next.workers = state.workers) (hsingle : next.calls.length ≤ 1) :
    next.Asked := by
  refine ⟨hsingle, ?_⟩
  intro worker thread hget hstage hsignalled
  rw [hworkers] at hget
  rw [hasked.none_signalled hcalls hget hstage] at hsignalled
  contradiction

theorem State.Asked.setCallback (hasked : state.Asked) {callback created : Bool}
    (hreturned : state.calls = []) : (setCallback state callback created).Asked := by
  by_cases hsame : state.mCallback = callback
  · rw [setCallback_same hsame]
    exact hasked
  cases callback with
  | false =>
      have hcallback : state.mCallback = true := by simpa using hsame
      have hnull : PortWorker.setCallback state false created =
          { state with mCallback := false, calls := state.calls ++ [.killing] } := by
        simp [PortWorker.setCallback, hcallback]
      rw [hnull, hreturned]
      exact hasked.quiet (.inl hreturned) rfl le_rfl
  | true =>
      have hcallback : state.mCallback = false := by simpa using hsame
      cases created with
      | false =>
          have hfails : PortWorker.setCallback state true false =
              { state with mCallback := false, destroyThread := false } := by
            simp [PortWorker.setCallback, hcallback]
          rw [hfails]
          exact hasked.quiet (.inl hreturned) rfl hasked.single
      | true =>
          have hcreates : PortWorker.setCallback state true true = { state with
              mCallback := true
              destroyThread := false
              mPoll := some state.workers.length
              workers := state.workers ++ [{ stage := .starting, signalled := false }] } := by
            simp [PortWorker.setCallback, hcallback]
          rw [hcreates]
          refine ⟨hasked.single, ?_⟩
          intro worker thread hget hstage hsignalled
          rw [List.getElem?_append] at hget
          split at hget
          case isTrue =>
            rw [hasked.none_signalled (.inl hreturned) hget hstage] at hsignalled
            contradiction
          case isFalse =>
            rw [List.mem_singleton.mp (List.mem_of_getElem? hget)] at hsignalled
            contradiction

theorem State.Asked.pthreadKill (hasked : state.Asked) {call : ℕ} {succeeds : Bool}
    (hstep : PortWorker.pthreadKill state call succeeds = some next) : next.Asked := by
  obtain ⟨hcall, hnext⟩ := pthreadKill_cases hstep
  obtain ⟨rfl, hcalls⟩ := eq_singleton_of_getElem? hasked.single hcall
  rcases hnext with ⟨worker, thread, hpoll, hget, rfl⟩ | rfl
  · refine ⟨by simp [hcalls], ?_⟩
    intro other running hrunning hstage hsignalled
    rw [getElem?_set_workers hget] at hrunning
    split at hrunning
    case isTrue hsame =>
      subst other
      exact .inl ⟨by simp [hcalls], hpoll⟩
    case isFalse =>
      rw [hasked.none_signalled (.inr hcalls) hrunning hstage] at hsignalled
      contradiction
  · exact hasked.quiet (.inr hcalls) rfl (by simp [hcalls])

theorem State.Asked.pthreadJoin (hasked : state.Asked) {call : ℕ}
    (hstep : PortWorker.pthreadJoin state call = some next) : next.Asked := by
  obtain ⟨hcall, worker, hpoll, rfl⟩ := pthreadJoin_cases hstep
  obtain ⟨rfl, hcalls⟩ := eq_singleton_of_getElem? hasked.single hcall
  refine ⟨by simp [hcalls], ?_⟩
  intro other running hrunning hstage hsignalled
  rcases hasked.signalled other running hrunning hstage hsignalled with ⟨_, hother⟩ | hother
  · obtain rfl : worker = other := Option.some.inj (hpoll.symm.trans hother)
    exact .inr (by simp [hcalls])
  · rw [hcalls] at hother
    simp at hother

theorem State.Asked.joined (hasked : state.Asked) {call : ℕ}
    (hstep : PortWorker.joined state call = some next) : next.Asked := by
  obtain ⟨worker, hcall, hexited, rfl⟩ := joined_cases hstep
  obtain ⟨rfl, hcalls⟩ := eq_singleton_of_getElem? hasked.single hcall
  refine ⟨by simp [hcalls], ?_⟩
  intro other running hrunning hstage hsignalled
  rcases hasked.signalled other running hrunning hstage hsignalled with ⟨hother, _⟩ | hother
  · rw [hcalls] at hother
    simp at hother
  · -- the thread that was joined is gone
    rw [hcalls, List.cons.injEq, CallStage.joining.injEq] at hother
    obtain ⟨rfl, _⟩ := hother
    simp [State.exited, hrunning, hstage] at hexited

theorem State.Asked.step (hasked : state.Asked) {action : Action}
    (hsequential : Sequential state action)
    (hstep : PortWorker.step state action = some next) : next.Asked := by
  cases action with
  | setCallback callback created =>
      obtain rfl := Option.some.inj hstep
      exact hasked.setCallback hsequential
  | pthreadKill call succeeds => exact hasked.pthreadKill hstep
  | pthreadJoin call => exact hasked.pthreadJoin hstep
  | joined call => exact hasked.joined hstep
  | startUp worker succeeds => exact hasked.moveWorker (by decide) hstep
  | check worker => exact hasked.moveWorker (by decide) hstep
  | epollWait worker succeeds => exact hasked.moveWorker (by decide) hstep
  | sighandler worker interrupts =>
      obtain ⟨thread, hget, _, _, rfl⟩ := sighandler_cases hstep
      exact hasked.moves hget fun hagain => absurd hagain nofun

theorem State.Asked.missed (hasked : state.Asked) {worker : ℕ} {thread : Worker}
    (hget : state.workers[worker]? = some thread) (hpolling : thread.stage = .polling)
    (hstep : PortWorker.sighandler state worker false = some next) :
    next.Missed worker := by
  obtain ⟨running, hrunning, hstage, hsignalled, rfl⟩ := sighandler_cases hstep
  obtain rfl : thread = running := Option.some.inj (hget.symm.trans hrunning)
  refine ⟨?_, hasked.signalled worker thread hget hstage hsignalled⟩
  refine (getElem?_set_workers hget worker).trans ((if_pos rfl).trans ?_)
  simp [hpolling]

/-- Another thread moves on. -/
theorem State.Missed.moves {worker other : ℕ} (hmissed : state.Missed worker)
    {thread moved : Worker} {destroyThread : Bool}
    (hget : state.workers[other]? = some thread) (hother : worker ≠ other) :
    State.Missed worker { state with
      destroyThread := destroyThread
      workers := state.workers.set other moved } :=
  ⟨(getElem?_set_workers hget worker).trans ((if_neg hother).trans hmissed.polling),
    hmissed.waits⟩

theorem State.Missed.moveWorker {worker other : ℕ} (hmissed : state.Missed worker)
    {stage after : WorkerStage} (hstage : stage ≠ .polling)
    (hstep : PortWorker.moveWorker state other stage after = some next) :
    next.Missed worker := by
  obtain ⟨thread, hget, hthread, rfl⟩ := moveWorker_eq_some.mp hstep
  apply hmissed.moves hget
  rintro rfl
  rw [hmissed.polling, Option.some.injEq] at hget
  subst hget
  exact hstage hthread.symm

theorem State.Missed.single {worker : ℕ} (hmissed : state.Missed worker) :
    state.calls.length ≤ 1 := by
  rcases hmissed.waits with ⟨hcalls, _⟩ | hcalls <;> simp [hcalls]

theorem State.Missed.step {worker : ℕ} (hmissed : state.Missed worker) {action : Action}
    (hown : Own state action) (hstep : PortWorker.step state action = some next) :
    next.Missed worker := by
  cases action with
  | setCallback callback created => contradiction
  | pthreadKill call succeeds =>
      obtain ⟨hcall, _⟩ := pthreadKill_cases hstep
      obtain ⟨_, hcalls⟩ := eq_singleton_of_getElem? hmissed.single hcall
      rcases hmissed.waits with ⟨hother, _⟩ | hother <;> simp [hcalls] at hother
  | pthreadJoin call =>
      obtain ⟨hcall, current, hpoll, rfl⟩ := pthreadJoin_cases hstep
      obtain ⟨rfl, hcalls⟩ := eq_singleton_of_getElem? hmissed.single hcall
      rcases hmissed.waits with ⟨_, hworker⟩ | hother
      · obtain rfl : current = worker := Option.some.inj (hpoll.symm.trans hworker)
        exact ⟨hmissed.polling, .inr (by simp [hcalls])⟩
      · simp [hcalls] at hother
  | joined call =>
      obtain ⟨current, hcall, hexited, _⟩ := joined_cases hstep
      obtain ⟨_, hcalls⟩ := eq_singleton_of_getElem? hmissed.single hcall
      rcases hmissed.waits with ⟨hother, _⟩ | hother
      · simp [hcalls] at hother
      · rw [hcalls, List.cons.injEq, CallStage.joining.injEq] at hother
        obtain ⟨rfl, _⟩ := hother
        simp [State.exited, hmissed.polling] at hexited
  | startUp other succeeds => exact hmissed.moveWorker (by decide) hstep
  | check other => exact hmissed.moveWorker (by decide) hstep
  | epollWait other succeeds => contradiction
  | sighandler other interrupts =>
      obtain ⟨thread, hget, _, hsignalled, rfl⟩ := sighandler_cases hstep
      apply hmissed.moves hget
      rintro rfl
      rw [hmissed.polling, Option.some.injEq] at hget
      subst hget
      contradiction

theorem State.Missed.not_inevitable {worker : ℕ} (hmissed : state.Missed worker) :
    ¬Inevitable PortWorker.step Own (fun state => state.calls = []) state := by
  refine Transition.not_inevitable (P := State.Missed worker) ?_ ?_ hmissed
  · intro state hmissed hreturned
    rcases hmissed.waits with ⟨hcalls, _⟩ | hcalls <;> simp [hcalls] at hreturned
  · exact fun state hmissed => .inr fun action next hown hstep => hmissed.step hown hstep

end Missed

/-- If the calls come one after the other then each of them returns, in whatever order the
threads take their steps and without a uevent, exactly as long as no signal comes between
the test of `destroyThread` and `epoll_wait`. -/
theorem setCallback_returns_iff (actions : List Action)
    (hsequential : EveryStep step Sequential .initial actions) :
    EveryState step (Inevitable step Own fun state => state.calls = []) .initial actions ↔
      EveryStep step Interrupts .initial actions := by
  refine everyState_iff_everyStep_of_remaining
    (J := fun state rest => state.Ready ∧ state.Asked ∧ EveryStep step Sequential state rest)
    ?_ ?_ ?_ ⟨ready_initial, asked_initial, hsequential⟩
  · exact fun state rest hall => hall.1.inevitable
  · rintro state action rest next ⟨hready, hasked, hrest⟩ hstep hinterrupts
    obtain ⟨hone, hlater⟩ := hrest next hstep
    exact ⟨hready.step hone hinterrupts hstep, hasked.step hone hstep, hlater⟩
  · rintro state action rest next ⟨_, hasked, _⟩ hstep hreturns
    by_contra hmisses
    cases action with
    | sighandler worker interrupts =>
        cases interrupts with
        | true => exact hmisses trivial
        | false =>
            refine hmisses fun thread hget hpolling => ?_
            exact (hasked.missed hget hpolling hstep).not_inevitable hreturns
    | _ => exact hmisses trivial

/-! The signal comes while the thread is in `epoll_wait`, and just before it. -/

def signalled (interrupts : Bool) : List Action :=
  [.setCallback true true, .startUp 0 true, .check 0, .setCallback false true,
    .pthreadKill 0 true, .pthreadJoin 0, .sighandler 0 interrupts]

theorem setCallback_returns_examples :
    EveryState step (Inevitable step Own fun state => state.calls = []) .initial
        (signalled true) ∧
      ¬EveryState step (Inevitable step Own fun state => state.calls = []) .initial
        (signalled false) := by
  constructor
  · exact (setCallback_returns_iff (signalled true) (by decide)).mpr (by decide)
  · intro hreturns
    have hinterrupts := (setCallback_returns_iff (signalled false) (by decide)).mp hreturns
    exact absurd hinterrupts (by decide)

end PortWorker
end Camellia.Usb

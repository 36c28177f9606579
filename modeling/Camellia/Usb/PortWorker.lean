import Camellia.Transition

/-!
# The worker thread of the USB HAL

`setCallback` starts a worker thread when a first callback is registered, and
signals and joins it when the callback is taken back, the latter after it has
released the lock.  The worker leaves its loop when the signal handler has set
`destroyThread`, but also when its start-up or a later `epoll_wait` fails.  Calls
and workers interleave freely here; the main result says which steps keep one
worker alive for a registered callback.
-/

namespace Camellia.Usb
namespace PortWorker

open Transition

/-- Where a thread is in `work`: before the loop, at the test of `destroyThread` or in
the handlers that precede it, in `epoll_wait`, or gone. -/
inductive WorkerStage where
  | starting
  | checking
  | polling
  | exited
deriving DecidableEq

/-- `signalled` is set while a `SIGUSR1` is pending. -/
structure Worker where
  stage : WorkerStage
  signalled : Bool
deriving DecidableEq

/-- Where a call of `setCallback(NULL)` is after it has released `mLock`. -/
inductive CallStage where
  | killing
  | killed
  | joining (worker : ℕ)
deriving DecidableEq

/-- `mCallback` tells whether `mCallback_1_0` is non-null.  Threads are numbered in the
order of their creation. -/
structure State where
  mCallback : Bool
  mPoll : Option ℕ
  destroyThread : Bool
  workers : List Worker
  calls : List CallStage
deriving DecidableEq

def State.initial : State where
  mCallback := false
  mPoll := none
  destroyThread := false
  workers := []
  calls := []

/-- Arguments not taken from the code are what the environment answers: whether
`pthread_create`, `pthread_kill`, the start-up of `work` and `epoll_wait` succeed, and
whether the signal finds the thread inside `epoll_wait`. -/
inductive Action where
  | setCallback (callback created : Bool)
  | pthreadKill (call : ℕ) (succeeds : Bool)
  | pthreadJoin (call : ℕ)
  | joined (call : ℕ)
  | startUp (worker : ℕ) (succeeds : Bool)
  | check (worker : ℕ)
  | epollWait (worker : ℕ) (succeeds : Bool)
  | sighandler (worker : ℕ) (interrupts : Bool)
deriving DecidableEq

/-- The part of `setCallback` under `mLock`. -/
def setCallback (state : State) (callback created : Bool) : State :=
  if (!state.mCallback && !callback) || (state.mCallback && callback) then
    { state with mCallback := callback }
  else if !callback then
    { state with mCallback := false, calls := state.calls ++ [.killing] }
  else if created then
    { state with
      mCallback := true
      destroyThread := false
      mPoll := some state.workers.length
      workers := state.workers ++ [{ stage := .starting, signalled := false }] }
  else { state with mCallback := false, destroyThread := false }

/-- Both `mPoll`s of the null branch are read without the lock. -/
def pthreadKill (state : State) (call : ℕ) (succeeds : Bool) : Option State := do
  let .killing ← state.calls[call]? | none
  let worker ← state.mPoll
  let thread ← state.workers[worker]?
  if succeeds then
    some { state with
      workers := state.workers.set worker { thread with signalled := true }
      calls := state.calls.set call .killed }
  else if thread.stage = .exited then
    some { state with calls := state.calls.eraseIdx call }
  else none

def pthreadJoin (state : State) (call : ℕ) : Option State := do
  let .killed ← state.calls[call]? | none
  let worker ← state.mPoll
  some { state with calls := state.calls.set call (.joining worker) }

def State.live (state : State) (worker : ℕ) : Bool :=
  state.workers[worker]?.any fun thread => thread.stage ≠ .exited

def State.exited (state : State) (worker : ℕ) : Bool :=
  state.workers[worker]?.any fun thread => thread.stage = .exited

def joined (state : State) (call : ℕ) : Option State := do
  let .joining worker ← state.calls[call]? | none
  if state.exited worker then some { state with calls := state.calls.eraseIdx call }
  else none

def moveWorker (state : State) (worker : ℕ) (stage next : WorkerStage) : Option State := do
  let thread ← state.workers[worker]?
  if thread.stage = stage then
    some { state with workers := state.workers.set worker { thread with stage := next } }
  else none

def sighandler (state : State) (worker : ℕ) (interrupts : Bool) : Option State := do
  let thread ← state.workers[worker]?
  if thread.stage ≠ .exited ∧ thread.signalled then
    let stage :=
      if thread.stage = .polling ∧ interrupts then .checking else thread.stage
    some { state with
      destroyThread := true
      workers := state.workers.set worker { stage := stage, signalled := false } }
  else none

def step (state : State) : Action → Option State
  | .setCallback callback created => some (setCallback state callback created)
  | .pthreadKill call succeeds => pthreadKill state call succeeds
  | .pthreadJoin call => pthreadJoin state call
  | .joined call => joined state call
  | .startUp worker succeeds =>
      moveWorker state worker .starting (if succeeds then .checking else .exited)
  | .check worker =>
      moveWorker state worker .checking (if state.destroyThread then .exited else .polling)
  | .epollWait worker succeeds =>
      moveWorker state worker .polling (if succeeds then .checking else .exited)
  | .sighandler worker interrupts => sighandler state worker interrupts

/-! ## What has to hold -/

/-- The call only waits for a thread that is gone. -/
def CallStage.settled (state : State) : CallStage → Bool
  | .joining worker => state.exited worker
  | _ => false

def State.allSettled (state : State) : Bool :=
  state.calls.all (CallStage.settled state)

/-- The lifecycle, read off between calls. -/
structure State.OneWorker (state : State) : Prop where
  unique : ∀ worker other, state.live worker = true → state.live other = true →
    worker = other
  live_iff : (∃ worker, state.live worker = true) ↔ state.mCallback = true

/-- A callback is registered only when the threads of earlier ones are gone, and no
thread fails while a callback is registered. -/
def Undisturbed (state : State) : Action → Prop
  | .setCallback true true => state.mCallback = false → state.allSettled = true
  | .startUp _ false => state.mCallback = false
  | .epollWait _ false => state.mCallback = false
  | _ => True

instance (state : State) (action : Action) : Decidable (Undisturbed state action) := by
  unfold Undisturbed
  split <;> infer_instance

structure State.Invariant (state : State) : Prop where
  current : ∀ worker, state.live worker = true → state.mPoll = some worker
  registered : state.mCallback = true → state.allSettled = true ∧
    state.destroyThread = false ∧ ∃ (worker : ℕ) (thread : Worker),
      state.workers[worker]? = some thread ∧ thread.stage ≠ .exited ∧
        thread.signalled = false
  unregistered : state.mCallback = false → state.allSettled = true →
    ∀ worker, state.live worker = false

theorem invariant_initial : State.initial.Invariant := by
  refine ⟨?_, ?_, ?_⟩
  · intro worker hlive
    simp [State.live, State.initial] at hlive
  · intro hcallback
    simp [State.initial] at hcallback
  · intro _ _ worker
    simp [State.live, State.initial]

theorem State.Invariant.oneWorker {state : State} (hinv : state.Invariant)
    (hreturned : state.calls = []) : state.OneWorker := by
  have hsettled : state.allSettled = true := by
    simp [State.allSettled, hreturned]
  refine ⟨?_, ?_, ?_⟩
  · intro worker other hworker hother
    exact Option.some.inj ((hinv.current worker hworker).symm.trans
      (hinv.current other hother))
  · rintro ⟨worker, hlive⟩
    by_contra hcallback
    have hnone := hinv.unregistered (by simpa using hcallback) hsettled worker
    rw [hlive] at hnone
    contradiction
  · intro hcallback
    obtain ⟨_, _, worker, thread, hget, hstage, _⟩ := hinv.registered hcallback
    exact ⟨worker, by simp [State.live, hget, hstage]⟩

/-! ## Steps of the calls -/

theorem live_congr {state next : State} (hworkers : next.workers = state.workers)
    (worker : ℕ) : next.live worker = state.live worker := by
  unfold State.live
  rw [hworkers]

theorem not_allSettled {state : State} (call : CallStage) (hmem : call ∈ state.calls)
    (hunsettled : call.settled state = false) : ¬state.allSettled = true := by
  intro hsettled
  rw [State.allSettled, List.all_eq_true] at hsettled
  rw [hsettled call hmem] at hunsettled
  contradiction

/-- Settled calls stay so while the threads that they join stay gone. -/
theorem State.allSettled.mono {state next : State} (hsettled : state.allSettled = true)
    (hcalls : next.calls = state.calls)
    (hexited : ∀ worker, state.exited worker = true → next.exited worker = true) :
    next.allSettled = true := by
  rw [State.allSettled, List.all_eq_true] at hsettled ⊢
  rw [hcalls]
  intro call hmem
  have hcall := hsettled call hmem
  cases call with
  | killing => contradiction
  | killed => contradiction
  | joining worker => exact hexited worker hcall

/-- A call that still has to kill or to join rules out a registered callback. -/
theorem State.Invariant.mCallback_of_unsettled {state : State} (hinv : state.Invariant)
    {call : CallStage} (hmem : call ∈ state.calls) (hunsettled : call.settled state = false) :
    state.mCallback = false := by
  by_contra hcallback
  exact not_allSettled call hmem hunsettled (hinv.registered (by simpa using hcallback)).1

/-- Steps of calls that kill or join: no worker starts or ends. -/
theorem State.Invariant.unregistered_step {state next : State} (hinv : state.Invariant)
    (hnext : next.mCallback = false)
    (hpoll : next.mPoll = state.mPoll) (hlive : ∀ worker, next.live worker = state.live worker)
    (hpending : next.allSettled = true → ∀ worker, state.live worker = false) :
    next.Invariant := by
  refine ⟨?_, ?_, ?_⟩
  · intro worker hworker
    rw [hpoll]
    exact hinv.current worker ((hlive worker).symm.trans hworker)
  · intro hregistered
    rw [hnext] at hregistered
    contradiction
  · intro _ hsettled worker
    rw [hlive]
    exact hpending hsettled worker

theorem setCallback_same {state : State} {callback : Bool}
    (hsame : state.mCallback = callback) (created : Bool) :
    setCallback state callback created = state := by
  subst hsame
  unfold setCallback
  cases hcallback : state.mCallback <;> cases state <;> simp_all

theorem State.Invariant.create {state : State} (hinv : state.Invariant)
    (hcallback : state.mCallback = false) (hsettled : state.allSettled = true) :
    State.Invariant { state with
      mCallback := true
      destroyThread := false
      mPoll := some state.workers.length
      workers := state.workers ++ [{ stage := .starting, signalled := false }] } := by
  have hdead := hinv.unregistered hcallback hsettled
  refine ⟨?_, ?_, ?_⟩
  · intro worker hworker
    have hold := hdead worker
    rcases Nat.lt_trichotomy worker state.workers.length with hlt | rfl | hgt
    · rw [State.live, List.getElem?_append_left hlt] at hworker
      rw [State.live, hworker] at hold
      contradiction
    · rfl
    · have hnone : state.workers.length + 1 ≤ worker := hgt
      simp [State.live, List.getElem?_eq_none, hnone] at hworker
  · intro _
    refine ⟨?_, rfl, state.workers.length, { stage := .starting, signalled := false },
      by simp, by simp, rfl⟩
    refine State.allSettled.mono hsettled rfl fun worker hexited => ?_
    simp only [State.exited, Option.any_eq_true] at hexited ⊢
    obtain ⟨thread, hget, hstage⟩ := hexited
    have hlt := (List.getElem?_eq_some_iff.mp hget).1
    exact ⟨thread, (List.getElem?_append_left hlt).trans hget, hstage⟩
  · intro hnone
    contradiction

theorem State.Invariant.setCallback {state : State} (hinv : state.Invariant)
    {callback created : Bool} (hmeets : Undisturbed state (.setCallback callback created)) :
    (setCallback state callback created).Invariant := by
  by_cases hsame : state.mCallback = callback
  · rw [setCallback_same hsame]
    exact hinv
  cases callback with
  | false =>
      have hcallback : state.mCallback = true := by simpa using hsame
      have hnull : PortWorker.setCallback state false created =
          { state with mCallback := false, calls := state.calls ++ [.killing] } := by
        simp [PortWorker.setCallback, hcallback]
      rw [hnull]
      refine hinv.unregistered_step rfl rfl (live_congr rfl) fun hsettled => ?_
      simp [State.allSettled, CallStage.settled] at hsettled
  | true =>
      have hcallback : state.mCallback = false := by simpa using hsame
      cases created with
      | false =>
          have hfails : PortWorker.setCallback state true false =
              { state with mCallback := false, destroyThread := false } := by
            simp [PortWorker.setCallback, hcallback]
          rw [hfails]
          exact hinv.unregistered_step rfl rfl (live_congr rfl)
            (hinv.unregistered hcallback)
      | true =>
          have hcreates : PortWorker.setCallback state true true = { state with
              mCallback := true
              destroyThread := false
              mPoll := some state.workers.length
              workers := state.workers ++ [{ stage := .starting, signalled := false }] } := by
            simp [PortWorker.setCallback, hcallback]
          rw [hcreates]
          exact hinv.create hcallback (hmeets hcallback)

theorem any_getElem?_set {workers : List Worker} {worker : ℕ} {thread : Worker}
    (hget : workers[worker]? = some thread) (moved : Worker) (p : Worker → Bool) (other : ℕ) :
    (workers.set worker moved)[other]?.any p =
      if other = worker then p moved else workers[other]?.any p := by
  have hlt := (List.getElem?_eq_some_iff.mp hget).1
  rw [List.getElem?_set]
  by_cases hother : worker = other
  · subst other
    simp [hlt]
  · rw [if_neg hother, if_neg (Ne.symm hother)]

theorem State.Invariant.pthreadKill {state next : State} (hinv : state.Invariant)
    {call : ℕ} {succeeds : Bool} (hstep : pthreadKill state call succeeds = some next) :
    next.Invariant := by
  unfold PortWorker.pthreadKill at hstep
  simp only [Option.bind_eq_bind, Option.bind_eq_some_iff] at hstep
  obtain ⟨stage, hcall, hstep⟩ := hstep
  cases stage with
  | killed => contradiction
  | joining worker => contradiction
  | killing =>
      simp only [Option.bind_eq_some_iff] at hstep
      obtain ⟨worker, hpoll, thread, hget, hstep⟩ := hstep
      have hmem := List.mem_of_getElem? hcall
      have hcallback := hinv.mCallback_of_unsettled hmem rfl
      split at hstep
      · rw [Option.some.injEq] at hstep
        subst next
        refine hinv.unregistered_step hcallback rfl (fun other => ?_) fun hsettled => ?_
        · rw [State.live, any_getElem?_set hget]
          split
          · rename_i hother
            simp [State.live, hother, hget]
          · rfl
        · refine absurd hsettled (not_allSettled .killed ?_ rfl)
          exact List.mem_set (List.getElem?_eq_some_iff.mp hcall).1 _
      · rename_i hfails
        split at hstep
        · rename_i hexited
          rw [Option.some.injEq] at hstep
          subst next
          refine hinv.unregistered_step hcallback rfl (fun _ => rfl) fun _ other => ?_
          -- only the thread in `mPoll` may be live, and that one has exited
          by_contra hlive
          have hcurrent := hinv.current other (by simpa using hlive)
          rw [hpoll, Option.some.injEq] at hcurrent
          subst other
          simp [State.live, hget, hexited] at hlive
        · contradiction

theorem State.Invariant.pthreadJoin {state next : State} (hinv : state.Invariant)
    {call : ℕ} (hstep : pthreadJoin state call = some next) : next.Invariant := by
  unfold PortWorker.pthreadJoin at hstep
  simp only [Option.bind_eq_bind, Option.bind_eq_some_iff] at hstep
  obtain ⟨stage, hcall, hstep⟩ := hstep
  cases stage with
  | killing => contradiction
  | joining worker => contradiction
  | killed =>
      simp only [Option.bind_eq_some_iff, Option.some.injEq] at hstep
      obtain ⟨worker, hpoll, hstep⟩ := hstep
      subst next
      have hcallback := hinv.mCallback_of_unsettled (List.mem_of_getElem? hcall) rfl
      refine hinv.unregistered_step hcallback rfl (fun _ => rfl) fun hsettled other => ?_
      rw [State.allSettled, List.all_eq_true] at hsettled
      have hexited := hsettled (.joining worker)
        (List.mem_set (List.getElem?_eq_some_iff.mp hcall).1 _)
      by_contra hlive
      have hcurrent := hinv.current other (by simpa using hlive)
      rw [hpoll, Option.some.injEq] at hcurrent
      subst other
      simp only [CallStage.settled, State.exited, Option.any_eq_true] at hexited
      obtain ⟨thread, hget, hstage⟩ := hexited
      simp_all [State.live]

theorem State.Invariant.joined {state next : State} (hinv : state.Invariant)
    {call : ℕ} (hstep : joined state call = some next) : next.Invariant := by
  unfold PortWorker.joined at hstep
  simp only [Option.bind_eq_bind, Option.bind_eq_some_iff] at hstep
  obtain ⟨stage, hcall, hstep⟩ := hstep
  cases stage with
  | killing => contradiction
  | killed => contradiction
  | joining worker =>
      dsimp only at hstep
      split at hstep
      · rename_i hexited
        rw [Option.some.injEq] at hstep
        subst next
        -- the call that returns was settled
        have hsettled : State.allSettled { state with calls := state.calls.eraseIdx call } =
            state.allSettled := by
          rw [Bool.eq_iff_iff, State.allSettled, State.allSettled, List.all_eq_true,
            List.all_eq_true]
          constructor
          · intro hall other hmem
            by_cases hother : other = .joining worker
            · subst other
              exact hexited
            · refine hall other ?_
              rw [List.mem_eraseIdx_iff_getElem?]
              obtain ⟨index, hindex⟩ := List.mem_iff_getElem?.mp hmem
              refine ⟨index, ?_, hindex⟩
              rintro rfl
              rw [hcall, Option.some.injEq] at hindex
              exact hother hindex.symm
          · intro hall other hmem
            exact hall other (List.mem_of_mem_eraseIdx hmem)
        refine ⟨hinv.current, ?_, ?_⟩
        · rw [hsettled]
          exact hinv.registered
        · rw [hsettled]
          exact hinv.unregistered
      · contradiction

/-! ## Steps of the workers -/

/-- A live thread moves on.  While a callback is registered it has to stay alive. -/
theorem State.Invariant.moves {state : State} (hinv : state.Invariant) {worker : ℕ}
    {thread : Worker} (hget : state.workers[worker]? = some thread)
    (hlive : thread.stage ≠ .exited) (moved : Worker) (destroyThread : Bool)
    (hregistered : state.mCallback = true → state.destroyThread = false →
      thread.signalled = false →
        moved.stage ≠ .exited ∧ moved.signalled = false ∧ destroyThread = false) :
    State.Invariant { state with
      destroyThread := destroyThread
      workers := state.workers.set worker moved } := by
  set next : State := { state with
    destroyThread := destroyThread
    workers := state.workers.set worker moved } with hnext
  have hworker : state.live worker = true := by simp [State.live, hget, hlive]
  have hexitedIff : ∀ other, other ≠ worker → next.exited other = state.exited other := by
    intro other hother
    rw [State.exited, hnext, any_getElem?_set hget, if_neg hother, State.exited]
  have hunexited : state.exited worker = false := by simp [State.exited, hget, hlive]
  have hgetNext : next.workers[worker]? = some moved := by
    simp [hnext, (List.getElem?_eq_some_iff.mp hget).1]
  have hnextLive : ∀ other, next.live other = true → state.live other = true := by
    intro other hother
    rw [State.live, hnext, any_getElem?_set hget] at hother
    split at hother
    · rename_i heq
      rw [heq]
      exact hworker
    · exact hother
  refine ⟨fun other hother => hinv.current other (hnextLive other hother), ?_, ?_⟩
  · intro hcallback
    obtain ⟨hsettled, hdestroy, running, runningThread, hrunning, hstage, hsignal⟩ :=
      hinv.registered hcallback
    have hsame : running = worker := by
      have hrunningLive : state.live running = true := by
        simp [State.live, hrunning, hstage]
      exact Option.some.inj
        ((hinv.current running hrunningLive).symm.trans (hinv.current worker hworker))
    subst running
    rw [hget, Option.some.injEq] at hrunning
    subst runningThread
    obtain ⟨hmoved, hunsignalled, hkept⟩ := hregistered hcallback hdestroy hsignal
    refine ⟨?_, hkept, worker, moved, hgetNext, hmoved, hunsignalled⟩
    refine State.allSettled.mono hsettled rfl fun other hother => ?_
    rwa [hexitedIff other fun heq => by simp [heq, hunexited] at hother]
  · intro hcallback hsettled
    by_contra hsome
    obtain ⟨other, hother⟩ := not_forall.mp hsome
    have hotherLive := hnextLive other (by simpa using hother)
    refine absurd (hinv.unregistered hcallback ?_ other) (by simp [hotherLive])
    have hsame : other = worker := Option.some.inj
      ((hinv.current other hotherLive).symm.trans (hinv.current worker hworker))
    subst other
    -- the thread is live in the next state, so no settled call joins it
    have hrunning : next.exited worker = false := by
      simpa [State.live, State.exited, hgetNext] using hother
    refine State.allSettled.mono hsettled rfl fun other hexited => ?_
    rwa [← hexitedIff other fun heq => by simp [heq, hrunning] at hexited]

theorem moveWorker_eq_some {state next : State} {worker : ℕ} {stage moved : WorkerStage} :
    moveWorker state worker stage moved = some next ↔
      ∃ thread, state.workers[worker]? = some thread ∧ thread.stage = stage ∧
        next = { state with
          workers := state.workers.set worker { thread with stage := moved } } := by
  unfold moveWorker
  simp only [Option.bind_eq_bind, Option.bind_eq_some_iff]
  refine exists_congr fun thread => and_congr_right fun _ => ?_
  split
  · rename_i hstage
    simp [hstage, eq_comm]
  · rename_i hstage
    simp [hstage]

theorem State.Invariant.moveWorker {state next : State} (hinv : state.Invariant)
    {worker : ℕ} {stage moved : WorkerStage} (hstage : stage ≠ .exited)
    (hregistered : state.mCallback = true → state.destroyThread = false → moved ≠ .exited)
    (hstep : moveWorker state worker stage moved = some next) : next.Invariant := by
  obtain ⟨thread, hget, hthread, rfl⟩ := moveWorker_eq_some.mp hstep
  exact hinv.moves hget (hthread ▸ hstage) { thread with stage := moved }
    state.destroyThread fun hcallback hdestroy hsignal =>
      ⟨hregistered hcallback hdestroy, hsignal, hdestroy⟩

theorem State.Invariant.sighandler {state next : State} (hinv : state.Invariant)
    {worker : ℕ} {interrupts : Bool}
    (hstep : sighandler state worker interrupts = some next) : next.Invariant := by
  unfold PortWorker.sighandler at hstep
  simp only [Option.bind_eq_bind, Option.bind_eq_some_iff] at hstep
  obtain ⟨thread, hget, hstep⟩ := hstep
  split at hstep
  · rename_i hpending
    rw [Option.some.injEq] at hstep
    subst next
    refine hinv.moves hget hpending.1 _ true fun _ _ hsignal => ?_
    -- no signal is pending while a callback is registered
    rw [hsignal] at hpending
    exact absurd hpending.2 (by simp)
  · contradiction

theorem State.Invariant.step {state next : State} {action : Action}
    (hinv : state.Invariant) (hmeets : Undisturbed state action)
    (hstep : step state action = some next) : next.Invariant := by
  cases action with
  | setCallback callback created =>
      obtain rfl := Option.some.inj hstep
      exact hinv.setCallback hmeets
  | pthreadKill call succeeds => exact hinv.pthreadKill hstep
  | pthreadJoin call => exact hinv.pthreadJoin hstep
  | joined call => exact hinv.joined hstep
  | startUp worker succeeds =>
      refine hinv.moveWorker (by simp) (fun hcallback _ => ?_) hstep
      cases succeeds with
      | true => simp
      | false => exact absurd hcallback (by simpa [Undisturbed] using hmeets)
  | check worker =>
      refine hinv.moveWorker (by simp) (fun _ hdestroy => ?_) hstep
      simp [hdestroy]
  | epollWait worker succeeds =>
      refine hinv.moveWorker (by simp) (fun hcallback _ => ?_) hstep
      cases succeeds with
      | true => simp
      | false => exact absurd hcallback (by simpa [Undisturbed] using hmeets)
  | sighandler worker interrupts => exact hinv.sighandler hstep

/-- In undisturbed runs there is, between calls, one live worker for a registered
callback and none otherwise. -/
theorem oneWorker_when_all_returned (actions : List Action)
    (hmeets : EveryStep step Undisturbed State.initial actions) :
    EveryState step (fun state => state.calls = [] → state.OneWorker) State.initial
      actions := by
  have hinvariant : EveryState step State.Invariant State.initial actions :=
    hmeets.everyState (fun _ _ _ hinv hmeets hstep => hinv.step hmeets hstep)
      invariant_initial
  exact hinvariant.imp fun _ hinv => hinv.oneWorker

/-- A callback is registered, taken back and registered again. -/
theorem oneWorker_registered_again :
    EveryState step (fun state => state.calls = [] → state.OneWorker) State.initial
      [.setCallback true true, .startUp 0 true, .check 0, .setCallback false true,
        .pthreadKill 0 true, .pthreadJoin 0, .sighandler 0 true, .check 0, .joined 0,
        .setCallback true true] :=
  oneWorker_when_all_returned _ (by decide)

/-- The start-up of the worker fails, and the registered callback has none. -/
theorem not_oneWorker_failed_start_up :
    ¬EveryState step (fun state => state.calls = [] → state.OneWorker) State.initial
      [.setCallback true true, .startUp 0 false] := by
  intro hevery
  have honeWorker := hevery.final rfl rfl
  obtain ⟨worker, hlive⟩ := honeWorker.live_iff.mpr rfl
  cases worker with
  | zero => contradiction
  | succ worker => simp [State.live, setCallback, State.initial] at hlive

end PortWorker
end Camellia.Usb

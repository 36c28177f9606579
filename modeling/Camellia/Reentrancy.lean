import Camellia.Transition

/-!
# Re-entrant calls under non-recursive mutexes

Threads run straight-line programs that take and release mutexes, change a shared
state and call out to code they do not control.  That code may call back before it
returns, on the same thread and therefore under the mutexes the thread holds.  A
thread that comes to lock a mutex it holds hangs.

A discipline assigns to every place of an outgoing call the mutexes that may be
held there.  Programs that keep it hang nobody by themselves, and the runs in which
no thread hangs are those whose callbacks are fit for the place they are made from.
-/

namespace Camellia.Reentrancy

open Transition

variable {μ κ σ ω β : Type*}

/-- `calls` makes one outgoing call after the other, `inside` stands for one of them. -/
inductive Instr (μ κ σ : Type*) where
  | lock (mutex : μ)
  | unlock (mutex : μ)
  | update (change : σ → σ)
  | calls (places : σ → List κ)
  | inside (place : κ)

structure Thread (μ κ σ : Type*) where
  held : List μ
  todo : List (Instr μ κ σ)

structure State (μ κ σ : Type*) where
  shared : σ
  threads : List (Thread μ κ σ)

def State.initial (shared : σ) : State μ κ σ where
  shared := shared
  threads := []

/-- What a thread runs for an operation, and what the called code runs for a callback. -/
structure Code (ω β μ κ σ : Type*) where
  program : ω → σ → List (Instr μ κ σ)
  incoming : β → σ → List (Instr μ κ σ)

inductive Action (ω β : Type*) where
  | start (operation : ω)
  | advance (thread : ℕ)
  | callBack (thread : ℕ) (callback : β)

section Steps

variable [DecidableEq μ]

def State.free (state : State μ κ σ) (mutex : μ) : Bool :=
  state.threads.all fun thread => mutex ∉ thread.held

def advance (state : State μ κ σ) (thread : Thread μ κ σ) : Option (σ × Thread μ κ σ) :=
  match thread.todo with
  | [] => none
  | .lock mutex :: rest =>
      if state.free mutex then
        some (state.shared, { held := mutex :: thread.held, todo := rest })
      else none
  | .unlock mutex :: rest =>
      some (state.shared, { held := thread.held.erase mutex, todo := rest })
  | .update change :: rest => some (change state.shared, { thread with todo := rest })
  | .calls places :: rest =>
      some (state.shared,
        { thread with todo := (places state.shared).map Instr.inside ++ rest })
  | .inside _ :: rest => some (state.shared, { thread with todo := rest })

def callBack (code : Code ω β μ κ σ) (state : State μ κ σ) (thread : Thread μ κ σ)
    (callback : β) : Option (Thread μ κ σ) :=
  match thread.todo with
  | .inside _ :: _ =>
      some { thread with todo := code.incoming callback state.shared ++ thread.todo }
  | _ => none

def step (code : Code ω β μ κ σ) (state : State μ κ σ) :
    Action ω β → Option (State μ κ σ)
  | .start operation =>
      some { state with
        threads := state.threads ++
          [{ held := [], todo := code.program operation state.shared }] }
  | .advance index =>
      state.threads[index]?.bind fun thread =>
        (advance state thread).map fun (shared, thread) =>
          { shared := shared, threads := state.threads.set index thread }
  | .callBack index callback =>
      state.threads[index]?.bind fun thread =>
        (callBack code state thread callback).map fun thread =>
          { state with threads := state.threads.set index thread }

end Steps

theorem callBack_spec {code : Code ω β μ κ σ} {state : State μ κ σ}
    {thread next : Thread μ κ σ} {callback : β}
    (hback : callBack code state thread callback = some next) :
    ∃ place rest, thread.todo = .inside place :: rest ∧
      next = { thread with
        todo := code.incoming callback state.shared ++ .inside place :: rest } := by
  unfold callBack at hback
  split at hback
  next place rest htodo =>
    rw [Option.some.injEq, htodo] at hback
    exact ⟨place, rest, htodo, hback.symm⟩
  next => contradiction

/-- The thread is about to lock a mutex that it holds. -/
def Thread.Relocks (thread : Thread μ κ σ) : Prop :=
  ∃ mutex rest, thread.todo = .lock mutex :: rest ∧ mutex ∈ thread.held

def State.NoneRelocks (state : State μ κ σ) : Prop :=
  ∀ thread ∈ state.threads, ¬thread.Relocks

instance [DecidableEq μ] (thread : Thread μ κ σ) : Decidable thread.Relocks :=
  match htodo : thread.todo with
  | .lock mutex :: _ => decidable_of_iff (mutex ∈ thread.held) (by simp [Thread.Relocks, htodo])
  | [] => .isFalse (by simp [Thread.Relocks, htodo])
  | .unlock _ :: _ => .isFalse (by simp [Thread.Relocks, htodo])
  | .update _ :: _ => .isFalse (by simp [Thread.Relocks, htodo])
  | .calls _ :: _ => .isFalse (by simp [Thread.Relocks, htodo])
  | .inside _ :: _ => .isFalse (by simp [Thread.Relocks, htodo])

instance [DecidableEq μ] (state : State μ κ σ) : Decidable state.NoneRelocks :=
  inferInstanceAs (Decidable (∀ thread ∈ state.threads, ¬thread.Relocks))

/-- Callbacks are made only from places where they are allowed. -/
def CallsBackAllowed (Allowed : κ → β → Prop) (state : State μ κ σ) : Action ω β → Prop
  | .callBack index callback =>
      ∀ thread place rest, state.threads[index]? = some thread →
        thread.todo = .inside place :: rest → Allowed place callback
  | _ => True

/-! ## Disciplined programs -/

section Discipline

variable [DecidableEq μ] (Fits : κ → List μ → Prop)

def heldAfter : List μ → List (Instr μ κ σ) → List μ
  | held, [] => held
  | held, .lock mutex :: rest => heldAfter (mutex :: held) rest
  | held, .unlock mutex :: rest => heldAfter (held.erase mutex) rest
  | held, _ :: rest => heldAfter held rest

/-- The program locks only what is not held and calls out only where the mutexes held
fit the place. -/
def Safe : List μ → List (Instr μ κ σ) → Prop
  | _, [] => True
  | held, .lock mutex :: rest => mutex ∉ held ∧ Safe (mutex :: held) rest
  | held, .unlock mutex :: rest => Safe (held.erase mutex) rest
  | held, .update _ :: rest => Safe held rest
  | held, .calls places :: rest =>
      (∀ shared, ∀ place ∈ places shared, Fits place held) ∧ Safe held rest
  | held, .inside place :: rest => Fits place held ∧ Safe held rest

variable {Fits}

theorem safe_append {held : List μ} {program rest : List (Instr μ κ σ)} :
    Safe Fits held (program ++ rest) ↔
      Safe Fits held program ∧ Safe Fits (heldAfter held program) rest := by
  induction program generalizing held with
  | nil => simp [Safe, heldAfter]
  | cons instr program ih => cases instr <;> simp [Safe, heldAfter, ih, and_assoc]

theorem safe_calls {held : List μ} {places : List κ} {rest : List (Instr μ κ σ)}
    (hfits : ∀ place ∈ places, Fits place held) (hrest : Safe Fits held rest) :
    Safe Fits held (places.map Instr.inside ++ rest) := by
  induction places with
  | nil => exact hrest
  | cons place places ih =>
      exact ⟨hfits place List.mem_cons_self,
        ih fun other hmem => hfits other (List.mem_cons_of_mem _ hmem)⟩

theorem not_relocks_of_safe {thread : Thread μ κ σ}
    (hsafe : Safe Fits thread.held thread.todo) : ¬thread.Relocks := by
  rintro ⟨mutex, rest, htodo, hheld⟩
  rw [htodo] at hsafe
  exact hsafe.1 hheld

theorem safe_advance {state : State μ κ σ} {thread next : Thread μ κ σ} {shared : σ}
    (hsafe : Safe Fits thread.held thread.todo)
    (hadvance : advance state thread = some (shared, next)) :
    Safe Fits next.held next.todo := by
  unfold advance at hadvance
  split at hadvance
  next => contradiction
  next mutex rest htodo =>
    rw [htodo] at hsafe
    simp only [Option.ite_none_right_eq_some, Option.some.injEq, Prod.mk.injEq] at hadvance
    obtain ⟨_, _, rfl⟩ := hadvance
    exact hsafe.2
  next mutex rest htodo =>
    rw [htodo] at hsafe
    simp only [Option.some.injEq, Prod.mk.injEq] at hadvance
    obtain ⟨_, rfl⟩ := hadvance
    exact hsafe
  next change rest htodo =>
    rw [htodo] at hsafe
    simp only [Option.some.injEq, Prod.mk.injEq] at hadvance
    obtain ⟨_, rfl⟩ := hadvance
    exact hsafe
  next places rest htodo =>
    rw [htodo] at hsafe
    simp only [Option.some.injEq, Prod.mk.injEq] at hadvance
    obtain ⟨_, rfl⟩ := hadvance
    exact safe_calls (hsafe.1 state.shared) hsafe.2
  next place rest htodo =>
    rw [htodo] at hsafe
    simp only [Option.some.injEq, Prod.mk.injEq] at hadvance
    obtain ⟨_, rfl⟩ := hadvance
    exact hsafe.2

end Discipline

/-- What ties a discipline to the code: operations keep it, allowed callbacks keep it
and change no mutex, other callbacks begin by locking what is held. -/
structure Disciplined [DecidableEq μ] (Fits : κ → List μ → Prop) (Allowed : κ → β → Prop)
    (code : Code ω β μ κ σ) : Prop where
  program : ∀ operation shared, Safe Fits [] (code.program operation shared)
  incoming : ∀ place held callback shared, Fits place held → Allowed place callback →
    Safe Fits held (code.incoming callback shared) ∧
      heldAfter held (code.incoming callback shared) = held
  relocks : ∀ place held callback shared, Fits place held → ¬Allowed place callback →
    ∃ mutex rest, code.incoming callback shared = .lock mutex :: rest ∧ mutex ∈ held

variable [DecidableEq μ]

/-- Under a discipline, no thread ever comes to lock a mutex that it holds if and only
if all callbacks are made from places where they are allowed. -/
theorem Disciplined.noneRelocks_iff {Fits : κ → List μ → Prop} {Allowed : κ → β → Prop}
    {code : Code ω β μ κ σ} (hcode : Disciplined Fits Allowed code) (shared : σ)
    (actions : List (Action ω β)) :
    EveryState (step code) State.NoneRelocks (.initial shared) actions ↔
      EveryStep (step code) (CallsBackAllowed Allowed) (.initial shared) actions := by
  refine everyState_iff_everyStep_of_remaining
    (J := fun state _ => ∀ thread ∈ state.threads, Safe Fits thread.held thread.todo)
    (fun state _ hsafe thread hmem => not_relocks_of_safe (hsafe thread hmem)) ?_ ?_ ?_
  · intro state action _ next hsafe hstep hallowed
    cases action with
    | start operation =>
        rw [step, Option.some.injEq] at hstep
        subst next
        intro thread hmem
        rcases List.mem_append.mp hmem with hold | hnew
        · exact hsafe thread hold
        · rw [List.mem_singleton.mp hnew]
          exact hcode.program operation state.shared
    | advance index =>
        simp only [step, Option.bind_eq_some_iff, Option.map_eq_some_iff] at hstep
        obtain ⟨thread, hget, ⟨changed, after⟩, hadvance, rfl⟩ := hstep
        intro other hmem
        rcases List.mem_or_eq_of_mem_set hmem with hold | rfl
        · exact hsafe other hold
        · exact safe_advance (hsafe thread (List.mem_of_getElem? hget)) hadvance
    | callBack index callback =>
        simp only [step, Option.bind_eq_some_iff, Option.map_eq_some_iff] at hstep
        obtain ⟨thread, hget, after, hback, rfl⟩ := hstep
        intro other hmem
        rcases List.mem_or_eq_of_mem_set hmem with hold | rfl
        · exact hsafe other hold
        · obtain ⟨place, rest, htodo, rfl⟩ := callBack_spec hback
          have hbefore := hsafe thread (List.mem_of_getElem? hget)
          rw [htodo] at hbefore
          obtain ⟨hincoming, hheld⟩ := hcode.incoming place thread.held callback state.shared
            hbefore.1 (hallowed thread place rest hget htodo)
          exact safe_append.mpr ⟨hincoming, hheld.symm ▸ hbefore⟩
  · intro state action _ next hsafe hstep hnone
    cases action with
    | callBack index callback =>
        intro thread place rest hget htodo
        by_contra hforbidden
        simp only [step, hget, Option.bind_some, callBack, htodo, Option.map_some,
          Option.some.injEq] at hstep
        subst next
        have hbefore := hsafe thread (List.mem_of_getElem? hget)
        rw [htodo] at hbefore
        obtain ⟨mutex, tail, hlock, hheld⟩ := hcode.relocks place thread.held callback
          state.shared hbefore.1 hforbidden
        have hlt := (List.getElem?_eq_some_iff.mp hget).1
        refine hnone _ (List.mem_set hlt _) ⟨mutex, tail ++ .inside place :: rest, ?_, hheld⟩
        simp only [hlock, List.cons_append]
    | _ => trivial
  · intro thread hmem
    exact absurd hmem List.not_mem_nil

end Camellia.Reentrancy

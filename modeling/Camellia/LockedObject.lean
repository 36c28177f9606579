import Camellia.Mutex
import Camellia.Transition

/-!
# Objects behind a mutex

Calls arrive at any time and in any number; each takes the mutex, does its work on the
shared state step by step, and gives the mutex back.  Whatever the interleaving, the
shared state is the one that the calls lead to when they are served one after the other,
in the order in which they have taken the mutex.  This order extends that of calls of
which one has returned before the other arrives.
-/

namespace Camellia.LockedObject

open Transition Mutex Relation

variable {σ ω ℓ : Type*}

/-- What a call does while it holds the mutex, on the shared state and its own variables;
`none` is the end of its work. -/
structure Code (σ ω ℓ : Type*) where
  start : ω → ℓ
  work : ω → σ × ℓ → Option (σ × ℓ)

inductive Place (ℓ : Type*) where
  | waiting
  | inside (own : ℓ)
  | returned

structure Call (ω ℓ : Type*) where
  op : ω
  place : Place ℓ

structure Object (σ ω ℓ : Type*) where
  shared : σ
  lock : Option ℕ
  calls : List (Call ω ℓ)
  /-- The calls that have taken the mutex, in this order. -/
  order : List (ℕ × ω)

inductive Action (ω : Type*) where
  | call (op : ω)
  | acquire (i : ℕ)
  | work (i : ℕ)
  | release (i : ℕ)

def Object.initial (shared : σ) : Object σ ω ℓ where
  shared := shared
  lock := none
  calls := []
  order := []

def step (code : Code σ ω ℓ) (object : Object σ ω ℓ) : Action ω → Option (Object σ ω ℓ)
  | .call op => some { object with calls := object.calls ++ [⟨op, .waiting⟩] }
  | .acquire i =>
      match object.calls[i]?, object.lock with
      | some ⟨op, .waiting⟩, none => some { object with
          lock := some i
          calls := object.calls.set i ⟨op, .inside (code.start op)⟩
          order := object.order ++ [(i, op)] }
      | _, _ => none
  | .work i =>
      match object.calls[i]? with
      | some ⟨op, .inside own⟩ => (code.work op (object.shared, own)).map fun next =>
          { object with
            shared := next.1
            calls := object.calls.set i ⟨op, .inside next.2⟩ }
      | _ => none
  | .release i =>
      match object.calls[i]? with
      | some ⟨op, .inside own⟩ =>
          match code.work op (object.shared, own) with
          | none => some { object with
              lock := none
              calls := object.calls.set i ⟨op, .returned⟩ }
          | some _ => none
      | _ => none

/-! ## One call after the other -/

def Code.Works (code : Code σ ω ℓ) (op : ω) (before after : σ × ℓ) : Prop :=
  ReflTransGen (fun state next => code.work op state = some next) before after

def Code.Serves (code : Code σ ω ℓ) (op : ω) (before after : σ) : Prop :=
  ∃ own, code.Works op (before, code.start op) (after, own) ∧ code.work op (after, own) = none

inductive Code.Sequential (code : Code σ ω ℓ) (start : σ) : List ω → σ → Prop
  | nil : Sequential code start [] start
  | snoc {ops : List ω} {op : ω} {before after : σ} (hops : Sequential code start ops before)
      (hop : code.Serves op before after) : Sequential code start (ops ++ [op]) after

/-- Where serving is a function, so is a sequence of calls. -/
theorem Code.Sequential.eq_foldl {code : Code σ ω ℓ} {serve : σ → ω → σ}
    (hserve : ∀ op before after, code.Serves op before after → after = serve before op)
    {start final : σ} {ops : List ω} (hops : code.Sequential start ops final) :
    final = ops.foldl serve start := by
  induction hops with
  | nil => rfl
  | snoc _ hop ih =>
      rw [List.foldl_append, ← ih]
      exact hserve _ _ _ hop

/-! ## What a step does -/

section Steps

variable {code : Code σ ω ℓ} {object next : Object σ ω ℓ}

/-- One call goes to another place, and all others stay where they are. -/
structure Moves (object next : Object σ ω ℓ) (i : ℕ) (op : ω) (before after : Place ℓ) :
    Prop where
  was : object.calls[i]? = some ⟨op, before⟩
  calls : next.calls = object.calls.set i ⟨op, after⟩

theorem Moves.self {i : ℕ} {op : ω} {before after : Place ℓ}
    (hmoves : Moves object next i op before after) :
    next.calls[i]? = some ⟨op, after⟩ := by
  have hlt := (List.getElem?_eq_some_iff.mp hmoves.was).1
  rw [hmoves.calls, List.getElem?_set_self hlt]

theorem Moves.other {i : ℕ} {op : ω} {before after : Place ℓ}
    (hmoves : Moves object next i op before after) {j : ℕ} (hj : j ≠ i) :
    next.calls[j]? = object.calls[j]? := by
  rw [hmoves.calls, List.getElem?_set_ne hj.symm]

theorem step_acquire {i : ℕ} (hstep : step code object (.acquire i) = some next) :
    ∃ op, Moves object next i op .waiting (.inside (code.start op)) ∧ object.lock = none ∧
      next.lock = some i ∧ next.order = object.order ++ [(i, op)] ∧
      next.shared = object.shared := by
  simp only [step] at hstep
  split at hstep
  · rename_i op hcall hlock
    rw [Option.some.injEq] at hstep
    subst hstep
    exact ⟨op, ⟨hcall, rfl⟩, hlock, rfl, rfl, rfl⟩
  · contradiction

theorem step_work {i : ℕ} (hstep : step code object (.work i) = some next) :
    ∃ op own later, Moves object next i op (.inside own) (.inside later) ∧
      code.work op (object.shared, own) = some (next.shared, later) ∧
      next.lock = object.lock ∧ next.order = object.order := by
  simp only [step] at hstep
  split at hstep
  · rename_i op own hcall
    obtain ⟨⟨shared, later⟩, hwork, hnext⟩ := Option.map_eq_some_iff.mp hstep
    subst hnext
    exact ⟨op, own, later, ⟨hcall, rfl⟩, hwork, rfl, rfl⟩
  · contradiction

theorem step_release {i : ℕ} (hstep : step code object (.release i) = some next) :
    ∃ op own, Moves object next i op (.inside own) .returned ∧
      code.work op (object.shared, own) = none ∧ next.lock = none ∧
      next.order = object.order ∧ next.shared = object.shared := by
  simp only [step] at hstep
  split at hstep
  · rename_i op own hcall
    split at hstep
    · rename_i hwork
      rw [Option.some.injEq] at hstep
      subst hstep
      exact ⟨op, own, ⟨hcall, rfl⟩, hwork, rfl, rfl, rfl⟩
    · contradiction
  · contradiction

end Steps

/-! ## The invariant -/

def Place.isInside : Place ℓ → Bool
  | .inside _ => true
  | _ => false

def Object.Inside (object : Object σ ω ℓ) (i : ℕ) : Prop :=
  ∃ call, object.calls[i]? = some call ∧ call.place.isInside = true

/-- The call has taken the mutex; it may have returned since. -/
def Object.Taken (object : Object σ ω ℓ) (i : ℕ) (op : ω) : Prop :=
  ∃ place, object.calls[i]? = some ⟨op, place⟩ ∧ place ≠ .waiting

structure Object.Invariant (code : Code σ ω ℓ) (start : σ) (object : Object σ ω ℓ) :
    Prop where
  held : HeldBy object.lock object.Inside
  nodup : (object.order.map Prod.fst).Nodup
  ordered : ∀ i op, (i, op) ∈ object.order ↔ object.Taken i op
  free : object.lock = none → code.Sequential start (object.order.map Prod.snd) object.shared
  working : ∀ i op own, object.calls[i]? = some ⟨op, .inside own⟩ →
    ∃ earlier before, object.order = earlier ++ [(i, op)] ∧
      code.Sequential start (earlier.map Prod.snd) before ∧
      code.Works op (before, code.start op) (object.shared, own)

section Invariant

variable {code : Code σ ω ℓ} {start : σ} {object next : Object σ ω ℓ}

theorem Moves.inside_self {i : ℕ} {op : ω} {before after : Place ℓ}
    (hmoves : Moves object next i op before after) :
    (object.Inside i ↔ before.isInside = true) ∧ (next.Inside i ↔ after.isInside = true) := by
  simp [Object.Inside, hmoves.was, hmoves.self]

theorem Moves.inside_other {i : ℕ} {op : ω} {before after : Place ℓ}
    (hmoves : Moves object next i op before after) (j : ℕ) (hj : j ≠ i) :
    next.Inside j ↔ object.Inside j := by
  rw [Object.Inside, hmoves.other hj, Object.Inside]

theorem Moves.held {i : ℕ} {op : ω} {before after : Place ℓ}
    (hmoves : Moves object next i op before after) (hheld : HeldBy object.lock object.Inside)
    (hturn : Turn object.lock next.lock i before.isInside after.isInside) :
    HeldBy next.lock next.Inside :=
  hheld.turn hturn hmoves.inside_self.1 hmoves.inside_self.2 hmoves.inside_other

theorem Moves.taken_other {i : ℕ} {op : ω} {before after : Place ℓ}
    (hmoves : Moves object next i op before after) {j : ℕ} (hj : j ≠ i) (other : ω) :
    next.Taken j other ↔ object.Taken j other := by
  rw [Object.Taken, hmoves.other hj, Object.Taken]

theorem taken_iff {i : ℕ} {op : ω} {place : Place ℓ}
    (hcall : object.calls[i]? = some ⟨op, place⟩) (other : ω) :
    object.Taken i other ↔ op = other ∧ place ≠ .waiting := by
  constructor
  · rintro ⟨actual, hactual, hplace⟩
    rw [hcall, Option.some.injEq, Call.mk.injEq] at hactual
    exact ⟨hactual.1, hactual.2 ▸ hplace⟩
  · rintro ⟨rfl, hplace⟩
    exact ⟨place, hcall, hplace⟩

theorem Moves.taken_self {i : ℕ} {op : ω} {before after : Place ℓ}
    (hmoves : Moves object next i op before after) (other : ω) :
    (object.Taken i other ↔ op = other ∧ before ≠ .waiting) ∧
      (next.Taken i other ↔ op = other ∧ after ≠ .waiting) :=
  ⟨taken_iff hmoves.was other, taken_iff hmoves.self other⟩

theorem inside_of_getElem? {i : ℕ} {op : ω} {own : ℓ}
    (hcall : object.calls[i]? = some ⟨op, .inside own⟩) : object.Inside i :=
  ⟨_, hcall, rfl⟩

theorem Object.Invariant.initial (code : Code σ ω ℓ) (start : σ) :
    (Object.initial start : Object σ ω ℓ).Invariant code start where
  held := by
    intro i
    simp [Object.initial, Object.Inside]
  nodup := List.nodup_nil
  ordered := by
    intro i op
    simp [Object.initial, Object.Taken]
  free _ := .nil
  working := by
    intro i op own hcall
    simp [Object.initial] at hcall

theorem Object.Invariant.call (hinv : object.Invariant code start) (op : ω) :
    ({ object with calls := object.calls ++ [⟨op, .waiting⟩] } : Object σ ω ℓ).Invariant
      code start := by
  have hsame : ∀ (i : ℕ) (call : Call ω ℓ), call.place ≠ .waiting →
      ((object.calls ++ [⟨op, .waiting⟩])[i]? = some call ↔
        object.calls[i]? = some call) := by
    intro i call hplace
    rw [List.getElem?_append]
    split
    · exact Iff.rfl
    · rename_i hlong
      rw [List.getElem?_eq_none (Nat.le_of_not_lt hlong)]
      constructor
      · intro hnew
        have hcall : call = ⟨op, .waiting⟩ := by
          have hmem := List.mem_of_getElem? hnew
          simpa using hmem
        exact absurd (congrArg Call.place hcall) hplace
      · intro hnone
        contradiction
  constructor
  · apply hinv.held.congr
    intro i
    apply exists_congr
    intro call
    apply and_congr_left
    intro hinside
    apply hsame i call
    intro hwaiting
    rw [hwaiting] at hinside
    contradiction
  · exact hinv.nodup
  · intro i other
    rw [hinv.ordered i other]
    apply exists_congr
    intro place
    apply and_congr_left
    intro hplace
    exact (hsame i ⟨other, place⟩ hplace).symm
  · exact hinv.free
  · intro i other own hcall
    exact hinv.working i other own ((hsame i ⟨other, .inside own⟩ nofun).mp hcall)

theorem Object.Invariant.acquire (hinv : object.Invariant code start) {i : ℕ}
    (hstep : step code object (.acquire i) = some next) : next.Invariant code start := by
  obtain ⟨op, hmoves, hfree, hlock, horder, hshared⟩ := step_acquire hstep
  have hheld : HeldBy next.lock next.Inside :=
    hmoves.held hinv.held (.takes hfree hlock rfl rfl)
  have hfresh : i ∉ object.order.map Prod.fst := by
    intro hmem
    obtain ⟨⟨j, other⟩, hentry, hj⟩ := List.mem_map.mp hmem
    subst hj
    have htaken := (hinv.ordered j other).mp hentry
    rw [(hmoves.taken_self other).1] at htaken
    exact htaken.2 rfl
  refine ⟨hheld, ?_, ?_, ?_, ?_⟩
  · rw [horder, List.map_append, List.nodup_append]
    refine ⟨hinv.nodup, by simp, ?_⟩
    intro j hj k hk heq
    rw [List.map_singleton, List.mem_singleton] at hk
    rw [heq, hk] at hj
    exact hfresh hj
  · intro j other
    rw [horder, List.mem_append, List.mem_singleton, Prod.mk.injEq]
    by_cases hj : j = i
    · subst hj
      rw [(hmoves.taken_self other).2, hinv.ordered, (hmoves.taken_self other).1]
      simp [eq_comm]
    · rw [hmoves.taken_other hj, hinv.ordered]
      simp [hj]
  · intro hnone
    rw [hlock] at hnone
    contradiction
  · intro j other own hcall
    have hj : i = j := hheld.unique ⟨_, hmoves.self, rfl⟩ (inside_of_getElem? hcall)
    subst hj
    rw [hmoves.self, Option.some.injEq, Call.mk.injEq, Place.inside.injEq] at hcall
    obtain ⟨rfl, rfl⟩ := hcall
    refine ⟨object.order, object.shared, horder, hinv.free hfree, ?_⟩
    rw [hshared]
    exact .refl

theorem Object.Invariant.work (hinv : object.Invariant code start) {i : ℕ}
    (hstep : step code object (.work i) = some next) : next.Invariant code start := by
  obtain ⟨op, own, later, hmoves, hwork, hlock, horder⟩ := step_work hstep
  have hheld : HeldBy next.lock next.Inside := hmoves.held hinv.held (.keeps hlock rfl)
  refine ⟨hheld, ?_, ?_, ?_, ?_⟩
  · rw [horder]
    exact hinv.nodup
  · intro j other
    rw [horder, hinv.ordered]
    by_cases hj : j = i
    · subst hj
      rw [(hmoves.taken_self other).1, (hmoves.taken_self other).2]
      simp
    · rw [hmoves.taken_other hj]
  · intro hnone
    have hheldBy := (hinv.held i).mpr (inside_of_getElem? hmoves.was)
    rw [hlock, hheldBy] at hnone
    contradiction
  · intro j other mine hcall
    have hj : i = j := hheld.unique ⟨_, hmoves.self, rfl⟩ (inside_of_getElem? hcall)
    subst hj
    rw [hmoves.self, Option.some.injEq, Call.mk.injEq, Place.inside.injEq] at hcall
    obtain ⟨rfl, rfl⟩ := hcall
    obtain ⟨earlier, before, hentries, hsequential, hworks⟩ := hinv.working i op own hmoves.was
    exact ⟨earlier, before, horder.trans hentries, hsequential, hworks.tail hwork⟩

theorem Object.Invariant.release (hinv : object.Invariant code start) {i : ℕ}
    (hstep : step code object (.release i) = some next) : next.Invariant code start := by
  obtain ⟨op, own, hmoves, hdone, hlock, horder, hshared⟩ := step_release hstep
  have hheld : HeldBy next.lock next.Inside :=
    hmoves.held hinv.held (.releases hlock rfl rfl)
  refine ⟨hheld, ?_, ?_, ?_, ?_⟩
  · rw [horder]
    exact hinv.nodup
  · intro j other
    rw [horder, hinv.ordered]
    by_cases hj : j = i
    · subst hj
      rw [(hmoves.taken_self other).1, (hmoves.taken_self other).2]
      simp
    · rw [hmoves.taken_other hj]
  · intro _
    obtain ⟨earlier, before, hentries, hsequential, hworks⟩ := hinv.working i op own hmoves.was
    rw [horder, hentries, List.map_append, hshared]
    exact hsequential.snoc ⟨own, hworks, hdone⟩
  · intro j other mine hcall
    have hnone := (hheld j).mpr (inside_of_getElem? hcall)
    rw [hlock] at hnone
    contradiction

theorem Object.Invariant.step (hinv : object.Invariant code start) {action : Action ω}
    (hstep : LockedObject.step code object action = some next) :
    next.Invariant code start := by
  cases action with
  | call op =>
      rw [LockedObject.step, Option.some.injEq] at hstep
      exact hstep ▸ hinv.call op
  | acquire i => exact hinv.acquire hstep
  | work i => exact hinv.work hstep
  | release i => exact hinv.release hstep

theorem Object.Invariant.of_run {actions : List (Action ω)}
    (hrun : run (LockedObject.step code) (.initial start) actions = some object) :
    object.Invariant code start :=
  Reachable.invariant (.initial code start)
    (fun _ _ _ hinv hstep => hinv.step hstep) ⟨actions, hrun⟩

end Invariant

/-! ## The order of the calls -/

section Order

variable {code : Code σ ω ℓ} {start : σ} {object final : Object σ ω ℓ}

/-- Between two calls the shared state is that of the calls one after the other. -/
theorem sequential_of_run {actions : List (Action ω)}
    (hrun : run (step code) (.initial start) actions = some object)
    (hfree : object.lock = none) :
    code.Sequential start (object.order.map Prod.snd) object.shared :=
  (Object.Invariant.of_run hrun).free hfree

theorem order_of_step {action : Action ω} (hstep : step code object action = some final) :
    ∃ later, final.order = object.order ++ later := by
  cases action with
  | call op =>
      rw [step, Option.some.injEq] at hstep
      exact ⟨[], by rw [← hstep, List.append_nil]⟩
  | acquire i =>
      obtain ⟨op, _, _, _, horder, _⟩ := step_acquire hstep
      exact ⟨_, horder⟩
  | work i =>
      obtain ⟨_, _, _, _, _, _, horder⟩ := step_work hstep
      exact ⟨[], by rw [horder, List.append_nil]⟩
  | release i =>
      obtain ⟨_, _, _, _, _, horder, _⟩ := step_release hstep
      exact ⟨[], by rw [horder, List.append_nil]⟩

theorem order_of_run {actions : List (Action ω)}
    (hrun : run (step code) object actions = some final) :
    ∃ later, final.order = object.order ++ later := by
  have hkeep : ∀ (state : Object σ ω ℓ) (action : Action ω) (next : Object σ ω ℓ), True →
      (∃ later, state.order = object.order ++ later) → step code state action = some next →
      ∃ later, next.order = object.order ++ later := by
    intro state action next _ hstate hstep
    obtain ⟨later, hlater⟩ := hstate
    obtain ⟨more, hmore⟩ := order_of_step hstep
    exact ⟨later ++ more, by rw [hmore, hlater, List.append_assoc]⟩
  exact run_preserves (C := fun _ => True) hkeep (fun _ _ => trivial)
    ⟨[], (List.append_nil _).symm⟩ hrun

end Order

end Camellia.LockedObject

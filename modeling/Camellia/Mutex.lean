import Mathlib.Tactic

/-!
# Mutexes and places

A mutex is kept right when it is with exactly the party that stands at a place that needs
it.  A party that takes a step leaves the mutex and the kind of its place alone, or takes
the free mutex on coming to such a place, or gives it back on leaving one.
-/

namespace Camellia.Mutex

variable {ι : Type*}

def HeldBy (lock : Option ι) (inside : ι → Prop) : Prop :=
  ∀ party, lock = some party ↔ inside party

/-- What a step of `party` does to the mutex, by whether it needs it before and after. -/
inductive Turn (lock next : Option ι) (party : ι) (before after : Bool) : Prop where
  | keeps (hlock : next = lock) (hplace : after = before)
  | takes (hfree : lock = none) (hlock : next = some party) (hbefore : before = false)
      (hafter : after = true)
  | releases (hlock : next = none) (hbefore : before = true) (hafter : after = false)

theorem HeldBy.unique {lock : Option ι} {inside : ι → Prop} (hheld : HeldBy lock inside)
    {party other : ι} (hparty : inside party) (hother : inside other) : party = other := by
  have hlock := (hheld party).mpr hparty
  rw [(hheld other).mpr hother] at hlock
  exact (Option.some.inj hlock).symm

theorem HeldBy.congr {lock : Option ι} {inside later : ι → Prop}
    (hheld : HeldBy lock inside) (hsame : ∀ party, later party ↔ inside party) :
    HeldBy lock later :=
  fun party => (hheld party).trans (hsame party).symm

/-- The one rule: the party that takes the step makes a proper turn, and nobody else's
place changes. -/
theorem HeldBy.turn {lock next : Option ι} {inside later : ι → Prop} {party : ι}
    {before after : Bool} (hheld : HeldBy lock inside)
    (hturn : Turn lock next party before after)
    (hbefore : inside party ↔ before = true) (hafter : later party ↔ after = true)
    (hothers : ∀ other, other ≠ party → (later other ↔ inside other)) :
    HeldBy next later := by
  intro other
  by_cases hother : other = party
  · subst other
    rw [hafter]
    cases hturn with
    | keeps hlock hplace => rw [hlock, hplace, hheld party, hbefore]
    | takes _ hlock _ hplace => exact iff_of_true hlock hplace
    | releases hlock _ hplace => simp [hlock, hplace]
  · rw [hothers other hother]
    cases hturn with
    | keeps hlock _ => rw [hlock, hheld other]
    | takes hfree hlock _ _ =>
        rw [← hheld other, hlock, hfree]
        exact iff_of_false (fun hsome => hother (Option.some.inj hsome).symm) nofun
    | releases hlock hplace _ =>
        have hmine : inside party := hbefore.mpr hplace
        rw [hlock]
        exact iff_of_false nofun fun hinside => hother (hheld.unique hinside hmine)

end Camellia.Mutex

import Mathlib.Tactic

/-!
# Logs of changes to a set

A change inserts keys into a set or erases them.  An observer who replays a log
of changes ends up with a set in which the last change that names a key decides
on it.  So a change may overtake others unless one of them names a key of it, in
the opposite way, and no change after it names that key again.
-/

namespace Camellia.ChangeLog

structure Change (κ : Type*) where
  inserts : Bool
  keys : List κ
deriving DecidableEq

variable {κ : Type*} [DecidableEq κ]

def Change.apply (view : Finset κ) (change : Change κ) : Finset κ :=
  if change.inserts then view ∪ change.keys.toFinset else view \ change.keys.toFinset

def replay (view : Finset κ) (changes : List (Change κ)) : Finset κ :=
  changes.foldl Change.apply view

/-- What a change says about a key it names. -/
def Change.writes (change : Change κ) (key : κ) : Option Bool :=
  if key ∈ change.keys then some change.inserts else none

/-- What the last change that names `key` says about it. -/
def lastWrite : List (Change κ) → κ → Option Bool
  | [], _ => none
  | change :: rest, key => (lastWrite rest key).or (change.writes key)

theorem lastWrite_append (before after : List (Change κ)) (key : κ) :
    lastWrite (before ++ after) key = (lastWrite after key).or (lastWrite before key) := by
  induction before with
  | nil => simp [lastWrite]
  | cons change rest ih =>
      rw [List.cons_append, lastWrite, ih, lastWrite, Option.or_assoc]

theorem Change.mem_apply (view : Finset κ) (change : Change κ) (key : κ) :
    key ∈ change.apply view ↔ (change.writes key).getD (decide (key ∈ view)) = true := by
  unfold Change.apply Change.writes
  cases change.inserts <;> by_cases hkey : key ∈ change.keys <;> simp [hkey]

theorem mem_replay (view : Finset κ) (changes : List (Change κ)) (key : κ) :
    key ∈ replay view changes ↔
      (lastWrite changes key).getD (decide (key ∈ view)) = true := by
  induction changes generalizing view with
  | nil => simp [replay, lastWrite]
  | cons change rest ih =>
      have htail : key ∈ replay view (change :: rest) ↔
          (lastWrite rest key).getD (decide (key ∈ change.apply view)) = true :=
        ih (change.apply view)
      rw [htail, lastWrite]
      cases lastWrite rest key with
      | some inserts => rfl
      | none =>
          rw [Option.getD_none, decide_eq_true_eq, Change.mem_apply]
          rfl

theorem replay_append (view : Finset κ) (before after : List (Change κ)) :
    replay view (before ++ after) = replay (replay view before) after :=
  List.foldl_append

/-- `change`, made between `before` and `after`, may be replayed ahead of all of them. -/
def MayOvertake (before : List (Change κ)) (change : Change κ) (after : List (Change κ)) :
    Prop :=
  ∀ key ∈ change.keys, lastWrite after key = none →
    lastWrite before key ≠ some !change.inserts

instance (before : List (Change κ)) (change : Change κ) (after : List (Change κ)) :
    Decidable (MayOvertake before change after) := by
  unfold MayOvertake
  infer_instance

/-- Only the keys of `change` matter, and of these only the ones it leaves in another state
than the changes it overtakes. -/
theorem mayOvertake_iff (view : Finset κ) (before : List (Change κ)) (change : Change κ)
    (after : List (Change κ)) :
    MayOvertake before change after ↔
      replay view (change :: (before ++ after)) = replay view (before ++ change :: after) := by
  have hkey : ∀ key, (key ∈ change.keys → lastWrite after key = none →
      lastWrite before key ≠ some !change.inserts) ↔
      (key ∈ replay view (change :: (before ++ after)) ↔
        key ∈ replay view (before ++ change :: after)) := by
    intro key
    rw [mem_replay, mem_replay, lastWrite, lastWrite_append, lastWrite_append, lastWrite]
    by_cases hnamed : key ∈ change.keys
    · have hwrites : change.writes key = some change.inserts := if_pos hnamed
      rw [hwrites]
      cases lastWrite after key with
      | some inserts => simp
      | none =>
          cases hbefore : lastWrite before key with
          | none => simp
          | some inserts => cases inserts <;> cases change.inserts <;> simp [hnamed]
    · have hwrites : change.writes key = none := if_neg hnamed
      simp [hwrites, hnamed]
  rw [Finset.ext_iff]
  exact forall_congr' hkey

end Camellia.ChangeLog

import Mathlib.Tactic

/-!
# Writing to a store of keys

A store gives each key a value or none.  After a list of writes a key has the value
that all writes to it agree on, and a key that is not written keeps its value.
-/

namespace Camellia.KeyedStore

variable {κ β : Type*} [DecidableEq κ]

def write (store : κ → Option β) (entry : κ × β) : κ → Option β :=
  Function.update store entry.1 (some entry.2)

def writeAll (store : κ → Option β) (entries : List (κ × β)) : κ → Option β :=
  entries.foldl write store

@[simp] theorem writeAll_nil (store : κ → Option β) : writeAll store [] = store := rfl

theorem writeAll_append (store : κ → Option β) (before after : List (κ × β)) :
    writeAll store (before ++ after) = writeAll (writeAll store before) after :=
  List.foldl_append

theorem writeAll_of_notMem (store : κ → Option β) {entries : List (κ × β)} {key : κ}
    (hkey : key ∉ entries.map Prod.fst) : writeAll store entries key = store key := by
  induction entries generalizing store with
  | nil => rfl
  | cons entry rest ih =>
      rw [List.map_cons, List.mem_cons, not_or] at hkey
      have hrest : writeAll store (entry :: rest) key = write store entry key :=
        ih (write store entry) hkey.2
      rw [hrest]
      exact Function.update_of_ne hkey.1 _ _

theorem writeAll_of_agree (store : κ → Option β) {entries : List (κ × β)} {key : κ} {value : β}
    (hmem : key ∈ entries.map Prod.fst)
    (hagree : ∀ entry ∈ entries, entry.1 = key → entry.2 = value) :
    writeAll store entries key = some value := by
  induction entries generalizing store with
  | nil => contradiction
  | cons entry rest ih =>
      by_cases hrest : key ∈ rest.map Prod.fst
      · exact ih (write store entry) hrest
          fun other hother => hagree other (List.mem_cons_of_mem entry hother)
      · have hfirst : key = entry.1 := by
          rw [List.map_cons, List.mem_cons] at hmem
          exact hmem.resolve_right hrest
        have hkept : writeAll store (entry :: rest) key = write store entry key :=
          writeAll_of_notMem (write store entry) hrest
        rw [hkept, write, hfirst, Function.update_self]
        exact congrArg some (hagree entry List.mem_cons_self hfirst.symm)

/-- Where no key is written twice, no write shadows another. -/
theorem writeAll_of_mem (store : κ → Option β) {entries : List (κ × β)} {entry : κ × β}
    (hdistinct : (entries.map Prod.fst).Nodup) (hmem : entry ∈ entries) :
    writeAll store entries entry.1 = some entry.2 := by
  refine writeAll_of_agree store (List.mem_map_of_mem hmem) ?_
  intro other hother hsame
  exact congrArg Prod.snd (List.inj_on_of_nodup_map hdistinct hother hmem hsame)

/-- Writing what is there changes nothing. -/
theorem writeAll_eq_self {store : κ → Option β} {entries : List (κ × β)}
    (hthere : ∀ entry ∈ entries, store entry.1 = some entry.2) :
    writeAll store entries = store := by
  induction entries with
  | nil => rfl
  | cons entry rest ih =>
      have hfirst : write store entry = store := by
        rw [write, ← hthere entry List.mem_cons_self, Function.update_eq_self]
      calc writeAll store (entry :: rest) = writeAll (write store entry) rest := rfl
        _ = writeAll store rest := by rw [hfirst]
        _ = store := ih fun other hother => hthere other (List.mem_cons_of_mem entry hother)

end Camellia.KeyedStore

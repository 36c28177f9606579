import Mathlib.Tactic

/-!
# Strings that end with a terminator

A pointer into a buffer is the list of the elements from it to the end of the buffer.
What reads behind the end has no result.
-/

namespace Camellia.CString

variable {α : Type*} [DecidableEq α] (nul : α)

/-- The string at a pointer. -/
def read : List α → Option (List α)
  | [] => none
  | c :: rest => if c = nul then some [] else (read rest).map (c :: ·)

/-- `while (*p++) {}`. -/
def skip : List α → Option (List α)
  | [] => none
  | c :: rest => if c = nul then some rest else skip rest

/-- `!strncmp(p, literal, strlen(literal))`. -/
def startsWith : List α → List α → Option Bool
  | _, [] => some true
  | [], _ :: _ => none
  | c :: rest, expected :: literal =>
      if c = expected then startsWith rest literal else some false

variable {nul}

theorem skip_length {buffer next : List α} (hskip : skip nul buffer = some next) :
    next.length < buffer.length := by
  induction buffer with
  | nil => contradiction
  | cons c rest ih =>
      rw [skip] at hskip
      split at hskip
      next =>
        cases hskip
        exact Nat.lt_succ_self _
      next => exact Nat.lt_succ_of_lt (ih hskip)

section
variable {field : List α} (hfield : nul ∉ field) (rest : List α)

include hfield

theorem read_append : read nul (field ++ nul :: rest) = some field := by
  induction field with
  | nil => simp [read]
  | cons c tail ih =>
      obtain ⟨hc, htail⟩ := List.ne_and_not_mem_of_not_mem_cons hfield
      rw [List.cons_append, read, if_neg (Ne.symm hc), ih htail]
      rfl

theorem skip_append : skip nul (field ++ nul :: rest) = some rest := by
  induction field with
  | nil => simp [skip]
  | cons c tail ih =>
      obtain ⟨hc, htail⟩ := List.ne_and_not_mem_of_not_mem_cons hfield
      rw [List.cons_append, skip, if_neg (Ne.symm hc), ih htail]

end

/-- A comparison with a literal ends at the terminator at the latest. -/
theorem startsWith_append (field rest : List α) {literal : List α} (hliteral : nul ∉ literal) :
    startsWith (field ++ nul :: rest) literal = some (literal.isPrefixOf field) := by
  induction literal generalizing field with
  | nil => simp [startsWith]
  | cons expected literal ih =>
      obtain ⟨hexpected, htail⟩ := List.ne_and_not_mem_of_not_mem_cons hliteral
      cases field with
      | nil => simp [startsWith, hexpected]
      | cons c tail =>
          rw [List.cons_append, startsWith, ih tail htail]
          by_cases hc : c = expected
          · simp [hc]
          · rw [if_neg hc, List.isPrefixOf, beq_false_of_ne (Ne.symm hc), Bool.false_and]

/-- A buffer is one string without a terminator, or a string, its terminator and a rest. -/
theorem split_cases (nul : α) (buffer : List α) :
    nul ∉ buffer ∨ ∃ field rest, nul ∉ field ∧ buffer = field ++ nul :: rest := by
  by_cases hmem : nul ∈ buffer
  · obtain ⟨field, rest, hsplit, hfield⟩ := List.eq_append_cons_of_mem hmem
    exact Or.inr ⟨field, rest, hfield, hsplit⟩
  · exact Or.inl hmem

end Camellia.CString

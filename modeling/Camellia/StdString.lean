import Mathlib.Tactic

/-!
# Searching and cutting strings

The members of `std::string` that take positions.  `find` gives the position of the
first occurrence or `npos`, which is `none` here; adding to `npos` wraps around.
`substr` and `erase` throw `std::out_of_range` for a position behind the end, which is
`none` as well.
-/

namespace Camellia.StdString

def findFrom (needle : List Char) : List Char → Option ℕ
  | [] => if needle = [] then some 0 else none
  | c :: rest =>
      if needle.isPrefixOf (c :: rest) then some 0
      else (findFrom needle rest).map (· + 1)

def find (s needle : String) : Option ℕ := findFrom needle.toList s.toList

/-- `position + n`, for a positive `n`. -/
def advance (position : Option ℕ) (n : ℕ) : ℕ :=
  match position with
  | some index => index + n
  | none => n - 1

/-- `count` may be `npos`. -/
def substr (s : String) (pos : ℕ) (count : Option ℕ) : Option String :=
  if pos ≤ s.toList.length then
    let rest := s.toList.drop pos
    some (.ofList (rest.take (count.getD rest.length)))
  else none

def erase (s : String) (pos count : ℕ) : Option String :=
  if pos ≤ s.toList.length then
    some (.ofList (s.toList.take pos ++ s.toList.drop (pos + count)))
  else none

theorem findFrom_singleton {front : List Char} {delimiter : Char}
    (hfront : delimiter ∉ front) (rest : List Char) :
    findFrom [delimiter] (front ++ delimiter :: rest) = some front.length := by
  induction front with
  | nil => simp [findFrom]
  | cons c tail ih =>
      have hc : delimiter ≠ c := fun heq => hfront (heq ▸ List.mem_cons_self)
      have htail : delimiter ∉ tail := fun hmem => hfront (List.mem_cons_of_mem c hmem)
      rw [List.cons_append, findFrom, ih htail]
      simp [hc]

theorem substr_zero (s : String) (count : Option ℕ) :
    substr s 0 count = some (.ofList (s.toList.take (count.getD s.toList.length))) := by
  simp [substr]

theorem erase_zero (s : String) (count : ℕ) :
    erase s 0 count = some (.ofList (s.toList.drop count)) := by
  simp [erase]

/-- The first delimiter is the one behind a part that has none. -/
theorem find_append {front delimiter : String} {c : Char} (hdelimiter : delimiter.toList = [c])
    (hfront : c ∉ front.toList) (rest : String) :
    find (front ++ (delimiter ++ rest)) delimiter = some front.toList.length := by
  rw [find, String.toList_append, String.toList_append, hdelimiter, List.singleton_append]
  exact findFrom_singleton hfront rest.toList

theorem substr_append (front rest : String) :
    substr (front ++ rest) 0 (some front.toList.length) = some front := by
  simp [substr_zero]

theorem erase_append (front rest : String) :
    erase (front ++ rest) 0 front.toList.length = some rest := by
  simp [erase_zero]

end Camellia.StdString

import Mathlib.Data.List.TakeWhile
import Mathlib.Tactic

/-!
# Reading words from a stream

`stream >> word` skips white space and takes what comes before the next white space; it
fails where only white space is left.  A loop over it goes through the words of the
text, however they are separated.
-/

namespace Camellia.Words

variable {α σ : Type*} (isspace : α → Bool)

def extract (stream : List α) : Option (List α × List α) :=
  match stream.dropWhile isspace with
  | [] => none
  | c :: rest =>
      some (c :: rest.takeWhile (!isspace ·), rest.dropWhile (!isspace ·))

theorem extract_length {stream word rest : List α}
    (hextract : extract isspace stream = some (word, rest)) : rest.length < stream.length := by
  have hskip := (List.dropWhile_sublist (p := isspace) (l := stream)).length_le
  unfold extract at hextract
  split at hextract
  · contradiction
  · rename_i c tail hdrop
    have htail := (List.dropWhile_sublist (p := (!isspace ·)) (l := tail)).length_le
    rw [hdrop, List.length_cons] at hskip
    have hrest : tail.dropWhile (!isspace ·) = rest :=
      (Prod.mk.inj (Option.some.inj hextract)).2
    rw [hrest] at htail
    omega

/-- `while (stream >> word) body`. -/
def forEachWord (body : σ → List α → σ) (state : σ) (stream : List α) : σ :=
  match _hextract : extract isspace stream with
  | none => state
  | some (word, rest) => forEachWord body (body state word) rest
termination_by stream.length
decreasing_by exact extract_length isspace _hextract

/-- The text is these words, with white space between any two of them and possibly
before the first and behind the last. -/
inductive Spells : List (List α) → List α → Prop
  | blank {gap : List α} (hgap : ∀ c ∈ gap, isspace c = true) : Spells [] gap
  | word (gap : List α) {word rest : List α} {words : List (List α)}
      (hgap : ∀ c ∈ gap, isspace c = true) (hne : word ≠ [])
      (hword : ∀ c ∈ word, isspace c = false)
      (hends : ∀ c ∈ rest.head?, isspace c = true)
      (hrest : Spells words rest) : Spells (word :: words) (gap ++ (word ++ rest))

variable {isspace}

theorem extract_blank {gap : List α} (hgap : ∀ c ∈ gap, isspace c = true) :
    extract isspace gap = none := by
  have hdrop : gap.dropWhile isspace = [] := List.dropWhile_eq_nil_iff.mpr hgap
  simp [extract, hdrop]

theorem extract_word {gap word rest : List α} (hgap : ∀ c ∈ gap, isspace c = true)
    (hne : word ≠ []) (hword : ∀ c ∈ word, isspace c = false)
    (hends : ∀ c ∈ rest.head?, isspace c = true) :
    extract isspace (gap ++ (word ++ rest)) = some (word, rest) := by
  obtain ⟨c, tail, rfl⟩ := List.exists_cons_of_ne_nil hne
  have hc : isspace c = false := hword c List.mem_cons_self
  have hskip : (gap ++ (c :: tail ++ rest)).dropWhile isspace = c :: (tail ++ rest) := by
    rw [List.dropWhile_append_of_pos hgap]
    simp [hc]
  have hinside : ∀ d ∈ tail, (!isspace d) = true := by
    intro d hd
    simp [hword d (List.mem_cons_of_mem c hd)]
  have hstop : rest.takeWhile (!isspace ·) = [] ∧ rest.dropWhile (!isspace ·) = rest := by
    cases rest with
    | nil => simp
    | cons d others =>
        have hd : isspace d = true := hends d rfl
        simp [hd]
  rw [extract, hskip]
  simp only
  rw [List.takeWhile_append_of_pos hinside, List.dropWhile_append_of_pos hinside, hstop.1,
    hstop.2, List.append_nil]

theorem Spells.forEachWord {words : List (List α)} {stream : List α}
    (hspells : Spells isspace words stream) (body : σ → List α → σ) (state : σ) :
    forEachWord isspace body state stream = words.foldl body state := by
  induction hspells generalizing state with
  | blank hgap =>
      rw [Words.forEachWord]
      split
      · rfl
      · rename_i word rest hextract
        rw [extract_blank hgap] at hextract
        contradiction
  | word gap hgap hne hword hends _ ih =>
      have hfirst := extract_word hgap hne hword hends
      rw [Words.forEachWord]
      split
      · rename_i hextract
        rw [hfirst] at hextract
        contradiction
      · rename_i word rest hextract
        rw [hfirst] at hextract
        obtain ⟨rfl, rfl⟩ := Prod.mk.inj (Option.some.inj hextract)
        exact ih _

/-- Every text spells some list of words. -/
theorem exists_spells (stream : List α) : ∃ words, Spells isspace words stream := by
  induction hlength : stream.length using Nat.strong_induction_on generalizing stream with
  | _ length ih =>
      have hgap : ∀ c ∈ stream.takeWhile isspace, isspace c = true :=
        fun c hc => List.mem_takeWhile_imp hc
      cases hdrop : stream.dropWhile isspace with
      | nil => exact ⟨[], .blank (List.dropWhile_eq_nil_iff.mp hdrop)⟩
      | cons c tail =>
          have hc : isspace c = false := by
            have hhead := List.head?_dropWhile_not isspace stream
            rw [hdrop] at hhead
            simpa using hhead
          have hextract : extract isspace stream =
              some (c :: tail.takeWhile (!isspace ·), tail.dropWhile (!isspace ·)) := by
            rw [extract, hdrop]
          have hshort := extract_length isspace hextract
          obtain ⟨words, hwords⟩ := ih _ (hlength ▸ hshort) _ rfl
          have hends : ∀ d ∈ (tail.dropWhile (!isspace ·)).head?, isspace d = true := by
            have hhead := List.head?_dropWhile_not (!isspace ·) tail
            intro d hd
            rw [Option.mem_def.mp hd] at hhead
            simpa using hhead
          have hword : ∀ d ∈ c :: tail.takeWhile (!isspace ·), isspace d = false := by
            intro d hd
            rcases List.mem_cons.mp hd with rfl | hin
            · exact hc
            · simpa using List.mem_takeWhile_imp hin
          have hstream : stream = stream.takeWhile isspace ++
              ((c :: tail.takeWhile (!isspace ·)) ++ tail.dropWhile (!isspace ·)) := by
            rw [List.cons_append, List.takeWhile_append_dropWhile, ← hdrop,
              List.takeWhile_append_dropWhile]
          rw [hstream]
          exact ⟨_, .word _ hgap (by simp) hword hends hwords⟩

end Camellia.Words

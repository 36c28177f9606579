import Mathlib.Tactic

/-!
# Logs whose items are settled in order

A log records items in the order they arrive, each with a label.  One label
marks the items that are still pending; the oldest pending items are settled
first, by giving them another label.  The facts below say what arrivals and
settlements do to the sublist carrying each label.  The one that needs an
invariant is about the label being given: its sublist grows at the end, provided
no item with that label stands behind a pending one.
-/

namespace Camellia.SettlementLog

variable {α β : Type*} [DecidableEq β]

def items (log : List (α × β)) : List α := log.map Prod.fst

def labelled (label : β) (log : List (α × β)) : List α :=
  (log.filter fun entry => entry.2 = label).map Prod.fst

def entries (label : β) (fresh : List α) : List (α × β) :=
  fresh.map fun item => (item, label)

/-- Give the oldest `count` pending items the label `label`. -/
def settle (pending label : β) : ℕ → List (α × β) → List (α × β)
  | 0, log => log
  | _ + 1, [] => []
  | count + 1, (item, current) :: rest =>
      if current = pending then
        (item, label) :: settle pending label count rest
      else (item, current) :: settle pending label (count + 1) rest

/-- No item with a label in `settled` stands behind a pending item. -/
def Frontier (pending : β) (settled : Set β) (log : List (α × β)) : Prop :=
  log.Pairwise fun earlier later => earlier.2 = pending → later.2 ∉ settled

omit [DecidableEq β] in
@[simp] theorem items_append (before after : List (α × β)) :
    items (before ++ after) = items before ++ items after := by
  simp [items]

omit [DecidableEq β] in
@[simp] theorem items_entries (label : β) (fresh : List α) :
    items (entries label fresh) = fresh := by
  simp [items, entries, Function.comp_def]

@[simp] theorem labelled_nil (label : β) :
    labelled label ([] : List (α × β)) = [] := rfl

@[simp] theorem labelled_append (label : β) (before after : List (α × β)) :
    labelled label (before ++ after) = labelled label before ++ labelled label after := by
  simp [labelled]

theorem labelled_cons (label : β) (item : α) (current : β) (rest : List (α × β)) :
    labelled label ((item, current) :: rest) =
      if current = label then item :: labelled label rest else labelled label rest := by
  by_cases hcurrent : current = label <;> simp [labelled, hcurrent]

theorem labelled_entries (label other : β) (fresh : List α) :
    labelled label (entries other fresh) = if other = label then fresh else [] := by
  by_cases hother : other = label <;>
    simp [labelled, entries, List.filter_map, Function.comp_def, hother]

theorem labelled_sublist_items (label : β) (log : List (α × β)) :
    (labelled label log).Sublist (items log) :=
  List.filter_sublist.map Prod.fst

theorem items_settle (pending label : β) (count : ℕ) (log : List (α × β)) :
    items (settle pending label count log) = items log := by
  fun_induction settle pending label count log with
  | case1 log => rfl
  | case2 count => rfl
  | case3 count item rest ih => exact congrArg (item :: ·) ih
  | case4 count item current rest hcurrent ih => exact congrArg (item :: ·) ih

theorem labelled_settle_pending {pending label : β} (hne : label ≠ pending)
    (count : ℕ) (log : List (α × β)) :
    labelled pending (settle pending label count log) =
      (labelled pending log).drop count := by
  fun_induction settle pending label count log with
  | case1 log => rfl
  | case2 count => rfl
  | case3 count item rest ih => simp [labelled_cons, hne, ih]
  | case4 count item current rest hcurrent ih => simp [labelled_cons, hcurrent, ih]

theorem labelled_settle_other {pending label other : β}
    (hpending : other ≠ pending) (hlabel : other ≠ label)
    (count : ℕ) (log : List (α × β)) :
    labelled other (settle pending label count log) = labelled other log := by
  fun_induction settle pending label count log with
  | case1 log => rfl
  | case2 count => rfl
  | case3 count item rest ih => simp [labelled_cons, hpending.symm, hlabel.symm, ih]
  | case4 count item current rest hcurrent ih => simp [labelled_cons, ih]

omit [DecidableEq β] in
theorem Frontier.tail {pending : β} {settled : Set β} {entry : α × β}
    {rest : List (α × β)} (hfrontier : Frontier pending settled (entry :: rest)) :
    Frontier pending settled rest :=
  (List.pairwise_cons.mp hfrontier).2

theorem labelled_eq_nil_of_frontier {pending label : β} {settled : Set β}
    {item : α} {rest : List (α × β)} (hlabel : label ∈ settled)
    (hfrontier : Frontier pending settled ((item, pending) :: rest)) :
    labelled label rest = [] := by
  have hbehind := (List.pairwise_cons.mp hfrontier).1
  unfold labelled
  rw [List.map_eq_nil_iff, List.filter_eq_nil_iff]
  intro later hmem hlater
  have hnot : later.2 ∉ settled := hbehind later hmem rfl
  have heq : later.2 = label := by simpa using hlater
  exact hnot (heq ▸ hlabel)

theorem labelled_settle_label {pending label : β} {settled : Set β}
    (hne : label ≠ pending) (hlabel : label ∈ settled)
    (count : ℕ) {log : List (α × β)} (hfrontier : Frontier pending settled log) :
    labelled label (settle pending label count log) =
      labelled label log ++ (labelled pending log).take count := by
  fun_induction settle pending label count log with
  | case1 log => simp
  | case2 count => rfl
  | case3 count item rest ih =>
      have hnone := labelled_eq_nil_of_frontier hlabel hfrontier
      have hrest := ih hfrontier.tail
      rw [hnone, List.nil_append] at hrest
      simp [labelled_cons, hne.symm, hnone, hrest]
  | case4 count item current rest hcurrent ih =>
      have hrest := ih hfrontier.tail
      by_cases hsame : current = label
      · simp [labelled_cons, hsame, hne, hrest]
      · simp [labelled_cons, hcurrent, hsame, hrest]

theorem Frontier.settle {pending label : β} {settled : Set β} (hne : label ≠ pending)
    {log : List (α × β)} (hfrontier : Frontier pending settled log) (count : ℕ) :
    Frontier pending settled (settle pending label count log) := by
  fun_induction SettlementLog.settle pending label count log with
  | case1 log => exact hfrontier
  | case2 count => exact hfrontier
  | case3 count item rest ih =>
      refine List.pairwise_cons.mpr ⟨?_, ih hfrontier.tail⟩
      intro later _ habsurd
      exact absurd habsurd hne
  | case4 count item current rest hcurrent ih =>
      refine List.pairwise_cons.mpr ⟨?_, ih hfrontier.tail⟩
      intro later _ habsurd
      exact absurd habsurd hcurrent

omit [DecidableEq β] in
theorem Frontier.append {pending : β} {settled : Set β} {log fresh : List (α × β)}
    (hlog : Frontier pending settled log) (hfresh : Frontier pending settled fresh)
    (hcross : (∀ entry ∈ log, entry.2 ≠ pending) ∨ ∀ entry ∈ fresh, entry.2 ∉ settled) :
    Frontier pending settled (log ++ fresh) := by
  refine List.pairwise_append.mpr ⟨hlog, hfresh, ?_⟩
  intro earlier hearlier later hlater hpending
  rcases hcross with hnone | hnew
  · exact absurd hpending (hnone earlier hearlier)
  · exact hnew later hlater

omit [DecidableEq β] in
theorem frontier_entries_of_notMem {pending label : β} {settled : Set β}
    (hlabel : label ∉ settled) (fresh : List α) :
    Frontier pending settled (entries label fresh) := by
  refine List.pairwise_of_forall_mem_list ?_
  intro earlier _ later hlater _
  obtain ⟨item, _, rfl⟩ := List.mem_map.mp hlater
  exact hlabel

omit [DecidableEq β] in
theorem frontier_entries_of_ne {pending label : β} {settled : Set β}
    (hne : label ≠ pending) (fresh : List α) :
    Frontier pending settled (entries label fresh) := by
  refine List.pairwise_of_forall_mem_list ?_
  intro earlier hearlier later _ hpending
  obtain ⟨item, _, rfl⟩ := List.mem_map.mp hearlier
  exact absurd hpending hne

theorem ne_pending_of_labelled_eq_nil {pending : β} {log : List (α × β)}
    (hnone : labelled pending log = []) : ∀ entry ∈ log, entry.2 ≠ pending := by
  unfold labelled at hnone
  rw [List.map_eq_nil_iff, List.filter_eq_nil_iff] at hnone
  intro entry hmem
  simpa using hnone entry hmem

end Camellia.SettlementLog

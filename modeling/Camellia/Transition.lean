import Mathlib.Tactic

/-!
# Runs of guarded transition functions

A system is given by a step function that answers `none` when an action is not
enabled.  This file fixes what a run is, what it means for every state or every
step of a run to satisfy a predicate, and the induction rules by which later
modules pass from one step to whole runs.  The last rule is exact: when a step
keeps a property precisely under a condition, a run keeps it precisely when all
its steps meet that condition.
-/

namespace Camellia.Transition

variable {σ α : Type*}

def run (step : σ → α → Option σ) : σ → List α → Option σ
  | state, [] => some state
  | state, action :: rest => (step state action).bind fun next => run step next rest

def EveryState (step : σ → α → Option σ) (P : σ → Prop) : σ → List α → Prop
  | state, [] => P state
  | state, action :: rest =>
      P state ∧ ∀ next, step state action = some next → EveryState step P next rest

def EveryStep (step : σ → α → Option σ) (C : σ → α → Prop) : σ → List α → Prop
  | _, [] => True
  | state, action :: rest =>
      ∀ next, step state action = some next →
        C state action ∧ EveryStep step C next rest

def Reachable (step : σ → α → Option σ) (start state : σ) : Prop :=
  ∃ actions, run step start actions = some state

instance EveryStep.decidable (step : σ → α → Option σ) (C : σ → α → Prop)
    [∀ state action, Decidable (C state action)] :
    (state : σ) → (actions : List α) → Decidable (EveryStep step C state actions)
  | _, [] => .isTrue trivial
  | state, action :: rest =>
      match hstep : step state action with
      | none => .isTrue fun _ hnext => by simp [hstep] at hnext
      | some next =>
          have := EveryStep.decidable step C next rest
          if hmeets : C state action ∧ EveryStep step C next rest then
            .isTrue fun _ hnext => Option.some.inj (hstep.symm.trans hnext) ▸ hmeets
          else .isFalse fun hevery => hmeets (hevery next hstep)

@[simp] theorem run_nil (step : σ → α → Option σ) (state : σ) :
    run step state [] = some state := rfl

theorem run_cons_eq_some {step : σ → α → Option σ}
    {state final : σ} {action : α} {rest : List α} :
    run step state (action :: rest) = some final ↔
      ∃ next, step state action = some next ∧ run step next rest = some final := by
  simp [run, Option.bind_eq_some_iff]

theorem run_append_eq_some {step : σ → α → Option σ}
    {state final : σ} {before after : List α} :
    run step state (before ++ after) = some final ↔
      ∃ middle, run step state before = some middle ∧
        run step middle after = some final := by
  induction before generalizing state with
  | nil => simp
  | cons action rest ih =>
      rw [List.cons_append, run_cons_eq_some]
      constructor
      · rintro ⟨next, hstep, hrun⟩
        obtain ⟨middle, hbefore, hafter⟩ := ih.mp hrun
        exact ⟨middle, run_cons_eq_some.mpr ⟨next, hstep, hbefore⟩, hafter⟩
      · rintro ⟨middle, hbefore, hafter⟩
        obtain ⟨next, hstep, hrest⟩ := run_cons_eq_some.mp hbefore
        exact ⟨next, hstep, ih.mpr ⟨middle, hrest, hafter⟩⟩

/-- A step that is its guard and the state after it. -/
theorem guarded_eq_some {τ : Type} {p : Prop} [Decidable p] {state next : τ} :
    (do guard p; return state : Option τ) = some next ↔ p ∧ state = next := by
  by_cases h : p
  · simp [h, guard]
  · simp [h, guard]

theorem Reachable.refl (step : σ → α → Option σ) (state : σ) :
    Reachable step state state := ⟨[], rfl⟩

theorem Reachable.head {step : σ → α → Option σ} {start next state : σ} {action : α}
    (hstep : step start action = some next) (hreach : Reachable step next state) :
    Reachable step start state := by
  obtain ⟨actions, hrun⟩ := hreach
  exact ⟨action :: actions, run_cons_eq_some.mpr ⟨next, hstep, hrun⟩⟩

/-- What every step allowed by `C` preserves, a run of such steps preserves. -/
theorem run_preserves {step : σ → α → Option σ} {P : σ → Prop} {C : α → Prop}
    (hpreserve : ∀ state action next, C action → P state →
      step state action = some next → P next)
    {start final : σ} {actions : List α} (hallowed : ∀ action ∈ actions, C action)
    (hstart : P start) (hrun : run step start actions = some final) : P final := by
  induction actions generalizing start with
  | nil =>
      rw [run_nil, Option.some.injEq] at hrun
      exact hrun ▸ hstart
  | cons action rest ih =>
      obtain ⟨next, hstep, hrest⟩ := run_cons_eq_some.mp hrun
      have hnext : P next :=
        hpreserve start action next (hallowed action (by simp)) hstart hstep
      exact ih (fun other hmem => hallowed other (by simp [hmem])) hnext hrest

theorem Reachable.invariant {step : σ → α → Option σ} {P : σ → Prop} {start state : σ}
    (hstart : P start)
    (hpreserve : ∀ state action next, P state → step state action = some next → P next)
    (hreach : Reachable step start state) : P state := by
  obtain ⟨actions, hrun⟩ := hreach
  exact run_preserves (C := fun _ => True)
    (fun state action next _ => hpreserve state action next)
    (fun _ _ => trivial) hstart hrun

/-- The run rule for what relates a state to the actions that have led to it. -/
theorem run_history {step : σ → α → Option σ} {J : List α → σ → Prop}
    (hkeep : ∀ done state action next, J done state → step state action = some next →
      J (done ++ [action]) next)
    {start final : σ} {actions : List α} (hstart : J [] start)
    (hrun : run step start actions = some final) : J actions final := by
  have hfrom : ∀ (rest done : List α) (state : σ), J done state →
      run step state rest = some final → J (done ++ rest) final := by
    intro rest
    induction rest with
    | nil =>
        intro done state hstate hrest
        rw [run_nil, Option.some.injEq] at hrest
        rw [List.append_nil]
        exact hrest ▸ hstate
    | cons action rest ih =>
        intro done state hstate hrest
        obtain ⟨next, hstep, hnext⟩ := run_cons_eq_some.mp hrest
        have hmore := ih (done ++ [action]) next (hkeep done state action next hstate hstep)
          hnext
        rwa [List.append_assoc, List.singleton_append] at hmore
  exact hfrom actions [] start hstart hrun

theorem EveryState.start {step : σ → α → Option σ} {P : σ → Prop} {start : σ}
    {actions : List α} (hevery : EveryState step P start actions) : P start := by
  cases actions with
  | nil => exact hevery
  | cons action rest => exact hevery.1

theorem EveryState.final {step : σ → α → Option σ} {P : σ → Prop} {start final : σ}
    {actions : List α} (hevery : EveryState step P start actions)
    (hrun : run step start actions = some final) : P final := by
  induction actions generalizing start with
  | nil =>
      rw [run_nil, Option.some.injEq] at hrun
      exact hrun ▸ hevery
  | cons action rest ih =>
      obtain ⟨next, hstep, hrest⟩ := run_cons_eq_some.mp hrun
      exact ih (hevery.2 next hstep) hrest

theorem EveryState.imp {step : σ → α → Option σ} {P Q : σ → Prop} {start : σ}
    {actions : List α} (hevery : EveryState step P start actions)
    (himp : ∀ state, P state → Q state) : EveryState step Q start actions := by
  induction actions generalizing start with
  | nil => exact himp start hevery
  | cons action rest ih =>
      exact ⟨himp start hevery.1, fun next hstep => ih (hevery.2 next hstep)⟩

theorem EveryStep.after_run {step : σ → α → Option σ} {C : σ → α → Prop}
    {start state next : σ} {before rest : List α} {action : α}
    (hevery : EveryStep step C start (before ++ action :: rest))
    (hrun : run step start before = some state) (hstep : step state action = some next) :
    C state action := by
  induction before generalizing start with
  | nil =>
      rw [run_nil, Option.some.injEq] at hrun
      subst start
      exact (hevery next hstep).1
  | cons other tail ih =>
      obtain ⟨middle, hfirst, hrest⟩ := run_cons_eq_some.mp hrun
      exact ih (hevery middle hfirst).2 hrest

/-- Two conditions that agree on the steps from reachable states agree on runs. -/
theorem everyStep_congr {step : σ → α → Option σ} {C D : σ → α → Prop} {start : σ}
    (hagree : ∀ state action, Reachable step start state →
      (C state action ↔ D state action))
    (actions : List α) :
    EveryStep step C start actions ↔ EveryStep step D start actions := by
  induction actions generalizing start with
  | nil => exact Iff.rfl
  | cons action rest ih =>
      refine forall_congr' fun next => forall_congr' fun hstep => ?_
      have hrest : ∀ state other, Reachable step next state →
          (C state other ↔ D state other) :=
        fun state other hreach => hagree state other (hreach.head hstep)
      exact and_congr (hagree start action (Reachable.refl step start)) (ih hrest)

/-- What a step that meets `C` preserves holds all along a run of such steps. -/
theorem EveryStep.everyState {step : σ → α → Option σ} {P : σ → Prop} {C : σ → α → Prop}
    (hkeep : ∀ state action next, P state → C state action →
      step state action = some next → P next)
    {start : σ} {actions : List α} (hstart : P start)
    (hmeets : EveryStep step C start actions) : EveryState step P start actions := by
  induction actions generalizing start with
  | nil => exact hstart
  | cons action rest ih =>
      refine ⟨hstart, fun next hstep => ?_⟩
      obtain ⟨hone, hrest⟩ := hmeets next hstep
      exact ih (hkeep start action next hstart hone hstep) hrest

/-- A property of the steps of a run, from what holds of each state and of the actions
still to come. -/
theorem EveryStep.of_remaining {step : σ → α → Option σ} {J : σ → List α → Prop}
    {C : σ → α → Prop}
    (hkeep : ∀ state action rest next, J state (action :: rest) →
      step state action = some next → C state action ∧ J next rest)
    {start : σ} {actions : List α} (hstart : J start actions) :
    EveryStep step C start actions := by
  induction actions generalizing start with
  | nil => trivial
  | cons action rest ih =>
      intro next hstep
      obtain ⟨hone, hnext⟩ := hkeep start action rest next hstart hstep
      exact ⟨hone, ih hnext⟩

/-- What every step preserves holds all along every run. -/
theorem EveryState.of_invariant {step : σ → α → Option σ} {P : σ → Prop}
    (hkeep : ∀ state action next, P state → step state action = some next → P next)
    {start : σ} (hstart : P start) (actions : List α) :
    EveryState step P start actions := by
  induction actions generalizing start with
  | nil => exact hstart
  | cons action rest ih =>
      exact ⟨hstart, fun next hstep => ih (hkeep start action next hstart hstep)⟩

/-- The exact rule in its most general form.  `J` may speak about the actions still to
come, is kept by the steps that meet `C`, and a step that does not meet `C` is seen to
break `P` at once. -/
theorem everyState_iff_everyStep_of_remaining {step : σ → α → Option σ}
    {J : σ → List α → Prop} {P : σ → Prop} {C : σ → α → Prop}
    (himp : ∀ state rest, J state rest → P state)
    (hkeep : ∀ state action rest next, J state (action :: rest) →
      step state action = some next → C state action → J next rest)
    (hneed : ∀ state action rest next, J state (action :: rest) →
      step state action = some next → P next → C state action)
    {start : σ} {actions : List α} (hstart : J start actions) :
    EveryState step P start actions ↔ EveryStep step C start actions := by
  induction actions generalizing start with
  | nil => simp [EveryState, EveryStep, himp start [] hstart]
  | cons action rest ih =>
      simp only [EveryState, EveryStep, himp start _ hstart, true_and]
      refine forall_congr' fun next => forall_congr' fun hstep => ?_
      constructor
      · intro hevery
        have hone := hneed start action rest next hstart hstep hevery.start
        exact ⟨hone, (ih (hkeep start action rest next hstart hstep hone)).mp hevery⟩
      · rintro ⟨hone, hrest⟩
        exact (ih (hkeep start action rest next hstart hstep hone)).mpr hrest

/-- If a step keeps `P` exactly when it meets `C`, then `P` holds all along a run
exactly when all steps of the run meet `C`.  `J` is what holds of the states anyway. -/
theorem everyState_iff_everyStep_of_invariant {step : σ → α → Option σ}
    {J P : σ → Prop} {C : σ → α → Prop}
    (hinvariant : ∀ state action next, J state → step state action = some next → J next)
    (hexact : ∀ state action next, J state → P state → step state action = some next →
      (P next ↔ C state action))
    {start : σ} (hbase : J start) (hstart : P start) (actions : List α) :
    EveryState step P start actions ↔ EveryStep step C start actions := by
  refine everyState_iff_everyStep_of_remaining (J := fun state _ => J state ∧ P state)
    (fun state _ hboth => hboth.2) ?_ ?_ ⟨hbase, hstart⟩
  · rintro state action rest next ⟨hbase, hkept⟩ hstep hmeets
    exact ⟨hinvariant state action next hbase hstep,
      (hexact state action next hbase hkept hstep).mpr hmeets⟩
  · rintro state action rest next ⟨hbase, hkept⟩ hstep hnext
    exact (hexact state action next hbase hkept hstep).mp hnext

theorem everyState_iff_everyStep {step : σ → α → Option σ}
    {P : σ → Prop} {C : σ → α → Prop}
    (hexact : ∀ state action next, P state → step state action = some next →
      (P next ↔ C state action))
    {start : σ} (hstart : P start) (actions : List α) :
    EveryState step P start actions ↔ EveryStep step C start actions :=
  everyState_iff_everyStep_of_invariant (J := fun _ => True) (fun _ _ _ _ _ => trivial)
    (fun state action next _ => hexact state action next) trivial hstart actions

end Camellia.Transition

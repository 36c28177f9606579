import Camellia.Sensors.SystemSteps

/-!
# Operation modes of the proxy and its sub-HALs

`setOperationMode` undoes its calls when a sub-HAL fails, so it keeps all modes
equal.  `initializeCommon` also stops at the first failure, but records the
normal mode whatever the sub-HALs it did not reach are in.
-/

namespace Camellia.Sensors

/-! ## The loop over the sub-HALs -/

/-- The loop passes over some sub-HALs that succeed; either these are all, or the next
one fails and its result is returned. -/
theorem callSubHals_spec (mode : OperationMode) (outcome : ℕ → Result) (index : ℕ)
    (modes : List OperationMode) :
    ∃ count ≤ modes.length,
      (callSubHals mode outcome index modes).1 =
          List.replicate count mode ++ modes.drop count ∧
        (callSubHals mode outcome index modes).2.1 = index + count ∧
        (∀ passed < count, outcome (index + passed) = .ok) ∧
        ((callSubHals mode outcome index modes).2.2 = .ok ∧ count = modes.length ∨
          (callSubHals mode outcome index modes).2.2 ≠ .ok ∧ count < modes.length ∧
            outcome (index + count) ≠ .ok) := by
  induction modes generalizing index with
  | nil => exact ⟨0, le_rfl, rfl, rfl, by simp, Or.inl ⟨rfl, rfl⟩⟩
  | cons current rest ih =>
      unfold callSubHals
      by_cases hfails : outcome index ≠ .ok
      · rw [if_pos hfails]
        exact ⟨0, Nat.zero_le _, rfl, rfl, by simp, Or.inr ⟨hfails, by simp, hfails⟩⟩
      · rw [if_neg hfails]
        obtain ⟨count, hle, hmodes, hstopped, hpassed, hresult⟩ := ih (index + 1)
        have hshift : ∀ offset, index + 1 + offset = index + (offset + 1) := by
          intro offset
          omega
        simp only [hshift] at hstopped hpassed hresult
        refine ⟨count + 1, Nat.succ_le_succ hle, ?_, ?_, ?_, ?_⟩
        · simp only [hmodes, List.replicate_succ, List.cons_append, List.drop_succ_cons]
        · exact hstopped
        · intro passed hlt
          cases passed with
          | zero => exact not_not.mp hfails
          | succ passed => exact hpassed passed (Nat.lt_of_succ_lt_succ hlt)
        · simpa using hresult

def ModesCoherent (mCurrentOperationMode : OperationMode)
    (subHalModes : List OperationMode) : Prop :=
  ∀ mode ∈ subHalModes, mode = mCurrentOperationMode

theorem setOperationMode_coherent {mCurrentOperationMode : OperationMode}
    {subHalModes : List OperationMode}
    (hcoherent : ModesCoherent mCurrentOperationMode subHalModes)
    (mode : OperationMode) (outcome : ℕ → Result) :
    ModesCoherent
      (setOperationMode mCurrentOperationMode subHalModes mode outcome).mCurrentOperationMode
      (setOperationMode mCurrentOperationMode subHalModes mode outcome).subHalModes := by
  obtain ⟨count, hle, hmodes, hstopped, _, hresult⟩ :=
    callSubHals_spec mode outcome 0 subHalModes
  unfold setOperationMode
  generalize callSubHals mode outcome 0 subHalModes = called at *
  obtain ⟨modes, subHalIndex, result⟩ := called
  simp only at hmodes hstopped hresult ⊢
  rcases hresult with ⟨hok, hall⟩ | ⟨hfailed, _, _⟩
  · rw [if_neg (not_not.mpr hok)]
    intro member hmem
    rw [hmodes, hall, List.drop_length, List.append_nil] at hmem
    exact List.eq_of_mem_replicate hmem
  · rw [if_pos hfailed]
    intro member hmem
    obtain ⟨position, hposition, rfl⟩ := List.mem_mapIdx.mp hmem
    by_cases hflipped : position < subHalIndex
    · rw [if_pos hflipped]
    · rw [if_neg hflipped]
      have hcount : count ≤ position := by omega
      apply hcoherent
      simp only [hmodes]
      rw [List.getElem_append_right (by simpa using hcount)]
      exact List.mem_of_mem_drop (List.getElem_mem _)

theorem initializeSubHals_coherent_iff {mCurrentOperationMode : OperationMode}
    {subHalModes : List OperationMode}
    (hcoherent : ModesCoherent mCurrentOperationMode subHalModes)
    (outcome : ℕ → Result) (result : Result) :
    ModesCoherent (initializeSubHals subHalModes outcome result).mCurrentOperationMode
        (initializeSubHals subHalModes outcome result).subHalModes ↔
      (∀ index < subHalModes.length, outcome index = .ok) ∨
        mCurrentOperationMode = .normal := by
  obtain ⟨count, hle, hmodes, _, hpassed, hresult⟩ :=
    callSubHals_spec .normal outcome 0 subHalModes
  simp only [Nat.zero_add] at hpassed hresult
  change ModesCoherent .normal (callSubHals .normal outcome 0 subHalModes).1 ↔ _
  rw [hmodes]
  rcases hresult with ⟨_, hall⟩ | ⟨_, hlt, hfails⟩
  · subst count
    refine iff_of_true ?_ (Or.inl hpassed)
    intro member hmem
    rw [List.drop_length, List.append_nil] at hmem
    exact List.eq_of_mem_replicate hmem
  · have hnext : subHalModes[count] = mCurrentOperationMode :=
      hcoherent _ (List.getElem_mem hlt)
    constructor
    · intro hnormal
      right
      rw [← hnext]
      refine hnormal _ (List.mem_append_right _ ?_)
      rw [List.drop_eq_getElem_cons hlt]
      exact List.mem_cons_self
    · rintro (hsucceed | hcurrent)
      · exact absurd (hsucceed count hlt) hfails
      · intro member hmem
        rcases List.mem_append.mp hmem with hflipped | hrest
        · exact List.eq_of_mem_replicate hflipped
        · exact (hcoherent member (List.mem_of_mem_drop hrest)).trans hcurrent

theorem injectSensorData_accepted {subHals : SubHalList}
    {mCurrentOperationMode : OperationMode} {subHalModes : List OperationMode}
    (hcoherent : ModesCoherent mCurrentOperationMode subHalModes) {event : Event}
    {routed : RoutedRequest}
    (haccepted : injectSensorData subHals mCurrentOperationMode event = .ok routed)
    (hevent : event.sensorType ≠ SensorType.additionalInfo) :
    ∀ mode ∈ subHalModes, mode = .dataInjection := by
  have hcurrent : mCurrentOperationMode ≠ .normal := by
    intro hnormal
    simp [injectSensorData, hnormal, hevent] at haccepted
  intro mode hmem
  rw [hcoherent mode hmem]
  cases mCurrentOperationMode with
  | normal => exact absurd rfl hcurrent
  | dataInjection => rfl

/-! ## Whole runs -/

namespace System

open Transition

def InitializeReachesAll (system : System) : Action → Prop
  | .initializeSubHals outcome =>
      (∀ index < system.subHalModes.length, outcome index = .ok) ∨
        system.proxy.mCurrentOperationMode = .normal
  | _ => True

theorem modes_step {header : HalProxyHeader} {system next : System} {action : Action}
    (hcoherent : ModesCoherent system.proxy.mCurrentOperationMode system.subHalModes)
    (hstep : step header system action = some next) :
    ModesCoherent next.proxy.mCurrentOperationMode next.subHalModes ↔
      InitializeReachesAll system action := by
  have hmodes := (step_effects hstep).modes
  have hcurrent := congrArg Prod.fst hmodes
  have hsubHals := congrArg Prod.snd hmodes
  simp only at hcurrent hsubHals
  rw [hcurrent, hsubHals]
  cases action with
  | setOperationMode mode outcome =>
      exact iff_of_true (setOperationMode_coherent hcoherent mode outcome) trivial
  | initializeSubHals outcome => exact initializeSubHals_coherent_iff hcoherent outcome .ok
  | _ => exact iff_of_true hcoherent trivial

/-- In every run the proxy's mode is that of every sub-HAL, in all states passed
through, if and only if every initialization that starts outside the normal mode
succeeds for all sub-HALs. -/
theorem modes_coherent_iff (header : HalProxyHeader) (subHals : SubHalList)
    (actions : List Action) :
    EveryState (step header)
        (fun system =>
          ModesCoherent system.proxy.mCurrentOperationMode system.subHalModes)
        (construct subHals) actions ↔
      EveryStep (step header) InitializeReachesAll (construct subHals) actions := by
  apply everyState_iff_everyStep
  · intro system action next hcoherent hstep
    exact modes_step hcoherent hstep
  · intro mode hmem
    exact List.eq_of_mem_replicate hmem

/-- The proxy is initialized again in data injection mode and its sub-HAL fails. -/
def failedInitialization : List Action :=
  startUp 4 ++
    [.setOperationMode .dataInjection fun _ => .ok, .stopThreads, .exitPendingWrites,
      .exitWakelocks 1,
      .initializeCommon
        { quantumCount := 4, eventFlagCreated := true, wakelockFlagCreated := true } 2,
      .initializeSubHals fun _ => .badValue]

theorem failed_initialization_splits_modes :
    ¬EveryState (step sampleHeader)
      (fun system =>
        ModesCoherent system.proxy.mCurrentOperationMode system.subHalModes)
      (construct sampleSubHals) failedInitialization := by
  intro hevery
  have hrun : run (step sampleHeader) (construct sampleSubHals) failedInitialization =
      some (sampleState failedInitialization) := rfl
  have hmodes : (sampleState failedInitialization).subHalModes = [.dataInjection] := rfl
  have hcoherent := hevery.final hrun
  rw [hmodes] at hcoherent
  exact OperationMode.noConfusion (hcoherent .dataInjection (by simp))

end System
end Camellia.Sensors

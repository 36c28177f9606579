import Camellia.Sensors.DynamicSensors

/-!
# Which sensors `initializeCommon` finds to disable

`disableAllSensors` goes through the handles of `mSensors` and then, under
`mDynamicSensorsMutex`, through those of `mDynamicSensors`; the map is cleared after that.
Dynamic sensors come and go meanwhile.  This file says when no sensor that a sub-HAL has
enabled is missed.
-/

namespace Camellia.Sensors
namespace SensorActivation

open Transition

/-- Where `initializeCommon` is with the sensors; `disabled` is between `disableAllSensors`
and `mDynamicSensors.clear()`. -/
inductive Phase where
  | idle
  | disablingListed (remaining : List SensorHandle)
  | disablingDynamic (remaining : List SensorHandle)
  | disabled
deriving DecidableEq

def Phase.holdsMutex : Phase → Bool
  | .disablingDynamic _ => true
  | _ => false

/-- `enabled` has the sensors that their sub-HALs have enabled, under their own handles. -/
structure State where
  mDynamicSensors : SensorMap
  enabled : Finset (ℕ × SensorHandle)
  phase : Phase

def State.initial : State where
  mDynamicSensors := ∅
  enabled := ∅
  phase := .idle

/-- The one thread that serves the framework is busy while `initializeCommon` runs; the
callbacks come from the sub-HALs' own threads. -/
inductive Action where
  -- the framework
  | activate (sensorHandle : SensorHandle) (enabled : Bool) (answer : Result)
  | initializeCommon
  -- the sub-HALs
  | onDynamicSensorsConnected (dynamicSensorsAdded : List SensorInfo)
      (subHalIndex : BitVec 32)
  | onDynamicSensorsDisconnected (dynamicSensorHandlesRemoved : List SensorHandle)
      (subHalIndex : BitVec 32)
  | stops (sensor : ℕ × SensorHandle)
  -- `initializeCommon`
  | disable (answer : Result)
  | proceed

/-- A sub-HAL that answers `OK` has done what it was asked. -/
def receive (enabled : Finset (ℕ × SensorHandle)) (answer : Result) :
    Except Result RoutedRequest → Finset (ℕ × SensorHandle)
  | .ok ⟨subHal, .activate handle enable⟩ =>
      if answer = .ok then
        if enable then insert (subHal, handle) enabled else enabled.erase (subHal, handle)
      else enabled
  | _ => enabled

section Step

variable (subHals : SubHalList) (mSensors : SensorMap)

def step (state : State) : Action → Option State
  | .activate sensorHandle enabled answer => do
      guard (state.phase = .idle)
      return { state with
        enabled := receive state.enabled answer (activate subHals sensorHandle enabled) }
  | .initializeCommon => do
      guard (state.phase = .idle)
      return { state with phase := .disablingListed (sensorHandles mSensors) }
  | .onDynamicSensorsConnected dynamicSensorsAdded subHalIndex => do
      guard (state.phase.holdsMutex = false)
      return { state with
        mDynamicSensors := (HalProxy.onDynamicSensorsConnected state.mDynamicSensors
          dynamicSensorsAdded subHalIndex).1 }
  | .onDynamicSensorsDisconnected dynamicSensorHandlesRemoved subHalIndex => do
      guard (state.phase.holdsMutex = false)
      return { state with
        mDynamicSensors := (HalProxy.onDynamicSensorsDisconnected state.mDynamicSensors
          dynamicSensorHandlesRemoved subHalIndex).1 }
  | .stops sensor => some { state with enabled := state.enabled.erase sensor }
  | .disable answer =>
      let disabling (sensorHandle : SensorHandle) (phase : Phase) : State :=
        { state with
          enabled := receive state.enabled answer (activate subHals sensorHandle false)
          phase := phase }
      match state.phase with
      | .disablingListed (sensorHandle :: remaining) =>
          some (disabling sensorHandle (.disablingListed remaining))
      | .disablingDynamic (sensorHandle :: remaining) =>
          some (disabling sensorHandle (.disablingDynamic remaining))
      | _ => none
  | .proceed =>
      match state.phase with
      | .disablingListed [] =>
          some { state with phase := .disablingDynamic (sensorHandles state.mDynamicSensors) }
      | .disablingDynamic [] => some { state with phase := .disabled }
      | .disabled => some { state with mDynamicSensors := ∅, phase := .idle }
      | _ => none

/-! ## The handles that are still to be disabled -/

def listedAhead : Phase → List SensorHandle
  | .idle => sensorHandles mSensors
  | .disablingListed remaining => remaining
  | .disablingDynamic _ | .disabled => []

def dynamicAhead (state : State) : List SensorHandle :=
  match state.phase with
  | .idle | .disablingListed _ => sensorHandles state.mDynamicSensors
  | .disablingDynamic remaining => remaining
  | .disabled => []

/-- In the call of `initializeCommon` that is running, or in one that would begin now. -/
def ahead (state : State) : List SensorHandle :=
  listedAhead mSensors state.phase ++ dynamicAhead state

def sensorOf (sensorHandle : SensorHandle) : Option (ℕ × SensorHandle) :=
  if isSubHalIndexValid subHals sensorHandle then
    some (getSubHalForSensorHandle sensorHandle, clearSubHalIndex sensorHandle)
  else none

/-- No enabled sensor will be missed, and none has been when the map is cleared. -/
structure State.Covered (state : State) : Prop where
  ahead : ∀ sensor ∈ state.enabled,
    ∃ sensorHandle ∈ ahead mSensors state, sensorOf subHals sensorHandle = some sensor
  cleared : state.phase = .disabled → state.enabled = ∅

/-- Only sensors that are listed or connected are enabled, no sub-HAL refuses to disable
one, and none is disconnected while it is enabled. -/
def Orderly (state : State) : Action → Prop
  | .activate sensorHandle enabled answer =>
      enabled = true → answer = .ok → (sensorOf subHals sensorHandle).isSome →
        sensorHandle ∈ ahead mSensors state
  | .disable answer => answer ≠ .ok → ∀ sensorHandle remaining sensor,
      ahead mSensors state = sensorHandle :: remaining →
        sensorOf subHals sensorHandle = some sensor → sensor ∈ state.enabled →
          sensorHandle ∈ remaining
  | .onDynamicSensorsDisconnected dynamicSensorHandlesRemoved subHalIndex =>
      ∀ sensorHandle ∈ (HalProxy.onDynamicSensorsDisconnected state.mDynamicSensors
        dynamicSensorHandlesRemoved subHalIndex).2, ∀ sensor ∈ state.enabled,
          sensorOf subHals sensorHandle = some sensor →
            sensorHandle ∈ listedAhead mSensors state.phase
  | _ => True

end Step

section Covered

variable {subHals : SubHalList} {mSensors : SensorMap}

theorem mem_sensorHandles {sensors : SensorMap} {sensorHandle : SensorHandle} :
    sensorHandle ∈ sensorHandles sensors ↔ sensorHandle ∈ sensors := by
  rw [sensorHandles, Std.TreeMap.map_fst_toList_eq_keys, Std.TreeMap.mem_keys]

theorem sensorOf_eq_some {sensorHandle : SensorHandle} {sensor : ℕ × SensorHandle} :
    sensorOf subHals sensorHandle = some sensor ↔
      isSubHalIndexValid subHals sensorHandle = true ∧
        (extractSubHalIndex sensorHandle, clearSubHalIndex sensorHandle) = sensor := by
  unfold sensorOf getSubHalForSensorHandle
  split
  case isTrue hvalid => simp [hvalid]
  case isFalse hinvalid => simp [hinvalid]

/-- The index and the rest make up the whole handle. -/
theorem sensorOf_injective {sensorHandle other : SensorHandle} {sensor : ℕ × SensorHandle}
    (hsensor : sensorOf subHals sensorHandle = some sensor)
    (hother : sensorOf subHals other = some sensor) : sensorHandle = other := by
  obtain ⟨_, rfl⟩ := sensorOf_eq_some.mp hsensor
  have hpair := (sensorOf_eq_some.mp hother).2
  rw [Prod.mk.injEq, ← BitVec.toNat_inj, clearSubHalIndex_toNat, clearSubHalIndex_toNat,
    extractSubHalIndex_eq, extractSubHalIndex_eq] at hpair
  obtain ⟨hindex, hrest⟩ := hpair
  have hlt := sensorHandle.isLt
  have hotherLt := other.isLt
  apply BitVec.eq_of_toNat_eq
  split at hindex <;> split at hindex <;> omega

theorem mem_receive (enabled : Finset (ℕ × SensorHandle)) (answer : Result)
    (sensorHandle : SensorHandle) (enable : Bool) (sensor : ℕ × SensorHandle) :
    sensor ∈ receive enabled answer (activate subHals sensorHandle enable) ↔
      if answer = .ok ∧ sensorOf subHals sensorHandle = some sensor then enable = true
      else sensor ∈ enabled := by
  cases hvalid : isSubHalIndexValid subHals sensorHandle with
  | false =>
      have hnone : sensorOf subHals sensorHandle = none := by simp [sensorOf, hvalid]
      simp [activate, forwardRequest, hvalid, receive, hnone]
  | true =>
      have hsome : sensorOf subHals sensorHandle =
          some (extractSubHalIndex sensorHandle, clearSubHalIndex sensorHandle) :=
        sensorOf_eq_some.mpr ⟨hvalid, rfl⟩
      rw [activate, forwardRequest, hvalid]
      simp only [hsome, Option.some.injEq]
      by_cases hanswer : answer = .ok
      · by_cases hsame :
            (extractSubHalIndex sensorHandle, clearSubHalIndex sensorHandle) = sensor
        · cases enable <;> simp [receive, getSubHalForSensorHandle, hanswer, hsame]
        · cases enable <;>
            simp [receive, getSubHalForSensorHandle, hanswer, hsame, Ne.symm hsame]
      · simp [receive, hanswer]

theorem covered_iff (state : State) :
    state.Covered subHals mSensors ↔ ∀ sensor ∈ state.enabled,
      ∃ sensorHandle ∈ ahead mSensors state,
        sensorOf subHals sensorHandle = some sensor := by
  constructor
  · exact fun hcovered => hcovered.ahead
  · intro hahead
    refine ⟨hahead, fun hdisabled => ?_⟩
    rw [Finset.eq_empty_iff_forall_notMem]
    intro sensor hmem
    obtain ⟨sensorHandle, hhandle, _⟩ := hahead sensor hmem
    have hnone : SensorActivation.ahead mSensors state = [] := by
      simp only [SensorActivation.ahead, listedAhead, dynamicAhead, hdisabled, List.append_nil]
    rw [hnone] at hhandle
    exact absurd hhandle List.not_mem_nil

theorem State.Covered.mono {state next : State} (hcovered : state.Covered subHals mSensors)
    (henabled : next.enabled ⊆ state.enabled)
    (hahead : ∀ sensorHandle ∈ SensorActivation.ahead mSensors state,
      sensorHandle ∈ SensorActivation.ahead mSensors next) :
    next.Covered subHals mSensors := by
  rw [covered_iff]
  intro sensor hmem
  obtain ⟨sensorHandle, hhandle, hsensor⟩ := hcovered.ahead sensor (henabled hmem)
  exact ⟨sensorHandle, hahead sensorHandle hhandle, hsensor⟩

/-- Enabling a sensor is noticed by the next call when its handle is one of those that the
call goes through. -/
theorem covered_activate_iff {state : State} (hcovered : state.Covered subHals mSensors)
    (sensorHandle : SensorHandle) (enabled : Bool) (answer : Result) :
    State.Covered subHals mSensors { state with
        enabled := receive state.enabled answer (activate subHals sensorHandle enabled) } ↔
      Orderly subHals mSensors state (.activate sensorHandle enabled answer) := by
  rw [covered_iff, Orderly]
  constructor
  · rintro hnext rfl rfl hsome
    obtain ⟨sensor, hsensor⟩ := Option.isSome_iff_exists.mp hsome
    have hmem : sensor ∈ receive state.enabled .ok (activate subHals sensorHandle true) := by
      rw [mem_receive, if_pos ⟨rfl, hsensor⟩]
    obtain ⟨other, hahead, hother⟩ := hnext sensor hmem
    exact sensorOf_injective hsensor hother ▸ hahead
  · intro horderly sensor hmem
    rw [mem_receive] at hmem
    split at hmem
    case isTrue hboth =>
      have hsome : (sensorOf subHals sensorHandle).isSome := by rw [hboth.2]; rfl
      exact ⟨sensorHandle, horderly hmem hboth.1 hsome, hboth.2⟩
    case isFalse => exact hcovered.ahead sensor hmem

/-- A handle that is done with is missed only if its sub-HAL refuses. -/
theorem covered_disable_iff {state next : State} (hcovered : state.Covered subHals mSensors)
    (sensorHandle : SensorHandle) {answer : Result}
    (hahead : ahead mSensors state = sensorHandle :: ahead mSensors next)
    (hnext : next.enabled =
      receive state.enabled answer (activate subHals sensorHandle false)) :
    next.Covered subHals mSensors ↔ Orderly subHals mSensors state (.disable answer) := by
  rw [covered_iff, Orderly, hahead]
  constructor
  · intro hall hrefused head remaining sensor heq hsensor hmem
    rw [List.cons.injEq] at heq
    obtain ⟨rfl, rfl⟩ := heq
    have hstill : sensor ∈ next.enabled := by
      rw [hnext, mem_receive, if_neg fun hboth => hrefused hboth.1]
      exact hmem
    obtain ⟨other, hother, hsame⟩ := hall sensor hstill
    exact sensorOf_injective hsensor hsame ▸ hother
  · intro horderly sensor hmem
    rw [hnext, mem_receive] at hmem
    split at hmem
    case isTrue => contradiction
    case isFalse hneither =>
      obtain ⟨other, hother, hsensor⟩ := hcovered.ahead sensor hmem
      rw [hahead] at hother
      rcases List.mem_cons.mp hother with rfl | hlater
      · have hrefused : answer ≠ .ok := fun hok => hneither ⟨hok, hsensor⟩
        exact ⟨other, horderly hrefused other _ sensor rfl hsensor hmem, hsensor⟩
      · exact ⟨other, hlater, hsensor⟩

theorem mem_dynamicAhead {mDynamicSensors : SensorMap} {enabled : Finset (ℕ × SensorHandle)}
    {phase : Phase} (hfree : phase.holdsMutex = false) {sensorHandle : SensorHandle} :
    sensorHandle ∈ dynamicAhead ⟨mDynamicSensors, enabled, phase⟩ ↔
      phase ≠ .disabled ∧ sensorHandle ∈ mDynamicSensors := by
  cases phase with
  | idle => simp [dynamicAhead, mem_sensorHandles]
  | disablingListed remaining => simp [dynamicAhead, mem_sensorHandles]
  | disablingDynamic remaining => contradiction
  | disabled => simp [dynamicAhead]

theorem State.Covered.connected {state : State} (hcovered : state.Covered subHals mSensors)
    (hfree : state.phase.holdsMutex = false) (added : List SensorInfo)
    (subHalIndex : BitVec 32) :
    State.Covered subHals mSensors { state with
      mDynamicSensors := (HalProxy.onDynamicSensorsConnected state.mDynamicSensors added
        subHalIndex).1 } := by
  refine hcovered.mono ?_ ?_
  · exact Finset.Subset.refl _
  intro sensorHandle hhandle
  rcases List.mem_append.mp hhandle with hlisted | hdynamic
  · exact List.mem_append_left _ hlisted
  · apply List.mem_append_right
    obtain ⟨hphase, hmem⟩ := (mem_dynamicAhead hfree).mp hdynamic
    apply (mem_dynamicAhead hfree).mpr
    refine ⟨hphase, ?_⟩
    exact (DynamicSensors.mem_onDynamicSensorsConnected _ _ _ _).mpr (Or.inl hmem)

theorem covered_disconnected_iff {state : State} (hcovered : state.Covered subHals mSensors)
    (hfree : state.phase.holdsMutex = false) (removed : List SensorHandle)
    (subHalIndex : BitVec 32) :
    State.Covered subHals mSensors { state with
        mDynamicSensors := (HalProxy.onDynamicSensorsDisconnected state.mDynamicSensors
          removed subHalIndex).1 } ↔
      Orderly subHals mSensors state (.onDynamicSensorsDisconnected removed subHalIndex) := by
  have hkept := DynamicSensors.mem_onDynamicSensorsDisconnected state.mDynamicSensors
    removed subHalIndex
  rw [covered_iff, Orderly]
  generalize HalProxy.onDynamicSensorsDisconnected state.mDynamicSensors removed
    subHalIndex = outcome at hkept
  have hnext : ∀ sensorHandle,
      sensorHandle ∈ dynamicAhead { state with mDynamicSensors := outcome.1 } ↔
        state.phase ≠ .disabled ∧ sensorHandle ∈ outcome.1 := fun sensorHandle =>
    mem_dynamicAhead hfree
  constructor
  · intro hall sensorHandle hremoved sensor hmem hsensor
    obtain ⟨other, hother, hsame⟩ := hall sensor hmem
    obtain rfl : other = sensorHandle := sensorOf_injective hsame hsensor
    rcases List.mem_append.mp hother with hlisted | hdynamic
    · exact hlisted
    · exact absurd hremoved ((hkept other).mp ((hnext other).mp hdynamic).2).2
  · intro horderly sensor hmem
    obtain ⟨sensorHandle, hhandle, hsensor⟩ := hcovered.ahead sensor hmem
    refine ⟨sensorHandle, ?_, hsensor⟩
    rcases List.mem_append.mp hhandle with hlisted | hdynamic
    · exact List.mem_append_left _ hlisted
    · obtain ⟨hphase, hbefore⟩ := (mem_dynamicAhead hfree).mp hdynamic
      by_cases hremoved : sensorHandle ∈ outcome.2
      · exact List.mem_append_left _ (horderly sensorHandle hremoved sensor hmem hsensor)
      · apply List.mem_append_right
        exact (hnext sensorHandle).mpr ⟨hphase, (hkept sensorHandle).mpr ⟨hbefore, hremoved⟩⟩

theorem covered_step_iff {state next : State} {action : Action}
    (hcovered : state.Covered subHals mSensors)
    (hstep : step subHals mSensors state action = some next) :
    next.Covered subHals mSensors ↔ Orderly subHals mSensors state action := by
  cases action with
  | activate sensorHandle enabled answer =>
      obtain ⟨_, rfl⟩ := guarded_eq_some.mp hstep
      exact covered_activate_iff hcovered sensorHandle enabled answer
  | initializeCommon =>
      obtain ⟨hidle, rfl⟩ := guarded_eq_some.mp hstep
      refine iff_of_true (hcovered.mono (Finset.Subset.refl _) ?_) trivial
      simp [ahead, listedAhead, dynamicAhead, hidle]
  | onDynamicSensorsConnected added subHalIndex =>
      obtain ⟨hfree, rfl⟩ := guarded_eq_some.mp hstep
      exact iff_of_true (hcovered.connected hfree added subHalIndex) trivial
  | onDynamicSensorsDisconnected removed subHalIndex =>
      obtain ⟨hfree, rfl⟩ := guarded_eq_some.mp hstep
      exact covered_disconnected_iff hcovered hfree removed subHalIndex
  | stops sensor =>
      obtain rfl := Option.some.inj hstep
      exact iff_of_true (hcovered.mono (Finset.erase_subset _ _) fun _ hmem => hmem) trivial
  | disable answer =>
      simp only [step] at hstep
      split at hstep
      case h_1 sensorHandle remaining hphase =>
        obtain rfl := Option.some.inj hstep
        apply covered_disable_iff hcovered sensorHandle ?_ rfl
        simp [ahead, listedAhead, dynamicAhead, hphase]
      case h_2 sensorHandle remaining hphase =>
        obtain rfl := Option.some.inj hstep
        apply covered_disable_iff hcovered sensorHandle ?_ rfl
        simp [ahead, listedAhead, dynamicAhead, hphase]
      case h_3 => contradiction
  | proceed =>
      simp only [step] at hstep
      split at hstep
      case h_1 hphase =>
        obtain rfl := Option.some.inj hstep
        refine iff_of_true (hcovered.mono (Finset.Subset.refl _) ?_) trivial
        simp [ahead, listedAhead, dynamicAhead, hphase]
      case h_2 hphase =>
        obtain rfl := Option.some.inj hstep
        refine iff_of_true (hcovered.mono (Finset.Subset.refl _) ?_) trivial
        simp [ahead, listedAhead, dynamicAhead, hphase]
      case h_3 hphase =>
        obtain rfl := Option.some.inj hstep
        refine iff_of_true ?_ trivial
        rw [covered_iff, hcovered.cleared hphase]
        exact fun sensor hmem => absurd hmem (Finset.notMem_empty sensor)
      case h_4 => contradiction

end Covered

/-- In every run, `initializeCommon` finds every sensor that is enabled when it begins or
before it gets to it, and leaves none enabled before it clears the map, exactly if only
sensors that are listed or connected are enabled, no sub-HAL refuses to disable one, and
none is disconnected while it is enabled. -/
theorem initializeCommon_disables_iff (subHals : SubHalList) (mSensors : SensorMap)
    (actions : List Action) :
    EveryState (step subHals mSensors) (State.Covered subHals mSensors) .initial actions ↔
      EveryStep (step subHals mSensors) (Orderly subHals mSensors) .initial actions := by
  apply everyState_iff_everyStep
  · exact fun _ _ _ hcovered hstep => covered_step_iff hcovered hstep
  · rw [covered_iff]
    exact fun sensor hmem => absurd hmem (Finset.notMem_empty sensor)

/-- A sensor that is disconnected while it is enabled stays enabled. -/
example :
    let sensor : SensorInfo := { (default : SensorInfo) with sensorHandle := 5 }
    (run (step ⟨[⟨[]⟩], by decide⟩ ∅) .initial
        [.onDynamicSensorsConnected [sensor] 0, .activate 5 true .ok,
          .onDynamicSensorsDisconnected [5] 0, .initializeCommon, .proceed, .proceed]).map
      (fun state => (state.phase, state.enabled)) = some (.disabled, {(0, 5)}) := by
  decide +kernel

end SensorActivation
end Camellia.Sensors

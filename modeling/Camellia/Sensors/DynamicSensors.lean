import Camellia.ChangeLog
import Camellia.Sensors.HalProxy
import Camellia.Transition

/-!
# Dynamic sensors as the framework sees them

`onDynamicSensorsConnected` and `onDynamicSensorsDisconnected` change the map
under its mutex and tell the framework after they have released it.  Calls of
several threads may therefore notify in another order than they have changed the
map in.  The framework still ends up with the keys of the map as long as every
notification may overtake the ones that it does overtake.
-/

namespace Camellia.Sensors
namespace DynamicSensors

open ChangeLog Transition

inductive Notification where
  | connected (dynamicSensorsAdded : List SensorInfo)
  | disconnected (dynamicSensorHandlesRemoved : List SensorHandle)
deriving DecidableEq

def Notification.change : Notification → Change SensorHandle
  | .connected sensors => { inserts := true, keys := sensors.map SensorInfo.sensorHandle }
  | .disconnected handles => { inserts := false, keys := handles }

/-- `unsent` holds, in the order of their updates, what the calls that have released the
mutex are still to tell the framework. -/
structure State where
  mDynamicSensors : SensorMap
  unsent : List Notification
  received : List Notification

/-- After `initializeCommon`: the map is empty and the callback is a new one. -/
def State.initialized : State where
  mDynamicSensors := ∅
  unsent := []
  received := []

inductive Action where
  | onDynamicSensorsConnected (dynamicSensorsAdded : List SensorInfo)
      (subHalIndex : BitVec 32)
  | onDynamicSensorsDisconnected (dynamicSensorHandlesRemoved : List SensorHandle)
      (subHalIndex : BitVec 32)
  | notify (call : ℕ)

def step (state : State) : Action → Option State
  | .onDynamicSensorsConnected dynamicSensorsAdded subHalIndex =>
      let (mDynamicSensors, sensors) := HalProxy.onDynamicSensorsConnected
        state.mDynamicSensors dynamicSensorsAdded subHalIndex
      some { state with
        mDynamicSensors := mDynamicSensors
        unsent := state.unsent ++ [.connected sensors] }
  | .onDynamicSensorsDisconnected dynamicSensorHandlesRemoved subHalIndex =>
      let (mDynamicSensors, sensorHandles) := HalProxy.onDynamicSensorsDisconnected
        state.mDynamicSensors dynamicSensorHandlesRemoved subHalIndex
      some { state with
        mDynamicSensors := mDynamicSensors
        unsent := state.unsent ++ [.disconnected sensorHandles] }
  | .notify call =>
      state.unsent[call]?.map fun notification => { state with
        unsent := state.unsent.eraseIdx call
        received := state.received ++ [notification] }

def changes (notifications : List Notification) : List (Change SensorHandle) :=
  notifications.map Notification.change

/-- The dynamic handles the framework knows. -/
def State.framework (state : State) : Finset SensorHandle :=
  replay ∅ (changes state.received)

def State.Agrees (state : State) : Prop :=
  ∀ handle, handle ∈ state.framework ↔ handle ∈ state.mDynamicSensors

/-- The framework will agree once the calls in flight have notified it in the order of
their updates. -/
def State.SettlesInOrder (state : State) : Prop :=
  ∀ handle, handle ∈ replay state.framework (changes state.unsent) ↔
    handle ∈ state.mDynamicSensors

/-- A call that notifies the framework may overtake the calls that updated before it. -/
def NotifiesInTurn (state : State) : Action → Prop
  | .notify call => ∀ notification ∈ state.unsent[call]?,
      MayOvertake (changes (state.unsent.take call)) notification.change
        (changes (state.unsent.drop (call + 1)))
  | _ => True

instance (state : State) (action : Action) : Decidable (NotifiesInTurn state action) := by
  cases action <;> unfold NotifiesInTurn <;> infer_instance

/-! ## The map and its notifications -/

theorem mem_onDynamicSensorsConnected (mDynamicSensors : SensorMap)
    (sensors : List SensorInfo) (subHalIndex : BitVec 32) (key : SensorHandle) :
    let outcome := HalProxy.onDynamicSensorsConnected mDynamicSensors sensors subHalIndex
    key ∈ outcome.1 ↔
      key ∈ mDynamicSensors ∨ key ∈ outcome.2.map SensorInfo.sensorHandle := by
  unfold HalProxy.onDynamicSensorsConnected
  refine List.foldlRecOn _ _ (motive := fun state : SensorMap × List SensorInfo =>
    key ∈ state.1 ↔ key ∈ mDynamicSensors ∨ key ∈ state.2.map SensorInfo.sensorHandle)
    (by simp) fun state hstate sensor _ => ?_
  split
  · exact hstate
  · rw [SensorMap.mem_insert_iff, hstate, List.map_append, List.mem_append,
      List.map_singleton, List.mem_singleton]
    tauto

theorem mem_onDynamicSensorsDisconnected (mDynamicSensors : SensorMap)
    (handles : List SensorHandle) (subHalIndex : BitVec 32) (key : SensorHandle) :
    let outcome := HalProxy.onDynamicSensorsDisconnected mDynamicSensors handles subHalIndex
    key ∈ outcome.1 ↔ key ∈ mDynamicSensors ∧ key ∉ outcome.2 := by
  unfold HalProxy.onDynamicSensorsDisconnected
  refine List.foldlRecOn _ _ (motive := fun state : SensorMap × List SensorHandle =>
    key ∈ state.1 ↔ key ∈ mDynamicSensors ∧ key ∉ state.2)
    (by simp) fun state hstate handle _ => ?_
  split
  · exact hstate
  · dsimp only
    split
    · rw [Std.TreeMap.mem_erase, hstate, List.mem_append, List.mem_singleton, ne_eq,
        Std.LawfulEqCmp.compare_eq_iff_eq, eq_comm]
      tauto
    · exact hstate

/-! ## Steps and runs -/

theorem State.SettlesInOrder.update {state : State} (hsettles : state.SettlesInOrder)
    {mDynamicSensors : SensorMap} {notification : Notification}
    (hmem : ∀ key, key ∈ mDynamicSensors ↔
      (notification.change.writes key).getD (decide (key ∈ state.mDynamicSensors)) = true) :
    State.SettlesInOrder { state with
      mDynamicSensors := mDynamicSensors
      unsent := state.unsent ++ [notification] } := by
  intro key
  have hview : decide (key ∈ replay state.framework (changes state.unsent)) =
      decide (key ∈ state.mDynamicSensors) := decide_eq_decide.mpr (hsettles key)
  rw [hmem key, ← hview, ← Change.mem_apply, changes, List.map_append, replay_append]
  rfl

theorem settlesInOrder_step {state next : State} {action : Action}
    (hsettles : state.SettlesInOrder) (hstep : step state action = some next) :
    next.SettlesInOrder ↔ NotifiesInTurn state action := by
  cases action with
  | onDynamicSensorsConnected sensors subHalIndex =>
      have hmem := mem_onDynamicSensorsConnected state.mDynamicSensors sensors subHalIndex
      simp only [step, Option.some.injEq] at hstep
      subst next
      refine iff_of_true (hsettles.update fun key => ?_) trivial
      refine (hmem key).trans ?_
      by_cases hnamed : key ∈ (HalProxy.onDynamicSensorsConnected state.mDynamicSensors
          sensors subHalIndex).2.map SensorInfo.sensorHandle
      · simp only [Change.writes, Notification.change, hnamed]
        simp
      · simp only [Change.writes, Notification.change, hnamed]
        simp
  | onDynamicSensorsDisconnected handles subHalIndex =>
      have hmem := mem_onDynamicSensorsDisconnected state.mDynamicSensors handles subHalIndex
      simp only [step, Option.some.injEq] at hstep
      subst next
      refine iff_of_true (hsettles.update fun key => ?_) trivial
      refine (hmem key).trans ?_
      by_cases hnamed : key ∈ (HalProxy.onDynamicSensorsDisconnected state.mDynamicSensors
          handles subHalIndex).2
      · simp [Change.writes, Notification.change, hnamed]
      · simp [Change.writes, Notification.change, hnamed]
  | notify call =>
      obtain ⟨notification, hcall, rfl⟩ := Option.map_eq_some_iff.mp hstep
      have hsplit : state.unsent =
          state.unsent.take call ++ notification :: state.unsent.drop (call + 1) := by
        obtain ⟨hlt, hget⟩ := List.getElem?_eq_some_iff.mp hcall
        rw [← hget, ← List.drop_eq_getElem_cons hlt, List.take_append_drop]
      have hbefore : changes state.unsent = changes (state.unsent.take call) ++
          notification.change :: changes (state.unsent.drop (call + 1)) := by
        conv_lhs => rw [hsplit]
        simp only [changes, List.map_append, List.map_cons]
      have hafter : replay (replay ∅ (changes (state.received ++ [notification])))
            (changes (state.unsent.eraseIdx call)) =
          replay state.framework (notification.change ::
            (changes (state.unsent.take call) ++
              changes (state.unsent.drop (call + 1)))) := by
        rw [List.eraseIdx_eq_take_drop_succ, changes, List.map_append, replay_append]
        simp only [changes, List.map_append]
        rfl
      have hexact := mayOvertake_iff state.framework (changes (state.unsent.take call))
        notification.change (changes (state.unsent.drop (call + 1)))
      rw [← hbefore, ← hafter] at hexact
      have hcondition : NotifiesInTurn state (.notify call) ↔
          MayOvertake (changes (state.unsent.take call)) notification.change
            (changes (state.unsent.drop (call + 1))) := by
        simp [NotifiesInTurn, hcall]
      rw [hcondition, hexact, Finset.ext_iff]
      exact forall_congr' fun key => by rw [hsettles key]; rfl

theorem State.SettlesInOrder.agrees {state : State} (hsettles : state.SettlesInOrder)
    (hreturned : state.unsent = []) : state.Agrees := by
  intro handle
  have hhandle := hsettles handle
  rw [hreturned] at hhandle
  exact hhandle

theorem settlesInOrder_initialized : State.initialized.SettlesInOrder := by
  intro handle
  simp [State.initialized, State.framework, changes, replay]

/-- The view stays right, calls in flight included, exactly as long as no notification
overtakes one that it must not overtake. -/
theorem everyState_settlesInOrder_iff (actions : List Action) :
    EveryState step State.SettlesInOrder State.initialized actions ↔
      EveryStep step NotifiesInTurn State.initialized actions :=
  everyState_iff_everyStep
    (fun _ _ _ hsettles hstep => settlesInOrder_step hsettles hstep)
    settlesInOrder_initialized actions

theorem framework_agrees_when_all_returned (actions : List Action)
    (hturns : EveryStep step NotifiesInTurn State.initialized actions) :
    EveryState step (fun state => state.unsent = [] → state.Agrees)
      State.initialized actions :=
  ((everyState_settlesInOrder_iff actions).mpr hturns).imp
    fun _ hsettles => hsettles.agrees

def lightSensor : SensorInfo where
  sensorHandle := 1
  type := 5
  typeAsString := "android.sensor.light"
  maxRange := floatOne
  flags := 0

/-- A sensor is connected and disconnected, by calls that notify in this order. -/
theorem framework_agrees_in_order :
    EveryState step (fun state => state.unsent = [] → state.Agrees) State.initialized
      [.onDynamicSensorsConnected [lightSensor] 0, .onDynamicSensorsDisconnected [1] 0,
        .notify 0, .notify 0] :=
  framework_agrees_when_all_returned _ (by decide)

/-- The disconnection is notified first, and the framework keeps the sensor. -/
theorem framework_disagrees_when_overtaken :
    ¬EveryState step (fun state => state.unsent = [] → state.Agrees) State.initialized
      [.onDynamicSensorsConnected [lightSensor] 0, .onDynamicSensorsDisconnected [1] 0,
        .notify 1, .notify 0] := by
  intro hevery
  have hagrees := hevery.final rfl rfl
  have hknown := (hagrees 1).mp (by decide)
  exact absurd hknown (by decide)

end DynamicSensors
end Camellia.Sensors

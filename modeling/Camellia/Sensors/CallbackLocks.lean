import Camellia.Reentrancy
import Camellia.Sensors.DirectChannel
import Camellia.Sensors.System

/-!
# Callbacks from inside calls to a sub-HAL

A sub-HAL may post events or announce dynamic sensors from inside a call that the
proxy makes to it.  The proxy makes its calls without holding a mutex, with one
exception: `disableAllSensors` runs through the dynamic sensors, and deactivates
each of them, under the mutex of that map.  A sub-HAL that drops a dynamic sensor
as it is deactivated comes back for the same mutex.

Only what decides about mutexes and calls is followed here.  What posts and the
pending-writes thread do to the event queue under its mutex is left out.
-/

namespace Camellia.Sensors
namespace CallbackLocks

open Reentrancy Transition

/-- The non-recursive mutexes of the proxy. -/
inductive Mutex where
  | mDynamicSensorsMutex
  | mEventQueueWriteMutex
deriving DecidableEq

/-- The calls of the proxy to sub-HALs: requests of the framework, the requests of the
two loops of `disableAllSensors`, and the calls to each sub-HAL in turn. -/
inductive Place where
  | request (routed : RoutedRequest)
  | disable (routed : RoutedRequest)
  | disableDynamic (routed : RoutedRequest)
  | setOperationMode (subHal : ℕ) (mode : OperationMode)
  | initializeSubHal (subHal : ℕ)
  | directChannel (subHal : ℕ)
  | debug (subHal : ℕ)
deriving DecidableEq

inductive Callback where
  | postEvents (mSubHalIndex : BitVec 32) (events : List Event)
  | onDynamicSensorsConnected (dynamicSensorsAdded : List SensorInfo)
      (subHalIndex : BitVec 32)
  | onDynamicSensorsDisconnected (dynamicSensorHandlesRemoved : List SensorHandle)
      (subHalIndex : BitVec 32)

/-- `outcome` is what the sub-HALs answer.  A round of `handlePendingWrites` is a wait or
a blocking write, for both of which it gives up its mutex.  A thread of a sub-HAL may
call back at any time. -/
inductive Operation where
  | initializeCommon (args : HalProxy.InitializeArgs) (timeNow : ℤ) (outcome : ℕ → Result)
  | setOperationMode (mode : OperationMode) (outcome : ℕ → Result)
  | activate (sensorHandle : SensorHandle) (enabled : Bool)
  | batch (sensorHandle : SensorHandle) (samplingPeriodNs maxReportLatencyNs : BitVec 64)
  | flush (sensorHandle : SensorHandle)
  | injectSensorData (event : Event)
  | registerDirectChannel
  | unregisterDirectChannel
  | configDirectReport (sensorHandle : SensorHandle) (channelHandle : BitVec 32)
      (rate : RateLevel)
  | debug
  | handlePendingWrites (rounds : ℕ)
  | callback (callback : Callback)

abbrev Program := List (Instr Mutex Place HalProxy)

def requests (handles : List SensorHandle) (subHals : SubHalList) : List RoutedRequest :=
  handles.filterMap fun sensorHandle => (activate subHals sensorHandle false).toOption

/-- The calls are those of `disableAllSensors`. -/
theorem requests_append (subHals : SubHalList) (mSensors mDynamicSensors : SensorMap) :
    requests (sensorHandles mSensors) subHals ++
        requests (sensorHandles mDynamicSensors) subHals =
      (disableAllSensors subHals mSensors mDynamicSensors).filterMap Except.toOption := by
  rw [disableAllSensors, List.filterMap_map, List.filterMap_append]
  rfl

def disableAllSensors : Program :=
  [.calls fun proxy =>
      (requests (sensorHandles proxy.mSensors) proxy.mSubHalList).map Place.disable,
    .lock .mDynamicSensorsMutex,
    .calls fun proxy =>
      (requests (sensorHandles proxy.mDynamicSensors) proxy.mSubHalList).map
        Place.disableDynamic,
    .unlock .mDynamicSensorsMutex]

/-- The number of sub-HALs that a loop calls with success before one fails. -/
def accepting (subHals : SubHalList) (outcome : ℕ → Result) : ℕ :=
  ((List.range subHals.size).takeWhile fun subHal => outcome subHal = .ok).length

/-- The sub-HALs that such a loop calls, the failing one included. -/
def called (subHals : SubHalList) (outcome : ℕ → Result) : List ℕ :=
  (List.range subHals.size).take (accepting subHals outcome + 1)

def initializeCommon (args : HalProxy.InitializeArgs) (timeNow : ℤ) (outcome : ℕ → Result) :
    Program :=
  .update HalProxy.stopThreads :: disableAllSensors ++
    [.update fun proxy => (proxy.initializeCommon args timeNow).1,
      .calls fun proxy => (called proxy.mSubHalList outcome).map Place.initializeSubHal,
      .update fun proxy => { proxy with mCurrentOperationMode := .normal }]

def setOperationMode (mode : OperationMode) (outcome : ℕ → Result) (proxy : HalProxy) :
    Program :=
  .calls (fun proxy => (called proxy.mSubHalList outcome).map fun subHal =>
      Place.setOperationMode subHal mode) ::
    if accepting proxy.mSubHalList outcome < proxy.mSubHalList.size then
      [.calls fun proxy => (List.range (accepting proxy.mSubHalList outcome)).map fun subHal =>
        Place.setOperationMode subHal proxy.mCurrentOperationMode]
    else [.update fun proxy => { proxy with mCurrentOperationMode := mode }]

def forward (routed : HalProxy → Except Result RoutedRequest) : Program :=
  [.calls fun proxy => (routed proxy).toOption.toList.map Place.request]

def directChannel : Program :=
  [.calls fun proxy => proxy.mDirectChannelSubHal.toList.map Place.directChannel]

def configDirectReport (sensorHandle : SensorHandle) (channelHandle : BitVec 32)
    (rate : RateLevel) : Program :=
  [.calls fun proxy =>
    (Sensors.configDirectReport proxy.mDirectChannelSubHal sensorHandle channelHandle
      rate).toOption.toList.map fun request => Place.directChannel request.subHal]

def handlePendingWrites (rounds : ℕ) : Program :=
  .lock .mEventQueueWriteMutex ::
    ((List.replicate rounds
      [.unlock .mEventQueueWriteMutex, .lock .mEventQueueWriteMutex]).flatten ++
    [.unlock .mEventQueueWriteMutex])

def updateDynamicSensors (change : SensorMap → SensorMap) : Program :=
  [.lock .mDynamicSensorsMutex,
    .update fun proxy => { proxy with mDynamicSensors := change proxy.mDynamicSensors },
    .unlock .mDynamicSensorsMutex]

def callbackProgram (header : HalProxyHeader) (proxy : HalProxy) : Callback → Program
  | .postEvents mSubHalIndex events =>
      if events.isEmpty ∨ !proxy.mThreadsRun then []
      else
        [.update fun proxy => { proxy with
            mSensors := (HalProxyCallback.processEvents header.getSensorInfoSubscripts
              proxy.mSensors mSubHalIndex events).mSensors },
          .lock .mEventQueueWriteMutex,
          .unlock .mEventQueueWriteMutex]
  | .onDynamicSensorsConnected dynamicSensorsAdded subHalIndex =>
      updateDynamicSensors fun mDynamicSensors =>
        (HalProxy.onDynamicSensorsConnected mDynamicSensors dynamicSensorsAdded subHalIndex).1
  | .onDynamicSensorsDisconnected dynamicSensorHandlesRemoved subHalIndex =>
      updateDynamicSensors fun mDynamicSensors =>
        (HalProxy.onDynamicSensorsDisconnected mDynamicSensors dynamicSensorHandlesRemoved
          subHalIndex).1

def operationProgram (header : HalProxyHeader) (proxy : HalProxy) : Operation → Program
  | .initializeCommon args timeNow outcome => initializeCommon args timeNow outcome
  | .setOperationMode mode outcome => setOperationMode mode outcome proxy
  | .activate sensorHandle enabled =>
      forward fun proxy => Sensors.activate proxy.mSubHalList sensorHandle enabled
  | .batch sensorHandle samplingPeriodNs maxReportLatencyNs =>
      forward fun proxy =>
        Sensors.batch proxy.mSubHalList sensorHandle samplingPeriodNs maxReportLatencyNs
  | .flush sensorHandle => forward fun proxy => Sensors.flush proxy.mSubHalList sensorHandle
  | .injectSensorData event =>
      forward fun proxy =>
        Sensors.injectSensorData proxy.mSubHalList proxy.mCurrentOperationMode event
  | .registerDirectChannel => directChannel
  | .unregisterDirectChannel => directChannel
  | .configDirectReport sensorHandle channelHandle rate =>
      configDirectReport sensorHandle channelHandle rate
  | .debug => [.calls fun proxy => (List.range proxy.mSubHalList.size).map Place.debug]
  | .handlePendingWrites rounds => handlePendingWrites rounds
  | .callback callback => callbackProgram header proxy callback

def code (header : HalProxyHeader) : Code Operation Callback Mutex Place HalProxy where
  program := fun operation proxy => operationProgram header proxy operation
  incoming := fun callback proxy => callbackProgram header proxy callback

/-! ## The discipline -/

def Place.disablesDynamic : Place → Bool
  | .disableDynamic _ => true
  | _ => false

/-- The mutexes held in a call to a sub-HAL. -/
def Fits (place : Place) (held : List Mutex) : Prop :=
  (.mDynamicSensorsMutex ∈ held ↔ place.disablesDynamic = true) ∧
    .mEventQueueWriteMutex ∉ held

/-- While it is deactivated as a dynamic sensor's sub-HAL by `disableAllSensors`, a
sub-HAL may post events but not announce dynamic sensors. -/
def Allowed : Place → Callback → Prop
  | .disableDynamic _, .postEvents _ _ => True
  | .disableDynamic _, _ => False
  | _, _ => True

theorem fits_nil {place : Place} (hplace : place.disablesDynamic = false) :
    Fits place [] :=
  ⟨by simp [hplace], List.not_mem_nil⟩

theorem safe_calls_nil {places : HalProxy → List Place}
    (hplaces : ∀ proxy, ∀ place ∈ places proxy, place.disablesDynamic = false) :
    Safe Fits [] [.calls places] :=
  ⟨fun proxy place hmem => fits_nil (hplaces proxy place hmem), trivial⟩

theorem safe_disableAllSensors : Safe Fits [] disableAllSensors := by
  refine ⟨?_, List.not_mem_nil, ?_, trivial⟩
  · intro proxy place hmem
    obtain ⟨routed, _, rfl⟩ := List.mem_map.mp hmem
    exact fits_nil rfl
  · intro proxy place hmem
    obtain ⟨routed, _, rfl⟩ := List.mem_map.mp hmem
    exact ⟨by simp [Place.disablesDynamic], by simp⟩

theorem safe_initializeCommon (args : HalProxy.InitializeArgs) (timeNow : ℤ)
    (outcome : ℕ → Result) : Safe Fits [] (initializeCommon args timeNow outcome) := by
  refine safe_append.mpr ⟨safe_disableAllSensors, ?_, trivial⟩
  intro proxy place hmem
  obtain ⟨subHal, _, rfl⟩ := List.mem_map.mp hmem
  exact fits_nil rfl

theorem safe_setOperationMode (mode : OperationMode) (outcome : ℕ → Result)
    (proxy : HalProxy) : Safe Fits [] (setOperationMode mode outcome proxy) := by
  refine ⟨?_, ?_⟩
  · intro proxy place hmem
    obtain ⟨subHal, _, rfl⟩ := List.mem_map.mp hmem
    exact fits_nil rfl
  · split
    · refine safe_calls_nil fun proxy place hmem => ?_
      obtain ⟨subHal, _, rfl⟩ := List.mem_map.mp hmem
      rfl
    · trivial

theorem safe_forward (routed : HalProxy → Except Result RoutedRequest) :
    Safe Fits [] (forward routed) := by
  refine safe_calls_nil fun proxy place hmem => ?_
  obtain ⟨request, _, rfl⟩ := List.mem_map.mp hmem
  rfl

theorem safe_directChannel : Safe Fits [] directChannel := by
  refine safe_calls_nil fun proxy place hmem => ?_
  obtain ⟨subHal, _, rfl⟩ := List.mem_map.mp hmem
  rfl

theorem safe_handlePendingWrites (rounds : ℕ) :
    Safe Fits [] (handlePendingWrites rounds) := by
  refine ⟨List.not_mem_nil, ?_⟩
  induction rounds with
  | zero => trivial
  | succ rounds ih =>
      rw [List.replicate_succ, List.flatten_cons, List.append_assoc]
      exact ⟨List.not_mem_nil, ih⟩

/-- A section that takes a free mutex, and calls nobody, leaves it free. -/
theorem safe_section {held : List Mutex} {mutex : Mutex} (hfree : mutex ∉ held)
    (change : HalProxy → HalProxy) :
    let program : Program := [.lock mutex, .update change, .unlock mutex]
    Safe Fits held program ∧ heldAfter held program = held := by
  refine ⟨⟨hfree, trivial⟩, ?_⟩
  simp [heldAfter]

theorem safe_callback (header : HalProxyHeader) {place : Place} {held : List Mutex}
    {callback : Callback} (proxy : HalProxy) (hfits : Fits place held)
    (hallowed : Allowed place callback) :
    Safe Fits held (callbackProgram header proxy callback) ∧
      heldAfter held (callbackProgram header proxy callback) = held := by
  obtain ⟨hdynamic, hqueue⟩ := hfits
  cases callback with
  | postEvents mSubHalIndex events =>
      rw [callbackProgram]
      split
      · exact ⟨trivial, rfl⟩
      · exact ⟨⟨hqueue, trivial⟩, by simp [heldAfter]⟩
  | onDynamicSensorsConnected sensors subHalIndex =>
      have hfree : .mDynamicSensorsMutex ∉ held := by
        rw [hdynamic]
        cases place <;> simp_all [Allowed, Place.disablesDynamic]
      exact safe_section hfree _
  | onDynamicSensorsDisconnected handles subHalIndex =>
      have hfree : .mDynamicSensorsMutex ∉ held := by
        rw [hdynamic]
        cases place <;> simp_all [Allowed, Place.disablesDynamic]
      exact safe_section hfree _

theorem safe_operation (header : HalProxyHeader) (operation : Operation) (proxy : HalProxy) :
    Safe Fits [] (operationProgram header proxy operation) := by
  cases operation with
  | initializeCommon args timeNow outcome => exact safe_initializeCommon args timeNow outcome
  | setOperationMode mode outcome => exact safe_setOperationMode mode outcome proxy
  | activate sensorHandle enabled => exact safe_forward _
  | batch sensorHandle samplingPeriodNs maxReportLatencyNs => exact safe_forward _
  | flush sensorHandle => exact safe_forward _
  | injectSensorData event => exact safe_forward _
  | registerDirectChannel => exact safe_directChannel
  | unregisterDirectChannel => exact safe_directChannel
  | configDirectReport sensorHandle channelHandle rate =>
      refine safe_calls_nil fun proxy place hmem => ?_
      obtain ⟨request, _, rfl⟩ := List.mem_map.mp hmem
      rfl
  | debug =>
      refine safe_calls_nil fun proxy place hmem => ?_
      obtain ⟨subHal, _, rfl⟩ := List.mem_map.mp hmem
      rfl
  | handlePendingWrites rounds => exact safe_handlePendingWrites rounds
  | callback callback =>
      have hfits : Fits (.debug 0) [] := fits_nil rfl
      exact (safe_callback header proxy hfits trivial).1

theorem disciplined (header : HalProxyHeader) : Disciplined Fits Allowed (code header) where
  program := safe_operation header
  incoming := fun _ _ _ proxy => safe_callback header proxy
  relocks := by
    intro place held callback proxy hfits hforbidden
    cases place with
    | disableDynamic routed =>
        have hheld : .mDynamicSensorsMutex ∈ held := hfits.1.mpr rfl
        cases callback with
        | postEvents mSubHalIndex events => exact absurd trivial hforbidden
        | onDynamicSensorsConnected sensors subHalIndex => exact ⟨_, _, rfl, hheld⟩
        | onDynamicSensorsDisconnected handles subHalIndex => exact ⟨_, _, rfl, hheld⟩
    | _ => exact absurd trivial hforbidden

/-- In every run of the proxy's operations and of callbacks from inside their calls, no
thread comes to lock a mutex that it holds, if and only if no sub-HAL announces or
removes dynamic sensors while `disableAllSensors` is deactivating a dynamic sensor of
it. -/
theorem no_self_deadlock_iff (header : HalProxyHeader) (subHals : SubHalList)
    (actions : List (Reentrancy.Action Operation Callback)) :
    EveryState (step (code header)) State.NoneRelocks (.initial (.construct subHals)) actions ↔
      EveryStep (step (code header)) (CallsBackAllowed Allowed)
        (.initial (.construct subHals)) actions :=
  (disciplined header).noneRelocks_iff (.construct subHals) actions

/-! ## A sensor dropped as it is deactivated -/

def sampleInitialize : Operation :=
  .initializeCommon
    { quantumCount := 4, eventFlagCreated := true, wakelockFlagCreated := true } 0 fun _ => .ok

def sampleSensor : SensorInfo where
  sensorHandle := 5
  type := 1
  typeAsString := "android.sensor.accelerometer"
  maxRange := 0
  flags := 0

/-- The sub-HAL connects a dynamic sensor while it is initialized, and disconnects it
from inside the `activate` of the next initialization. -/
def dropsDynamicSensor : List (Reentrancy.Action Operation Callback) :=
  .start sampleInitialize :: List.replicate 9 (.advance 0) ++
    [.callBack 0 (.onDynamicSensorsConnected [sampleSensor] 0)] ++
    List.replicate 5 (.advance 0) ++
    .start sampleInitialize :: List.replicate 6 (.advance 1) ++
    [.callBack 1 (.onDynamicSensorsDisconnected [5] 0)]

theorem self_deadlock_on_disconnect :
    ¬EveryState (step (code System.sampleHeader)) State.NoneRelocks
      (.initial (.construct System.sampleSubHals)) dropsDynamicSensor := by
  intro hevery
  have hhangs : (run (step (code System.sampleHeader))
      (.initial (.construct System.sampleSubHals)) dropsDynamicSensor).map
        (fun state => decide state.NoneRelocks) = some false := by decide
  obtain ⟨final, hrun, hrelocks⟩ := Option.map_eq_some_iff.mp hhangs
  exact of_decide_eq_false hrelocks (hevery.final hrun)

end CallbackLocks
end Camellia.Sensors

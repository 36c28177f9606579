import Camellia.Sensors.HalProxyCallback
import Camellia.Sensors.PendingWrites
import Camellia.Sensors.SensorList

/-!
# The state of the proxy and its operations

Each operation is a function on the fields it reads and writes.  What a sub-HAL
answers, whether a write to the message queue succeeds and what the clock shows
are arguments; which thread performs an operation, and when, is the subject of
the next module.
-/

namespace Camellia.Sensors

/-- Constants of the proxy's header, and whether its `getSensorInfo` evaluates
the subscript `mSensors[sensorHandle]`. -/
structure HalProxyHeader where
  kMaxSizePendingWriteEventsQueue : ℕ
  kWakelockTimeoutNs : ℤ
  getSensorInfoSubscripts : Bool

inductive OperationMode where
  | normal
  | dataInjection
deriving DecidableEq

structure HalProxy where
  mSubHalList : SubHalList
  mSensors : SensorMap
  mDirectChannelSubHal : Option ℕ
  mDynamicSensors : SensorMap
  mCurrentOperationMode : OperationMode
  mThreadsRun : Bool
  mEventQueueFlag : Bool
  mWakelockQueueFlag : Bool
  eventPath : EventPath
  wakelock : Wakelock

namespace HalProxy

def construct (subHals : SubHalList) : HalProxy where
  mSubHalList := subHals
  mSensors := (initializeSensorList subHals).mSensors
  mDirectChannelSubHal := (initializeSensorList subHals).mDirectChannelSubHal
  mDynamicSensors := ∅
  mCurrentOperationMode := .normal
  mThreadsRun := false
  mEventQueueFlag := false
  mWakelockQueueFlag := false
  eventPath := .initial
  wakelock := .initial

/-! ## Posting events -/

/-- `none` stands for the use of a null `mEventQueue`. -/
def postEventsToMessageQueue (header : HalProxyHeader) (proxy : HalProxy)
    (events : List Event) (numWakeupEvents : ℕ) (wakelock : ScopedWakelock)
    (writeOk : Bool) (timeNow : ℤ) : Option HalProxy :=
  let shared :=
    if wakelock.isLocked then
      (proxy.wakelock.incrementRefCountAndMaybeAcquireWakelock proxy.mThreadsRun
        numWakeupEvents timeNow).1
    else proxy.wakelock
  proxy.eventPath.mEventQueue.map fun queue =>
    { proxy with
      wakelock := shared
      eventPath := proxy.eventPath.post header.kMaxSizePendingWriteEventsQueue queue
        events numWakeupEvents writeOk }

/-! ## Dynamic sensors -/

/-- The part of `onDynamicSensorsConnected` under `mDynamicSensorsMutex`: the new map
and the sensors the framework is told about. -/
def onDynamicSensorsConnected (mDynamicSensors : SensorMap)
    (dynamicSensorsAdded : List SensorInfo) (subHalIndex : BitVec 32) :
    SensorMap × List SensorInfo :=
  dynamicSensorsAdded.foldl
    (fun state sensor =>
      if !subHalIndexIsClear sensor.sensorHandle then state
      else
        let sensor := { sensor with
          sensorHandle := setSubHalIndex sensor.sensorHandle (sizeOfInt32 subHalIndex) }
        (state.1.insert sensor.sensorHandle sensor, state.2 ++ [sensor]))
    (mDynamicSensors, [])

def onDynamicSensorsDisconnected (mDynamicSensors : SensorMap)
    (dynamicSensorHandlesRemoved : List SensorHandle) (subHalIndex : BitVec 32) :
    SensorMap × List SensorHandle :=
  dynamicSensorHandlesRemoved.foldl
    (fun state sensorHandle =>
      if !subHalIndexIsClear sensorHandle then state
      else
        let sensorHandle := setSubHalIndex sensorHandle (sizeOfInt32 subHalIndex)
        if sensorHandle ∈ state.1 then
          (state.1.erase sensorHandle, state.2 ++ [sensorHandle])
        else state)
    (mDynamicSensors, [])

/-! ## Stopping and starting -/

/-- `stopThreads` up to the joins: the flag is cleared and the event queue drained.
What the joined threads still do are steps of theirs. -/
def stopThreads (proxy : HalProxy) : HalProxy :=
  { proxy with
    mThreadsRun := false
    eventPath := { proxy.eventPath with
      mEventQueue :=
        if proxy.mEventQueueFlag then
          proxy.eventPath.mEventQueue.map fun queue =>
            (queue.read queue.availableToRead).getD queue
        else proxy.eventPath.mEventQueue } }

structure InitializeArgs where
  quantumCount : ℕ
  eventFlagCreated : Bool
  wakelockFlagCreated : Bool

/-- `initializeCommon` from the return of `stopThreads` to the start of the new
threads.  The requests of `disableAllSensors` leave the fields alone. -/
def initializeCommon (proxy : HalProxy) (args : InitializeArgs) (timeNow : ℤ) :
    HalProxy × Result :=
  let result :=
    if args.eventFlagCreated ∧ args.wakelockFlagCreated then Result.ok else Result.badValue
  ({ proxy with
      wakelock := proxy.wakelock.resetSharedWakelock proxy.mThreadsRun timeNow
      mDynamicSensors := ∅
      eventPath := { proxy.eventPath with
        mPendingWriteEventsQueue := []
        mSizePendingWriteEventsQueue := 0
        mEventQueue := some (MessageQueue.empty args.quantumCount) }
      mEventQueueFlag := args.eventFlagCreated
      mWakelockQueueFlag := args.wakelockFlagCreated
      mThreadsRun := true },
    result)

end HalProxy

/-! ## Operation modes -/

/-- Call the sub-HALs in order until one fails; those that succeed enter `mode`.
The result holds the new modes, the index the loop stopped at and the last result. -/
def callSubHals (mode : OperationMode) (outcome : ℕ → Result) :
    ℕ → List OperationMode → List OperationMode × ℕ × Result
  | index, [] => ([], index, .ok)
  | index, current :: rest =>
      if outcome index ≠ .ok then (current :: rest, index, outcome index)
      else
        let (modes, stopped, result) := callSubHals mode outcome (index + 1) rest
        (mode :: modes, stopped, result)

structure ModeState where
  mCurrentOperationMode : OperationMode
  subHalModes : List OperationMode
  result : Result

def setOperationMode (mCurrentOperationMode : OperationMode)
    (subHalModes : List OperationMode) (mode : OperationMode) (outcome : ℕ → Result) :
    ModeState :=
  let (modes, subHalIndex, result) := callSubHals mode outcome 0 subHalModes
  if result ≠ .ok then
    -- the sub-HALs before the failing one are put back
    { mCurrentOperationMode := mCurrentOperationMode
      subHalModes := modes.mapIdx fun index current =>
        if index < subHalIndex then mCurrentOperationMode else current
      result := result }
  else { mCurrentOperationMode := mode, subHalModes := modes, result := result }

/-- The loop of `initializeCommon` over the sub-HALs and what follows it; `result` is
what the call would have returned before. -/
def initializeSubHals (subHalModes : List OperationMode) (outcome : ℕ → Result)
    (result : Result) : ModeState :=
  let (modes, _, currRes) := callSubHals .normal outcome 0 subHalModes
  { mCurrentOperationMode := .normal
    subHalModes := modes
    result := if currRes ≠ .ok then currRes else result }

def injectSensorData (subHals : SubHalList) (mCurrentOperationMode : OperationMode)
    (event : Event) : Except Result RoutedRequest :=
  if mCurrentOperationMode = .normal ∧ event.sensorType ≠ SensorType.additionalInfo then
    .error .badValue
  else
    forwardRequest subHals event.sensorHandle fun handle =>
      .injectSensorData { event with sensorHandle := handle }

end Camellia.Sensors

import Camellia.Sensors.SensorHandle
import Camellia.Sensors.Wakelock

/-!
# Events on their way from a sub-HAL to the proxy

`postEvents` tags each event with the index of the sub-HAL, drops the reports of
a pick-up gesture sensor that do not announce a gesture, counts the wake-up
events among the rest and asserts that the scoped wakelock is locked exactly
when that count is positive.
-/

namespace Camellia.Sensors

def isStaticWakeUp (mSensors : SensorMap) (event : Event) : Bool :=
  (mSensors.lookup event.sensorHandle).isWakeUp

def isDynamicWakeUp (mDynamicSensors : SensorMap) (event : Event) : Bool :=
  (mDynamicSensors.lookup event.sensorHandle).isWakeUp

/-- An event of a sensor, static or connected dynamic, flagged `WAKE_UP`. -/
def isWakeUpEvent (mSensors mDynamicSensors : SensorMap) (event : Event) : Bool :=
  isStaticWakeUp mSensors event || isDynamicWakeUp mDynamicSensors event

namespace HalProxyCallback

def setSubHalIndex (sensorHandle : SensorHandle) (subHalIndex : ℕ) : SensorHandle :=
  sensorHandle ||| (int32OfSize subHalIndex <<< kBitsAfterSubHalIndex)

/-- `getSensorInfo` denotes `mSensors[sensorHandle]`; whether it evaluates the
subscript itself, and so inserts a missing key, is a parameter. -/
def getSensorInfo (subscripts : Bool) (mSensors : SensorMap) (sensorHandle : SensorHandle) :
    SensorInfo × SensorMap :=
  (mSensors.lookup sensorHandle,
    if subscripts then mSensors.subscript sensorHandle else mSensors)

structure ProcessedEvents where
  mSensors : SensorMap
  numWakeupEvents : ℕ
  eventsOut : List Event

def tagEvent (mSubHalIndex : BitVec 32) (event : Event) : Event :=
  { event with
    sensorHandle := setSubHalIndex event.sensorHandle (sizeOfInt32 mSubHalIndex) }

def processEvent (subscripts : Bool) (mSubHalIndex : BitVec 32) (state : ProcessedEvents)
    (event : Event) : ProcessedEvents :=
  let event := tagEvent mSubHalIndex event
  let (sensor, mSensors) := getSensorInfo subscripts state.mSensors event.sensorHandle
  if sensor.type = SensorType.pickUpGesture ∧ event.scalar ≠ floatOne then
    { state with mSensors := mSensors }
  else {
    mSensors := mSensors
    numWakeupEvents := state.numWakeupEvents + if sensor.isWakeUp then 1 else 0
    eventsOut := state.eventsOut ++ [event] }

def processEvents (subscripts : Bool) (mSensors : SensorMap) (mSubHalIndex : BitVec 32)
    (events : List Event) : ProcessedEvents :=
  events.foldl (processEvent subscripts mSubHalIndex)
    { mSensors := mSensors, numWakeupEvents := 0, eventsOut := [] }

/-- The two `ALOG_ASSERT`s of `postEvents`. -/
def alogAsserts (numWakeupEvents : ℕ) (wakelock : ScopedWakelock) : Bool :=
  if numWakeupEvents > 0 then wakelock.isLocked else !wakelock.isLocked

/-- The part of `postEvents` before the call of `postEventsToMessageQueue`; `none`
when it returns early.  The assertions are compiled out of release builds. -/
def postEvents (subscripts mThreadsRun : Bool) (mSensors : SensorMap)
    (mSubHalIndex : BitVec 32) (events : List Event) : Option ProcessedEvents :=
  if events.isEmpty ∨ !mThreadsRun then none
  else some (processEvents subscripts mSensors mSubHalIndex events)

/-! ## What `processEvents` computes -/

/-- The loop does not drop this tagged event. -/
def passesFilter (mSensors : SensorMap) (event : Event) : Bool :=
  (mSensors.lookup event.sensorHandle).type ≠ SensorType.pickUpGesture ||
    event.scalar = floatOne

@[simp] theorem lookup_getSensorInfo (subscripts : Bool) (mSensors : SensorMap)
    (handle key : SensorHandle) :
    SensorMap.lookup (getSensorInfo subscripts mSensors handle).2 key =
      mSensors.lookup key := by
  cases subscripts <;> simp [getSensorInfo]

theorem tagEvent_int32OfSize (index : ℕ) :
    tagEvent (int32OfSize index) = fun event =>
      { event with
        sensorHandle := Sensors.setSubHalIndex event.sensorHandle index } := by
  funext event
  simp only [tagEvent, setSubHalIndex, Sensors.setSubHalIndex, int32OfSize_sizeOfInt32]

theorem processEvent_spec (subscripts : Bool) (mSubHalIndex : BitVec 32)
    (state : ProcessedEvents) (event : Event) :
    let tagged := tagEvent mSubHalIndex event
    let kept := [tagged].filter (passesFilter state.mSensors)
    let next := processEvent subscripts mSubHalIndex state event
    next.eventsOut = state.eventsOut ++ kept ∧
      next.numWakeupEvents =
        state.numWakeupEvents + kept.countP (isStaticWakeUp state.mSensors) ∧
      next.mSensors =
        (getSensorInfo subscripts state.mSensors tagged.sensorHandle).2 := by
  dsimp only
  unfold processEvent
  by_cases hdrop :
      (state.mSensors.lookup (tagEvent mSubHalIndex event).sensorHandle).type =
        SensorType.pickUpGesture ∧ (tagEvent mSubHalIndex event).scalar ≠ floatOne
  · have hfilter : passesFilter state.mSensors (tagEvent mSubHalIndex event) = false := by
      simp [passesFilter, hdrop.1, hdrop.2]
    simp [getSensorInfo, hdrop, hfilter]
  · have hfilter : passesFilter state.mSensors (tagEvent mSubHalIndex event) = true := by
      rw [not_and_or, not_not] at hdrop
      simpa [passesFilter] using hdrop
    simp only [getSensorInfo, hdrop, if_false, List.filter_cons, hfilter, if_true,
      List.filter_nil, true_and, and_true, List.countP_singleton]
    rfl

theorem foldl_processEvent (subscripts : Bool) (mSubHalIndex : BitVec 32)
    (events : List Event) (state : ProcessedEvents) :
    let final := events.foldl (processEvent subscripts mSubHalIndex) state
    let kept := (events.map (tagEvent mSubHalIndex)).filter (passesFilter state.mSensors)
    final.eventsOut = state.eventsOut ++ kept ∧
      final.numWakeupEvents =
        state.numWakeupEvents + kept.countP (isStaticWakeUp state.mSensors) ∧
      final.mSensors =
        if subscripts then
          state.mSensors.subscriptAll
            (events.map fun event => (tagEvent mSubHalIndex event).sensorHandle)
        else state.mSensors := by
  induction events generalizing state with
  | nil => cases subscripts <;> simp
  | cons event rest ih =>
      obtain ⟨hout, hcount, hmap⟩ := processEvent_spec subscripts mSubHalIndex state event
      obtain ⟨hrestOut, hrestCount, hrestMap⟩ :=
        ih (processEvent subscripts mSubHalIndex state event)
      -- later iterations see the same sensors, whatever the subscripts inserted
      have hlookup : ∀ key,
          (processEvent subscripts mSubHalIndex state event).mSensors.lookup key =
            state.mSensors.lookup key := by
        intro key
        rw [hmap, lookup_getSensorInfo]
      have hpasses : passesFilter (processEvent subscripts mSubHalIndex state event).mSensors =
          passesFilter state.mSensors := by
        funext other
        simp only [passesFilter, hlookup]
      have hwake : isStaticWakeUp (processEvent subscripts mSubHalIndex state event).mSensors =
          isStaticWakeUp state.mSensors := by
        funext other
        simp only [isStaticWakeUp, hlookup]
      have hsplit : ((event :: rest).map (tagEvent mSubHalIndex)).filter
            (passesFilter state.mSensors) =
          [tagEvent mSubHalIndex event].filter (passesFilter state.mSensors) ++
            (rest.map (tagEvent mSubHalIndex)).filter (passesFilter state.mSensors) := by
        rw [← List.filter_append]
        rfl
      rw [hpasses] at hrestOut hrestCount
      rw [hwake] at hrestCount
      dsimp only
      rw [List.foldl_cons, hsplit]
      refine ⟨?_, ?_, ?_⟩
      · rw [hrestOut, hout, List.append_assoc]
      · rw [hrestCount, hcount, List.countP_append, Nat.add_assoc]
      · rw [hrestMap, hmap]
        cases subscripts <;> rfl

section Spec

variable (subscripts : Bool) (mSensors : SensorMap) (mSubHalIndex : BitVec 32)
  (events : List Event)

theorem eventsOut_processEvents :
    (processEvents subscripts mSensors mSubHalIndex events).eventsOut =
      (events.map (tagEvent mSubHalIndex)).filter (passesFilter mSensors) :=
  (foldl_processEvent subscripts mSubHalIndex events
    { mSensors := mSensors, numWakeupEvents := 0, eventsOut := [] }).1

theorem numWakeupEvents_processEvents :
    (processEvents subscripts mSensors mSubHalIndex events).numWakeupEvents =
      (processEvents subscripts mSensors mSubHalIndex events).eventsOut.countP
        (isStaticWakeUp mSensors) := by
  rw [eventsOut_processEvents]
  have hcount := (foldl_processEvent subscripts mSubHalIndex events
    { mSensors := mSensors, numWakeupEvents := 0, eventsOut := [] }).2.1
  simpa [processEvents] using hcount

def processedHandles : List SensorHandle :=
  if subscripts then events.map fun event => (tagEvent mSubHalIndex event).sensorHandle
  else []

theorem mSensors_processEvents :
    (processEvents subscripts mSensors mSubHalIndex events).mSensors =
      mSensors.subscriptAll (processedHandles subscripts mSubHalIndex events) := by
  have hmap := (foldl_processEvent subscripts mSubHalIndex events
    { mSensors := mSensors, numWakeupEvents := 0, eventsOut := [] }).2.2
  unfold processEvents processedHandles
  rw [hmap]
  cases subscripts <;> rfl

end Spec

end HalProxyCallback

end Camellia.Sensors

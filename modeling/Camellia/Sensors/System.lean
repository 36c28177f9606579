import Camellia.Sensors.HalProxy
import Camellia.Transition

/-!
# The threads around the proxy

The proxy is shared by a binder thread, its two own threads, the framework and
any number of sub-HAL threads.  An action is one stretch that a thread executes
while it holds the mutex guarding what it touches, so a list of actions is an
interleaving.  Everything the threads do not control is part of the action: the
batches and wakelocks of sub-HALs, the outcome of writes and reads, the answers
of sub-HALs and each value read from the clock.

`History` is auxiliary: it records what became of posted events and no action
depends on it.
-/

namespace Camellia.Sensors

/-- A `postEvents` call of a sub-HAL thread that is past `processEvents`.  It owns
the scoped wakelock, which is destroyed when the call returns. -/
structure PostCall where
  events : List Event
  numWakeupEvents : ℕ
  wakelock : ScopedWakelock
  returned : Bool
deriving DecidableEq

inductive WakelockThread where
  | stopped
  | waiting
  | reading (timeLeft : ℤ)
deriving DecidableEq

inductive Phase where
  | serving
  | stopping
  | starting (result : Result)
deriving DecidableEq

/-- What became of the events posted since the last initialization: all of them in
the order their calls held the mutex, those discarded for lack of room, those in
chunks whose write failed, and the full batch of each pending one. -/
structure History where
  posted : List Event
  discarded : List Event
  failed : List Event
  origins : List (List Event)

def History.initial : History where
  posted := []
  discarded := []
  failed := []
  origins := []

structure System where
  proxy : HalProxy
  phase : Phase
  pendingWritesThread : PendingWritesThread
  wakelockThread : WakelockThread
  wakelocks : List ScopedWakelock
  posts : List PostCall
  subHalModes : List OperationMode
  history : History

inductive Action where
  -- sub-HAL threads
  | createScopedWakelock (lock : Bool) (timeNow : ℤ)
  | destroyScopedWakelock (index : ℕ)
  | postEvents (mSubHalIndex : BitVec 32) (index : ℕ) (events : List Event)
  | postEventsToMessageQueue (index : ℕ) (writeOk : Bool) (timeNow : ℤ)
  | returnFromPostEvents (index : ℕ)
  | onDynamicSensorsConnected (sensors : List SensorInfo) (subHalIndex : BitVec 32)
  | onDynamicSensorsDisconnected (handles : List SensorHandle) (subHalIndex : BitVec 32)
  -- the pending-writes thread
  | pickPendingWrite
  | writeBlocking (success : Bool)
  | finishPendingWrite
  | exitPendingWrites
  -- the wakelock thread
  | checkWakelock (timeNow resetTime : ℤ)
  | readWakeLockQueue (value : Option (BitVec 32))
  | exitWakelocks (timeNow : ℤ)
  -- the framework, reading events
  | readEvents (count : ℕ)
  -- the binder thread
  | setOperationMode (mode : OperationMode) (outcome : ℕ → Result)
  | stopThreads
  | initializeCommon (args : HalProxy.InitializeArgs) (timeNow : ℤ)
  | initializeSubHals (outcome : ℕ → Result)

def Action.isInitializeCommon : Action → Bool
  | .initializeCommon _ _ => true
  | _ => false

def Action.clockReadings : Action → List ℤ
  | .createScopedWakelock _ timeNow => [timeNow]
  | .postEventsToMessageQueue _ _ timeNow => [timeNow]
  | .checkWakelock timeNow resetTime => [timeNow, resetTime]
  | .exitWakelocks timeNow => [timeNow]
  | .initializeCommon _ timeNow => [timeNow]
  | _ => []

namespace System

def construct (subHals : SubHalList) : System where
  proxy := .construct subHals
  phase := .serving
  pendingWritesThread := .stopped
  wakelockThread := .stopped
  wakelocks := []
  posts := []
  subHalModes := List.replicate subHals.size .normal
  history := .initial

def withWakelock (system : System) (op : WakelockOp) : System :=
  { system with
    proxy := { system.proxy with
      wakelock := system.proxy.wakelock.apply system.proxy.mThreadsRun op } }

def postEvents (header : HalProxyHeader) (system : System) (mSubHalIndex : BitVec 32)
    (index : ℕ) (wakelock : ScopedWakelock) (events : List Event) : System :=
  match HalProxyCallback.postEvents header.getSensorInfoSubscripts system.proxy.mThreadsRun
      system.proxy.mSensors mSubHalIndex events with
  | none =>
      { system with
        wakelocks := system.wakelocks.eraseIdx index
        posts := system.posts ++
          [{ events := [], numWakeupEvents := 0, wakelock := wakelock, returned := true }] }
  | some processed =>
      { system with
        proxy := { system.proxy with mSensors := processed.mSensors }
        wakelocks := system.wakelocks.eraseIdx index
        posts := system.posts ++ [{
          events := processed.eventsOut
          numWakeupEvents := processed.numWakeupEvents
          wakelock := wakelock
          returned := false }] }

def recordPost (header : HalProxyHeader) (system : System) (queue : MessageQueue Event)
    (events : List Event) (writeOk : Bool) : History :=
  let outcome := system.proxy.eventPath.postOutcome header.kMaxSizePendingWriteEventsQueue
    queue events writeOk
  { system.history with
    posted := system.history.posted ++ events
    discarded := system.history.discarded ++ outcome.discarded events
    origins :=
      if outcome.stored then system.history.origins ++ [events]
      else system.history.origins }

def postEventsToMessageQueue (header : HalProxyHeader) (system : System) (index : ℕ)
    (writeOk : Bool) (timeNow : ℤ) : Option System :=
  match system.posts[index]?, system.proxy.eventPath.mEventQueue with
  | some post, some queue =>
      if post.returned then none
      else
        (system.proxy.postEventsToMessageQueue header post.events post.numWakeupEvents
          post.wakelock writeOk timeNow).map fun proxy =>
            { system with
              proxy := proxy
              posts := system.posts.set index { post with returned := true }
              history := system.recordPost header queue post.events writeOk }
  | _, _ => none

def dropOp (system : System) (locals : PendingWrite) : WakelockOp :=
  match system.proxy.eventPath.droppedWakeups system.proxy.mSensors locals with
  | some delta => .decrement delta Wakelock.noTimeoutStart
  | none => .keep

def acknowledgeOp : Option (BitVec 32) → WakelockOp
  | some numWakeLocksProcessed =>
      .decrement numWakeLocksProcessed.toNat Wakelock.noTimeoutStart
  | none => .keep

def writeBlocking (system : System) (success : Bool) : Option System :=
  match system.pendingWritesThread with
  | .writing locals =>
      let path := system.proxy.eventPath
      if success then
        path.mEventQueue.bind fun queue =>
          (queue.write (path.chunk locals)).map fun queue =>
            { system with
              proxy := { system.proxy with
                eventPath := { path with mEventQueue := some queue } }
              pendingWritesThread := .written locals }
      else
        some { system with
          proxy := { system.proxy with
            mSensors := system.proxy.mSensors.subscriptAll (path.droppedSubscripts locals)
            wakelock := system.proxy.wakelock.apply system.proxy.mThreadsRun
              (system.dropOp locals) }
          pendingWritesThread := .written locals
          history := { system.history with
            failed := system.history.failed ++ path.chunk locals } }
  | _ => none

def finishPendingWrite (system : System) : Option System :=
  match system.pendingWritesThread with
  | .written locals =>
      some { system with
        proxy := { system.proxy with
          eventPath := system.proxy.eventPath.finishPendingWrite locals }
        pendingWritesThread := .waiting
        history := { system.history with
          origins :=
            if system.proxy.eventPath.frontEvents.length > locals.eventQueueSize then
              system.history.origins
            else system.history.origins.tail } }
  | _ => none

/-- One iteration of `handleWakelocks` up to the point where it sleeps. -/
def checkWakelock (header : HalProxyHeader) (system : System) (timeNow resetTime : ℤ) :
    Option System :=
  if system.wakelockThread = .waiting ∧ system.proxy.mThreadsRun ∧
      0 < system.proxy.wakelock.mWakelockRefCount then
    match system.proxy.wakelock.sharedWakelockDidTimeout header.kWakelockTimeoutNs timeNow with
    | none => some (system.withWakelock (.reset resetTime))
    | some timeLeft => some { system with wakelockThread := .reading timeLeft }
  else none

/-- `readBlocking` returns, with a value when it succeeded. -/
def readWakeLockQueue (system : System) (value : Option (BitVec 32)) : Option System :=
  match system.wakelockThread with
  | .reading _ =>
      some { system.withWakelock (acknowledgeOp value) with wakelockThread := .waiting }
  | _ => none

def withModes (system : System) (state : ModeState) : System :=
  { system with
    proxy := { system.proxy with mCurrentOperationMode := state.mCurrentOperationMode }
    subHalModes := state.subHalModes }

def step (header : HalProxyHeader) (system : System) : Action → Option System
  | .createScopedWakelock lock timeNow =>
      some { system.withWakelock (ScopedWakelock.constructOp lock timeNow) with
        wakelocks := system.wakelocks ++
          [ScopedWakelock.construct system.proxy.mThreadsRun lock timeNow] }
  | .destroyScopedWakelock index =>
      system.wakelocks[index]?.map fun wakelock =>
        { system.withWakelock wakelock.destroyOp with
          wakelocks := system.wakelocks.eraseIdx index }
  | .postEvents mSubHalIndex index events =>
      system.wakelocks[index]?.map fun wakelock =>
        system.postEvents header mSubHalIndex index wakelock events
  | .postEventsToMessageQueue index writeOk timeNow =>
      system.postEventsToMessageQueue header index writeOk timeNow
  | .returnFromPostEvents index =>
      system.posts[index]?.bind fun post =>
        if post.returned then
          some { system.withWakelock post.wakelock.destroyOp with
            posts := system.posts.eraseIdx index }
        else none
  | .onDynamicSensorsConnected sensors subHalIndex =>
      some { system with
        proxy := { system.proxy with
          mDynamicSensors := (HalProxy.onDynamicSensorsConnected
            system.proxy.mDynamicSensors sensors subHalIndex).1 } }
  | .onDynamicSensorsDisconnected handles subHalIndex =>
      some { system with
        proxy := { system.proxy with
          mDynamicSensors := (HalProxy.onDynamicSensorsDisconnected
            system.proxy.mDynamicSensors handles subHalIndex).1 } }
  | .pickPendingWrite =>
      if system.pendingWritesThread = .waiting ∧ system.proxy.mThreadsRun then
        system.proxy.eventPath.pickPendingWrite.map fun locals =>
          { system with pendingWritesThread := .writing locals }
      else none
  | .writeBlocking success => system.writeBlocking success
  | .finishPendingWrite => system.finishPendingWrite
  | .exitPendingWrites =>
      if system.pendingWritesThread = .waiting ∧ !system.proxy.mThreadsRun then
        some { system with pendingWritesThread := .stopped }
      else none
  | .checkWakelock timeNow resetTime => system.checkWakelock header timeNow resetTime
  | .readWakeLockQueue value => system.readWakeLockQueue value
  | .exitWakelocks timeNow =>
      if system.wakelockThread = .waiting ∧ !system.proxy.mThreadsRun then
        some { system.withWakelock (.reset timeNow) with wakelockThread := .stopped }
      else none
  | .readEvents count =>
      system.proxy.eventPath.mEventQueue.bind fun queue =>
        (queue.read count).map fun queue =>
          { system with
            proxy := { system.proxy with
              eventPath := { system.proxy.eventPath with mEventQueue := some queue } } }
  | .setOperationMode mode outcome =>
      if system.phase = .serving then
        some (system.withModes (Sensors.setOperationMode system.proxy.mCurrentOperationMode
          system.subHalModes mode outcome))
      else none
  | .stopThreads =>
      if system.phase = .serving then
        some { system with proxy := system.proxy.stopThreads, phase := .stopping }
      else none
  | .initializeCommon args timeNow =>
      if system.phase = .stopping ∧ system.pendingWritesThread = .stopped ∧
          system.wakelockThread = .stopped then
        let (proxy, result) := system.proxy.initializeCommon args timeNow
        some { system with
          proxy := proxy
          phase := .starting result
          pendingWritesThread := .waiting
          wakelockThread := .waiting
          history := .initial }
      else none
  | .initializeSubHals outcome =>
      match system.phase with
      | .starting result =>
          some { system.withModes (Sensors.initializeSubHals system.subHalModes outcome result)
            with phase := .serving }
      | _ => none

/-! ## A small system to replay runs on -/

def sampleHeader : HalProxyHeader where
  kMaxSizePendingWriteEventsQueue := 4
  kWakelockTimeoutNs := 10
  getSensorInfoSubscripts := true

/-- One sub-HAL with a wake-up sensor, handle `1`, and the vendor pick-up sensor,
handle `2`. -/
def sampleSubHals : SubHalList where
  toList := [{ sensors := [
    { sensorHandle := 1, type := 8, typeAsString := "proximity", maxRange := 0
      flags := SensorFlagBits.wakeUp },
    { sensorHandle := 2, type := 0x10001, typeAsString := "xiaomi pick up sensor"
      maxRange := 0, flags := SensorFlagBits.wakeUp }] }]
  size_lt := by decide

def sampleEvent (sensorHandle : SensorHandle) (timestamp : BitVec 64) : Event where
  sensorHandle := sensorHandle
  sensorType := 8
  timestamp := timestamp
  scalar := 0

def startUp (quantumCount : ℕ) : List Action :=
  [.stopThreads,
    .initializeCommon
      { quantumCount := quantumCount, eventFlagCreated := true, wakelockFlagCreated := true } 0,
    .initializeSubHals fun _ => .ok]

def sampleState (actions : List Action) : System :=
  (Transition.run (step sampleHeader) (construct sampleSubHals) actions).getD
    (construct sampleSubHals)

end System

end Camellia.Sensors

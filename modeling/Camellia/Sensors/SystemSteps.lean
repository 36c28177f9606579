import Camellia.Sensors.System

/-!
# What one step of the system does to each part of it

The first group of lemmas inverts the operations that can fail.  `step_effects`
then says, once for all parts of the state, how any step changes them; invariants
over runs are derived from it and never unfold `step`.
-/

namespace Camellia.Sensors
namespace System

variable {header : HalProxyHeader} {system next : System}

/-! ## Inversion -/

theorem postEventsToMessageQueue_spec {index : ℕ} {writeOk : Bool} {timeNow : ℤ}
    (hstep : system.postEventsToMessageQueue header index writeOk timeNow = some next) :
    ∃ post queue,
      system.posts[index]? = some post ∧ post.returned = false ∧
        system.proxy.eventPath.mEventQueue = some queue ∧
        next = { system with
          proxy := { system.proxy with
            wakelock :=
              if post.wakelock.isLocked then
                (system.proxy.wakelock.incrementRefCountAndMaybeAcquireWakelock
                  system.proxy.mThreadsRun post.numWakeupEvents timeNow).1
              else system.proxy.wakelock
            eventPath := system.proxy.eventPath.post header.kMaxSizePendingWriteEventsQueue
              queue post.events post.numWakeupEvents writeOk }
          posts := system.posts.set index { post with returned := true }
          history := system.recordPost header queue post.events writeOk } := by
  unfold postEventsToMessageQueue at hstep
  split at hstep
  next post queue hpost hqueue =>
    cases hreturned : post.returned with
    | true => simp [hreturned] at hstep
    | false =>
        simp only [hreturned, Bool.false_eq_true, if_false,
          HalProxy.postEventsToMessageQueue, hqueue, Option.map_some,
          Option.some.injEq] at hstep
        exact ⟨post, queue, hpost, hreturned, hqueue, hstep.symm⟩
  next => contradiction

theorem writeBlocking_success_spec (hstep : system.writeBlocking true = some next) :
    ∃ locals queue written,
      system.pendingWritesThread = .writing locals ∧
        system.proxy.eventPath.mEventQueue = some queue ∧
        queue.write (system.proxy.eventPath.chunk locals) = some written ∧
        next = { system with
          proxy := { system.proxy with
            eventPath := { system.proxy.eventPath with mEventQueue := some written } }
          pendingWritesThread := .written locals } := by
  unfold writeBlocking at hstep
  split at hstep
  next locals hthread =>
    simp only [if_true, Option.bind_eq_some_iff, Option.map_eq_some_iff] at hstep
    obtain ⟨queue, hqueue, written, hwrite, hnext⟩ := hstep
    exact ⟨locals, queue, written, hthread, hqueue, hwrite, hnext.symm⟩
  next => contradiction

theorem writeBlocking_failure_spec (hstep : system.writeBlocking false = some next) :
    ∃ locals,
      system.pendingWritesThread = .writing locals ∧
        next = { system with
          proxy := { system.proxy with
            mSensors := system.proxy.mSensors.subscriptAll
              (system.proxy.eventPath.droppedSubscripts locals)
            wakelock := system.proxy.wakelock.apply system.proxy.mThreadsRun
              (system.dropOp locals) }
          pendingWritesThread := .written locals
          history := { system.history with
            failed := system.history.failed ++ system.proxy.eventPath.chunk locals } } := by
  unfold writeBlocking at hstep
  split at hstep
  next locals hthread =>
    simp only [Bool.false_eq_true, if_false, Option.some.injEq] at hstep
    exact ⟨locals, hthread, hstep.symm⟩
  next => contradiction

theorem finishPendingWrite_spec (hstep : system.finishPendingWrite = some next) :
    ∃ locals,
      system.pendingWritesThread = .written locals ∧
        next = { system with
          proxy := { system.proxy with
            eventPath := system.proxy.eventPath.finishPendingWrite locals }
          pendingWritesThread := .waiting
          history := { system.history with
            origins :=
              if system.proxy.eventPath.frontEvents.length > locals.eventQueueSize then
                system.history.origins
              else system.history.origins.tail } } := by
  unfold finishPendingWrite at hstep
  split at hstep
  next locals hthread => exact ⟨locals, hthread, (Option.some.inj hstep).symm⟩
  next => contradiction

theorem checkWakelock_spec {timeNow resetTime : ℤ}
    (hstep : system.checkWakelock header timeNow resetTime = some next) :
    system.wakelockThread = .waiting ∧ system.proxy.mThreadsRun = true ∧
      0 < system.proxy.wakelock.mWakelockRefCount ∧
      next = match system.proxy.wakelock.sharedWakelockDidTimeout
          header.kWakelockTimeoutNs timeNow with
        | none => system.withWakelock (.reset resetTime)
        | some timeLeft => { system with wakelockThread := .reading timeLeft } := by
  unfold checkWakelock at hstep
  split at hstep
  next henabled =>
    refine ⟨henabled.1, henabled.2.1, henabled.2.2, ?_⟩
    cases htime : system.proxy.wakelock.sharedWakelockDidTimeout
        header.kWakelockTimeoutNs timeNow with
    | none =>
        rw [htime] at hstep
        exact (Option.some.inj hstep).symm
    | some timeLeft =>
        rw [htime] at hstep
        exact (Option.some.inj hstep).symm
  next => contradiction

theorem readWakeLockQueue_spec {value : Option (BitVec 32)}
    (hstep : system.readWakeLockQueue value = some next) :
    ∃ timeLeft, system.wakelockThread = .reading timeLeft ∧
      next = { system.withWakelock (acknowledgeOp value) with
        wakelockThread := .waiting } := by
  unfold readWakeLockQueue at hstep
  split at hstep
  next timeLeft hthread => exact ⟨timeLeft, hthread, (Option.some.inj hstep).symm⟩
  next => contradiction

/-! ## Effects -/

def wakelockOp (header : HalProxyHeader) (system : System) : Action → WakelockOp
  | .createScopedWakelock lock timeNow => ScopedWakelock.constructOp lock timeNow
  | .destroyScopedWakelock index =>
      match system.wakelocks[index]? with
      | some wakelock => wakelock.destroyOp
      | none => .keep
  | .postEventsToMessageQueue index _ timeNow =>
      match system.posts[index]? with
      | some post =>
          if post.wakelock.isLocked then .increment post.numWakeupEvents timeNow else .keep
      | none => .keep
  | .returnFromPostEvents index =>
      match system.posts[index]? with
      | some post => post.wakelock.destroyOp
      | none => .keep
  | .writeBlocking false =>
      match system.pendingWritesThread with
      | .writing locals => system.dropOp locals
      | _ => .keep
  | .checkWakelock timeNow resetTime =>
      match system.proxy.wakelock.sharedWakelockDidTimeout header.kWakelockTimeoutNs
          timeNow with
      | none => .reset resetTime
      | some _ => .keep
  | .readWakeLockQueue value => acknowledgeOp value
  | .exitWakelocks timeNow => .reset timeNow
  | .initializeCommon _ timeNow => .reset timeNow
  | _ => .keep

/-- The handles an action subscripts `mSensors` with. -/
def subscripted (header : HalProxyHeader) (system : System) : Action → List SensorHandle
  | .postEvents mSubHalIndex _ events =>
      if events.isEmpty ∨ !system.proxy.mThreadsRun then []
      else
        HalProxyCallback.processedHandles header.getSensorInfoSubscripts mSubHalIndex events
  | .writeBlocking false =>
      match system.pendingWritesThread with
      | .writing locals => system.proxy.eventPath.droppedSubscripts locals
      | _ => []
  | _ => []

def controlAfter (system : System) : Action → Phase × Bool
  | .stopThreads => (.stopping, false)
  | .initializeCommon args timeNow =>
      (.starting (system.proxy.initializeCommon args timeNow).2, true)
  | .initializeSubHals _ => (.serving, system.proxy.mThreadsRun)
  | _ => (system.phase, system.proxy.mThreadsRun)

def modesAfter (system : System) : Action → OperationMode × List OperationMode
  | .setOperationMode mode outcome =>
      let state := Sensors.setOperationMode system.proxy.mCurrentOperationMode
        system.subHalModes mode outcome
      (state.mCurrentOperationMode, state.subHalModes)
  | .initializeSubHals outcome =>
      let state := Sensors.initializeSubHals system.subHalModes outcome .ok
      (state.mCurrentOperationMode, state.subHalModes)
  | _ => (system.proxy.mCurrentOperationMode, system.subHalModes)

def postsAfter (header : HalProxyHeader) (system : System) : Action → List PostCall
  | .postEvents mSubHalIndex index events =>
      match system.wakelocks[index]? with
      | some wakelock => (system.postEvents header mSubHalIndex index wakelock events).posts
      | none => system.posts
  | .postEventsToMessageQueue index _ _ =>
      match system.posts[index]? with
      | some post => system.posts.set index { post with returned := true }
      | none => system.posts
  | .returnFromPostEvents index => system.posts.eraseIdx index
  | _ => system.posts

/-- The event path, the pending-writes thread and the history after a step.  These
are all the ways a step can change them. -/
inductive EventPathStep (header : HalProxyHeader) (system : System) :
    EventPath → PendingWritesThread → History → Prop where
  | keep : EventPathStep header system system.proxy.eventPath system.pendingWritesThread
      system.history
  | post (call : PostCall) (queue : MessageQueue Event) (writeOk : Bool)
      (hcall : call ∈ system.posts)
      (hqueue : system.proxy.eventPath.mEventQueue = some queue) :
      EventPathStep header system
        (system.proxy.eventPath.post header.kMaxSizePendingWriteEventsQueue queue
          call.events call.numWakeupEvents writeOk)
        system.pendingWritesThread
        (system.recordPost header queue call.events writeOk)
  | pick (locals : PendingWrite) (hthread : system.pendingWritesThread = .waiting)
      (hpick : system.proxy.eventPath.pickPendingWrite = some locals) :
      EventPathStep header system system.proxy.eventPath (.writing locals) system.history
  | write (locals : PendingWrite) (queue written : MessageQueue Event)
      (hthread : system.pendingWritesThread = .writing locals)
      (hqueue : system.proxy.eventPath.mEventQueue = some queue)
      (hwrite : queue.write (system.proxy.eventPath.chunk locals) = some written) :
      EventPathStep header system
        { system.proxy.eventPath with mEventQueue := some written } (.written locals)
        system.history
  | drop (locals : PendingWrite)
      (hthread : system.pendingWritesThread = .writing locals) :
      EventPathStep header system system.proxy.eventPath (.written locals)
        { system.history with
          failed := system.history.failed ++ system.proxy.eventPath.chunk locals }
  | finish (locals : PendingWrite)
      (hthread : system.pendingWritesThread = .written locals) :
      EventPathStep header system (system.proxy.eventPath.finishPendingWrite locals) .waiting
        { system.history with
          origins :=
            if system.proxy.eventPath.frontEvents.length > locals.eventQueueSize then
              system.history.origins
            else system.history.origins.tail }
  | exit (hthread : system.pendingWritesThread = .waiting) :
      EventPathStep header system system.proxy.eventPath .stopped system.history
  | read (queue : Option (MessageQueue Event))
      (hwritten : queue.map MessageQueue.written =
        system.proxy.eventPath.mEventQueue.map MessageQueue.written) :
      EventPathStep header system { system.proxy.eventPath with mEventQueue := queue }
        system.pendingWritesThread system.history
  | restart (quantumCount : ℕ) (hthread : system.pendingWritesThread = .stopped) :
      EventPathStep header system
        { system.proxy.eventPath with
          mPendingWriteEventsQueue := []
          mSizePendingWriteEventsQueue := 0
          mEventQueue := some (MessageQueue.empty quantumCount) }
        .waiting .initial

/-- How an action changes each part of the state. -/
structure StepEffects (header : HalProxyHeader) (system : System) (action : Action)
    (next : System) : Prop where
  wakelock : next.proxy.wakelock =
    system.proxy.wakelock.apply system.proxy.mThreadsRun (wakelockOp header system action)
  mSensors : next.proxy.mSensors =
    system.proxy.mSensors.subscriptAll (subscripted header system action)
  control : (next.phase, next.proxy.mThreadsRun) = controlAfter system action
  modes : (next.proxy.mCurrentOperationMode, next.subHalModes) = modesAfter system action
  posts : next.posts = postsAfter header system action
  mSubHalList : next.proxy.mSubHalList = system.proxy.mSubHalList
  eventPath : EventPathStep header system next.proxy.eventPath next.pendingWritesThread
    next.history

theorem postEvents_effects {mSubHalIndex : BitVec 32} {index : ℕ}
    {wakelock : ScopedWakelock} {events : List Event}
    (hwakelock : system.wakelocks[index]? = some wakelock) :
    StepEffects header system (.postEvents mSubHalIndex index events)
      (system.postEvents header mSubHalIndex index wakelock events) := by
  have hposts : (system.postEvents header mSubHalIndex index wakelock events).posts =
      postsAfter header system (.postEvents mSubHalIndex index events) := by
    simp only [postsAfter, hwakelock]
  unfold postEvents HalProxyCallback.postEvents at hposts ⊢
  by_cases hearly : events.isEmpty ∨ !system.proxy.mThreadsRun
  · simp only [hearly, if_true] at hposts ⊢
    refine ⟨rfl, ?_, rfl, rfl, hposts, rfl, .keep⟩
    simp only [subscripted, hearly, if_true, SensorMap.subscriptAll_nil]
  · simp only [hearly, if_false] at hposts ⊢
    refine ⟨rfl, ?_, rfl, rfl, hposts, rfl, .keep⟩
    simp only [subscripted, hearly, if_false]
    exact HalProxyCallback.mSensors_processEvents header.getSensorInfoSubscripts
      system.proxy.mSensors mSubHalIndex events

theorem stopThreads_written (proxy : HalProxy) :
    proxy.stopThreads.eventPath.mEventQueue.map MessageQueue.written =
      proxy.eventPath.mEventQueue.map MessageQueue.written := by
  unfold HalProxy.stopThreads
  split
  · cases proxy.eventPath.mEventQueue with
    | none => rfl
    | some queue => simp only [Option.map_some, MessageQueue.read_getD_written]
  · rfl

theorem step_effects {action : Action} (hstep : step header system action = some next) :
    StepEffects header system action next := by
  cases action with
  | createScopedWakelock lock timeNow =>
      rw [step, Option.some.injEq] at hstep
      subst next
      exact ⟨rfl, rfl, rfl, rfl, rfl, rfl, .keep⟩
  | destroyScopedWakelock index =>
      rw [step, Option.map_eq_some_iff] at hstep
      obtain ⟨wakelock, hwakelock, rfl⟩ := hstep
      refine ⟨?_, rfl, rfl, rfl, rfl, rfl, .keep⟩
      simp only [wakelockOp, hwakelock]
      rfl
  | postEvents mSubHalIndex index events =>
      rw [step, Option.map_eq_some_iff] at hstep
      obtain ⟨wakelock, hwakelock, rfl⟩ := hstep
      exact postEvents_effects hwakelock
  | postEventsToMessageQueue index writeOk timeNow =>
      obtain ⟨post, queue, hpost, _, hqueue, rfl⟩ := postEventsToMessageQueue_spec hstep
      refine ⟨?_, rfl, rfl, rfl, ?_, rfl,
        .post post queue writeOk (List.mem_of_getElem? hpost) hqueue⟩
      · simp only [wakelockOp, hpost]
        cases post.wakelock.isLocked <;> rfl
      · simp only [postsAfter, hpost]
  | returnFromPostEvents index =>
      rw [step, Option.bind_eq_some_iff] at hstep
      obtain ⟨post, hpost, hstep⟩ := hstep
      split at hstep
      next =>
        rw [Option.some.injEq] at hstep
        subst next
        refine ⟨?_, rfl, rfl, rfl, rfl, rfl, .keep⟩
        simp only [wakelockOp, hpost]
        rfl
      next => contradiction
  | onDynamicSensorsConnected sensors subHalIndex =>
      rw [step, Option.some.injEq] at hstep
      subst next
      exact ⟨rfl, rfl, rfl, rfl, rfl, rfl, .keep⟩
  | onDynamicSensorsDisconnected handles subHalIndex =>
      rw [step, Option.some.injEq] at hstep
      subst next
      exact ⟨rfl, rfl, rfl, rfl, rfl, rfl, .keep⟩
  | pickPendingWrite =>
      simp only [step, Option.ite_none_right_eq_some, Option.map_eq_some_iff] at hstep
      obtain ⟨hwaiting, locals, hpick, rfl⟩ := hstep
      exact ⟨rfl, rfl, rfl, rfl, rfl, rfl, .pick locals hwaiting.1 hpick⟩
  | writeBlocking success =>
      cases success with
      | true =>
          obtain ⟨locals, queue, written, hthread, hqueue, hwrite, rfl⟩ :=
            writeBlocking_success_spec hstep
          exact ⟨rfl, rfl, rfl, rfl, rfl, rfl,
            .write locals queue written hthread hqueue hwrite⟩
      | false =>
          obtain ⟨locals, hthread, rfl⟩ := writeBlocking_failure_spec hstep
          refine ⟨?_, ?_, rfl, rfl, rfl, rfl, .drop locals hthread⟩
          · simp only [wakelockOp, hthread]
          · simp only [subscripted, hthread]
  | finishPendingWrite =>
      obtain ⟨locals, hthread, rfl⟩ := finishPendingWrite_spec hstep
      exact ⟨rfl, rfl, rfl, rfl, rfl, rfl, .finish locals hthread⟩
  | exitPendingWrites =>
      simp only [step, Option.ite_none_right_eq_some, Option.some.injEq] at hstep
      obtain ⟨hstopped, rfl⟩ := hstep
      exact ⟨rfl, rfl, rfl, rfl, rfl, rfl, .exit hstopped.1⟩
  | checkWakelock timeNow resetTime =>
      obtain ⟨_, _, _, hnext⟩ := checkWakelock_spec hstep
      cases htime : system.proxy.wakelock.sharedWakelockDidTimeout
          header.kWakelockTimeoutNs timeNow with
      | none =>
          rw [htime] at hnext
          subst next
          refine ⟨?_, rfl, rfl, rfl, rfl, rfl, .keep⟩
          simp only [wakelockOp, htime]
          rfl
      | some timeLeft =>
          rw [htime] at hnext
          subst next
          refine ⟨?_, rfl, rfl, rfl, rfl, rfl, .keep⟩
          simp only [wakelockOp, htime]
          rfl
  | readWakeLockQueue value =>
      obtain ⟨timeLeft, _, rfl⟩ := readWakeLockQueue_spec hstep
      exact ⟨rfl, rfl, rfl, rfl, rfl, rfl, .keep⟩
  | exitWakelocks timeNow =>
      simp only [step, Option.ite_none_right_eq_some, Option.some.injEq] at hstep
      obtain ⟨_, rfl⟩ := hstep
      exact ⟨rfl, rfl, rfl, rfl, rfl, rfl, .keep⟩
  | readEvents count =>
      simp only [step, Option.bind_eq_some_iff, Option.map_eq_some_iff] at hstep
      obtain ⟨queue, hqueue, read, hread, rfl⟩ := hstep
      refine ⟨rfl, rfl, rfl, rfl, rfl, rfl, .read (some read) ?_⟩
      rw [hqueue, Option.map_some, Option.map_some, (MessageQueue.read_spec hread).1]
  | setOperationMode mode outcome =>
      simp only [step, Option.ite_none_right_eq_some, Option.some.injEq] at hstep
      obtain ⟨_, rfl⟩ := hstep
      exact ⟨rfl, rfl, rfl, rfl, rfl, rfl, .keep⟩
  | stopThreads =>
      simp only [step, Option.ite_none_right_eq_some, Option.some.injEq] at hstep
      obtain ⟨_, rfl⟩ := hstep
      exact ⟨rfl, rfl, rfl, rfl, rfl, rfl, .read _ (stopThreads_written system.proxy)⟩
  | initializeCommon args timeNow =>
      simp only [step, Option.ite_none_right_eq_some, Option.some.injEq] at hstep
      obtain ⟨⟨_, hthread, _⟩, rfl⟩ := hstep
      exact ⟨rfl, rfl, rfl, rfl, rfl, rfl, .restart args.quantumCount hthread⟩
  | initializeSubHals outcome =>
      rw [step] at hstep
      split at hstep
      next result _ =>
        rw [Option.some.injEq] at hstep
        subst next
        exact ⟨rfl, rfl, rfl, rfl, rfl, rfl, .keep⟩
      next => contradiction

/-! ## The wakelock thread and the event flag -/

def wakelockThreadAfter (header : HalProxyHeader) (system : System) : Action → WakelockThread
  | .checkWakelock timeNow _ =>
      match system.proxy.wakelock.sharedWakelockDidTimeout header.kWakelockTimeoutNs
          timeNow with
      | none => system.wakelockThread
      | some timeLeft => .reading timeLeft
  | .readWakeLockQueue _ => .waiting
  | .exitWakelocks _ => .stopped
  | .initializeCommon _ _ => .waiting
  | _ => system.wakelockThread

def eventQueueFlagAfter (system : System) : Action → Bool
  | .initializeCommon args _ => args.eventFlagCreated
  | _ => system.proxy.mEventQueueFlag

structure ServiceEffects (header : HalProxyHeader) (system : System) (action : Action)
    (next : System) : Prop where
  wakelockThread : next.wakelockThread = wakelockThreadAfter header system action
  mEventQueueFlag : next.proxy.mEventQueueFlag = eventQueueFlagAfter system action
  mEventQueue : next.proxy.eventPath.mEventQueue.isSome =
    (system.proxy.eventPath.mEventQueue.isSome || action.isInitializeCommon)

theorem service_effects {action : Action} (hstep : step header system action = some next) :
    ServiceEffects header system action next := by
  have hsame (queue : Option (MessageQueue Event)) :
      queue.isSome = (queue.isSome || false) := (Bool.or_false _).symm
  cases action with
  | createScopedWakelock lock timeNow =>
      rw [step, Option.some.injEq] at hstep
      exact hstep ▸ ⟨rfl, rfl, hsame _⟩
  | destroyScopedWakelock index =>
      rw [step, Option.map_eq_some_iff] at hstep
      obtain ⟨wakelock, _, rfl⟩ := hstep
      exact ⟨rfl, rfl, hsame _⟩
  | postEvents mSubHalIndex index events =>
      rw [step, Option.map_eq_some_iff] at hstep
      obtain ⟨wakelock, _, rfl⟩ := hstep
      unfold postEvents
      split <;> exact ⟨rfl, rfl, hsame _⟩
  | postEventsToMessageQueue index writeOk timeNow =>
      obtain ⟨post, queue, _, _, hqueue, rfl⟩ := postEventsToMessageQueue_spec hstep
      have hposted := (system.proxy.eventPath.post_spec
        header.kMaxSizePendingWriteEventsQueue queue post.events post.numWakeupEvents
        writeOk).1
      refine ⟨rfl, rfl, ?_⟩
      dsimp only
      rw [hposted, hqueue]
      rfl
  | returnFromPostEvents index =>
      rw [step, Option.bind_eq_some_iff] at hstep
      obtain ⟨post, _, hstep⟩ := hstep
      rw [Option.ite_none_right_eq_some, Option.some.injEq] at hstep
      exact hstep.2 ▸ ⟨rfl, rfl, hsame _⟩
  | onDynamicSensorsConnected sensors subHalIndex =>
      rw [step, Option.some.injEq] at hstep
      exact hstep ▸ ⟨rfl, rfl, hsame _⟩
  | onDynamicSensorsDisconnected handles subHalIndex =>
      rw [step, Option.some.injEq] at hstep
      exact hstep ▸ ⟨rfl, rfl, hsame _⟩
  | pickPendingWrite =>
      simp only [step, Option.ite_none_right_eq_some, Option.map_eq_some_iff] at hstep
      obtain ⟨_, locals, _, rfl⟩ := hstep
      exact ⟨rfl, rfl, hsame _⟩
  | writeBlocking success =>
      cases success with
      | true =>
          obtain ⟨locals, queue, written, _, hqueue, _, rfl⟩ :=
            writeBlocking_success_spec hstep
          refine ⟨rfl, rfl, ?_⟩
          rw [hqueue]
          rfl
      | false =>
          obtain ⟨locals, _, rfl⟩ := writeBlocking_failure_spec hstep
          exact ⟨rfl, rfl, hsame _⟩
  | finishPendingWrite =>
      obtain ⟨locals, _, rfl⟩ := finishPendingWrite_spec hstep
      refine ⟨rfl, rfl, ?_⟩
      unfold EventPath.finishPendingWrite
      split <;> exact hsame _
  | exitPendingWrites =>
      simp only [step, Option.ite_none_right_eq_some, Option.some.injEq] at hstep
      exact hstep.2 ▸ ⟨rfl, rfl, hsame _⟩
  | checkWakelock timeNow resetTime =>
      obtain ⟨_, _, _, hnext⟩ := checkWakelock_spec hstep
      cases htime : system.proxy.wakelock.sharedWakelockDidTimeout
          header.kWakelockTimeoutNs timeNow with
      | none =>
          rw [htime] at hnext
          subst next
          refine ⟨?_, rfl, hsame _⟩
          simp only [wakelockThreadAfter, htime]
          rfl
      | some timeLeft =>
          rw [htime] at hnext
          subst next
          refine ⟨?_, rfl, hsame _⟩
          simp only [wakelockThreadAfter, htime]
  | readWakeLockQueue value =>
      obtain ⟨timeLeft, _, rfl⟩ := readWakeLockQueue_spec hstep
      exact ⟨rfl, rfl, hsame _⟩
  | exitWakelocks timeNow =>
      simp only [step, Option.ite_none_right_eq_some, Option.some.injEq] at hstep
      exact hstep.2 ▸ ⟨rfl, rfl, hsame _⟩
  | readEvents count =>
      simp only [step, Option.bind_eq_some_iff, Option.map_eq_some_iff] at hstep
      obtain ⟨queue, hqueue, read, _, rfl⟩ := hstep
      refine ⟨rfl, rfl, ?_⟩
      rw [hqueue]
      rfl
  | setOperationMode mode outcome =>
      simp only [step, Option.ite_none_right_eq_some, Option.some.injEq] at hstep
      exact hstep.2 ▸ ⟨rfl, rfl, hsame _⟩
  | stopThreads =>
      simp only [step, Option.ite_none_right_eq_some, Option.some.injEq] at hstep
      obtain ⟨_, rfl⟩ := hstep
      refine ⟨rfl, rfl, ?_⟩
      have hwritten := congrArg Option.isSome (stopThreads_written system.proxy)
      rw [Option.isSome_map, Option.isSome_map] at hwritten
      exact hwritten.trans (hsame _)
  | initializeCommon args timeNow =>
      simp only [step, Option.ite_none_right_eq_some, Option.some.injEq] at hstep
      obtain ⟨_, rfl⟩ := hstep
      exact ⟨rfl, rfl, (Bool.or_true _).symm⟩
  | initializeSubHals outcome =>
      rw [step] at hstep
      split at hstep
      next result _ =>
        rw [Option.some.injEq] at hstep
        exact hstep ▸ ⟨rfl, rfl, hsame _⟩
      next => contradiction

/-! ## The pending-writes thread -/

def ThreadFits (path : EventPath) : PendingWritesThread → Prop
  | .writing locals => path.Draining locals
  | .written locals => path.Draining locals
  | _ => True

theorem EventPathStep.threadFits {path : EventPath} {thread : PendingWritesThread}
    {history : History} (hstep : EventPathStep header system path thread history)
    (hfits : ThreadFits system.proxy.eventPath system.pendingWritesThread) :
    ThreadFits path thread := by
  cases hstep with
  | keep => exact hfits
  | post call queue writeOk hcall hqueue =>
      cases hthread : system.pendingWritesThread with
      | writing locals =>
          rw [hthread] at hfits
          exact EventPath.Draining.post hfits _ queue call.events call.numWakeupEvents writeOk
      | written locals =>
          rw [hthread] at hfits
          exact EventPath.Draining.post hfits _ queue call.events call.numWakeupEvents writeOk
      | stopped => trivial
      | waiting => trivial
  | pick locals hthread hpick => exact EventPath.draining_of_pick hpick
  | write locals queue written hthread hqueue hwrite =>
      rw [hthread] at hfits
      exact hfits
  | drop locals hthread =>
      rw [hthread] at hfits
      exact hfits
  | finish locals hthread => trivial
  | exit hthread => trivial
  | read queue hwritten =>
      cases hthread : system.pendingWritesThread <;> rw [hthread] at hfits <;> exact hfits
  | restart quantumCount hthread => trivial

/-! ## Who calls the wakelock -/

theorem destroyOp_cases (wakelock : ScopedWakelock) :
    wakelock.destroyOp = .keep ∨
      wakelock.destroyOp = .decrement 1 wakelock.mCreatedAtTimeNs := by
  unfold ScopedWakelock.destroyOp
  cases wakelock.mLocked
  · exact Or.inl rfl
  · exact Or.inr rfl

theorem dropOp_cases (system : System) (locals : PendingWrite) :
    system.dropOp locals = .keep ∨
      ∃ delta, system.dropOp locals = .decrement delta Wakelock.noTimeoutStart := by
  unfold dropOp
  split
  next delta _ => exact Or.inr ⟨delta, rfl⟩
  next => exact Or.inl rfl

/-- Increments come from constructors of scoped wakelocks, by one, and from posts, by
their wake-up events; resets carry a clock value of their action. -/
theorem wakelockOp_calls (header : HalProxyHeader) (system : System) (action : Action) :
    match wakelockOp header system action with
    | .keep => True
    | .decrement _ _ => True
    | .increment delta timeNow =>
        delta = 1 ∧ action = .createScopedWakelock true timeNow ∨
          ∃ index writeOk post, action = .postEventsToMessageQueue index writeOk timeNow ∧
            system.posts[index]? = some post ∧ post.wakelock.isLocked = true ∧
            post.numWakeupEvents = delta
    | .reset timeNow => timeNow ∈ action.clockReadings := by
  cases action with
  | createScopedWakelock lock time =>
      cases lock with
      | false => trivial
      | true => exact Or.inl ⟨rfl, rfl⟩
  | destroyScopedWakelock index =>
      simp only [wakelockOp]
      cases hget : system.wakelocks[index]? with
      | none => trivial
      | some wakelock => rcases destroyOp_cases wakelock with hop | hop <;> simp [hop]
  | postEventsToMessageQueue index writeOk time =>
      simp only [wakelockOp]
      cases hget : system.posts[index]? with
      | none => trivial
      | some post =>
          cases hlocked : post.wakelock.isLocked with
          | false => simp [hlocked]
          | true =>
              simp only [hlocked, if_true]
              exact Or.inr ⟨index, writeOk, post, rfl, hget, hlocked, rfl⟩
  | returnFromPostEvents index =>
      simp only [wakelockOp]
      cases hget : system.posts[index]? with
      | none => trivial
      | some post => rcases destroyOp_cases post.wakelock with hop | hop <;> simp [hop]
  | writeBlocking success =>
      cases success with
      | true => trivial
      | false =>
          simp only [wakelockOp]
          cases hthread : system.pendingWritesThread with
          | writing locals =>
              rcases dropOp_cases system locals with hop | ⟨delta, hop⟩ <;> simp [hop]
          | _ => trivial
  | checkWakelock time resetTime =>
      simp only [wakelockOp]
      cases system.proxy.wakelock.sharedWakelockDidTimeout header.kWakelockTimeoutNs time with
      | none => simp [Action.clockReadings]
      | some timeLeft => trivial
  | readWakeLockQueue value => cases value <;> trivial
  | exitWakelocks time => simp [wakelockOp, Action.clockReadings]
  | initializeCommon args time => simp [wakelockOp, Action.clockReadings]
  | _ => trivial

end System
end Camellia.Sensors

import Camellia.Sensors.SystemSteps

/-!
# Counting wake-up events

Wake-up events are counted three times on their way: when a sub-HAL decides to
lock its scoped wakelock, when `processEvents` counts what it forwards, and when
a chunk that could not be written is taken off the count again.  The counts
differ in which events they see and in which sensor map they consult; the
results below say exactly when they agree.
-/

namespace Camellia.Sensors

/-- A wake-up event that a count by `mSensors` misses. -/
def isMissedWakeUp (mSensors mDynamicSensors : SensorMap) (event : Event) : Bool :=
  isDynamicWakeUp mDynamicSensors event && !isStaticWakeUp mSensors event

theorem countP_isWakeUpEvent (mSensors mDynamicSensors : SensorMap) (events : List Event) :
    events.countP (isWakeUpEvent mSensors mDynamicSensors) =
      events.countP (isStaticWakeUp mSensors) +
        events.countP (isMissedWakeUp mSensors mDynamicSensors) := by
  induction events with
  | nil => rfl
  | cons event rest ih =>
      simp only [List.countP_cons, ih, isWakeUpEvent, isMissedWakeUp]
      by_cases hstatic : isStaticWakeUp mSensors event = true
      · simp only [hstatic, Bool.true_or, Bool.not_true, Bool.and_false, if_true,
          Bool.false_eq_true, if_false]
        omega
      · rw [Bool.not_eq_true] at hstatic
        simp only [hstatic, Bool.false_or, Bool.not_false, Bool.and_true,
          Bool.false_eq_true, if_false]
        omega

namespace HalProxyCallback

/-! ## The assertions of `postEvents` -/

theorem alogAsserts_iff (numWakeupEvents : ℕ) (wakelock : ScopedWakelock) :
    alogAsserts numWakeupEvents wakelock = true ↔
      (0 < numWakeupEvents ↔ wakelock.isLocked = true) := by
  unfold alogAsserts
  by_cases hpos : 0 < numWakeupEvents
  · simp [hpos]
  · cases wakelock.isLocked <;> simp [hpos]

theorem numWakeupEvents_pos_iff (subscripts : Bool) (mSensors : SensorMap)
    (mSubHalIndex : BitVec 32) (events : List Event) :
    0 < (processEvents subscripts mSensors mSubHalIndex events).numWakeupEvents ↔
      ∃ event ∈ events, isStaticWakeUp mSensors (tagEvent mSubHalIndex event) = true ∧
        passesFilter mSensors (tagEvent mSubHalIndex event) = true := by
  rw [numWakeupEvents_processEvents, eventsOut_processEvents, List.countP_pos_iff]
  simp only [List.mem_filter, List.mem_map]
  constructor
  · rintro ⟨tagged, ⟨⟨event, hmem, rfl⟩, hpasses⟩, hwake⟩
    exact ⟨event, hmem, hwake, hpasses⟩
  · rintro ⟨event, hmem, hwake, hpasses⟩
    exact ⟨_, ⟨⟨event, hmem, rfl⟩, hpasses⟩, hwake⟩

/-- For a batch posted under the contract, the assertions hold exactly when the batch
has no wake-up event or keeps one that `mSensors` flags past the filter. -/
theorem asserts_hold_iff (subscripts : Bool) (mSensors mDynamicSensors : SensorMap)
    (mSubHalIndex : BitVec 32) (events : List Event) (wakelock : ScopedWakelock)
    (hcontract : wakelock.isLocked = true ↔ ∃ event ∈ events,
      isWakeUpEvent mSensors mDynamicSensors (tagEvent mSubHalIndex event) = true) :
    alogAsserts (processEvents subscripts mSensors mSubHalIndex events).numWakeupEvents
        wakelock = true ↔
      ((∃ event ∈ events,
          isWakeUpEvent mSensors mDynamicSensors (tagEvent mSubHalIndex event) = true) →
        ∃ event ∈ events, isStaticWakeUp mSensors (tagEvent mSubHalIndex event) = true ∧
          passesFilter mSensors (tagEvent mSubHalIndex event) = true) := by
  rw [alogAsserts_iff, hcontract, numWakeupEvents_pos_iff]
  have hstatic : (∃ event ∈ events,
        isStaticWakeUp mSensors (tagEvent mSubHalIndex event) = true ∧
          passesFilter mSensors (tagEvent mSubHalIndex event) = true) →
      ∃ event ∈ events,
        isWakeUpEvent mSensors mDynamicSensors (tagEvent mSubHalIndex event) = true := by
    rintro ⟨event, hmem, hwake, _⟩
    exact ⟨event, hmem, by simp [isWakeUpEvent, hwake]⟩
  exact ⟨fun hiff => hiff.mpr, fun hkeeps => ⟨hstatic, hkeeps⟩⟩

def lockedWakelock : ScopedWakelock where
  mLocked := true
  mCreatedAtTimeNs := 1

theorem asserts_hold_example :
    alogAsserts (processEvents true (initializeSensorList System.sampleSubHals).mSensors 0
      [System.sampleEvent 1 10, System.sampleEvent 2 20]).numWakeupEvents
      lockedWakelock = true :=
  (asserts_hold_iff true (initializeSensorList System.sampleSubHals).mSensors ∅ 0
    [System.sampleEvent 1 10, System.sampleEvent 2 20] lockedWakelock
    (by decide)).mpr (by decide)

def dynamicWakeUpSensor : SensorInfo where
  sensorHandle := 3
  type := 8
  typeAsString := "proximity"
  maxRange := 0
  flags := SensorFlagBits.wakeUp

/-- A pick-up report that announces no gesture, and an event of a dynamic wake-up
sensor: each is posted under the contract and trips an assertion. -/
theorem asserts_fail :
    let mSensors := (initializeSensorList System.sampleSubHals).mSensors
    let mDynamicSensors := (HalProxy.onDynamicSensorsConnected ∅ [dynamicWakeUpSensor] 0).1
    lockedWakelock.isLocked = true ∧
      ∀ event ∈ [System.sampleEvent 2 10, System.sampleEvent 3 10],
        isWakeUpEvent mSensors mDynamicSensors (tagEvent 0 event) = true ∧
          alogAsserts (processEvents true mSensors 0 [event]).numWakeupEvents
            lockedWakelock = false := by
  decide

end HalProxyCallback

/-! ## The increment of a post -/

namespace HalProxy

theorem postEventsToMessageQueue_locked {header : HalProxyHeader}
    {proxy posted : HalProxy} {queue : MessageQueue Event} {events : List Event}
    {numWakeupEvents : ℕ} {wakelock : ScopedWakelock} {writeOk : Bool} {timeNow : ℤ}
    (hrunning : proxy.mThreadsRun = true) (hlocked : wakelock.isLocked = true)
    (hqueue : proxy.eventPath.mEventQueue = some queue)
    (hpost : proxy.postEventsToMessageQueue header events numWakeupEvents wakelock writeOk
      timeNow = some posted) :
    posted.wakelock.mWakelockRefCount =
        proxy.wakelock.mWakelockRefCount + numWakeupEvents ∧
      posted.eventPath = proxy.eventPath.post header.kMaxSizePendingWriteEventsQueue queue
        events numWakeupEvents writeOk := by
  rw [postEventsToMessageQueue, hqueue, Option.map_some, Option.some.injEq] at hpost
  subst posted
  exact ⟨by simp [hlocked, hrunning, Wakelock.incrementRefCountAndMaybeAcquireWakelock], rfl⟩

/-- What is discarded of a batch weighs as much as what the count misses in the rest. -/
def DiscardBalances (kMaxSizePendingWriteEventsQueue : ℕ) (path : EventPath)
    (mSensors mDynamicSensors : SensorMap) (events : List Event) (numWritten : ℕ) : Prop :=
  (path.Overflows kMaxSizePendingWriteEventsQueue events numWritten →
      (events.drop numWritten).countP (isStaticWakeUp mSensors) =
        (events.take numWritten).countP (isMissedWakeUp mSensors mDynamicSensors)) ∧
    (¬path.Overflows kMaxSizePendingWriteEventsQueue events numWritten →
      events.countP (isMissedWakeUp mSensors mDynamicSensors) = 0)

instance (kMax : ℕ) (path : EventPath) (mSensors mDynamicSensors : SensorMap)
    (events : List Event) (numWritten : ℕ) :
    Decidable (DiscardBalances kMax path mSensors mDynamicSensors events numWritten) :=
  inferInstanceAs (Decidable (_ ∧ _))

theorem discardBalances_iff (kMax : ℕ) (path : EventPath) (queue : MessageQueue Event)
    (mSensors mDynamicSensors : SensorMap) (events : List Event) (writeOk : Bool) :
    events.countP (isStaticWakeUp mSensors) =
        ((path.postOutcome kMax queue events writeOk).kept events).countP
          (isWakeUpEvent mSensors mDynamicSensors) ↔
      DiscardBalances kMax path mSensors mDynamicSensors events
        (path.directlyWritten queue events writeOk) := by
  have hall : events.countP (isStaticWakeUp mSensors) =
      ((path.postOutcome kMax queue events writeOk).kept events).countP
          (isStaticWakeUp mSensors) +
        ((path.postOutcome kMax queue events writeOk).discarded events).countP
          (isStaticWakeUp mSensors) := by
    rw [← List.countP_append, PostOutcome.kept_append_discarded]
  rw [hall, countP_isWakeUpEvent]
  unfold DiscardBalances
  rcases path.postOutcome_cases kMax queue events writeOk with
    ⟨hoverflow, hkept, hdiscarded⟩ | ⟨hfits, hkept, hdiscarded⟩
  · rw [hkept, hdiscarded]
    simp only [hoverflow, not_true_eq_false, false_implies, forall_const, and_true]
    omega
  · rw [hkept, hdiscarded]
    simp only [hfits, not_false_eq_true, false_implies, forall_const, true_and,
      List.countP_nil]
    omega

section Post

variable (header : HalProxyHeader) (mSensors mDynamicSensors : SensorMap)
  (mSubHalIndex : BitVec 32) (batch : List Event)

/-- A post under a locked wakelock counts the wake-up events it writes or stores, and
no others, exactly when `mSensors` flags all of them and none is discarded, or the two
errors balance. -/
theorem post_counts_kept_iff {proxy posted : HalProxy} {queue : MessageQueue Event}
    {wakelock : ScopedWakelock} {writeOk : Bool} {timeNow : ℤ}
    (hrunning : proxy.mThreadsRun = true) (hlocked : wakelock.isLocked = true)
    (hqueue : proxy.eventPath.mEventQueue = some queue)
    (hpost :
      let processed := HalProxyCallback.processEvents header.getSensorInfoSubscripts
        mSensors mSubHalIndex batch
      proxy.postEventsToMessageQueue header processed.eventsOut processed.numWakeupEvents
        wakelock writeOk timeNow = some posted) :
    let events := (HalProxyCallback.processEvents header.getSensorInfoSubscripts
      mSensors mSubHalIndex batch).eventsOut
    ∃ written stored,
      posted.eventPath.mEventQueue.map MessageQueue.written =
          some (queue.written ++ written) ∧
        posted.eventPath.pendingEvents = proxy.eventPath.pendingEvents ++ stored ∧
        (posted.wakelock.mWakelockRefCount = proxy.wakelock.mWakelockRefCount +
            (written ++ stored).countP (isWakeUpEvent mSensors mDynamicSensors) ↔
          DiscardBalances header.kMaxSizePendingWriteEventsQueue proxy.eventPath mSensors
            mDynamicSensors events
            (proxy.eventPath.directlyWritten queue events writeOk)) := by
  intro events
  obtain ⟨hcount, hpath⟩ :=
    postEventsToMessageQueue_locked hrunning hlocked hqueue hpost
  rw [HalProxyCallback.numWakeupEvents_processEvents] at hcount
  set outcome := proxy.eventPath.postOutcome header.kMaxSizePendingWriteEventsQueue
    queue events writeOk
  refine ⟨outcome.written events, if outcome.stored then outcome.left events else [],
    ?_, ?_, ?_⟩
  · rw [hpath, (proxy.eventPath.post_spec _ queue _ _ writeOk).1, Option.map_some,
      (proxy.eventPath.postOutcome_spec _ queue _ writeOk).2.1]
  · rw [hpath, proxy.eventPath.pendingEvents_post]
  · rw [hcount, Nat.add_left_cancel_iff]
    exact discardBalances_iff _ _ _ _ _ _ _

end Post

theorem post_counts_kept_example :
    let proxy := (System.sampleState (System.startUp 4)).proxy
    let processed := HalProxyCallback.processEvents true proxy.mSensors 0
      [System.sampleEvent 1 10, System.sampleEvent 1 20]
    ∃ posted, proxy.postEventsToMessageQueue System.sampleHeader processed.eventsOut
        processed.numWakeupEvents HalProxyCallback.lockedWakelock true 2 = some posted ∧
      ∃ written stored : List Event,
        posted.wakelock.mWakelockRefCount = proxy.wakelock.mWakelockRefCount +
          (written ++ stored).countP (isWakeUpEvent proxy.mSensors ∅) := by
  intro proxy processed
  have hqueue : proxy.eventPath.mEventQueue = some (MessageQueue.empty 4) := rfl
  obtain ⟨posted, hpost⟩ : ∃ posted,
      proxy.postEventsToMessageQueue System.sampleHeader processed.eventsOut
        processed.numWakeupEvents HalProxyCallback.lockedWakelock true 2 = some posted :=
    ⟨_, rfl⟩
  obtain ⟨written, stored, _, _, hcount⟩ :=
    post_counts_kept_iff System.sampleHeader proxy.mSensors ∅ 0
      [System.sampleEvent 1 10, System.sampleEvent 1 20] rfl rfl hqueue hpost
  exact ⟨posted, hpost, written, stored, hcount.mpr (by decide)⟩

/-- A batch of five leaves four events pending, as many as there is room for. -/
def fullPending : List Action :=
  System.startUp 1 ++
    [.createScopedWakelock true 1,
      .postEvents 0 0 (List.replicate 5 (System.sampleEvent 1 10)),
      .postEventsToMessageQueue 0 true 2]

theorem discarded_event_counted :
    let proxy := (System.sampleState fullPending).proxy
    let processed := HalProxyCallback.processEvents true proxy.mSensors 0
      [System.sampleEvent 1 20]
    let posted := proxy.postEventsToMessageQueue System.sampleHeader processed.eventsOut
      processed.numWakeupEvents HalProxyCallback.lockedWakelock true 3
    (proxy.mThreadsRun, proxy.wakelock.mWakelockRefCount,
        proxy.eventPath.mEventQueue.map MessageQueue.written,
        proxy.eventPath.pendingEvents.length) =
          (true, 6, some [System.sampleEvent 1 10], 4) ∧
      posted.map (fun posted => (posted.wakelock.mWakelockRefCount,
        posted.eventPath.mEventQueue.map MessageQueue.written,
        posted.eventPath.pendingEvents.length)) =
          some (7, some [System.sampleEvent 1 10], 4) := by
  decide

end HalProxy

/-! ## The decrement for a dropped chunk -/

namespace System

open Transition

variable {header : HalProxyHeader} {system next : System}

/-- A pending batch is the rest of `origin`, stored with the count of all of `origin`. -/
def StoredFrom (wakeUp : Event → Bool) (entry : List Event × ℕ) (origin : List Event) :
    Prop :=
  entry.1 <:+ origin ∧ entry.2 = origin.countP wakeUp

structure WakeupsCounted (system : System) : Prop where
  fits : ThreadFits system.proxy.eventPath system.pendingWritesThread
  posts : ∀ call ∈ system.posts,
    call.numWakeupEvents = call.events.countP (isStaticWakeUp system.proxy.mSensors)
  pending : List.Forall₂ (StoredFrom (isStaticWakeUp system.proxy.mSensors))
    system.proxy.eventPath.mPendingWriteEventsQueue system.history.origins

theorem isStaticWakeUp_step {action : Action}
    (hstep : step header system action = some next) :
    isStaticWakeUp next.proxy.mSensors = isStaticWakeUp system.proxy.mSensors := by
  funext event
  rw [isStaticWakeUp, isStaticWakeUp, (step_effects hstep).mSensors,
    SensorMap.lookup_subscriptAll]

theorem mem_posts_postEvents {mSubHalIndex : BitVec 32} {index : ℕ}
    {wakelock : ScopedWakelock} {events : List Event} {call : PostCall}
    (hcall : call ∈ (system.postEvents header mSubHalIndex index wakelock events).posts) :
    call ∈ system.posts ∨
      call.numWakeupEvents =
        call.events.countP (isStaticWakeUp system.proxy.mSensors) := by
  unfold postEvents HalProxyCallback.postEvents at hcall
  split at hcall
  · rw [List.mem_append, List.mem_singleton] at hcall
    rcases hcall with hold | rfl
    · exact Or.inl hold
    · exact Or.inr rfl
  next processed hprocessed =>
    rw [List.mem_append, List.mem_singleton] at hcall
    rcases hcall with hold | rfl
    · exact Or.inl hold
    · right
      rw [Option.ite_none_left_eq_some, Option.some.injEq] at hprocessed
      rw [← hprocessed.2]
      exact HalProxyCallback.numWakeupEvents_processEvents _ _ _ _

theorem mem_posts_step {action : Action} (hstep : step header system action = some next)
    {call : PostCall} (hcall : call ∈ next.posts) :
    (∃ old ∈ system.posts, old.events = call.events ∧
        old.numWakeupEvents = call.numWakeupEvents) ∨
      call.numWakeupEvents =
        call.events.countP (isStaticWakeUp system.proxy.mSensors) := by
  have hkept : call ∈ system.posts → ∃ old ∈ system.posts,
      old.events = call.events ∧ old.numWakeupEvents = call.numWakeupEvents :=
    fun hmem => ⟨call, hmem, rfl, rfl⟩
  rw [(step_effects hstep).posts] at hcall
  cases action with
  | postEvents mSubHalIndex index events =>
      simp only [postsAfter] at hcall
      split at hcall
      · exact (mem_posts_postEvents hcall).imp_left hkept
      · exact Or.inl (hkept hcall)
  | postEventsToMessageQueue index writeOk timeNow =>
      simp only [postsAfter] at hcall
      split at hcall
      next post hpost =>
        rcases List.mem_or_eq_of_mem_set hcall with hold | rfl
        · exact Or.inl (hkept hold)
        · exact Or.inl ⟨post, List.mem_of_getElem? hpost, rfl, rfl⟩
      next => exact Or.inl (hkept hcall)
  | returnFromPostEvents index => exact Or.inl (hkept (List.mem_of_mem_eraseIdx hcall))
  | _ => exact Or.inl (hkept hcall)

theorem EventPathStep.storedFrom {wakeUp : Event → Bool} {path : EventPath}
    {thread : PendingWritesThread} {history : History}
    (hstep : EventPathStep header system path thread history)
    (hfits : ThreadFits system.proxy.eventPath system.pendingWritesThread)
    (hposts : ∀ call ∈ system.posts, call.numWakeupEvents = call.events.countP wakeUp)
    (hpending : List.Forall₂ (StoredFrom wakeUp)
      system.proxy.eventPath.mPendingWriteEventsQueue system.history.origins) :
    List.Forall₂ (StoredFrom wakeUp) path.mPendingWriteEventsQueue history.origins := by
  cases hstep with
  | post call queue writeOk hcall hqueue =>
      rw [(EventPath.post_spec _ _ queue call.events call.numWakeupEvents writeOk).2]
      simp only [recordPost]
      cases hstored : (system.proxy.eventPath.postOutcome
          header.kMaxSizePendingWriteEventsQueue queue call.events writeOk).stored with
      | false => simpa using hpending
      | true =>
          simp only [if_true]
          refine List.rel_append hpending (List.Forall₂.cons ⟨?_, ?_⟩ List.Forall₂.nil)
          · exact List.drop_suffix _ call.events
          · exact hposts call hcall
  | finish locals hthread =>
      rw [hthread] at hfits
      obtain ⟨events, rest, hfront, _⟩ := hfits
      rw [hfront] at hpending
      simp only [EventPath.finishPendingWrite, EventPath.frontEvents, hfront]
      cases horigins : system.history.origins with
      | nil => simp [horigins] at hpending
      | cons origin others =>
          rw [horigins, List.forall₂_cons] at hpending
          obtain ⟨⟨hsuffix, hcount⟩, hrest⟩ := hpending
          by_cases hlarge : events.length > locals.eventQueueSize
          · simp only [hlarge, if_true]
            exact List.Forall₂.cons
              ⟨(List.drop_suffix _ events).trans hsuffix, hcount⟩ hrest
          · simp only [hlarge, if_false]
            exact hrest
  | restart quantumCount hthread => exact List.Forall₂.nil
  | _ => exact hpending

theorem WakeupsCounted.step {action : Action} (hcounted : system.WakeupsCounted)
    (hstep : step header system action = some next) : next.WakeupsCounted where
  fits := (step_effects hstep).eventPath.threadFits hcounted.fits
  posts := by
    intro call hcall
    rw [isStaticWakeUp_step hstep]
    rcases mem_posts_step hstep hcall with ⟨old, hold, hevents, hcount⟩ | hcount
    · rw [← hevents, ← hcount]
      exact hcounted.posts old hold
    · exact hcount
  pending := by
    rw [isStaticWakeUp_step hstep]
    exact (step_effects hstep).eventPath.storedFrom hcounted.fits hcounted.posts hcounted.pending

theorem wakeupsCounted_construct (subHals : SubHalList) :
    (construct subHals).WakeupsCounted where
  fits := trivial
  posts := by simp [construct]
  pending := List.Forall₂.nil

theorem wakeupsCounted_of_reachable {subHals : SubHalList}
    (hreach : Reachable (System.step header) (construct subHals) system) :
    system.WakeupsCounted :=
  hreach.invariant (wakeupsCounted_construct subHals)
    fun _ _ _ hcounted hstep => hcounted.step hstep

/-- The events of the front batch that were written or dropped before the thread came to
its current chunk. -/
def goneBefore (system : System) : List Event :=
  (system.history.origins.headD []).take
    ((system.history.origins.headD []).length - system.proxy.eventPath.frontEvents.length)

/-- A failed write takes exactly the wake-up events of its chunk off the count. -/
def DropSettlesChunk (system : System) : Action → Prop
  | .writeBlocking false =>
      ∀ locals, system.pendingWritesThread = .writing locals →
        (system.proxy.eventPath.droppedWakeups system.proxy.mSensors locals).getD 0 =
          (system.proxy.eventPath.chunk locals).countP
            (isWakeUpEvent system.proxy.mSensors system.proxy.mDynamicSensors)
  | _ => True

/-- A failed write of a batch larger than the event queue has no wake-up event in its
chunk that `mSensors` does not flag; for any other batch, those it has number as many
as the wake-up events of the batch that are gone. -/
def FrontCountFits (system : System) : Action → Prop
  | .writeBlocking false =>
      ∀ locals, system.pendingWritesThread = .writing locals →
        let front := system.proxy.eventPath.frontEvents
        let missed := isMissedWakeUp system.proxy.mSensors system.proxy.mDynamicSensors
        if front.length > locals.eventQueueSize then
          (front.take locals.eventQueueSize).countP missed = 0
        else system.goneBefore.countP (isStaticWakeUp system.proxy.mSensors) =
          front.countP missed
  | _ => True

theorem WakeupsCounted.front {locals : PendingWrite} (hcounted : system.WakeupsCounted)
    (hthread : system.pendingWritesThread = .writing locals) :
    locals.numWakeupEvents =
        system.goneBefore.countP (isStaticWakeUp system.proxy.mSensors) +
          system.proxy.eventPath.frontEvents.countP
            (isStaticWakeUp system.proxy.mSensors) ∧
      locals.numToWrite =
        min system.proxy.eventPath.frontEvents.length locals.eventQueueSize := by
  have hfits := hcounted.fits
  rw [hthread] at hfits
  obtain ⟨events, rest, hfront, hnum⟩ := hfits
  have hpending := hcounted.pending
  rw [hfront] at hpending
  have hevents : system.proxy.eventPath.frontEvents = events := by
    simp only [EventPath.frontEvents, hfront]
  cases horigins : system.history.origins with
  | nil => simp [horigins] at hpending
  | cons origin others =>
      rw [horigins, List.forall₂_cons] at hpending
      obtain ⟨⟨⟨before, horigin⟩, hcount⟩, _⟩ := hpending
      have hgone : system.goneBefore = before := by
        simp [goneBefore, horigins, hevents, ← horigin]
      have hstored : locals.numWakeupEvents =
          origin.countP (isStaticWakeUp system.proxy.mSensors) := hcount
      rw [hgone, hevents]
      exact ⟨by rw [hstored, ← horigin, List.countP_append], hnum⟩

theorem droppedWakeups_getD {path : EventPath} {mSensors : SensorMap}
    {locals : PendingWrite}
    (hcovers : path.frontEvents.countP (isStaticWakeUp mSensors) ≤ locals.numWakeupEvents) :
    (path.droppedWakeups mSensors locals).getD 0 =
      if path.frontEvents.length > locals.eventQueueSize then
        (path.frontEvents.take locals.eventQueueSize).countP (isStaticWakeUp mSensors)
      else locals.numWakeupEvents := by
  have htaken : (path.frontEvents.take locals.eventQueueSize).countP
      (isStaticWakeUp mSensors) ≤ locals.numWakeupEvents :=
    (List.take_sublist _ _).countP_le.trans hcovers
  unfold EventPath.droppedWakeups
  by_cases hpos : locals.numWakeupEvents > 0
  · rw [if_pos hpos]
    split <;> rfl
  · rw [if_neg hpos, Option.getD_none]
    split <;> omega

theorem dropSettlesChunk_iff (hcounted : system.WakeupsCounted) (action : Action) :
    DropSettlesChunk system action ↔ FrontCountFits system action := by
  cases action with
  | writeBlocking success =>
      cases success with
      | true => exact Iff.rfl
      | false =>
          refine forall_congr' fun locals => forall_congr' fun hthread => ?_
          obtain ⟨hcount, hnum⟩ := hcounted.front hthread
          have hcovers : system.proxy.eventPath.frontEvents.countP
              (isStaticWakeUp system.proxy.mSensors) ≤ locals.numWakeupEvents := by
            omega
          rw [droppedWakeups_getD hcovers, EventPath.chunk, hnum, countP_isWakeUpEvent]
          dsimp only
          by_cases hlarge :
              system.proxy.eventPath.frontEvents.length > locals.eventQueueSize
          · rw [if_pos hlarge, if_pos hlarge, min_eq_right hlarge.le]
            omega
          · rw [if_neg hlarge, if_neg hlarge, min_eq_left (Nat.le_of_not_lt hlarge),
              List.take_length]
            omega
  | _ => exact Iff.rfl

/-- In every run, the failed writes all take exactly the wake-up events of their chunk
off the count if and only if the counts of all their front batches fit. -/
theorem drops_settle_chunks_iff (header : HalProxyHeader) (subHals : SubHalList)
    (actions : List Action) :
    EveryStep (System.step header) DropSettlesChunk (construct subHals) actions ↔
      EveryStep (System.step header) FrontCountFits (construct subHals) actions :=
  everyStep_congr
    (fun _ action hreach => dropSettlesChunk_iff (wakeupsCounted_of_reachable hreach) action)
    actions

/-- One of two wake-up events is written directly; the thread picks up the other. -/
def partlyWritten : List Action :=
  startUp 1 ++
    [.createScopedWakelock true 1, .postEvents 0 0 [sampleEvent 1 10, sampleEvent 1 20],
      .postEventsToMessageQueue 0 true 2, .pickPendingWrite]

theorem partly_written_batch_overcounted :
    ¬EveryStep (System.step sampleHeader) DropSettlesChunk (construct sampleSubHals)
      (partlyWritten ++ [.writeBlocking false]) := by
  intro hevery
  have hrun : run (System.step sampleHeader) (construct sampleSubHals) partlyWritten =
      some (sampleState partlyWritten) := rfl
  have hsettles : DropSettlesChunk (sampleState partlyWritten) (.writeBlocking false) :=
    hevery.after_run hrun rfl
  have hcounts := hsettles ⟨2, 1, 1⟩ rfl
  revert hcounts
  decide

end System

end Camellia.Sensors

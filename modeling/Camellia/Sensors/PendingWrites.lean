import Camellia.MessageQueue
import Camellia.Sensors.SensorInfo

/-!
# The event queue and the batches waiting to be written to it

Events reach the framework through a bounded message queue.  A batch that does
not fit is kept in `mPendingWriteEventsQueue`, from which a thread of the proxy
writes chunks of at most the capacity of the queue.  That thread holds
`mEventQueueWriteMutex` only before and after the blocking write, so its step is
modelled as three: picking the front batch, the write, and the removal.
-/

namespace Camellia.Sensors

/-- The fields of the proxy guarded by `mEventQueueWriteMutex`. -/
structure EventPath where
  mEventQueue : Option (MessageQueue Event)
  mPendingWriteEventsQueue : List (List Event × ℕ)
  mSizePendingWriteEventsQueue : ℕ
  mMostEventsObservedPendingWriteEventsQueue : ℕ

/-- What happens to the events of one posted batch: the queue afterwards, the
number of events written to it and whether the rest is stored. -/
structure PostOutcome where
  queue : MessageQueue Event
  numToWrite : ℕ
  stored : Bool

namespace PostOutcome

def written (outcome : PostOutcome) (events : List Event) : List Event :=
  events.take outcome.numToWrite

def left (outcome : PostOutcome) (events : List Event) : List Event :=
  events.drop outcome.numToWrite

def kept (outcome : PostOutcome) (events : List Event) : List Event :=
  outcome.written events ++ if outcome.stored then outcome.left events else []

def discarded (outcome : PostOutcome) (events : List Event) : List Event :=
  if outcome.stored then [] else outcome.left events

theorem kept_append_discarded (outcome : PostOutcome) (events : List Event) :
    outcome.kept events ++ outcome.discarded events = events := by
  cases hstored : outcome.stored <;>
    simp [kept, discarded, written, left, hstored]

end PostOutcome

namespace EventPath

def initial : EventPath where
  mEventQueue := none
  mPendingWriteEventsQueue := []
  mSizePendingWriteEventsQueue := 0
  mMostEventsObservedPendingWriteEventsQueue := 0

def pendingEvents (path : EventPath) : List Event :=
  (path.mPendingWriteEventsQueue.map Prod.fst).flatten

/-- The direct write at the start of `postEventsToMessageQueue`: the queue and the
final value of `numToWrite`. -/
def writeDirectly (path : EventPath) (queue : MessageQueue Event) (events : List Event)
    (writeOk : Bool) : MessageQueue Event × ℕ :=
  if path.mPendingWriteEventsQueue.isEmpty then
    let numToWrite := min events.length queue.availableToWrite
    if numToWrite > 0 then
      match if writeOk then queue.write (events.take numToWrite) else none with
      | some queue => (queue, numToWrite)
      | none => (queue, 0)
    else (queue, numToWrite)
  else (queue, 0)

def postOutcome (kMaxSizePendingWriteEventsQueue : ℕ) (path : EventPath)
    (queue : MessageQueue Event) (events : List Event) (writeOk : Bool) : PostOutcome :=
  let (queue, numToWrite) := path.writeDirectly queue events writeOk
  let numLeft := events.length - numToWrite
  { queue := queue
    numToWrite := numToWrite
    stored := numToWrite < events.length ∧
      path.mSizePendingWriteEventsQueue + numLeft ≤ kMaxSizePendingWriteEventsQueue }

/-- The part of `postEventsToMessageQueue` after the wakelock increment. -/
def post (kMaxSizePendingWriteEventsQueue : ℕ) (path : EventPath)
    (queue : MessageQueue Event) (events : List Event) (numWakeupEvents : ℕ)
    (writeOk : Bool) : EventPath :=
  let outcome := path.postOutcome kMaxSizePendingWriteEventsQueue queue events writeOk
  if outcome.stored then
    let numLeft := events.length - outcome.numToWrite
    { mEventQueue := some outcome.queue
      mPendingWriteEventsQueue := path.mPendingWriteEventsQueue ++
        [(outcome.left events, numWakeupEvents)]
      mSizePendingWriteEventsQueue := path.mSizePendingWriteEventsQueue + numLeft
      mMostEventsObservedPendingWriteEventsQueue :=
        max path.mMostEventsObservedPendingWriteEventsQueue
          (path.mSizePendingWriteEventsQueue + numLeft) }
  else { path with mEventQueue := some outcome.queue }

end EventPath

/-- The locals of `handlePendingWrites` between its two locked sections. -/
structure PendingWrite where
  numWakeupEvents : ℕ
  eventQueueSize : ℕ
  numToWrite : ℕ
deriving DecidableEq

inductive PendingWritesThread where
  | stopped
  | waiting
  | writing (locals : PendingWrite)
  | written (locals : PendingWrite)
deriving DecidableEq

def countNumWakeupEvents (mSensors : SensorMap) (events : List Event) (n : ℕ) : ℕ :=
  (events.take n).countP fun event => (mSensors.lookup event.sensorHandle).isWakeUp

def countedHandles (events : List Event) (n : ℕ) : List SensorHandle :=
  (events.take n).map Event.sensorHandle

namespace EventPath

/-- First locked section of `handlePendingWrites`. -/
def pickPendingWrite (path : EventPath) : Option PendingWrite :=
  match path.mPendingWriteEventsQueue, path.mEventQueue with
  | (events, numWakeupEvents) :: _, some queue =>
      some {
        numWakeupEvents := numWakeupEvents
        eventQueueSize := queue.quantumCount
        numToWrite := min events.length queue.quantumCount }
  | _, _ => none

/-- `pendingWriteEvents`, the front batch. -/
def frontEvents (path : EventPath) : List Event :=
  match path.mPendingWriteEventsQueue with
  | (events, _) :: _ => events
  | [] => []

def chunk (path : EventPath) (locals : PendingWrite) : List Event :=
  path.frontEvents.take locals.numToWrite

/-- The amount passed to `decrementRefCountAndMaybeReleaseWakelock` when the write
fails, `none` when the call is skipped. -/
def droppedWakeups (path : EventPath) (mSensors : SensorMap) (locals : PendingWrite) :
    Option ℕ :=
  if locals.numWakeupEvents > 0 then
    if path.frontEvents.length > locals.eventQueueSize then
      some (countNumWakeupEvents mSensors path.frontEvents locals.eventQueueSize)
    else some locals.numWakeupEvents
  else none

def droppedSubscripts (path : EventPath) (locals : PendingWrite) : List SensorHandle :=
  if locals.numWakeupEvents > 0 ∧ path.frontEvents.length > locals.eventQueueSize then
    countedHandles path.frontEvents locals.eventQueueSize
  else []

/-- Second locked section of `handlePendingWrites`. -/
def finishPendingWrite (path : EventPath) (locals : PendingWrite) : EventPath :=
  match path.mPendingWriteEventsQueue with
  | (events, numWakeupEvents) :: rest =>
      { path with
        mSizePendingWriteEventsQueue :=
          path.mSizePendingWriteEventsQueue - locals.numToWrite
        mPendingWriteEventsQueue :=
          if events.length > locals.eventQueueSize then
            (events.drop locals.eventQueueSize, numWakeupEvents) :: rest
          else rest }
  | [] => path

/-! ## Direct writes -/

theorem writeDirectly_spec (path : EventPath) (queue : MessageQueue Event)
    (events : List Event) (writeOk : Bool) :
    (path.writeDirectly queue events writeOk).2 ≤ events.length ∧
      (path.writeDirectly queue events writeOk).1.written =
        queue.written ++ events.take (path.writeDirectly queue events writeOk).2 ∧
      (path.mPendingWriteEventsQueue ≠ [] →
        (path.writeDirectly queue events writeOk).2 = 0) := by
  unfold writeDirectly
  cases hpending : path.mPendingWriteEventsQueue with
  | cons first rest => simp
  | nil =>
      simp only [List.isEmpty_nil, if_true]
      by_cases hpos : min events.length queue.availableToWrite > 0
      · rw [if_pos hpos]
        cases hwrite : (if writeOk then
            queue.write (events.take (min events.length queue.availableToWrite))
          else none) with
        | none => simp
        | some next =>
            cases writeOk with
            | false => simp at hwrite
            | true =>
                obtain ⟨hwritten, _, _⟩ := MessageQueue.write_spec hwrite
                exact ⟨min_le_left _ _, hwritten, fun habsurd => absurd rfl habsurd⟩
      · have hzero : min events.length queue.availableToWrite = 0 := by omega
        rw [if_neg hpos]
        simp [hzero]

theorem postOutcome_spec (kMax : ℕ) (path : EventPath) (queue : MessageQueue Event)
    (events : List Event) (writeOk : Bool) :
    (path.postOutcome kMax queue events writeOk).numToWrite ≤ events.length ∧
      (path.postOutcome kMax queue events writeOk).queue.written =
        queue.written ++ (path.postOutcome kMax queue events writeOk).written events ∧
      (path.mPendingWriteEventsQueue ≠ [] →
        (path.postOutcome kMax queue events writeOk).numToWrite = 0) :=
  path.writeDirectly_spec queue events writeOk

/-- How many events of a batch are written at once. -/
def directlyWritten (path : EventPath) (queue : MessageQueue Event) (events : List Event)
    (writeOk : Bool) : ℕ :=
  if path.mPendingWriteEventsQueue.isEmpty ∧ writeOk then
    min events.length queue.availableToWrite
  else 0

def Overflows (path : EventPath) (kMaxSizePendingWriteEventsQueue : ℕ)
    (events : List Event) (numWritten : ℕ) : Prop :=
  numWritten < events.length ∧
    kMaxSizePendingWriteEventsQueue <
      path.mSizePendingWriteEventsQueue + (events.length - numWritten)

instance (kMax : ℕ) (path : EventPath) (events : List Event) (numWritten : ℕ) :
    Decidable (path.Overflows kMax events numWritten) :=
  inferInstanceAs (Decidable (_ ∧ _))

theorem postOutcome_numToWrite (kMax : ℕ) (path : EventPath) (queue : MessageQueue Event)
    (events : List Event) (writeOk : Bool) :
    (path.postOutcome kMax queue events writeOk).numToWrite =
      path.directlyWritten queue events writeOk := by
  change (path.writeDirectly queue events writeOk).2 = _
  unfold writeDirectly directlyWritten
  cases hempty : path.mPendingWriteEventsQueue.isEmpty with
  | false => simp
  | true =>
      simp only [if_true, true_and]
      by_cases hpos : min events.length queue.availableToWrite > 0
      · rw [if_pos hpos]
        cases writeOk with
        | false => simp
        | true =>
            have hroom : (events.take (min events.length queue.availableToWrite)).length ≤
                queue.availableToWrite := by
              rw [List.length_take]
              omega
            obtain ⟨next, hwrite⟩ :=
              Option.isSome_iff_exists.mp (MessageQueue.write_isSome hroom)
            simp [hwrite]
      · have hzero : min events.length queue.availableToWrite = 0 := by omega
        rw [if_neg hpos, hzero, ite_self]

theorem postOutcome_cases (kMax : ℕ) (path : EventPath) (queue : MessageQueue Event)
    (events : List Event) (writeOk : Bool) :
    let outcome := path.postOutcome kMax queue events writeOk
    let numWritten := path.directlyWritten queue events writeOk
    (path.Overflows kMax events numWritten ∧
        outcome.kept events = events.take numWritten ∧
        outcome.discarded events = events.drop numWritten) ∨
      (¬path.Overflows kMax events numWritten ∧ outcome.kept events = events ∧
        outcome.discarded events = []) := by
  intro outcome numWritten
  have hnum : outcome.numToWrite = numWritten :=
    postOutcome_numToWrite kMax path queue events writeOk
  have hstored : outcome.stored = decide (numWritten < events.length ∧
      path.mSizePendingWriteEventsQueue + (events.length - numWritten) ≤ kMax) := by
    rw [← hnum]
    rfl
  have hsplit := outcome.kept_append_discarded events
  by_cases hoverflow : path.Overflows kMax events numWritten
  · have hnot : outcome.stored = false := by
      rw [hstored, decide_eq_false_iff_not]
      rintro ⟨_, hroom⟩
      exact absurd hoverflow.2 (by omega)
    refine Or.inl ⟨hoverflow, ?_, ?_⟩
    · simp [PostOutcome.kept, PostOutcome.written, hnot, hnum]
    · simp [PostOutcome.discarded, PostOutcome.left, hnot, hnum]
  · have hnone : outcome.discarded events = [] := by
      unfold Overflows at hoverflow
      by_cases hall : numWritten < events.length
      · have hyes : outcome.stored = true := by
          rw [hstored, decide_eq_true_iff]
          omega
        simp [PostOutcome.discarded, hyes]
      · simp only [PostOutcome.discarded, PostOutcome.left, hnum]
        rw [List.drop_eq_nil_of_le (by omega), ite_self]
    rw [hnone, List.append_nil] at hsplit
    exact Or.inr ⟨hoverflow, hsplit, hnone⟩

theorem post_spec (kMax : ℕ) (path : EventPath) (queue : MessageQueue Event)
    (events : List Event) (numWakeupEvents : ℕ) (writeOk : Bool) :
    let outcome := path.postOutcome kMax queue events writeOk
    let posted := path.post kMax queue events numWakeupEvents writeOk
    posted.mEventQueue = some outcome.queue ∧
      posted.mPendingWriteEventsQueue = path.mPendingWriteEventsQueue ++
        if outcome.stored then [(outcome.left events, numWakeupEvents)] else [] := by
  dsimp only
  unfold post
  cases hstored : (path.postOutcome kMax queue events writeOk).stored <;> simp [hstored]

theorem pendingEvents_post (kMax : ℕ) (path : EventPath) (queue : MessageQueue Event)
    (events : List Event) (numWakeupEvents : ℕ) (writeOk : Bool) :
    (path.post kMax queue events numWakeupEvents writeOk).pendingEvents =
      path.pendingEvents ++
        if (path.postOutcome kMax queue events writeOk).stored then
          (path.postOutcome kMax queue events writeOk).left events
        else [] := by
  have hpending := (path.post_spec kMax queue events numWakeupEvents writeOk).2
  unfold pendingEvents
  rw [hpending, List.map_append, List.flatten_append]
  cases (path.postOutcome kMax queue events writeOk).stored <;> simp

/-! ## Draining -/

/-- The locals describe the batch at the front. -/
def Draining (path : EventPath) (locals : PendingWrite) : Prop :=
  ∃ events rest,
    path.mPendingWriteEventsQueue = (events, locals.numWakeupEvents) :: rest ∧
      locals.numToWrite = min events.length locals.eventQueueSize

theorem draining_of_pick {path : EventPath} {locals : PendingWrite}
    (hpick : path.pickPendingWrite = some locals) : path.Draining locals := by
  unfold pickPendingWrite at hpick
  split at hpick
  next events numWakeupEvents rest queue hpending _ =>
    rw [Option.some.injEq] at hpick
    subst locals
    exact ⟨events, rest, hpending, rfl⟩
  next => contradiction

theorem Draining.post {path : EventPath} {locals : PendingWrite}
    (hdraining : path.Draining locals) (kMax : ℕ) (queue : MessageQueue Event)
    (events : List Event) (numWakeupEvents : ℕ) (writeOk : Bool) :
    (path.post kMax queue events numWakeupEvents writeOk).Draining locals := by
  obtain ⟨front, rest, hpending, hnum⟩ := hdraining
  have hposted := (path.post_spec kMax queue events numWakeupEvents writeOk).2
  rw [hpending, List.cons_append] at hposted
  exact ⟨front, _, hposted, hnum⟩

theorem Draining.chunk_eq {path : EventPath} {locals : PendingWrite}
    (hdraining : path.Draining locals) :
    path.chunk locals = path.pendingEvents.take locals.numToWrite ∧
      locals.numToWrite ≤ path.pendingEvents.length := by
  obtain ⟨events, rest, hpending, hnum⟩ := hdraining
  have hle : locals.numToWrite ≤ events.length := hnum ▸ min_le_left _ _
  simp only [chunk, frontEvents, pendingEvents, hpending, List.map_cons, List.flatten_cons,
    List.length_append]
  exact ⟨(List.take_append_of_le_length hle).symm, by omega⟩

theorem Draining.pendingEvents_finish {path : EventPath} {locals : PendingWrite}
    (hdraining : path.Draining locals) :
    (path.finishPendingWrite locals).pendingEvents =
      path.pendingEvents.drop locals.numToWrite := by
  obtain ⟨events, rest, hpending, hnum⟩ := hdraining
  simp only [finishPendingWrite, pendingEvents, hpending, List.map_cons, List.flatten_cons]
  by_cases hlarge : events.length > locals.eventQueueSize
  · have hsize : locals.numToWrite = locals.eventQueueSize := by omega
    rw [if_pos hlarge, List.map_cons, List.flatten_cons,
      List.drop_append_of_le_length (by omega), hsize]
  · have hsize : locals.numToWrite = events.length := by omega
    rw [if_neg hlarge, hsize, List.drop_left]

end EventPath

end Camellia.Sensors

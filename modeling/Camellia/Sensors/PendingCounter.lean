import Camellia.Sensors.SystemSteps

/-!
# The counter of pending events

`mSizePendingWriteEventsQueue` is kept by hand: a post adds what it could not
write, the draining thread subtracts the chunk it took from the front batch, and
an initialization clears it.  The chunk is chosen in one locked section and
subtracted in another, while posts append in between.  The counter is exact all
the same, because the front batch is the thread's own until the second section.
-/

namespace Camellia.Sensors

namespace EventPath

def pendingSize (path : EventPath) : ℕ :=
  (path.mPendingWriteEventsQueue.map fun batch => batch.1.length).sum

/-- The counter agrees with the stored batches and stays in its bounds. -/
structure PendingCounted (kMaxSizePendingWriteEventsQueue : ℕ) (path : EventPath) :
    Prop where
  size : path.mSizePendingWriteEventsQueue = path.pendingSize
  bounded : path.mSizePendingWriteEventsQueue ≤ kMaxSizePendingWriteEventsQueue
  nonempty : ∀ batch ∈ path.mPendingWriteEventsQueue, batch.1 ≠ []
  observed : path.mSizePendingWriteEventsQueue ≤
    path.mMostEventsObservedPendingWriteEventsQueue

theorem pendingCounted_of_empty {kMax : ℕ} {path : EventPath}
    (hbatches : path.mPendingWriteEventsQueue = [])
    (hsize : path.mSizePendingWriteEventsQueue = 0) : path.PendingCounted kMax where
  size := by rw [hsize, pendingSize, hbatches, List.map_nil, List.sum_nil]
  bounded := by omega
  nonempty := by simp [hbatches]
  observed := by omega

theorem PendingCounted.withQueue {kMax : ℕ} {path : EventPath}
    (hcounted : path.PendingCounted kMax) (queue : Option (MessageQueue Event)) :
    { path with mEventQueue := queue }.PendingCounted kMax :=
  ⟨hcounted.size, hcounted.bounded, hcounted.nonempty, hcounted.observed⟩

theorem PendingCounted.post {kMax : ℕ} {path : EventPath}
    (hcounted : path.PendingCounted kMax) (queue : MessageQueue Event)
    (events : List Event) (numWakeupEvents : ℕ) (writeOk : Bool) :
    (path.post kMax queue events numWakeupEvents writeOk).PendingCounted kMax := by
  unfold EventPath.post
  cases hstored : (path.postOutcome kMax queue events writeOk).stored with
  | false =>
      simp only [hstored, Bool.false_eq_true, if_false]
      exact hcounted.withQueue _
  | true =>
      obtain ⟨hsome, hroom⟩ := of_decide_eq_true hstored
      have hlength : ((path.postOutcome kMax queue events writeOk).left events).length =
          events.length - (path.postOutcome kMax queue events writeOk).numToWrite :=
        List.length_drop
      change (path.postOutcome kMax queue events writeOk).numToWrite < events.length at hsome
      change path.mSizePendingWriteEventsQueue +
        (events.length - (path.postOutcome kMax queue events writeOk).numToWrite) ≤ kMax
          at hroom
      simp only [hstored, if_true]
      constructor
      · simp only [pendingSize, List.map_append, List.sum_append, List.map_cons,
          List.map_nil, List.sum_cons, List.sum_nil, Nat.add_zero, hlength, hcounted.size]
      · exact hroom
      · intro batch hbatch
        rcases List.mem_append.mp hbatch with hold | hnew
        · exact hcounted.nonempty batch hold
        · rw [List.mem_singleton.mp hnew]
          refine List.ne_nil_of_length_pos ?_
          rw [hlength]
          omega
      · exact le_max_right _ _

/-- The thread subtracts no more than is there. -/
theorem Draining.numToWrite_le {kMax : ℕ} {path : EventPath} {locals : PendingWrite}
    (hdraining : path.Draining locals) (hcounted : path.PendingCounted kMax) :
    locals.numToWrite ≤ path.mSizePendingWriteEventsQueue := by
  obtain ⟨events, rest, hpending, hnum⟩ := hdraining
  rw [hcounted.size, pendingSize, hpending, List.map_cons, List.sum_cons]
  dsimp only
  omega

theorem PendingCounted.finish {kMax : ℕ} {path : EventPath} {locals : PendingWrite}
    (hcounted : path.PendingCounted kMax) (hdraining : path.Draining locals) :
    (path.finishPendingWrite locals).PendingCounted kMax := by
  have hle := hdraining.numToWrite_le hcounted
  have hbounded := hcounted.bounded
  have hobserved := hcounted.observed
  have hnonempty := hcounted.nonempty
  obtain ⟨events, rest, hpending, hnum⟩ := hdraining
  have hsize : path.mSizePendingWriteEventsQueue =
      events.length + (rest.map fun batch => batch.1.length).sum := by
    rw [hcounted.size, pendingSize, hpending, List.map_cons, List.sum_cons]
  rw [hpending] at hnonempty
  simp only [finishPendingWrite, hpending]
  constructor
  · dsimp only [pendingSize]
    rw [hsize]
    by_cases hlarge : events.length > locals.eventQueueSize
    · rw [if_pos hlarge, List.map_cons, List.sum_cons, List.length_drop]
      omega
    · rw [if_neg hlarge]
      omega
  · exact (Nat.sub_le _ _).trans hbounded
  · intro batch hbatch
    by_cases hlarge : events.length > locals.eventQueueSize
    · rw [if_pos hlarge] at hbatch
      rcases List.mem_cons.mp hbatch with rfl | hrest
      · refine List.ne_nil_of_length_pos ?_
        rw [List.length_drop]
        omega
      · exact hnonempty batch (List.mem_cons_of_mem _ hrest)
    · rw [if_neg hlarge] at hbatch
      exact hnonempty batch (List.mem_cons_of_mem _ hbatch)
  · exact (Nat.sub_le _ _).trans hobserved

end EventPath

namespace System

open Transition

variable {header : HalProxyHeader}

theorem EventPathStep.counted {system : System} {path : EventPath}
    {thread : PendingWritesThread} {history : History}
    (hstep : EventPathStep header system path thread history)
    (hfits : ThreadFits system.proxy.eventPath system.pendingWritesThread)
    (hcounted : system.proxy.eventPath.PendingCounted
      header.kMaxSizePendingWriteEventsQueue) :
    path.PendingCounted header.kMaxSizePendingWriteEventsQueue := by
  cases hstep with
  | keep => exact hcounted
  | post call queue writeOk hcall hqueue =>
      exact hcounted.post queue call.events call.numWakeupEvents writeOk
  | pick locals hthread hpick => exact hcounted
  | write locals queue written hthread hqueue hwrite => exact hcounted.withQueue _
  | drop locals hthread => exact hcounted
  | finish locals hthread =>
      rw [hthread] at hfits
      exact hcounted.finish hfits
  | exit hthread => exact hcounted
  | read queue hwritten => exact hcounted.withQueue _
  | restart quantumCount hthread => exact EventPath.pendingCounted_of_empty rfl rfl

/-- The chunk that the draining thread has chosen and not yet subtracted. -/
def chosen : PendingWritesThread → Option PendingWrite
  | .writing locals => some locals
  | .written locals => some locals
  | _ => none

theorem draining_of_chosen {path : EventPath} {thread : PendingWritesThread}
    {locals : PendingWrite} (hfits : ThreadFits path thread)
    (hchosen : chosen thread = some locals) : path.Draining locals := by
  cases thread with
  | writing other =>
      rw [chosen, Option.some.injEq] at hchosen
      exact hchosen ▸ hfits
  | written other =>
      rw [chosen, Option.some.injEq] at hchosen
      exact hchosen ▸ hfits
  | stopped => simp [chosen] at hchosen
  | waiting => simp [chosen] at hchosen

/-- In every state of every run the counter of pending events is the sum of the sizes
of the stored batches and within its bounds, no batch is empty, and the chunk the
draining thread will subtract is no larger than the counter. -/
theorem pending_counter_exact (header : HalProxyHeader) (subHals : SubHalList)
    (actions : List Action) :
    EveryState (step header)
      (fun system =>
        system.proxy.eventPath.PendingCounted header.kMaxSizePendingWriteEventsQueue ∧
          ∀ locals, chosen system.pendingWritesThread = some locals →
            locals.numToWrite ≤ system.proxy.eventPath.mSizePendingWriteEventsQueue)
      (construct subHals) actions := by
  have hinvariant : EveryState (step header)
      (fun system =>
        system.proxy.eventPath.PendingCounted header.kMaxSizePendingWriteEventsQueue ∧
          ThreadFits system.proxy.eventPath system.pendingWritesThread)
      (construct subHals) actions := by
    apply EveryState.of_invariant
    · rintro system action next ⟨hcounted, hfits⟩ hstep
      have hpath := (step_effects hstep).eventPath
      exact ⟨hpath.counted hfits hcounted, hpath.threadFits hfits⟩
    · exact ⟨EventPath.pendingCounted_of_empty rfl rfl, trivial⟩
  refine hinvariant.imp ?_
  rintro system ⟨hcounted, hfits⟩
  exact ⟨hcounted, fun locals hchosen =>
    (draining_of_chosen hfits hchosen).numToWrite_le hcounted⟩

end System

end Camellia.Sensors

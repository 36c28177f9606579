import Camellia.SettlementLog
import Camellia.Sensors.SystemSteps

/-!
# Delivery of posted events

Two writers feed the event queue: a post that finds nothing pending, and the
thread that drains the pending batches and releases the mutex while it writes.
They do not interfere, because the batch being written stays at the front until
the write is over, so that posts in between find something pending.

The account of every posted event is kept in a log whose items are settled in
order of arrival.
-/

namespace Camellia.Sensors
namespace System

open Transition SettlementLog

variable {header : HalProxyHeader}

inductive Fate where
  | written
  | pending
  | discarded
  | failed
deriving DecidableEq

/-- The events in `mPendingWriteEventsQueue`, without the chunk that the thread has
already written or dropped but not yet removed. -/
def undrained (path : EventPath) : PendingWritesThread → List Event
  | .written locals => path.pendingEvents.drop locals.numToWrite
  | _ => path.pendingEvents

def settledFates : Set Fate := {.written, .failed}

/-- A log that accounts for all posted events. -/
structure Accounts (path : EventPath) (thread : PendingWritesThread) (history : History)
    (queue : MessageQueue Event) (log : List (Event × Fate)) : Prop where
  posted : items log = history.posted
  written : labelled .written log = queue.written
  pending : labelled .pending log = undrained path thread
  discarded : labelled .discarded log = history.discarded
  failed : labelled .failed log = history.failed
  frontier : Frontier .pending settledFates log

def Accounted (path : EventPath) (thread : PendingWritesThread) (history : History) : Prop :=
  ThreadFits path thread ∧
    ∃ queue log, path.mEventQueue = some queue ∧ Accounts path thread history queue log

theorem undrained_of_pending_nil {path : EventPath} {thread : PendingWritesThread}
    (hnone : path.mPendingWriteEventsQueue = []) : undrained path thread = [] := by
  cases thread <;> simp [undrained, EventPath.pendingEvents, hnone]

theorem undrained_post {path : EventPath} {thread : PendingWritesThread}
    (hfits : ThreadFits path thread) (kMax : ℕ) (queue : MessageQueue Event)
    (events : List Event) (numWakeupEvents : ℕ) (writeOk : Bool) :
    undrained (path.post kMax queue events numWakeupEvents writeOk) thread =
      undrained path thread ++
        if (path.postOutcome kMax queue events writeOk).stored then
          (path.postOutcome kMax queue events writeOk).left events
        else [] := by
  have hpost := path.pendingEvents_post kMax queue events numWakeupEvents writeOk
  cases thread with
  | written locals =>
      have hle := (EventPath.Draining.chunk_eq hfits).2
      simp only [undrained]
      rw [hpost, List.drop_append_of_le_length hle]
  | _ => exact hpost

def postEntries (outcome : PostOutcome) (events : List Event) : List (Event × Fate) :=
  entries Fate.written (outcome.written events) ++
    entries (if outcome.stored then Fate.pending else Fate.discarded) (outcome.left events)

theorem items_postEntries (outcome : PostOutcome) (events : List Event) :
    items (postEntries outcome events) = events := by
  simp [postEntries, PostOutcome.written, PostOutcome.left]

theorem frontier_postEntries (outcome : PostOutcome) (events : List Event) :
    Frontier Fate.pending settledFates (postEntries outcome events) := by
  refine (frontier_entries_of_ne (by decide) _).append (frontier_entries_of_notMem ?_ _)
    (Or.inl ?_)
  · cases outcome.stored <;> simp [settledFates]
  · intro entry hmem
    obtain ⟨event, _, rfl⟩ := List.mem_map.mp hmem
    exact Fate.noConfusion

theorem Accounts.post {path : EventPath} {thread : PendingWritesThread} {history : History}
    {queue : MessageQueue Event} {log : List (Event × Fate)}
    (haccounts : Accounts path thread history queue log) (hfits : ThreadFits path thread)
    (kMax : ℕ) (events : List Event) (numWakeupEvents : ℕ) (writeOk : Bool)
    (origins : List (List Event)) :
    Accounts (path.post kMax queue events numWakeupEvents writeOk) thread
      { posted := history.posted ++ events
        discarded := history.discarded ++
          (path.postOutcome kMax queue events writeOk).discarded events
        failed := history.failed
        origins := origins }
      (path.postOutcome kMax queue events writeOk).queue
      (log ++ postEntries (path.postOutcome kMax queue events writeOk) events) := by
  obtain ⟨_, hwritten, hbehind⟩ := path.postOutcome_spec kMax queue events writeOk
  have hundrained := undrained_post hfits kMax queue events numWakeupEvents writeOk
  generalize hresult : path.postOutcome kMax queue events writeOk = outcome at *
  refine ⟨?_, ?_, ?_, ?_, ?_, ?_⟩
  · rw [items_append, haccounts.posted, items_postEntries]
  · rw [labelled_append, haccounts.written, hwritten]
    cases hstored : outcome.stored <;> simp [postEntries, labelled_entries, hstored]
  · rw [labelled_append, haccounts.pending, hundrained]
    cases hstored : outcome.stored <;> simp [postEntries, labelled_entries, hstored]
  · rw [labelled_append, haccounts.discarded]
    cases hstored : outcome.stored <;>
      simp [postEntries, PostOutcome.discarded, labelled_entries, hstored]
  · rw [labelled_append, haccounts.failed]
    cases hstored : outcome.stored <;> simp [postEntries, labelled_entries, hstored]
  · refine haccounts.frontier.append (frontier_postEntries outcome events) ?_
    by_cases hnone : path.mPendingWriteEventsQueue = []
    · left
      apply ne_pending_of_labelled_eq_nil
      rw [haccounts.pending, undrained_of_pending_nil hnone]
    · right
      intro entry hmem
      have hzero : outcome.written events = [] := by
        simp [PostOutcome.written, hbehind hnone]
      rw [postEntries, hzero] at hmem
      obtain ⟨event, _, rfl⟩ := List.mem_map.mp hmem
      cases outcome.stored <;> simp [settledFates]

theorem Accounts.write {path : EventPath} {locals : PendingWrite} {history : History}
    {queue written : MessageQueue Event} {log : List (Event × Fate)}
    (haccounts : Accounts path (.writing locals) history queue log)
    (hdraining : path.Draining locals) (hwrite : queue.write (path.chunk locals) = some written) :
    Accounts { path with mEventQueue := some written } (.written locals) history written
      (settle .pending .written locals.numToWrite log) where
  posted := (items_settle _ _ _ log).trans haccounts.posted
  written := by
    rw [labelled_settle_label (by decide) (by simp [settledFates]) _ haccounts.frontier,
      haccounts.written, haccounts.pending, (MessageQueue.write_spec hwrite).1,
      hdraining.chunk_eq.1]
    rfl
  pending := by
    rw [labelled_settle_pending (by decide), haccounts.pending]
    rfl
  discarded := by
    rw [labelled_settle_other (by decide) (by decide), haccounts.discarded]
  failed := by
    rw [labelled_settle_other (by decide) (by decide), haccounts.failed]
  frontier := haccounts.frontier.settle (by decide) _

theorem Accounts.drop {path : EventPath} {locals : PendingWrite} {history : History}
    {queue : MessageQueue Event} {log : List (Event × Fate)}
    (haccounts : Accounts path (.writing locals) history queue log)
    (hdraining : path.Draining locals) :
    Accounts path (.written locals)
      { history with failed := history.failed ++ path.chunk locals } queue
      (settle .pending .failed locals.numToWrite log) where
  posted := (items_settle _ _ _ log).trans haccounts.posted
  written := by
    rw [labelled_settle_other (by decide) (by decide), haccounts.written]
  pending := by
    rw [labelled_settle_pending (by decide), haccounts.pending]
    rfl
  discarded := by
    rw [labelled_settle_other (by decide) (by decide), haccounts.discarded]
  failed := by
    rw [labelled_settle_label (by decide) (by simp [settledFates]) _ haccounts.frontier,
      haccounts.failed, haccounts.pending, hdraining.chunk_eq.1]
    rfl
  frontier := haccounts.frontier.settle (by decide) _

theorem Accounts.transport {path path' : EventPath} {thread thread' : PendingWritesThread}
    {history history' : History} {queue queue' : MessageQueue Event}
    {log : List (Event × Fate)} (haccounts : Accounts path thread history queue log)
    (hundrained : undrained path' thread' = undrained path thread)
    (hqueue : queue'.written = queue.written)
    (hposted : history'.posted = history.posted)
    (hdiscarded : history'.discarded = history.discarded)
    (hfailed : history'.failed = history.failed) :
    Accounts path' thread' history' queue' log where
  posted := haccounts.posted.trans hposted.symm
  written := haccounts.written.trans hqueue.symm
  pending := haccounts.pending.trans hundrained.symm
  discarded := haccounts.discarded.trans hdiscarded.symm
  failed := haccounts.failed.trans hfailed.symm
  frontier := haccounts.frontier

theorem accounts_initial (path : EventPath) (quantumCount : ℕ)
    (hnone : path.mPendingWriteEventsQueue = []) :
    Accounts path .waiting .initial (MessageQueue.empty quantumCount) [] where
  posted := rfl
  written := rfl
  pending := (undrained_of_pending_nil hnone).symm
  discarded := rfl
  failed := rfl
  frontier := List.Pairwise.nil

theorem EventPathStep.accounted {system : System} {path : EventPath}
    {thread : PendingWritesThread} {history : History}
    (hstep : EventPathStep header system path thread history)
    (haccounted : Accounted system.proxy.eventPath system.pendingWritesThread
      system.history) :
    Accounted path thread history := by
  refine ⟨hstep.threadFits haccounted.1, ?_⟩
  obtain ⟨hfits, queue, log, hqueue, haccounts⟩ := haccounted
  cases hstep with
  | keep => exact ⟨queue, log, hqueue, haccounts⟩
  | post call posted writeOk hcall hposted =>
      obtain rfl : queue = posted := Option.some.inj (hqueue.symm.trans hposted)
      exact ⟨_, _, (EventPath.post_spec _ _ queue call.events call.numWakeupEvents writeOk).1,
        haccounts.post hfits _ call.events call.numWakeupEvents writeOk _⟩
  | pick locals hthread hpick =>
      rw [hthread] at haccounts
      exact ⟨queue, log, hqueue, haccounts.transport rfl rfl rfl rfl rfl⟩
  | write locals before written hthread hbefore hwrite =>
      obtain rfl : queue = before := Option.some.inj (hqueue.symm.trans hbefore)
      rw [hthread] at haccounts hfits
      exact ⟨written, _, rfl, haccounts.write hfits hwrite⟩
  | drop locals hthread =>
      rw [hthread] at haccounts hfits
      exact ⟨queue, _, hqueue, haccounts.drop hfits⟩
  | finish locals hthread =>
      rw [hthread] at haccounts hfits
      have hsame : (system.proxy.eventPath.finishPendingWrite locals).mEventQueue =
          system.proxy.eventPath.mEventQueue := by
        unfold EventPath.finishPendingWrite
        split <;> rfl
      exact ⟨queue, log, hsame.trans hqueue, haccounts.transport
        (EventPath.Draining.pendingEvents_finish hfits) rfl rfl rfl rfl⟩
  | exit hthread =>
      rw [hthread] at haccounts
      exact ⟨queue, log, hqueue, haccounts.transport rfl rfl rfl rfl rfl⟩
  | read after hwritten =>
      rw [hqueue, Option.map_some, Option.map_eq_some_iff] at hwritten
      obtain ⟨read, hread, hlog⟩ := hwritten
      refine ⟨read, log, hread, haccounts.transport ?_ hlog rfl rfl rfl⟩
      cases system.pendingWritesThread <;> rfl
  | restart quantumCount hthread =>
      exact ⟨_, [], rfl, accounts_initial _ quantumCount rfl⟩

/-- From an initialization on, every posted event is written, still pending, discarded
or in a chunk whose write failed; each has one of these fates and the written ones
reached the queue in the order their calls held the mutex. -/
theorem posted_events_accounted (header : HalProxyHeader) {system started final : System}
    {args : HalProxy.InitializeArgs} {timeNow : ℤ} {actions : List Action}
    (hstart : step header system (.initializeCommon args timeNow) = some started)
    (hothers : ∀ action ∈ actions, action.isInitializeCommon = false)
    (hrun : run (step header) started actions = some final) :
    ∃ queue, final.proxy.eventPath.mEventQueue = some queue ∧
      queue.written.Sublist final.history.posted ∧
      ∃ log : List (Event × Fate),
        items log = final.history.posted ∧
          labelled .written log = queue.written ∧
          labelled .pending log =
            undrained final.proxy.eventPath final.pendingWritesThread ∧
          labelled .discarded log = final.history.discarded ∧
          labelled .failed log = final.history.failed := by
  have hstarted : Accounted started.proxy.eventPath started.pendingWritesThread
      started.history := by
    simp only [step, Option.ite_none_right_eq_some, Option.some.injEq] at hstart
    obtain ⟨_, rfl⟩ := hstart
    exact ⟨trivial, _, [], rfl, accounts_initial _ args.quantumCount rfl⟩
  obtain ⟨_, queue, log, hqueue, haccounts⟩ :
      Accounted final.proxy.eventPath final.pendingWritesThread final.history :=
    run_preserves
      (P := fun state =>
        Accounted state.proxy.eventPath state.pendingWritesThread state.history)
      (fun _ _ _ _ haccounted hstep => (step_effects hstep).eventPath.accounted haccounted)
      hothers hstarted hrun
  have hsublist := labelled_sublist_items Fate.written log
  rw [haccounts.written, haccounts.posted] at hsublist
  exact ⟨queue, hqueue, hsublist, log, haccounts.posted, haccounts.written,
    haccounts.pending, haccounts.discarded, haccounts.failed⟩

/-- One event of three is written directly and one by the thread; the last is in a
chunk whose write fails. -/
def splitDelivery : List Action :=
  [.initializeSubHals fun _ => .ok, .createScopedWakelock true 1,
    .postEvents 0 0 [sampleEvent 1 10, sampleEvent 1 20, sampleEvent 1 30],
    .postEventsToMessageQueue 0 true 2, .readEvents 1, .pickPendingWrite,
    .writeBlocking true, .finishPendingWrite, .pickPendingWrite, .writeBlocking false]

theorem posted_events_accounted_example :
    let final := sampleState ((startUp 1).take 2 ++ splitDelivery)
    final.history.posted = [sampleEvent 1 10, sampleEvent 1 20, sampleEvent 1 30] ∧
      final.history.failed = [sampleEvent 1 30] ∧
      ∃ queue, final.proxy.eventPath.mEventQueue = some queue ∧
        queue.written.Sublist final.history.posted := by
  intro final
  have hstart : step sampleHeader (sampleState ((startUp 1).take 1))
      (.initializeCommon
        { quantumCount := 1, eventFlagCreated := true, wakelockFlagCreated := true } 0) =
      some (sampleState ((startUp 1).take 2)) := rfl
  have hothers : ∀ action ∈ splitDelivery, action.isInitializeCommon = false := by
    simp [splitDelivery, Action.isInitializeCommon]
  have hrun : run (step sampleHeader) (sampleState ((startUp 1).take 2)) splitDelivery =
      some final := rfl
  obtain ⟨queue, hqueue, hsublist, _⟩ :=
    posted_events_accounted sampleHeader hstart hothers hrun
  exact ⟨rfl, rfl, queue, hqueue, hsublist⟩

end System
end Camellia.Sensors

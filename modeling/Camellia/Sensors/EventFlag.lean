import Camellia.Sensors.SystemSteps

/-!
# The event flag after a failed initialization

When `createEventFlag` fails, `initializeCommon` notes it in the result it will
return and goes on: the threads are started and the sub-HALs initialized with a
null `mEventQueueFlag`.  A post calls `wake` on the flag once it has written
something, and unlike `stopThreads` does not look at the pointer first.
-/

namespace Camellia.Sensors

namespace EventPath

/-- Whether `postEventsToMessageQueue` calls `wake`. -/
def wakesReader (path : EventPath) (queue : MessageQueue Event) (events : List Event)
    (writeOk : Bool) : Bool :=
  if path.mPendingWriteEventsQueue.isEmpty then
    let numToWrite := min events.length queue.availableToWrite
    if numToWrite > 0 then
      (if writeOk then queue.write (events.take numToWrite) else none).isSome
    else false
  else false

/-- It does exactly when it has written events. -/
theorem wakesReader_iff_written (kMax : ℕ) (path : EventPath) (queue : MessageQueue Event)
    (events : List Event) (writeOk : Bool) :
    path.wakesReader queue events writeOk = true ↔
      0 < (path.postOutcome kMax queue events writeOk).numToWrite := by
  change _ ↔ 0 < (path.writeDirectly queue events writeOk).2
  unfold wakesReader writeDirectly
  cases path.mPendingWriteEventsQueue.isEmpty with
  | false => simp
  | true =>
      simp only [if_true]
      by_cases hpos : min events.length queue.availableToWrite > 0
      · rw [if_pos hpos, if_pos hpos]
        cases (if writeOk then
            queue.write (events.take (min events.length queue.availableToWrite))
          else none) with
        | none => simp
        | some next => simpa using hpos
      · rw [if_neg hpos, if_neg hpos]
        simpa using hpos

theorem wakesReader_iff (path : EventPath) (queue : MessageQueue Event)
    (events : List Event) (writeOk : Bool) :
    path.wakesReader queue events writeOk = true ↔
      path.mPendingWriteEventsQueue = [] ∧ events ≠ [] ∧ 0 < queue.availableToWrite ∧
        writeOk = true := by
  rw [path.wakesReader_iff_written 0, postOutcome_numToWrite]
  unfold directlyWritten
  by_cases hboth : path.mPendingWriteEventsQueue.isEmpty ∧ writeOk
  · obtain ⟨hempty, hwrite⟩ := hboth
    simp [hwrite, List.isEmpty_iff.mp hempty, List.length_pos_iff]
  · rw [if_neg hboth]
    rw [List.isEmpty_iff] at hboth
    simp only [Nat.lt_irrefl, false_iff]
    rintro ⟨hempty, _, _, hwrite⟩
    exact hboth ⟨hempty, hwrite⟩

end EventPath

namespace System

open Transition

variable {header : HalProxyHeader}

/-- The step is a post that calls `wake` on a null `mEventQueueFlag`. -/
def WakesNull (system : System) : Action → Prop
  | .postEventsToMessageQueue index writeOk _ =>
      ∃ post queue, system.posts[index]? = some post ∧
        system.proxy.eventPath.mEventQueue = some queue ∧
        system.proxy.eventPath.wakesReader queue post.events writeOk = true ∧
        system.proxy.mEventQueueFlag = false
  | _ => False

/-- If the step is a post and the flag is null, the post has nothing to write, no
leave to write it at once, no room for it, or the write fails. -/
def WritesNothingUnflagged (system : System) : Action → Prop
  | .postEventsToMessageQueue index writeOk _ =>
      ∀ post queue, system.posts[index]? = some post →
        system.proxy.eventPath.mEventQueue = some queue →
        system.proxy.mEventQueueFlag = false →
          post.events = [] ∨ system.proxy.eventPath.mPendingWriteEventsQueue ≠ [] ∨
            queue.availableToWrite = 0 ∨ writeOk = false
  | _ => True

theorem not_wakesNull_iff (system : System) (action : Action) :
    ¬WakesNull system action ↔ WritesNothingUnflagged system action := by
  cases action with
  | postEventsToMessageQueue index writeOk timeNow =>
      simp only [WakesNull, WritesNothingUnflagged, EventPath.wakesReader_iff]
      constructor
      · intro hnever post queue hpost hqueue hflag
        by_contra hwrites
        simp only [not_or, not_not, Bool.not_eq_false] at hwrites
        exact hnever ⟨post, queue, hpost, hqueue, ⟨hwrites.2.1, hwrites.1,
          Nat.pos_of_ne_zero hwrites.2.2.1, hwrites.2.2.2⟩, hflag⟩
      · rintro hnothing ⟨post, queue, hpost, hqueue, ⟨hempty, hsome, hroom, hwrite⟩, hflag⟩
        rcases hnothing post queue hpost hqueue hflag with hnil | hpending | hfull | hfails
        · exact hsome hnil
        · exact hpending hempty
        · omega
        · exact absurd (hwrite.symm.trans hfails) (by decide)
  | _ => simp [WakesNull, WritesNothingUnflagged]

def CreatesEventFlag : Action → Prop
  | .initializeCommon args _ => args.eventFlagCreated = true
  | _ => True

/-- Where every initialization creates the flag, there is one as soon as there is an
event queue. -/
theorem flagged_step {system next : System} {action : Action}
    (hcreates : CreatesEventFlag action)
    (hflagged : system.proxy.eventPath.mEventQueue.isSome = true →
      system.proxy.mEventQueueFlag = true)
    (hstep : step header system action = some next) :
    next.proxy.eventPath.mEventQueue.isSome = true → next.proxy.mEventQueueFlag = true := by
  have heffects := service_effects hstep
  rw [heffects.mEventQueue, heffects.mEventQueueFlag]
  cases action with
  | initializeCommon args timeNow => exact fun _ => hcreates
  | _ => simpa only [eventQueueFlagAfter, Action.isInitializeCommon, Bool.or_false] using hflagged

theorem not_wakesNull_of_created {subHals : SubHalList} {actions : List Action}
    (hcreated : ∀ action ∈ actions, CreatesEventFlag action) :
    EveryStep (step header) (fun system action => ¬WakesNull system action)
      (construct subHals) actions := by
  refine EveryStep.of_remaining
    (J := fun system rest => (∀ action ∈ rest, CreatesEventFlag action) ∧
      (system.proxy.eventPath.mEventQueue.isSome = true →
        system.proxy.mEventQueueFlag = true)) ?_ ⟨hcreated, ?_⟩
  · rintro system action rest next ⟨hcreated, hflagged⟩ hstep
    refine ⟨?_, fun other hother => hcreated other (List.mem_cons_of_mem _ hother),
      flagged_step (hcreated action List.mem_cons_self) hflagged hstep⟩
    rw [not_wakesNull_iff]
    cases action with
    | postEventsToMessageQueue index writeOk timeNow =>
        intro post queue _ hqueue hflag
        rw [hqueue] at hflagged
        exact absurd (hflag.symm.trans (hflagged rfl)) (by decide)
    | _ => trivial
  · intro hqueue
    exact absurd hqueue Bool.false_ne_true

/-- `createEventFlag` fails, `initialize` has returned `BAD_VALUE`, and a sub-HAL is
about to post one event into an empty queue of four. -/
def failedInitialize : List Action :=
  [.stopThreads,
    .initializeCommon
      { quantumCount := 4, eventFlagCreated := false, wakelockFlagCreated := true } 0,
    .initializeSubHals fun _ => .ok, .createScopedWakelock true 1,
    .postEvents 0 0 [sampleEvent 1 50]]

end System

end Camellia.Sensors

import Camellia.Sensors.SystemSteps

/-!
# The static sensor list over whole runs

Nothing assigns to `mSensors` after the constructor, but two operations read it
by subscript, which inserts a missing key.  The list stays as it was built
exactly as long as they only meet handles that are in it.
-/

namespace Camellia.Sensors
namespace System

open Transition

structure ListFrozen (built : SensorMap) (system : System) : Prop where
  mSensors : system.proxy.mSensors = built
  getSensorsList_2_1 : Sensors.getSensorsList_2_1 system.proxy.mSensors =
    Sensors.getSensorsList_2_1 built
  getSensorsList : ∀ {α : Type} (convertToOldSensorInfo : SensorInfo → α),
    Sensors.getSensorsList convertToOldSensorInfo system.proxy.mSensors =
      Sensors.getSensorsList convertToOldSensorInfo built
  staticHandles : sensorHandles system.proxy.mSensors = sensorHandles built
  disableAllSensors : ∀ mDynamicSensors,
    Sensors.disableAllSensors system.proxy.mSubHalList system.proxy.mSensors
        mDynamicSensors =
      Sensors.disableAllSensors system.proxy.mSubHalList built mDynamicSensors

theorem listFrozen_iff (built : SensorMap) (system : System) :
    ListFrozen built system ↔ system.proxy.mSensors = built := by
  constructor
  · exact ListFrozen.mSensors
  · rintro rfl
    exact ⟨rfl, rfl, fun _ => rfl, rfl, fun _ => rfl⟩

/-- Where `getSensorInfo` evaluates its subscript, the events of a processed batch are
of listed handles; so are those counted when an oversized batch with wake-up events
loses a chunk. -/
def SubscriptsListed (header : HalProxyHeader) (system : System) : Action → Prop
  | .postEvents mSubHalIndex _ events =>
      header.getSensorInfoSubscripts = true → system.proxy.mThreadsRun = true →
        ∀ event ∈ events, (HalProxyCallback.tagEvent mSubHalIndex event).sensorHandle ∈
          system.proxy.mSensors
  | .writeBlocking false =>
      ∀ locals, system.pendingWritesThread = .writing locals →
        locals.numWakeupEvents > 0 →
          system.proxy.eventPath.frontEvents.length > locals.eventQueueSize →
            ∀ event ∈ system.proxy.eventPath.frontEvents.take locals.eventQueueSize,
              event.sensorHandle ∈ system.proxy.mSensors
  | _ => True

theorem subscriptsListed_iff (header : HalProxyHeader) (system : System) (action : Action) :
    SubscriptsListed header system action ↔
      ∀ handle ∈ subscripted header system action, handle ∈ system.proxy.mSensors := by
  cases action with
  | postEvents mSubHalIndex index events =>
      simp only [SubscriptsListed, subscripted, HalProxyCallback.processedHandles]
      cases hrunning : system.proxy.mThreadsRun with
      | false => simp
      | true =>
          cases header.getSensorInfoSubscripts <;> cases events <;> simp
  | writeBlocking success =>
      cases success with
      | true => simp [SubscriptsListed, subscripted]
      | false =>
          simp only [SubscriptsListed, subscripted]
          cases hthread : system.pendingWritesThread with
          | writing locals =>
              simp only [PendingWritesThread.writing.injEq, forall_eq',
                EventPath.droppedSubscripts, countedHandles]
              by_cases hcounts : locals.numWakeupEvents > 0 ∧
                  system.proxy.eventPath.frontEvents.length > locals.eventQueueSize
              · rw [if_pos hcounts, List.forall_mem_map]
                exact ⟨fun hlisted => hlisted hcounts.1 hcounts.2, fun hlisted _ _ => hlisted⟩
              · rw [if_neg hcounts]
                simp only [List.not_mem_nil, false_implies, forall_const, iff_true]
                exact fun hpos hlarge => absurd ⟨hpos, hlarge⟩ hcounts
          | _ => simp
  | _ => simp [SubscriptsListed, subscripted]

/-- In every run the static list stays as it was built, in all states passed through,
if and only if every subscript meets a listed handle. -/
theorem sensors_frozen_iff (header : HalProxyHeader) (subHals : SubHalList)
    (actions : List Action) :
    EveryState (step header) (ListFrozen (initializeSensorList subHals).mSensors)
        (construct subHals) actions ↔
      EveryStep (step header) (SubscriptsListed header) (construct subHals) actions := by
  apply everyState_iff_everyStep
  · intro system action next hfrozen hstep
    rw [listFrozen_iff] at hfrozen ⊢
    rw [(step_effects hstep).mSensors, subscriptsListed_iff, ← hfrozen]
    exact SensorMap.subscriptAll_eq_self_iff _ _
  · exact (listFrozen_iff _ _).mpr rfl

def findingHeader : HalProxyHeader where
  kMaxSizePendingWriteEventsQueue := 4
  kWakelockTimeoutNs := 10
  getSensorInfoSubscripts := false

def connectedSensor : SensorInfo where
  sensorHandle := 7
  type := 8
  typeAsString := "proximity"
  maxRange := 0
  flags := 0

/-- An event of a connected dynamic sensor is in the first chunk of an oversized batch,
whose write fails. -/
def dynamicEventDropped : List Action :=
  startUp 1 ++
    [.onDynamicSensorsConnected [connectedSensor] 0, .createScopedWakelock true 1,
      .postEvents 0 0 [sampleEvent 1 10, sampleEvent 7 20, sampleEvent 1 30],
      .postEventsToMessageQueue 0 true 2, .pickPendingWrite, .writeBlocking false]

theorem dynamic_sensor_inserted :
    ¬EveryState (step findingHeader)
      (ListFrozen (initializeSensorList sampleSubHals).mSensors)
      (construct sampleSubHals) dynamicEventDropped := by
  intro hevery
  obtain ⟨final, hrun, hhandles⟩ : ∃ final,
      run (step findingHeader) (construct sampleSubHals) dynamicEventDropped = some final ∧
        sensorHandles final.proxy.mSensors = [1, 2, 7] :=
    ⟨_, rfl, by decide⟩
  have hfrozen := (hevery.final hrun).staticHandles
  rw [hhandles] at hfrozen
  revert hfrozen
  decide

end System
end Camellia.Sensors

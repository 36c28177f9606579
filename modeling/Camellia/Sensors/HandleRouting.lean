import Camellia.Sensors.HalProxyCallback
import Camellia.Sensors.SensorList

/-!
# Routing by sensor handle

The handle of a listed sensor names the sub-HAL it came from.  Requests on it go
back to that sub-HAL under the handle it reported, and events of that sub-HAL
carry it, as long as the index fits in the seven bits that a signed first byte
leaves for it.
-/

namespace Camellia.Sensors

/-! ## Sensors are stored under their own handle -/

def KeyedByHandle (sensors : SensorMap) : Prop :=
  ∀ handle ∈ sensors, (sensors.lookup handle).sensorHandle = handle

theorem KeyedByHandle.insert {sensors : SensorMap} (hkeyed : KeyedByHandle sensors)
    (sensor : SensorInfo) : KeyedByHandle (sensors.insert sensor.sensorHandle sensor) := by
  intro handle hmem
  unfold SensorMap.lookup
  rw [Std.TreeMap.getD_insert]
  by_cases hkey : sensor.sensorHandle = handle
  · rw [if_pos (Std.LawfulEqCmp.compare_eq_iff_eq.mpr hkey)]
    exact hkey
  · rw [if_neg (mt Std.LawfulEqCmp.eq_of_compare hkey)]
    rcases (SensorMap.mem_insert_iff _ _ _ _).mp hmem with hnew | hold
    · exact absurd hnew.symm hkey
    · exact hkeyed handle hold

theorem KeyedByHandle.addSensor {table : SensorTable} (hkeyed : KeyedByHandle table.mSensors)
    (index : ℕ) (sensor : SensorInfo) :
    KeyedByHandle (addSensor index table sensor).mSensors := by
  unfold Sensors.addSensor
  split
  · exact hkeyed
  · dsimp only
    split
    · exact hkeyed
    · exact hkeyed.insert _

theorem keyedByHandle_initializeSensorList (subHals : SubHalList) :
    KeyedByHandle (initializeSensorList subHals).mSensors := by
  unfold initializeSensorList
  have hstart : KeyedByHandle (∅ : SensorMap) :=
    fun handle hmem => absurd hmem Std.TreeMap.not_mem_emptyc
  refine List.foldlRecOn _ _ (motive := fun table : SensorTable =>
    KeyedByHandle table.mSensors) hstart fun table hkeyed entry _ => ?_
  exact List.foldlRecOn _ _ (motive := fun table : SensorTable =>
    KeyedByHandle table.mSensors) hkeyed fun table hkeyed sensor _ =>
      hkeyed.addSensor entry.2 sensor

/-! ## Requests and events -/

section Routing

variable (subHals : SubHalList)

structure RoutesTo (listed : SensorHandle) (index : ℕ) (handle : SensorHandle) : Prop where
  activate : ∀ enabled, activate subHals listed enabled =
    .ok { subHal := index, request := .activate handle enabled }
  batch : ∀ samplingPeriodNs maxReportLatencyNs,
    batch subHals listed samplingPeriodNs maxReportLatencyNs =
      .ok { subHal := index, request := .batch handle samplingPeriodNs maxReportLatencyNs }
  flush : flush subHals listed = .ok { subHal := index, request := .flush handle }

variable {subHals}

theorem Lists.routesTo {index : ℕ} {sensor : SensorInfo} (hlists : Lists subHals index sensor)
    (hsmall : index < 128) :
    RoutesTo subHals (setSubHalIndex sensor.sensorHandle index) index
      sensor.sensorHandle := by
  have hforward : ∀ request, forwardRequest subHals
      (setSubHalIndex sensor.sensorHandle index) request =
        .ok { subHal := index, request := request sensor.sensorHandle } := fun request =>
    (forwardRequest_setSubHalIndex_iff hlists.reports.index_lt hlists.isClear request).mpr
      hsmall
  exact ⟨fun enabled => hforward _, fun sampling latency => hforward _, hforward _⟩

theorem Lists.handle_injective {index otherIndex : ℕ} {sensor other : SensorInfo}
    (hlists : Lists subHals index sensor) (hother : Lists subHals otherIndex other)
    (hsize : subHals.size ≤ 128)
    (heq : setSubHalIndex sensor.sensorHandle index =
      setSubHalIndex other.sensorHandle otherIndex) :
    index = otherIndex ∧ sensor.sensorHandle = other.sensorHandle :=
  setSubHalIndex_injective hlists.isClear hother.isClear
    (hlists.reports.index_lt.trans_le hsize) (hother.reports.index_lt.trans_le hsize) heq

end Routing

/-- A kept sensor is stored under its encoded handle; each request on that handle goes
back where the sensor came from exactly when the index is below 128.  With at most 128
sub-HALs every listed sensor is reachable and no two share a handle.  Events are
forwarded under the encoded handle of their sub-HAL. -/
theorem handle_routing_round_trip (subHals : SubHalList) :
    let mSensors := (initializeSensorList subHals).mSensors
    (∀ index sensor, Lists subHals index sensor →
      let listed := setSubHalIndex sensor.sensorHandle index
      (listed ∈ mSensors ∧ (mSensors.lookup listed).sensorHandle = listed) ∧
        (∀ enabled, activate subHals listed enabled =
          .ok { subHal := index, request := .activate sensor.sensorHandle enabled } ↔
            index < 128) ∧
        (∀ samplingPeriodNs maxReportLatencyNs,
          batch subHals listed samplingPeriodNs maxReportLatencyNs =
            .ok { subHal := index
                  request := .batch sensor.sensorHandle samplingPeriodNs
                    maxReportLatencyNs } ↔ index < 128) ∧
        (flush subHals listed =
          .ok { subHal := index, request := .flush sensor.sensorHandle } ↔
            index < 128)) ∧
    (subHals.size ≤ 128 →
      (∀ listed ∈ mSensors, ∃ index sensor, Lists subHals index sensor ∧
        listed = setSubHalIndex sensor.sensorHandle index ∧
        RoutesTo subHals listed index sensor.sensorHandle) ∧
      ∀ index sensor otherIndex other, Lists subHals index sensor →
        Lists subHals otherIndex other →
        setSubHalIndex sensor.sensorHandle index =
          setSubHalIndex other.sensorHandle otherIndex →
        index = otherIndex ∧ sensor.sensorHandle = other.sensorHandle) ∧
    ∀ (index : ℕ) (subscripts : Bool) (sensors : SensorMap) (events : List Event),
      (HalProxyCallback.processEvents subscripts sensors (int32OfSize index)
          events).eventsOut =
        (events.map fun event =>
          { event with sensorHandle := setSubHalIndex event.sensorHandle index }).filter
            (HalProxyCallback.passesFilter sensors) := by
  intro mSensors
  refine ⟨?_, ?_, ?_⟩
  · intro index sensor hlists listed
    have hmem : listed ∈ mSensors :=
      (mem_initializeSensorList subHals listed).mpr ⟨index, sensor, hlists, rfl⟩
    have hforward := fun request => forwardRequest_setSubHalIndex_iff
      hlists.reports.index_lt hlists.isClear request
    exact ⟨⟨hmem, keyedByHandle_initializeSensorList subHals listed hmem⟩,
      fun enabled => hforward _, fun sampling latency => hforward _, hforward _⟩
  · intro hsize
    refine ⟨?_, fun index sensor otherIndex other hlists hother heq =>
      hlists.handle_injective hother hsize heq⟩
    intro listed hmem
    obtain ⟨index, sensor, hlists, rfl⟩ :=
      (mem_initializeSensorList subHals listed).mp hmem
    exact ⟨index, sensor, hlists, rfl,
      hlists.routesTo (hlists.reports.index_lt.trans_le hsize)⟩
  · intro index subscripts sensors events
    rw [HalProxyCallback.eventsOut_processEvents, HalProxyCallback.tagEvent_int32OfSize]

end Camellia.Sensors

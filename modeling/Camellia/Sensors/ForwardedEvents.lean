import Camellia.Sensors.ListedSensors

/-!
# What the framework sees of a sub-HAL's events

The index of the posting sub-HAL is put into a handle by `OR`, without a check
that the first byte is clear, and an event keeps the type it was posted with
while the list shows a rewritten one.  The two main results say for which
batches events still look as if they came from the advertised sensor.
-/

namespace Camellia.Sensors

open HalProxyCallback

/-- The events `postEvents` hands to `postEventsToMessageQueue`. -/
def forwardedEvents (subscripts mThreadsRun : Bool) (mSensors : SensorMap)
    (mSubHalIndex : BitVec 32) (events : List Event) : List Event :=
  match postEvents subscripts mThreadsRun mSensors mSubHalIndex events with
  | none => []
  | some processed => processed.eventsOut

theorem mem_forwardedEvents (subscripts : Bool) {mThreadsRun : Bool} {mSensors : SensorMap}
    {mSubHalIndex : BitVec 32} {events : List Event} {forwarded : Event} :
    forwarded ∈ forwardedEvents subscripts mThreadsRun mSensors mSubHalIndex events ↔
      mThreadsRun = true ∧ ∃ event ∈ events, tagEvent mSubHalIndex event = forwarded ∧
        passesFilter mSensors forwarded = true := by
  unfold forwardedEvents postEvents
  cases mThreadsRun with
  | false => simp
  | true =>
      cases events with
      | nil => simp
      | cons event rest =>
          simp only [List.isEmpty_cons, Bool.false_eq_true, Bool.not_true, or_false,
            if_false, eventsOut_processEvents, List.mem_filter, List.mem_map, true_and]
          constructor
          · rintro ⟨⟨posted, hmem, htag⟩, hpasses⟩
            exact ⟨posted, hmem, htag, hpasses⟩
          · rintro ⟨posted, hmem, htag, hpasses⟩
            exact ⟨⟨posted, hmem, htag⟩, hpasses⟩

/-! ## The first byte of a handle -/

def firstByte (handle : SensorHandle) : ℕ := handle.toNat / 2 ^ kBitsAfterSubHalIndex

theorem extractSubHalIndex_eq_iff (handle : SensorHandle) {index : ℕ} (hsmall : index < 128) :
    extractSubHalIndex handle = index ↔ firstByte handle = index := by
  have hlt := handle.isLt
  rw [extractSubHalIndex_eq, firstByte, kBitsAfterSubHalIndex]
  split <;> omega

/-- On a handle that is not clear, setting the index mixes it with what is there. -/
theorem firstByte_setSubHalIndex (handle : SensorHandle) {index : ℕ} (hsmall : index < 256) :
    firstByte (Sensors.setSubHalIndex handle index) = firstByte handle ||| index := by
  have hshift : (int32OfSize index <<< kBitsAfterSubHalIndex).toNat =
      2 ^ kBitsAfterSubHalIndex * index := by
    simp only [int32OfSize, kBitsAfterSubHalIndex, BitVec.toNat_shiftLeft,
      BitVec.toNat_ofNat, Nat.shiftLeft_eq]
    omega
  rw [firstByte, Sensors.setSubHalIndex, BitVec.toNat_or, Nat.or_div_two_pow, hshift,
    Nat.mul_div_cancel_left index (by decide)]
  rfl

/-! ## Events of different sub-HALs -/

/-- No event that sub-HAL number `poster` has posted passes for one of another sub-HAL:
its handle neither decodes to another index nor is the handle of a sensor there. -/
structure EventsIsolated (subHals : SubHalList) (poster : ℕ) (forwarded : List Event) :
    Prop where
  index : ∀ event ∈ forwarded, ∀ other < subHals.size, other < 128 → other ≠ poster →
    extractSubHalIndex event.sensorHandle ≠ other
  sensor : ∀ event ∈ forwarded, ∀ other < subHals.size, other < 128 → other ≠ poster →
    ∀ handle, subHalIndexIsClear handle = true →
      event.sensorHandle ≠ Sensors.setSubHalIndex handle other

/-- Setting the index on an event of `poster` does not lead to another sub-HAL. -/
def TagsOwnIndex (subHals : SubHalList) (poster : ℕ) (event : Event) : Prop :=
  firstByte event.sensorHandle ||| poster = poster ∨
    min subHals.size 128 ≤ firstByte event.sensorHandle ||| poster

theorem eventsIsolated_iff (subHals : SubHalList) {poster : ℕ} (hposter : poster < 128)
    (subscripts mThreadsRun : Bool) (mSensors : SensorMap) (events : List Event) :
    EventsIsolated subHals poster
        (forwardedEvents subscripts mThreadsRun mSensors (int32OfSize poster) events) ↔
      (mThreadsRun = true → ∀ event ∈ events,
        passesFilter mSensors (tagEvent (int32OfSize poster) event) = true →
          TagsOwnIndex subHals poster event) := by
  have hbyte : ∀ event, firstByte (tagEvent (int32OfSize poster) event).sensorHandle =
      firstByte event.sensorHandle ||| poster := by
    intro event
    rw [tagEvent_int32OfSize]
    exact firstByte_setSubHalIndex event.sensorHandle (by omega)
  constructor
  · intro hisolated hrunning event hevent hpasses
    have hmem := (mem_forwardedEvents subscripts).mpr
      ⟨hrunning, event, hevent, rfl, hpasses⟩
    by_contra hforeign
    obtain ⟨hother, hbound⟩ := not_or.mp hforeign
    rw [not_le, lt_min_iff] at hbound
    refine hisolated.index _ hmem _ hbound.1 hbound.2 hother ?_
    rw [extractSubHalIndex_eq_iff _ hbound.2, hbyte]
  · intro htags
    have hindex : ∀ event ∈
        forwardedEvents subscripts mThreadsRun mSensors (int32OfSize poster) events,
        ∀ other < subHals.size, other < 128 → other ≠ poster →
          extractSubHalIndex event.sensorHandle ≠ other := by
      intro forwarded hforwarded other hsize hsmall hother hextract
      obtain ⟨hrunning, event, hevent, rfl, hpasses⟩ :=
        (mem_forwardedEvents subscripts).mp hforwarded
      rw [extractSubHalIndex_eq_iff _ hsmall, hbyte] at hextract
      rcases htags hrunning event hevent hpasses with hown | hfar
      · exact hother (hextract.symm.trans hown)
      · rw [hextract] at hfar
        omega
    refine ⟨hindex, ?_⟩
    intro event hevent other hsize hsmall hother handle hclear heq
    apply hindex event hevent other hsize hsmall hother
    rw [heq, extractSubHalIndex_setSubHalIndex_eq_iff (by omega) hclear]
    exact hsmall

/-- A sub-HAL with the vendor's pick-up sensor and one with an accelerometer, both of
handle 1. -/
def pickupSubHals : SubHalList where
  toList := [
    { sensors := [{
        sensorHandle := 1
        type := 0x10001
        typeAsString := "xiaomi pick up sensor"
        maxRange := floatOne
        flags := SensorFlagBits.wakeUp }] },
    { sensors := [{
        sensorHandle := 1
        type := 1
        typeAsString := "android.sensor.accelerometer"
        maxRange := floatOne
        flags := 0 }] }]
  size_lt := by decide

def gestureEvent (sensorHandle : SensorHandle) (sensorType : SensorType) : Event where
  sensorHandle := sensorHandle
  sensorType := sensorType
  timestamp := 0
  scalar := floatOne

theorem passesFilter_gestureEvent (mSensors : SensorMap) (mSubHalIndex : BitVec 32)
    (handle : SensorHandle) (type : SensorType) :
    passesFilter mSensors (tagEvent mSubHalIndex (gestureEvent handle type)) = true := by
  simp [passesFilter, tagEvent, gestureEvent]

theorem eventsIsolated_clear_handle :
    EventsIsolated pickupSubHals 0
      (forwardedEvents true true (initializeSensorList pickupSubHals).mSensors
        (int32OfSize 0) [gestureEvent 1 0x10001]) := by
  refine (eventsIsolated_iff pickupSubHals (by decide) true true _ _).mpr ?_
  intro _ event hevent _
  rw [List.mem_singleton.mp hevent]
  exact Or.inl (by decide)

/-- With first byte 1 an event of sub-HAL number 0 passes for one of number 1. -/
theorem not_eventsIsolated_first_byte :
    ¬EventsIsolated pickupSubHals 0
      (forwardedEvents true true (initializeSensorList pickupSubHals).mSensors
        (int32OfSize 0) [gestureEvent 0x01000001 0x10001]) := by
  intro hisolated
  have hmem := (mem_forwardedEvents true).mpr
    ⟨rfl, _, List.mem_singleton.mpr rfl, rfl, passesFilter_gestureEvent
      (initializeSensorList pickupSubHals).mSensors (int32OfSize 0) 0x01000001 0x10001⟩
  exact hisolated.index _ hmem 1 (by decide) (by decide) (by decide) (by decide)

/-! ## Types of events and of advertised sensors -/

/-- Where `sensor` is in the list, it has this type there. -/
def listedType (sensor : SensorInfo) : SensorType :=
  if sensor.typeAsString = "xiaomi pick up sensor" then SensorType.pickUpGesture
  else sensor.type

theorem type_of_listedSensor {direct : Option ℕ} {entry : ℕ × SensorInfo}
    {sensor : SensorInfo} (hlisted : listedSensor direct entry = some sensor) :
    sensor.type = listedType entry.2 := by
  unfold listedSensor patchXiaomiPickupSensor at hlisted
  unfold listedType
  dsimp only at hlisted
  split at hlisted
  · rename_i hname
    rw [Option.some.injEq] at hlisted
    rw [if_neg hname, ← hlisted]
  · rename_i hname
    split at hlisted
    · contradiction
    · rw [Option.some.injEq] at hlisted
      rw [if_pos (not_not.mp hname), ← hlisted]

theorem lookup_mem_getSensorsList_2_1 {mSensors : SensorMap} {handle : SensorHandle}
    (hmem : handle ∈ mSensors) :
    mSensors.lookup handle ∈ getSensorsList_2_1 mSensors := by
  rw [Std.TreeMap.mem_iff_isSome_getElem?, Option.isSome_iff_exists] at hmem
  obtain ⟨sensor, hget⟩ := hmem
  rw [SensorMap.lookup, Std.TreeMap.getD_eq_getD_getElem?, hget]
  exact List.mem_map.mpr
    ⟨(handle, sensor), Std.TreeMap.mem_toList_iff_getElem?_eq_some.mpr hget, rfl⟩

/-- Events whose handle the list has are of the type that it shows for this handle. -/
def MatchAdvertised (mSensors : SensorMap) (forwarded : List Event) : Prop :=
  ∀ event ∈ forwarded, event.sensorHandle ∈ mSensors →
    mSensors.lookup event.sensorHandle ∈ getSensorsList_2_1 mSensors ∧
      event.sensorType = (mSensors.lookup event.sensorHandle).type

/-- An event has the type that its sub-HAL declares for its handle. -/
def CarriesDeclaredType (subHals : SubHalList) (poster : ℕ) (event : Event) : Prop :=
  ∀ sensor, Reports subHals poster sensor → sensor.sensorHandle = event.sensorHandle →
    event.sensorType = sensor.type

/-- The handle of the event, once tagged, is that of the poster's own sensor and the list
shows the declared type; or it is that of some other entry, which happens to have the
type of the event.  `inserted` are the handles that a subscript has added to the list. -/
def TypeKept (subHals : SubHalList) (inserted : List SensorHandle) (poster : ℕ)
    (event : Event) : Prop :=
  let tagged := Sensors.setSubHalIndex event.sensorHandle poster
  match lastListed subHals tagged with
  | some (owner, sensor) =>
      if owner = poster ∧ sensor.sensorHandle = event.sensorHandle then
        sensor.typeAsString = "xiaomi pick up sensor" →
          sensor.type = SensorType.pickUpGesture
      else event.sensorType = listedType sensor
  | none => tagged ∈ inserted → event.sensorType = (default : SensorInfo).type

theorem typeKept_iff {subHals : SubHalList} (inserted : List SensorHandle) {poster : ℕ}
    {event : Event} (hdeclared : CarriesDeclaredType subHals poster event) :
    let mSensors := (initializeSensorList subHals).mSensors.subscriptAll inserted
    let tagged := Sensors.setSubHalIndex event.sensorHandle poster
    (tagged ∈ mSensors → event.sensorType = (mSensors.lookup tagged).type) ↔
      TypeKept subHals inserted poster event := by
  intro mSensors tagged
  have hmem : tagged ∈ mSensors ↔
      tagged ∈ inserted ∨ tagged ∈ (initializeSensorList subHals).mSensors :=
    SensorMap.mem_subscriptAll _ _ _
  have hlookup : mSensors.lookup tagged =
      (initializeSensorList subHals).mSensors.lookup tagged :=
    SensorMap.lookup_subscriptAll _ _ _
  rw [hmem, hlookup]
  unfold TypeKept
  dsimp only
  change _ ↔ match lastListed subHals tagged with
    | some (owner, sensor) => _
    | none => _
  cases hlast : lastListed subHals tagged with
  | none =>
      have hmissing : tagged ∉ (initializeSensorList subHals).mSensors := by
        rw [mem_iff_lastListed, hlast]
        simp
      have hdefault : (initializeSensorList subHals).mSensors.lookup tagged = default :=
        Std.TreeMap.getD_eq_fallback hmissing
      simp only [hmissing, or_false, hdefault]
      rfl
  | some entry =>
      obtain ⟨owner, sensor⟩ := entry
      obtain ⟨hlisted, hstored⟩ := lookup_of_lastListed hlast
      have htype := type_of_listedSensor hstored
      simp only [hlisted, or_true, true_imp_iff, htype]
      split
      · rename_i hown
        obtain ⟨rfl, hhandle⟩ := hown
        have hreports := (lists_of_lastListed hlast).1.reports
        rw [hdeclared sensor hreports hhandle, listedType]
        split
        · rename_i hname
          simp [hname]
        · rename_i hname
          simp [hname]
      · rfl

theorem matchAdvertised_iff (subHals : SubHalList) (inserted : List SensorHandle)
    (poster : ℕ) (subscripts mThreadsRun : Bool) (events : List Event)
    (hdeclared : ∀ event ∈ events, CarriesDeclaredType subHals poster event) :
    let mSensors := (initializeSensorList subHals).mSensors.subscriptAll inserted
    MatchAdvertised mSensors
        (forwardedEvents subscripts mThreadsRun mSensors (int32OfSize poster) events) ↔
      (mThreadsRun = true → ∀ event ∈ events,
        passesFilter mSensors (tagEvent (int32OfSize poster) event) = true →
          TypeKept subHals inserted poster event) := by
  intro mSensors
  have hkept : ∀ event ∈ events,
      (Sensors.setSubHalIndex event.sensorHandle poster ∈ mSensors → event.sensorType =
        (mSensors.lookup (Sensors.setSubHalIndex event.sensorHandle poster)).type) ↔
      TypeKept subHals inserted poster event :=
    fun event hevent => typeKept_iff inserted (hdeclared event hevent)
  constructor
  · intro hmatch hrunning event hevent hpasses
    have hmem := (mem_forwardedEvents subscripts).mpr
      ⟨hrunning, event, hevent, rfl, hpasses⟩
    rw [← hkept event hevent]
    intro hlisted
    rw [tagEvent_int32OfSize] at hmem
    exact (hmatch _ hmem hlisted).2
  · intro hall forwarded hforwarded hlisted
    obtain ⟨hrunning, event, hevent, htag, hpasses⟩ :=
      (mem_forwardedEvents subscripts).mp hforwarded
    refine ⟨lookup_mem_getSensorsList_2_1 hlisted, ?_⟩
    rw [← htag] at hpasses hlisted ⊢
    rw [tagEvent_int32OfSize] at hlisted ⊢
    exact (hkept event hevent).mpr (hall hrunning event hevent hpasses) hlisted

theorem matchAdvertised_accelerometer :
    MatchAdvertised (initializeSensorList pickupSubHals).mSensors
      (forwardedEvents true true (initializeSensorList pickupSubHals).mSensors
        (int32OfSize 1) [gestureEvent 1 1]) := by
  refine (matchAdvertised_iff pickupSubHals [] 1 true true [gestureEvent 1 1] ?_).mpr ?_
  · intro event hevent sensor hreports _
    obtain ⟨subHal, hget, hsensor⟩ := hreports
    obtain rfl := List.mem_singleton.mp hevent
    obtain rfl := Option.some.inj hget
    rw [List.mem_singleton.mp hsensor]
    rfl
  · intro _ event hevent _
    rw [List.mem_singleton.mp hevent]
    have hlast : lastListed pickupSubHals
        (Sensors.setSubHalIndex (gestureEvent 1 1).sensorHandle 1) =
          some (reportedSensors pickupSubHals).getLast! := by decide
    simp only [TypeKept, hlast]
    decide

/-- A pick-up event keeps the vendor's type, the list shows the standard one. -/
theorem not_matchAdvertised_pickup :
    (∀ event ∈ [gestureEvent 1 0x10001], CarriesDeclaredType pickupSubHals 0 event) ∧
    ¬MatchAdvertised (initializeSensorList pickupSubHals).mSensors
      (forwardedEvents true true (initializeSensorList pickupSubHals).mSensors
        (int32OfSize 0) [gestureEvent 1 0x10001]) := by
  refine ⟨?_, ?_⟩
  · intro event hevent sensor hreports _
    obtain ⟨subHal, hget, hsensor⟩ := hreports
    obtain rfl := List.mem_singleton.mp hevent
    obtain rfl := Option.some.inj hget
    rw [List.mem_singleton.mp hsensor]
    rfl
  · intro hmatch
    have hmem := (mem_forwardedEvents true).mpr
      ⟨rfl, _, List.mem_singleton.mpr rfl, rfl, passesFilter_gestureEvent
        (initializeSensorList pickupSubHals).mSensors (int32OfSize 0) 1 0x10001⟩
    have hlast : lastListed pickupSubHals 1 =
        some (reportedSensors pickupSubHals).head! := by decide
    obtain ⟨hlisted, hstored⟩ := lookup_of_lastListed hlast
    have htype := (hmatch _ hmem hlisted).2
    have hadvertised := type_of_listedSensor hstored
    exact absurd (htype.trans hadvertised) (by decide)

end Camellia.Sensors

import Camellia.Sensors.HandleRouting

/-!
# Which sensor is stored under a handle

`initializeSensorList` visits the reported sensors in one fixed order.  A kept
sensor overwrites an earlier one of the same encoded handle, and the direct
channel goes to the first sub-HAL that the loop sees reporting a direct flag.
Both are read off the list of reports here, without the loop.
-/

namespace Camellia.Sensors

/-- What the sub-HALs report, with their indices, in the order of the loop. -/
def reportedSensors (subHals : SubHalList) : List (ℕ × SensorInfo) :=
  subHals.toList.zipIdx.flatMap fun entry =>
    entry.1.sensors.map fun sensor => (entry.2, sensor)

def isKept (sensor : SensorInfo) : Bool :=
  subHalIndexIsClear sensor.sensorHandle && (patchXiaomiPickupSensor sensor).isSome

def supportsDirectChannel (sensor : SensorInfo) : Bool :=
  sensor.flags &&& directFlags ≠ 0

def listedHandle (entry : ℕ × SensorInfo) : SensorHandle :=
  setSubHalIndex entry.2.sensorHandle entry.1

/-- The last kept entry with the given encoded handle. -/
def lastKept (entries : List (ℕ × SensorInfo)) (key : SensorHandle) :
    Option (ℕ × SensorInfo) :=
  entries.reverse.find? fun entry => isKept entry.2 && listedHandle entry = key

/-- The first sub-HAL that reports a direct flag on a handle it may use. -/
def firstDirect (entries : List (ℕ × SensorInfo)) : Option ℕ :=
  (entries.find? fun entry =>
    subHalIndexIsClear entry.2.sensorHandle && supportsDirectChannel entry.2).map Prod.fst

/-- The flags an entry is listed with when `direct` is the chosen sub-HAL. -/
def listedFlags (direct : Option ℕ) (entry : ℕ × SensorInfo) : BitVec 32 :=
  if direct ≠ none ∧ some entry.1 ≠ direct then entry.2.flags &&& ~~~directFlags
  else entry.2.flags

def listedSensor (direct : Option ℕ) (entry : ℕ × SensorInfo) : Option SensorInfo :=
  patchXiaomiPickupSensor { entry.2 with
    sensorHandle := listedHandle entry
    flags := listedFlags direct entry }

/-! ## One step of the loop -/

theorem and_not_directFlags {flags : BitVec 32} (hnone : flags &&& directFlags = 0) :
    flags &&& ~~~directFlags = flags := by
  have hsplit : flags &&& (directFlags ||| ~~~directFlags) = flags := by
    rw [show directFlags ||| ~~~directFlags = BitVec.allOnes 32 by decide,
      BitVec.and_allOnes]
  rw [BitVec.and_or_distrib_left, hnone] at hsplit
  simpa using hsplit

theorem listedFlags_of_not_supports {entry : ℕ × SensorInfo}
    (hdirect : supportsDirectChannel entry.2 = false) (direct : Option ℕ) :
    listedFlags direct entry = entry.2.flags := by
  have hnone : entry.2.flags &&& directFlags = 0 := by
    simpa [supportsDirectChannel] using hdirect
  unfold listedFlags
  split
  · exact and_not_directFlags hnone
  · rfl

/-- The direct channel after the loop has seen one more entry. -/
def chooseDirect (direct : Option ℕ) (entry : ℕ × SensorInfo) : Option ℕ :=
  direct.or (firstDirect [entry])

theorem firstDirect_append (entries : List (ℕ × SensorInfo)) (entry : ℕ × SensorInfo) :
    firstDirect (entries ++ [entry]) = chooseDirect (firstDirect entries) entry := by
  unfold chooseDirect firstDirect
  rw [List.find?_append]
  cases entries.find? fun entry =>
    subHalIndexIsClear entry.2.sensorHandle && supportsDirectChannel entry.2 <;> rfl

theorem setDirectChannelFlags_eq (direct : Option ℕ) (entry : ℕ × SensorInfo)
    (hclear : subHalIndexIsClear entry.2.sensorHandle = true) (handle : SensorHandle) :
    setDirectChannelFlags direct { entry.2 with sensorHandle := handle } entry.1 =
      (chooseDirect direct entry, { entry.2 with
        sensorHandle := handle
        flags := listedFlags (chooseDirect direct entry) entry }) := by
  unfold setDirectChannelFlags chooseDirect firstDirect
  cases direct with
  | none =>
      cases hdirect : supportsDirectChannel entry.2 with
      | true =>
          have hflags : ¬entry.2.flags &&& directFlags = 0#32 := by
            simpa [supportsDirectChannel] using hdirect
          simp [hclear, hdirect, hflags, listedFlags]
      | false =>
          have hflags : entry.2.flags &&& directFlags = 0 := by
            simpa [supportsDirectChannel] using hdirect
          simp [hclear, hdirect, hflags, listedFlags]
  | some chosen =>
      by_cases hown : entry.1 = chosen
      · simp [hown, listedFlags]
      · simp [hown, listedFlags]

theorem addSensor_eq (table : SensorTable) (entry : ℕ × SensorInfo) :
    addSensor entry.1 table entry.2 =
      let direct := chooseDirect table.mDirectChannelSubHal entry
      { mSensors :=
          if subHalIndexIsClear entry.2.sensorHandle then
            match listedSensor direct entry with
            | none => table.mSensors
            | some sensor => table.mSensors.insert sensor.sensorHandle sensor
          else table.mSensors
        mDirectChannelSubHal := direct } := by
  cases hclear : subHalIndexIsClear entry.2.sensorHandle with
  | false => cases hdirect : table.mDirectChannelSubHal <;>
      simp [addSensor, hclear, chooseDirect, firstDirect, ← hdirect]
  | true =>
      simp only [addSensor, hclear, Bool.not_true, Bool.false_eq_true, if_false, if_true]
      rw [setDirectChannelFlags_eq _ _ hclear]
      unfold listedSensor listedHandle
      dsimp only
      generalize patchXiaomiPickupSensor _ = patched
      cases patched <;> rfl

theorem isSome_listedSensor (direct : Option ℕ) (entry : ℕ × SensorInfo) :
    (listedSensor direct entry).isSome = (patchXiaomiPickupSensor entry.2).isSome := by
  have hmask : ~~~directFlags &&& SensorFlagBits.wakeUp = SensorFlagBits.wakeUp := by
    decide
  have hwake : listedFlags direct entry &&& SensorFlagBits.wakeUp =
      entry.2.flags &&& SensorFlagBits.wakeUp := by
    unfold listedFlags
    split
    · rw [BitVec.and_assoc, hmask]
    · rfl
  rw [Bool.eq_iff_iff, listedSensor, patchXiaomiPickupSensor_isSome,
    patchXiaomiPickupSensor_isSome]
  simp only [SensorInfo.isWakeUp, hwake]

theorem listedSensor_keeps {direct : Option ℕ} {entry : ℕ × SensorInfo}
    {sensor : SensorInfo} (hlisted : listedSensor direct entry = some sensor) :
    sensor.sensorHandle = listedHandle entry ∧ sensor.flags = listedFlags direct entry :=
  patchXiaomiPickupSensor_keeps hlisted

/-! ## The whole loop -/

def addReported (table : SensorTable) (entry : ℕ × SensorInfo) : SensorTable :=
  addSensor entry.1 table entry.2

theorem initializeSensorList_eq (subHals : SubHalList) :
    initializeSensorList subHals =
      (reportedSensors subHals).foldl addReported
        { mSensors := ∅, mDirectChannelSubHal := none } := by
  unfold initializeSensorList reportedSensors
  rw [List.foldl_flatMap]
  congr 1
  funext table entry
  rw [List.foldl_map]
  rfl

theorem lastKept_append (entries : List (ℕ × SensorInfo)) (entry : ℕ × SensorInfo)
    (key : SensorHandle) :
    lastKept (entries ++ [entry]) key =
      if isKept entry.2 ∧ listedHandle entry = key then some entry
      else lastKept entries key := by
  unfold lastKept
  rw [List.reverse_append, List.reverse_singleton, List.singleton_append, List.find?_cons]
  by_cases hentry : isKept entry.2 ∧ listedHandle entry = key
  · simp [hentry]
  · rw [if_neg hentry]
    split
    · simp_all
    · rfl

theorem lastKept_spec {entries : List (ℕ × SensorInfo)} {key : SensorHandle}
    {entry : ℕ × SensorInfo} (hlast : lastKept entries key = some entry) :
    entry ∈ entries ∧ isKept entry.2 = true ∧ listedHandle entry = key := by
  have hfound := List.find?_some hlast
  rw [Bool.and_eq_true, decide_eq_true_eq] at hfound
  exact ⟨List.mem_reverse.mp (List.mem_of_find?_eq_some hlast), hfound⟩

/-- Once the direct channel is given away, entries seen before are listed as if it had
been given away from the start. -/
theorem listedSensor_chooseDirect (entries : List (ℕ × SensorInfo)) (key : SensorHandle)
    (entry : ℕ × SensorInfo) :
    (lastKept entries key).bind (listedSensor (chooseDirect (firstDirect entries) entry)) =
      (lastKept entries key).bind (listedSensor (firstDirect entries)) := by
  cases hlast : lastKept entries key with
  | none => rfl
  | some earlier =>
      obtain ⟨hmem, hkept, _⟩ := lastKept_spec hlast
      cases hdirect : firstDirect entries with
      | some chosen => rfl
      | none =>
          have hnone : supportsDirectChannel earlier.2 = false := by
            rw [firstDirect, Option.map_eq_none_iff, List.find?_eq_none] at hdirect
            have hclear := (Bool.and_eq_true _ _ ▸ hkept).1
            simpa [hclear] using hdirect earlier hmem
          simp only [Option.bind_some, listedSensor, listedFlags_of_not_supports hnone]

theorem foldl_addReported (entries : List (ℕ × SensorInfo)) :
    let table := entries.foldl addReported { mSensors := ∅, mDirectChannelSubHal := none }
    table.mDirectChannelSubHal = firstDirect entries ∧
      ∀ key, table.mSensors[key]? =
        (lastKept entries key).bind (listedSensor (firstDirect entries)) := by
  induction entries using List.reverseRecOn with
  | nil => simp [firstDirect, lastKept]
  | append_singleton entries entry ih =>
      obtain ⟨hdirect, hsensors⟩ := ih
      rw [List.foldl_append, List.foldl_cons, List.foldl_nil, addReported, addSensor_eq]
      dsimp only
      rw [hdirect, firstDirect_append]
      refine ⟨rfl, fun key => ?_⟩
      rw [lastKept_append]
      have hsome := isSome_listedSensor (chooseDirect (firstDirect entries) entry) entry
      have hold := listedSensor_chooseDirect entries key entry
      rw [← hsensors] at hold
      cases hclear : subHalIndexIsClear entry.2.sensorHandle with
      | false =>
          have hdropped : ¬(isKept entry.2 = true ∧ listedHandle entry = key) := by
            simp [isKept, hclear]
          rw [if_neg hdropped, hold]
          rfl
      | true =>
          have hkept : isKept entry.2 = (patchXiaomiPickupSensor entry.2).isSome := by
            rw [isKept, hclear, Bool.true_and]
          rw [if_pos rfl, hkept, ← hsome]
          cases hlisted : listedSensor (chooseDirect (firstDirect entries) entry) entry with
          | none => simpa using hold.symm
          | some sensor =>
              have hhandle := (listedSensor_keeps hlisted).1
              simp only [Option.isSome_some, true_and]
              rw [Std.TreeMap.getElem?_insert, hhandle]
              by_cases hkey : listedHandle entry = key
              · rw [if_pos (Std.LawfulEqCmp.compare_eq_iff_eq.mpr hkey), if_pos hkey,
                  Option.bind_some, hlisted]
              · rw [if_neg (mt Std.LawfulEqCmp.eq_of_compare hkey), if_neg hkey, hold]

section Table

variable (subHals : SubHalList)

/-- The entry of `reportedSensors` that is stored under `key`, if any. -/
def lastListed (key : SensorHandle) : Option (ℕ × SensorInfo) :=
  lastKept (reportedSensors subHals) key

theorem mDirectChannelSubHal_initializeSensorList :
    (initializeSensorList subHals).mDirectChannelSubHal =
      firstDirect (reportedSensors subHals) := by
  rw [initializeSensorList_eq]
  exact (foldl_addReported (reportedSensors subHals)).1

/-- What is stored under a handle is the last kept entry of that handle, listed with the
direct channel that the whole loop ends up with. -/
theorem getElem?_initializeSensorList (key : SensorHandle) :
    (initializeSensorList subHals).mSensors[key]? =
      (lastListed subHals key).bind
        (listedSensor (initializeSensorList subHals).mDirectChannelSubHal) := by
  rw [mDirectChannelSubHal_initializeSensorList, initializeSensorList_eq]
  exact (foldl_addReported (reportedSensors subHals)).2 key

variable {subHals}

theorem lookup_of_lastListed {key : SensorHandle} {entry : ℕ × SensorInfo}
    (hlast : lastListed subHals key = some entry) :
    key ∈ (initializeSensorList subHals).mSensors ∧
      listedSensor (initializeSensorList subHals).mDirectChannelSubHal entry =
        some ((initializeSensorList subHals).mSensors.lookup key) := by
  have hget := getElem?_initializeSensorList subHals key
  obtain ⟨sensor, hlisted⟩ : ∃ sensor,
      listedSensor (initializeSensorList subHals).mDirectChannelSubHal entry =
        some sensor := by
    have hkept := (lastKept_spec hlast).2.1
    rw [isKept, Bool.and_eq_true] at hkept
    rw [← Option.isSome_iff_exists, isSome_listedSensor]
    exact hkept.2
  rw [hlast, Option.bind_some, hlisted] at hget
  refine ⟨Std.TreeMap.mem_iff_isSome_getElem?.mpr (by rw [hget]; rfl), ?_⟩
  rw [SensorMap.lookup, Std.TreeMap.getD_eq_getD_getElem?, hget, hlisted]
  rfl

theorem mem_iff_lastListed {key : SensorHandle} :
    key ∈ (initializeSensorList subHals).mSensors ↔
      ∃ entry, lastListed subHals key = some entry := by
  constructor
  · intro hmem
    rw [Std.TreeMap.mem_iff_isSome_getElem?, getElem?_initializeSensorList] at hmem
    cases hlast : lastListed subHals key with
    | none => simp [hlast] at hmem
    | some entry => exact ⟨entry, rfl⟩
  · rintro ⟨entry, hlast⟩
    exact (lookup_of_lastListed hlast).1

theorem mem_reportedSensors {entry : ℕ × SensorInfo} :
    entry ∈ reportedSensors subHals ↔ Reports subHals entry.1 entry.2 := by
  obtain ⟨index, sensor⟩ := entry
  simp only [reportedSensors, List.mem_flatMap, List.mem_map, Prod.exists, Prod.mk.injEq,
    List.mem_zipIdx_iff_getElem?, Reports]
  constructor
  · rintro ⟨subHal, _, hget, _, hsensor, rfl, rfl⟩
    exact ⟨subHal, hget, hsensor⟩
  · rintro ⟨subHal, hget, hsensor⟩
    exact ⟨subHal, index, hget, sensor, hsensor, rfl, rfl⟩

theorem isKept_iff {index : ℕ} {sensor : SensorInfo} :
    Reports subHals index sensor ∧ isKept sensor = true ↔ Lists subHals index sensor := by
  rw [isKept, Bool.and_eq_true, patchXiaomiPickupSensor_isSome]
  constructor
  · rintro ⟨hreports, hclear, hkeeps⟩
    exact ⟨hreports, hclear, hkeeps⟩
  · rintro ⟨hreports, hclear, hkeeps⟩
    exact ⟨hreports, hclear, hkeeps⟩

theorem lists_of_lastListed {key : SensorHandle} {entry : ℕ × SensorInfo}
    (hlast : lastListed subHals key = some entry) :
    Lists subHals entry.1 entry.2 ∧ key = setSubHalIndex entry.2.sensorHandle entry.1 := by
  obtain ⟨hmem, hkept, hkey⟩ := lastKept_spec hlast
  exact ⟨isKept_iff.mp ⟨mem_reportedSensors.mp hmem, hkept⟩, hkey.symm⟩

/-- With distinct handles in each sub-HAL and at most 128 of them, what is stored under a
handle is the one kept sensor of that handle. -/
theorem lastListed_eq_some_iff
    (hdistinct : ∀ index sensor other, Reports subHals index sensor →
      Reports subHals index other → sensor.sensorHandle = other.sensorHandle →
      sensor = other)
    (hsize : subHals.size ≤ 128) {key : SensorHandle} {index : ℕ} {sensor : SensorInfo} :
    lastListed subHals key = some (index, sensor) ↔
      Lists subHals index sensor ∧ key = setSubHalIndex sensor.sensorHandle index := by
  constructor
  · exact lists_of_lastListed
  · rintro ⟨hlists, hkey⟩
    obtain ⟨⟨otherIndex, other⟩, hlast⟩ : ∃ entry, lastListed subHals key = some entry :=
      mem_iff_lastListed.mp
        ((mem_initializeSensorList subHals key).mpr ⟨index, sensor, hlists, hkey⟩)
    obtain ⟨hother, hotherKey⟩ := lists_of_lastListed hlast
    obtain ⟨rfl, hhandle⟩ :=
      hlists.handle_injective hother hsize (hkey.symm.trans hotherKey)
    rw [hlast, hdistinct index sensor other hlists.reports hother.reports hhandle]

theorem reportedSensors_pairwise (subHals : SubHalList) :
    (reportedSensors subHals).Pairwise fun earlier later => earlier.1 ≤ later.1 := by
  rw [reportedSensors, List.pairwise_flatMap]
  refine ⟨?_, ?_⟩
  · intro entry _
    rw [List.pairwise_map]
    exact List.pairwise_of_forall fun _ _ => le_refl _
  · have hsorted : (subHals.toList.zipIdx.map Prod.snd).Pairwise (· < ·) := by
      rw [List.zipIdx_map_snd]
      exact List.pairwise_lt_range'
    rw [List.pairwise_map] at hsorted
    refine hsorted.imp fun {earlier later} hlt => ?_
    simp only [List.mem_map]
    rintro _ ⟨_, _, rfl⟩ _ ⟨_, _, rfl⟩
    exact hlt.le

end Table


end Camellia.Sensors

import Camellia.Sensors.SensorHandle

/-!
# The static sensor list and requests to its sensors

`initializeSensorList` collects what the sub-HALs report under handles that
carry the sub-HAL index.  Requests on such a handle are routed back by decoding
the index; the answer of the sub-HAL itself lies outside the proxy, so a request
is modelled by where it is forwarded to.
-/

namespace Camellia.Sensors

inductive Result where
  | ok
  | permissionDenied
  | noMemory
  | badValue
  | invalidOperation
deriving DecidableEq

structure SubHal where
  sensors : List SensorInfo

/-- `mSubHalList`; a vector never holds more than `PTRDIFF_MAX` elements. -/
structure SubHalList where
  toList : List SubHal
  size_lt : toList.length < 2 ^ 63

def SubHalList.size (subHals : SubHalList) : ℕ := subHals.toList.length

structure SensorTable where
  mSensors : SensorMap
  mDirectChannelSubHal : Option ℕ

def directFlags : BitVec 32 :=
  SensorFlagBits.maskDirectReport ||| SensorFlagBits.maskDirectChannel

def setDirectChannelFlags (mDirectChannelSubHal : Option ℕ) (sensorInfo : SensorInfo)
    (subHal : ℕ) : Option ℕ × SensorInfo :=
  let sensorSupportsDirectChannel := sensorInfo.flags &&& directFlags ≠ 0
  if mDirectChannelSubHal = none ∧ sensorSupportsDirectChannel then
    (some subHal, sensorInfo)
  else if mDirectChannelSubHal ≠ none ∧ some subHal ≠ mDirectChannelSubHal then
    (mDirectChannelSubHal, { sensorInfo with flags := sensorInfo.flags &&& ~~~directFlags })
  else (mDirectChannelSubHal, sensorInfo)

def addSensor (subHalIndex : ℕ) (table : SensorTable) (sensor : SensorInfo) : SensorTable :=
  if !subHalIndexIsClear sensor.sensorHandle then table
  else
    let sensor := { sensor with
      sensorHandle := setSubHalIndex sensor.sensorHandle subHalIndex }
    let (direct, sensor) := setDirectChannelFlags table.mDirectChannelSubHal sensor subHalIndex
    match patchXiaomiPickupSensor sensor with
    | none => { table with mDirectChannelSubHal := direct }
    | some sensor => {
        mSensors := table.mSensors.insert sensor.sensorHandle sensor
        mDirectChannelSubHal := direct }

def initializeSensorList (subHals : SubHalList) : SensorTable :=
  subHals.toList.zipIdx.foldl
    (fun table entry => entry.1.sensors.foldl (addSensor entry.2) table)
    { mSensors := ∅, mDirectChannelSubHal := none }

def getSensorsList_2_1 (mSensors : SensorMap) : List SensorInfo :=
  mSensors.toList.map Prod.snd

/-- `getSensorsList`, given the conversion to the older `SensorInfo`. -/
def getSensorsList {α : Type*} (convertToOldSensorInfo : SensorInfo → α)
    (mSensors : SensorMap) : List α :=
  mSensors.toList.map fun entry => convertToOldSensorInfo entry.2

/-! ## Requests -/

inductive SubHalRequest where
  | activate (sensorHandle : SensorHandle) (enabled : Bool)
  | batch (sensorHandle : SensorHandle) (samplingPeriodNs maxReportLatencyNs : BitVec 64)
  | flush (sensorHandle : SensorHandle)
  | injectSensorData (event : Event)
deriving DecidableEq

structure RoutedRequest where
  subHal : ℕ
  request : SubHalRequest
deriving DecidableEq

def getSubHalForSensorHandle (sensorHandle : SensorHandle) : ℕ :=
  extractSubHalIndex sensorHandle

def isSubHalIndexValid (subHals : SubHalList) (sensorHandle : SensorHandle) : Bool :=
  extractSubHalIndex sensorHandle < subHals.size

def forwardRequest (subHals : SubHalList) (sensorHandle : SensorHandle)
    (request : SensorHandle → SubHalRequest) : Except Result RoutedRequest :=
  if !isSubHalIndexValid subHals sensorHandle then .error .badValue
  else .ok {
    subHal := getSubHalForSensorHandle sensorHandle
    request := request (clearSubHalIndex sensorHandle) }

def activate (subHals : SubHalList) (sensorHandle : SensorHandle) (enabled : Bool) :
    Except Result RoutedRequest :=
  forwardRequest subHals sensorHandle fun handle => .activate handle enabled

def batch (subHals : SubHalList) (sensorHandle : SensorHandle)
    (samplingPeriodNs maxReportLatencyNs : BitVec 64) : Except Result RoutedRequest :=
  forwardRequest subHals sensorHandle fun handle =>
    .batch handle samplingPeriodNs maxReportLatencyNs

def flush (subHals : SubHalList) (sensorHandle : SensorHandle) :
    Except Result RoutedRequest :=
  forwardRequest subHals sensorHandle fun handle => .flush handle

def sensorHandles (sensors : SensorMap) : List SensorHandle :=
  sensors.toList.map Prod.fst

def disableAllSensors (subHals : SubHalList) (mSensors mDynamicSensors : SensorMap) :
    List (Except Result RoutedRequest) :=
  (sensorHandles mSensors ++ sensorHandles mDynamicSensors).map fun sensorHandle =>
    activate subHals sensorHandle false

/-! ## What the list contains -/

def Reports (subHals : SubHalList) (index : ℕ) (sensor : SensorInfo) : Prop :=
  ∃ subHal, subHals.toList[index]? = some subHal ∧ sensor ∈ subHal.sensors

/-- Sub-HAL number `index` reports `sensor` and `initializeSensorList` keeps it. -/
structure Lists (subHals : SubHalList) (index : ℕ) (sensor : SensorInfo) : Prop where
  reports : Reports subHals index sensor
  isClear : subHalIndexIsClear sensor.sensorHandle = true
  keeps : sensor.typeAsString = "xiaomi pick up sensor" → sensor.isWakeUp = true

theorem Reports.index_lt {subHals : SubHalList} {index : ℕ} {sensor : SensorInfo}
    (hreports : Reports subHals index sensor) : index < subHals.size := by
  obtain ⟨subHal, hget, _⟩ := hreports
  exact (List.getElem?_eq_some_iff.mp hget).1

theorem setDirectChannelFlags_keeps (direct : Option ℕ) (sensor : SensorInfo) (subHal : ℕ) :
    (setDirectChannelFlags direct sensor subHal).2.sensorHandle = sensor.sensorHandle ∧
      (setDirectChannelFlags direct sensor subHal).2.typeAsString = sensor.typeAsString ∧
      (setDirectChannelFlags direct sensor subHal).2.isWakeUp = sensor.isWakeUp := by
  have hmask : ~~~directFlags &&& SensorFlagBits.wakeUp = SensorFlagBits.wakeUp := by
    decide
  unfold setDirectChannelFlags
  dsimp only
  split
  · exact ⟨rfl, rfl, rfl⟩
  · split
    · refine ⟨rfl, rfl, ?_⟩
      simp only [SensorInfo.isWakeUp, BitVec.and_assoc, hmask]
    · exact ⟨rfl, rfl, rfl⟩

theorem mem_addSensor (index : ℕ) (table : SensorTable) (sensor : SensorInfo)
    (key : SensorHandle) :
    key ∈ (addSensor index table sensor).mSensors ↔
      key ∈ table.mSensors ∨
        (subHalIndexIsClear sensor.sensorHandle = true ∧
          (sensor.typeAsString = "xiaomi pick up sensor" → sensor.isWakeUp = true) ∧
          key = setSubHalIndex sensor.sensorHandle index) := by
  unfold addSensor
  cases hclear : subHalIndexIsClear sensor.sensorHandle with
  | false => simp
  | true =>
      simp only [Bool.not_true, Bool.false_eq_true, if_false, true_and]
      set encoded : SensorInfo :=
        { sensor with sensorHandle := setSubHalIndex sensor.sensorHandle index } with hencoded
      obtain ⟨hhandle, hname, hwake⟩ :=
        setDirectChannelFlags_keeps table.mDirectChannelSubHal encoded index
      generalize hflagged :
        setDirectChannelFlags table.mDirectChannelSubHal encoded index = flagged at *
      obtain ⟨direct, flagged⟩ := flagged
      simp only at hhandle hname hwake ⊢
      have hsome := patchXiaomiPickupSensor_isSome flagged
      rw [hname, hwake] at hsome
      cases hpatch : patchXiaomiPickupSensor flagged with
      | none =>
          rw [hpatch] at hsome
          have hdropped : ¬(sensor.typeAsString = "xiaomi pick up sensor" →
              sensor.isWakeUp = true) := by
            intro hkeeps
            exact absurd (hsome.mpr hkeeps) (by simp)
          simp [hdropped]
      | some patched =>
          rw [hpatch] at hsome
          have hkeeps : sensor.typeAsString = "xiaomi pick up sensor" →
              sensor.isWakeUp = true := hsome.mp rfl
          have hkey : patched.sensorHandle = setSubHalIndex sensor.sensorHandle index :=
            (patchXiaomiPickupSensor_keeps hpatch).1.trans hhandle
          simp only [SensorMap.mem_insert_iff, hkey]
          constructor
          · rintro (hnew | hold)
            · exact Or.inr ⟨hkeeps, hnew⟩
            · exact Or.inl hold
          · rintro (hold | ⟨_, hnew⟩)
            · exact Or.inr hold
            · exact Or.inl hnew

theorem mem_foldl_addSensor (index : ℕ) (sensors : List SensorInfo) (table : SensorTable)
    (key : SensorHandle) :
    key ∈ (sensors.foldl (addSensor index) table).mSensors ↔
      key ∈ table.mSensors ∨ ∃ sensor ∈ sensors,
        subHalIndexIsClear sensor.sensorHandle = true ∧
          (sensor.typeAsString = "xiaomi pick up sensor" → sensor.isWakeUp = true) ∧
          key = setSubHalIndex sensor.sensorHandle index := by
  induction sensors generalizing table with
  | nil => simp
  | cons sensor rest ih =>
      rw [List.foldl_cons, ih, mem_addSensor, or_assoc]
      simp only [List.exists_mem_cons_iff]

/-- The keys of the static list are the encoded handles of the kept sensors. -/
theorem mem_initializeSensorList (subHals : SubHalList) (key : SensorHandle) :
    key ∈ (initializeSensorList subHals).mSensors ↔
      ∃ index sensor, Lists subHals index sensor ∧
        key = setSubHalIndex sensor.sensorHandle index := by
  have hfold : ∀ (entries : List (SubHal × ℕ)) (table : SensorTable),
      key ∈ (entries.foldl (fun table entry =>
          entry.1.sensors.foldl (addSensor entry.2) table) table).mSensors ↔
        key ∈ table.mSensors ∨ ∃ entry ∈ entries, ∃ sensor ∈ entry.1.sensors,
          subHalIndexIsClear sensor.sensorHandle = true ∧
            (sensor.typeAsString = "xiaomi pick up sensor" → sensor.isWakeUp = true) ∧
            key = setSubHalIndex sensor.sensorHandle entry.2 := by
    intro entries
    induction entries with
    | nil => simp
    | cons entry rest ih =>
        intro table
        rw [List.foldl_cons, ih, mem_foldl_addSensor, or_assoc]
        simp only [List.exists_mem_cons_iff]
  unfold initializeSensorList
  rw [hfold]
  constructor
  · rintro (hempty | ⟨⟨subHal, index⟩, hentry, sensor, hsensor, hclear, hkeeps, hkey⟩)
    · exact absurd hempty Std.TreeMap.not_mem_emptyc
    · have hget : subHals.toList[index]? = some subHal :=
        List.mem_zipIdx_iff_getElem?.mp hentry
      exact ⟨index, sensor, ⟨⟨subHal, hget, hsensor⟩, hclear, hkeeps⟩, hkey⟩
  · rintro ⟨index, sensor, hlists, hkey⟩
    obtain ⟨subHal, hget, hsensor⟩ := hlists.reports
    exact Or.inr ⟨(subHal, index), List.mem_zipIdx_iff_getElem?.mpr hget, sensor, hsensor,
      hlists.isClear, hlists.keeps, hkey⟩

/-! ## Where a request goes -/

theorem forwardRequest_setSubHalIndex_iff {subHals : SubHalList} {handle : SensorHandle}
    {index : ℕ} (hindex : index < subHals.size)
    (hclear : subHalIndexIsClear handle = true)
    (request : SensorHandle → SubHalRequest) :
    forwardRequest subHals (setSubHalIndex handle index) request =
        .ok { subHal := index, request := request handle } ↔ index < 128 := by
  have hbound : index < 2 ^ 63 := hindex.trans subHals.size_lt
  have hround := extractSubHalIndex_setSubHalIndex_eq_iff hbound hclear
  have hcleared := clearSubHalIndex_setSubHalIndex index hclear
  unfold forwardRequest isSubHalIndexValid getSubHalForSensorHandle
  constructor
  · intro hforward
    split at hforward
    · contradiction
    · simp only [Except.ok.injEq, RoutedRequest.mk.injEq] at hforward
      exact hround.mp hforward.1
  · intro hsmall
    rw [hround.mpr hsmall, hcleared]
    simp [hindex]

end Camellia.Sensors

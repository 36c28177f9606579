import Camellia.Sensors.ListedSensors

/-!
# The sub-HAL of the direct channel

Only one sub-HAL may keep its direct flags.  `initializeSensorList` gives the
direct channel away before it knows whether the sensor that asks for it stays in
the list, and `configDirectReport` sends a request there whatever sub-HAL its
handle names.  The results below say when either is harmless.
-/

namespace Camellia.Sensors

section Selection

variable (subHals : SubHalList)

/-- A sensor that sub-HAL number `index` reports with a direct flag is in the list. -/
def OwnsListedDirect (index : ℕ) : Prop :=
  ∃ key sensor, lastListed subHals key = some (index, sensor) ∧
    supportsDirectChannel sensor = true

/-- The direct channel serves exactly the direct sensors of the list: it is given away if
there are any, to the first sub-HAL that owns one, whose sensors alone keep the flags. -/
structure DirectChannelSelected : Prop where
  chosen : (initializeSensorList subHals).mDirectChannelSubHal ≠ none ↔
    ∃ key ∈ (initializeSensorList subHals).mSensors,
      supportsDirectChannel ((initializeSensorList subHals).mSensors.lookup key) = true
  first : ∀ index, (initializeSensorList subHals).mDirectChannelSubHal = some index →
    OwnsListedDirect subHals index ∧
      ∀ earlier < index, ¬OwnsListedDirect subHals earlier
  keeps : ∀ key index sensor,
    (initializeSensorList subHals).mDirectChannelSubHal = some index →
    lastListed subHals key = some (index, sensor) →
    ((initializeSensorList subHals).mSensors.lookup key).flags &&& directFlags =
      sensor.flags &&& directFlags
  others : ∀ key index owner sensor,
    (initializeSensorList subHals).mDirectChannelSubHal = some index →
    lastListed subHals key = some (owner, sensor) → owner ≠ index →
    supportsDirectChannel ((initializeSensorList subHals).mSensors.lookup key) = false

variable {subHals}

theorem lookup_flags {key : SensorHandle} {entry : ℕ × SensorInfo}
    (hlast : lastListed subHals key = some entry) :
    ((initializeSensorList subHals).mSensors.lookup key).flags =
      listedFlags (initializeSensorList subHals).mDirectChannelSubHal entry :=
  (listedSensor_keeps (lookup_of_lastListed hlast).2).2

theorem not_supports_cleared (flags : BitVec 32) :
    flags &&& ~~~directFlags &&& directFlags = 0 := by
  rw [BitVec.and_assoc, show ~~~directFlags &&& directFlags = 0 by decide]
  exact BitVec.and_zero

theorem OwnsListedDirect.firstDirect_le {index : ℕ} (howns : OwnsListedDirect subHals index) :
    ∃ first ≤ index, firstDirect (reportedSensors subHals) = some first := by
  obtain ⟨key, sensor, hlast, hdirect⟩ := howns
  have hlists := (lists_of_lastListed hlast).1
  have hmem : (index, sensor) ∈ reportedSensors subHals :=
    mem_reportedSensors.mpr hlists.reports
  unfold firstDirect
  cases hfind : (reportedSensors subHals).find? fun entry =>
      subHalIndexIsClear entry.2.sensorHandle && supportsDirectChannel entry.2 with
  | none =>
      rw [List.find?_eq_none] at hfind
      exact absurd (by simp [hlists.isClear, hdirect]) (hfind _ hmem)
  | some found =>
      refine ⟨found.1, ?_, rfl⟩
      obtain ⟨_, before, after, hsplit, hbefore⟩ := List.find?_eq_some_iff_append.mp hfind
      rw [hsplit, List.mem_append, List.mem_cons] at hmem
      rcases hmem with hearly | rfl | hlate
      · have hno := hbefore _ hearly
        simp [hlists.isClear, hdirect] at hno
      · exact le_refl _
      · have hsorted := reportedSensors_pairwise subHals
        rw [hsplit, List.pairwise_append] at hsorted
        exact (List.pairwise_cons.mp hsorted.2.1).1 _ hlate

/-- The selection is right exactly when the first sub-HAL that reports a direct flag under
a usable handle also has such a sensor in the list. -/
theorem directChannelSelected_iff (subHals : SubHalList) :
    DirectChannelSelected subHals ↔
      ∀ index, firstDirect (reportedSensors subHals) = some index →
        OwnsListedDirect subHals index := by
  have hdirect := mDirectChannelSubHal_initializeSensorList subHals
  constructor
  · intro hselected index hfirst
    exact (hselected.first index (hdirect.trans hfirst)).1
  · intro howns
    have hkeeps : ∀ key index sensor,
        (initializeSensorList subHals).mDirectChannelSubHal = some index →
        lastListed subHals key = some (index, sensor) →
        ((initializeSensorList subHals).mSensors.lookup key).flags = sensor.flags := by
      intro key index sensor hchosen hlast
      rw [lookup_flags hlast, hchosen, listedFlags, if_neg]
      simp
    refine ⟨?_, ?_, ?_, ?_⟩
    · constructor
      · intro hchosen
        obtain ⟨index, hindex⟩ := Option.ne_none_iff_exists'.mp hchosen
        obtain ⟨key, sensor, hlast, hsupports⟩ := howns index (hdirect.symm.trans hindex)
        refine ⟨key, (lookup_of_lastListed hlast).1, ?_⟩
        simpa only [supportsDirectChannel, hkeeps key index sensor hindex hlast] using
          hsupports
      · rintro ⟨key, hmem, hsupports⟩ hnone
        obtain ⟨⟨index, sensor⟩, hlast⟩ := mem_iff_lastListed.mp hmem
        have hflags : ((initializeSensorList subHals).mSensors.lookup key).flags =
            sensor.flags := by
          rw [lookup_flags hlast, hnone, listedFlags, if_neg]
          simp
        have hown : OwnsListedDirect subHals index := by
          refine ⟨key, sensor, hlast, ?_⟩
          simpa only [supportsDirectChannel, hflags] using hsupports
        obtain ⟨first, _, hfirst⟩ := hown.firstDirect_le
        rw [hdirect, hfirst] at hnone
        contradiction
    · intro index hchosen
      refine ⟨howns index (hdirect.symm.trans hchosen), fun earlier hlt hown => ?_⟩
      obtain ⟨first, hle, hfirst⟩ := hown.firstDirect_le
      rw [hdirect, hfirst, Option.some.injEq] at hchosen
      omega
    · intro key index sensor hchosen hlast
      rw [hkeeps key index sensor hchosen hlast]
    · intro key index owner sensor hchosen hlast hother
      have hflags : ((initializeSensorList subHals).mSensors.lookup key).flags =
          sensor.flags &&& ~~~directFlags := by
        rw [lookup_flags hlast, hchosen, listedFlags, if_pos]
        exact ⟨by simp, by simpa using hother⟩
      simp only [supportsDirectChannel, hflags, not_supports_cleared]
      simp

end Selection

/-- The first sub-HAL reports one sensor, a pick-up sensor that is not a wake-up one; the
second a sensor with a direct flag.  Both use handle 1. -/
def directPickupSubHals : SubHalList where
  toList := [
    { sensors := [{
        sensorHandle := 1
        type := 0x10000
        typeAsString := "xiaomi pick up sensor"
        maxRange := floatOne
        flags := SensorFlagBits.maskDirectChannel }] },
    { sensors := [{
        sensorHandle := 1
        type := 1
        typeAsString := "android.sensor.accelerometer"
        maxRange := floatOne
        flags := SensorFlagBits.maskDirectChannel }] }]
  size_lt := by decide

/-- The dropped sensor takes the direct channel, which then serves no listed sensor. -/
theorem not_directChannelSelected_directPickup :
    ¬DirectChannelSelected directPickupSubHals := by
  intro hselected
  have hchosen :
      (initializeSensorList directPickupSubHals).mDirectChannelSubHal = some 0 := by
    rw [mDirectChannelSubHal_initializeSensorList]
    decide
  obtain ⟨key, sensor, hlast, _⟩ := (hselected.first 0 hchosen).1
  have hlists := (lists_of_lastListed hlast).1
  obtain ⟨subHal, hget, hmem⟩ := hlists.reports
  have hsubHal : subHal = directPickupSubHals.toList.head (by decide) :=
    Option.some.inj (hget.symm.trans rfl)
  rw [hsubHal] at hmem
  have hsensor := List.mem_singleton.mp hmem
  have hwake := hlists.keeps (by rw [hsensor])
  rw [hsensor] at hwake
  exact absurd hwake (by decide)

/-! ## Direct reports -/

abbrev RateLevel := BitVec 32

def RateLevel.stop : RateLevel := 0

/-- What the callback of `configDirectReport` is given when no sub-HAL is called. -/
structure DirectReportReply where
  result : Result
  reportToken : BitVec 32

/-- A call of `configDirectReport` of a sub-HAL. -/
structure DirectReportRequest where
  subHal : ℕ
  sensorHandle : SensorHandle
  channelHandle : BitVec 32
  rate : RateLevel

def configDirectReport (mDirectChannelSubHal : Option ℕ) (sensorHandle : SensorHandle)
    (channelHandle : BitVec 32) (rate : RateLevel) :
    Except DirectReportReply DirectReportRequest :=
  match mDirectChannelSubHal with
  | none => .error { result := .invalidOperation, reportToken := -1 }
  | some subHal =>
      if sensorHandle = -1 ∧ rate ≠ RateLevel.stop then
        .error { result := .badValue, reportToken := -1 }
      else .ok {
        subHal := subHal
        -- -1 denotes all sensors should be disabled
        sensorHandle :=
          if sensorHandle ≠ -1 then clearSubHalIndex sensorHandle else sensorHandle
        channelHandle := channelHandle
        rate := rate }

/-- Sub-HAL number `index` has a sensor, listed or connected, that the framework knows
under `sensorHandle`. -/
def HasSensor (subHals : SubHalList) (mDynamicSensors : SensorMap) (index : ℕ)
    (sensorHandle : SensorHandle) : Prop :=
  (∃ sensor, Lists subHals index sensor ∧
      sensorHandle = setSubHalIndex sensor.sensorHandle index) ∨
    sensorHandle ∈ mDynamicSensors

/-- A forwarded request names the sensor that `sensorHandle` stands for, and nothing is
forwarded on a handle of another sub-HAL or of none. -/
structure ReportsOnlyNamed (subHals : SubHalList) (mDynamicSensors : SensorMap)
    (mDirectChannelSubHal : ℕ) (sensorHandle : SensorHandle)
    (outcome : Except DirectReportReply DirectReportRequest) : Prop where
  named : ∀ request, outcome = .ok request →
    request.subHal = mDirectChannelSubHal ∧
      sensorHandle = setSubHalIndex request.sensorHandle mDirectChannelSubHal ∧
      HasSensor subHals mDynamicSensors mDirectChannelSubHal sensorHandle
  foreign : isSubHalIndexValid subHals sensorHandle = false ∨
      getSubHalForSensorHandle sensorHandle ≠ mDirectChannelSubHal →
    ∀ request, outcome ≠ .ok request

theorem setSubHalIndex_clearSubHalIndex {handle : SensorHandle} {index : ℕ}
    (hindex : index < 2 ^ 63) (hextract : extractSubHalIndex handle = index) :
    setSubHalIndex (clearSubHalIndex handle) index = handle := by
  have hclear : subHalIndexIsClear (clearSubHalIndex handle) = true := by
    rw [subHalIndexIsClear_iff, clearSubHalIndex_toNat]
    omega
  rw [extractSubHalIndex_eq] at hextract
  rw [← BitVec.toNat_inj, setSubHalIndex_toNat index hclear, clearSubHalIndex_toNat]
  have hlt := handle.isLt
  split at hextract <;> omega

/-- Whatever the channel and the rate, a direct report stays with the named sensor exactly
when the handle names a sensor of the direct channel's own sub-HAL. -/
theorem configDirectReport_reportsOnlyNamed_iff (subHals : SubHalList)
    (mDynamicSensors : SensorMap) {index : ℕ}
    (hdirect : (initializeSensorList subHals).mDirectChannelSubHal = some index)
    {sensorHandle : SensorHandle} (hsingle : sensorHandle ≠ -1)
    (channelHandle : BitVec 32) (rate : RateLevel) :
    ReportsOnlyNamed subHals mDynamicSensors index sensorHandle
        (configDirectReport (initializeSensorList subHals).mDirectChannelSubHal
          sensorHandle channelHandle rate) ↔
      getSubHalForSensorHandle sensorHandle = index ∧
        HasSensor subHals mDynamicSensors index sensorHandle := by
  have hforward : configDirectReport (some index) sensorHandle channelHandle rate = .ok {
      subHal := index
      sensorHandle := clearSubHalIndex sensorHandle
      channelHandle := channelHandle
      rate := rate } := by
    unfold configDirectReport
    dsimp only
    rw [if_neg fun hstop => hsingle hstop.1, if_pos hsingle]
  have hindex : index < subHals.size := by
    rw [mDirectChannelSubHal_initializeSensorList, firstDirect,
      Option.map_eq_some_iff] at hdirect
    obtain ⟨entry, hfind, rfl⟩ := hdirect
    exact (mem_reportedSensors.mp (List.mem_of_find?_eq_some hfind)).index_lt
  rw [hdirect, hforward]
  constructor
  · intro hnamed
    refine ⟨?_, (hnamed.named _ rfl).2.2⟩
    by_contra hother
    exact hnamed.foreign (Or.inr hother) _ rfl
  · rintro ⟨hown, hsensor⟩
    refine ⟨?_, ?_⟩
    · intro request hrequest
      rw [Except.ok.injEq] at hrequest
      subst request
      have hround := setSubHalIndex_clearSubHalIndex (hindex.trans subHals.size_lt) hown
      exact ⟨rfl, hround.symm, hsensor⟩
    · have hvalid : isSubHalIndexValid subHals sensorHandle = true := by
        unfold getSubHalForSensorHandle at hown
        simpa [isSubHalIndexValid, hown] using hindex
      rintro (hinvalid | hother)
      · rw [hvalid] at hinvalid
        contradiction
      · exact absurd hown hother

/-- Two sub-HALs with a sensor of handle 1 each; the first has the direct channel. -/
def directReportSubHals : SubHalList where
  toList := List.replicate 2 { sensors := [{
    sensorHandle := 1
    type := 1
    typeAsString := "android.sensor.accelerometer"
    maxRange := floatOne
    flags := SensorFlagBits.maskDirectReport }] }
  size_lt := by decide

theorem mDirectChannelSubHal_directReport :
    (initializeSensorList directReportSubHals).mDirectChannelSubHal = some 0 := by
  rw [mDirectChannelSubHal_initializeSensorList]
  decide

/-- On the sensor of the first sub-HAL the request is right. -/
theorem reportsOnlyNamed_own_sensor :
    ReportsOnlyNamed directReportSubHals ∅ 0 1
      (configDirectReport (initializeSensorList directReportSubHals).mDirectChannelSubHal
        1 7 RateLevel.stop) := by
  refine (configDirectReport_reportsOnlyNamed_iff directReportSubHals ∅
    mDirectChannelSubHal_directReport (by decide) 7 RateLevel.stop).mpr
    ⟨by decide, Or.inl ⟨_, ⟨⟨_, rfl, List.mem_singleton.mpr rfl⟩, by decide, ?_⟩, ?_⟩⟩
  · intro hname
    exact absurd hname (by decide)
  · decide

/-- On the sensor of the second sub-HAL the first one is reconfigured. -/
theorem not_reportsOnlyNamed_foreign_sensor :
    ¬ReportsOnlyNamed directReportSubHals ∅ 0 0x01000001
      (configDirectReport (initializeSensorList directReportSubHals).mDirectChannelSubHal
        0x01000001 7 RateLevel.stop) := by
  rw [mDirectChannelSubHal_directReport]
  intro hnamed
  exact hnamed.foreign (Or.inr (by decide)) _ rfl

end Camellia.Sensors

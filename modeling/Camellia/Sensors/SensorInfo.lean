import Mathlib.Tactic

/-!
# Sensors, events and the maps that hold them

The fields of `SensorInfo` and `Event` are those the proxy reads or writes.
Enumerations and bit sets that cross the HAL interface are fixed-width values,
since a sub-HAL may report vendor values; floats are kept as their bits.
-/

namespace Camellia.Sensors

abbrev SensorHandle := BitVec 32

abbrev SensorType := BitVec 32

def SensorType.pickUpGesture : SensorType := 25

def SensorType.additionalInfo : SensorType := 33

namespace SensorFlagBits

def wakeUp : BitVec 32 := 0x1

def maskDirectReport : BitVec 32 := 0x380

def maskDirectChannel : BitVec 32 := 0xC00

end SensorFlagBits

/-- The bits of the float `1`. -/
def floatOne : BitVec 32 := 0x3F800000

structure SensorInfo where
  sensorHandle : SensorHandle
  type : SensorType
  typeAsString : String
  maxRange : BitVec 32
  flags : BitVec 32
deriving DecidableEq

instance : Inhabited SensorInfo where
  default := {
    sensorHandle := 0
    type := 0
    typeAsString := ""
    maxRange := 0
    flags := 0 }

/-- `scalar` is the first word of the payload union. -/
structure Event where
  sensorHandle : SensorHandle
  sensorType : SensorType
  timestamp : BitVec 64
  scalar : BitVec 32
deriving DecidableEq

def SensorInfo.isWakeUp (sensor : SensorInfo) : Bool :=
  sensor.flags &&& SensorFlagBits.wakeUp ≠ 0

/-- Rewrite the vendor pick-up sensor to the standard type; `none` asks the
caller to leave the sensor out. -/
def patchXiaomiPickupSensor (sensor : SensorInfo) : Option SensorInfo :=
  if sensor.typeAsString ≠ "xiaomi pick up sensor" then some sensor
  else if !sensor.isWakeUp then none
  else some { sensor with
    type := SensorType.pickUpGesture
    typeAsString := "android.sensor.pick_up_gesture"
    maxRange := floatOne }

theorem patchXiaomiPickupSensor_isSome (sensor : SensorInfo) :
    (patchXiaomiPickupSensor sensor).isSome ↔
      sensor.typeAsString = "xiaomi pick up sensor" → sensor.isWakeUp = true := by
  unfold patchXiaomiPickupSensor
  by_cases hname : sensor.typeAsString = "xiaomi pick up sensor"
  · cases hwake : sensor.isWakeUp <;> simp [hname]
  · simp [hname]

theorem patchXiaomiPickupSensor_keeps {sensor patched : SensorInfo}
    (hpatch : patchXiaomiPickupSensor sensor = some patched) :
    patched.sensorHandle = sensor.sensorHandle ∧ patched.flags = sensor.flags := by
  unfold patchXiaomiPickupSensor at hpatch
  split at hpatch
  · rw [Option.some.injEq] at hpatch
    subst patched
    exact ⟨rfl, rfl⟩
  · split at hpatch
    · contradiction
    · rw [Option.some.injEq] at hpatch
      subst patched
      exact ⟨rfl, rfl⟩

/-! ## Sensor maps -/

def compareHandle (a b : SensorHandle) : Ordering := compare a.toInt b.toInt

instance : Std.TransCmp compareHandle :=
  inferInstanceAs (Std.TransCmp (compareOn BitVec.toInt))

instance : Std.LawfulEqCmp compareHandle where
  eq_of_compare := by
    intro a b hcompare
    exact BitVec.eq_of_toInt_eq (Std.LawfulEqCmp.eq_of_compare hcompare)

abbrev SensorMap := Std.TreeMap SensorHandle SensorInfo compareHandle

namespace SensorMap

def lookup (sensors : SensorMap) (handle : SensorHandle) : SensorInfo :=
  sensors.getD handle default

/-- The map after evaluating a subscript `sensors[handle]`: a missing key is
inserted with a value-initialised sensor. -/
def subscript (sensors : SensorMap) (handle : SensorHandle) : SensorMap :=
  if handle ∈ sensors then sensors else sensors.insert handle default

def subscriptAll (sensors : SensorMap) (handles : List SensorHandle) : SensorMap :=
  handles.foldl subscript sensors

theorem mem_insert_iff (sensors : SensorMap) (handle key : SensorHandle)
    (sensor : SensorInfo) :
    key ∈ sensors.insert handle sensor ↔ key = handle ∨ key ∈ sensors := by
  rw [Std.TreeMap.mem_insert, Std.LawfulEqCmp.compare_eq_iff_eq]
  exact or_congr_left eq_comm

theorem mem_subscript (sensors : SensorMap) (handle key : SensorHandle) :
    key ∈ sensors.subscript handle ↔ key = handle ∨ key ∈ sensors := by
  unfold subscript
  by_cases hmem : handle ∈ sensors
  · rw [if_pos hmem]
    constructor
    · exact Or.inr
    · rintro (rfl | hkey)
      · exact hmem
      · exact hkey
  · rw [if_neg hmem]
    exact mem_insert_iff sensors handle key default

@[simp] theorem lookup_subscript (sensors : SensorMap) (handle key : SensorHandle) :
    (sensors.subscript handle).lookup key = sensors.lookup key := by
  unfold subscript lookup
  by_cases hmem : handle ∈ sensors
  · rw [if_pos hmem]
  · rw [if_neg hmem, Std.TreeMap.getD_insert]
    by_cases hkey : handle = key
    · subst key
      rw [if_pos (Std.LawfulEqCmp.compare_eq_iff_eq.mpr rfl)]
      exact (Std.TreeMap.getD_eq_fallback hmem).symm
    · rw [if_neg (mt Std.LawfulEqCmp.eq_of_compare hkey)]

theorem subscript_eq_self_iff (sensors : SensorMap) (handle : SensorHandle) :
    sensors.subscript handle = sensors ↔ handle ∈ sensors := by
  constructor
  · intro heq
    rw [← heq]
    exact (mem_subscript sensors handle handle).mpr (Or.inl rfl)
  · intro hmem
    exact if_pos hmem

@[simp] theorem subscriptAll_nil (sensors : SensorMap) :
    sensors.subscriptAll [] = sensors := rfl

@[simp] theorem subscriptAll_cons (sensors : SensorMap) (handle : SensorHandle)
    (rest : List SensorHandle) :
    sensors.subscriptAll (handle :: rest) =
      (sensors.subscript handle).subscriptAll rest := rfl

theorem mem_subscriptAll (sensors : SensorMap) (handles : List SensorHandle)
    (key : SensorHandle) :
    key ∈ sensors.subscriptAll handles ↔ key ∈ handles ∨ key ∈ sensors := by
  induction handles generalizing sensors with
  | nil => simp
  | cons handle rest ih =>
      rw [subscriptAll_cons, ih, mem_subscript, List.mem_cons]
      tauto

@[simp] theorem lookup_subscriptAll (sensors : SensorMap)
    (handles : List SensorHandle) (key : SensorHandle) :
    (sensors.subscriptAll handles).lookup key = sensors.lookup key := by
  induction handles generalizing sensors with
  | nil => rfl
  | cons handle rest ih =>
      rw [subscriptAll_cons, ih, lookup_subscript]

theorem subscriptAll_eq_self_iff (sensors : SensorMap) (handles : List SensorHandle) :
    sensors.subscriptAll handles = sensors ↔ ∀ handle ∈ handles, handle ∈ sensors := by
  constructor
  · intro heq handle hmem
    rw [← heq]
    exact (mem_subscriptAll sensors handles handle).mpr (Or.inl hmem)
  · intro hall
    induction handles with
    | nil => rfl
    | cons handle rest ih =>
        have hhead : sensors.subscript handle = sensors :=
          (subscript_eq_self_iff sensors handle).mpr (hall handle (by simp))
        rw [subscriptAll_cons, hhead]
        exact ih fun other hmem => hall other (by simp [hmem])

end SensorMap

end Camellia.Sensors

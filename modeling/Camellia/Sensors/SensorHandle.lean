import Camellia.Sensors.SensorInfo

/-!
# Sensor handles with a sub-HAL index in their first byte

The proxy stores the index of the owning sub-HAL in the top byte of a handle.
Encoding and decoding mix an `OR`, a left shift of a truncated `size_t`, an
arithmetic right shift and a sign-extending cast back to `size_t`; the lemmas
below reduce all of them to arithmetic on `toNat`.
-/

namespace Camellia.Sensors

def kBitsAfterSubHalIndex : ℕ := 24

def kSensorHandleSubHalIndexMask : BitVec 32 := 0xFF000000

/-- `static_cast<int32_t>` of a `size_t`. -/
def int32OfSize (size : ℕ) : BitVec 32 := BitVec.ofNat 32 size

/-- `static_cast<size_t>` of an `int32_t`. -/
def sizeOfInt32 (value : BitVec 32) : ℕ := (value.signExtend 64).toNat

def setSubHalIndex (sensorHandle : SensorHandle) (subHalIndex : ℕ) : SensorHandle :=
  sensorHandle ||| (int32OfSize subHalIndex <<< kBitsAfterSubHalIndex)

def extractSubHalIndex (sensorHandle : SensorHandle) : ℕ :=
  sizeOfInt32 (sensorHandle.sshiftRight kBitsAfterSubHalIndex)

def clearSubHalIndex (sensorHandle : SensorHandle) : SensorHandle :=
  sensorHandle &&& ~~~kSensorHandleSubHalIndexMask

def subHalIndexIsClear (sensorHandle : SensorHandle) : Bool :=
  sensorHandle &&& kSensorHandleSubHalIndexMask = 0

theorem and_subHalIndexMask (handle : SensorHandle) :
    handle &&& kSensorHandleSubHalIndexMask = (handle >>> 24) <<< 24 := by
  apply BitVec.eq_of_getLsbD_eq
  intro i hi
  simp only [kSensorHandleSubHalIndexMask, BitVec.getLsbD_and, BitVec.getLsbD_shiftLeft,
    BitVec.getLsbD_ushiftRight]
  interval_cases i <;> simp

theorem subHalIndexIsClear_iff (handle : SensorHandle) :
    subHalIndexIsClear handle = true ↔ handle.toNat < 2 ^ 24 := by
  have hlt := handle.isLt
  rw [subHalIndexIsClear, decide_eq_true_iff, and_subHalIndexMask, ← BitVec.toNat_inj]
  simp only [BitVec.toNat_shiftLeft, BitVec.toNat_ushiftRight, Nat.shiftLeft_eq,
    Nat.shiftRight_eq_div_pow, BitVec.ofNat_eq_ofNat, BitVec.toNat_ofNat]
  omega

theorem clearSubHalIndex_toNat (handle : SensorHandle) :
    (clearSubHalIndex handle).toNat = handle.toNat % 2 ^ 24 := by
  have hmask : (~~~kSensorHandleSubHalIndexMask).toNat = 2 ^ 24 - 1 := by decide
  rw [clearSubHalIndex, BitVec.toNat_and, hmask, Nat.and_two_pow_sub_one_eq_mod]

theorem setSubHalIndex_toNat {handle : SensorHandle} (index : ℕ)
    (hclear : subHalIndexIsClear handle = true) :
    (setSubHalIndex handle index).toNat = 2 ^ 24 * (index % 256) + handle.toNat := by
  have hlow := (subHalIndexIsClear_iff handle).mp hclear
  have hshift : (int32OfSize index <<< kBitsAfterSubHalIndex).toNat =
      2 ^ 24 * (index % 256) := by
    simp only [int32OfSize, kBitsAfterSubHalIndex, BitVec.toNat_shiftLeft,
      BitVec.toNat_ofNat, Nat.shiftLeft_eq]
    omega
  rw [setSubHalIndex, BitVec.toNat_or, hshift, Nat.or_comm,
    ← Nat.two_pow_add_eq_or_of_lt hlow]

theorem clearSubHalIndex_setSubHalIndex {handle : SensorHandle} (index : ℕ)
    (hclear : subHalIndexIsClear handle = true) :
    clearSubHalIndex (setSubHalIndex handle index) = handle := by
  have hlow := (subHalIndexIsClear_iff handle).mp hclear
  rw [← BitVec.toNat_inj, clearSubHalIndex_toNat, setSubHalIndex_toNat index hclear]
  omega

theorem extractSubHalIndex_eq (handle : SensorHandle) :
    extractSubHalIndex handle =
      if handle.toNat < 2 ^ 31 then handle.toNat / 2 ^ 24
      else 2 ^ 64 - 256 + handle.toNat / 2 ^ 24 := by
  have hlt := handle.isLt
  have hshift : ((handle.sshiftRight kBitsAfterSubHalIndex).signExtend 64).toInt =
      handle.toInt / 2 ^ 24 := by
    rw [BitVec.toInt_signExtend_of_le (by omega), BitVec.toInt_sshiftRight,
      kBitsAfterSubHalIndex, Int.shiftRight_eq_div_pow]
    norm_cast
  have hwide := ((handle.sshiftRight kBitsAfterSubHalIndex).signExtend 64).isLt
  rw [BitVec.toInt_eq_toNat_cond] at hshift
  rw [BitVec.toInt_eq_toNat_cond] at hshift
  unfold extractSubHalIndex sizeOfInt32
  split at hshift <;> split at hshift <;> split <;> omega

theorem extractSubHalIndex_setSubHalIndex {handle : SensorHandle} (index : ℕ)
    (hclear : subHalIndexIsClear handle = true) :
    extractSubHalIndex (setSubHalIndex handle index) =
      if index % 256 < 128 then index % 256 else 2 ^ 64 - 256 + index % 256 := by
  have hlow := (subHalIndexIsClear_iff handle).mp hclear
  rw [extractSubHalIndex_eq, setSubHalIndex_toNat index hclear]
  split <;> split <;> omega

/-- An index the rest of the system can hold survives the round trip exactly when
it fits in seven bits. -/
theorem extractSubHalIndex_setSubHalIndex_eq_iff {handle : SensorHandle} {index : ℕ}
    (hindex : index < 2 ^ 63) (hclear : subHalIndexIsClear handle = true) :
    extractSubHalIndex (setSubHalIndex handle index) = index ↔ index < 128 := by
  rw [extractSubHalIndex_setSubHalIndex index hclear]
  split <;> omega

theorem setSubHalIndex_injective {handle other : SensorHandle} {index otherIndex : ℕ}
    (hclear : subHalIndexIsClear handle = true)
    (hother : subHalIndexIsClear other = true)
    (hindex : index < 128) (hotherIndex : otherIndex < 128)
    (heq : setSubHalIndex handle index = setSubHalIndex other otherIndex) :
    index = otherIndex ∧ handle = other := by
  have hlow := (subHalIndexIsClear_iff handle).mp hclear
  have hotherLow := (subHalIndexIsClear_iff other).mp hother
  have hnat := congrArg BitVec.toNat heq
  rw [setSubHalIndex_toNat index hclear, setSubHalIndex_toNat otherIndex hother] at hnat
  refine ⟨by omega, BitVec.eq_of_toNat_eq (by omega)⟩

@[simp] theorem int32OfSize_sizeOfInt32 (value : BitVec 32) :
    int32OfSize (sizeOfInt32 value) = value := by
  apply BitVec.eq_of_getLsbD_eq
  intro i hi
  simp [int32OfSize, sizeOfInt32, BitVec.getElem_signExtend, hi, show i < 64 by omega]

end Camellia.Sensors

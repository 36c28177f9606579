import Mathlib.Data.List.Basic
import Mathlib.Tactic.Common

/-!
# Selecting the fingerprint module

The constructor of the service tries the candidate modules in order and keeps the device
of the first that passes every check.  `currentHal` starts as whatever the memory holds,
and a device that `openHal` turns down is not closed.
-/

namespace Camellia.Fingerprint

inductive FpHal where
  | unknown
  | fpc
  | goodix
deriving DecidableEq, Repr

def FpHal.value : FpHal → Nat
  | .unknown => 0
  | .fpc => 1
  | .goodix => 2

/-- The memory of an `FpHal` can hold a value that is none of the enumeration. -/
def fpHalToString (hal : Nat) : Option String :=
  if hal = FpHal.fpc.value then some "fpc"
  else if hal = FpHal.goodix.value then some "goodix"
  else if hal = FpHal.unknown.value then some "none"
  else none

def hardwareModuleApiVersion (major minor : UInt16) : UInt16 :=
  ((major &&& 0xff) <<< 8) ||| (minor &&& 0xff)

def kVersion : UInt16 := hardwareModuleApiVersion 2 1

/-- A device, with what its `set_notify` returns. -/
structure Device where
  address : Nat
  version : UInt32
  setNotify : Int
deriving DecidableEq, Repr

/-- A module, with the error its open method returns and the device it writes. -/
structure HwModule where
  openMethod : Option (Int × Device)
deriving DecidableEq, Repr

/-- An entry of `fpHals`, with what `hw_get_module` gives for its module. -/
structure Candidate where
  hal : FpHal
  moduleId : String
  getModule : Int × Option HwModule
deriving DecidableEq, Repr

inductive HalEvent where
  | lookedUp (moduleId : String)
  | opened (device : Device)
  | notifySet (device : Device)
  | closed (device : Device)
deriving DecidableEq, Repr

/-! ## The constructor -/

def openHal (candidate : Candidate) : Option Device × List HalEvent :=
  let lookedUp := [HalEvent.lookedUp candidate.moduleId]
  if candidate.getModule.1 ≠ 0 then (none, lookedUp)
  else match candidate.getModule.2 with
    | none => (none, lookedUp)
    | some hwModule =>
        match hwModule.openMethod with
        | none => (none, lookedUp)
        | some (err, device) =>
            if err ≠ 0 then (none, lookedUp)
            else if kVersion.toUInt32 ≠ device.version then
              (none, lookedUp ++ [.opened device])
            else if device.setNotify ≠ 0 then
              (none, lookedUp ++ [.opened device, .notifySet device])
            else (some device, lookedUp ++ [.opened device, .notifySet device])

structure BiometricsFingerprint where
  mClientCallback : Option Nat
  mDevice : Option Device
  currentHal : Nat
deriving DecidableEq, Repr

/-- The loop of the constructor over the candidates. -/
def openHals (self : BiometricsFingerprint) :
    List Candidate → BiometricsFingerprint × List HalEvent
  | [] => (self, [])
  | candidate :: rest =>
      match openHal candidate with
      | (some device, events) =>
          ({ self with mDevice := some device, currentHal := candidate.hal.value }, events)
      | (none, events) =>
          let (self, later) := openHals { self with mDevice := none } rest
          (self, events ++ later)

structure Constructed where
  self : BiometricsFingerprint
  events : List HalEvent
  vendorProperty : Option String
deriving DecidableEq, Repr

/-- `memory` is what `currentHal` holds before it is first written. -/
def construct (memory : Nat) (fpHals : List Candidate) : Constructed :=
  let (self, events) :=
    openHals { mClientCallback := none, mDevice := none, currentHal := memory } fpHals
  { self, events, vendorProperty := fpHalToString self.currentHal }

/-! ## What a candidate offers -/

def Candidate.device (candidate : Candidate) : Option Device :=
  if candidate.getModule.1 = 0 then
    candidate.getModule.2.bind fun hwModule =>
      hwModule.openMethod.bind fun (err, device) => if err = 0 then some device else none
  else none

def Device.accepted (device : Device) : Bool :=
  device.version = kVersion.toUInt32 && device.setNotify = 0

def Candidate.passingDevice (candidate : Candidate) : Option Device :=
  candidate.device.filter Device.accepted

def Candidate.passes (candidate : Candidate) : Bool :=
  candidate.passingDevice.isSome

theorem openHal_of_device_eq_none {candidate : Candidate} (hdevice : candidate.device = none) :
    openHal candidate = (none, [.lookedUp candidate.moduleId]) := by
  obtain ⟨hal, moduleId, err, hwModule⟩ := candidate
  by_cases herr : err = 0
  · rcases hwModule with _ | ⟨_ | ⟨openErr, device⟩⟩
    · simp [openHal]
    · simp [openHal]
    · have hopen : openErr ≠ 0 := by simpa [Candidate.device, herr] using hdevice
      simp [openHal, hopen]
  · simp [openHal, herr]

theorem openHal_of_device_eq_some {candidate : Candidate} {device : Device}
    (hdevice : candidate.device = some device) :
    openHal candidate =
      (if device.accepted then some device else none,
        [.lookedUp candidate.moduleId, .opened device] ++
          if device.version = kVersion.toUInt32 then [.notifySet device] else []) := by
  obtain ⟨hal, moduleId, err, hwModule⟩ := candidate
  by_cases herr : err = 0
  · rcases hwModule with _ | ⟨_ | ⟨openErr, opened⟩⟩
    · simp [Candidate.device] at hdevice
    · simp [Candidate.device] at hdevice
    · obtain ⟨hopen, rfl⟩ : openErr = 0 ∧ opened = device := by
        simpa [Candidate.device, herr] using hdevice
      by_cases hversion : opened.version = kVersion.toUInt32
      · by_cases hnotify : opened.setNotify = 0
        · simp [openHal, Device.accepted, herr, hopen, hversion, hnotify]
        · simp [openHal, Device.accepted, herr, hopen, hversion, hnotify]
      · simp [openHal, Device.accepted, herr, hopen, hversion, Ne.symm hversion]
  · simp [Candidate.device, herr] at hdevice

theorem openHal_fst (candidate : Candidate) :
    (openHal candidate).1 = candidate.passingDevice := by
  unfold Candidate.passingDevice
  cases hdevice : candidate.device with
  | none => rw [openHal_of_device_eq_none hdevice, Option.filter_none]
  | some device => rw [openHal_of_device_eq_some hdevice, Option.filter_some]

theorem opened_mem_openHal {candidate : Candidate} {device : Device} :
    HalEvent.opened device ∈ (openHal candidate).2 ↔ candidate.device = some device := by
  cases hdevice : candidate.device with
  | none => simp [openHal_of_device_eq_none hdevice]
  | some opened =>
      rw [openHal_of_device_eq_some hdevice]
      split <;> simp [eq_comm]

theorem closed_notMem_openHal (candidate : Candidate) (device : Device) :
    HalEvent.closed device ∉ (openHal candidate).2 := by
  cases hdevice : candidate.device with
  | none => simp [openHal_of_device_eq_none hdevice]
  | some opened =>
      rw [openHal_of_device_eq_some hdevice]
      split <;> simp

/-! ## The whole list -/

theorem openHals_cons_of_passes {self : BiometricsFingerprint} {candidate : Candidate}
    {rest : List Candidate} {device : Device}
    (hdevice : candidate.passingDevice = some device) :
    openHals self (candidate :: rest) =
      ({ self with mDevice := some device, currentHal := candidate.hal.value },
        (openHal candidate).2) := by
  rw [← openHal_fst] at hdevice
  rw [openHals]
  generalize openHal candidate = opening at hdevice ⊢
  obtain ⟨result, events⟩ := opening
  cases hdevice
  rfl

theorem openHals_cons_of_not_passes {self : BiometricsFingerprint} {candidate : Candidate}
    {rest : List Candidate} (hdevice : candidate.passingDevice = none) :
    openHals self (candidate :: rest) =
      ((openHals { self with mDevice := none } rest).1,
        (openHal candidate).2 ++ (openHals { self with mDevice := none } rest).2) := by
  rw [← openHal_fst] at hdevice
  rw [openHals]
  generalize openHal candidate = opening at hdevice ⊢
  obtain ⟨result, events⟩ := opening
  cases hdevice
  rfl

theorem closed_notMem_openHals (self : BiometricsFingerprint) (fpHals : List Candidate)
    (device : Device) : HalEvent.closed device ∉ (openHals self fpHals).2 := by
  induction fpHals generalizing self with
  | nil => exact List.not_mem_nil
  | cons candidate rest ih =>
      cases hdevice : candidate.passingDevice with
      | some opened =>
          rw [openHals_cons_of_passes hdevice]
          exact closed_notMem_openHal candidate device
      | none =>
          rw [openHals_cons_of_not_passes hdevice, List.mem_append, not_or]
          exact ⟨closed_notMem_openHal candidate device, ih _⟩

/-- The candidate whose device is kept. -/
def selected (fpHals : List Candidate) : Option Candidate :=
  fpHals.find? Candidate.passes

theorem openHals_fst {self : BiometricsFingerprint} (hself : self.mDevice = none)
    (fpHals : List Candidate) :
    (openHals self fpHals).1 =
      match selected fpHals with
      | none => self
      | some candidate =>
          { self with mDevice := candidate.passingDevice, currentHal := candidate.hal.value } := by
  induction fpHals with
  | nil => rfl
  | cons candidate rest ih =>
      unfold selected
      cases hdevice : candidate.passingDevice with
      | some device =>
          have hpasses : candidate.passes = true := by rw [Candidate.passes, hdevice]; rfl
          rw [openHals_cons_of_passes hdevice, List.find?_cons_of_pos hpasses, ← hdevice]
      | none =>
          have hpasses : ¬candidate.passes = true := by rw [Candidate.passes, hdevice]; decide
          have hkeep : { self with mDevice := none } = self := by rw [← hself]
          rw [openHals_cons_of_not_passes hdevice, hkeep, List.find?_cons_of_neg hpasses]
          exact ih

/-- What the constructor is for: the first candidate that passes is selected, and no
device stays open without being used. -/
structure SelectionCorrect (memory : Nat) (fpHals : List Candidate) : Prop where
  device : (construct memory fpHals).self.mDevice =
    (selected fpHals).bind Candidate.passingDevice
  hal : (construct memory fpHals).self.currentHal =
    ((selected fpHals).elim FpHal.unknown Candidate.hal).value
  property : selected fpHals = none →
    (construct memory fpHals).vendorProperty = some "none"
  closed : ∀ candidate ∈ fpHals.takeWhile fun candidate => !candidate.passes,
    ∀ device, HalEvent.opened device ∈ (openHal candidate).2 →
      HalEvent.closed device ∈ (construct memory fpHals).events

theorem construct_self (memory : Nat) (fpHals : List Candidate) :
    (construct memory fpHals).self =
      { mClientCallback := none
        mDevice := (selected fpHals).bind Candidate.passingDevice
        currentHal := (selected fpHals).elim memory fun candidate => candidate.hal.value } := by
  change (openHals _ fpHals).1 = _
  rw [openHals_fst rfl]
  cases selected fpHals <;> rfl

theorem selected_eq_none {fpHals : List Candidate} :
    selected fpHals = none ↔ ¬∃ candidate ∈ fpHals, candidate.passes = true := by
  simp [selected]

theorem construct_mDevice_isSome (memory : Nat) (fpHals : List Candidate) :
    (construct memory fpHals).self.mDevice.isSome = true ↔
      ∃ candidate ∈ fpHals, candidate.passes = true := by
  rw [construct_self]
  constructor
  · intro hdevice
    by_contra hnone
    rw [selected_eq_none.mpr hnone] at hdevice
    contradiction
  · intro hpasses
    have hselected : (selected fpHals).isSome = true :=
      List.find?_isSome.mpr hpasses
    obtain ⟨first, hfirst⟩ := Option.isSome_iff_exists.mp hselected
    have hkept : first.passes = true := List.find?_some hfirst
    rw [hfirst]
    exact hkept

/-- A selection is right exactly when a candidate passes, or the memory happens to hold
`unknown`, and no device was opened before it that was turned down. -/
theorem selectionCorrect_iff (memory : Nat) (fpHals : List Candidate) :
    SelectionCorrect memory fpHals ↔
      ((∃ candidate ∈ fpHals, candidate.passes = true) ∨ memory = FpHal.unknown.value) ∧
        ∀ candidate ∈ fpHals.takeWhile (fun candidate => !candidate.passes),
          candidate.device = none := by
  constructor
  · intro hcorrect
    constructor
    · by_cases hsome : ∃ candidate ∈ fpHals, candidate.passes = true
      · exact Or.inl hsome
      · have hhal := hcorrect.hal
        rw [construct_self, selected_eq_none.mpr hsome] at hhal
        exact Or.inr hhal
    · intro candidate hmem
      by_contra hdevice
      obtain ⟨device, hdevice⟩ := Option.ne_none_iff_exists'.mp hdevice
      have hclosed := hcorrect.closed candidate hmem device (opened_mem_openHal.mpr hdevice)
      exact closed_notMem_openHals _ fpHals device hclosed
  · rintro ⟨hhal, hopened⟩
    have hmemory : selected fpHals = none → memory = FpHal.unknown.value :=
      fun hnone => hhal.resolve_left (selected_eq_none.mp hnone)
    constructor
    · rw [construct_self]
    · rw [construct_self]
      cases hselected : selected fpHals with
      | none => exact hmemory hselected
      | some candidate => rfl
    · intro hnone
      change fpHalToString (construct memory fpHals).self.currentHal = _
      rw [construct_self, hnone, hmemory hnone]
      rfl
    · intro candidate hmem device hevent
      rw [opened_mem_openHal, hopened candidate hmem] at hevent
      contradiction

/-- A module of an older version stays open; with no module at all the property can name
one. -/
theorem selection_incorrect :
    ¬SelectionCorrect 0 [⟨.fpc, "fingerprint", 0, some ⟨some (0, ⟨1, 0x0200, 0⟩)⟩⟩] ∧
      ¬SelectionCorrect 1 [] := by
  constructor
  · intro hcorrect
    have hclosed := hcorrect.closed _ (List.mem_singleton.mpr rfl) ⟨1, 0x0200, 0⟩ (by decide)
    revert hclosed
    decide
  · intro hcorrect
    have hhal := hcorrect.hal
    contradiction

end Camellia.Fingerprint

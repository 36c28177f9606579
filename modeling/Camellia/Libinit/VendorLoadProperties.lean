import Camellia.Libinit.Variant

/-!
# Loading the vendor properties

`vendor_load_properties` selects among the variants of this device and then sets the
Dalvik heap by the size of the memory.  The pairs of boot values that the variants name
differ, so the order of the table does not matter; and what is loaded does not change
what a second call loads, although a variant with NFC overwrites the SKU that selected it.
-/

namespace Camellia.Libinit

open KeyedStore

/-! ## The Dalvik heap -/

structure DalvikHeapInfo where
  heapstartsize : String
  heapgrowthlimit : String
  heapsize : String
  heapminfree : String
  heapmaxfree : String
  heaptargetutilization : String

def heapstartsizeProp : String := "dalvik.vm.heapstartsize"
def heapgrowthlimitProp : String := "dalvik.vm.heapgrowthlimit"
def heapsizeProp : String := "dalvik.vm.heapsize"
def heapminfreeProp : String := "dalvik.vm.heapminfree"
def heapmaxfreeProp : String := "dalvik.vm.heapmaxfree"
def heaptargetutilizationProp : String := "dalvik.vm.heaptargetutilization"
def avoidGfxAccelProp : String := "ro.config.avoid_gfx_accel"

def gb (b : ℕ) : ℕ := b * 1024 * 1024 * 1024

def dalvikHeapInfo8192 : DalvikHeapInfo where
  heapstartsize := "24m"
  heapgrowthlimit := "256m"
  heapsize := "512m"
  heapminfree := "8m"
  heapmaxfree := "48m"
  heaptargetutilization := "0.4"

def dalvikHeapInfo6144 : DalvikHeapInfo where
  heapstartsize := "16m"
  heapgrowthlimit := "256m"
  heapsize := "512m"
  heapminfree := "8m"
  heapmaxfree := "32m"
  heaptargetutilization := "0.5"

def dalvikHeapInfo4096 : DalvikHeapInfo where
  heapstartsize := "8m"
  heapgrowthlimit := "256m"
  heapsize := "512m"
  heapminfree := "8m"
  heapmaxfree := "16m"
  heaptargetutilization := "0.6"

def dalvikHeapInfo (totalram : ℕ) : DalvikHeapInfo :=
  if totalram > gb 7 then dalvikHeapInfo8192
  else if totalram > gb 5 then dalvikHeapInfo6144
  else dalvikHeapInfo4096

def setDalvikHeap (totalram : ℕ) (store : PropertyStore) : PropertyStore :=
  let dhi := dalvikHeapInfo totalram
  let store :=
    if totalram < gb 5 then propertyOverride store avoidGfxAccelProp "true" true else store
  let store := propertyOverride store heapstartsizeProp dhi.heapstartsize true
  let store := propertyOverride store heapgrowthlimitProp dhi.heapgrowthlimit true
  let store := propertyOverride store heapsizeProp dhi.heapsize true
  let store := propertyOverride store heaptargetutilizationProp dhi.heaptargetutilization true
  let store := propertyOverride store heapminfreeProp dhi.heapminfree true
  propertyOverride store heapmaxfreeProp dhi.heapmaxfree true

/-! ## The variants of the device -/

def camelliainInfo : VariantInfo where
  hwcValue := "camelliain"
  skuValue := "camellia"
  brand := "Redmi"
  device := "camellia"
  model := "Redmi Note 10T 5G"
  buildFingerprint :=
    "Redmi/camellia_in/camelliain:12/SP1A.210812.016/V14.0.6.0.TKSMIXM:user/release-keys"
  nfc := false

def camelliacnInfo : VariantInfo where
  hwcValue := "camelliacn"
  skuValue := "camelliar"
  brand := "Redmi"
  device := "camellia"
  model := "Redmi Note 11SE"
  buildFingerprint :=
    "Redmi/camellia/camellia:12/SP1A.210812.016/V14.0.6.0.TKSMIXM:user/release-keys"
  nfc := false

def camelliaInfo : VariantInfo where
  hwcValue := "camelliacn"
  skuValue := "camellia"
  brand := "Redmi"
  device := "camellia"
  model := "Redmi Note 10 5G"
  buildFingerprint :=
    "Redmi/camellia/camellia:12/SP1A.210812.016/V14.0.6.0.TKSMIXM:user/release-keys"
  nfc := false

def camelliaglInfo : VariantInfo where
  hwcValue := "camelliagl"
  skuValue := "camellian"
  brand := "Redmi"
  device := "camellian"
  model := "Redmi Note 10 5G"
  buildFingerprint :=
    "Redmi/camellian_global/camellian:12/SP1A.210812.016/V14.0.6.0.TKSMIXM:user/release-keys"
  nfc := true

def camellianpInfo : VariantInfo where
  hwcValue := "camelliagl"
  skuValue := "camellianp"
  brand := "POCO"
  device := "camellian"
  model := "POCO M3 Pro 5G"
  buildFingerprint :=
    "POCO/camellian_p_global/camellian:12/SP1A.210812.016/V14.0.6.0.TKSMIXM:user/release-keys"
  nfc := true

def variants : List VariantInfo :=
  [camelliainInfo, camelliacnInfo, camelliaInfo, camelliaglInfo, camellianpInfo]

def vendorLoadProperties (totalram : ℕ) (store : PropertyStore) : Option PropertyStore := do
  let store ← searchVariant variants store
  return setDalvikHeap totalram store

/-! ## The writes of the heap -/

/-- The values of the heap, without the property that only a small memory sets. -/
def heapValues (totalram : ℕ) : List (String × String) :=
  let dhi := dalvikHeapInfo totalram
  [(heapstartsizeProp, dhi.heapstartsize), (heapgrowthlimitProp, dhi.heapgrowthlimit),
    (heapsizeProp, dhi.heapsize), (heaptargetutilizationProp, dhi.heaptargetutilization),
    (heapminfreeProp, dhi.heapminfree), (heapmaxfreeProp, dhi.heapmaxfree)]

def heapProps (totalram : ℕ) : List (String × String) :=
  (if totalram < gb 5 then [(avoidGfxAccelProp, "true")] else []) ++ heapValues totalram

def heapKeys : List String :=
  [avoidGfxAccelProp, heapstartsizeProp, heapgrowthlimitProp, heapsizeProp,
    heaptargetutilizationProp, heapminfreeProp, heapmaxfreeProp]

theorem setDalvikHeap_eq (totalram : ℕ) (store : PropertyStore) :
    setDalvikHeap totalram store = writeAll store (heapProps totalram) := by
  unfold setDalvikHeap heapProps
  simp only [propertyOverride_add, writeAll_append]
  split <;> rfl

theorem heapProps_keys_subset (totalram : ℕ) :
    (heapProps totalram).map Prod.fst ⊆ heapKeys := by
  unfold heapProps
  split
  · exact List.Subset.refl _
  · exact List.subset_cons_self _ _

theorem heapProps_nodup (totalram : ℕ) : ((heapProps totalram).map Prod.fst).Nodup := by
  have hall : heapKeys.Nodup := by decide
  unfold heapProps
  split
  · exact hall
  · exact hall.tail

theorem setDalvikHeap_of_notMem (totalram : ℕ) (store : PropertyStore) {key : String}
    (hkey : key ∉ heapKeys) : setDalvikHeap totalram store key = store key := by
  rw [setDalvikHeap_eq]
  apply writeAll_of_notMem
  intro hmem
  exact hkey (heapProps_keys_subset totalram hmem)

theorem setDalvikHeap_of_mem (totalram : ℕ) (store : PropertyStore) {entry : String × String}
    (hentry : entry ∈ heapProps totalram) :
    setDalvikHeap totalram store entry.1 = some entry.2 := by
  rw [setDalvikHeap_eq]
  exact writeAll_of_mem store (heapProps_nodup totalram) hentry

theorem setDalvikHeap_avoidGfxAccel (totalram : ℕ) (store : PropertyStore) :
    setDalvikHeap totalram store avoidGfxAccelProp =
      if totalram < gb 5 then some "true" else store avoidGfxAccelProp := by
  by_cases hsmall : totalram < gb 5
  · rw [if_pos hsmall]
    have hentry : (avoidGfxAccelProp, "true") ∈ heapProps totalram := by
      simp [heapProps, hsmall]
    exact setDalvikHeap_of_mem totalram store hentry
  · rw [if_neg hsmall, setDalvikHeap_eq]
    apply writeAll_of_notMem
    rw [heapProps, if_neg hsmall]
    have hnot : avoidGfxAccelProp ∉ heapKeys.tail := by decide
    exact hnot

/-- No property of a variant is one of the heap. -/
theorem heapKeys_disjoint (nfc : Bool) : ∀ key ∈ variantKeys nfc, key ∉ heapKeys := by
  cases nfc <;> decide

theorem setDalvikHeap_eq_self {totalram : ℕ} {store : PropertyStore}
    (hthere : ∀ entry ∈ heapProps totalram, store entry.1 = some entry.2) :
    setDalvikHeap totalram store = store := by
  rw [setDalvikHeap_eq]
  exact writeAll_eq_self hthere

/-! ## Which variant is selected -/

/-- What the boot loader says about the hardware. -/
def bootValues (store : PropertyStore) : String × String :=
  (getProperty store hwcProp "", getProperty store skuProp "")

def VariantInfo.bootValues (variant : VariantInfo) : String × String :=
  (variant.hwcValue, variant.skuValue)

theorem fits_iff {variant : VariantInfo} (hhwc : variant.hwcValue ≠ "")
    (hsku : variant.skuValue ≠ "") (hwcValue skuValue : String) :
    variant.fits hwcValue skuValue = true ↔ variant.bootValues = (hwcValue, skuValue) := by
  simp [VariantInfo.fits, VariantInfo.bootValues, hhwc, hsku]

/-- Where the pairs of a table differ, each entry is found wherever it stands. -/
theorem find?_fits_eq {table : List VariantInfo}
    (hnonempty : ∀ variant ∈ table, variant.hwcValue ≠ "" ∧ variant.skuValue ≠ "")
    (hpairs : (table.map VariantInfo.bootValues).Nodup) (hwcValue skuValue : String)
    (variant : VariantInfo) :
    table.find? (fun other => other.fits hwcValue skuValue) = some variant ↔
      variant ∈ table ∧ variant.bootValues = (hwcValue, skuValue) := by
  constructor
  · intro hfind
    have hmem := List.mem_of_find?_eq_some hfind
    have hfits : variant.fits hwcValue skuValue = true := by
      simpa using List.find?_some hfind
    obtain ⟨hhwc, hsku⟩ := hnonempty variant hmem
    exact ⟨hmem, (fits_iff hhwc hsku hwcValue skuValue).mp hfits⟩
  · rintro ⟨hmem, hvalues⟩
    obtain ⟨hhwc, hsku⟩ := hnonempty variant hmem
    have hfits := (fits_iff hhwc hsku hwcValue skuValue).mpr hvalues
    cases hfind : table.find? (fun other => other.fits hwcValue skuValue) with
    | none =>
        rw [List.find?_eq_none] at hfind
        exact absurd hfits (hfind variant hmem)
    | some found =>
        have hfound := List.mem_of_find?_eq_some hfind
        have hfoundFits : found.fits hwcValue skuValue = true := by
          simpa using List.find?_some hfind
        obtain ⟨hfoundHwc, hfoundSku⟩ := hnonempty found hfound
        have hsame : found.bootValues = variant.bootValues :=
          ((fits_iff hfoundHwc hfoundSku hwcValue skuValue).mp hfoundFits).trans hvalues.symm
        rw [List.inj_on_of_nodup_map hpairs hfound hmem hsame]

theorem variants_nonempty :
    ∀ variant ∈ variants, variant.hwcValue ≠ "" ∧ variant.skuValue ≠ "" := by decide

theorem variants_pairs : (variants.map VariantInfo.bootValues).Nodup := by decide

theorem variants_not_nfc : ∀ variant ∈ variants, variant.skuValue ≠ "nfc" := by decide

theorem searchVariant_of_selected {variant : VariantInfo} (hvariant : variant ∈ variants)
    {store : PropertyStore} (hvalues : variant.bootValues = bootValues store)
    {description : String}
    (hdescription : fingerprintToDescription variant.buildFingerprint = some description) :
    searchVariant variants store =
      some (writeAll store (variantProps variant description)) := by
  have hfind := (find?_fits_eq variants_nonempty variants_pairs _ _ variant).mpr
    ⟨hvariant, hvalues⟩
  rw [searchVariant, searchFrom_eq, hfind]
  simp only [setVariantProps_eq, hdescription, Option.map_some]

theorem searchVariant_of_not_selected {store : PropertyStore}
    (hnone : ∀ variant ∈ variants, variant.bootValues ≠ bootValues store) :
    searchVariant variants store = some store := by
  have hfind : variants.find? (fun variant =>
      variant.fits (getProperty store hwcProp "") (getProperty store skuProp "")) = none := by
    rw [Option.eq_none_iff_forall_not_mem]
    intro variant hmem
    have hfound := (find?_fits_eq variants_nonempty variants_pairs _ _ variant).mp hmem
    exact hnone variant hfound.1 hfound.2
  rw [searchVariant, searchFrom_eq, hfind]

/-! ## Loading twice -/

/-- All that `vendor_load_properties` does to the properties. -/
structure LoadsVendorProperties (totalram : ℕ) (before after : PropertyStore) : Prop where
  heap : ∀ entry ∈ heapValues totalram, after entry.1 = some entry.2
  avoidGfxAccel : after avoidGfxAccelProp =
    if totalram < gb 5 then some "true" else before avoidGfxAccelProp
  selected : ∀ variant ∈ variants, variant.bootValues = bootValues before →
    ∃ middle, SetsVariant before middle variant ∧ ∀ key ∉ heapKeys, after key = middle key
  notSelected : (∀ variant ∈ variants, variant.bootValues ≠ bootValues before) →
    ∀ key ∉ heapKeys, after key = before key

theorem bootValues_congr {before after : PropertyStore} (hhwc : after hwcProp = before hwcProp)
    (hsku : after skuProp = before skuProp) : bootValues after = bootValues before := by
  simp only [bootValues, getProperty, hhwc, hsku]

theorem hwcProp_notMem : hwcProp ∉ heapKeys ∧ ∀ nfc, hwcProp ∉ variantKeys nfc := by
  constructor
  · decide
  · intro nfc
    cases nfc <;> decide

theorem skuProp_notMem_heapKeys : skuProp ∉ heapKeys := by decide

theorem heapValues_subset (totalram : ℕ) : heapValues totalram ⊆ heapProps totalram :=
  List.subset_append_right _ _

section Selected

variable {variant : VariantInfo} {store : PropertyStore} {description : String}
  (totalram : ℕ)

/-- The properties after a variant and the heap have been set. -/
def loaded (totalram : ℕ) (store : PropertyStore) (variant : VariantInfo)
    (description : String) : PropertyStore :=
  setDalvikHeap totalram (writeAll store (variantProps variant description))

theorem loaded_variant {entry : String × String}
    (hentry : entry ∈ variantProps variant description) :
    loaded totalram store variant description entry.1 = some entry.2 := by
  have hkey : entry.1 ∈ variantKeys variant.nfc := by
    rw [← variantProps_keys variant description]
    exact List.mem_map_of_mem hentry
  rw [loaded, setDalvikHeap_of_notMem _ _ (heapKeys_disjoint _ _ hkey)]
  exact writeAll_variantProps store hentry

theorem loaded_hwc : loaded totalram store variant description hwcProp = store hwcProp := by
  rw [loaded, setDalvikHeap_of_notMem _ _ hwcProp_notMem.1]
  apply writeAll_of_notMem
  rw [variantProps_keys]
  exact hwcProp_notMem.2 variant.nfc

theorem loaded_sku (hnfc : variant.nfc = false) :
    loaded totalram store variant description skuProp = store skuProp := by
  rw [loaded, setDalvikHeap_of_notMem _ _ skuProp_notMem_heapKeys]
  apply writeAll_of_notMem
  rw [variantProps_keys, hnfc]
  exact skuProp_notMem

theorem loaded_sku_nfc (hnfc : variant.nfc = true) :
    loaded totalram store variant description skuProp = some "nfc" := by
  have hentry : (skuProp, "nfc") ∈ variantProps variant description := by
    simp [variantProps, hnfc]
  exact loaded_variant totalram hentry

/-- The second search writes the same again, or finds nothing since the SKU is `nfc`. -/
theorem searchVariant_loaded (hvariant : variant ∈ variants)
    (hvalues : variant.bootValues = bootValues store)
    (hdescription : fingerprintToDescription variant.buildFingerprint = some description) :
    searchVariant variants (loaded totalram store variant description) =
      some (loaded totalram store variant description) := by
  cases hnfc : variant.nfc with
  | false =>
      have hsame : bootValues (loaded totalram store variant description) =
          bootValues store :=
        bootValues_congr (loaded_hwc totalram) (loaded_sku totalram hnfc)
      rw [searchVariant_of_selected hvariant (hvalues.trans hsame.symm) hdescription,
        writeAll_eq_self fun entry hentry => loaded_variant totalram hentry]
  | true =>
      apply searchVariant_of_not_selected
      intro other hother heq
      apply variants_not_nfc other hother
      have hsku : getProperty (loaded totalram store variant description) skuProp "" =
          "nfc" := by
        rw [getProperty, loaded_sku_nfc totalram hnfc]
        rfl
      exact (congrArg Prod.snd heq).trans hsku

theorem setDalvikHeap_loaded :
    setDalvikHeap totalram (loaded totalram store variant description) =
      loaded totalram store variant description :=
  setDalvikHeap_eq_self fun _ hentry => setDalvikHeap_of_mem totalram _ hentry

theorem loaded_loads (hvalues : variant.bootValues = bootValues store)
    (hvariant : variant ∈ variants)
    (hdescription : fingerprintToDescription variant.buildFingerprint = some description) :
    LoadsVendorProperties totalram store (loaded totalram store variant description) where
  heap entry hentry := setDalvikHeap_of_mem totalram _ (heapValues_subset totalram hentry)
  avoidGfxAccel := by
    rw [loaded, setDalvikHeap_avoidGfxAccel]
    have hkept : writeAll store (variantProps variant description) avoidGfxAccelProp =
        store avoidGfxAccelProp := by
      apply writeAll_of_notMem
      rw [variantProps_keys]
      intro hmem
      exact heapKeys_disjoint _ _ hmem List.mem_cons_self
    rw [hkept]
  selected other hother hotherValues := by
    have hsame : other = variant :=
      List.inj_on_of_nodup_map variants_pairs hother hvariant (hotherValues.trans hvalues.symm)
    subst hsame
    refine ⟨_, setsVariant_writeAll store other hdescription, ?_⟩
    intro key hkey
    exact setDalvikHeap_of_notMem totalram _ hkey
  notSelected hnone := absurd hvalues (hnone variant hvariant)

end Selected

/-- The variant whose pair of boot values is found is set, whatever its place in the table,
then the heap of the memory's size; everything else stays.  Loading again changes nothing. -/
theorem vendor_load_properties_stable (totalram : ℕ) (before : PropertyStore) :
    ∃ after, vendorLoadProperties totalram before = some after ∧
      LoadsVendorProperties totalram before after ∧
      vendorLoadProperties totalram after = some after := by
  by_cases hselected : ∃ variant ∈ variants, variant.bootValues = bootValues before
  · obtain ⟨variant, hvariant, hvalues⟩ := hselected
    obtain ⟨description, hdescription⟩ :=
      Option.isSome_iff_exists.mp (fingerprintToDescription_isSome variant.buildFingerprint)
    refine ⟨loaded totalram before variant description, ?_,
      loaded_loads totalram hvalues hvariant hdescription, ?_⟩
    · rw [vendorLoadProperties, searchVariant_of_selected hvariant hvalues hdescription]
      rfl
    · rw [vendorLoadProperties, searchVariant_loaded totalram hvariant hvalues hdescription]
      exact congrArg some (setDalvikHeap_loaded totalram)
  · have hnone : ∀ variant ∈ variants, variant.bootValues ≠ bootValues before :=
      fun variant hvariant hvalues => hselected ⟨variant, hvariant, hvalues⟩
    have hsame : bootValues (setDalvikHeap totalram before) = bootValues before :=
      bootValues_congr (setDalvikHeap_of_notMem totalram before hwcProp_notMem.1)
        (setDalvikHeap_of_notMem totalram before skuProp_notMem_heapKeys)
    refine ⟨setDalvikHeap totalram before, ?_, ?_, ?_⟩
    · rw [vendorLoadProperties, searchVariant_of_not_selected hnone]
      rfl
    · constructor
      · intro entry hentry
        exact setDalvikHeap_of_mem totalram _ (heapValues_subset totalram hentry)
      · exact setDalvikHeap_avoidGfxAccel totalram before
      · intro variant hvariant hvalues
        exact absurd hvalues (hnone variant hvariant)
      · intro _ key hkey
        exact setDalvikHeap_of_notMem totalram before hkey
    · rw [vendorLoadProperties, searchVariant_of_not_selected (hsame ▸ hnone)]
      exact congrArg some
        (setDalvikHeap_eq_self fun _ hentry => setDalvikHeap_of_mem totalram _ hentry)

end Camellia.Libinit

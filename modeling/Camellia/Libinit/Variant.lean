import Camellia.KeyedStore
import Camellia.Libinit.FingerprintDescription

/-!
# Selecting a variant

`search_variant` compares what the boot loader says about the hardware with a list of
variants and lets the first that fits set its properties: the identity of the product
for each partition, the fingerprints, the description, and the SKU of a variant with
NFC.  A property that exists is updated, and added otherwise.
-/

namespace Camellia.Libinit

open KeyedStore

structure VariantInfo where
  hwcValue : String
  skuValue : String
  brand : String
  device : String
  model : String
  buildFingerprint : String
  nfc : Bool
deriving DecidableEq

/-- The value of each property that exists. -/
abbrev PropertyStore := String → Option String

/-- A property that is empty counts as missing. -/
def getProperty (store : PropertyStore) (key defaultValue : String) : String :=
  match store key with
  | some value => if value = "" then defaultValue else value
  | none => defaultValue

def propertyOverride (store : PropertyStore) (prop value : String) (add : Bool) :
    PropertyStore :=
  if (store prop).isSome then write store (prop, value)
  else if add then write store (prop, value)
  else store

def roPropsDefaultSourceOrder : List String :=
  ["odm.", "odm_dlkm.", "product.", "system.", "system_ext.", "vendor.", "vendor_dlkm.", ""]

def roBuildPropName (source prop : String) (product : Bool) : String :=
  if product then "ro.product." ++ source ++ prop else "ro." ++ source ++ "build." ++ prop

def setRoBuildProp (store : PropertyStore) (prop value : String) (product : Bool) :
    PropertyStore :=
  roPropsDefaultSourceOrder.foldl
    (fun store source => propertyOverride store (roBuildPropName source prop product) value true)
    store

def hwcProp : String := "ro.boot.rsc"
def skuProp : String := "ro.boot.product.hardware.sku"

def setVariantProps (store : PropertyStore) (variant : VariantInfo) :
    Option PropertyStore := do
  let store := setRoBuildProp store "brand" variant.brand true
  let store := setRoBuildProp store "device" variant.device true
  let store := setRoBuildProp store "model" variant.model true
  let store := setRoBuildProp store "fingerprint" variant.buildFingerprint false
  let store :=
    propertyOverride store "ro.bootimage.build.fingerprint" variant.buildFingerprint true
  let description ← fingerprintToDescription variant.buildFingerprint
  let store := propertyOverride store "ro.build.description" description true
  return if variant.nfc then propertyOverride store skuProp "nfc" true else store

def VariantInfo.fits (hwcValue skuValue : String) (variant : VariantInfo) : Bool :=
  (variant.hwcValue = "" || variant.hwcValue = hwcValue) &&
    (variant.skuValue = "" || variant.skuValue = skuValue)

/-- The loop of `search_variant`. -/
def searchFrom (hwcValue skuValue : String) (store : PropertyStore) :
    List VariantInfo → Option PropertyStore
  | [] => some store
  | variant :: rest =>
      if variant.fits hwcValue skuValue then setVariantProps store variant
      else searchFrom hwcValue skuValue store rest

def searchVariant (variants : List VariantInfo) (store : PropertyStore) :
    Option PropertyStore :=
  searchFrom (getProperty store hwcProp "") (getProperty store skuProp "") store variants

/-! ## The writes of a variant -/

theorem propertyOverride_add (store : PropertyStore) (prop value : String) :
    propertyOverride store prop value true = write store (prop, value) := by
  rw [propertyOverride, if_pos rfl, ite_self]

def roBuildProps (prop value : String) (product : Bool) : List (String × String) :=
  roPropsDefaultSourceOrder.map fun source => (roBuildPropName source prop product, value)

theorem setRoBuildProp_eq (store : PropertyStore) (prop value : String) (product : Bool) :
    setRoBuildProp store prop value product =
      writeAll store (roBuildProps prop value product) := by
  rw [setRoBuildProp, writeAll, roBuildProps, List.foldl_map]
  simp only [propertyOverride_add]

def variantProps (variant : VariantInfo) (description : String) : List (String × String) :=
  roBuildProps "brand" variant.brand true ++ roBuildProps "device" variant.device true ++
    roBuildProps "model" variant.model true ++
    roBuildProps "fingerprint" variant.buildFingerprint false ++
    [("ro.bootimage.build.fingerprint", variant.buildFingerprint),
      ("ro.build.description", description)] ++
    if variant.nfc then [(skuProp, "nfc")] else []

theorem setVariantProps_eq (store : PropertyStore) (variant : VariantInfo) :
    setVariantProps store variant =
      (fingerprintToDescription variant.buildFingerprint).map fun description =>
        writeAll store (variantProps variant description) := by
  unfold setVariantProps
  cases fingerprintToDescription variant.buildFingerprint with
  | none => rfl
  | some description =>
      simp only [Option.bind_eq_bind, Option.bind_some, Option.pure_def, Option.map_some,
        setRoBuildProp_eq, propertyOverride_add, variantProps, writeAll_append]
      cases variant.nfc <;> rfl

/-- The names of the properties that a variant sets. -/
def variantKeys (nfc : Bool) : List String :=
  (["brand", "device", "model"].flatMap fun prop =>
      roPropsDefaultSourceOrder.map fun source => roBuildPropName source prop true) ++
    (roPropsDefaultSourceOrder.map fun source => roBuildPropName source "fingerprint" false) ++
    ["ro.bootimage.build.fingerprint", "ro.build.description"] ++
    if nfc then [skuProp] else []

theorem variantKeys_nodup (nfc : Bool) : (variantKeys nfc).Nodup := by
  cases nfc <;> decide

theorem variantProps_keys (variant : VariantInfo) (description : String) :
    (variantProps variant description).map Prod.fst = variantKeys variant.nfc := by
  unfold variantProps variantKeys
  cases variant.nfc <;> rfl

theorem writeAll_variantProps (store : PropertyStore) {variant : VariantInfo}
    {description : String} {entry : String × String}
    (hmem : entry ∈ variantProps variant description) :
    writeAll store (variantProps variant description) entry.1 = some entry.2 :=
  writeAll_of_mem store (variantProps_keys variant description ▸ variantKeys_nodup variant.nfc)
    hmem

theorem mem_roBuildProps {source : String} (hsource : source ∈ roPropsDefaultSourceOrder)
    (prop value : String) (product : Bool) :
    (roBuildPropName source prop product, value) ∈ roBuildProps prop value product :=
  List.mem_map_of_mem hsource

/-- The value that a variant gives to a property of the product. -/
def productValues (variant : VariantInfo) : List (String × String) :=
  [("brand", variant.brand), ("device", variant.device), ("model", variant.model)]

theorem writeAll_product (store : PropertyStore) {variant : VariantInfo}
    (description : String) {prop value : String}
    (hvalue : (prop, value) ∈ productValues variant)
    {source : String} (hsource : source ∈ roPropsDefaultSourceOrder) :
    writeAll store (variantProps variant description) ("ro.product." ++ source ++ prop) =
      some value := by
  have hmem := mem_roBuildProps hsource prop value true
  have hentry : (roBuildPropName source prop true, value) ∈
      variantProps variant description := by
    simp only [productValues, List.mem_cons, Prod.mk.injEq, List.not_mem_nil, or_false] at hvalue
    rcases hvalue with ⟨rfl, rfl⟩ | ⟨rfl, rfl⟩ | ⟨rfl, rfl⟩
    all_goals simp [variantProps, hmem]
  exact writeAll_variantProps store hentry

theorem roBuildPropName_fingerprint (source : String) :
    roBuildPropName source "fingerprint" false = "ro." ++ source ++ "build.fingerprint" := by
  have hname : "build." ++ "fingerprint" = "build.fingerprint" := by decide
  rw [← hname, ← String.append_assoc]
  rfl

/-! ## What selecting a variant does -/

/-- The properties of the variant are set, and no others have changed. -/
structure SetsVariant (before after : PropertyStore) (variant : VariantInfo) : Prop where
  brand : ∀ source ∈ roPropsDefaultSourceOrder,
    after ("ro.product." ++ source ++ "brand") = some variant.brand
  device : ∀ source ∈ roPropsDefaultSourceOrder,
    after ("ro.product." ++ source ++ "device") = some variant.device
  model : ∀ source ∈ roPropsDefaultSourceOrder,
    after ("ro.product." ++ source ++ "model") = some variant.model
  fingerprint : ∀ source ∈ roPropsDefaultSourceOrder,
    after ("ro." ++ source ++ "build.fingerprint") = some variant.buildFingerprint
  bootimage : after "ro.bootimage.build.fingerprint" = some variant.buildFingerprint
  description : after "ro.build.description" =
    fingerprintToDescription variant.buildFingerprint
  sku : after skuProp = if variant.nfc then some "nfc" else before skuProp
  others : ∀ key,
    (∀ source ∈ roPropsDefaultSourceOrder, key ≠ "ro.product." ++ source ++ "brand" ∧
      key ≠ "ro.product." ++ source ++ "device" ∧ key ≠ "ro.product." ++ source ++ "model" ∧
      key ≠ "ro." ++ source ++ "build.fingerprint") →
    key ≠ "ro.bootimage.build.fingerprint" → key ≠ "ro.build.description" →
    key ≠ skuProp → after key = before key

theorem notMem_variantKeys {key : String} {nfc : Bool}
    (hsources : ∀ source ∈ roPropsDefaultSourceOrder,
      key ≠ "ro.product." ++ source ++ "brand" ∧ key ≠ "ro.product." ++ source ++ "device" ∧
      key ≠ "ro.product." ++ source ++ "model" ∧ key ≠ "ro." ++ source ++ "build.fingerprint")
    (hbootimage : key ≠ "ro.bootimage.build.fingerprint")
    (hdescription : key ≠ "ro.build.description") (hsku : nfc = true → key ≠ skuProp) :
    key ∉ variantKeys nfc := by
  intro hmem
  simp only [variantKeys, List.mem_append, List.mem_flatMap, List.mem_map, List.mem_cons,
    List.not_mem_nil, or_false] at hmem
  rcases hmem with ((⟨prop, hprop, source, hsource, rfl⟩ | ⟨source, hsource, rfl⟩) | hfixed) | hnfc
  · obtain ⟨hbrand, hdevice, hmodel, _⟩ := hsources source hsource
    rcases hprop with rfl | rfl | rfl
    · exact hbrand rfl
    · exact hdevice rfl
    · exact hmodel rfl
  · exact (hsources source hsource).2.2.2 (roBuildPropName_fingerprint source)
  · rcases hfixed with rfl | rfl
    · exact hbootimage rfl
    · exact hdescription rfl
  · cases nfc with
    | true => exact hsku rfl (List.mem_singleton.mp hnfc)
    | false => contradiction

theorem skuProp_notMem : skuProp ∉ variantKeys false := by decide

theorem setsVariant_writeAll (store : PropertyStore) (variant : VariantInfo)
    {description : String}
    (hdescription : fingerprintToDescription variant.buildFingerprint = some description) :
    SetsVariant store (writeAll store (variantProps variant description)) variant where
  brand := fun _ hsource => writeAll_product store description (by simp [productValues]) hsource
  device := fun _ hsource => writeAll_product store description (by simp [productValues]) hsource
  model := fun _ hsource => writeAll_product store description (by simp [productValues]) hsource
  fingerprint := by
    intro source hsource
    have hmem := mem_roBuildProps hsource "fingerprint" variant.buildFingerprint false
    have hentry : (roBuildPropName source "fingerprint" false, variant.buildFingerprint) ∈
        variantProps variant description := by simp [variantProps, hmem]
    rw [← roBuildPropName_fingerprint]
    exact writeAll_variantProps store hentry
  bootimage := by
    have hentry : ("ro.bootimage.build.fingerprint", variant.buildFingerprint) ∈
        variantProps variant description := by simp [variantProps]
    exact writeAll_variantProps store hentry
  description := by
    have hentry : ("ro.build.description", description) ∈
        variantProps variant description := by simp [variantProps]
    rw [hdescription]
    exact writeAll_variantProps store hentry
  sku := by
    cases hnfc : variant.nfc with
    | true =>
        have hentry : (skuProp, "nfc") ∈ variantProps variant description := by
          simp [variantProps, hnfc]
        exact writeAll_variantProps store hentry
    | false =>
        apply writeAll_of_notMem
        rw [variantProps_keys, hnfc]
        exact skuProp_notMem
  others := by
    intro key hsources hbootimage hdescription hsku
    apply writeAll_of_notMem
    rw [variantProps_keys]
    exact notMem_variantKeys hsources hbootimage hdescription fun _ => hsku

theorem searchFrom_eq (hwcValue skuValue : String) (store : PropertyStore)
    (variants : List VariantInfo) :
    searchFrom hwcValue skuValue store variants =
      match variants.find? fun variant => variant.fits hwcValue skuValue with
      | none => some store
      | some variant => setVariantProps store variant := by
  induction variants with
  | nil => rfl
  | cons variant rest ih =>
      rw [searchFrom, List.find?_cons]
      cases variant.fits hwcValue skuValue with
      | true => rfl
      | false => exact ih

/-- The first variant that fits what is read at the start is the one that is set, and
without one the properties stay as they are. -/
theorem search_variant_exact (variants : List VariantInfo) (store : PropertyStore) :
    ∃ after, searchVariant variants store = some after ∧
      match variants.find? fun variant =>
        variant.fits (getProperty store hwcProp "") (getProperty store skuProp "") with
      | none => after = store
      | some variant => SetsVariant store after variant := by
  rw [searchVariant, searchFrom_eq]
  cases variants.find? fun variant =>
      variant.fits (getProperty store hwcProp "") (getProperty store skuProp "") with
  | none => exact ⟨store, rfl, rfl⟩
  | some variant =>
      obtain ⟨description, hdescription⟩ :=
        Option.isSome_iff_exists.mp (fingerprintToDescription_isSome variant.buildFingerprint)
      refine ⟨writeAll store (variantProps variant description), ?_,
        setsVariant_writeAll store variant hdescription⟩
      change setVariantProps store variant = _
      rw [setVariantProps_eq, hdescription]
      rfl

end Camellia.Libinit

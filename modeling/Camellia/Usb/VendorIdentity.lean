import Camellia.Usb.Gadget

/-!
# The identity and the vendor functions

`validateAndSetVidPid` chooses the identity by the mask and the whole vendor string, and
`setupFunctions` links what the tokens of that string name.  The two agree for every
mask whose branch rejects a string that it does not know; the branches of the accessory
and of the audio source only log it.
-/

namespace Camellia.Usb

open GadgetFunction

def vendorVid : String := "0x05C6"

def vendorFunctionNames : List String := ["diag.diag", "cser.dun.0", "gsi.rmnet"]

/-- Operations are performed one after another and the first failure ends them; `outcome`
tells which of them succeed. -/
def runSetup (outcome : ℕ → Bool) : ℕ → List SetupOp → Status × List String
  | _, [] => (.success, [])
  | index, op :: rest =>
      if outcome index || !op.fallible then
        let (status, linked) := runSetup outcome (index + 1) rest
        (status, op.linked.toList ++ linked)
      else (.error, [])

theorem linkedFunctions_cons (op : SetupOp) (rest : List SetupOp) :
    linkedFunctions (op :: rest) = op.linked.toList ++ linkedFunctions rest := by
  unfold linkedFunctions
  cases hlinked : op.linked with
  | none => rw [List.filterMap_cons_none hlinked]; rfl
  | some function => rw [List.filterMap_cons_some hlinked]; rfl

theorem runSetup_success {outcome : ℕ → Bool} {index : ℕ} {ops : List SetupOp}
    {linked : List String} (hsuccess : runSetup outcome index ops = (.success, linked)) :
    linked = linkedFunctions ops := by
  induction ops generalizing index linked with
  | nil =>
      cases hsuccess
      rfl
  | cons op rest ih =>
      rw [runSetup] at hsuccess
      split at hsuccess
      next =>
        obtain ⟨hstatus, rfl⟩ := Prod.mk.inj hsuccess
        rw [linkedFunctions_cons, ← ih (Prod.ext hstatus rfl)]
      next => cases hsuccess

theorem runSetup_all (index : ℕ) (ops : List SetupOp) :
    runSetup (fun _ => true) index ops = (.success, linkedFunctions ops) := by
  induction ops generalizing index with
  | nil => rfl
  | cons op rest ih =>
      rw [runSetup, ih, linkedFunctions_cons]
      rfl

/-- A vendor function is linked exactly under the vendor's identity, and every token of a
vendor configuration is linked. -/
def IdentityMatches (functions : Functions) (vendorFunctions : String) : Prop :=
  ∀ ids outcome linked,
    validateAndSetVidPid functions vendorFunctions = some ids →
    runSetup outcome 0 (setupFunctions functions vendorFunctions) = (.success, linked) →
    ((∃ function ∈ linked, function ∈ vendorFunctionNames) ↔ ids.vid = vendorVid) ∧
      (vendorFunctions ≠ "" → vendorFunctions ≠ "user" →
        ∀ token ∈ tokens vendorFunctions, ∃ function ∈ linked,
          vendorFunction token = some function)

/-! ## From the linked functions to the tokens -/

theorem vendorFunction_mem {token function : String}
    (hfunction : vendorFunction token = some function) : function ∈ vendorFunctionNames := by
  unfold vendorFunction at hfunction
  split_ifs at hfunction <;> cases hfunction <;> decide

theorem selected_notMem {functions : Functions} {table : List (Functions × String)}
    (htable : ∀ entry ∈ table, entry.2 ∉ vendorFunctionNames) {function : String}
    (hmem : function ∈ (selected functions table).map Prod.snd) :
    function ∉ vendorFunctionNames := by
  obtain ⟨entry, hentry, rfl⟩ := List.mem_map.mp hmem
  exact htable entry (List.mem_filter.mp hentry).1

theorem mem_configuredFunctions_of_token (functions : Functions) {vendorFunctions : String}
    {token function : String} (htoken : token ∈ tokens vendorFunctions)
    (hfunction : vendorFunction token = some function) :
    function ∈ configuredFunctions functions vendorFunctions := by
  rw [configuredFunctions, List.mem_append, List.mem_append]
  exact Or.inl (Or.inr (List.mem_filterMap.mpr ⟨token, htoken, hfunction⟩))

theorem exists_token_of_vendor {functions : Functions} {vendorFunctions function : String}
    (hmem : function ∈ configuredFunctions functions vendorFunctions)
    (hvendor : function ∈ vendorFunctionNames) :
    ∃ token ∈ tokens vendorFunctions, vendorFunction token = some function := by
  rw [configuredFunctions, List.mem_append, List.mem_append] at hmem
  rcases hmem with (hgadget | htoken) | hadb
  · exact absurd hvendor (selected_notMem (by decide) hgadget)
  · exact List.mem_filterMap.mp htoken
  · exact absurd hvendor (selected_notMem (by decide) hadb)

/-- An identity fits the tokens of a vendor string. -/
def VidPid.Fits (ids : VidPid) (vendorFunctions : String) : Prop :=
  ((∃ token ∈ tokens vendorFunctions, (vendorFunction token).isSome = true) ↔
      ids.vid = vendorVid) ∧
    (vendorFunctions ≠ "" → vendorFunctions ≠ "user" →
      ∀ token ∈ tokens vendorFunctions, (vendorFunction token).isSome = true)

/-- Every identity that a branch can write fits. -/
def FitsIn (vendorFunctions : String) (branch : Option VidPid) : Prop :=
  ∀ ids, branch = some ids → ids.Fits vendorFunctions

theorem exists_vendor_configured {functions : Functions} {vendorFunctions : String} :
    (∃ function ∈ configuredFunctions functions vendorFunctions,
        function ∈ vendorFunctionNames) ↔
      ∃ token ∈ tokens vendorFunctions, (vendorFunction token).isSome = true := by
  constructor
  · rintro ⟨function, hmem, hvendor⟩
    obtain ⟨token, htoken, hfunction⟩ := exists_token_of_vendor hmem hvendor
    exact ⟨token, htoken, Option.isSome_of_eq_some hfunction⟩
  · rintro ⟨token, htoken, hsome⟩
    obtain ⟨function, hfunction⟩ := Option.isSome_iff_exists.mp hsome
    exact ⟨function, mem_configuredFunctions_of_token functions htoken hfunction,
      vendorFunction_mem hfunction⟩

theorem exists_token_configured {functions : Functions} {vendorFunctions token : String}
    (htoken : token ∈ tokens vendorFunctions) :
    (∃ function ∈ configuredFunctions functions vendorFunctions,
        vendorFunction token = some function) ↔
      (vendorFunction token).isSome = true := by
  constructor
  · rintro ⟨function, _, hfunction⟩
    exact Option.isSome_of_eq_some hfunction
  · intro hsome
    obtain ⟨function, hfunction⟩ := Option.isSome_iff_exists.mp hsome
    exact ⟨function, mem_configuredFunctions_of_token functions htoken hfunction, hfunction⟩

theorem identityMatches_iff_fitsIn (functions : Functions) (vendorFunctions : String) :
    IdentityMatches functions vendorFunctions ↔
      FitsIn vendorFunctions (validateAndSetVidPid functions vendorFunctions) := by
  have hconfigured : ∀ ids, validateAndSetVidPid functions vendorFunctions = some ids →
      linkedFunctions (setupFunctions functions vendorFunctions) =
        configuredFunctions functions vendorFunctions :=
    fun ids hids => linkedFunctions_setupFunctions
      ⟨vendorFunctions, Option.isSome_of_eq_some hids⟩ vendorFunctions
  constructor
  · intro hmatches ids hids
    have hrun := runSetup_all 0 (setupFunctions functions vendorFunctions)
    rw [hconfigured ids hids] at hrun
    obtain ⟨hvendor, htokens⟩ := hmatches ids _ _ hids hrun
    refine ⟨exists_vendor_configured.symm.trans hvendor, ?_⟩
    intro hempty huser token htoken
    exact (exists_token_configured htoken).mp (htokens hempty huser token htoken)
  · intro hall ids outcome linked hids hrun
    obtain ⟨hvendor, htokens⟩ := hall ids hids
    rw [runSetup_success hrun, hconfigured ids hids]
    refine ⟨exists_vendor_configured.trans hvendor, ?_⟩
    intro hempty huser token htoken
    exact (exists_token_configured htoken).mpr (htokens hempty huser token htoken)

/-! ## The branches of `validateAndSetVidPid` -/

theorem FitsIn.ite {vendorFunctions : String} {condition : Prop} [Decidable condition]
    {taken other : Option VidPid} (htaken : condition → FitsIn vendorFunctions taken)
    (hother : ¬condition → FitsIn vendorFunctions other) :
    FitsIn vendorFunctions (if condition then taken else other) := by
  by_cases hcondition : condition
  · rw [if_pos hcondition]
    exact htaken hcondition
  · rw [if_neg hcondition]
    exact hother hcondition

/-- The vendor strings that some mask knows. -/
def vendorConfigurations : List String :=
  ["diag", "serial_cdev,diag", "diag,serial_cdev,rmnet_gsi", "diag,serial_cdev"]

theorem tokens_vendorConfigurations :
    ∀ vendorFunctions ∈ vendorConfigurations, tokens vendorFunctions ≠ [] ∧
      ∀ token ∈ tokens vendorFunctions, (vendorFunction token).isSome = true := by
  decide

theorem fitsIn_vendorVidPid {vendorFunctions : String}
    (hknown : vendorFunctions ∈ vendorConfigurations) (pid : String) :
    FitsIn vendorFunctions (vendorVidPid pid) := by
  rintro ids ⟨⟩
  obtain ⟨hne, hall⟩ := tokens_vendorConfigurations vendorFunctions hknown
  obtain ⟨token, hmem⟩ := List.exists_mem_of_ne_nil _ hne
  exact ⟨iff_of_true ⟨token, hmem, hall token hmem⟩ rfl, fun _ _ => hall⟩

theorem tokens_user : ∀ token ∈ tokens "user", ¬(vendorFunction token).isSome = true := by
  decide

theorem fits_public_iff {vendorFunctions : String} {ids : VidPid} (hvid : ids.vid ≠ vendorVid) :
    ids.Fits vendorFunctions ↔ vendorFunctions = "user" ∨ tokens vendorFunctions = [] := by
  constructor
  · rintro ⟨hvendor, hall⟩
    by_contra hother
    rw [not_or] at hother
    obtain ⟨token, hmem⟩ := List.exists_mem_of_ne_nil _ hother.2
    have hempty : vendorFunctions ≠ "" := by
      rintro rfl
      exact hother.2 rfl
    exact hvid (hvendor.mp ⟨token, hmem, hall hempty hother.1 token hmem⟩)
  · rintro (rfl | hnil)
    · refine ⟨iff_of_false ?_ hvid, fun _ huser => absurd rfl huser⟩
      rintro ⟨token, hmem, hsome⟩
      exact tokens_user token hmem hsome
    · rw [VidPid.Fits, hnil]
      exact ⟨iff_of_false (by simp) hvid, fun _ _ => by simp⟩

theorem fitsIn_anyVidPid_iff {vendorFunctions pid : String} :
    FitsIn vendorFunctions (anyVidPid pid) ↔
      vendorFunctions = "user" ∨ tokens vendorFunctions = [] := by
  have hvid : "0x18d1" ≠ vendorVid := by decide
  have hids : VidPid.Fits { vid := "0x18d1", pid := pid } vendorFunctions ↔ _ :=
    fits_public_iff hvid
  rw [← hids]
  constructor
  · intro hall
    exact hall _ rfl
  · rintro hfits ids ⟨⟩
    exact hfits

theorem fitsIn_none (vendorFunctions : String) : FitsIn vendorFunctions none := by
  rintro ids ⟨⟩

theorem fitsIn_plainVidPid (vendorFunctions pid : String) :
    FitsIn vendorFunctions (plainVidPid vendorFunctions pid) := by
  apply FitsIn.ite
  · intro hplain
    apply fitsIn_anyVidPid_iff.mpr
    apply hplain.imp_right
    rintro rfl
    rfl
  · intro _
    exact fitsIn_none vendorFunctions

/-- The masks whose branch accepts every vendor string. -/
def lenientFunctions : List Functions :=
  [accessory, adb ||| accessory, audioSource, adb ||| audioSource,
    accessory ||| audioSource, adb ||| accessory ||| audioSource]

theorem validateAndSetVidPid_lenient {functions : Functions}
    (hlenient : functions ∈ lenientFunctions) :
    ∃ pid, ∀ vendorFunctions,
      validateAndSetVidPid functions vendorFunctions = anyVidPid pid := by
  simp only [lenientFunctions, List.mem_cons, List.not_mem_nil, or_false] at hlenient
  rcases hlenient with rfl | rfl | rfl | rfl | rfl | rfl
  all_goals exact ⟨_, fun _ => rfl⟩

theorem fitsIn_of_not_lenient {functions : Functions} (hlenient : functions ∉ lenientFunctions)
    (vendorFunctions : String) :
    FitsIn vendorFunctions (validateAndSetVidPid functions vendorFunctions) := by
  unfold validateAndSetVidPid
  -- a branch is left over where it names a vendor string or a lenient mask
  repeat'
    first
      | exact fitsIn_none vendorFunctions
      | exact fitsIn_plainVidPid vendorFunctions _
      | refine FitsIn.ite (fun _ => ?_) (fun _ => ?_)
  all_goals
    first
      | exact fitsIn_vendorVidPid (by rw [‹vendorFunctions = _›]; decide) _
      | exact absurd (by rw [‹functions = _›]; decide) hlenient

/-- The identity matches unless the accessory or the audio source is set up with a vendor
string, other than `user`, that has a token. -/
theorem identityMatches_iff (functions : Functions) (properties : Properties) :
    IdentityMatches functions (getVendorFunctions properties) ↔
      (functions ∈ lenientFunctions →
        getVendorFunctions properties = "user" ∨
          tokens (getVendorFunctions properties) = []) := by
  rw [identityMatches_iff_fitsIn]
  by_cases hlenient : functions ∈ lenientFunctions
  · obtain ⟨pid, hvalidate⟩ := validateAndSetVidPid_lenient hlenient
    rw [hvalidate, fitsIn_anyVidPid_iff]
    exact (imp_iff_right hlenient).symm
  · exact iff_of_true (fitsIn_of_not_lenient hlenient _) fun hmem => absurd hmem hlenient

/-- The diagnostic interface is linked beside the accessory. -/
theorem not_identityMatches_accessory :
    ¬IdentityMatches accessory (getVendorFunctions
      { buildType := "userdebug", bootMode := "", persistentVendorConfig := "",
        vendorConfig := "diag" }) := by
  intro hmatches
  obtain ⟨hvendor, _⟩ := hmatches { vid := "0x18d1", pid := "0x2d00" } (fun _ => true)
    ["accessory.gs2", "diag.diag"] (by decide) (by decide)
  have hvid : "0x18d1" = vendorVid := hvendor.mp ⟨"diag.diag", by decide, by decide⟩
  revert hvid
  decide

end Camellia.Usb

import Camellia.Fingerprint.Requests
import Mathlib.Tactic

/-!
# What a notification tells the client

The device reports in the codes of its own header, the client is told in those of the
interface.  A code that the header names is translated by its case, one from the vendor
base on is passed on as the distance from it, and every other one becomes the code for an
unknown error.  The result says which messages a client cannot tell apart.
-/

namespace Camellia.Fingerprint

/-! ## Translating codes -/

/-- The cases of a `switch` over codes, and what its default branch uses. -/
structure CodeFilter (ρ : Type*) where
  cases : List (Int × ρ)
  vendorBase : Int
  vendor : ρ
  unknown : ρ

namespace CodeFilter

variable {ρ : Type*}

/-- The result, and what `*vendorCode` holds afterwards. -/
def translate (filter : CodeFilter ρ) (code : Int) : ρ × Int :=
  match filter.cases.lookup code with
  | some result => (result, 0)
  | none =>
      if code ≥ filter.vendorBase then (filter.vendor, code - filter.vendorBase)
      else (filter.unknown, 0)

/-- No two cases have the same result, and none has that of a vendor code. -/
structure Distinct (filter : CodeFilter ρ) : Prop where
  results : (filter.cases.map Prod.snd).Nodup
  vendor : filter.vendor ∉ filter.cases.map Prod.snd
  unknown : filter.unknown ≠ filter.vendor

/-- The code is translated as one that is not known. -/
def Unknown (filter : CodeFilter ρ) (code : Int) : Prop :=
  filter.cases.lookup code = some filter.unknown ∨
    filter.cases.lookup code = none ∧ code < filter.vendorBase

theorem mem_of_lookup {cases : List (Int × ρ)} {code : Int} {result : ρ}
    (hlookup : cases.lookup code = some result) : (code, result) ∈ cases := by
  induction cases with
  | nil => contradiction
  | cons entry rest ih =>
      obtain ⟨label, named⟩ := entry
      rw [List.lookup_cons] at hlookup
      by_cases hlabel : code = label
      · subst hlabel
        rw [beq_self_eq_true, Option.some.injEq] at hlookup
        rw [hlookup]
        exact List.mem_cons_self
      · rw [beq_false_of_ne hlabel] at hlookup
        exact List.mem_cons_of_mem _ (ih hlookup)

theorem Distinct.ne_vendor {filter : CodeFilter ρ} (hdistinct : filter.Distinct) {code : Int}
    {result : ρ} (hlookup : filter.cases.lookup code = some result) :
    result ≠ filter.vendor := by
  intro hvendor
  apply hdistinct.vendor
  rw [← hvendor]
  exact List.mem_map_of_mem (mem_of_lookup hlookup)

theorem Distinct.code_eq {filter : CodeFilter ρ} (hdistinct : filter.Distinct)
    {code other : Int} {result : ρ} (hcode : filter.cases.lookup code = some result)
    (hother : filter.cases.lookup other = some result) : code = other := by
  have hsame : (code, result) = (other, result) :=
    List.inj_on_of_nodup_map hdistinct.results (mem_of_lookup hcode) (mem_of_lookup hother) rfl
  exact congrArg Prod.fst hsame

theorem translate_of_unknown {filter : CodeFilter ρ} {code : Int}
    (hunknown : filter.Unknown code) : filter.translate code = (filter.unknown, 0) := by
  unfold translate
  rcases hunknown with hnamed | ⟨hnone, hlow⟩
  · rw [hnamed]
  · rw [hnone]
    exact if_neg (by omega)

/-- A code that is known is a case of its own or a vendor code. -/
theorem translate_of_known {filter : CodeFilter ρ} {code : Int}
    (hknown : ¬filter.Unknown code) :
    (∃ result, filter.cases.lookup code = some result ∧ result ≠ filter.unknown ∧
      filter.translate code = (result, 0)) ∨
      filter.translate code = (filter.vendor, code - filter.vendorBase) := by
  unfold translate
  unfold Unknown at hknown
  cases hlookup : filter.cases.lookup code with
  | some result =>
      refine Or.inl ⟨result, rfl, ?_, rfl⟩
      intro hunknown
      exact hknown (Or.inl (hlookup.trans (congrArg some hunknown)))
  | none =>
      right
      apply if_pos
      by_contra hlow
      exact hknown (Or.inr ⟨hlookup, by omega⟩)

theorem unknown_iff {filter : CodeFilter ρ} (hdistinct : filter.Distinct) (code : Int) :
    filter.Unknown code ↔ (filter.translate code).1 = filter.unknown := by
  constructor
  · intro hunknown
    rw [translate_of_unknown hunknown]
  · intro hresult
    by_contra hknown
    rcases translate_of_known hknown with ⟨result, _, hne, heq⟩ | heq
    · rw [heq] at hresult
      exact hne hresult
    · rw [heq] at hresult
      exact hdistinct.unknown hresult.symm

/-- Only codes that are not known are translated alike. -/
theorem translate_eq_iff {filter : CodeFilter ρ} (hdistinct : filter.Distinct)
    (code other : Int) :
    filter.translate code = filter.translate other ↔
      code = other ∨ filter.Unknown code ∧ filter.Unknown other := by
  constructor
  · intro heq
    have hboth : filter.Unknown code ↔ filter.Unknown other := by
      rw [unknown_iff hdistinct, unknown_iff hdistinct, heq]
    by_cases hunknown : filter.Unknown code
    · exact Or.inr ⟨hunknown, hboth.mp hunknown⟩
    · left
      rcases translate_of_known hunknown with ⟨result, hcode, _, htranslate⟩ | htranslate
      · rcases translate_of_known (mt hboth.mpr hunknown) with ⟨named, hother, _, hnamed⟩ | hvendor
        · rw [htranslate, hnamed, Prod.mk.injEq] at heq
          rw [← heq.1] at hother
          exact hdistinct.code_eq hcode hother
        · rw [htranslate, hvendor, Prod.mk.injEq] at heq
          exact absurd heq.1 (hdistinct.ne_vendor hcode)
      · rcases translate_of_known (mt hboth.mpr hunknown) with ⟨named, hother, _, hnamed⟩ | hvendor
        · rw [htranslate, hnamed, Prod.mk.injEq] at heq
          exact absurd heq.1.symm (hdistinct.ne_vendor hother)
        · rw [htranslate, hvendor, Prod.mk.injEq] at heq
          omega
  · intro hsame
    rcases hsame with rfl | ⟨hcode, hother⟩
    · rfl
    · rw [translate_of_unknown hcode, translate_of_unknown hother]

end CodeFilter

inductive FingerprintError where
  | errorHwUnavailable
  | errorUnableToProcess
  | errorTimeout
  | errorNoSpace
  | errorCanceled
  | errorUnableToRemove
  | errorLockout
  | errorVendor
deriving DecidableEq, Repr

inductive FingerprintAcquiredInfo where
  | acquiredGood
  | acquiredPartial
  | acquiredInsufficient
  | acquiredImagerDirty
  | acquiredTooSlow
  | acquiredTooFast
  | acquiredVendor
deriving DecidableEq, Repr

/-- The codes of the vendor library's header.  The vendor bases are positive, so that the
distance from one of them does not overflow. -/
structure FingerprintHeader where
  errorHwUnavailable : Int
  errorUnableToProcess : Int
  errorTimeout : Int
  errorNoSpace : Int
  errorCanceled : Int
  errorUnableToRemove : Int
  errorLockout : Int
  errorVendorBase : Int
  acquiredGood : Int
  acquiredPartial : Int
  acquiredInsufficient : Int
  acquiredImagerDirty : Int
  acquiredTooSlow : Int
  acquiredTooFast : Int
  acquiredVendorBase : Int

section Filters

variable (header : FingerprintHeader)

def vendorErrorFilter : CodeFilter FingerprintError where
  cases := [
    (header.errorHwUnavailable, .errorHwUnavailable),
    (header.errorUnableToProcess, .errorUnableToProcess),
    (header.errorTimeout, .errorTimeout),
    (header.errorNoSpace, .errorNoSpace),
    (header.errorCanceled, .errorCanceled),
    (header.errorUnableToRemove, .errorUnableToRemove),
    (header.errorLockout, .errorLockout)]
  vendorBase := header.errorVendorBase
  vendor := .errorVendor
  unknown := .errorUnableToProcess

def vendorAcquiredFilter : CodeFilter FingerprintAcquiredInfo where
  cases := [
    (header.acquiredGood, .acquiredGood),
    (header.acquiredPartial, .acquiredPartial),
    (header.acquiredInsufficient, .acquiredInsufficient),
    (header.acquiredImagerDirty, .acquiredImagerDirty),
    (header.acquiredTooSlow, .acquiredTooSlow),
    (header.acquiredTooFast, .acquiredTooFast)]
  vendorBase := header.acquiredVendorBase
  vendor := .acquiredVendor
  unknown := .acquiredInsufficient

theorem vendorErrorFilter_distinct : (vendorErrorFilter header).Distinct := by
  refine ⟨?_, ?_, ?_⟩
  · show [FingerprintError.errorHwUnavailable, .errorUnableToProcess, .errorTimeout,
      .errorNoSpace, .errorCanceled, .errorUnableToRemove, .errorLockout].Nodup
    decide
  · simp [vendorErrorFilter]
  · nofun

theorem vendorAcquiredFilter_distinct : (vendorAcquiredFilter header).Distinct := by
  refine ⟨?_, ?_, ?_⟩
  · show [FingerprintAcquiredInfo.acquiredGood, .acquiredPartial, .acquiredInsufficient,
      .acquiredImagerDirty, .acquiredTooSlow, .acquiredTooFast].Nodup
    decide
  · simp [vendorAcquiredFilter]
  · nofun

end Filters

/-! ## Messages and calls -/

abbrev AuthToken := Vector UInt8 69

/-- `fingerprint_msg_t`, with the member of the union that its type selects. -/
inductive FingerprintMsg where
  | error (error : Int)
  | acquired (acquiredInfo : Int)
  | templateEnrolling (fid gid samplesRemaining : UInt32)
  | templateRemoved (fid gid remainingTemplates : UInt32)
  | authenticated (fid gid : UInt32) (hat : AuthToken)
  | templateEnumerating (fid gid remainingTemplates : UInt32)
  | other (type : Int)
deriving DecidableEq

inductive ClientCall where
  | onError (devId : Nat) (error : FingerprintError) (vendorCode : Int)
  | onAcquired (devId : Nat) (acquiredInfo : FingerprintAcquiredInfo) (vendorCode : Int)
  | onEnrollResult (devId : Nat) (fid gid samplesRemaining : UInt32)
  | onRemoved (devId : Nat) (fid gid remainingTemplates : UInt32)
  | onAuthenticated (devId : Nat) (fid gid : UInt32) (token : List UInt8)
  | onEnumerate (devId : Nat) (fid gid remainingTemplates : UInt32)
deriving DecidableEq

/-- The `switch` of `notify`: what the client is called with. -/
def clientCall (header : FingerprintHeader) (devId : Nat) : FingerprintMsg → Option ClientCall
  | .error error =>
      let (result, vendorCode) := (vendorErrorFilter header).translate error
      some (.onError devId result vendorCode)
  | .acquired acquiredInfo =>
      let (result, vendorCode) := (vendorAcquiredFilter header).translate acquiredInfo
      some (.onAcquired devId result vendorCode)
  | .templateEnrolling fid gid samplesRemaining =>
      some (.onEnrollResult devId fid gid samplesRemaining)
  | .templateRemoved fid gid remainingTemplates =>
      some (.onRemoved devId fid gid remainingTemplates)
  | .authenticated fid gid hat =>
      if fid ≠ 0 then some (.onAuthenticated devId fid gid hat.toList)
      -- not a recognized fingerprint
      else some (.onAuthenticated devId fid gid [])
  | .templateEnumerating fid gid remainingTemplates =>
      some (.onEnumerate devId fid gid remainingTemplates)
  | .other _ => none

/-- The client cannot tell the two messages apart. -/
inductive Alike (header : FingerprintHeader) : FingerprintMsg → FingerprintMsg → Prop
  | same (msg : FingerprintMsg) : Alike header msg msg
  | error {error other : Int} (herror : (vendorErrorFilter header).Unknown error)
      (hother : (vendorErrorFilter header).Unknown other) :
      Alike header (.error error) (.error other)
  | acquired {info other : Int} (hinfo : (vendorAcquiredFilter header).Unknown info)
      (hother : (vendorAcquiredFilter header).Unknown other) :
      Alike header (.acquired info) (.acquired other)
  | notRecognized (gid : UInt32) (hat other : AuthToken) :
      Alike header (.authenticated 0 gid hat) (.authenticated 0 gid other)
  | ignored (type other : Int) : Alike header (.other type) (.other other)

section ClientCall

variable (header : FingerprintHeader) (devId : Nat)

theorem clientCall_error (error : Int) :
    clientCall header devId (.error error) =
      some (.onError devId ((vendorErrorFilter header).translate error).1
        ((vendorErrorFilter header).translate error).2) := rfl

theorem clientCall_acquired (acquiredInfo : Int) :
    clientCall header devId (.acquired acquiredInfo) =
      some (.onAcquired devId ((vendorAcquiredFilter header).translate acquiredInfo).1
        ((vendorAcquiredFilter header).translate acquiredInfo).2) := rfl

theorem clientCall_authenticated (fid gid : UInt32) (hat : AuthToken) :
    clientCall header devId (.authenticated fid gid hat) =
      some (.onAuthenticated devId fid gid (if fid ≠ 0 then hat.toList else [])) := by
  rw [clientCall]
  split_ifs <;> rfl

theorem clientCall_templateEnrolling (fid gid samplesRemaining : UInt32) :
    clientCall header devId (.templateEnrolling fid gid samplesRemaining) =
      some (.onEnrollResult devId fid gid samplesRemaining) := rfl

theorem clientCall_templateRemoved (fid gid remainingTemplates : UInt32) :
    clientCall header devId (.templateRemoved fid gid remainingTemplates) =
      some (.onRemoved devId fid gid remainingTemplates) := rfl

theorem clientCall_templateEnumerating (fid gid remainingTemplates : UInt32) :
    clientCall header devId (.templateEnumerating fid gid remainingTemplates) =
      some (.onEnumerate devId fid gid remainingTemplates) := rfl

theorem clientCall_other (type : Int) :
    clientCall header devId (.other type) = none := rfl

end ClientCall

theorem alike_of_token_eq {fid gid : UInt32} {hat other : AuthToken}
    (header : FingerprintHeader)
    (htoken : (if fid ≠ 0 then hat.toList else []) = if fid ≠ 0 then other.toList else []) :
    Alike header (.authenticated fid gid hat) (.authenticated fid gid other) := by
  by_cases hfid : fid = 0
  · subst hfid
    exact .notRecognized gid hat other
  · rw [if_pos hfid, if_pos hfid, Vector.toList_inj] at htoken
    rw [htoken]
    exact .same _

/-- Two messages bring about the same call, or none, exactly when they are the same, both
carry codes that are not known, both are of fingerprints that were not recognized in the
same group, or both are of a type that the service does not know. -/
theorem clientCall_eq_iff (header : FingerprintHeader) (devId : Nat)
    (msg other : FingerprintMsg) :
    clientCall header devId msg = clientCall header devId other ↔ Alike header msg other := by
  constructor
  · intro heq
    -- calls of different kinds differ, so both messages have the same type
    cases msg <;> cases other
    all_goals
      simp only [clientCall_error, clientCall_acquired, clientCall_authenticated,
        clientCall_templateEnrolling, clientCall_templateRemoved,
        clientCall_templateEnumerating, clientCall_other, Option.some.injEq,
        ClientCall.onError.injEq, ClientCall.onAcquired.injEq,
        ClientCall.onAuthenticated.injEq, ClientCall.onEnrollResult.injEq,
        ClientCall.onRemoved.injEq, ClientCall.onEnumerate.injEq, reduceCtorEq, true_and] at heq
    case error.error error other =>
      rcases (CodeFilter.translate_eq_iff (vendorErrorFilter_distinct header) error other).mp
        (Prod.ext heq.1 heq.2) with rfl | ⟨herror, hother⟩
      · exact .same _
      · exact .error herror hother
    case acquired.acquired info other =>
      rcases (CodeFilter.translate_eq_iff (vendorAcquiredFilter_distinct header) info other).mp
        (Prod.ext heq.1 heq.2) with rfl | ⟨hinfo, hother⟩
      · exact .same _
      · exact .acquired hinfo hother
    case authenticated.authenticated =>
      obtain ⟨rfl, rfl, htoken⟩ := heq
      exact alike_of_token_eq header htoken
    case other.other type other => exact .ignored type other
    all_goals
      obtain ⟨rfl, rfl, rfl⟩ := heq
      exact .same _
  · intro halike
    cases halike with
    | same => rfl
    | error herror hother =>
        simp only [clientCall, CodeFilter.translate_of_unknown herror,
          CodeFilter.translate_of_unknown hother]
    | acquired hinfo hother =>
        simp only [clientCall, CodeFilter.translate_of_unknown hinfo,
          CodeFilter.translate_of_unknown hother]
    | notRecognized => rfl
    | ignored => rfl

end Camellia.Fingerprint

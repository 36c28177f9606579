import Camellia.Fingerprint.HalSelection

/-!
# Requests to the fingerprint service

`main` registers the service whether or not a device was found.  Every request but
`setNotify` calls a function of the device, and none of them looks whether there is one.
-/

namespace Camellia.Fingerprint

inductive RequestStatus where
  | sysUnknown
  | sysOk
  | sysEnoent
  | sysEintr
  | sysEio
  | sysEagain
  | sysEnomem
  | sysEacces
  | sysEfault
  | sysEbusy
  | sysEinval
  | sysEnospc
  | sysEtimedout
deriving DecidableEq, Repr

def errorFilter : Int → RequestStatus
  | 0 => .sysOk
  | -2 => .sysEnoent
  | -4 => .sysEintr
  | -5 => .sysEio
  | -11 => .sysEagain
  | -12 => .sysEnomem
  | -13 => .sysEacces
  | -14 => .sysEfault
  | -16 => .sysEbusy
  | -22 => .sysEinval
  | -28 => .sysEnospc
  | -110 => .sysEtimedout
  | _ => .sysUnknown

inductive DeviceCall where
  | preEnroll
  | enroll (hat : Vector UInt8 69) (gid timeoutSec : UInt32)
  | postEnroll
  | getAuthenticatorId
  | cancel
  | enumerate
  | remove (gid fid : UInt32)
  | setActiveGroup (gid : UInt32) (storePath : List UInt8)
  | authenticate (operationId : UInt64) (gid : UInt32)
deriving DecidableEq

/-- What the system and a device answer while one request is served. -/
structure Environment where
  access : List UInt8 → Int
  status : Device → DeviceCall → Int
  number : Device → DeviceCall → UInt64

inductive Request where
  | setNotify (clientCallback : Option Nat)
  | preEnroll
  | enroll (hat : Vector UInt8 69) (gid timeoutSec : UInt32)
  | postEnroll
  | getAuthenticatorId
  | cancel
  | enumerate
  | remove (gid fid : UInt32)
  | setActiveGroup (gid : UInt32) (storePath : List UInt8)
  | authenticate (operationId : UInt64) (gid : UInt32)
deriving DecidableEq

inductive Reply where
  | number (value : Nat)
  | status (status : RequestStatus)
deriving DecidableEq, Repr

/-! ## The requests

A call through a null `mDevice` has no result. -/

namespace BiometricsFingerprint

variable (self : BiometricsFingerprint) (env : Environment)

def callStatus (call : DeviceCall) : Option RequestStatus :=
  self.mDevice.map fun device => errorFilter (env.status device call)

def callNumber (call : DeviceCall) : Option Nat :=
  self.mDevice.map fun device => (env.number device call).toNat

def setNotify (clientCallback : Option Nat) : BiometricsFingerprint × Nat :=
  ({ self with mClientCallback := clientCallback }, self.mDevice.elim 0 Device.address)

def preEnroll : Option Nat := self.callNumber env .preEnroll

def enroll (hat : Vector UInt8 69) (gid timeoutSec : UInt32) : Option RequestStatus :=
  self.callStatus env (.enroll hat gid timeoutSec)

def postEnroll : Option RequestStatus := self.callStatus env .postEnroll

def getAuthenticatorId : Option Nat := self.callNumber env .getAuthenticatorId

def cancel : Option RequestStatus := self.callStatus env .cancel

def enumerate : Option RequestStatus := self.callStatus env .enumerate

def remove (gid fid : UInt32) : Option RequestStatus := self.callStatus env (.remove gid fid)

def pathMax : Nat := 4096

def cStr (path : List UInt8) : List UInt8 := path.takeWhile (· ≠ 0)

def setActiveGroup (gid : UInt32) (storePath : List UInt8) : Option RequestStatus :=
  if storePath.length ≥ pathMax ∨ storePath.length ≤ 0 then some .sysEinval
  else if env.access (cStr storePath) ≠ 0 then some .sysEinval
  else self.callStatus env (.setActiveGroup gid (cStr storePath))

def authenticate (operationId : UInt64) (gid : UInt32) : Option RequestStatus :=
  self.callStatus env (.authenticate operationId gid)

def serve : Request → Option (BiometricsFingerprint × Reply)
  | .setNotify clientCallback =>
      let (self, handle) := self.setNotify clientCallback
      some (self, .number handle)
  | .preEnroll => (self.preEnroll env).map fun value => (self, .number value)
  | .enroll hat gid timeoutSec =>
      (self.enroll env hat gid timeoutSec).map fun status => (self, .status status)
  | .postEnroll => (self.postEnroll env).map fun status => (self, .status status)
  | .getAuthenticatorId => (self.getAuthenticatorId env).map fun value => (self, .number value)
  | .cancel => (self.cancel env).map fun status => (self, .status status)
  | .enumerate => (self.enumerate env).map fun status => (self, .status status)
  | .remove gid fid => (self.remove env gid fid).map fun status => (self, .status status)
  | .setActiveGroup gid storePath =>
      (self.setActiveGroup env gid storePath).map fun status => (self, .status status)
  | .authenticate operationId gid =>
      (self.authenticate env operationId gid).map fun status => (self, .status status)

end BiometricsFingerprint

def serveAll (self : BiometricsFingerprint) :
    List (Request × Environment) → Option (List Reply)
  | [] => some []
  | (request, env) :: rest =>
      (self.serve env request).bind fun (self, reply) =>
        (serveAll self rest).map fun replies => reply :: replies

/-- Requests arrive once the registration has returned `OK`, which is zero. -/
def serviceMain (bio : BiometricsFingerprint) (registration : Int)
    (requests : List (Request × Environment)) : Option (List Reply) :=
  if registration ≠ 0 then some [] else serveAll bio requests

/-! ## Which requests need the device -/

open BiometricsFingerprint

def Request.callsDevice (env : Environment) : Request → Bool
  | .setNotify _ => false
  | .setActiveGroup _ storePath =>
      ¬(storePath.length ≥ pathMax ∨ storePath.length ≤ 0) && env.access (cStr storePath) = 0
  | _ => true

theorem setActiveGroup_isSome (self : BiometricsFingerprint) (env : Environment) (gid : UInt32)
    (storePath : List UInt8) :
    (self.setActiveGroup env gid storePath).isSome =
      (self.mDevice.isSome || !(Request.setActiveGroup gid storePath).callsDevice env) := by
  rw [setActiveGroup, Request.callsDevice]
  by_cases hlength : storePath.length ≥ pathMax ∨ storePath.length ≤ 0
  · rw [if_pos hlength, decide_eq_false (not_not_intro hlength), Bool.false_and,
      Bool.not_false, Bool.or_true, Option.isSome_some]
  · rw [if_neg hlength, decide_eq_true hlength, Bool.true_and]
    by_cases haccess : env.access (cStr storePath) = 0
    · simp [haccess, callStatus]
    · simp [haccess]

theorem serve_isSome (self : BiometricsFingerprint) (env : Environment) (request : Request) :
    (self.serve env request).isSome = (self.mDevice.isSome || !request.callsDevice env) := by
  cases request with
  | setNotify clientCallback => simp [serve, Request.callsDevice]
  | setActiveGroup gid storePath =>
      rw [serve, Option.isSome_map]
      exact setActiveGroup_isSome self env gid storePath
  | preEnroll => simp [serve, Request.callsDevice, preEnroll, callNumber]
  | getAuthenticatorId => simp [serve, Request.callsDevice, getAuthenticatorId, callNumber]
  | enroll hat gid timeoutSec => simp [serve, Request.callsDevice, enroll, callStatus]
  | postEnroll => simp [serve, Request.callsDevice, postEnroll, callStatus]
  | cancel => simp [serve, Request.callsDevice, cancel, callStatus]
  | enumerate => simp [serve, Request.callsDevice, enumerate, callStatus]
  | remove gid fid => simp [serve, Request.callsDevice, remove, callStatus]
  | authenticate operationId gid => simp [serve, Request.callsDevice, authenticate, callStatus]

theorem serve_mDevice {self after : BiometricsFingerprint} {env : Environment}
    {request : Request} {reply : Reply} (hserve : self.serve env request = some (after, reply)) :
    after.mDevice = self.mDevice := by
  cases request with
  | setNotify clientCallback =>
      obtain ⟨rfl, _⟩ := Prod.mk.inj (Option.some.inj hserve)
      rfl
  | _ =>
      obtain ⟨_, _, hafter⟩ := Option.map_eq_some_iff.mp hserve
      rw [← (Prod.mk.inj hafter).1]

theorem serveAll_isSome (self : BiometricsFingerprint)
    (requests : List (Request × Environment)) :
    (serveAll self requests).isSome = true ↔
      self.mDevice.isSome = true ∨
        ∀ entry ∈ requests, entry.1.callsDevice entry.2 = false := by
  induction requests generalizing self with
  | nil => simp [serveAll]
  | cons entry rest ih =>
      obtain ⟨request, env⟩ := entry
      have hsome := serve_isSome self env request
      rw [serveAll, List.forall_mem_cons]
      cases hserve : self.serve env request with
      | none =>
          rw [hserve] at hsome
          simp_all
      | some result =>
          obtain ⟨after, reply⟩ := result
          rw [hserve, Option.isSome_some, eq_comm, Bool.or_eq_true, Bool.not_eq_true'] at hsome
          rw [Option.bind_some, Option.isSome_map, ih after, serve_mDevice hserve, or_and_left]
          exact (and_iff_right hsome).symm

/-- No request calls through a null device exactly when the service was not registered, a
module passed, or every request is one that stops before its device call. -/
theorem requests_clean_iff (memory : Nat) (fpHals : List Candidate) (registration : Int)
    (requests : List (Request × Environment)) :
    (serviceMain (construct memory fpHals).self registration requests).isSome = true ↔
      registration ≠ 0 ∨ (∃ candidate ∈ fpHals, candidate.passes = true) ∨
        ∀ entry ∈ requests, entry.1.callsDevice entry.2 = false := by
  rw [serviceMain]
  by_cases hregistration : registration = 0
  · rw [if_neg (not_not_intro hregistration), serveAll_isSome, construct_mDevice_isSome]
    simp [hregistration]
  · simp [hregistration]

/-- Neither module is there, and the first request is `preEnroll`. -/
theorem requests_not_clean :
    ¬(serviceMain
        (construct 0 [⟨.fpc, "fingerprint", -2, none⟩, ⟨.goodix, "gf_fingerprint", -2, none⟩]).self
        0 [(.preEnroll, ⟨fun _ => 0, fun _ _ => 0, fun _ _ => 0⟩)]).isSome = true := by
  decide

end Camellia.Fingerprint

import Camellia.CString
import Camellia.Transition

/-!
# Setting the double-tap mode

A request looks through `/dev/input` for a touchscreen that it knows, writes one event to
it and closes it again; every other device that it opens on the way is closed at once.
Requests overlap and share the descriptors of the process, so each system call is a step
of its own, and what the system answers is part of the step.
-/

namespace Camellia.Power

open Transition

inductive Mode where
  | doubleTapToWake
  | other (value : ℕ)
deriving DecidableEq

/-- The result, and what is written to `*_aidl_return`. -/
def isDeviceSpecificModeSupported : Mode → Bool × Option Bool
  | .doubleTapToWake => (true, some true)
  | .other _ => (false, none)

structure Dirent where
  d_type : ℕ
  d_name : String

def dtChr : ℕ := 2

/-- A file under `/dev/input`, with what `EVIOCGNAME` returns and writes for it. -/
structure InputDevice where
  path : String
  nameResult : ℤ
  name : List Char
deriving DecidableEq

structure InputEvent where
  type : ℕ
  code : ℕ
  value : ℕ
deriving DecidableEq

def evSyn : ℕ := 0
def synConfig : ℕ := 1
def kInputEventWakeupModeOff : ℕ := 4
def kInputEventWakeupModeOn : ℕ := 5

def nul : Char := Char.ofNat 0

/-- `char name[80] = {0}` after the call, which leaves the last byte alone. -/
def nameBuffer (device : InputDevice) : List Char :=
  device.name.take 79 ++ List.replicate (80 - (device.name.take 79).length) nul

def isSupported (device : InputDevice) : Bool :=
  device.nameResult > 0 &&
    (CString.read nul (nameBuffer device) = some "fts_ts".toList ||
      CString.read nul (nameBuffer device) = some "NVTCapacitiveTouchScreen".toList)

/-! ## The steps of a request

A descriptor of the process belongs to the request that has opened it.  `none` is the
descriptor `-1`, on which every system call fails. -/

abbrev Descriptors := ℕ → Option (ℕ × InputDevice)

def Descriptors.file (descriptors : Descriptors) (fd : Option ℕ) : Option InputDevice :=
  fd.bind fun number => (descriptors number).map Prod.snd

def Descriptors.close (descriptors : Descriptors) : Option ℕ → Descriptors
  | none => descriptors
  | some number => Function.update descriptors number none

inductive Place where
  | entered
  | reading
  | naming (d_name : String)
  | opened (fd : Option ℕ)
  | rejected (fd : Option ℕ)
  | accepted (fd : Option ℕ)
  | ended
  | found (fd : ℕ)
  | setting (fd : ℕ)
  | returned (result : Bool)

/-- A request, with the files that it has opened, closed and written to. -/
structure Request where
  type : Mode
  enabled : Bool
  place : Place
  dirOpen : Bool
  opened : List InputDevice
  closed : List InputDevice
  wrote : List (InputDevice × InputEvent)

def Request.event (request : Request) : InputEvent where
  type := evSyn
  code := synConfig
  value := if request.enabled then kInputEventWakeupModeOn else kInputEventWakeupModeOff

/-- A system call and its answer. -/
inductive Syscall where
  | opendir (succeeds : Bool)
  | readdir (entry : Option Dirent)
  | openFile (result : Option (ℕ × InputDevice))
  | ioctl
  | close
  | closedir
  | write

def Request.step (i : ℕ) (descriptors : Descriptors) (request : Request) :
    Syscall → Option (Descriptors × Request)
  | .opendir succeeds =>
      match request.place with
      | .entered =>
          match request.type with
          | .doubleTapToWake =>
              some (descriptors, { request with
                place := if succeeds then .reading else .returned false
                dirOpen := succeeds })
          | .other _ => some (descriptors, { request with place := .returned false })
      | _ => none
  | .readdir entry =>
      match request.place, entry with
      | .reading, some entry => some (descriptors, { request with
          place := if entry.d_type = dtChr then .naming entry.d_name else .reading })
      | .reading, none => some (descriptors, { request with place := .ended })
      | _, _ => none
  | .openFile result =>
      match request.place, result with
      | .naming _, none => some (descriptors, { request with place := .opened none })
      | .naming d_name, some (fd, device) =>
          if descriptors fd = none ∧ device.path = "/dev/input/" ++ d_name then
            some (Function.update descriptors fd (some (i, device)), { request with
              place := .opened (some fd)
              opened := request.opened ++ [device] })
          else none
      | _, _ => none
  | .ioctl =>
      match request.place with
      | .opened fd => some (descriptors, { request with
          place := if (descriptors.file fd).any isSupported then .accepted fd
            else .rejected fd })
      | _ => none
  | .close =>
      match request.place with
      | .rejected fd => some (descriptors.close fd, { request with
          place := .reading
          closed := request.closed ++ (descriptors.file fd).toList })
      | .setting fd => some (descriptors.close fd, { request with
          place := .returned true
          closed := request.closed ++ (descriptors.file fd).toList })
      | _ => none
  | .closedir =>
      match request.place with
      | .accepted (some fd) => some (descriptors, { request with
          place := .found fd
          dirOpen := false })
      -- no supported touchscreen was found
      | .accepted none | .ended => some (descriptors, { request with
          place := .returned false
          dirOpen := false })
      | _ => none
  | .write =>
      match request.place with
      | .found fd => some (descriptors, { request with
          place := .setting fd
          wrote := request.wrote ++
            ((descriptors.file fd).map fun device => (device, request.event)).toList })
      | _ => none

/-! ## Overlapping requests -/

structure State where
  descriptors : Descriptors
  requests : List Request

def State.initial : State where
  descriptors _ := none
  requests := []

inductive Action where
  | setDeviceSpecificMode (type : Mode) (enabled : Bool)
  | syscall (i : ℕ) (syscall : Syscall)

def step (state : State) : Action → Option State
  | .setDeviceSpecificMode type enabled => some { state with
      requests := state.requests ++ [{
        type := type
        enabled := enabled
        place := .entered
        dirOpen := false
        opened := []
        closed := []
        wrote := [] }] }
  | .syscall i syscall =>
      state.requests[i]?.bind fun request =>
        (request.step i state.descriptors syscall).map fun next =>
          { descriptors := next.1, requests := state.requests.set i next.2 }

/-! ## What a request has done so far -/

def Place.fd : Place → Option ℕ
  | .opened fd | .rejected fd | .accepted fd => fd
  | .found fd | .setting fd => some fd
  | _ => none

/-- A request that has looked at devices: those that it has closed again are not supported,
and `pending` are still open. -/
structure Request.Searched (request : Request) (dirOpen : Bool) (pending : List InputDevice)
    (wrote : List (InputDevice × InputEvent)) : Prop where
  type : request.type = .doubleTapToWake
  dirOpen : request.dirOpen = dirOpen
  opened : request.opened = request.closed ++ pending
  rejected : ∀ device ∈ request.closed, isSupported device = false
  wrote : request.wrote = wrote

structure Request.Untouched (request : Request) : Prop where
  dirOpen : request.dirOpen = false
  opened : request.opened = []
  closed : request.closed = []
  wrote : request.wrote = []

/-- What a request that has returned has done: every file that it opened is closed again,
one after the other; only the last can be supported, and the event has gone to it. -/
structure Request.Finished (request : Request) (result : Bool) : Prop where
  dirOpen : request.dirOpen = false
  closed : request.closed = request.opened
  rejected : ∀ device ∈ request.opened.dropLast, isSupported device = false
  verdict : result = request.opened.any isSupported
  wrote : request.wrote =
    ((request.opened.find? isSupported).map fun device => (device, request.event)).toList
  supported : result = true → (isDeviceSpecificModeSupported request.type).1 = true

def Request.Recorded (request : Request) : Prop :=
  match request.place with
  | .entered => request.Untouched
  | .reading | .naming _ | .ended | .opened none | .rejected none =>
      request.Searched true [] []
  | .opened (some _) => ∃ device, request.Searched true [device] []
  | .rejected (some _) =>
      ∃ device, request.Searched true [device] [] ∧ isSupported device = false
  | .accepted (some _) =>
      ∃ device, request.Searched true [device] [] ∧ isSupported device = true
  | .accepted none => False
  | .found _ => ∃ device, request.Searched false [device] [] ∧ isSupported device = true
  | .setting _ => ∃ device, request.Searched false [device] [(device, request.event)] ∧
      isSupported device = true
  | .returned result => request.Finished result

section Places

variable {request : Request} {dirOpen : Bool} {pending : List InputDevice}
  {wrote : List (InputDevice × InputEvent)}

theorem Request.Searched.goes (hsearched : request.Searched dirOpen pending wrote)
    (place : Place) : ({ request with place := place } : Request).Searched dirOpen pending wrote :=
  ⟨hsearched.type, hsearched.dirOpen, hsearched.opened, hsearched.rejected, hsearched.wrote⟩

theorem Request.Searched.closedir (hsearched : request.Searched dirOpen pending wrote)
    (place : Place) :
    ({ request with place := place, dirOpen := false } : Request).Searched false pending wrote :=
  ⟨hsearched.type, rfl, hsearched.opened, hsearched.rejected, hsearched.wrote⟩

theorem Request.Searched.opens (hsearched : request.Searched dirOpen [] wrote)
    (place : Place) (device : InputDevice) :
    ({ request with
      place := place
      opened := request.opened ++ [device] } : Request).Searched dirOpen [device] wrote := by
  have hopened : request.opened = request.closed := by
    rw [hsearched.opened, List.append_nil]
  exact ⟨hsearched.type, hsearched.dirOpen, congrArg (· ++ [device]) hopened,
    hsearched.rejected, hsearched.wrote⟩

theorem Request.Searched.closes {device : InputDevice}
    (hsearched : request.Searched dirOpen [device] wrote)
    (hrejected : isSupported device = false) (place : Place) :
    ({ request with
      place := place
      closed := request.closed ++ [device] } : Request).Searched dirOpen [] wrote := by
  refine ⟨hsearched.type, hsearched.dirOpen, ?_, ?_, hsearched.wrote⟩
  · exact hsearched.opened.trans (List.append_nil _).symm
  · intro other hother
    rcases List.mem_append.mp hother with hold | hnew
    · exact hsearched.rejected other hold
    · rw [List.mem_singleton.mp hnew, hrejected]

end Places

theorem Request.Untouched.finished {request : Request} (huntouched : request.Untouched) :
    request.Finished false where
  dirOpen := huntouched.dirOpen
  closed := huntouched.closed.trans huntouched.opened.symm
  rejected := by
    rw [huntouched.opened]
    nofun
  verdict := by
    rw [huntouched.opened]
    rfl
  wrote := by
    rw [huntouched.wrote, huntouched.opened]
    rfl
  supported := nofun

theorem Request.Searched.finished_false {request : Request}
    (hsearched : request.Searched false [] []) : request.Finished false := by
  have hopened : request.opened = request.closed := by
    rw [hsearched.opened, List.append_nil]
  have hnone : ∀ device ∈ request.opened, isSupported device = false := by
    rw [hopened]
    exact hsearched.rejected
  have hfind : request.opened.find? isSupported = none := by
    rw [List.find?_eq_none]
    intro device hdevice
    simp [hnone device hdevice]
  refine ⟨hsearched.dirOpen, hopened.symm, ?_, ?_, ?_, nofun⟩
  · intro device hdevice
    exact hnone device (List.dropLast_subset _ hdevice)
  · rw [eq_comm, List.any_eq_false]
    intro device hdevice
    simp [hnone device hdevice]
  · rw [hsearched.wrote, hfind]
    rfl

theorem Request.Searched.finished_true {request : Request} {device : InputDevice}
    (hsearched : request.Searched false [device] [(device, request.event)])
    (hsupported : isSupported device = true) :
    ({ request with
      place := .returned true
      closed := request.closed ++ [device] } : Request).Finished true := by
  have hfind : request.opened.find? isSupported = some device := by
    rw [hsearched.opened, List.find?_append]
    have hnone : request.closed.find? isSupported = none := by
      rw [List.find?_eq_none]
      intro other hother
      simp [hsearched.rejected other hother]
    rw [hnone, List.find?_singleton, if_pos hsupported]
    rfl
  have hmem : device ∈ request.opened := by
    rw [hsearched.opened]
    exact List.mem_append_right _ List.mem_cons_self
  refine ⟨hsearched.dirOpen, hsearched.opened.symm, ?_, ?_, ?_, ?_⟩
  · rw [hsearched.opened, List.dropLast_concat]
    exact hsearched.rejected
  · rw [eq_comm, List.any_eq_true]
    exact ⟨device, hmem, hsupported⟩
  · rw [hfind]
    exact hsearched.wrote
  · intro _
    rw [hsearched.type]
    rfl

/-! ## The invariant -/

/-- A descriptor is open exactly while the request that has opened it holds it, and then
the file behind it is the one that this request has opened last. -/
def State.Owned (state : State) : Prop :=
  ∀ fd i device, state.descriptors fd = some (i, device) ↔
    ∃ request, state.requests[i]? = some request ∧ request.place.fd = some fd ∧
      request.opened.getLast? = some device

structure State.Invariant (state : State) : Prop where
  owned : state.Owned
  recorded : ∀ (i : ℕ) (request : Request), state.requests[i]? = some request →
    request.Recorded

/-- What a system call of request `i` does to the descriptors. -/
inductive Change (i : ℕ) (descriptors : Descriptors) (request : Request) :
    Descriptors → Request → Prop
  | keeps {next : Request} (hfd : next.place.fd = request.place.fd)
      (hopened : next.opened = request.opened) : Change i descriptors request descriptors next
  | opens {next : Request} {fd : ℕ} {device : InputDevice} (hfree : descriptors fd = none)
      (hbefore : request.place.fd = none) (hafter : next.place.fd = some fd)
      (hopened : next.opened = request.opened ++ [device]) :
      Change i descriptors request (Function.update descriptors fd (some (i, device))) next
  | closes {next : Request} {fd : ℕ} (hbefore : request.place.fd = some fd)
      (hafter : next.place.fd = none) (hopened : next.opened = request.opened) :
      Change i descriptors request (Function.update descriptors fd none) next

section Steps

variable {i : ℕ} {descriptors later : Descriptors} {request next : Request}

theorem change_of_step {syscall : Syscall}
    (hstep : request.step i descriptors syscall = some (later, next)) :
    Change i descriptors request later next := by
  obtain ⟨type, enabled, place, dirOpen, opened, closed, wrote⟩ := request
  cases syscall with
  | opendir succeeds =>
      cases place <;> cases type
      all_goals simp only [Request.step, reduceCtorEq, Option.some.injEq, Prod.mk.injEq] at hstep
      all_goals obtain ⟨rfl, rfl⟩ := hstep
      · cases succeeds <;> exact .keeps rfl rfl
      · exact .keeps rfl rfl
  | readdir entry =>
      cases place <;> cases entry
      all_goals simp only [Request.step, reduceCtorEq, Option.some.injEq, Prod.mk.injEq] at hstep
      all_goals obtain ⟨rfl, rfl⟩ := hstep
      · exact .keeps rfl rfl
      · apply Change.keeps
        · dsimp only
          split <;> rfl
        · rfl
  | openFile result =>
      cases place <;> rcases result with _ | ⟨fd, device⟩
      all_goals simp only [Request.step, reduceCtorEq] at hstep
      · rw [Option.some.injEq, Prod.mk.injEq] at hstep
        obtain ⟨rfl, rfl⟩ := hstep
        exact .keeps rfl rfl
      · split at hstep
        · rename_i hfree
          rw [Option.some.injEq, Prod.mk.injEq] at hstep
          obtain ⟨rfl, rfl⟩ := hstep
          exact .opens hfree.1 rfl rfl rfl
        · contradiction
  | ioctl =>
      cases place
      all_goals simp only [Request.step, reduceCtorEq, Option.some.injEq, Prod.mk.injEq] at hstep
      obtain ⟨rfl, rfl⟩ := hstep
      apply Change.keeps
      · dsimp only
        split <;> rfl
      · rfl
  | close =>
      cases place
      all_goals simp only [Request.step, reduceCtorEq, Option.some.injEq, Prod.mk.injEq] at hstep
      case rejected fd =>
        obtain ⟨rfl, rfl⟩ := hstep
        cases fd with
        | none => exact .keeps rfl rfl
        | some fd => exact .closes rfl rfl rfl
      case setting fd =>
        obtain ⟨rfl, rfl⟩ := hstep
        exact .closes rfl rfl rfl
  | closedir =>
      rcases place with _ | _ | _ | _ | _ | (_ | fd) | _ | _ | _ | _
      all_goals simp only [Request.step, reduceCtorEq, Option.some.injEq, Prod.mk.injEq] at hstep
      all_goals
        obtain ⟨rfl, rfl⟩ := hstep
        exact .keeps rfl rfl
  | write =>
      cases place
      all_goals simp only [Request.step, reduceCtorEq, Option.some.injEq, Prod.mk.injEq] at hstep
      obtain ⟨rfl, rfl⟩ := hstep
      exact .keeps rfl rfl

/-- The descriptor that a request holds is that of the file it has opened last. -/
def Holds (descriptors : Descriptors) (request : Request) : Prop :=
  ∀ fd, request.place.fd = some fd → ∃ device, request.opened.getLast? = some device ∧
    descriptors.file (some fd) = some device

theorem Holds.file_eq (hholds : Holds descriptors request) {fd : ℕ}
    (hfd : request.place.fd = some fd) {closed : List InputDevice} {device : InputDevice}
    (hopened : request.opened = closed ++ [device]) :
    descriptors.file (some fd) = some device := by
  obtain ⟨last, hlast, hfile⟩ := hholds fd hfd
  rw [hopened, List.getLast?_concat, Option.some.injEq] at hlast
  rw [hfile, hlast]

theorem Request.Recorded.step (hrecorded : request.Recorded)
    (hholds : Holds descriptors request) {syscall : Syscall}
    (hstep : request.step i descriptors syscall = some (later, next)) : next.Recorded := by
  cases syscall with
  | opendir succeeds =>
      simp only [Request.step] at hstep
      split at hstep
      · rename_i hplace
        rw [Request.Recorded, hplace] at hrecorded
        split at hstep
        · rename_i htype
          rw [Option.some.injEq, Prod.mk.injEq] at hstep
          obtain ⟨_, rfl⟩ := hstep
          have hsearched : ∀ place, ({ request with
              place := place, dirOpen := succeeds } : Request).Searched succeeds [] [] := by
            intro place
            refine ⟨htype, rfl, ?_, ?_, hrecorded.wrote⟩
            · rw [List.append_nil]
              exact hrecorded.opened.trans hrecorded.closed.symm
            · rw [hrecorded.closed]
              nofun
          cases succeeds with
          | false => exact (hsearched _).finished_false
          | true => exact hsearched _
        · rw [Option.some.injEq, Prod.mk.injEq] at hstep
          obtain ⟨_, rfl⟩ := hstep
          have huntouched : ({ request with place := .returned false } : Request).Untouched :=
            ⟨hrecorded.dirOpen, hrecorded.opened, hrecorded.closed, hrecorded.wrote⟩
          exact huntouched.finished
      · contradiction
  | readdir entry =>
      simp only [Request.step] at hstep
      split at hstep
      · rename_i present hplace
        rw [Request.Recorded, hplace] at hrecorded
        rw [Option.some.injEq, Prod.mk.injEq] at hstep
        obtain ⟨_, rfl⟩ := hstep
        by_cases htype : present.d_type = dtChr
        · rw [if_pos htype]
          exact hrecorded.goes _
        · rw [if_neg htype]
          exact hrecorded.goes _
      · rename_i hplace
        rw [Request.Recorded, hplace] at hrecorded
        rw [Option.some.injEq, Prod.mk.injEq] at hstep
        obtain ⟨_, rfl⟩ := hstep
        exact hrecorded.goes _
      · contradiction
  | openFile result =>
      simp only [Request.step] at hstep
      split at hstep
      · rename_i hplace
        rw [Request.Recorded, hplace] at hrecorded
        rw [Option.some.injEq, Prod.mk.injEq] at hstep
        obtain ⟨_, rfl⟩ := hstep
        exact hrecorded.goes _
      · rename_i fd device hplace
        rw [Request.Recorded, hplace] at hrecorded
        split at hstep
        · rw [Option.some.injEq, Prod.mk.injEq] at hstep
          obtain ⟨_, rfl⟩ := hstep
          exact ⟨device, hrecorded.opens _ device⟩
        · contradiction
      · contradiction
  | ioctl =>
      simp only [Request.step] at hstep
      split at hstep
      · rename_i fd hplace
        rw [Request.Recorded, hplace] at hrecorded
        rw [Option.some.injEq, Prod.mk.injEq] at hstep
        obtain ⟨_, rfl⟩ := hstep
        cases fd with
        | none => exact hrecorded.goes _
        | some fd =>
            obtain ⟨device, hsearched⟩ := hrecorded
            have hfile : descriptors.file (some fd) = some device :=
              hholds.file_eq (by rw [hplace]; rfl) hsearched.opened
            rw [hfile, Option.any_some]
            by_cases hsupported : isSupported device = true
            · rw [if_pos hsupported]
              exact ⟨device, hsearched.goes _, hsupported⟩
            · rw [if_neg hsupported]
              exact ⟨device, hsearched.goes _, Bool.eq_false_of_not_eq_true hsupported⟩
      · contradiction
  | close =>
      simp only [Request.step] at hstep
      split at hstep
      · rename_i fd hplace
        rw [Request.Recorded, hplace] at hrecorded
        rw [Option.some.injEq, Prod.mk.injEq] at hstep
        obtain ⟨_, rfl⟩ := hstep
        cases fd with
        | none =>
            rw [show descriptors.file none = none from rfl, Option.toList_none, List.append_nil]
            exact hrecorded.goes _
        | some fd =>
            obtain ⟨device, hsearched, hrejected⟩ := hrecorded
            have hfile : descriptors.file (some fd) = some device :=
              hholds.file_eq (by rw [hplace]; rfl) hsearched.opened
            rw [hfile]
            exact hsearched.closes hrejected _
      · rename_i fd hplace
        rw [Request.Recorded, hplace] at hrecorded
        rw [Option.some.injEq, Prod.mk.injEq] at hstep
        obtain ⟨_, rfl⟩ := hstep
        obtain ⟨device, hsearched, hsupported⟩ := hrecorded
        have hfile : descriptors.file (some fd) = some device :=
          hholds.file_eq (by rw [hplace]; rfl) hsearched.opened
        rw [hfile]
        exact hsearched.finished_true hsupported
      · contradiction
  | closedir =>
      simp only [Request.step] at hstep
      split at hstep
      · rename_i fd hplace
        rw [Request.Recorded, hplace] at hrecorded
        rw [Option.some.injEq, Prod.mk.injEq] at hstep
        obtain ⟨_, rfl⟩ := hstep
        obtain ⟨device, hsearched, hsupported⟩ := hrecorded
        exact ⟨device, hsearched.closedir _, hsupported⟩
      · rename_i hplace
        rw [Request.Recorded, hplace] at hrecorded
        contradiction
      · rename_i hplace
        rw [Request.Recorded, hplace] at hrecorded
        rw [Option.some.injEq, Prod.mk.injEq] at hstep
        obtain ⟨_, rfl⟩ := hstep
        exact (hrecorded.closedir _).finished_false
      · contradiction
  | write =>
      simp only [Request.step] at hstep
      split at hstep
      · rename_i fd hplace
        rw [Request.Recorded, hplace] at hrecorded
        rw [Option.some.injEq, Prod.mk.injEq] at hstep
        obtain ⟨_, rfl⟩ := hstep
        obtain ⟨device, hsearched, hsupported⟩ := hrecorded
        have hfile : descriptors.file (some fd) = some device :=
          hholds.file_eq (by rw [hplace]; rfl) hsearched.opened
        refine ⟨device, ?_, hsupported⟩
        rw [hfile, hsearched.wrote]
        exact ⟨hsearched.type, hsearched.dirOpen, hsearched.opened, hsearched.rejected, rfl⟩
      · contradiction

theorem Request.Recorded.getLast (hrecorded : request.Recorded) {fd : ℕ}
    (hfd : request.place.fd = some fd) : ∃ device, request.opened.getLast? = some device := by
  have hlast : ∀ {dirOpen device wrote}, request.Searched dirOpen [device] wrote →
      ∃ device, request.opened.getLast? = some device := by
    intro dirOpen device wrote hsearched
    exact ⟨device, by rw [hsearched.opened, List.getLast?_concat]⟩
  unfold Request.Recorded at hrecorded
  split at hrecorded
  case h_7 hplace =>
    obtain ⟨device, hsearched⟩ := hrecorded
    exact hlast hsearched
  case h_10 => contradiction
  all_goals try (rename_i hplace; rw [hplace] at hfd; contradiction)
  all_goals
    obtain ⟨device, hsearched, _⟩ := hrecorded
    exact hlast hsearched

end Steps

/-! ## The descriptors of all requests -/

def State.Has (state : State) (i fd : ℕ) (device : InputDevice) : Prop :=
  ∃ request, state.requests[i]? = some request ∧ request.place.fd = some fd ∧
    request.opened.getLast? = some device

section Descriptors

variable {state : State} {i : ℕ} {request next : Request} {later : Descriptors}

theorem has_iff (hrequest : state.requests[i]? = some request) (fd : ℕ)
    (device : InputDevice) :
    state.Has i fd device ↔
      request.place.fd = some fd ∧ request.opened.getLast? = some device := by
  simp [State.Has, hrequest]

theorem has_set_self (hrequest : state.requests[i]? = some request) (fd : ℕ)
    (device : InputDevice) :
    State.Has ⟨later, state.requests.set i next⟩ i fd device ↔
      next.place.fd = some fd ∧ next.opened.getLast? = some device := by
  have hlt := (List.getElem?_eq_some_iff.mp hrequest).1
  exact has_iff (List.getElem?_set_self hlt) fd device

theorem has_set_other {j : ℕ} (hj : j ≠ i) (fd : ℕ) (device : InputDevice) :
    State.Has ⟨later, state.requests.set i next⟩ j fd device ↔ state.Has j fd device := by
  simp only [State.Has, List.getElem?_set_ne hj.symm]

theorem State.Owned.change (howned : state.Owned)
    (hrequest : state.requests[i]? = some request)
    (hlast : ∀ fd, request.place.fd = some fd → ∃ device, request.opened.getLast? = some device)
    (hchange : Change i state.descriptors request later next) :
    State.Owned ⟨later, state.requests.set i next⟩ := by
  intro fd j device
  have hbefore : state.descriptors fd = some (j, device) ↔ state.Has j fd device :=
    howned fd j device
  change later fd = some (j, device) ↔ State.Has ⟨later, state.requests.set i next⟩ j fd device
  cases hchange with
  | keeps hfd hopened =>
      by_cases hj : j = i
      · subst hj
        rw [hbefore, has_set_self hrequest, has_iff hrequest, hfd, hopened]
      · rw [hbefore, has_set_other hj]
  | @opens _ newFd file hfree hnone hafter hopened =>
      by_cases hfd : fd = newFd
      · subst hfd
        rw [Function.update_self]
        by_cases hj : j = i
        · subst hj
          rw [has_set_self hrequest, hafter, hopened, List.getLast?_concat]
          simp
        · rw [has_set_other hj, ← hbefore, hfree]
          simp [Ne.symm hj]
      · rw [Function.update_of_ne hfd, hbefore]
        by_cases hj : j = i
        · subst hj
          rw [has_set_self hrequest, has_iff hrequest, hafter, hnone]
          simp [Ne.symm hfd]
        · rw [has_set_other hj]
  | @closes _ oldFd hheld hafter hopened =>
      obtain ⟨file, hfile⟩ := hlast oldFd hheld
      have hmine : state.descriptors oldFd = some (i, file) :=
        (howned oldFd i file).mpr ⟨request, hrequest, hheld, hfile⟩
      by_cases hfd : fd = oldFd
      · subst hfd
        rw [Function.update_self]
        by_cases hj : j = i
        · subst hj
          rw [has_set_self hrequest, hafter]
          simp
        · rw [has_set_other hj, ← hbefore, hmine]
          simp [Ne.symm hj]
      · rw [Function.update_of_ne hfd, hbefore]
        by_cases hj : j = i
        · subst hj
          rw [has_set_self hrequest, has_iff hrequest, hafter, hheld]
          simp [Ne.symm hfd]
        · rw [has_set_other hj]

theorem State.Invariant.holds (hinv : state.Invariant)
    (hrequest : state.requests[i]? = some request) : Holds state.descriptors request := by
  intro fd hfd
  obtain ⟨device, hdevice⟩ := (hinv.recorded i request hrequest).getLast hfd
  have hopen : state.descriptors fd = some (i, device) :=
    (hinv.owned fd i device).mpr ⟨request, hrequest, hfd, hdevice⟩
  exact ⟨device, hdevice, by simp [Descriptors.file, hopen]⟩

theorem State.Invariant.initial : State.initial.Invariant where
  owned := by
    intro fd i device
    simp [State.initial]
  recorded := by
    intro i request hrequest
    simp [State.initial] at hrequest

theorem State.Invariant.arrives (hinv : state.Invariant) (type : Mode) (enabled : Bool) :
    ({ state with
      requests := state.requests ++ [⟨type, enabled, .entered, false, [], [], []⟩] } :
        State).Invariant := by
  constructor
  · intro fd j device
    rw [hinv.owned]
    apply exists_congr
    intro found
    rw [List.getElem?_append]
    split
    · exact Iff.rfl
    · rename_i hlong
      rw [List.getElem?_eq_none (Nat.le_of_not_lt hlong)]
      constructor
      · rintro ⟨hnone, _⟩
        contradiction
      · rintro ⟨hnew, hfd, _⟩
        have hmem := List.mem_of_getElem? hnew
        rw [List.mem_singleton.mp hmem] at hfd
        contradiction
  · intro j found hfound
    rw [List.getElem?_append] at hfound
    split at hfound
    · exact hinv.recorded j found hfound
    · rw [List.mem_singleton.mp (List.mem_of_getElem? hfound)]
      exact ⟨rfl, rfl, rfl, rfl⟩

theorem step_syscall {after : State} {syscall : Syscall}
    (hstep : step state (.syscall i syscall) = some after) :
    ∃ request later next, state.requests[i]? = some request ∧
      request.step i state.descriptors syscall = some (later, next) ∧
      after = ⟨later, state.requests.set i next⟩ := by
  obtain ⟨request, hrequest, hrest⟩ := Option.bind_eq_some_iff.mp hstep
  obtain ⟨⟨later, next⟩, hnext, hafter⟩ := Option.map_eq_some_iff.mp hrest
  exact ⟨request, later, next, hrequest, hnext, hafter.symm⟩

theorem State.Invariant.step (hinv : state.Invariant) {action : Action} {after : State}
    (hstep : Power.step state action = some after) : after.Invariant := by
  cases action with
  | setDeviceSpecificMode type enabled =>
      rw [Power.step, Option.some.injEq] at hstep
      exact hstep ▸ hinv.arrives type enabled
  | syscall i syscall =>
      obtain ⟨request, later, next, hrequest, hnext, rfl⟩ := step_syscall hstep
      have hrecorded := hinv.recorded i request hrequest
      constructor
      · exact hinv.owned.change hrequest (fun fd hfd => hrecorded.getLast hfd)
          (change_of_step hnext)
      · intro j found hfound
        by_cases hj : j = i
        · subst hj
          have hlt := (List.getElem?_eq_some_iff.mp hrequest).1
          rw [List.getElem?_set_self hlt, Option.some.injEq] at hfound
          subst hfound
          exact hrecorded.step (hinv.holds hrequest) hnext
        · rw [List.getElem?_set_ne (Ne.symm hj)] at hfound
          exact hinv.recorded j found hfound

/-- No system call of a request touches a descriptor of another. -/
theorem State.Invariant.frame (hinv : state.Invariant) {syscall : Syscall} {after : State}
    (hstep : Power.step state (.syscall i syscall) = some after) (fd : ℕ) {owner : ℕ}
    (howner : owner ≠ i) (device : InputDevice) :
    after.descriptors fd = some (owner, device) ↔
      state.descriptors fd = some (owner, device) := by
  have hafter := hinv.step hstep
  obtain ⟨request, later, next, hrequest, hnext, rfl⟩ := step_syscall hstep
  exact (hafter.owned fd owner device).trans
    ((has_set_other howner fd device).trans (hinv.owned fd owner device).symm)

end Descriptors

def keypad : InputDevice := ⟨"/dev/input/event0", 10, "mtk-kpd".toList⟩

def touchscreen : InputDevice := ⟨"/dev/input/event1", 7, "fts_ts".toList⟩

def overlapping : List Action :=
  [.setDeviceSpecificMode .doubleTapToWake true, .setDeviceSpecificMode .doubleTapToWake false,
    .syscall 0 (.opendir true), .syscall 1 (.opendir false),
    .syscall 0 (.readdir (some ⟨2, "event0"⟩)), .syscall 0 (.openFile (some (3, keypad))),
    .syscall 0 .ioctl, .syscall 0 .close, .syscall 0 (.readdir (some ⟨2, "event1"⟩)),
    .syscall 0 (.openFile (some (3, touchscreen))), .syscall 0 .ioctl, .syscall 0 .closedir,
    .syscall 0 .write, .syscall 0 .close]

end Camellia.Power

import Camellia.Transition
import Camellia.Usb.PortStatus

/-!
# Role switches and the uevent worker

Any number of `switchRole` calls and the worker that handles uevents share three
mutexes, the flag `mPartnerUp` and the role nodes of the ports.  A step here is what a
thread does between two points at which another may come in; a thread stands still
where a mutex it needs is taken.  The kernel emits uevents and makes and removes the
`-partner` directories whenever it likes.
-/

namespace Camellia.Usb
namespace RoleSwitch

open Transition

structure PortRole where
  type : PortRoleType
  role : ℕ
deriving DecidableEq

def appendRoleNodeHelper (portName : String) : PortRoleType → String
  | .dataRole => "/sys/class/typec/" ++ portName ++ "/data_role"
  | .powerRole => "/sys/class/typec/" ++ portName ++ "/power_role"
  | .mode => "/sys/class/typec/" ++ portName ++ "/port_type"
  | .other => ""

def convertRoletoString (role : PortRole) : String :=
  match role.type with
  | .powerRole =>
      if role.role = PortPowerRole.source then "source"
      else if role.role = PortPowerRole.sink then "sink"
      else "none"
  | .dataRole =>
      if role.role = PortDataRole.host then "host"
      else if role.role = PortDataRole.device then "device"
      else "none"
  | .mode =>
      if role.role = PortMode.ufp then "sink"
      else if role.role = PortMode.dfp then "source"
      else "none"
  | .other => "none"

/-! ## State -/

/-- A thread; calls are numbered in the order in which they come. -/
inductive Party where
  | call (index : ℕ)
  | worker
deriving DecidableEq

/-- Where a call is: before `mRoleSwitchLock`, before `fopen`; in `switchMode`, before
`mPartnerLock`, before the write, before the wait, in it, woken up without the mutex, back
from it, before `switchToDrp`; for the other roles, before the write, before reading back;
after the verdict, in the callback, gone. -/
inductive CallStage where
  | entering
  | opening
  | locking
  | cleared
  | waitAgain
  | asleep
  | woken (timedOut : Bool)
  | returned (timedOut : Bool)
  | fallingBack
  | opened
  | written
  | settled
  | notifying
  | finished
deriving DecidableEq

/-- A field of a uevent as `uevent_event` tells them apart; the fields after the first
empty one are not part of the message. -/
inductive Field where
  | partnerAdded (portName : String)
  | devtypeTypec
  | other
deriving DecidableEq

/-- `seqnum` counts the uevents in the order in which they are emitted. -/
structure Uevent where
  seqnum : ℕ
  fields : List Field
deriving DecidableEq

/-- A partner-added field that the worker has handled. -/
structure Arrival where
  portName : String
  seqnum : ℕ
deriving DecidableEq

/-- An attempt to write to a role node.  `locked` and `unpartnered` are about those of the
worker: whether it holds `mRoleSwitchLock`, and has seen under it that the port has no
`-partner` directory. -/
structure Write where
  writer : Party
  node : String
  text : String
  locked : Bool
  unpartnered : Bool
deriving DecidableEq

/-- `verdict` is what `switchMode` returns, from the end of its wait on, and `heard` the
arrivals handled by then.  `clearedAt` counts the arrivals handled before `mPartnerUp` was
cleared, `writtenAt` the uevents emitted before the role string was written, and `mark` the
writes before that one. -/
structure Call where
  portName : String
  newRole : PortRole
  stage : CallStage
  roleSwitch : Bool
  verdict : Option Bool
  heard : List Arrival
  clearedAt : ℕ
  writtenAt : Option ℕ
  mark : Option ℕ
deriving DecidableEq

/-- Where the worker is: in `epoll_wait`, at the fields of a message, in
`queryVersionHelper`, before the trylock, in the loop over the ports, at a port that it has
seen without a partner. -/
inductive WorkerStage where
  | waiting
  | parsing (seqnum : ℕ) (fields : List Field)
  | querying
  | trying (ports : List String)
  | restoring (ports : List String)
  | reverting (portName : String) (ports : List String)
deriving DecidableEq

/-- `handled` are the arrivals handled so far and `seen` the ports that the worker has seen
without a partner since it last took `mRoleSwitchLock`. -/
structure State where
  mRoleSwitchLock : Option Party
  mPartnerLock : Option Party
  mLock : Option Party
  mPartnerUp : Bool
  calls : List Call
  worker : WorkerStage
  uevents : List Uevent
  emitted : ℕ
  partners : List String
  notifications : List (String × PortRole × V1_0.Status)
  handled : List Arrival
  seen : List String
  writes : List Write
deriving DecidableEq

def State.initial (partners : List String) : State where
  mRoleSwitchLock := none
  mPartnerLock := none
  mLock := none
  mPartnerUp := false
  calls := []
  worker := .waiting
  uevents := []
  emitted := 0
  partners := partners
  notifications := []
  handled := []
  seen := []
  writes := []

def State.setCall (state : State) (index : ℕ) (call : Call) : State :=
  { state with calls := state.calls.set index call }

/-! ## Calls -/

inductive CallAction where
  | lockRoleSwitch
  | fopen (opens : Bool)
  | lockPartner
  | fputs (succeeds : Bool)
  | sleep
  | wake (timedOut : Bool)
  | relock
  | testPartner
  | switchToDrp
  | readBack (text : Option String)
  | lockCallback
  | notify (registered : Bool)
deriving DecidableEq

section
variable (state : State) (index : ℕ) (call : Call)

/-- A new call.  With an invalid type it returns before it takes any mutex. -/
def switchRole (portName : String) (newRole : PortRole) : State :=
  let stage := if appendRoleNodeHelper portName newRole.type = "" then
    CallStage.finished else .entering
  { state with
    calls := state.calls ++ [{
      portName := portName
      newRole := newRole
      stage := stage
      roleSwitch := false
      verdict := none
      heard := []
      clearedAt := 0
      writtenAt := none
      mark := none }] }

def lockRoleSwitch : Option State := do
  guard (call.stage = .entering ∧ state.mRoleSwitchLock = none)
  return { state.setCall index { call with stage := .opening } with
    mRoleSwitchLock := some (.call index) }

def afterOpen (opens : Bool) : Call :=
  if call.newRole.type = .mode then
    if opens then { call with stage := .locking }
    else { call with verdict := some false, stage := .fallingBack }
  else { call with stage := if opens then .opened else .settled }

def fopen (opens : Bool) : Option State := do
  guard (call.stage = .opening)
  return state.setCall index (afterOpen call opens)

def lockPartner : Option State := do
  guard (call.stage = .locking ∧ state.mPartnerLock = none)
  return { state.setCall index
      { call with stage := .cleared, clearedAt := state.handled.length } with
    mPartnerLock := some (.call index)
    mPartnerUp := false }

def roleWrite : Write where
  writer := .call index
  node := appendRoleNodeHelper call.portName call.newRole.type
  text := convertRoletoString call.newRole
  locked := state.mRoleSwitchLock = some (.call index)
  unpartnered := false

/-- The write of `switchMode`. -/
def writeMode (succeeds : Bool) : State :=
  let call := { call with mark := some state.writes.length }
  let state := { state with writes := state.writes ++ [roleWrite state index call] }
  if succeeds then
    state.setCall index { call with stage := .waitAgain, writtenAt := some state.emitted }
  else
    { state.setCall index { call with stage := .fallingBack, verdict := some false } with
      mPartnerLock := none }

/-- The write of `switchRole` itself. -/
def writeRole (succeeds : Bool) : State :=
  let stage := if succeeds then CallStage.written else .settled
  { state.setCall index { call with mark := some state.writes.length, stage := stage } with
    writes := state.writes ++ [roleWrite state index call] }

def fputs (succeeds : Bool) : Option State :=
  match call.stage with
  | .cleared => some (writeMode state index call succeeds)
  | .opened => some (writeRole state index call succeeds)
  | _ => none

/-- `pthread_cond_timedwait` lets go of the mutex and takes it again before it returns.  A
thread may wake up at any time, signalled or not, and a time-out stays one even if a signal
comes before the mutex is back. -/
def sleep : Option State := do
  guard (call.stage = .waitAgain)
  return { state.setCall index { call with stage := .asleep } with mPartnerLock := none }

def wake (timedOut : Bool) : Option State := do
  guard (call.stage = .asleep)
  return state.setCall index { call with stage := .woken timedOut }

def relock : Option State :=
  match call.stage, state.mPartnerLock with
  | .woken timedOut, none =>
      some { state.setCall index { call with stage := .returned timedOut } with
        mPartnerLock := some (.call index) }
  | _, _ => none

def Call.conclude (heard : List Arrival) (roleSwitch : Bool) : Call :=
  { call with
    verdict := some roleSwitch
    roleSwitch := roleSwitch
    heard := heard
    stage := if roleSwitch then .settled else .fallingBack }

def testPartner : Option State :=
  match call.stage with
  | .returned true =>
      some { state.setCall index (call.conclude state.handled false) with
        mPartnerLock := none }
  | .returned false =>
      if !state.mPartnerUp then
        some (state.setCall index { call with stage := .waitAgain })
      else
        some { state.setCall index (call.conclude state.handled true) with
          mPartnerLock := none }
  | _ => none

/-- Whether or not the file can be opened. -/
def drpWrite (writer : Party) (portName : String) : Write where
  writer := writer
  node := appendRoleNodeHelper portName .mode
  text := "dual"
  locked := state.mRoleSwitchLock = some writer
  unpartnered := portName ∈ state.seen

def switchToDrp : Option State := do
  guard (call.stage = .fallingBack)
  return { state.setCall index { call with stage := .settled } with
    writes := state.writes ++ [drpWrite state (.call index) call.portName] }

/-- `text` is what the node has by now. -/
def readBack (text : Option String) : Option State := do
  guard (call.stage = .written)
  let filename := appendRoleNodeHelper call.portName call.newRole.type
  let written := (readFile (fun _ => text) filename "").map extractRole
  return state.setCall index { call with
    stage := .settled
    roleSwitch := written = some (convertRoletoString call.newRole) }

def lockCallback : Option State := do
  guard (call.stage = .settled ∧ state.mLock = none)
  return { state.setCall index { call with stage := .notifying } with
    mLock := some (.call index) }

def notify (registered : Bool) : Option State := do
  guard (call.stage = .notifying)
  let status := if call.roleSwitch then V1_0.Status.success else .error
  let sent := if registered then [(call.portName, call.newRole, status)] else []
  return { state.setCall index { call with stage := .finished } with
    notifications := state.notifications ++ sent
    mLock := none
    mRoleSwitchLock := none }

def callStep : CallAction → Option State
  | .lockRoleSwitch => lockRoleSwitch state index call
  | .fopen opens => fopen state index call opens
  | .lockPartner => lockPartner state index call
  | .fputs succeeds => fputs state index call succeeds
  | .sleep => sleep state index call
  | .wake timedOut => wake state index call timedOut
  | .relock => relock state index call
  | .testPartner => testPartner state index call
  | .switchToDrp => switchToDrp state index call
  | .readBack text => readBack state index call text
  | .lockCallback => lockCallback state index call
  | .notify registered => notify state index call registered

end

/-! ## The worker -/

/-- `query` brings the statuses that `queryVersionHelper` has collected. -/
inductive WorkerAction where
  | receive
  | parse
  | query (currentPortStatus : List PortStatus)
  | trylock
  | restore
deriving DecidableEq

section
variable (state : State)

def receive : Option State :=
  match state.worker, state.uevents with
  | .waiting, uevent :: rest =>
      some { state with
        worker := .parsing uevent.seqnum uevent.fields
        uevents := rest }
  | _, _ => none

/-- The signal that goes with the flag wakes nobody who could not wake up anyway. -/
def partnerAdded (seqnum : ℕ) (portName : String) (rest : List Field) : Option State := do
  guard (state.mPartnerLock = none)
  return { state with
    mPartnerUp := true
    handled := state.handled ++ [{ portName := portName, seqnum := seqnum }]
    worker := .parsing seqnum rest }

def beginQuery : Option State := do
  guard (state.mLock = none)
  return { state with mLock := some .worker, worker := .querying }

def parse : Option State :=
  match state.worker with
  | .parsing _ [] => some { state with worker := .waiting }
  | .parsing seqnum (.partnerAdded portName :: rest) =>
      partnerAdded state seqnum portName rest
  | .parsing _ (.devtypeTypec :: _) => beginQuery state
  | .parsing seqnum (.other :: rest) => some { state with worker := .parsing seqnum rest }
  | _ => none

def query (currentPortStatus : List PortStatus) : Option State := do
  guard (state.worker = .querying)
  return { state with
    mLock := none
    worker := .trying (currentPortStatus.map PortStatus.portName) }

def trylock : Option State :=
  match state.worker with
  | .trying ports =>
      if state.mRoleSwitchLock = none then
        some { state with
          mRoleSwitchLock := some .worker
          seen := []
          worker := .restoring ports }
      else some { state with worker := .waiting }
  | _ => none

/-- One round of the loop over the ports, in two steps if it calls `switchToDrp`. -/
def restore : Option State :=
  match state.worker with
  | .restoring [] => some { state with mRoleSwitchLock := none, worker := .waiting }
  | .restoring (portName :: ports) =>
      if portName ∈ state.partners then some { state with worker := .restoring ports }
      else
        some { state with
          seen := portName :: state.seen
          worker := .reverting portName ports }
  | .reverting portName ports =>
      some { state with
        writes := state.writes ++ [drpWrite state .worker portName]
        worker := .restoring ports }
  | _ => none

def workerStep : WorkerAction → Option State
  | .receive => receive state
  | .parse => parse state
  | .query currentPortStatus => query state currentPortStatus
  | .trylock => trylock state
  | .restore => restore state

end

inductive Action where
  -- the kernel
  | emit (fields : List Field)
  | partnerDir (portName : String) (there : Bool)
  -- the service
  | switchRole (portName : String) (newRole : PortRole)
  | caller (index : ℕ) (action : CallAction)
  | worker (action : WorkerAction)
deriving DecidableEq

def emit (state : State) (fields : List Field) : State :=
  { state with
    uevents := state.uevents ++ [{ seqnum := state.emitted, fields := fields }]
    emitted := state.emitted + 1 }

def partnerDir (state : State) (portName : String) (there : Bool) : State :=
  { state with
    partners :=
      if there then portName :: state.partners
      else state.partners.filter fun other => other ≠ portName }

def step (state : State) : Action → Option State
  | .emit fields => some (emit state fields)
  | .partnerDir portName there => some (partnerDir state portName there)
  | .switchRole portName newRole => some (switchRole state portName newRole)
  | .caller index action => do
      let call ← state.calls[index]?
      callStep state index call action
  | .worker action => workerStep state action

end RoleSwitch
end Camellia.Usb

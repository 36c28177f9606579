import Camellia.Inevitable
import Camellia.Mutex
import Camellia.Usb.RoleSwitchLocks

/-!
# Role switches come to an end

The three mutexes are taken in one order: `mRoleSwitchLock` first, and `mPartnerLock` or
`mLock` under it.  So whoever has one of the inner two can go on, then whoever has
`mRoleSwitchLock`, then anybody.  Each thread has a bounded amount of work left, which
each of its steps lowers, unless a call is woken up in its wait for no reason.
-/

namespace Camellia.Usb
namespace RoleSwitch

open Transition Mutex

/-! ## The inner mutexes -/

def CallStage.holdsPartner : CallStage → Bool
  | .cleared | .waitAgain | .returned _ => true
  | _ => false

def CallStage.holdsCallback : CallStage → Bool
  | .notifying => true
  | _ => false

def WorkerStage.holdsCallback : WorkerStage → Bool
  | .querying => true
  | _ => false

def State.At (state : State) (place : CallStage → Bool) (workerPlace : WorkerStage → Bool) :
    Party → Prop
  | .call index => ∃ call, state.calls[index]? = some call ∧ place call.stage = true
  | .worker => workerPlace state.worker = true

structure State.Locks (state : State) : Prop where
  mPartnerLock :
    HeldBy state.mPartnerLock (state.At CallStage.holdsPartner fun _ => false)
  mLock :
    HeldBy state.mLock (state.At CallStage.holdsCallback WorkerStage.holdsCallback)

theorem locks_initial (partners : List String) : (State.initial partners).Locks where
  mPartnerLock := by
    intro party
    cases party <;> simp [State.initial, State.At]
  mLock := by
    intro party
    cases party <;> simp [State.initial, State.At, WorkerStage.holdsCallback]

/-! ## Work -/

/-- A call that is back from its wait without a time-out waits again if the flag is down. -/
def CallStage.work (mPartnerUp : Bool) : CallStage → ℕ
  | .entering => 15
  | .opening => 14
  | .locking => 13
  | .cleared => 12
  | .woken false => if mPartnerUp then 8 else 12
  | .returned false => if mPartnerUp then 7 else 11
  | .waitAgain => 10
  | .asleep => 9
  | .woken true => 8
  | .returned true => 7
  | .opened => 7
  | .fallingBack => 6
  | .written => 6
  | .settled => 3
  | .notifying => 2
  | .finished => 0

def WorkerStage.messages : WorkerStage → ℕ
  | .parsing _ fields => fields.length + 1
  | .querying => 1
  | _ => 0

def WorkerStage.ports : WorkerStage → ℕ
  | .trying ports => 2 * ports.length + 2
  | .restoring ports => 2 * ports.length + 1
  | .reverting _ ports => 2 * ports.length + 2
  | _ => 0

def State.messages (state : State) : ℕ :=
  (state.uevents.map fun uevent => uevent.fields.length + 2).sum + state.worker.messages

def State.callWork (state : State) (index : ℕ) : ℕ :=
  (state.calls[index]?).elim 0 fun call => call.stage.work state.mPartnerUp

/-- The ports that a query finds are not known before it, hence the two components. -/
def State.work (state : State) : ℕ ×ₗ ℕ :=
  toLex (state.messages,
    state.worker.ports + ∑ index ∈ Finset.range state.calls.length, state.callWork index)

/-- The steps of the threads, other than a wake-up without a signal or a time-out. -/
def Prompted (state : State) : Action → Prop
  | .caller _ (.wake false) => state.mPartnerUp = true
  | .caller _ _ => True
  | .worker _ => True
  | _ => False

structure State.AtRest (state : State) : Prop where
  calls : ∀ call ∈ state.calls, call.stage = .finished
  worker : state.worker = .waiting
  uevents : state.uevents = []
  mRoleSwitchLock : state.mRoleSwitchLock = none
  mPartnerLock : state.mPartnerLock = none
  mLock : state.mLock = none

theorem work_outside {stage : CallStage} (houtside : stage.holdsRoleSwitch = false)
    (before after : Bool) : stage.work before = stage.work after := by
  cases stage <;> first | rfl | cases houtside

/-! ## Turns -/

/-- `flag`: only a call under `mRoleSwitchLock` clears the flag. -/
structure CallTurn (state next : State) (index : ℕ) (call moved : Call)
    (prompted : Prop) : Prop where
  calls : next.calls = state.calls.set index moved
  worker : next.worker = state.worker
  uevents : next.uevents = state.uevents
  mPartnerLock : Turn state.mPartnerLock next.mPartnerLock (.call index)
    call.stage.holdsPartner moved.stage.holdsPartner
  mLock : Turn state.mLock next.mLock (.call index)
    call.stage.holdsCallback moved.stage.holdsCallback
  flag : next.mPartnerUp = state.mPartnerUp ∨ call.stage.holdsRoleSwitch = true
  work : prompted →
    moved.stage.work next.mPartnerUp < call.stage.work state.mPartnerUp

structure WorkerTurn (state next : State) : Prop where
  calls : next.calls = state.calls
  mPartnerLock : next.mPartnerLock = state.mPartnerLock
  mLock : Turn state.mLock next.mLock .worker
    state.worker.holdsCallback next.worker.holdsCallback
  work : next.messages < state.messages ∨
    (next.messages = state.messages ∧ next.mPartnerUp = state.mPartnerUp ∧
      next.worker.ports < state.worker.ports)

/-- From one place to the next the call keeps the inner mutexes it has. -/
def CallStage.StepsTo (stage next : CallStage) : Prop :=
  next.holdsPartner = stage.holdsPartner ∧ next.holdsCallback = stage.holdsCallback ∧
    ∀ mPartnerUp, next.work mPartnerUp < stage.work mPartnerUp

instance (stage next : CallStage) : Decidable (stage.StepsTo next) :=
  inferInstanceAs (Decidable (_ ∧ _ ∧ _))

section
variable {state next : State} {index : ℕ} {call moved : Call} {prompted : Prop}

theorem CallTurn.of_stages (stage later : CallStage) (hstage : call.stage = stage)
    (hmoved : moved.stage = later) (hcalls : next.calls = state.calls.set index moved)
    (hworker : next.worker = state.worker) (huevents : next.uevents = state.uevents)
    (hpartner : Turn state.mPartnerLock next.mPartnerLock (.call index)
      stage.holdsPartner later.holdsPartner)
    (hcallback : Turn state.mLock next.mLock (.call index)
      stage.holdsCallback later.holdsCallback)
    (hflag : next.mPartnerUp = state.mPartnerUp ∨ stage.holdsRoleSwitch = true)
    (hwork : prompted → later.work next.mPartnerUp < stage.work state.mPartnerUp) :
    CallTurn state next index call moved prompted := by
  subst hstage hmoved
  exact ⟨hcalls, hworker, huevents, hpartner, hcallback, hflag, hwork⟩

/-- From one place to the other the call keeps the inner mutexes that it has. -/
theorem CallTurn.plain (stage later : CallStage) (hstage : call.stage = stage)
    (hmoved : moved.stage = later) (hsteps : stage.StepsTo later)
    (hcalls : next.calls = state.calls.set index moved)
    (hworker : next.worker = state.worker) (huevents : next.uevents = state.uevents)
    (hpartner : next.mPartnerLock = state.mPartnerLock)
    (hcallback : next.mLock = state.mLock) (hflag : next.mPartnerUp = state.mPartnerUp) :
    CallTurn state next index call moved prompted := by
  obtain ⟨hsamePartner, hsameCallback, hwork⟩ := hsteps
  refine .of_stages stage later hstage hmoved hcalls hworker huevents
    (.keeps hpartner hsamePartner) (.keeps hcallback hsameCallback) (.inl hflag) fun _ => ?_
  rw [hflag]
  exact hwork _

theorem lockRoleSwitch_turn (hstep : lockRoleSwitch state index call = some next) :
    ∃ moved, CallTurn state next index call moved prompted := by
  obtain ⟨⟨hstage, _⟩, rfl⟩ := guarded_eq_some.mp hstep
  exact ⟨_, .plain .entering .opening hstage rfl (by decide) rfl rfl rfl rfl rfl rfl⟩

theorem fopen_turn {opens : Bool} (hstep : fopen state index call opens = some next) :
    ∃ moved, CallTurn state next index call moved prompted := by
  obtain ⟨hstage, rfl⟩ := guarded_eq_some.mp hstep
  have hsteps : CallStage.opening.StepsTo (afterOpen call opens).stage := by
    unfold afterOpen
    split
    · cases opens
      · exact (by decide : CallStage.opening.StepsTo .fallingBack)
      · exact (by decide : CallStage.opening.StepsTo .locking)
    · cases opens
      · exact (by decide : CallStage.opening.StepsTo .settled)
      · exact (by decide : CallStage.opening.StepsTo .opened)
  exact ⟨_, .plain .opening _ hstage rfl hsteps rfl rfl rfl rfl rfl rfl⟩

theorem lockPartner_turn (hstep : lockPartner state index call = some next) :
    ∃ moved, CallTurn state next index call moved prompted := by
  obtain ⟨⟨hstage, hfree⟩, rfl⟩ := guarded_eq_some.mp hstep
  exact ⟨_, .of_stages .locking .cleared hstage rfl rfl rfl rfl (.takes hfree rfl rfl rfl)
    (.keeps rfl rfl) (.inr rfl) fun _ => Nat.lt_succ_self 12⟩

theorem fputs_turn {succeeds : Bool}
    (hstep : fputs state index call succeeds = some next) :
    ∃ moved, CallTurn state next index call moved prompted := by
  unfold fputs at hstep
  split at hstep
  case h_1 hstage =>
    obtain rfl := Option.some.inj hstep
    cases succeeds with
    | true =>
        exact ⟨_, .plain .cleared .waitAgain hstage rfl (by decide) rfl rfl rfl rfl rfl rfl⟩
    | false =>
        have hwork : CallStage.work state.mPartnerUp .fallingBack < 12 := by
          simp [CallStage.work]
        exact ⟨_, .of_stages .cleared .fallingBack hstage rfl rfl rfl rfl
          (.releases rfl rfl rfl) (.keeps rfl rfl) (.inl rfl) fun _ => hwork⟩
  case h_2 hstage =>
    obtain rfl := Option.some.inj hstep
    cases succeeds with
    | true =>
        exact ⟨_, .plain .opened .written hstage rfl (by decide) rfl rfl rfl rfl rfl rfl⟩
    | false =>
        exact ⟨_, .plain .opened .settled hstage rfl (by decide) rfl rfl rfl rfl rfl rfl⟩
  case h_3 => contradiction

theorem sleep_turn (hstep : sleep state index call = some next) :
    ∃ moved, CallTurn state next index call moved prompted := by
  obtain ⟨hstage, rfl⟩ := guarded_eq_some.mp hstep
  exact ⟨_, .of_stages .waitAgain .asleep hstage rfl rfl rfl rfl (.releases rfl rfl rfl)
    (.keeps rfl rfl) (.inl rfl) fun _ => Nat.lt_succ_self 9⟩

theorem wake_turn {timedOut : Bool} (hstep : wake state index call timedOut = some next) :
    ∃ moved, CallTurn state next index call moved
      (Prompted state (.caller index (.wake timedOut))) := by
  obtain ⟨hstage, rfl⟩ := guarded_eq_some.mp hstep
  refine ⟨_, .of_stages .asleep (.woken timedOut) hstage rfl rfl rfl rfl (.keeps rfl rfl)
    (.keeps rfl rfl) (.inl rfl) fun hprompted => ?_⟩
  cases timedOut with
  | true => exact Nat.lt_succ_self 8
  | false =>
      have hup : state.mPartnerUp = true := hprompted
      simp [State.setCall, CallStage.work, hup]

theorem relock_turn (hstep : relock state index call = some next) :
    ∃ moved, CallTurn state next index call moved prompted := by
  unfold relock at hstep
  split at hstep
  case h_1 timedOut hstage hfree =>
    obtain rfl := Option.some.inj hstep
    have hwork : ∀ up, CallStage.work up (.returned timedOut) <
        CallStage.work up (.woken timedOut) := by
      cases timedOut <;> decide
    exact ⟨_, .of_stages (.woken timedOut) (.returned timedOut) hstage rfl rfl rfl rfl
      (.takes hfree rfl rfl rfl) (.keeps rfl rfl) (.inl rfl) fun _ => hwork _⟩
  case h_2 => contradiction

theorem testPartner_turn (hstep : testPartner state index call = some next) :
    ∃ moved, CallTurn state next index call moved prompted := by
  unfold testPartner at hstep
  split at hstep
  case h_1 hstage =>
    obtain rfl := Option.some.inj hstep
    exact ⟨_, .of_stages (.returned true) .fallingBack hstage rfl rfl rfl rfl
      (.releases rfl rfl rfl) (.keeps rfl rfl) (.inl rfl) fun _ => Nat.lt_succ_self 6⟩
  case h_2 hstage =>
    split at hstep
    case isTrue hdown =>
      have hflag : state.mPartnerUp = false := by simpa using hdown
      obtain rfl := Option.some.inj hstep
      refine ⟨_, .of_stages (.returned false) .waitAgain hstage rfl rfl rfl rfl
        (.keeps rfl rfl) (.keeps rfl rfl) (.inl rfl) fun _ => ?_⟩
      simp [CallStage.work, hflag]
    case isFalse hup =>
      have hflag : state.mPartnerUp = true := by simpa using hup
      obtain rfl := Option.some.inj hstep
      refine ⟨_, .of_stages (.returned false) .settled hstage rfl rfl rfl rfl
        (.releases rfl rfl rfl) (.keeps rfl rfl) (.inl rfl) fun _ => ?_⟩
      simp [CallStage.work, hflag]
  case h_3 => contradiction

theorem switchToDrp_turn (hstep : switchToDrp state index call = some next) :
    ∃ moved, CallTurn state next index call moved prompted := by
  obtain ⟨hstage, rfl⟩ := guarded_eq_some.mp hstep
  exact ⟨_, .plain .fallingBack .settled hstage rfl (by decide) rfl rfl rfl rfl rfl rfl⟩

theorem readBack_turn {text : Option String}
    (hstep : readBack state index call text = some next) :
    ∃ moved, CallTurn state next index call moved prompted := by
  obtain ⟨hstage, rfl⟩ := guarded_eq_some.mp hstep
  exact ⟨_, .plain .written .settled hstage rfl (by decide) rfl rfl rfl rfl rfl rfl⟩

theorem lockCallback_turn (hstep : lockCallback state index call = some next) :
    ∃ moved, CallTurn state next index call moved prompted := by
  obtain ⟨⟨hstage, hfree⟩, rfl⟩ := guarded_eq_some.mp hstep
  exact ⟨_, .of_stages .settled .notifying hstage rfl rfl rfl rfl (.keeps rfl rfl)
    (.takes hfree rfl rfl rfl) (.inl rfl) fun _ => Nat.lt_succ_self 2⟩

theorem notify_turn {registered : Bool}
    (hstep : notify state index call registered = some next) :
    ∃ moved, CallTurn state next index call moved prompted := by
  obtain ⟨hstage, rfl⟩ := guarded_eq_some.mp hstep
  exact ⟨_, .of_stages .notifying .finished hstage rfl rfl rfl rfl (.keeps rfl rfl)
    (.releases rfl rfl rfl) (.inl rfl) fun _ => Nat.succ_pos 1⟩

theorem callStep_turn {action : CallAction}
    (hstep : callStep state index call action = some next) :
    ∃ moved, CallTurn state next index call moved
      (Prompted state (.caller index action)) := by
  cases action with
  | lockRoleSwitch => exact lockRoleSwitch_turn hstep
  | fopen opens => exact fopen_turn hstep
  | lockPartner => exact lockPartner_turn hstep
  | fputs succeeds => exact fputs_turn hstep
  | sleep => exact sleep_turn hstep
  | wake timedOut => exact wake_turn hstep
  | relock => exact relock_turn hstep
  | testPartner => exact testPartner_turn hstep
  | switchToDrp => exact switchToDrp_turn hstep
  | readBack text => exact readBack_turn hstep
  | lockCallback => exact lockCallback_turn hstep
  | notify registered => exact notify_turn hstep

theorem partnerAdded_turn {seqnum : ℕ} {portName : String} {rest : List Field}
    (hworker : state.worker = .parsing seqnum (.partnerAdded portName :: rest))
    (hstep : partnerAdded state seqnum portName rest = some next) :
    WorkerTurn state next := by
  obtain ⟨_, rfl⟩ := guarded_eq_some.mp hstep
  refine ⟨rfl, rfl, .keeps rfl (by rw [hworker]; rfl), .inl ?_⟩
  simp [State.messages, hworker, WorkerStage.messages]

theorem receive_turn (hstep : receive state = some next) : WorkerTurn state next := by
  unfold receive at hstep
  split at hstep
  case h_1 uevent rest hworker huevents =>
    obtain rfl := Option.some.inj hstep
    refine ⟨rfl, rfl, .keeps rfl (by rw [hworker]; rfl), .inl ?_⟩
    simp [State.messages, hworker, huevents, WorkerStage.messages]
    omega
  case h_2 => contradiction

theorem parse_turn (hstep : parse state = some next) : WorkerTurn state next := by
  unfold parse at hstep
  split at hstep
  case h_1 seqnum hworker =>
    obtain rfl := Option.some.inj hstep
    refine ⟨rfl, rfl, .keeps rfl (by rw [hworker]; rfl), .inl ?_⟩
    simp [State.messages, hworker, WorkerStage.messages]
  case h_2 seqnum portName rest hworker => exact partnerAdded_turn hworker hstep
  case h_3 seqnum rest hworker =>
    obtain ⟨hfree, rfl⟩ := guarded_eq_some.mp hstep
    refine ⟨rfl, rfl, .takes hfree rfl (by rw [hworker]; rfl) rfl, .inl ?_⟩
    simp [State.messages, hworker, WorkerStage.messages]
  case h_4 seqnum rest hworker =>
    obtain rfl := Option.some.inj hstep
    refine ⟨rfl, rfl, .keeps rfl (by rw [hworker]; rfl), .inl ?_⟩
    simp [State.messages, hworker, WorkerStage.messages]
  case h_5 => contradiction

theorem query_turn {currentPortStatus : List PortStatus}
    (hstep : query state currentPortStatus = some next) : WorkerTurn state next := by
  obtain ⟨hworker, rfl⟩ := guarded_eq_some.mp hstep
  refine ⟨rfl, rfl, .releases rfl (by rw [hworker]; rfl) rfl, .inl ?_⟩
  simp [State.messages, hworker, WorkerStage.messages]

/-- In the loop over the ports no message gets shorter; the loop does. -/
theorem WorkerTurn.loop {worker later : WorkerStage} (hworker : state.worker = worker)
    (hlater : next.worker = later) (hcalls : next.calls = state.calls)
    (huevents : next.uevents = state.uevents)
    (hpartner : next.mPartnerLock = state.mPartnerLock)
    (hcallback : next.mLock = state.mLock) (hflag : next.mPartnerUp = state.mPartnerUp)
    (hholds : later.holdsCallback = worker.holdsCallback)
    (hmessages : later.messages = worker.messages) (hports : later.ports < worker.ports) :
    WorkerTurn state next := by
  subst hworker hlater
  refine ⟨hcalls, hpartner, .keeps hcallback hholds, .inr ⟨?_, hflag, hports⟩⟩
  rw [State.messages, State.messages, huevents, hmessages]

theorem trylock_turn (hstep : trylock state = some next) : WorkerTurn state next := by
  unfold trylock at hstep
  split at hstep
  case h_1 ports hworker =>
    split at hstep
    case isTrue =>
      obtain rfl := Option.some.inj hstep
      exact .loop hworker rfl rfl rfl rfl rfl rfl rfl rfl (Nat.lt_succ_self _)
    case isFalse =>
      obtain rfl := Option.some.inj hstep
      exact .loop hworker rfl rfl rfl rfl rfl rfl rfl rfl (Nat.succ_pos _)
  case h_2 => contradiction

theorem restore_turn (hstep : restore state = some next) : WorkerTurn state next := by
  unfold restore at hstep
  split at hstep
  case h_1 hworker =>
    obtain rfl := Option.some.inj hstep
    exact .loop hworker rfl rfl rfl rfl rfl rfl rfl rfl (Nat.succ_pos _)
  case h_2 portName ports hworker =>
    split at hstep
    case isTrue =>
      obtain rfl := Option.some.inj hstep
      refine .loop hworker rfl rfl rfl rfl rfl rfl rfl rfl ?_
      simp [WorkerStage.ports]
    case isFalse =>
      obtain rfl := Option.some.inj hstep
      refine .loop hworker rfl rfl rfl rfl rfl rfl rfl rfl ?_
      simp [WorkerStage.ports]
      omega
  case h_3 portName ports hworker =>
    obtain rfl := Option.some.inj hstep
    exact .loop hworker rfl rfl rfl rfl rfl rfl rfl rfl (Nat.lt_succ_self _)
  case h_4 => contradiction

theorem workerStep_turn {action : WorkerAction} (hstep : workerStep state action = some next) :
    WorkerTurn state next := by
  cases action with
  | receive => exact receive_turn hstep
  | parse => exact parse_turn hstep
  | query currentPortStatus => exact query_turn hstep
  | trylock => exact trylock_turn hstep
  | restore => exact restore_turn hstep

/-! ## The mutexes are kept right -/

theorem at_call {place : CallStage → Bool} {workerPlace : WorkerStage → Bool}
    (hcall : state.calls[index]? = some call) :
    state.At place workerPlace (.call index) ↔ place call.stage = true := by
  simp [State.At, hcall]

/-- Only the place of the call that takes the step changes. -/
theorem CallTurn.at_other (hturn : CallTurn state next index call moved prompted)
    (place : CallStage → Bool) (workerPlace : WorkerStage → Bool) (party : Party)
    (hother : party ≠ .call index) :
    next.At place workerPlace party ↔ state.At place workerPlace party := by
  cases party with
  | call other =>
      have hindex : index ≠ other := fun hsame => hother (hsame ▸ rfl)
      simp only [State.At, hturn.calls, List.getElem?_set_ne hindex]
  | worker => simp only [State.At, hturn.worker]

theorem CallTurn.get_moved (hturn : CallTurn state next index call moved prompted)
    (hcall : state.calls[index]? = some call) : next.calls[index]? = some moved := by
  rw [hturn.calls, List.getElem?_set_self (List.getElem?_eq_some_iff.mp hcall).1]

theorem State.Locks.callTurn (hlocks : state.Locks)
    (hcall : state.calls[index]? = some call)
    (hturn : CallTurn state next index call moved prompted) : next.Locks where
  mPartnerLock := hlocks.mPartnerLock.turn hturn.mPartnerLock (at_call hcall)
    (at_call (hturn.get_moved hcall)) (hturn.at_other _ _)
  mLock := hlocks.mLock.turn hturn.mLock (at_call hcall)
    (at_call (hturn.get_moved hcall)) (hturn.at_other _ _)

theorem State.Locks.workerTurn (hlocks : state.Locks) (hturn : WorkerTurn state next) :
    next.Locks where
  mPartnerLock := by
    rw [hturn.mPartnerLock]
    refine hlocks.mPartnerLock.congr fun party => ?_
    cases party with
    | call index => simp only [State.At, hturn.calls]
    | worker => exact Iff.rfl
  mLock := by
    refine hlocks.mLock.turn hturn.mLock Iff.rfl Iff.rfl fun party hother => ?_
    cases party with
    | call index => simp only [State.At, hturn.calls]
    | worker => contradiction

/-- A new call has come to none of the places that a mutex guards. -/
theorem switchRole_at (state : State) (portName : String) (newRole : PortRole)
    {place : CallStage → Bool} (workerPlace : WorkerStage → Bool)
    (hentering : place .entering = false) (hfinished : place .finished = false)
    (party : Party) :
    (switchRole state portName newRole).At place workerPlace party ↔
      state.At place workerPlace party := by
  cases party with
  | call index =>
      simp only [State.At, switchRole, List.getElem?_append]
      split
      case isTrue => exact Iff.rfl
      case isFalse hlength =>
        rw [List.getElem?_eq_none (Nat.le_of_not_lt hlength)]
        refine iff_of_false ?_ ?_
        · rintro ⟨call, hcall, hplace⟩
          obtain ⟨_, rfl⟩ := List.getElem?_eq_some_iff.mp hcall
          rw [List.getElem_singleton] at hplace
          split at hplace
          · rw [hfinished] at hplace
            contradiction
          · rw [hentering] at hplace
            contradiction
        · rintro ⟨_, hnone, _⟩
          contradiction
  | worker => exact Iff.rfl

theorem State.Locks.step (hlocks : state.Locks) {action : Action}
    (hstep : step state action = some next) : next.Locks := by
  cases action with
  | emit fields =>
      obtain rfl := Option.some.inj hstep
      exact ⟨hlocks.mPartnerLock, hlocks.mLock⟩
  | partnerDir portName there =>
      obtain rfl := Option.some.inj hstep
      exact ⟨hlocks.mPartnerLock, hlocks.mLock⟩
  | switchRole portName newRole =>
      obtain rfl := Option.some.inj hstep
      exact ⟨hlocks.mPartnerLock.congr (switchRole_at state portName newRole _ rfl rfl),
        hlocks.mLock.congr (switchRole_at state portName newRole _ rfl rfl)⟩
  | caller index action =>
      obtain ⟨call, hcall, hcallStep⟩ := caller_cases hstep
      obtain ⟨moved, hturn⟩ := callStep_turn hcallStep
      exact hlocks.callTurn hcall hturn
  | worker action => exact hlocks.workerTurn (workerStep_turn hstep)

/-! ## The work gets less -/

/-- Whether the flag is up matters to the call under `mRoleSwitchLock` only. -/
theorem State.Invariant.callWork_other (hinv : state.Invariant)
    (hcall : state.calls[index]? = some call)
    (hturn : CallTurn state next index call moved prompted) {other : ℕ}
    (hother : index ≠ other) : next.callWork other = state.callWork other := by
  rw [State.callWork, State.callWork, hturn.calls, List.getElem?_set_ne hother]
  rcases hturn.flag with hsame | hholds
  · rw [hsame]
  · cases hfound : state.calls[other]? with
    | none => rfl
    | some found =>
        have houtside : found.stage.holdsRoleSwitch = false := by
          rw [Bool.eq_false_iff, Ne, (hinv.calls other found hfound).holds,
            (hinv.calls index call hcall).holds.mp hholds]
          exact fun hsame => hother (Party.call.inj (Option.some.inj hsame))
        exact work_outside houtside _ _

theorem State.Invariant.work_callTurn (hinv : state.Invariant)
    (hcall : state.calls[index]? = some call)
    (hturn : CallTurn state next index call moved prompted) (hprompted : prompted) :
    next.work < state.work := by
  have hlength : index < state.calls.length := (List.getElem?_eq_some_iff.mp hcall).1
  have hone : next.callWork index < state.callWork index := by
    rw [State.callWork, State.callWork, hturn.get_moved hcall, hcall]
    exact hturn.work hprompted
  have hsum : ∑ other ∈ Finset.range state.calls.length, next.callWork other <
      ∑ other ∈ Finset.range state.calls.length, state.callWork other := by
    refine Finset.sum_lt_sum (fun other _ => ?_) ⟨index, Finset.mem_range.mpr hlength, hone⟩
    by_cases hother : index = other
    · subst other
      exact hone.le
    · exact (hinv.callWork_other hcall hturn hother).le
  rw [State.work, State.work, State.messages, hturn.worker, hturn.uevents, hturn.calls,
    List.length_set, Prod.Lex.toLex_lt_toLex]
  exact .inr ⟨rfl, Nat.add_lt_add_left hsum _⟩

theorem WorkerTurn.work_lt (hturn : WorkerTurn state next) : next.work < state.work := by
  rw [State.work, State.work, Prod.Lex.toLex_lt_toLex]
  rcases hturn.work with hmessages | ⟨hmessages, hflag, hports⟩
  · exact .inl hmessages
  · have hcalls : next.callWork = state.callWork := by
      funext index
      rw [State.callWork, State.callWork, hturn.calls, hflag]
    rw [hcalls, hturn.calls]
    exact .inr ⟨hmessages, Nat.add_lt_add_right hports _⟩

theorem State.Invariant.work_lt (hinv : state.Invariant) {action : Action}
    (hprompted : Prompted state action)
    (hstep : RoleSwitch.step state action = some next) : next.work < state.work := by
  cases action with
  | emit fields => contradiction
  | partnerDir portName there => contradiction
  | switchRole portName newRole => contradiction
  | caller index action =>
      obtain ⟨call, hcall, hcallStep⟩ := caller_cases hstep
      obtain ⟨moved, hturn⟩ := callStep_turn hcallStep
      exact hinv.work_callTurn hcall hturn hprompted
  | worker action => exact (workerStep_turn hstep).work_lt

/-! ## Somebody can go on -/

/-- A thread has a step that it can take. -/
def State.CanMove (state : State) : Prop :=
  ∃ action next, Prompted state action ∧ RoleSwitch.step state action = some next

theorem canMove_call (hcall : state.calls[index]? = some call) (action : CallAction)
    (hprompted : Prompted state (.caller index action))
    (hstep : callStep state index call action = some next) : state.CanMove := by
  refine ⟨.caller index action, next, hprompted, ?_⟩
  rw [RoleSwitch.step, hcall]
  exact hstep

theorem canMove_worker (action : WorkerAction) (hstep : workerStep state action = some next) :
    state.CanMove :=
  ⟨.worker action, next, trivial, hstep⟩

theorem canMove_returned (hcall : state.calls[index]? = some call) {timedOut : Bool}
    (hstage : call.stage = .returned timedOut) : state.CanMove := by
  have hsome : ∃ next, testPartner state index call = some next := by
    rw [testPartner, hstage]
    cases timedOut
    · cases state.mPartnerUp
      · exact ⟨_, rfl⟩
      · exact ⟨_, rfl⟩
    · exact ⟨_, rfl⟩
  obtain ⟨next, hstep⟩ := hsome
  exact canMove_call hcall .testPartner trivial hstep

/-- A call that has not returned goes on as soon as the mutex that it needs is free. -/
theorem canMove_of_call (hcall : state.calls[index]? = some call)
    (hunfinished : call.stage ≠ .finished)
    (hentering : call.stage = .entering → state.mRoleSwitchLock = none)
    (hpartner : call.stage.holdsPartner = false → state.mPartnerLock = none)
    (hcallback : call.stage = .settled → state.mLock = none) : state.CanMove := by
  cases hstage : call.stage with
  | entering =>
      exact canMove_call hcall .lockRoleSwitch trivial
        (guarded_eq_some.mpr ⟨⟨hstage, hentering hstage⟩, rfl⟩)
  | opening => exact canMove_call hcall (.fopen true) trivial (guarded_eq_some.mpr ⟨hstage, rfl⟩)
  | locking =>
      have hfree : state.mPartnerLock = none := hpartner (by rw [hstage]; rfl)
      exact canMove_call hcall .lockPartner trivial
        (guarded_eq_some.mpr ⟨⟨hstage, hfree⟩, rfl⟩)
  | cleared =>
      have hstep : fputs state index call true = some (writeMode state index call true) := by
        rw [fputs, hstage]
      exact canMove_call hcall (.fputs true) trivial hstep
  | waitAgain => exact canMove_call hcall .sleep trivial (guarded_eq_some.mpr ⟨hstage, rfl⟩)
  | asleep =>
      exact canMove_call hcall (.wake true) trivial (guarded_eq_some.mpr ⟨hstage, rfl⟩)
  | woken timedOut =>
      have hfree : state.mPartnerLock = none := hpartner (by rw [hstage]; rfl)
      have hsome : (relock state index call).isSome := by
        rw [relock, hstage, hfree]
        rfl
      exact canMove_call hcall .relock trivial (Option.some_get hsome).symm
  | returned timedOut => exact canMove_returned hcall hstage
  | fallingBack =>
      exact canMove_call hcall .switchToDrp trivial (guarded_eq_some.mpr ⟨hstage, rfl⟩)
  | opened =>
      have hstep : fputs state index call true = some (writeRole state index call true) := by
        rw [fputs, hstage]
      exact canMove_call hcall (.fputs true) trivial hstep
  | written =>
      exact canMove_call hcall (.readBack none) trivial (guarded_eq_some.mpr ⟨hstage, rfl⟩)
  | settled =>
      exact canMove_call hcall .lockCallback trivial
        (guarded_eq_some.mpr ⟨⟨hstage, hcallback hstage⟩, rfl⟩)
  | notifying =>
      exact canMove_call hcall (.notify true) trivial (guarded_eq_some.mpr ⟨hstage, rfl⟩)
  | finished => contradiction

/-- Whoever has `mPartnerLock` can go on. -/
theorem State.Locks.canMove_of_partner (hlocks : state.Locks) {party : Party}
    (hlock : state.mPartnerLock = some party) : state.CanMove := by
  have hplace := (hlocks.mPartnerLock party).mp hlock
  cases party with
  | worker => contradiction
  | call index =>
      obtain ⟨call, hcall, hholds⟩ := hplace
      have hother : ∀ stage : CallStage, stage.holdsPartner = false → call.stage ≠ stage := by
        rintro stage hstage rfl
        rw [hstage] at hholds
        contradiction
      refine canMove_of_call hcall (hother .finished rfl)
        (fun hentering => absurd hentering (hother .entering rfl)) (fun hfalse => ?_)
        (fun hsettled => absurd hsettled (hother .settled rfl))
      rw [hfalse] at hholds
      contradiction

/-- Whoever has `mLock` can go on. -/
theorem State.Locks.canMove_of_callback (hlocks : state.Locks) {party : Party}
    (hlock : state.mLock = some party) : state.CanMove := by
  have hplace := (hlocks.mLock party).mp hlock
  cases party with
  | worker =>
      have hworker : state.worker = .querying := by
        cases hworker : state.worker <;> simp [State.At, hworker, WorkerStage.holdsCallback]
          at hplace ⊢
      exact canMove_worker (.query []) (guarded_eq_some.mpr ⟨hworker, rfl⟩)
  | call index =>
      obtain ⟨call, hcall, hholds⟩ := hplace
      have hstage : call.stage = .notifying := by
        cases hstage : call.stage <;> simp [hstage, CallStage.holdsCallback] at hholds ⊢
      exact canMove_call hcall (.notify true) trivial (guarded_eq_some.mpr ⟨hstage, rfl⟩)

/-- With the inner mutexes free, the worker stands still in `epoll_wait` only. -/
theorem canMove_of_worker (hpartner : state.mPartnerLock = none)
    (hcallback : state.mLock = none) (hbusy : state.worker ≠ .waiting) :
    state.CanMove := by
  cases hworker : state.worker with
  | waiting => contradiction
  | parsing seqnum fields =>
      have hsome : (parse state).isSome := by
        rw [parse, hworker]
        cases fields with
        | nil => rfl
        | cons field rest =>
            cases field with
            | partnerAdded portName => simp [partnerAdded, hpartner]
            | devtypeTypec => simp [beginQuery, hcallback]
            | other => rfl
      exact canMove_worker .parse (Option.some_get hsome).symm
  | querying => exact canMove_worker (.query []) (guarded_eq_some.mpr ⟨hworker, rfl⟩)
  | trying ports =>
      have hsome : (trylock state).isSome := by
        rw [trylock, hworker]
        dsimp only
        split <;> rfl
      exact canMove_worker .trylock (Option.some_get hsome).symm
  | restoring ports =>
      have hsome : (restore state).isSome := by
        rw [restore, hworker]
        cases ports with
        | nil => rfl
        | cons portName rest =>
            dsimp only
            split <;> rfl
      exact canMove_worker .restore (Option.some_get hsome).symm
  | reverting portName ports =>
      have hsome : (restore state).isSome := by
        rw [restore, hworker]
        rfl
      exact canMove_worker .restore (Option.some_get hsome).symm

/-- Whoever has `mRoleSwitchLock` can go on once the inner mutexes are free. -/
theorem State.Invariant.canMove_of_roleSwitch (hinv : state.Invariant) {party : Party}
    (hlock : state.mRoleSwitchLock = some party) (hpartner : state.mPartnerLock = none)
    (hcallback : state.mLock = none) : state.CanMove := by
  cases party with
  | worker =>
      have hholds := hinv.worker.mpr hlock
      refine canMove_of_worker hpartner hcallback fun hwaiting => ?_
      rw [hwaiting] at hholds
      contradiction
  | call index =>
      have hlength := hinv.owner index hlock
      have hcall := List.getElem?_eq_getElem hlength
      have hholds := (hinv.calls index _ hcall).holds.mpr hlock
      refine canMove_of_call hcall (fun hfinished => ?_) (fun hentering => ?_)
        (fun _ => hpartner) (fun _ => hcallback)
      · rw [hfinished] at hholds
        contradiction
      · rw [hentering] at hholds
        contradiction

/-- The mutexes are asked for in the order in which their owners can go on. -/
theorem canMove (hinv : state.Invariant) (hlocks : state.Locks)
    (hbusy : ¬ state.AtRest) : state.CanMove := by
  cases hpartner : state.mPartnerLock with
  | some party => exact hlocks.canMove_of_partner hpartner
  | none =>
  cases hcallback : state.mLock with
  | some party => exact hlocks.canMove_of_callback hcallback
  | none =>
  cases hroleSwitch : state.mRoleSwitchLock with
  | some party => exact hinv.canMove_of_roleSwitch hroleSwitch hpartner hcallback
  | none =>
  by_cases hworker : state.worker = .waiting
  case neg => exact canMove_of_worker hpartner hcallback hworker
  cases huevents : state.uevents with
  | cons uevent rest =>
      have hsome : (receive state).isSome := by
        rw [receive, hworker, huevents]
        rfl
      exact canMove_worker .receive (Option.some_get hsome).symm
  | nil =>
      by_cases hcalls : ∀ call ∈ state.calls, call.stage = .finished
      · exact absurd ⟨hcalls, hworker, huevents, hroleSwitch, hpartner, hcallback⟩ hbusy
      · push Not at hcalls
        obtain ⟨call, hmem, hunfinished⟩ := hcalls
        obtain ⟨index, hcall⟩ := List.getElem?_of_mem hmem
        exact canMove_of_call hcall hunfinished (fun _ => hroleSwitch) (fun _ => hpartner)
          (fun _ => hcallback)

end

/-- From every state of every run the threads, in whatever order they take their steps,
finish all calls and handle all uevents, and end with the three mutexes free. -/
theorem role_switches_come_to_rest (partners : List String) (actions : List Action) :
    EveryState step (Inevitable step Prompted State.AtRest) (.initial partners) actions := by
  have hinvariant : EveryState step (fun state => state.Invariant ∧ state.Locks)
      (.initial partners) actions :=
    EveryState.of_invariant
      (fun _ _ _ ⟨hinv, hlocks⟩ hstep => ⟨hinv.step hstep, hlocks.step hstep⟩)
      ⟨invariant_initial partners, locks_initial partners⟩ actions
  refine hinvariant.imp (Inevitable.of_rank State.work ?_ ?_ ?_)
  · exact fun _ _ _ ⟨hinv, hlocks⟩ _ hstep => ⟨hinv.step hstep, hlocks.step hstep⟩
  · exact fun _ _ _ ⟨hinv, _⟩ hprompted hstep => hinv.work_lt hprompted hstep
  · exact fun _ ⟨hinv, hlocks⟩ hbusy => canMove hinv hlocks hbusy

end RoleSwitch
end Camellia.Usb

import Camellia.Usb.RoleSwitch

/-!
# Who writes the role nodes

The invariant of the system of role switches says where a thread can be while another
has `mRoleSwitchLock`.  It is stated for one call at a time: a call that is not under
the mutex is untouched by what happens to the flag and to the nodes, so that each step
has to be looked at for the thread that takes it only.
-/

namespace Camellia.Usb
namespace RoleSwitch

open Transition

/-! ## Places -/

def CallStage.holdsRoleSwitch : CallStage → Bool
  | .entering | .finished => false
  | _ => true

/-- Between the write and the verdict, if there has been a write. -/
def CallStage.committed : CallStage → Bool
  | .waitAgain | .asleep | .woken _ | .returned _ | .fallingBack | .written => true
  | _ => false

def CallStage.beforeWrite : CallStage → Bool
  | .entering | .opening | .locking | .cleared | .opened => true
  | _ => false

/-- Between the write and the end of the wait. -/
def CallStage.waits : CallStage → Bool
  | .waitAgain | .asleep | .woken _ | .returned _ => true
  | _ => false

def CallStage.flagged (stage : CallStage) : Bool := stage = .cleared || stage.waits

def WorkerStage.holdsRoleSwitch : WorkerStage → Bool
  | .restoring _ | .reverting _ _ => true
  | _ => false

/-- While a call is between its write and its verdict, nobody else writes; and the worker
writes under `mRoleSwitchLock` only, to ports it has seen under it without a partner. -/
structure State.Exclusive (state : State) : Prop where
  calls : ∀ index call mark, state.calls[index]? = some call →
    call.stage.committed = true → call.mark = some mark →
    ∀ write ∈ state.writes.drop mark, write.writer = .call index
  worker : ∀ write ∈ state.writes, write.writer = .worker →
    write.locked = true ∧ write.unpartnered = true

/-! ## Invariant -/

structure Call.Ok (state : State) (index : ℕ) (call : Call) : Prop where
  holds : call.stage.holdsRoleSwitch = true ↔ state.mRoleSwitchLock = some (.call index)
  own : call.stage.committed = true → ∀ mark, call.mark = some mark →
    mark ≤ state.writes.length ∧ ∀ write ∈ state.writes.drop mark, write.writer = .call index
  unwritten : call.stage.beforeWrite = true →
    call.verdict = none ∧ call.writtenAt = none ∧ call.mark = none
  flag : call.stage.flagged = true → call.clearedAt ≤ state.handled.length ∧
    (state.mPartnerUp = true ↔ call.clearedAt < state.handled.length)
  stale : call.stage.waits = true → ∃ emitted, call.writtenAt = some emitted ∧
    ∀ arrival ∈ state.handled.take call.clearedAt, arrival.seqnum < emitted

structure State.Invariant (state : State) : Prop where
  calls : ∀ index (call : Call), state.calls[index]? = some call → call.Ok state index
  owner : ∀ index, state.mRoleSwitchLock = some (.call index) → index < state.calls.length
  worker : state.worker.holdsRoleSwitch = true ↔ state.mRoleSwitchLock = some .worker
  seen : ∀ portName ports, state.worker = .reverting portName ports → portName ∈ state.seen
  writes : ∀ write ∈ state.writes, write.writer = .worker →
    write.locked = true ∧ write.unpartnered = true
  uevents : ∀ uevent ∈ state.uevents, uevent.seqnum < state.emitted
  parsing : ∀ seqnum fields, state.worker = .parsing seqnum fields → seqnum < state.emitted
  handled : ∀ arrival ∈ state.handled, arrival.seqnum < state.emitted

theorem invariant_initial (partners : List String) : (State.initial partners).Invariant where
  calls := fun _ _ hcall => by cases hcall
  owner := fun _ hlock => by cases hlock
  worker := by simp [State.initial, WorkerStage.holdsRoleSwitch]
  seen := fun _ _ hworker => by cases hworker
  writes := fun _ hmem => absurd hmem List.not_mem_nil
  uevents := fun _ hmem => absurd hmem List.not_mem_nil
  parsing := fun _ _ hworker => by cases hworker
  handled := fun _ hmem => absurd hmem List.not_mem_nil

theorem State.Invariant.exclusive {state : State} (hinv : state.Invariant) :
    state.Exclusive where
  calls := fun index call mark hcall hcommitted hmark =>
    (((hinv.calls index call hcall).own hcommitted) mark hmark).2
  worker := hinv.writes

/-! ## Steps of a call -/

theorem committed_holds {stage : CallStage} (hcommitted : stage.committed = true) :
    stage.holdsRoleSwitch = true := by
  cases stage <;> first | rfl | cases hcommitted

theorem flagged_holds {stage : CallStage} (hflagged : stage.flagged = true) :
    stage.holdsRoleSwitch = true := by
  cases stage <;> first | rfl | cases hflagged

theorem waits_flagged {stage : CallStage} (hwaits : stage.waits = true) :
    stage.flagged = true := by
  rw [CallStage.flagged, hwaits, Bool.or_true]

/-- A call that is not under the mutex does not depend on the rest. -/
theorem Call.Ok.outside {state next : State} {index : ℕ} {call : Call}
    (hok : call.Ok state index) (houtside : call.stage.holdsRoleSwitch = false)
    (hlock : next.mRoleSwitchLock ≠ some (.call index)) : call.Ok next index where
  holds := by
    rw [houtside]
    exact iff_of_false Bool.false_ne_true hlock
  own := fun hcommitted => by
    rw [committed_holds hcommitted] at houtside
    contradiction
  unwritten := hok.unwritten
  flag := fun hflagged => by
    rw [flagged_holds hflagged] at houtside
    contradiction
  stale := fun hwaits => by
    rw [flagged_holds (waits_flagged hwaits)] at houtside
    contradiction

/-- What a step of one call does to the rest of the system. -/
structure CallMoves (state next : State) (index : ℕ) (moved : Call) : Prop where
  calls : next.calls = state.calls.set index moved
  before : ∀ party, state.mRoleSwitchLock = some party → party = .call index
  after : ∀ party, next.mRoleSwitchLock = some party → party = .call index
  worker : next.worker = state.worker
  uevents : next.uevents = state.uevents
  emitted : next.emitted = state.emitted
  handled : next.handled = state.handled
  seen : next.seen = state.seen
  writes : ∀ write ∈ next.writes, write ∈ state.writes ∨ write.writer = .call index

theorem State.Invariant.callMoves {state next : State} {index : ℕ} {call moved : Call}
    (hinv : state.Invariant) (hcall : state.calls[index]? = some call)
    (hmoves : CallMoves state next index moved) (hok : moved.Ok next index) :
    next.Invariant where
  calls := by
    intro other found hfound
    rw [hmoves.calls, List.getElem?_set] at hfound
    split at hfound
    case isTrue hsame =>
      subst other
      split at hfound
      · cases hfound
        exact hok
      · cases hfound
    case isFalse hother =>
      have hold := hinv.calls other found hfound
      have hnext : next.mRoleSwitchLock ≠ some (.call other) := fun hlock =>
        hother (Party.call.inj (hmoves.after _ hlock)).symm
      refine hold.outside ?_ hnext
      rw [Bool.eq_false_iff, Ne, hold.holds]
      exact fun hlock => hother (Party.call.inj (hmoves.before _ hlock)).symm
  owner := by
    intro other hlock
    rw [Party.call.inj (hmoves.after _ hlock), hmoves.calls, List.length_set]
    exact (List.getElem?_eq_some_iff.mp hcall).1
  worker := by
    rw [hmoves.worker, hinv.worker]
    refine iff_of_false (fun hlock => ?_) (fun hlock => ?_)
    · cases hmoves.before _ hlock
    · cases hmoves.after _ hlock
  seen := by
    rw [hmoves.worker, hmoves.seen]
    exact hinv.seen
  writes := by
    intro write hmem hworker
    rcases hmoves.writes write hmem with hold | hown
    · exact hinv.writes write hold hworker
    · rw [hown] at hworker
      cases hworker
  uevents := by
    rw [hmoves.uevents, hmoves.emitted]
    exact hinv.uevents
  parsing := by
    rw [hmoves.worker, hmoves.emitted]
    exact hinv.parsing
  handled := by
    rw [hmoves.handled, hmoves.emitted]
    exact hinv.handled

/-- What a call looks at has not changed. -/
structure Quiet (state next : State) : Prop where
  mRoleSwitchLock : next.mRoleSwitchLock = state.mRoleSwitchLock
  mPartnerUp : next.mPartnerUp = state.mPartnerUp
  handled : next.handled = state.handled
  writes : next.writes = state.writes

/-- Going from one place to the other, a call owes nothing new. -/
def CallStage.LeadsTo (stage next : CallStage) : Prop :=
  next.holdsRoleSwitch = stage.holdsRoleSwitch ∧
    (next.committed = true → stage.committed = true ∨ stage.beforeWrite = true) ∧
    (next.beforeWrite = true → stage.beforeWrite = true) ∧
    (next.flagged = true → stage.flagged = true) ∧
    (next.waits = true → stage.waits = true)

instance (stage next : CallStage) : Decidable (stage.LeadsTo next) :=
  inferInstanceAs (Decidable (_ ∧ _ ∧ _ ∧ _ ∧ _))

/-- The call has come further, and nothing that its invariant speaks about has changed. -/
structure Call.Advances (call moved : Call) : Prop where
  stage : call.stage.LeadsTo moved.stage
  verdict : moved.stage.beforeWrite = true → moved.verdict = call.verdict
  clearedAt : moved.clearedAt = call.clearedAt
  writtenAt : moved.writtenAt = call.writtenAt
  mark : moved.mark = call.mark

theorem Call.advances_stage {call : Call} {stage next : CallStage}
    (hstage : call.stage = stage) (hleads : stage.LeadsTo next) :
    call.Advances { call with stage := next } :=
  ⟨hstage ▸ hleads, fun _ => rfl, rfl, rfl, rfl⟩

theorem Call.Ok.advances {state next : State} {index : ℕ} {call moved : Call}
    (hok : call.Ok state index) (hquiet : Quiet state next)
    (hadvances : call.Advances moved) : moved.Ok next index := by
  obtain ⟨hholds, hcommitted, hbefore, hflagged, hwaits⟩ := hadvances.stage
  constructor
  case holds =>
    rw [hholds, hquiet.mRoleSwitchLock]
    exact hok.holds
  case own =>
    intro hmoved mark hmark
    rw [hadvances.mark] at hmark
    rw [hquiet.writes]
    rcases hcommitted hmoved with hcall | hunwritten
    · exact hok.own hcall mark hmark
    · rw [(hok.unwritten hunwritten).2.2] at hmark
      contradiction
  case unwritten =>
    intro hmoved
    rw [hadvances.verdict hmoved, hadvances.writtenAt, hadvances.mark]
    exact hok.unwritten (hbefore hmoved)
  case flag =>
    intro hmoved
    rw [hadvances.clearedAt, hquiet.handled, hquiet.mPartnerUp]
    exact hok.flag (hflagged hmoved)
  case stale =>
    intro hmoved
    rw [hadvances.clearedAt, hadvances.writtenAt, hquiet.handled]
    exact hok.stale (hwaits hmoved)

/-- `switchMode` gets no verdict from its wait: the verdict there is stays, the role string
is written, or opening or writing the node has failed. -/
inductive Call.Unjudged (call moved : Call) : Prop where
  | kept (hport : moved.portName = call.portName) (hverdict : moved.verdict = call.verdict)
      (hheard : moved.heard = call.heard) (hwritten : moved.writtenAt = call.writtenAt)
  | started (hverdict : moved.verdict = none)
  | failed (hverdict : moved.verdict = some false) (hwritten : moved.writtenAt = none)

structure CallResult (state next : State) (index : ℕ) (call moved : Call) : Prop where
  moves : CallMoves state next index moved
  ok : moved.Ok next index
  unjudged : call.Unjudged moved

section
variable {state next : State} {index : ℕ} {call moved : Call}

theorem Call.Ok.locked (hok : call.Ok state index)
    (hholds : call.stage.holdsRoleSwitch = true) (party : Party)
    (hparty : state.mRoleSwitchLock = some party) : party = .call index := by
  rw [hok.holds.mp hholds] at hparty
  exact (Option.some.inj hparty).symm

/-- The step of a call under the mutex that changes nothing another thread depends on. -/
theorem CallMoves.quiet (hok : call.Ok state index) (hquiet : Quiet state next)
    (hholds : call.stage.holdsRoleSwitch = true)
    (hcalls : next.calls = state.calls.set index moved)
    (hworker : next.worker = state.worker) (huevents : next.uevents = state.uevents)
    (hemitted : next.emitted = state.emitted) (hseen : next.seen = state.seen) :
    CallMoves state next index moved := by
  refine ⟨hcalls, hok.locked hholds, ?_, hworker, huevents, hemitted, hquiet.handled,
    hseen, ?_⟩
  · rw [hquiet.mRoleSwitchLock]
    exact hok.locked hholds
  · rw [hquiet.writes]
    exact fun _ hmem => .inl hmem

theorem lockRoleSwitch_result (hok : call.Ok state index)
    (hstep : lockRoleSwitch state index call = some next) :
    ∃ moved, CallResult state next index call moved := by
  obtain ⟨⟨hstage, hfree⟩, rfl⟩ := guarded_eq_some.mp hstep
  have hbefore : call.stage.beforeWrite = true := by rw [hstage]; rfl
  refine ⟨{ call with stage := .opening }, ⟨rfl, ?_, ?_, rfl, rfl, rfl, rfl, rfl, ?_⟩, ?_,
    .kept rfl rfl rfl rfl⟩
  · intro party hparty
    rw [hfree] at hparty
    contradiction
  · exact fun party hparty => (Option.some.inj hparty).symm
  · exact fun _ hmem => .inl hmem
  · exact ⟨iff_of_true rfl rfl, fun h => (by cases h), fun _ => hok.unwritten hbefore,
      fun h => (by cases h), fun h => (by cases h)⟩

theorem afterOpen_advances (opens : Bool) (hstage : call.stage = .opening) :
    call.Advances (afterOpen call opens) := by
  unfold afterOpen
  split
  · cases opens with
    | true => exact Call.advances_stage hstage (by decide)
    | false =>
        have hleads : CallStage.opening.LeadsTo .fallingBack := by decide
        exact ⟨hstage ▸ hleads, fun h => (by cases h), rfl, rfl, rfl⟩
  · cases opens with
    | true => exact Call.advances_stage hstage (by decide)
    | false => exact Call.advances_stage hstage (by decide)

theorem afterOpen_unjudged (hok : call.Ok state index) (opens : Bool)
    (hstage : call.stage = .opening) : call.Unjudged (afterOpen call opens) := by
  have hbefore : call.stage.beforeWrite = true := by rw [hstage]; rfl
  unfold afterOpen
  split
  · cases opens with
    | true => exact .kept rfl rfl rfl rfl
    | false => exact .failed rfl (hok.unwritten hbefore).2.1
  · exact .kept rfl rfl rfl rfl

theorem fopen_result (hok : call.Ok state index) {opens : Bool}
    (hstep : fopen state index call opens = some next) :
    ∃ moved, CallResult state next index call moved := by
  obtain ⟨hstage, rfl⟩ := guarded_eq_some.mp hstep
  have hholds : call.stage.holdsRoleSwitch = true := by rw [hstage]; rfl
  have hquiet : Quiet state (state.setCall index (afterOpen call opens)) :=
    ⟨rfl, rfl, rfl, rfl⟩
  exact ⟨afterOpen call opens, .quiet hok hquiet hholds rfl rfl rfl rfl rfl,
    hok.advances hquiet (afterOpen_advances opens hstage),
    afterOpen_unjudged hok opens hstage⟩

theorem lockPartner_result (hok : call.Ok state index)
    (hstep : lockPartner state index call = some next) :
    ∃ moved, CallResult state next index call moved := by
  obtain ⟨⟨hstage, _⟩, rfl⟩ := guarded_eq_some.mp hstep
  have hholds : call.stage.holdsRoleSwitch = true := by rw [hstage]; rfl
  have hbefore : call.stage.beforeWrite = true := by rw [hstage]; rfl
  have hlock := hok.holds.mp hholds
  refine ⟨{ call with stage := .cleared, clearedAt := state.handled.length },
    ⟨rfl, hok.locked hholds, hok.locked hholds, rfl, rfl, rfl, rfl, rfl,
      fun _ hmem => .inl hmem⟩, ?_, .kept rfl rfl rfl rfl⟩
  refine ⟨iff_of_true rfl hlock, fun h => (by cases h), fun _ => hok.unwritten hbefore,
    fun _ => ⟨le_rfl, ?_⟩, fun h => (by cases h)⟩
  exact iff_of_false Bool.false_ne_true (lt_irrefl _)

theorem drop_writes_append (writes : List Write) (write : Write) :
    (writes ++ [write]).drop writes.length = [write] := List.drop_left

theorem own_of_write {writes : List Write} (mark : ℕ)
    (hmark : some writes.length = some mark) :
    mark ≤ (writes ++ [roleWrite state index call]).length ∧
      ∀ write ∈ (writes ++ [roleWrite state index call]).drop mark,
        write.writer = .call index := by
  obtain rfl := Option.some.inj hmark
  refine ⟨by simp, ?_⟩
  rw [drop_writes_append]
  intro write hmem
  rw [List.mem_singleton.mp hmem]
  rfl

theorem mem_append_own {writes : List Write} {write other : Write}
    (hwriter : write.writer = .call index) (hmem : other ∈ writes ++ [write]) :
    other ∈ writes ∨ other.writer = .call index := by
  rcases List.mem_append.mp hmem with hold | hnew
  · exact .inl hold
  · exact .inr (List.mem_singleton.mp hnew ▸ hwriter)

/-- Under the mutex, behind the write and outside the wait, only the writes matter. -/
theorem Call.Ok.unflagged (hlock : next.mRoleSwitchLock = some (.call index))
    (hholds : moved.stage.holdsRoleSwitch = true) (hbefore : moved.stage.beforeWrite = false)
    (hflagged : moved.stage.flagged = false)
    (hown : moved.stage.committed = true → ∀ mark, moved.mark = some mark →
      mark ≤ next.writes.length ∧
        ∀ write ∈ next.writes.drop mark, write.writer = .call index) :
    moved.Ok next index where
  holds := iff_of_true hholds hlock
  own := hown
  unwritten := by
    intro h
    rw [hbefore] at h
    contradiction
  flag := by
    intro h
    rw [hflagged] at h
    contradiction
  stale := by
    intro h
    rw [waits_flagged h] at hflagged
    contradiction

theorem writeMode_result (hinv : state.Invariant) (hok : call.Ok state index)
    (hstage : call.stage = .cleared) (succeeds : Bool) :
    ∃ moved, CallResult state (writeMode state index call succeeds) index call moved := by
  have hholds : call.stage.holdsRoleSwitch = true := by rw [hstage]; rfl
  have hbefore : call.stage.beforeWrite = true := by rw [hstage]; rfl
  have hflagged : call.stage.flagged = true := by rw [hstage]; rfl
  have hlock := hok.holds.mp hholds
  obtain ⟨hverdict, hwritten, _⟩ := hok.unwritten hbefore
  cases succeeds with
  | true =>
      refine ⟨{ call with
          mark := some state.writes.length
          stage := .waitAgain
          writtenAt := some state.emitted },
        ⟨rfl, hok.locked hholds, hok.locked hholds, rfl, rfl, rfl, rfl, rfl,
          fun _ hmem => mem_append_own rfl hmem⟩, ?_, .started hverdict⟩
      refine ⟨iff_of_true rfl hlock, fun _ mark hmark => own_of_write mark hmark,
        fun h => (by cases h), fun _ => hok.flag hflagged, fun _ => ⟨_, rfl, ?_⟩⟩
      exact fun arrival hmem => hinv.handled arrival (List.mem_of_mem_take hmem)
  | false =>
      refine ⟨{ call with
          mark := some state.writes.length
          stage := .fallingBack
          verdict := some false },
        ⟨rfl, hok.locked hholds, hok.locked hholds, rfl, rfl, rfl, rfl, rfl,
          fun _ hmem => mem_append_own rfl hmem⟩, ?_, .failed rfl hwritten⟩
      exact .unflagged hlock rfl rfl rfl fun _ mark hmark => own_of_write mark hmark

theorem writeRole_result (hok : call.Ok state index) (hstage : call.stage = .opened)
    (succeeds : Bool) :
    ∃ moved, CallResult state (writeRole state index call succeeds) index call moved := by
  have hholds : call.stage.holdsRoleSwitch = true := by rw [hstage]; rfl
  have hlock := hok.holds.mp hholds
  refine ⟨{ call with
      mark := some state.writes.length
      stage := if succeeds then .written else .settled },
    ⟨rfl, hok.locked hholds, hok.locked hholds, rfl, rfl, rfl, rfl, rfl,
      fun _ hmem => mem_append_own rfl hmem⟩, ?_, .kept rfl rfl rfl rfl⟩
  cases succeeds with
  | true =>
      exact .unflagged hlock rfl rfl rfl fun _ mark hmark => own_of_write mark hmark
  | false =>
      exact .unflagged hlock rfl rfl rfl fun h => (by cases h)

theorem fputs_result (hinv : state.Invariant) (hok : call.Ok state index) {succeeds : Bool}
    (hstep : fputs state index call succeeds = some next) :
    ∃ moved, CallResult state next index call moved := by
  unfold fputs at hstep
  split at hstep
  case h_1 hstage =>
    obtain rfl := Option.some.inj hstep
    exact writeMode_result hinv hok hstage succeeds
  case h_2 hstage =>
    obtain rfl := Option.some.inj hstep
    exact writeRole_result hok hstage succeeds
  case h_3 => contradiction

theorem CallResult.quiet (hok : call.Ok state index)
    (hcalls : next.calls = state.calls.set index moved) (hquiet : Quiet state next)
    (hholds : call.stage.holdsRoleSwitch = true) (hadvances : call.Advances moved)
    (hunjudged : call.Unjudged moved) (hworker : next.worker = state.worker)
    (huevents : next.uevents = state.uevents) (hemitted : next.emitted = state.emitted)
    (hseen : next.seen = state.seen) : CallResult state next index call moved :=
  ⟨.quiet hok hquiet hholds hcalls hworker huevents hemitted hseen,
    hok.advances hquiet hadvances, hunjudged⟩

theorem sleep_result (hok : call.Ok state index) (hstep : sleep state index call = some next) :
    ∃ moved, CallResult state next index call moved := by
  obtain ⟨hstage, rfl⟩ := guarded_eq_some.mp hstep
  exact ⟨_, .quiet hok rfl ⟨rfl, rfl, rfl, rfl⟩ (by rw [hstage]; rfl)
    (Call.advances_stage hstage (by decide)) (.kept rfl rfl rfl rfl) rfl rfl rfl rfl⟩

theorem wake_result (hok : call.Ok state index) {timedOut : Bool}
    (hstep : wake state index call timedOut = some next) :
    ∃ moved, CallResult state next index call moved := by
  obtain ⟨hstage, rfl⟩ := guarded_eq_some.mp hstep
  exact ⟨_, .quiet hok rfl ⟨rfl, rfl, rfl, rfl⟩ (by rw [hstage]; rfl)
    (Call.advances_stage hstage (by cases timedOut <;> decide)) (.kept rfl rfl rfl rfl)
    rfl rfl rfl rfl⟩

theorem relock_result (hok : call.Ok state index)
    (hstep : relock state index call = some next) :
    ∃ moved, CallResult state next index call moved := by
  unfold relock at hstep
  split at hstep
  case h_1 timedOut hstage _ =>
    obtain rfl := Option.some.inj hstep
    exact ⟨_, .quiet hok rfl ⟨rfl, rfl, rfl, rfl⟩ (by rw [hstage]; rfl)
      (Call.advances_stage hstage (by cases timedOut <;> decide)) (.kept rfl rfl rfl rfl)
      rfl rfl rfl rfl⟩
  case h_2 => contradiction

theorem readBack_result (hok : call.Ok state index) {text : Option String}
    (hstep : readBack state index call text = some next) :
    ∃ moved, CallResult state next index call moved := by
  obtain ⟨hstage, rfl⟩ := guarded_eq_some.mp hstep
  have hleads : CallStage.written.LeadsTo .settled := by decide
  exact ⟨_, .quiet hok rfl ⟨rfl, rfl, rfl, rfl⟩ (by rw [hstage]; rfl)
    ⟨hstage ▸ hleads, fun _ => rfl, rfl, rfl, rfl⟩ (.kept rfl rfl rfl rfl)
    rfl rfl rfl rfl⟩

theorem lockCallback_result (hok : call.Ok state index)
    (hstep : lockCallback state index call = some next) :
    ∃ moved, CallResult state next index call moved := by
  obtain ⟨⟨hstage, _⟩, rfl⟩ := guarded_eq_some.mp hstep
  exact ⟨_, .quiet hok rfl ⟨rfl, rfl, rfl, rfl⟩ (by rw [hstage]; rfl)
    (Call.advances_stage hstage (by decide)) (.kept rfl rfl rfl rfl) rfl rfl rfl rfl⟩

theorem switchToDrp_result (hok : call.Ok state index)
    (hstep : switchToDrp state index call = some next) :
    ∃ moved, CallResult state next index call moved := by
  obtain ⟨hstage, rfl⟩ := guarded_eq_some.mp hstep
  have hholds : call.stage.holdsRoleSwitch = true := by rw [hstage]; rfl
  refine ⟨{ call with stage := .settled },
    ⟨rfl, hok.locked hholds, hok.locked hholds, rfl, rfl, rfl, rfl, rfl,
      fun _ hmem => mem_append_own rfl hmem⟩, ?_, .kept rfl rfl rfl rfl⟩
  exact .unflagged (hok.holds.mp hholds) rfl rfl rfl fun h => (by cases h)

theorem notify_result (hok : call.Ok state index) {registered : Bool}
    (hstep : notify state index call registered = some next) :
    ∃ moved, CallResult state next index call moved := by
  obtain ⟨hstage, rfl⟩ := guarded_eq_some.mp hstep
  have hholds : call.stage.holdsRoleSwitch = true := by rw [hstage]; rfl
  refine ⟨{ call with stage := .finished },
    ⟨rfl, hok.locked hholds, fun party hparty => (by cases hparty), rfl, rfl, rfl, rfl, rfl,
      fun _ hmem => .inl hmem⟩, ?_, .kept rfl rfl rfl rfl⟩
  exact ⟨iff_of_false Bool.false_ne_true (by rintro ⟨⟩), fun h => (by cases h),
    fun h => (by cases h), fun h => (by cases h), fun h => (by cases h)⟩

/-- After a wait, `switchMode` waits again or has its verdict. -/
inductive Tested (state next : State) (index : ℕ) (call : Call) : Prop where
  | again (hstage : call.stage = .returned false) (hflag : state.mPartnerUp = false)
      (hnext : next = state.setCall index { call with stage := .waitAgain })
  | ended (timedOut : Bool) (hstage : call.stage = .returned timedOut)
      (hflag : timedOut = false → state.mPartnerUp = true)
      (hnext : next = { state.setCall index (call.conclude state.handled !timedOut) with
        mPartnerLock := none })

theorem testPartner_cases (hstep : testPartner state index call = some next) :
    Tested state next index call := by
  unfold testPartner at hstep
  split at hstep
  case h_1 hstage =>
    exact .ended true hstage (fun h => (by cases h)) (Option.some.inj hstep).symm
  case h_2 hstage =>
    cases hflag : state.mPartnerUp with
    | true =>
        rw [hflag] at hstep
        exact .ended false hstage (fun _ => hflag) (Option.some.inj hstep).symm
    | false =>
        rw [hflag] at hstep
        exact .again hstage hflag (Option.some.inj hstep).symm
  case h_3 => contradiction

theorem conclude_advances {timedOut : Bool} (hstage : call.stage = .returned timedOut)
    (heard : List Arrival) (roleSwitch : Bool) :
    call.Advances (call.conclude heard roleSwitch) := by
  have hleads : (CallStage.returned timedOut).LeadsTo
      (if roleSwitch then .settled else .fallingBack) := by
    cases timedOut <;> cases roleSwitch <;> decide
  refine ⟨hstage ▸ hleads, fun h => ?_, rfl, rfl, rfl⟩
  cases roleSwitch <;> cases h

theorem testPartner_moves (hok : call.Ok state index)
    (hstep : testPartner state index call = some next) :
    ∃ moved, CallMoves state next index moved ∧ moved.Ok next index := by
  cases testPartner_cases hstep with
  | again hstage _ hnext =>
      subst hnext
      have hquiet : Quiet state (state.setCall index { call with stage := .waitAgain }) :=
        ⟨rfl, rfl, rfl, rfl⟩
      exact ⟨_, .quiet hok hquiet (by rw [hstage]; rfl) rfl rfl rfl rfl rfl,
        hok.advances hquiet (Call.advances_stage hstage (by decide))⟩
  | ended timedOut hstage _ hnext =>
      subst hnext
      exact ⟨_, .quiet hok ⟨rfl, rfl, rfl, rfl⟩ (by rw [hstage]; rfl) rfl rfl rfl rfl rfl,
        hok.advances ⟨rfl, rfl, rfl, rfl⟩ (conclude_advances hstage _ _)⟩

theorem callStep_result (hinv : state.Invariant) (hok : call.Ok state index)
    {action : CallAction} (hstep : callStep state index call action = some next)
    (hother : action ≠ .testPartner) : ∃ moved, CallResult state next index call moved := by
  cases action with
  | lockRoleSwitch => exact lockRoleSwitch_result hok hstep
  | fopen opens => exact fopen_result hok hstep
  | lockPartner => exact lockPartner_result hok hstep
  | fputs succeeds => exact fputs_result hinv hok hstep
  | sleep => exact sleep_result hok hstep
  | wake timedOut => exact wake_result hok hstep
  | relock => exact relock_result hok hstep
  | testPartner => contradiction
  | switchToDrp => exact switchToDrp_result hok hstep
  | readBack text => exact readBack_result hok hstep
  | lockCallback => exact lockCallback_result hok hstep
  | notify registered => exact notify_result hok hstep

theorem State.Invariant.caller (hinv : state.Invariant)
    (hcall : state.calls[index]? = some call) {action : CallAction}
    (hstep : callStep state index call action = some next) : next.Invariant := by
  have hok := hinv.calls index call hcall
  by_cases haction : action = .testPartner
  · subst haction
    obtain ⟨moved, hmoves, hmoved⟩ := testPartner_moves hok hstep
    exact hinv.callMoves hcall hmoves hmoved
  · obtain ⟨moved, hresult⟩ := callStep_result hinv hok hstep haction
    exact hinv.callMoves hcall hresult.moves hresult.ok

end

/-! ## Steps of the worker and the kernel -/

section
variable {state next : State}

/-- What neither the calls nor the mutex depend on has changed. -/
theorem Call.Ok.quiet {index : ℕ} {call : Call} (hok : call.Ok state index)
    (hquiet : Quiet state next) : call.Ok next index := by
  have hleads : call.stage.LeadsTo call.stage := ⟨rfl, .inl, id, id, id⟩
  exact hok.advances hquiet ⟨hleads, fun _ => rfl, rfl, rfl, rfl⟩

theorem State.Invariant.calls_quiet (hinv : state.Invariant) (hquiet : Quiet state next)
    (index : ℕ) (call : Call) (hcall : state.calls[index]? = some call) :
    call.Ok next index :=
  (hinv.calls index call hcall).quiet hquiet

/-- While the mutex is not with a call, nothing that happens concerns them. -/
theorem State.Invariant.calls_outside (hinv : state.Invariant)
    (hbefore : ∀ index, state.mRoleSwitchLock ≠ some (.call index))
    (hafter : ∀ index, next.mRoleSwitchLock ≠ some (.call index))
    (index : ℕ) (call : Call) (hcall : state.calls[index]? = some call) :
    call.Ok next index := by
  have hok := hinv.calls index call hcall
  refine hok.outside ?_ (hafter index)
  rw [Bool.eq_false_iff, Ne, hok.holds]
  exact hbefore index

theorem Call.Ok.arrival {index : ℕ} {call : Call} (hok : call.Ok state index)
    (arrival : Arrival) (worker : WorkerStage) :
    call.Ok
      { state with
        mPartnerUp := true
        handled := state.handled ++ [arrival]
        worker := worker } index where
  holds := hok.holds
  own := hok.own
  unwritten := hok.unwritten
  flag := by
    intro hflagged
    obtain ⟨hle, _⟩ := hok.flag hflagged
    rw [List.length_append, List.length_singleton]
    exact ⟨Nat.le_succ_of_le hle, iff_of_true rfl (Nat.lt_succ_of_le hle)⟩
  stale := by
    intro hwaits
    obtain ⟨hle, _⟩ := hok.flag (waits_flagged hwaits)
    rw [List.take_append_of_le_length hle]
    exact hok.stale hwaits

theorem State.Invariant.receive (hinv : state.Invariant)
    (hstep : receive state = some next) : next.Invariant := by
  unfold RoleSwitch.receive at hstep
  split at hstep
  case h_1 uevent rest hworker huevents =>
    obtain rfl := Option.some.inj hstep
    have hfirst : uevent ∈ state.uevents := by rw [huevents]; exact List.mem_cons_self
    refine ⟨hinv.calls_quiet ⟨rfl, rfl, rfl, rfl⟩,
      hinv.owner, ?_, fun _ _ h => (by cases h), hinv.writes, ?_, ?_, hinv.handled⟩
    · rw [← hinv.worker, hworker]
      rfl
    · intro other hother
      refine hinv.uevents other ?_
      rw [huevents]
      exact List.mem_cons_of_mem _ hother
    · intro seqnum fields hparsing
      cases hparsing
      exact hinv.uevents uevent hfirst
  case h_2 => contradiction

/-- The worker goes on without the mutex. -/
theorem State.Invariant.moveWorker (hinv : state.Invariant) (worker : WorkerStage)
    (mLock : Option Party) (hbefore : state.worker.holdsRoleSwitch = false)
    (hafter : worker.holdsRoleSwitch = false)
    (hparsing : ∀ seqnum fields, worker = .parsing seqnum fields → seqnum < state.emitted) :
    { state with worker := worker, mLock := mLock : State }.Invariant := by
  refine ⟨hinv.calls_quiet ⟨rfl, rfl, rfl, rfl⟩,
    hinv.owner, ?_, ?_, hinv.writes, hinv.uevents, hparsing, hinv.handled⟩
  · rw [← hinv.worker, hbefore, hafter]
  · rintro portName ports rfl
    cases hafter

theorem State.Invariant.partnerAdded (hinv : state.Invariant) {seqnum : ℕ}
    {portName : String} {rest fields : List Field}
    (hworker : state.worker = .parsing seqnum fields)
    (hstep : partnerAdded state seqnum portName rest = some next) : next.Invariant := by
  obtain ⟨_, rfl⟩ := guarded_eq_some.mp hstep
  have hseqnum := hinv.parsing seqnum fields hworker
  refine ⟨fun index call hcall => (hinv.calls index call hcall).arrival _ _,
    hinv.owner, ?_, fun _ _ h => (by cases h), hinv.writes, hinv.uevents, ?_, ?_⟩
  · rw [← hinv.worker, hworker]
    rfl
  · intro other fields hparsing
    cases hparsing
    exact hseqnum
  · intro arrival hmem
    rcases List.mem_append.mp hmem with hold | hnew
    · exact hinv.handled arrival hold
    · rw [List.mem_singleton.mp hnew]
      exact hseqnum

theorem State.Invariant.parse (hinv : state.Invariant)
    (hstep : parse state = some next) : next.Invariant := by
  unfold RoleSwitch.parse at hstep
  split at hstep
  case h_1 seqnum hworker =>
    obtain rfl := Option.some.inj hstep
    exact hinv.moveWorker .waiting state.mLock (by rw [hworker]; rfl) rfl
      (fun _ _ h => (by cases h))
  case h_2 seqnum portName rest hworker => exact hinv.partnerAdded hworker hstep
  case h_3 seqnum rest hworker =>
    obtain ⟨_, rfl⟩ := guarded_eq_some.mp hstep
    exact hinv.moveWorker .querying (some .worker) (by rw [hworker]; rfl) rfl
      (fun _ _ h => (by cases h))
  case h_4 seqnum rest hworker =>
    obtain rfl := Option.some.inj hstep
    refine hinv.moveWorker (.parsing seqnum rest) state.mLock (by rw [hworker]; rfl) rfl ?_
    intro other fields hparsing
    cases hparsing
    exact hinv.parsing seqnum _ hworker
  case h_5 => contradiction

theorem State.Invariant.query (hinv : state.Invariant)
    {currentPortStatus : List PortStatus} (hstep : query state currentPortStatus = some next) :
    next.Invariant := by
  obtain ⟨hworker, rfl⟩ := guarded_eq_some.mp hstep
  exact hinv.moveWorker (.trying (currentPortStatus.map PortStatus.portName)) none
    (by rw [hworker]; rfl) rfl (fun _ _ h => (by cases h))

theorem State.Invariant.trylock (hinv : state.Invariant)
    (hstep : trylock state = some next) : next.Invariant := by
  unfold RoleSwitch.trylock at hstep
  split at hstep
  case h_1 ports hworker =>
    split at hstep
    case isTrue hfree =>
      obtain rfl := Option.some.inj hstep
      refine ⟨hinv.calls_outside ?_ ?_, ?_, iff_of_true rfl rfl, fun _ _ h => (by cases h),
        hinv.writes, hinv.uevents, fun _ _ h => (by cases h), hinv.handled⟩
      · intro index
        rw [hfree]
        rintro ⟨⟩
      · rintro index ⟨⟩
      · rintro index ⟨⟩
    case isFalse =>
      obtain rfl := Option.some.inj hstep
      exact hinv.moveWorker .waiting state.mLock (by rw [hworker]; rfl) rfl
        (fun _ _ h => (by cases h))
  case h_2 => contradiction

theorem State.Invariant.restore (hinv : state.Invariant)
    (hstep : restore state = some next) : next.Invariant := by
  have hheld : state.worker.holdsRoleSwitch = true →
      state.mRoleSwitchLock = some .worker := hinv.worker.mp
  unfold RoleSwitch.restore at hstep
  split at hstep
  case h_1 hworker =>
    have hlock := hheld (by rw [hworker]; rfl)
    obtain rfl := Option.some.inj hstep
    refine ⟨hinv.calls_outside (fun _ => by rw [hlock]; rintro ⟨⟩) (fun _ => by rintro ⟨⟩),
      fun _ h => (by cases h), iff_of_false Bool.false_ne_true (by rintro ⟨⟩),
      fun _ _ h => (by cases h), hinv.writes, hinv.uevents, fun _ _ h => (by cases h),
      hinv.handled⟩
  case h_2 portName ports hworker =>
    have hlock := hheld (by rw [hworker]; rfl)
    split at hstep
    case isTrue =>
      obtain rfl := Option.some.inj hstep
      refine ⟨hinv.calls_quiet ⟨rfl, rfl, rfl, rfl⟩,
        hinv.owner, iff_of_true rfl hlock, fun _ _ h => (by cases h), hinv.writes,
        hinv.uevents, fun _ _ h => (by cases h), hinv.handled⟩
    case isFalse =>
      obtain rfl := Option.some.inj hstep
      refine ⟨hinv.calls_quiet ⟨rfl, rfl, rfl, rfl⟩,
        hinv.owner, iff_of_true rfl hlock, ?_, hinv.writes,
        hinv.uevents, fun _ _ h => (by cases h), hinv.handled⟩
      intro other rest hreverting
      cases hreverting
      exact List.mem_cons_self
  case h_3 portName ports hworker =>
    have hlock := hheld (by rw [hworker]; rfl)
    have hseen := hinv.seen portName ports hworker
    obtain rfl := Option.some.inj hstep
    refine ⟨hinv.calls_outside (fun _ => by rw [hlock]; rintro ⟨⟩)
        (fun _ => by rw [hlock]; rintro ⟨⟩),
      hinv.owner, iff_of_true rfl hlock, fun _ _ h => (by cases h), ?_, hinv.uevents,
      fun _ _ h => (by cases h), hinv.handled⟩
    intro write hmem hwriter
    rcases List.mem_append.mp hmem with hold | hnew
    · exact hinv.writes write hold hwriter
    · rw [List.mem_singleton.mp hnew]
      exact ⟨decide_eq_true hlock, decide_eq_true hseen⟩
  case h_4 => contradiction

theorem State.Invariant.workerStep (hinv : state.Invariant) {action : WorkerAction}
    (hstep : workerStep state action = some next) : next.Invariant := by
  cases action with
  | receive => exact hinv.receive hstep
  | parse => exact hinv.parse hstep
  | query currentPortStatus => exact hinv.query hstep
  | trylock => exact hinv.trylock hstep
  | restore => exact hinv.restore hstep

theorem State.Invariant.emit (hinv : state.Invariant) (fields : List Field) :
    (emit state fields).Invariant := by
  refine ⟨hinv.calls_quiet ⟨rfl, rfl, rfl, rfl⟩,
    hinv.owner, hinv.worker, hinv.seen, hinv.writes, ?_, ?_, ?_⟩
  · intro uevent hmem
    rcases List.mem_append.mp hmem with hold | hnew
    · exact Nat.lt_succ_of_lt (hinv.uevents uevent hold)
    · rw [List.mem_singleton.mp hnew]
      exact Nat.lt_succ_self _
  · exact fun seqnum fields hparsing =>
      Nat.lt_succ_of_lt (hinv.parsing seqnum fields hparsing)
  · exact fun arrival hmem => Nat.lt_succ_of_lt (hinv.handled arrival hmem)

theorem State.Invariant.partnerDir (hinv : state.Invariant) (portName : String)
    (there : Bool) : (partnerDir state portName there).Invariant :=
  ⟨hinv.calls_quiet ⟨rfl, rfl, rfl, rfl⟩,
    hinv.owner, hinv.worker, hinv.seen, hinv.writes, hinv.uevents, hinv.parsing,
    hinv.handled⟩

theorem Call.Ok.fresh {index : ℕ} {call : Call}
    (houtside : call.stage.holdsRoleSwitch = false)
    (hlock : state.mRoleSwitchLock ≠ some (.call index)) (hverdict : call.verdict = none)
    (hwritten : call.writtenAt = none) (hmark : call.mark = none) : call.Ok state index where
  holds := by
    rw [houtside]
    exact iff_of_false Bool.false_ne_true hlock
  own := by
    intro _ mark hsome
    rw [hmark] at hsome
    contradiction
  unwritten := fun _ => ⟨hverdict, hwritten, hmark⟩
  flag := fun hflagged => by
    rw [flagged_holds hflagged] at houtside
    contradiction
  stale := fun hwaits => by
    rw [flagged_holds (waits_flagged hwaits)] at houtside
    contradiction

theorem State.Invariant.switchRole (hinv : state.Invariant) (portName : String)
    (newRole : PortRole) : (switchRole state portName newRole).Invariant := by
  refine ⟨?_, ?_, hinv.worker, hinv.seen, hinv.writes, hinv.uevents, hinv.parsing,
    hinv.handled⟩
  · intro index call hcall
    rw [RoleSwitch.switchRole, List.getElem?_append] at hcall
    split at hcall
    case isTrue => exact (hinv.calls index call hcall).quiet ⟨rfl, rfl, rfl, rfl⟩
    case isFalse hlength =>
      have hlock : state.mRoleSwitchLock ≠ some (.call index) :=
        fun hlock => hlength (hinv.owner index hlock)
      obtain ⟨_, rfl⟩ := List.getElem?_eq_some_iff.mp hcall
      rw [List.getElem_singleton]
      refine .fresh ?_ hlock rfl rfl rfl
      split <;> rfl
  · intro index hlock
    rw [RoleSwitch.switchRole, List.length_append]
    exact Nat.lt_add_right _ (hinv.owner index hlock)

theorem caller_cases {index : ℕ} {action : CallAction}
    (hstep : step state (.caller index action) = some next) :
    ∃ call, state.calls[index]? = some call ∧ callStep state index call action = some next := by
  simpa only [step, Option.bind_eq_bind, Option.bind_eq_some_iff] using hstep

theorem State.Invariant.step (hinv : state.Invariant) {action : Action}
    (hstep : step state action = some next) : next.Invariant := by
  cases action with
  | emit fields => exact Option.some.inj hstep ▸ hinv.emit fields
  | partnerDir portName there => exact Option.some.inj hstep ▸ hinv.partnerDir portName there
  | switchRole portName newRole =>
      exact Option.some.inj hstep ▸ hinv.switchRole portName newRole
  | caller index action =>
      obtain ⟨call, hcall, hcallStep⟩ := caller_cases hstep
      exact hinv.caller hcall hcallStep
  | worker action => exact hinv.workerStep hstep

end

/-- In every run, from the write of a role to the verdict on it nobody else writes to any
role node, and the worker puts a port back to dual role only under `mRoleSwitchLock` and
after it has seen under it that the port has no partner. -/
theorem role_writes_exclusive (partners : List String) (actions : List Action) :
    EveryState step State.Exclusive (.initial partners) actions :=
  (EveryState.of_invariant (P := State.Invariant) (fun _ _ _ hinv hstep => hinv.step hstep)
    (invariant_initial partners) actions).imp fun _ hinv => hinv.exclusive

end RoleSwitch
end Camellia.Usb

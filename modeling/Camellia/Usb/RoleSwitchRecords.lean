import Camellia.Usb.RoleSwitchLocks

/-!
# What a role switch leaves behind

What a call writes to its port and what it tells the client can be read off its record:
the role string if it came to the write, then `dual` if it asked for a mode and did not
get it; and one notification, with its own port and role, when it gives the mutex back.
A step of one call adds to its own record only, so that the records of a whole run are
those of its calls.
-/

namespace Camellia.Usb
namespace RoleSwitch

open Transition

/-! ## Places -/

/-- In `switchMode`, up to the fallback after it. -/
def CallStage.inSwitchMode : CallStage → Bool
  | .locking | .cleared | .waitAgain | .asleep | .woken _ | .returned _ | .fallingBack => true
  | _ => false

def CallStage.onRoleNode : CallStage → Bool
  | .opened | .written => true
  | _ => false

def CallStage.decided : CallStage → Bool
  | .settled | .notifying | .finished => true
  | _ => false

def Call.valid (call : Call) : Bool :=
  appendRoleNodeHelper call.portName call.newRole.type ≠ ""

def Call.written (call : Call) : List (String × String) :=
  let node := appendRoleNodeHelper call.portName call.newRole.type
  (if call.mark.isSome then [(node, convertRoletoString call.newRole)] else []) ++
    if call.newRole.type = .mode ∧ call.stage.decided ∧ call.roleSwitch = false then
      [(node, "dual")]
    else []

def Call.answer (call : Call) : String × PortRole × V1_0.Status :=
  (call.portName, call.newRole, if call.roleSwitch then .success else .error)

/-- What the record of a call says at the place that the call has come to. -/
structure Call.Proper (call : Call) : Prop where
  mode : call.stage.inSwitchMode = true → call.newRole.type = .mode
  role : call.stage.onRoleNode = true → call.newRole.type ≠ .mode
  valid : call.stage ≠ .finished → call.valid = true
  undecided : call.stage.decided = false → call.roleSwitch = false
  marked : call.stage.waits = true ∨ call.stage = .written ∨ call.roleSwitch = true →
    call.mark.isSome = true
  invalid : call.valid = false → call.mark = none ∧ call.roleSwitch = false

structure CallRecord (state next : State) (index : ℕ) (call moved : Call) : Prop where
  calls : next.calls = state.calls.set index moved
  portName : moved.portName = call.portName
  newRole : moved.newRole = call.newRole
  unfinished : call.stage ≠ .finished
  proper : moved.Proper
  writes : ∃ added, next.writes = state.writes ++ added ∧
    (∀ write ∈ added, write.writer = .call index ∧ write.locked = true) ∧
    moved.written = call.written ++ added.map fun write => (write.node, write.text)

section
variable {state next : State} {index : ℕ} {call moved : Call}

theorem Call.valid_congr (hport : moved.portName = call.portName)
    (hrole : moved.newRole = call.newRole) : moved.valid = call.valid := by
  rw [Call.valid, Call.valid, hport, hrole]

/-- A step to another place before or after the verdict, without a write. -/
theorem CallRecord.plain (hproper : call.Proper) (stage later : CallStage)
    (hstage : call.stage = stage) (hlater : moved.stage = later)
    (hmode : later.inSwitchMode = true → call.newRole.type = .mode)
    (hrole : later.onRoleNode = true → call.newRole.type ≠ .mode)
    (hdecided : later.decided = stage.decided)
    (hwaits : later.waits = true ∨ later = .written → stage.waits = true ∨ stage = .written)
    (hunfinished : stage ≠ .finished) (hcalls : next.calls = state.calls.set index moved)
    (hwrites : next.writes = state.writes) (hportName : moved.portName = call.portName)
    (hnewRole : moved.newRole = call.newRole) (hswitch : moved.roleSwitch = call.roleSwitch)
    (hmark : moved.mark = call.mark) : CallRecord state next index call moved := by
  subst hstage hlater
  have hvalid : moved.valid = call.valid := Call.valid_congr hportName hnewRole
  refine ⟨hcalls, hportName, hnewRole, hunfinished, ⟨?_, ?_, ?_, ?_, ?_, ?_⟩, [], ?_, ?_, ?_⟩
  · rw [hnewRole]
    exact hmode
  · rw [hnewRole]
    exact hrole
  · rw [hvalid]
    exact fun _ => hproper.valid hunfinished
  · rw [hswitch, hdecided]
    exact hproper.undecided
  · rw [hmark, hswitch]
    rintro (hplace | hplace | hplace)
    · exact hproper.marked ((hwaits (.inl hplace)).imp_right .inl)
    · exact hproper.marked ((hwaits (.inr hplace)).imp_right .inl)
    · exact hproper.marked (.inr (.inr hplace))
  · rw [hvalid, hmark, hswitch]
    exact hproper.invalid
  · rw [hwrites, List.append_nil]
  · exact fun write hmem => absurd hmem List.not_mem_nil
  · rw [Call.written, Call.written, hportName, hnewRole, hmark, hdecided, hswitch,
      List.map_nil, List.append_nil]

/-- The write of the role string. -/
theorem CallRecord.writes_role (hproper : call.Proper) (hok : call.Ok state index)
    (stage later : CallStage) (hstage : call.stage = stage) (hlater : moved.stage = later)
    (hbefore : stage.beforeWrite = true) (hholds : stage.holdsRoleSwitch = true)
    (hmode : later.inSwitchMode = true → call.newRole.type = .mode)
    (hrole : later.onRoleNode = true → call.newRole.type ≠ .mode)
    (hdecided : later.decided = true → call.newRole.type ≠ .mode)
    (hundecided : stage.decided = false) {write : Write}
    (hwriter : write.writer = .call index)
    (hnode : write.node = appendRoleNodeHelper call.portName call.newRole.type)
    (htext : write.text = convertRoletoString call.newRole)
    (hlocked : state.mRoleSwitchLock = some (.call index) → write.locked = true)
    (hcalls : next.calls = state.calls.set index moved)
    (hwrites : next.writes = state.writes ++ [write])
    (hportName : moved.portName = call.portName)
    (hnewRole : moved.newRole = call.newRole) (hswitch : moved.roleSwitch = call.roleSwitch)
    (hmark : moved.mark.isSome = true) : CallRecord state next index call moved := by
  subst hstage hlater
  have hvalid : moved.valid = call.valid := Call.valid_congr hportName hnewRole
  have hunfinished : call.stage ≠ .finished := by
    intro hfinished
    rw [hfinished] at hundecided
    contradiction
  have hcallValid : call.valid = true := hproper.valid hunfinished
  refine ⟨hcalls, hportName, hnewRole, hunfinished,
    ⟨?_, ?_, fun _ => hvalid.trans hcallValid, ?_, fun _ => hmark, ?_⟩, [write], hwrites,
    ?_, ?_⟩
  · rw [hnewRole]
    exact hmode
  · rw [hnewRole]
    exact hrole
  · rw [hswitch]
    exact fun _ => hproper.undecided hundecided
  · rw [hvalid, hcallValid]
    exact nofun
  · intro other hmem
    rw [List.mem_singleton.mp hmem]
    exact ⟨hwriter, hlocked (hok.holds.mp hholds)⟩
  · have hempty : call.written = [] := by
      simp [Call.written, (hok.unwritten hbefore).2.2, hundecided]
    have hlast : ¬(call.newRole.type = .mode ∧ moved.stage.decided = true ∧
        call.roleSwitch = false) := fun ⟨hisMode, hplace, _⟩ => hdecided hplace hisMode
    rw [hempty, Call.written, hportName, hnewRole, hswitch, if_pos hmark, if_neg hlast,
      List.append_nil, List.nil_append, List.map_singleton, hnode, htext]

/-- The verdict, with the fallback if it belongs to it. -/
theorem CallRecord.settles (hproper : call.Proper)
    (hundecided : call.stage.decided = false) (hmoved : moved.stage = .settled)
    (added : List Write)
    (hown : ∀ write ∈ added, write.writer = .call index ∧ write.locked = true)
    (hdual : added.map (fun write => (write.node, write.text)) =
      if call.newRole.type = .mode ∧ moved.roleSwitch = false then
        [(appendRoleNodeHelper call.portName call.newRole.type, "dual")]
      else [])
    (hcalls : next.calls = state.calls.set index moved)
    (hwrites : next.writes = state.writes ++ added)
    (hportName : moved.portName = call.portName)
    (hnewRole : moved.newRole = call.newRole) (hmark : moved.mark = call.mark)
    (hswitch : moved.roleSwitch = true → call.mark.isSome = true) :
    CallRecord state next index call moved := by
  have hvalid : moved.valid = call.valid := Call.valid_congr hportName hnewRole
  have hunfinished : call.stage ≠ .finished := by
    intro hfinished
    rw [hfinished] at hundecided
    contradiction
  have hcallValid : call.valid = true := hproper.valid hunfinished
  refine ⟨hcalls, hportName, hnewRole, hunfinished,
    ⟨?_, ?_, fun _ => hvalid.trans hcallValid, ?_, ?_, ?_⟩, added, hwrites, hown, ?_⟩
  · rw [hmoved]
    exact nofun
  · rw [hmoved]
    exact nofun
  · rw [hmoved]
    exact nofun
  · rw [hmoved, hmark]
    rintro (hplace | hplace | hplace)
    · contradiction
    · contradiction
    · exact hswitch hplace
  · rw [hvalid, hcallValid]
    exact nofun
  · have hsettled : CallStage.settled.decided = true := rfl
    simp [Call.written, hportName, hnewRole, hmark, hmoved, hundecided, hdual, hsettled]

/-! ## Steps of a call -/

theorem lockRoleSwitch_record (hproper : call.Proper)
    (hstep : lockRoleSwitch state index call = some next) :
    ∃ moved, CallRecord state next index call moved := by
  obtain ⟨⟨hstage, _⟩, rfl⟩ := guarded_eq_some.mp hstep
  exact ⟨_, .plain hproper .entering .opening hstage rfl nofun nofun rfl (by decide) nofun
    rfl rfl rfl rfl rfl rfl⟩

theorem fopen_record (hproper : call.Proper) {opens : Bool}
    (hstep : fopen state index call opens = some next) :
    ∃ moved, CallRecord state next index call moved := by
  obtain ⟨hstage, rfl⟩ := guarded_eq_some.mp hstep
  refine ⟨afterOpen call opens, ?_⟩
  unfold afterOpen
  split
  case isTrue hmode =>
    cases opens with
    | true =>
        exact .plain hproper .opening .locking hstage rfl (fun _ => hmode) nofun rfl
          (by decide) nofun rfl rfl rfl rfl rfl rfl
    | false =>
        exact .plain hproper .opening .fallingBack hstage rfl (fun _ => hmode) nofun rfl
          (by decide) nofun rfl rfl rfl rfl rfl rfl
  case isFalse hmode =>
    cases opens with
    | true =>
        exact .plain hproper .opening .opened hstage rfl nofun (fun _ => hmode) rfl
          (by decide) nofun rfl rfl rfl rfl rfl rfl
    | false =>
        have hundecided : call.stage.decided = false := by rw [hstage]; rfl
        have hnot : call.roleSwitch = false := hproper.undecided hundecided
        refine .settles hproper hundecided rfl [] nofun ?_ rfl (List.append_nil _).symm rfl
          rfl rfl (fun hswitch => ?_)
        · rw [if_neg fun hboth => hmode hboth.1, List.map_nil]
        · rw [show call.roleSwitch = true from hswitch] at hnot
          contradiction

theorem lockPartner_record (hproper : call.Proper)
    (hstep : lockPartner state index call = some next) :
    ∃ moved, CallRecord state next index call moved := by
  obtain ⟨⟨hstage, _⟩, rfl⟩ := guarded_eq_some.mp hstep
  have hmode : call.newRole.type = .mode := hproper.mode (by rw [hstage]; rfl)
  exact ⟨_, .plain hproper .locking .cleared hstage rfl (fun _ => hmode) nofun rfl
    (by decide) nofun rfl rfl rfl rfl rfl rfl⟩

theorem fputs_record (hproper : call.Proper) (hok : call.Ok state index) {succeeds : Bool}
    (hstep : fputs state index call succeeds = some next) :
    ∃ moved, CallRecord state next index call moved := by
  unfold fputs at hstep
  split at hstep
  case h_1 hstage =>
    have hmode : call.newRole.type = .mode := hproper.mode (by rw [hstage]; rfl)
    obtain rfl := Option.some.inj hstep
    cases succeeds with
    | true =>
        exact ⟨_, .writes_role hproper hok .cleared .waitAgain hstage rfl rfl rfl
          (fun _ => hmode) nofun nofun rfl rfl rfl rfl decide_eq_true rfl rfl rfl rfl rfl rfl⟩
    | false =>
        exact ⟨_, .writes_role hproper hok .cleared .fallingBack hstage rfl rfl rfl
          (fun _ => hmode) nofun nofun rfl rfl rfl rfl decide_eq_true rfl rfl rfl rfl rfl rfl⟩
  case h_2 hstage =>
    have hrole : call.newRole.type ≠ .mode := hproper.role (by rw [hstage]; rfl)
    obtain rfl := Option.some.inj hstep
    cases succeeds with
    | true =>
        exact ⟨_, .writes_role hproper hok .opened .written hstage rfl rfl rfl nofun
          (fun _ => hrole) nofun rfl rfl rfl rfl decide_eq_true rfl rfl rfl rfl rfl rfl⟩
    | false =>
        exact ⟨_, .writes_role hproper hok .opened .settled hstage rfl rfl rfl nofun nofun
          (fun _ => hrole) rfl rfl rfl rfl decide_eq_true rfl rfl rfl rfl rfl rfl⟩
  case h_3 => contradiction

theorem sleep_record (hproper : call.Proper)
    (hstep : sleep state index call = some next) :
    ∃ moved, CallRecord state next index call moved := by
  obtain ⟨hstage, rfl⟩ := guarded_eq_some.mp hstep
  have hmode : call.newRole.type = .mode := hproper.mode (by rw [hstage]; rfl)
  exact ⟨_, .plain hproper .waitAgain .asleep hstage rfl (fun _ => hmode) nofun rfl
    (by decide) nofun rfl rfl rfl rfl rfl rfl⟩

theorem wake_record (hproper : call.Proper) {timedOut : Bool}
    (hstep : wake state index call timedOut = some next) :
    ∃ moved, CallRecord state next index call moved := by
  obtain ⟨hstage, rfl⟩ := guarded_eq_some.mp hstep
  have hmode : call.newRole.type = .mode := hproper.mode (by rw [hstage]; rfl)
  exact ⟨_, .plain hproper .asleep (.woken timedOut) hstage rfl (fun _ => hmode) nofun rfl
    (fun _ => .inl rfl) nofun rfl rfl rfl rfl rfl rfl⟩

theorem relock_record (hproper : call.Proper)
    (hstep : relock state index call = some next) :
    ∃ moved, CallRecord state next index call moved := by
  unfold relock at hstep
  split at hstep
  case h_1 timedOut hstage _ =>
    have hmode : call.newRole.type = .mode := hproper.mode (by rw [hstage]; rfl)
    obtain rfl := Option.some.inj hstep
    exact ⟨_, .plain hproper (.woken timedOut) (.returned timedOut) hstage rfl
      (fun _ => hmode) nofun rfl (fun _ => .inl rfl) nofun rfl rfl rfl rfl rfl rfl⟩
  case h_2 => contradiction

theorem testPartner_record (hproper : call.Proper)
    (hstep : testPartner state index call = some next) :
    ∃ moved, CallRecord state next index call moved := by
  cases testPartner_cases hstep with
  | again hstage _ hnext =>
      have hmode : call.newRole.type = .mode := hproper.mode (by rw [hstage]; rfl)
      subst hnext
      exact ⟨_, .plain hproper (.returned false) .waitAgain hstage rfl (fun _ => hmode) nofun
        rfl (fun _ => .inl rfl) nofun rfl rfl rfl rfl rfl rfl⟩
  | ended timedOut hstage _ hnext =>
      have hmode : call.newRole.type = .mode := hproper.mode (by rw [hstage]; rfl)
      have hundecided : call.stage.decided = false := by rw [hstage]; rfl
      have hmark : call.mark.isSome = true := hproper.marked (.inl (by rw [hstage]; rfl))
      subst hnext
      cases timedOut with
      | true =>
          exact ⟨_, .plain hproper (.returned true) .fallingBack hstage rfl (fun _ => hmode)
            nofun rfl (by decide) nofun rfl rfl rfl rfl
            (hproper.undecided hundecided).symm rfl⟩
      | false =>
          have hdual : ¬(call.newRole.type = .mode ∧
              (call.conclude state.handled true).roleSwitch = false) := fun hboth =>
            Bool.noConfusion hboth.2
          exact ⟨_, .settles hproper hundecided rfl [] nofun (if_neg hdual).symm rfl
            (List.append_nil _).symm rfl rfl rfl fun _ => hmark⟩

theorem switchToDrp_record (hproper : call.Proper) (hok : call.Ok state index)
    (hstep : switchToDrp state index call = some next) :
    ∃ moved, CallRecord state next index call moved := by
  obtain ⟨hstage, rfl⟩ := guarded_eq_some.mp hstep
  have hmode : call.newRole.type = .mode := hproper.mode (by rw [hstage]; rfl)
  have hundecided : call.stage.decided = false := by rw [hstage]; rfl
  have hnot : call.roleSwitch = false := hproper.undecided hundecided
  have hlock : state.mRoleSwitchLock = some (.call index) :=
    hok.holds.mp (by rw [hstage]; rfl)
  refine ⟨_, .settles hproper hundecided rfl [drpWrite state (.call index) call.portName]
    ?_ ?_ rfl rfl rfl rfl rfl fun hswitch => ?_⟩
  · intro write hmem
    rw [List.mem_singleton.mp hmem]
    exact ⟨rfl, decide_eq_true hlock⟩
  · rw [if_pos ⟨hmode, hnot⟩, List.map_singleton, hmode]
    rfl
  · rw [show call.roleSwitch = true from hswitch] at hnot
    contradiction

theorem readBack_record (hproper : call.Proper) {text : Option String}
    (hstep : readBack state index call text = some next) :
    ∃ moved, CallRecord state next index call moved := by
  obtain ⟨hstage, rfl⟩ := guarded_eq_some.mp hstep
  have hrole : call.newRole.type ≠ .mode := hproper.role (by rw [hstage]; rfl)
  have hundecided : call.stage.decided = false := by rw [hstage]; rfl
  have hmark : call.mark.isSome = true := hproper.marked (.inr (.inl hstage))
  refine ⟨_, .settles hproper hundecided rfl [] nofun ?_ rfl (List.append_nil _).symm rfl
    rfl rfl fun _ => hmark⟩
  rw [if_neg fun hboth => hrole hboth.1, List.map_nil]

theorem lockCallback_record (hproper : call.Proper)
    (hstep : lockCallback state index call = some next) :
    ∃ moved, CallRecord state next index call moved := by
  obtain ⟨⟨hstage, _⟩, rfl⟩ := guarded_eq_some.mp hstep
  exact ⟨_, .plain hproper .settled .notifying hstage rfl nofun nofun rfl (by decide) nofun
    rfl rfl rfl rfl rfl rfl⟩

theorem notify_record (hproper : call.Proper) {registered : Bool}
    (hstep : notify state index call registered = some next) :
    ∃ moved, CallRecord state next index call moved := by
  obtain ⟨hstage, rfl⟩ := guarded_eq_some.mp hstep
  exact ⟨_, .plain hproper .notifying .finished hstage rfl nofun nofun rfl (by decide) nofun
    rfl rfl rfl rfl rfl rfl⟩

theorem callStep_record (hproper : call.Proper) (hok : call.Ok state index)
    {action : CallAction} (hstep : callStep state index call action = some next) :
    ∃ moved, CallRecord state next index call moved := by
  cases action with
  | lockRoleSwitch => exact lockRoleSwitch_record hproper hstep
  | fopen opens => exact fopen_record hproper hstep
  | lockPartner => exact lockPartner_record hproper hstep
  | fputs succeeds => exact fputs_record hproper hok hstep
  | sleep => exact sleep_record hproper hstep
  | wake timedOut => exact wake_record hproper hstep
  | relock => exact relock_record hproper hstep
  | testPartner => exact testPartner_record hproper hstep
  | switchToDrp => exact switchToDrp_record hproper hok hstep
  | readBack text => exact readBack_record hproper hstep
  | lockCallback => exact lockCallback_record hproper hstep
  | notify registered => exact notify_record hproper hstep

end

/-! ## Records of a run -/

/-- What a call has written, in order. -/
def State.ownWrites (state : State) (index : ℕ) : List (String × String) :=
  (state.writes.filter fun write => write.writer = .call index).map fun write =>
    (write.node, write.text)

/-- The writes to the role nodes are those that the records of the calls tell, all of them
under `mRoleSwitchLock`; a switch that is reported as done has written its role, and one
of an invalid type has written nothing. -/
structure State.Accounted (state : State) : Prop where
  own : ∀ index call, state.calls[index]? = some call → state.ownWrites index = call.written
  locked : ∀ write ∈ state.writes, ∀ index, write.writer = .call index →
    index < state.calls.length ∧ write.locked = true
  done : ∀ (index : ℕ) (call : Call), state.calls[index]? = some call →
    call.roleSwitch = true → call.mark.isSome = true
  invalid : ∀ (index : ℕ) (call : Call), state.calls[index]? = some call →
    call.valid = false → state.ownWrites index = []

structure State.Recorded (state : State) : Prop where
  proper : ∀ (index : ℕ) (call : Call), state.calls[index]? = some call → call.Proper
  own : ∀ index call, state.calls[index]? = some call → state.ownWrites index = call.written
  locked : ∀ write ∈ state.writes, ∀ index, write.writer = .call index →
    index < state.calls.length ∧ write.locked = true

theorem recorded_initial (partners : List String) : (State.initial partners).Recorded where
  proper := fun _ _ hcall => by cases hcall
  own := fun _ _ hcall => by cases hcall
  locked := fun _ hmem => absurd hmem List.not_mem_nil

theorem typec_path_ne_empty (portName file : String) :
    "/sys/class/typec/" ++ portName ++ file ≠ "" := by
  intro hempty
  have hlength := congrArg String.length hempty
  rw [String.length_append, String.length_append] at hlength
  have hdir : "/sys/class/typec/".length = 17 := by decide
  have hnil : "".length = 0 := by decide
  omega

theorem valid_of_mode {call : Call} (hmode : call.newRole.type = .mode) :
    call.valid = true := by
  rw [Call.valid, hmode]
  exact decide_eq_true (typec_path_ne_empty _ _)

section
variable {state next : State}

theorem State.Recorded.accounted (hrecorded : state.Recorded) : state.Accounted where
  own := hrecorded.own
  locked := hrecorded.locked
  done := fun index call hcall hswitch =>
    (hrecorded.proper index call hcall).marked (.inr (.inr hswitch))
  invalid := by
    intro index call hcall hinvalid
    obtain ⟨hmark, hswitch⟩ := (hrecorded.proper index call hcall).invalid hinvalid
    have hmode : call.newRole.type ≠ .mode := by
      intro hmode
      rw [valid_of_mode hmode] at hinvalid
      contradiction
    simp [hrecorded.own index call hcall, Call.written, hmark, hmode]

/-- Neither the calls nor what they have written has changed. -/
theorem State.Recorded.quiet (hrecorded : state.Recorded) (hcalls : next.calls = state.calls)
    (hwrites : next.writes = state.writes) : next.Recorded := by
  obtain ⟨hproper, hown, hlocked⟩ := hrecorded
  constructor
  · rw [hcalls]
    exact hproper
  · intro index call hcall
    rw [hcalls] at hcall
    rw [State.ownWrites, hwrites]
    exact hown index call hcall
  · rw [hcalls, hwrites]
    exact hlocked

theorem ownWrites_append {added : List Write} (hwrites : next.writes = state.writes ++ added)
    (index : ℕ) : next.ownWrites index = state.ownWrites index ++
      (added.filter fun write => write.writer = .call index).map fun write =>
        (write.node, write.text) := by
  rw [State.ownWrites, hwrites, List.filter_append, List.map_append]
  rfl

theorem CallRecord.get {index other : ℕ} {call moved found : Call}
    (hrecord : CallRecord state next index call moved)
    (hfound : next.calls[other]? = some found) :
    (other = index ∧ found = moved) ∨ (other ≠ index ∧ state.calls[other]? = some found) := by
  rw [hrecord.calls, List.getElem?_set] at hfound
  split at hfound
  case isTrue hsame =>
    split at hfound
    · exact .inl ⟨hsame.symm, (Option.some.inj hfound).symm⟩
    · contradiction
  case isFalse hother => exact .inr ⟨fun hsame => hother hsame.symm, hfound⟩

theorem State.Recorded.caller (hrecorded : state.Recorded) {index : ℕ} {call moved : Call}
    (hcall : state.calls[index]? = some call)
    (hrecord : CallRecord state next index call moved) : next.Recorded := by
  have hlength : index < state.calls.length := (List.getElem?_eq_some_iff.mp hcall).1
  obtain ⟨added, hwrites, hadded, hwritten⟩ := hrecord.writes
  constructor
  · intro other found hfound
    rcases hrecord.get hfound with ⟨_, rfl⟩ | ⟨_, hold⟩
    · exact hrecord.proper
    · exact hrecorded.proper other found hold
  · intro other found hfound
    rw [ownWrites_append hwrites]
    rcases hrecord.get hfound with ⟨rfl, rfl⟩ | ⟨hother, hold⟩
    · have hall : added.filter (fun write => write.writer = .call other) = added :=
        List.filter_eq_self.mpr fun write hmem => decide_eq_true (hadded write hmem).1
      rw [hall, hrecorded.own other call hcall, hwritten]
    · have hnone : added.filter (fun write => write.writer = .call other) = [] := by
        refine List.filter_eq_nil_iff.mpr fun write hmem hwriter => hother ?_
        have hindex := (hadded write hmem).1.symm.trans (of_decide_eq_true hwriter)
        exact (Party.call.inj hindex).symm
      rw [hnone, List.map_nil, List.append_nil]
      exact hrecorded.own other found hold
  · intro write hmem other hwriter
    rw [hrecord.calls, List.length_set]
    rw [hwrites, List.mem_append] at hmem
    rcases hmem with hold | hnew
    · exact hrecorded.locked write hold other hwriter
    · obtain ⟨hmine, hlocked⟩ := hadded write hnew
      rw [hmine] at hwriter
      cases hwriter
      exact ⟨hlength, hlocked⟩

/-- The worker writes for itself, and tells nobody anything. -/
structure WorkerRecord (state next : State) : Prop where
  calls : next.calls = state.calls
  notifications : next.notifications = state.notifications
  writes : ∃ added, next.writes = state.writes ++ added ∧
    ∀ write ∈ added, write.writer = .worker

theorem WorkerRecord.quiet (hcalls : next.calls = state.calls)
    (hnotifications : next.notifications = state.notifications)
    (hwrites : next.writes = state.writes) : WorkerRecord state next :=
  ⟨hcalls, hnotifications, [], by rw [hwrites, List.append_nil], nofun⟩

theorem parse_record (hstep : parse state = some next) : WorkerRecord state next := by
  unfold parse at hstep
  split at hstep
  case h_1 =>
    obtain rfl := Option.some.inj hstep
    exact .quiet rfl rfl rfl
  case h_2 =>
    obtain ⟨_, rfl⟩ := guarded_eq_some.mp hstep
    exact .quiet rfl rfl rfl
  case h_3 =>
    obtain ⟨_, rfl⟩ := guarded_eq_some.mp hstep
    exact .quiet rfl rfl rfl
  case h_4 =>
    obtain rfl := Option.some.inj hstep
    exact .quiet rfl rfl rfl
  case h_5 => contradiction

theorem restore_record (hstep : restore state = some next) : WorkerRecord state next := by
  unfold restore at hstep
  split at hstep
  case h_1 =>
    obtain rfl := Option.some.inj hstep
    exact .quiet rfl rfl rfl
  case h_2 =>
    split at hstep
    · obtain rfl := Option.some.inj hstep
      exact .quiet rfl rfl rfl
    · obtain rfl := Option.some.inj hstep
      exact .quiet rfl rfl rfl
  case h_3 portName ports _ =>
    obtain rfl := Option.some.inj hstep
    refine ⟨rfl, rfl, [drpWrite state .worker portName], rfl, fun write hmem => ?_⟩
    rw [List.mem_singleton.mp hmem]
    rfl
  case h_4 => contradiction

theorem workerStep_record {action : WorkerAction} (hstep : workerStep state action = some next) :
    WorkerRecord state next := by
  cases action with
  | receive =>
      rw [workerStep, receive.eq_def] at hstep
      split at hstep
      · obtain rfl := Option.some.inj hstep
        exact .quiet rfl rfl rfl
      · contradiction
  | parse => exact parse_record hstep
  | query currentPortStatus =>
      obtain ⟨_, rfl⟩ := guarded_eq_some.mp hstep
      exact .quiet rfl rfl rfl
  | trylock =>
      rw [workerStep, trylock.eq_def] at hstep
      split at hstep
      · split at hstep
        · obtain rfl := Option.some.inj hstep
          exact .quiet rfl rfl rfl
        · obtain rfl := Option.some.inj hstep
          exact .quiet rfl rfl rfl
      · contradiction
  | restore => exact restore_record hstep

theorem State.Recorded.worker (hrecorded : state.Recorded)
    (hrecord : WorkerRecord state next) : next.Recorded := by
  obtain ⟨hcalls, _, added, hwrites, hadded⟩ := hrecord
  have hown : next.ownWrites = state.ownWrites := by
    funext index
    have hnone : added.filter (fun write => write.writer = .call index) = [] := by
      refine List.filter_eq_nil_iff.mpr fun write hmem hwriter => ?_
      have hother := (hadded write hmem).symm.trans (of_decide_eq_true hwriter)
      cases hother
    rw [ownWrites_append hwrites, hnone, List.map_nil, List.append_nil]
  constructor
  · rw [hcalls]
    exact hrecorded.proper
  · rw [hcalls, hown]
    exact hrecorded.own
  · intro write hmem index hwriter
    rw [hcalls]
    rw [hwrites, List.mem_append] at hmem
    rcases hmem with hold | hnew
    · exact hrecorded.locked write hold index hwriter
    · rw [hadded write hnew] at hwriter
      cases hwriter

/-- A call that has only just come. -/
structure Call.Fresh (call : Call) : Prop where
  roleSwitch : call.roleSwitch = false
  mark : call.mark = none
  stage : (call.stage = .entering ∧ call.valid = true) ∨
    (call.stage = .finished ∧ call.valid = false)

theorem switchRole_get {portName : String} {newRole : PortRole} {index : ℕ} {call : Call}
    (hcall : (switchRole state portName newRole).calls[index]? = some call) :
    state.calls[index]? = some call ∨ (index = state.calls.length ∧ call.Fresh) := by
  rw [switchRole, List.getElem?_append] at hcall
  split at hcall
  case isTrue => exact .inl hcall
  case isFalse hlength =>
    obtain ⟨hindex, rfl⟩ := List.getElem?_eq_some_iff.mp hcall
    rw [List.length_singleton] at hindex
    refine .inr ⟨by omega, ?_⟩
    rw [List.getElem_singleton]
    refine ⟨rfl, rfl, ?_⟩
    by_cases hempty : appendRoleNodeHelper portName newRole.type = ""
    · exact .inr ⟨if_pos hempty, decide_eq_false (not_not.mpr hempty)⟩
    · exact .inl ⟨if_neg hempty, decide_eq_true hempty⟩

theorem Call.Fresh.proper {call : Call} (hfresh : call.Fresh) : call.Proper := by
  obtain ⟨hswitch, hmark, hstage⟩ := hfresh
  rcases hstage with ⟨hstage, hvalid⟩ | ⟨hstage, hvalid⟩
  · refine ⟨?_, ?_, fun _ => hvalid, fun _ => hswitch, ?_, fun _ => ⟨hmark, hswitch⟩⟩
      <;> simp [hstage, hswitch, CallStage.inSwitchMode, CallStage.onRoleNode,
        CallStage.waits]
  · refine ⟨?_, ?_, fun h => absurd hstage h, ?_, ?_, fun _ => ⟨hmark, hswitch⟩⟩
      <;> simp [hstage, hswitch, CallStage.inSwitchMode, CallStage.onRoleNode,
        CallStage.waits, CallStage.decided]

theorem Call.Fresh.written {call : Call} (hfresh : call.Fresh) : call.written = [] := by
  have hnone : ¬(call.newRole.type = .mode ∧ call.stage.decided = true ∧
      call.roleSwitch = false) := by
    rintro ⟨hmode, hdecided, _⟩
    rcases hfresh.stage with ⟨hstage, _⟩ | ⟨_, hvalid⟩
    · rw [hstage] at hdecided
      contradiction
    · rw [valid_of_mode hmode] at hvalid
      contradiction
  rw [Call.written, hfresh.mark, if_neg hnone]
  rfl

theorem State.Recorded.switchRole (hrecorded : state.Recorded) (portName : String)
    (newRole : PortRole) : (switchRole state portName newRole).Recorded := by
  constructor
  · intro index call hcall
    rcases switchRole_get hcall with hold | ⟨_, hfresh⟩
    · exact hrecorded.proper index call hold
    · exact hfresh.proper
  · intro index call hcall
    rcases switchRole_get hcall with hold | ⟨hindex, hfresh⟩
    · exact hrecorded.own index call hold
    · have hnone : state.writes.filter (fun write => write.writer = .call index) = [] := by
        refine List.filter_eq_nil_iff.mpr fun write hmem hwriter => ?_
        have hlength := (hrecorded.locked write hmem index (of_decide_eq_true hwriter)).1
        omega
      rw [hfresh.written]
      exact congrArg (List.map _) hnone
  · intro write hmem index hwriter
    obtain ⟨hlength, hlocked⟩ := hrecorded.locked write hmem index hwriter
    rw [RoleSwitch.switchRole, List.length_append]
    exact ⟨Nat.lt_add_right _ hlength, hlocked⟩

theorem State.Recorded.step (hinv : state.Invariant) (hrecorded : state.Recorded)
    {action : Action} (hstep : RoleSwitch.step state action = some next) : next.Recorded := by
  cases action with
  | emit fields =>
      obtain rfl := Option.some.inj hstep
      exact ⟨hrecorded.proper, hrecorded.own, hrecorded.locked⟩
  | partnerDir portName there =>
      obtain rfl := Option.some.inj hstep
      exact ⟨hrecorded.proper, hrecorded.own, hrecorded.locked⟩
  | switchRole portName newRole =>
      obtain rfl := Option.some.inj hstep
      exact hrecorded.switchRole portName newRole
  | caller index action =>
      obtain ⟨call, hcall, hcallStep⟩ := caller_cases hstep
      obtain ⟨moved, hrecord⟩ := callStep_record (hrecorded.proper index call hcall)
        (hinv.calls index call hcall) hcallStep
      exact hrecorded.caller hcall hrecord
  | worker action => exact hrecorded.worker (workerStep_record hstep)

end

/-- The call that returns with this step. -/
def concluded : Action → Option ℕ
  | .caller index (.notify _) => some index
  | _ => none

/-- The call that reports to the client in this step. -/
def told : Action → Option ℕ
  | .caller index (.notify true) => some index
  | _ => none

def State.Concluded (state : State) (index : ℕ) : Prop :=
  ∃ call, state.calls[index]? = some call ∧ call.stage = .finished ∧ call.valid = true

def State.answer (state : State) (index : ℕ) : Option (String × PortRole × V1_0.Status) :=
  (state.calls[index]?).map Call.answer

/-- The calls of a valid type that have returned are those that have come to their
notification, each of them once; and the client has been told the verdicts of those that
found it registered, in that order. -/
structure Answered (done : List Action) (state : State) : Prop where
  once : (done.filterMap concluded).Nodup
  all : ∀ index, index ∈ done.filterMap concluded ↔ state.Concluded index
  notifications : state.notifications = (done.filterMap told).filterMap state.answer

section
variable {state next : State} {index : ℕ} {call moved : Call} {done : List Action}
  {action : Action}

theorem told_concluded (actions : List Action) :
    ∀ index ∈ actions.filterMap told, index ∈ actions.filterMap concluded := by
  intro index hmem
  obtain ⟨action, haction, htold⟩ := List.mem_filterMap.mp hmem
  refine List.mem_filterMap.mpr ⟨action, haction, ?_⟩
  unfold told at htold
  split at htold
  · exact htold
  · contradiction

/-- Whoever has returned is not heard of any more. -/
theorem Answered.answers_kept (hanswered : Answered done state)
    (hkept : ∀ index, state.Concluded index → next.calls[index]? = state.calls[index]?) :
    (done.filterMap told).filterMap next.answer =
      (done.filterMap told).filterMap state.answer := by
  refine List.filterMap_congr fun index hmem => ?_
  have hconcluded := (hanswered.all index).mp (told_concluded done index hmem)
  rw [State.answer, State.answer, hkept index hconcluded]

/-- A step in which nobody returns. -/
theorem Answered.silent (hanswered : Answered done state) (hnone : concluded action = none)
    (hkept : ∀ index, state.Concluded index → next.calls[index]? = state.calls[index]?)
    (hall : ∀ index, next.Concluded index → state.Concluded index)
    (hnotifications : next.notifications = state.notifications) :
    Answered (done ++ [action]) next := by
  have htold : told action = none := by
    cases htold : told action with
    | none => rfl
    | some index =>
        have hmem := told_concluded [action] index (by simp [htold])
        simp [hnone] at hmem
  have hconcluded : (done ++ [action]).filterMap concluded = done.filterMap concluded := by
    simp [List.filterMap_append, hnone]
  constructor
  · rw [hconcluded]
    exact hanswered.once
  · intro index
    rw [hconcluded, hanswered.all index]
    refine ⟨fun hstate => ?_, hall index⟩
    rw [State.Concluded, hkept index hstate]
    exact hstate
  · rw [hnotifications, hanswered.notifications, List.filterMap_append,
      List.filterMap_append, hanswered.answers_kept hkept]
    simp [htold]

/-- Apart from its notification, a step of a call does not let it return. -/
theorem callStep_silent {action : CallAction}
    (hother : ∀ registered, action ≠ .notify registered)
    (hstep : callStep state index call action = some next) :
    ∃ moved, next.calls = state.calls.set index moved ∧ moved.stage ≠ .finished ∧
      next.notifications = state.notifications := by
  cases action with
  | lockRoleSwitch =>
      obtain ⟨_, rfl⟩ := guarded_eq_some.mp hstep
      exact ⟨_, rfl, nofun, rfl⟩
  | fopen opens =>
      obtain ⟨_, rfl⟩ := guarded_eq_some.mp hstep
      refine ⟨_, rfl, ?_, rfl⟩
      unfold afterOpen
      split
      · cases opens <;> exact nofun
      · cases opens <;> exact nofun
  | lockPartner =>
      obtain ⟨_, rfl⟩ := guarded_eq_some.mp hstep
      exact ⟨_, rfl, nofun, rfl⟩
  | fputs succeeds =>
      rw [callStep, fputs.eq_def] at hstep
      split at hstep
      · obtain rfl := Option.some.inj hstep
        cases succeeds <;> exact ⟨_, rfl, nofun, rfl⟩
      · obtain rfl := Option.some.inj hstep
        cases succeeds <;> exact ⟨_, rfl, nofun, rfl⟩
      · contradiction
  | sleep =>
      obtain ⟨_, rfl⟩ := guarded_eq_some.mp hstep
      exact ⟨_, rfl, nofun, rfl⟩
  | wake timedOut =>
      obtain ⟨_, rfl⟩ := guarded_eq_some.mp hstep
      exact ⟨_, rfl, nofun, rfl⟩
  | relock =>
      rw [callStep, relock.eq_def] at hstep
      split at hstep
      · obtain rfl := Option.some.inj hstep
        exact ⟨_, rfl, nofun, rfl⟩
      · contradiction
  | testPartner =>
      cases testPartner_cases hstep with
      | again _ _ hnext =>
          subst hnext
          exact ⟨_, rfl, nofun, rfl⟩
      | ended timedOut _ _ hnext =>
          subst hnext
          cases timedOut <;> exact ⟨_, rfl, nofun, rfl⟩
  | switchToDrp =>
      obtain ⟨_, rfl⟩ := guarded_eq_some.mp hstep
      exact ⟨_, rfl, nofun, rfl⟩
  | readBack text =>
      obtain ⟨_, rfl⟩ := guarded_eq_some.mp hstep
      exact ⟨_, rfl, nofun, rfl⟩
  | lockCallback =>
      obtain ⟨_, rfl⟩ := guarded_eq_some.mp hstep
      exact ⟨_, rfl, nofun, rfl⟩
  | notify registered => exact absurd rfl (hother registered)

theorem concluded_of_set {other : ℕ} (hcalls : next.calls = state.calls.set index moved)
    (hother : other ≠ index) : next.Concluded other ↔ state.Concluded other := by
  rw [State.Concluded, State.Concluded, hcalls, List.getElem?_set_ne hother.symm]

theorem not_concluded_of_unfinished (hcall : state.calls[index]? = some call)
    (hunfinished : call.stage ≠ .finished) : ¬state.Concluded index := by
  rintro ⟨found, hfound, hfinished, _⟩
  rw [hcall] at hfound
  cases hfound
  contradiction

theorem Answered.silentCall (hanswered : Answered done state)
    (hcall : state.calls[index]? = some call) (hunfinished : call.stage ≠ .finished)
    (hnone : concluded action = none) (hcalls : next.calls = state.calls.set index moved)
    (hmoved : moved.stage ≠ .finished)
    (hnotifications : next.notifications = state.notifications) :
    Answered (done ++ [action]) next := by
  have hindex : next.calls[index]? = some moved := by
    rw [hcalls, List.getElem?_set_self (List.getElem?_eq_some_iff.mp hcall).1]
  refine hanswered.silent hnone (fun other hconcluded => ?_) (fun other hconcluded => ?_)
    hnotifications
  · have hother : index ≠ other := by
      rintro rfl
      exact not_concluded_of_unfinished hcall hunfinished hconcluded
    rw [hcalls, List.getElem?_set_ne hother]
  · have hother : other ≠ index := by
      rintro rfl
      exact not_concluded_of_unfinished hindex hmoved hconcluded
    exact (concluded_of_set hcalls hother).mp hconcluded

theorem notify_cases {registered : Bool}
    (hstep : notify state index call registered = some next) :
    call.stage = .notifying ∧
      next.calls = state.calls.set index { call with stage := .finished } ∧
      next.notifications = state.notifications ++
        if registered then [call.answer] else [] := by
  obtain ⟨hstage, rfl⟩ := guarded_eq_some.mp hstep
  exact ⟨hstage, rfl, rfl⟩

/-- The call returns, and tells the client if it is registered. -/
theorem Answered.notify (hanswered : Answered done state) (hproper : call.Proper)
    (hcall : state.calls[index]? = some call) {registered : Bool}
    (hstep : notify state index call registered = some next) :
    Answered (done ++ [Action.caller index (.notify registered)]) next := by
  obtain ⟨hstage, hcalls, hnotifications⟩ := notify_cases hstep
  have hunfinished : call.stage ≠ .finished := by rw [hstage]; nofun
  have hnot : ¬state.Concluded index := not_concluded_of_unfinished hcall hunfinished
  have hnew : next.calls[index]? = some { call with stage := .finished } := by
    rw [hcalls, List.getElem?_set_self (List.getElem?_eq_some_iff.mp hcall).1]
  have hkept : ∀ other, state.Concluded other →
      next.calls[other]? = state.calls[other]? := by
    intro other hother
    have hne : index ≠ other := by
      rintro rfl
      exact hnot hother
    rw [hcalls, List.getElem?_set_ne hne]
  have hconcluded : (done ++ [Action.caller index (.notify registered)]).filterMap concluded =
      done.filterMap concluded ++ [index] := by
    simp [List.filterMap_append, concluded]
  constructor
  · rw [hconcluded, List.nodup_append_comm]
    exact List.nodup_cons.mpr ⟨fun hmem => hnot ((hanswered.all index).mp hmem),
      hanswered.once⟩
  · intro other
    rw [hconcluded, List.mem_append, List.mem_singleton, hanswered.all other]
    by_cases hother : other = index
    · subst other
      exact iff_of_true (.inr rfl) ⟨_, hnew, rfl, hproper.valid hunfinished⟩
    · rw [concluded_of_set hcalls hother]
      exact or_iff_left hother
  · rw [hnotifications, hanswered.notifications, List.filterMap_append,
      List.filterMap_append, hanswered.answers_kept hkept]
    cases registered with
    | true => simp [told, State.answer, hnew, Call.answer]
    | false => simp [told]

theorem Answered.caller (hanswered : Answered done state) (hrecorded : state.Recorded)
    (hinv : state.Invariant) (hcall : state.calls[index]? = some call) {action : CallAction}
    (hstep : callStep state index call action = some next) :
    Answered (done ++ [Action.caller index action]) next := by
  have hproper := hrecorded.proper index call hcall
  by_cases hnotify : ∃ registered, action = .notify registered
  · obtain ⟨registered, rfl⟩ := hnotify
    exact hanswered.notify hproper hcall hstep
  · push Not at hnotify
    obtain ⟨_, hrecord⟩ := callStep_record hproper (hinv.calls index call hcall) hstep
    obtain ⟨_, hcalls, hmoved, hnotifications⟩ := callStep_silent hnotify hstep
    have hnone : concluded (Action.caller index action) = none := by
      cases action <;> first | rfl | exact absurd rfl (hnotify _)
    exact hanswered.silentCall hcall hrecord.unfinished hnone hcalls hmoved hnotifications

theorem Answered.step (hanswered : Answered done state) (hrecorded : state.Recorded)
    (hinv : state.Invariant) (hstep : RoleSwitch.step state action = some next) :
    Answered (done ++ [action]) next := by
  cases action with
  | emit fields =>
      obtain rfl := Option.some.inj hstep
      exact hanswered.silent rfl (fun _ _ => rfl) (fun _ => id) rfl
  | partnerDir portName there =>
      obtain rfl := Option.some.inj hstep
      exact hanswered.silent rfl (fun _ _ => rfl) (fun _ => id) rfl
  | switchRole portName newRole =>
      obtain rfl := Option.some.inj hstep
      refine hanswered.silent rfl (fun index hconcluded => ?_) (fun index hconcluded => ?_) rfl
      · obtain ⟨call, hcall, _⟩ := hconcluded
        exact List.getElem?_append_left (List.getElem?_eq_some_iff.mp hcall).1
      · obtain ⟨call, hcall, hfinished, hvalid⟩ := hconcluded
        rcases switchRole_get hcall with hold | ⟨_, hfresh⟩
        · exact ⟨call, hold, hfinished, hvalid⟩
        · rcases hfresh.stage with ⟨hstage, _⟩ | ⟨_, hinvalid⟩
          · rw [hstage] at hfinished
            contradiction
          · rw [hvalid] at hinvalid
            contradiction
  | caller index action =>
      obtain ⟨call, hcall, hcallStep⟩ := caller_cases hstep
      exact hanswered.caller hrecorded hinv hcall hcallStep
  | worker action =>
      have hrecord := workerStep_record hstep
      refine hanswered.silent rfl (fun index _ => ?_) (fun index hconcluded => ?_)
        hrecord.notifications
      · rw [hrecord.calls]
      · rw [State.Concluded, hrecord.calls] at hconcluded
        exact hconcluded

end

/-- Every call of a valid type is answered once, with its own port and role and with its
verdict, and the answers come in the order in which the calls return. -/
theorem role_switches_answered (partners : List String) {actions : List Action}
    {state : State} (hrun : run step (.initial partners) actions = some state) :
    Answered actions state := by
  have hstart : Answered [] (.initial partners) := by
    refine ⟨List.nodup_nil, fun index => ?_, rfl⟩
    refine iff_of_false List.not_mem_nil ?_
    rintro ⟨call, hcall, _⟩
    cases hcall
  refine (run_history
    (J := fun done state => state.Invariant ∧ state.Recorded ∧ Answered done state)
    ?_ ⟨invariant_initial partners, recorded_initial partners, hstart⟩ hrun).2.2
  rintro done state action next ⟨hinv, hrecorded, hanswered⟩ hstep
  exact ⟨hinv.step hstep, hrecorded.step hinv hstep, hanswered.step hrecorded hinv hstep⟩

/-- Two calls that overlap: the second waits for the mutex, and is answered second. -/
theorem role_switches_answered_overlapping :
    ∃ state, run step (.initial [])
        [.switchRole "port0" ⟨.dataRole, PortDataRole.host⟩,
          .switchRole "port0" ⟨.powerRole, PortPowerRole.sink⟩,
          .caller 0 .lockRoleSwitch, .caller 0 (.fopen true), .caller 0 (.fputs true),
          .caller 0 (.readBack (some "[host] device\n")), .caller 0 .lockCallback,
          .caller 0 (.notify true), .caller 1 .lockRoleSwitch, .caller 1 (.fopen false),
          .caller 1 .lockCallback, .caller 1 (.notify true)] = some state ∧
      Answered
        [.switchRole "port0" ⟨.dataRole, PortDataRole.host⟩,
          .switchRole "port0" ⟨.powerRole, PortPowerRole.sink⟩,
          .caller 0 .lockRoleSwitch, .caller 0 (.fopen true), .caller 0 (.fputs true),
          .caller 0 (.readBack (some "[host] device\n")), .caller 0 .lockCallback,
          .caller 0 (.notify true), .caller 1 .lockRoleSwitch, .caller 1 (.fopen false),
          .caller 1 .lockCallback, .caller 1 (.notify true)] state ∧
      state.notifications =
        [("port0", ⟨.dataRole, PortDataRole.host⟩, .success),
          ("port0", ⟨.powerRole, PortPowerRole.sink⟩, .error)] :=
  ⟨_, rfl, role_switches_answered [] rfl, by decide⟩

end RoleSwitch
end Camellia.Usb

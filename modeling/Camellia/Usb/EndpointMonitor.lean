import Camellia.Transition

/-!
# The endpoint monitor

`monitorFfs` pulls the gadget up when all endpoints of `mEndpointList` are there, and
again when they have been away.  Every change in their directories queues an inotify
event, but what an event says is not looked at: for each one the endpoints are tested
one after the other, as they are by then.  Here a check is as many steps as there are
endpoints, and files come and go between any two of them.
-/

namespace Camellia.Usb
namespace EndpointMonitor

open Transition

/-- Where the monitor is: in a check, with the endpoints still to be tested, before the
write to the UDC, after one that succeeded, in `epoll_wait`, gone. -/
inductive Stage where
  | checking (remaining : List String)
  | pullingUp
  | recording
  | waiting
  | stopped
deriving DecidableEq

/-- No event is being handled. -/
def Stage.idle : Stage → Bool
  | .waiting | .stopped => true
  | _ => false

/-- `readings` are the results of the current check, or of the last one; `absentSince` tells
whether some endpoint has been absent at or after the last attempt to pull up, which it
does also before the first; `udcWrites` has the check before each write to the UDC. -/
structure State where
  mEndpointList : List String
  present : List String
  unhandled : ℕ
  writeUdc : Bool
  stage : Stage
  readings : List (String × Bool)
  absentSince : Bool
  udcWrites : List (List (String × Bool))
deriving DecidableEq

/-- The directories are watched before the thread starts, so that events may be waiting
for it. -/
def State.initial (mEndpointList present : List String) (unhandled : ℕ) : State where
  mEndpointList := mEndpointList
  present := present
  unhandled := unhandled
  writeUdc := true
  stage := .checking mEndpointList
  readings := []
  absentSince := true
  udcWrites := []

def State.allPresent (state : State) : Bool :=
  state.mEndpointList.all fun endpoint => endpoint ∈ state.present

inductive Action where
  -- the file system
  | removed (file : String)
  | created (file : String)
  | otherEvent
  -- the monitor
  | check
  | pullUp (succeeds : Bool)
  | record
  | handleEvent
  | stop
deriving DecidableEq

/-- What follows a check, `descriptorPresent` being its result.  The one before the loop
does the same, since `writeUdc` is still set then. -/
def finishCheck (state : State) (descriptorPresent : Bool) : State :=
  if !descriptorPresent && !state.writeUdc then
    { state with writeUdc := true, stage := .waiting }
  else if descriptorPresent && state.writeUdc then { state with stage := .pullingUp }
  else { state with stage := .waiting }

/-- One call of `access`, or the end of the loop over them. -/
def check (state : State) : Option State :=
  match state.stage with
  | .checking [] => some (finishCheck state true)
  | .checking (endpoint :: remaining) =>
      if endpoint ∈ state.present then
        some { state with
          stage := .checking remaining
          readings := state.readings ++ [(endpoint, true)] }
      else
        some (finishCheck
          { state with readings := state.readings ++ [(endpoint, false)] } false)
  | _ => none

def pullUp (state : State) (succeeds : Bool) : Option State := do
  guard (state.stage = .pullingUp)
  return { state with
    stage := if succeeds then .recording else .waiting
    absentSince := !state.allPresent
    udcWrites := state.udcWrites ++ [state.readings] }

def record (state : State) : Option State := do
  guard (state.stage = .recording)
  return { state with stage := .waiting, writeUdc := false }

def handleEvent (state : State) : Option State := do
  guard (state.stage = .waiting ∧ 0 < state.unhandled)
  return { state with
    unhandled := state.unhandled - 1
    stage := .checking state.mEndpointList
    readings := [] }

def stop (state : State) : Option State := do
  guard (state.stage = .waiting)
  return { state with stage := .stopped }

def removed (state : State) (file : String) : Option State := do
  guard (file ∈ state.present)
  let present := state.present.filter fun other => other ≠ file
  return { state with
    present := present
    unhandled := state.unhandled + 1
    absentSince :=
      state.absentSince || !state.mEndpointList.all fun endpoint => endpoint ∈ present }

def created (state : State) (file : String) : Option State := do
  guard (file ∉ state.present)
  return { state with present := file :: state.present, unhandled := state.unhandled + 1 }

def step (state : State) : Action → Option State
  | .removed file => removed state file
  | .created file => created state file
  | .otherEvent => some { state with unhandled := state.unhandled + 1 }
  | .check => check state
  | .pullUp succeeds => pullUp state succeeds
  | .record => record state
  | .handleEvent => handleEvent state
  | .stop => stop state

/-! ## What the monitor is for -/

def allFound (endpoints : List String) : List (String × Bool) :=
  endpoints.map fun endpoint => (endpoint, true)

/-- Once all events are handled and all endpoints are there, a pull-up has been attempted
since the last of them came back; and the UDC is written after such checks only. -/
structure State.PulledUp (state : State) : Prop where
  again : state.stage.idle = true → state.unhandled = 0 → state.allPresent = true →
    state.absentSince = false
  checked : ∀ readings ∈ state.udcWrites, readings = allFound state.mEndpointList

/-- The check for the last event does not find all endpoints back unless an earlier one has
found them away, or they have not been away. -/
def Noticed (state : State) (action : Action) : Prop :=
  action = .check → state.stage = .checking [] → state.unhandled = 0 →
    state.writeUdc = true ∨ state.absentSince = false

instance (state : State) (action : Action) : Decidable (Noticed state action) :=
  inferInstanceAs (Decidable (_ → _ → _ → _))

/-! ## Invariant -/

/-- `front` are the endpoints that the check has found so far.  If no event is left, then
nothing has changed since it began. -/
structure CheckedFront (state : State) (front remaining : List String) : Prop where
  split : state.mEndpointList = front ++ remaining
  readings : state.readings = allFound front
  current : state.unhandled = 0 → ∀ endpoint ∈ front, endpoint ∈ state.present

structure State.Invariant (state : State) : Prop where
  checking : ∀ remaining, state.stage = .checking remaining →
    ∃ front, CheckedFront state front remaining
  pullingUp : state.stage = .pullingUp → state.readings = allFound state.mEndpointList
  recording : state.stage = .recording → state.unhandled = 0 → state.allPresent = true →
    state.absentSince = false
  udcWrites : ∀ readings ∈ state.udcWrites, readings = allFound state.mEndpointList

theorem invariant_initial (mEndpointList present : List String) (unhandled : ℕ) :
    (State.initial mEndpointList present unhandled).Invariant where
  checking := by
    intro remaining hstage
    cases hstage
    exact ⟨[], rfl, rfl, fun _ _ hmem => absurd hmem List.not_mem_nil⟩
  pullingUp := fun hstage => by cases hstage
  recording := fun hstage => by cases hstage
  udcWrites := fun _ hmem => absurd hmem List.not_mem_nil

theorem invariant_of_idle {state : State} (hidle : state.stage.idle = true)
    (hwrites : ∀ readings ∈ state.udcWrites, readings = allFound state.mEndpointList) :
    state.Invariant where
  checking := by
    intro remaining hstage
    rw [hstage] at hidle
    contradiction
  pullingUp := by
    intro hstage
    rw [hstage] at hidle
    contradiction
  recording := by
    intro hstage
    rw [hstage] at hidle
    contradiction
  udcWrites := hwrites

structure Queues (state next : State) : Prop where
  mEndpointList : next.mEndpointList = state.mEndpointList
  stage : next.stage = state.stage
  readings : next.readings = state.readings
  udcWrites : next.udcWrites = state.udcWrites
  unhandled : next.unhandled = state.unhandled + 1

theorem State.Invariant.queues {state next : State} (hinv : state.Invariant)
    (hqueues : Queues state next) : next.Invariant where
  checking := by
    intro remaining hstage
    obtain ⟨front, hsplit, hreadings, _⟩ :=
      hinv.checking remaining (hqueues.stage ▸ hstage)
    refine ⟨front, hqueues.mEndpointList ▸ hsplit, hqueues.readings ▸ hreadings, ?_⟩
    intro hnone
    rw [hqueues.unhandled] at hnone
    contradiction
  pullingUp := by
    intro hstage
    rw [hqueues.readings, hqueues.mEndpointList]
    exact hinv.pullingUp (hqueues.stage ▸ hstage)
  recording := by
    intro _ hnone
    rw [hqueues.unhandled] at hnone
    contradiction
  udcWrites := by
    rw [hqueues.udcWrites, hqueues.mEndpointList]
    exact hinv.udcWrites

theorem State.PulledUp.queues {state next : State} (hpulled : state.PulledUp)
    (hqueues : Queues state next) : next.PulledUp where
  again := by
    intro _ hnone
    rw [hqueues.unhandled] at hnone
    contradiction
  checked := by
    rw [hqueues.udcWrites, hqueues.mEndpointList]
    exact hpulled.checked

/-! ## Steps -/

/-- What a step can do: something in the directories, or a move of the monitor. -/
inductive Moves (state next : State) : Action → Prop where
  | queued (action : Action) (hother : action ≠ .check) (hqueues : Queues state next) :
      Moves state next action
  | found (endpoint : String) (remaining : List String)
      (hstage : state.stage = .checking (endpoint :: remaining))
      (hpresent : endpoint ∈ state.present)
      (hnext : next = { state with
        stage := .checking remaining
        readings := state.readings ++ [(endpoint, true)] }) : Moves state next .check
  | absent (endpoint : String) (remaining : List String)
      (hstage : state.stage = .checking (endpoint :: remaining))
      (habsent : endpoint ∉ state.present)
      (hnext : next = { state with
        stage := .waiting
        writeUdc := true
        readings := state.readings ++ [(endpoint, false)] }) : Moves state next .check
  | complete (hstage : state.stage = .checking [])
      (hnext : next = { state with
        stage := if state.writeUdc then .pullingUp else .waiting }) : Moves state next .check
  | pullUp (succeeds : Bool) (hstage : state.stage = .pullingUp)
      (hnext : next = { state with
        stage := if succeeds then .recording else .waiting
        absentSince := !state.allPresent
        udcWrites := state.udcWrites ++ [state.readings] }) :
      Moves state next (.pullUp succeeds)
  | record (hstage : state.stage = .recording)
      (hnext : next = { state with stage := .waiting, writeUdc := false }) :
      Moves state next .record
  | handleEvent (hstage : state.stage = .waiting)
      (hnext : next = { state with
        unhandled := state.unhandled - 1
        stage := .checking state.mEndpointList
        readings := [] }) : Moves state next .handleEvent
  | stop (hstage : state.stage = .waiting)
      (hnext : next = { state with stage := .stopped }) : Moves state next .stop

theorem finishCheck_true (state : State) :
    finishCheck state true = { state with
      stage := if state.writeUdc then .pullingUp else .waiting } := by
  cases hwrite : state.writeUdc <;> simp [finishCheck, hwrite]

theorem finishCheck_false (state : State) :
    finishCheck state false = { state with stage := .waiting, writeUdc := true } := by
  cases hwrite : state.writeUdc <;> simp [finishCheck, hwrite]

theorem moves_check {state next : State} (hstep : check state = some next) :
    Moves state next .check := by
  unfold check at hstep
  split at hstep
  case h_1 hstage =>
    rw [Option.some.injEq, finishCheck_true] at hstep
    exact .complete hstage hstep.symm
  case h_2 endpoint remaining hstage =>
    split at hstep
    case isTrue hpresent =>
      exact .found endpoint remaining hstage hpresent (Option.some.inj hstep).symm
    case isFalse habsent =>
      rw [Option.some.injEq, finishCheck_false] at hstep
      exact .absent endpoint remaining hstage habsent hstep.symm
  case h_3 => contradiction

theorem step_moves {state next : State} {action : Action}
    (hstep : step state action = some next) : Moves state next action := by
  cases action with
  | removed file =>
      obtain ⟨_, rfl⟩ := guarded_eq_some.mp hstep
      exact .queued _ Action.noConfusion ⟨rfl, rfl, rfl, rfl, rfl⟩
  | created file =>
      obtain ⟨_, rfl⟩ := guarded_eq_some.mp hstep
      exact .queued _ Action.noConfusion ⟨rfl, rfl, rfl, rfl, rfl⟩
  | otherEvent =>
      obtain rfl := Option.some.inj hstep
      exact .queued _ Action.noConfusion ⟨rfl, rfl, rfl, rfl, rfl⟩
  | check => exact moves_check hstep
  | pullUp succeeds =>
      obtain ⟨hstage, rfl⟩ := guarded_eq_some.mp hstep
      exact .pullUp succeeds hstage rfl
  | record =>
      obtain ⟨hstage, rfl⟩ := guarded_eq_some.mp hstep
      exact .record hstage rfl
  | handleEvent =>
      obtain ⟨⟨hstage, _⟩, rfl⟩ := guarded_eq_some.mp hstep
      exact .handleEvent hstage rfl
  | stop =>
      obtain ⟨hstage, rfl⟩ := guarded_eq_some.mp hstep
      exact .stop hstage rfl

theorem CheckedFront.found {state : State} {front remaining : List String}
    {endpoint : String} (hfront : CheckedFront state front (endpoint :: remaining))
    (hpresent : endpoint ∈ state.present) :
    CheckedFront
      { state with
        stage := .checking remaining
        readings := state.readings ++ [(endpoint, true)] }
      (front ++ [endpoint]) remaining where
  split := by
    rw [List.append_assoc]
    exact hfront.split
  readings := by
    change state.readings ++ _ = _
    rw [hfront.readings, allFound, allFound, List.map_append]
    rfl
  current := by
    intro hnone other hother
    rcases List.mem_append.mp hother with hbefore | hlast
    · exact hfront.current hnone other hbefore
    · rw [List.mem_singleton] at hlast
      exact hlast ▸ hpresent

/-- Once the check has gone through the list, and no event is left, all are there. -/
theorem State.Invariant.allPresent {state : State} (hinv : state.Invariant)
    (hstage : state.stage = .checking []) (hnone : state.unhandled = 0) :
    state.allPresent = true := by
  obtain ⟨front, hfront⟩ := hinv.checking [] hstage
  rw [State.allPresent, List.all_eq_true, hfront.split, List.append_nil]
  exact fun endpoint hmem => decide_eq_true (hfront.current hnone endpoint hmem)

theorem State.Invariant.step {state next : State} {action : Action}
    (hinv : state.Invariant) (hstep : step state action = some next) : next.Invariant := by
  cases step_moves hstep with
  | queued _ _ hqueues => exact hinv.queues hqueues
  | found endpoint remaining hstage hpresent hnext =>
      subst hnext
      obtain ⟨front, hfront⟩ := hinv.checking _ hstage
      refine ⟨?_, fun h => (by cases h), fun h => (by cases h), hinv.udcWrites⟩
      intro rest hrest
      cases hrest
      exact ⟨front ++ [endpoint], hfront.found hpresent⟩
  | absent endpoint remaining hstage habsent hnext =>
      subst hnext
      exact invariant_of_idle rfl hinv.udcWrites
  | complete hstage hnext =>
      subst hnext
      obtain ⟨front, hfront⟩ := hinv.checking [] hstage
      refine ⟨fun _ h => ?_, fun _ => ?_, fun h => ?_, hinv.udcWrites⟩
      · revert h
        cases state.writeUdc <;> exact Stage.noConfusion
      · change state.readings = allFound state.mEndpointList
        rw [hfront.readings, hfront.split, List.append_nil]
      · revert h
        cases state.writeUdc <;> exact Stage.noConfusion
  | pullUp succeeds hstage hnext =>
      subst hnext
      refine ⟨fun _ h => ?_, fun h => ?_, fun _ _ hall => ?_, ?_⟩
      · revert h
        cases succeeds <;> exact Stage.noConfusion
      · revert h
        cases succeeds <;> exact Stage.noConfusion
      · exact congrArg not hall
      · intro readings hmem
        rcases List.mem_append.mp hmem with hbefore | hlast
        · exact hinv.udcWrites readings hbefore
        · rw [List.mem_singleton] at hlast
          exact hlast ▸ hinv.pullingUp hstage
  | record hstage hnext =>
      subst hnext
      exact invariant_of_idle rfl hinv.udcWrites
  | handleEvent hstage hnext =>
      subst hnext
      refine ⟨?_, fun h => (by cases h), fun h => (by cases h), hinv.udcWrites⟩
      intro remaining h
      cases h
      exact ⟨[], rfl, rfl, fun _ _ hmem => absurd hmem List.not_mem_nil⟩
  | stop hstage hnext =>
      subst hnext
      exact invariant_of_idle rfl hinv.udcWrites

/-! ## When the gadget is pulled up again -/

/-- A step keeps the property exactly if it is no check that overlooks an absence. -/
theorem pulledUp_iff_noticed {state next : State} {action : Action}
    (hinv : state.Invariant) (hpulled : state.PulledUp)
    (hstep : step state action = some next) : next.PulledUp ↔ Noticed state action := by
  have hchecked := (hinv.step hstep).udcWrites
  cases step_moves hstep with
  | queued action hother hqueues =>
      exact iff_of_true (hpulled.queues hqueues) fun hcheck => absurd hcheck hother
  | found endpoint remaining hstage hpresent hnext =>
      subst hnext
      refine iff_of_true ⟨fun h => (by cases h), hchecked⟩ fun _ hend => ?_
      rw [hstage] at hend
      cases hend
  | absent endpoint remaining hstage habsent hnext =>
      subst hnext
      refine iff_of_true ⟨fun _ _ hall => ?_, hchecked⟩ fun _ hend => ?_
      · obtain ⟨front, hfront⟩ := hinv.checking _ hstage
        have hmem : endpoint ∈ state.mEndpointList := by
          rw [hfront.split]
          exact List.mem_append_right _ List.mem_cons_self
        exact absurd (of_decide_eq_true (List.all_eq_true.mp hall endpoint hmem)) habsent
      · rw [hstage] at hend
        cases hend
  | complete hstage hnext =>
      subst hnext
      cases hwrite : state.writeUdc with
      | true => exact iff_of_true ⟨fun h => (by cases h), hchecked⟩ fun _ _ _ => .inl hwrite
      | false =>
          constructor
          · intro hnext _ _ hnone
            exact .inr (hnext.again rfl hnone (hinv.allPresent hstage hnone))
          · intro hnoticed
            refine ⟨fun _ hnone _ => ?_, hchecked⟩
            rcases hnoticed rfl hstage hnone with hset | hkept
            · rw [hwrite] at hset
              contradiction
            · exact hkept
  | pullUp succeeds hstage hnext =>
      subst hnext
      refine iff_of_true ⟨fun _ _ hall => ?_, hchecked⟩ fun hcheck => (by cases hcheck)
      exact congrArg not hall
  | record hstage hnext =>
      subst hnext
      exact iff_of_true ⟨fun _ => hinv.recording hstage, hchecked⟩ fun hcheck =>
        (by cases hcheck)
  | handleEvent hstage hnext =>
      subst hnext
      exact iff_of_true ⟨fun h => (by cases h), hchecked⟩ fun hcheck => (by cases hcheck)
  | stop hstage hnext =>
      subst hnext
      have hidle : state.stage.idle = true := by rw [hstage]; rfl
      exact iff_of_true ⟨fun _ => hpulled.again hidle, hchecked⟩ fun hcheck =>
        (by cases hcheck)

/-- In every run, from any endpoints and any events left from before, the gadget is pulled
up again whenever the endpoints are back, exactly if every absence is noticed: no check
for the last event finds them all back, with `writeUdc` not set, when one has been away
since the last attempt. -/
theorem pulled_up_again_iff (mEndpointList present : List String) (unhandled : ℕ)
    (actions : List Action) :
    EveryState step State.PulledUp (.initial mEndpointList present unhandled) actions ↔
      EveryStep step Noticed (.initial mEndpointList present unhandled) actions := by
  have hstart : (State.initial mEndpointList present unhandled).PulledUp :=
    ⟨fun h => (by cases h), fun _ hmem => absurd hmem List.not_mem_nil⟩
  exact everyState_iff_everyStep_of_invariant (J := State.Invariant)
    (fun _ _ _ hinv hstep => hinv.step hstep)
    (fun _ _ _ hinv hpulled => pulledUp_iff_noticed hinv hpulled)
    (invariant_initial mEndpointList present unhandled) hstart actions

/-- The write to the UDC after a check of all endpoints, whatever has been overlooked. -/
theorem udcWrites_checked (mEndpointList present : List String) (unhandled : ℕ)
    (actions : List Action) :
    EveryState step (fun state => ∀ readings ∈ state.udcWrites,
        readings = allFound state.mEndpointList)
      (.initial mEndpointList present unhandled) actions :=
  (EveryState.of_invariant (P := State.Invariant)
    (fun _ _ _ hinv hstep => hinv.step hstep)
    (invariant_initial mEndpointList present unhandled) actions).imp
    fun _ hinv => hinv.udcWrites

/-- The daemon dies and is back before the monitor looks. -/
theorem not_pulled_up_again :
    let ep1 := "/dev/usb-ffs/adb/ep1"
    let ep2 := "/dev/usb-ffs/adb/ep2"
    ∃ final, run step (.initial [ep1, ep2] [ep1, ep2] 0)
        [.check, .check, .check, .pullUp true, .record, .removed ep1, .created ep1,
          .handleEvent, .check, .check, .check, .handleEvent, .check, .check, .check] =
          some final ∧
      final.stage = .waiting ∧ final.unhandled = 0 ∧ final.allPresent = true ∧
      final.absentSince = true ∧ ¬final.PulledUp := by
  refine ⟨_, rfl, rfl, rfl, by decide, by decide, fun hpulled => ?_⟩
  have habsent := hpulled.again rfl rfl (by decide)
  exact absurd habsent (by decide)

end EndpointMonitor
end Camellia.Usb

import Camellia.Usb.RoleSwitchLocks

/-!
# The verdict of a mode switch

`switchMode` clears `mPartnerUp`, writes the role, and waits until the flag is set or the
wait has timed out.  The flag does not say which port a partner has come to, nor when
the uevent was emitted, and a time-out counts even if the flag has been set by the time
the mutex is back.  The verdict is right as long as none of this matters.
-/

namespace Camellia.Usb
namespace RoleSwitch

open Transition

/-- A partner has come to the port of the call, after the role string was written. -/
def Call.Answers (call : Call) (arrival : Arrival) : Prop :=
  arrival.portName = call.portName ∧
    ∃ emitted ∈ call.writtenAt, emitted ≤ arrival.seqnum

/-- What `switchMode` returns is whether an answer was handled before its wait ended. -/
def Call.VerdictRight (call : Call) : Prop :=
  ∀ verdict ∈ call.verdict,
    (verdict = true ↔ ∃ arrival ∈ call.heard, call.Answers arrival)

def State.VerdictsRight (state : State) : Prop :=
  ∀ call ∈ state.calls, call.VerdictRight

/-- At the end of a wait that has timed out, no answer has been handled; at the end of any
other, if a partner has come anywhere since the flag was cleared, there is an answer among
those. -/
def Timely (state : State) : Action → Prop
  | .caller index .testPartner => ∀ call ∈ state.calls[index]?,
      (call.stage = .returned true → ∀ arrival ∈ state.handled, ¬call.Answers arrival) ∧
      (call.stage = .returned false → call.clearedAt < state.handled.length →
        ∃ arrival ∈ state.handled.drop call.clearedAt, call.Answers arrival)
  | _ => True

section
variable {state next : State} {index : ℕ} {call moved : Call}

theorem Call.VerdictRight.unjudged (hright : call.VerdictRight)
    (hunjudged : call.Unjudged moved) : moved.VerdictRight := by
  intro verdict hsome
  cases hunjudged with
  | kept hport hverdict hheard hwritten =>
      rw [hverdict] at hsome
      simp only [Call.Answers, hport, hheard, hwritten]
      exact hright verdict hsome
  | started hverdict =>
      rw [hverdict] at hsome
      cases hsome
  | failed hverdict hwritten =>
      rw [hverdict] at hsome
      cases hsome
      refine iff_of_false Bool.false_ne_true ?_
      rintro ⟨arrival, _, _, emitted, hemitted, _⟩
      rw [hwritten] at hemitted
      cases hemitted

theorem verdictsRight_set (hright : state.VerdictsRight)
    (hcall : state.calls[index]? = some call)
    (hcalls : next.calls = state.calls.set index moved) :
    next.VerdictsRight ↔ moved.VerdictRight := by
  rw [State.VerdictsRight, hcalls]
  constructor
  · intro hall
    exact hall moved (List.mem_set (List.getElem?_eq_some_iff.mp hcall).1 moved)
  · intro hmoved other hother
    rcases List.mem_or_eq_of_mem_set hother with hold | rfl
    · exact hright other hold
    · exact hmoved

/-- An answer comes after the write, and so after the flag was cleared. -/
theorem Call.Ok.answers_drop (hok : call.Ok state index) (hwaits : call.stage.waits = true) :
    (∃ arrival ∈ state.handled, call.Answers arrival) ↔
      ∃ arrival ∈ state.handled.drop call.clearedAt, call.Answers arrival := by
  constructor
  · rintro ⟨arrival, hmem, hanswers⟩
    obtain ⟨emitted, hwritten, hstale⟩ := hok.stale hwaits
    rw [← List.take_append_drop call.clearedAt state.handled, List.mem_append] at hmem
    rcases hmem with hbefore | hsince
    · obtain ⟨_, written, hsome, hle⟩ := hanswers
      rw [hwritten] at hsome
      cases hsome
      exact absurd (hstale arrival hbefore) (Nat.not_lt.mpr hle)
    · exact ⟨arrival, hsince, hanswers⟩
  · rintro ⟨arrival, hmem, hanswers⟩
    exact ⟨arrival, List.mem_of_mem_drop hmem, hanswers⟩

theorem conclude_verdictRight (heard : List Arrival) (roleSwitch : Bool) :
    (call.conclude heard roleSwitch).VerdictRight ↔
      (roleSwitch = true ↔ ∃ arrival ∈ heard, call.Answers arrival) := by
  constructor
  · intro hright
    exact hright roleSwitch rfl
  · intro hiff verdict hsome
    cases hsome
    exact hiff

/-- The end of a wait gives the right verdict exactly if it is timely. -/
theorem testPartner_iff (hinv : state.Invariant) (hright : state.VerdictsRight)
    (hcall : state.calls[index]? = some call)
    (hstep : testPartner state index call = some next) :
    next.VerdictsRight ↔ Timely state (.caller index .testPartner) := by
  have hok := hinv.calls index call hcall
  have hone : Timely state (.caller index .testPartner) ↔
      (call.stage = .returned true → ∀ arrival ∈ state.handled, ¬call.Answers arrival) ∧
      (call.stage = .returned false → call.clearedAt < state.handled.length →
        ∃ arrival ∈ state.handled.drop call.clearedAt, call.Answers arrival) := by
    simp only [Timely, hcall, Option.mem_some_iff, forall_eq']
  rw [hone]
  cases testPartner_cases hstep with
  | again hstage hflag hnext =>
      subst hnext
      have hkept : call.Unjudged { call with stage := .waitAgain } := .kept rfl rfl rfl rfl
      have hflagged : call.stage.flagged = true := by rw [hstage]; rfl
      refine iff_of_true ?_ ⟨fun h => ?_, fun _ hsince => ?_⟩
      · rw [verdictsRight_set hright hcall rfl]
        exact (hright call (List.mem_of_getElem? hcall)).unjudged hkept
      · rw [hstage] at h
        cases h
      · rw [(hok.flag hflagged).2.mpr hsince] at hflag
        cases hflag
  | ended timedOut hstage hflag hnext =>
      subst hnext
      have hwaits : call.stage.waits = true := by rw [hstage]; rfl
      rw [verdictsRight_set hright hcall rfl, conclude_verdictRight]
      cases timedOut with
      | true =>
          simp [hstage]
      | false =>
          have hsince : call.clearedAt < state.handled.length :=
            (hok.flag (waits_flagged hwaits)).2.mp (hflag rfl)
          rw [hok.answers_drop hwaits]
          simp [hstage, hsince]

theorem workerStep_calls {action : WorkerAction} (hstep : workerStep state action = some next) :
    next.calls = state.calls := by
  cases action with
  | receive =>
      simp only [workerStep, receive] at hstep
      split at hstep <;> cases hstep
      rfl
  | parse =>
      simp only [workerStep, parse, partnerAdded, beginQuery, Option.bind_eq_bind,
        Option.pure_def] at hstep
      split at hstep
      case h_1 => exact Option.some.inj hstep ▸ rfl
      case h_2 =>
        obtain ⟨_, _, hnext⟩ := Option.bind_eq_some_iff.mp hstep
        exact Option.some.inj hnext ▸ rfl
      case h_3 =>
        obtain ⟨_, _, hnext⟩ := Option.bind_eq_some_iff.mp hstep
        exact Option.some.inj hnext ▸ rfl
      case h_4 => exact Option.some.inj hstep ▸ rfl
      case h_5 => contradiction
  | query currentPortStatus =>
      obtain ⟨_, _, hnext⟩ := Option.bind_eq_some_iff.mp hstep
      exact Option.some.inj hnext ▸ rfl
  | trylock =>
      simp only [workerStep, trylock] at hstep
      split at hstep
      case h_1 => split at hstep <;> exact Option.some.inj hstep ▸ rfl
      case h_2 => contradiction
  | restore =>
      simp only [workerStep, restore] at hstep
      split at hstep
      case h_1 => exact Option.some.inj hstep ▸ rfl
      case h_2 => split at hstep <;> exact Option.some.inj hstep ▸ rfl
      case h_3 => exact Option.some.inj hstep ▸ rfl
      case h_4 => contradiction

theorem verdictsRight_iff_timely {action : Action} (hinv : state.Invariant)
    (hright : state.VerdictsRight) (hstep : step state action = some next) :
    next.VerdictsRight ↔ Timely state action := by
  cases action with
  | emit fields => exact iff_of_true (Option.some.inj hstep ▸ hright) trivial
  | partnerDir portName there => exact iff_of_true (Option.some.inj hstep ▸ hright) trivial
  | switchRole portName newRole =>
      obtain rfl := Option.some.inj hstep
      refine iff_of_true (fun call hmem => ?_) trivial
      rcases List.mem_append.mp hmem with hold | hnew
      · exact hright call hold
      · rw [List.mem_singleton.mp hnew]
        rintro verdict ⟨⟩
  | caller index action =>
      obtain ⟨call, hcall, hcallStep⟩ := caller_cases hstep
      by_cases haction : action = .testPartner
      · subst haction
        exact testPartner_iff hinv hright hcall hcallStep
      · obtain ⟨moved, hresult⟩ :=
          callStep_result hinv (hinv.calls index call hcall) hcallStep haction
        have htimely : Timely state (.caller index action) := by
          cases action <;> trivial
        refine iff_of_true ?_ htimely
        rw [verdictsRight_set hright hcall hresult.moves.calls]
        exact (hright call (List.mem_of_getElem? hcall)).unjudged hresult.unjudged
  | worker action =>
      refine iff_of_true ?_ trivial
      rw [State.VerdictsRight, workerStep_calls hstep]
      exact hright

end

end RoleSwitch
end Camellia.Usb

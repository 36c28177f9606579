import Camellia.CString
import Camellia.Usb.RoleSwitch

/-!
# Parsing a uevent

`uevent_event` puts two terminators behind the message that it has received and goes
through the fields up to the first empty one.  A field that tells of a partner sets
`mPartnerUp`; the first that tells of a Type-C device starts the port query and ends the
loop.  A read behind the second terminator has no result here.
-/

namespace Camellia.Usb
namespace Uevent

open CString

def ueventMsgLen : ℕ := 2048

def ascii (s : String) : List UInt8 := s.toList.map fun c => c.toNat.toUInt8

def addText : List UInt8 := ascii "add"
def partnerText : List UInt8 := ascii "-partner"
def devtypeTypec : List UInt8 := ascii "DEVTYPE=typec_"

/-- What the `.` of a regular expression does not match. -/
def isLineBreak (c : UInt8) : Bool := c = 10 || c = 13

/-- `std::regex_match` with `(add)(.*)(-partner)`. -/
def matchesPartner (field : List UInt8) : Bool :=
  let rest := field.drop addText.length
  let middle := rest.take (rest.length - partnerText.length)
  addText.isPrefixOf field && partnerText.isSuffixOf rest && middle.all fun c => !isLineBreak c

inductive Effect where
  | partnerUp
  | portQuery
deriving DecidableEq, Repr

/-- What the loop finds at the pointer. -/
inductive Round where
  | ended
  | partnerAdded
  | devtypeTypec
  | other
deriving DecidableEq, Repr

def round (cp : List UInt8) : Option Round :=
  cp.head?.bind fun c =>
    if c = 0 then some .ended
    else (CString.read 0 cp).bind fun field =>
      if matchesPartner field then some .partnerAdded
      else (startsWith cp devtypeTypec).map fun found =>
        if found then .devtypeTypec else .other

def loop (cp : List UInt8) : Option (List Effect) :=
  match round cp, _hskip : skip 0 cp with
  | some .ended, _ => some []
  | some .devtypeTypec, _ => some [.portQuery]
  | some .partnerAdded, some next => (loop next).map (.partnerUp :: ·)
  | some .other, some next => loop next
  | _, _ => none
termination_by cp.length
decreasing_by all_goals exact skip_length _hskip

/-- `none` is an error of the receiving call. -/
def ueventEvent (received : Option (List UInt8)) : Option (List Effect) :=
  match received with
  | none => some []
  | some msg =>
      if msg.length = 0 then some []
      else if msg.length ≥ ueventMsgLen then some []
      else loop (msg ++ [0, 0])

/-! ## The fields of a message -/

/-- The fields that come before the first empty one. -/
def fields (msg : List UInt8) : List (List UInt8) :=
  (msg.splitOn 0).takeWhile fun field => !field.isEmpty

def fieldRound (field : List UInt8) : Round :=
  if matchesPartner field then .partnerAdded
  else if devtypeTypec.isPrefixOf field then .devtypeTypec
  else .other

def fieldEffects : List (List UInt8) → List Effect
  | [] => []
  | field :: rest =>
      match fieldRound field with
      | .ended => []
      | .devtypeTypec => [.portQuery]
      | .partnerAdded => .partnerUp :: fieldEffects rest
      | .other => fieldEffects rest

theorem round_nul (rest : List UInt8) : round (0 :: rest) = some .ended := rfl

theorem round_append {field : List UInt8} (hne : field ≠ []) (hfield : 0 ∉ field)
    (rest : List UInt8) : round (field ++ 0 :: rest) = some (fieldRound field) := by
  have hliteral : 0 ∉ devtypeTypec := by decide
  rw [round, read_append hfield rest, startsWith_append field rest hliteral, fieldRound]
  obtain ⟨c, tail, rfl⟩ := List.exists_cons_of_ne_nil hne
  have hc : c ≠ 0 := fun hnul => hfield (hnul ▸ List.mem_cons_self)
  rw [List.cons_append, List.head?_cons, Option.bind_some, if_neg hc, Option.bind_some]
  split
  · rfl
  · rfl

theorem loop_nul (rest : List UInt8) : loop (0 :: rest) = some [] := by
  rw [loop]
  simp [round_nul]

theorem loop_append {field : List UInt8} (hne : field ≠ []) (hfield : 0 ∉ field)
    (rest : List UInt8) :
    loop (field ++ 0 :: rest) =
      match fieldRound field with
      | .ended => some []
      | .devtypeTypec => some [.portQuery]
      | .partnerAdded => (loop rest).map (.partnerUp :: ·)
      | .other => loop rest := by
  have hround := round_append hne hfield rest
  have hskip := skip_append hfield rest
  rw [loop]
  cases hkind : fieldRound field
  all_goals rw [hkind] at hround
  all_goals split <;> simp_all

theorem fields_nil : fields [] = [] := by simp [fields]

theorem fields_nul (rest : List UInt8) : fields (0 :: rest) = [] := by
  rw [fields, List.splitOn_cons_eq_if_modifyHead]
  rfl

theorem fields_of_nul_notMem {field : List UInt8} (hne : field ≠ []) (hfield : 0 ∉ field) :
    fields field = [field] := by
  rw [fields, List.splitOn_eq_singleton hfield]
  simp [hne]

theorem fields_append {field : List UInt8} (hne : field ≠ []) (hfield : 0 ∉ field)
    (rest : List UInt8) : fields (field ++ 0 :: rest) = field :: fields rest := by
  rw [fields, List.splitOn_append_cons_self_of_not_mem hfield]
  simp [hne, fields]

/-- The loop goes through the fields and stays within the two terminators, whatever the
message is. -/
theorem loop_eq (msg : List UInt8) :
    loop (msg ++ [0, 0]) = some (fieldEffects (fields msg)) := by
  induction hlength : msg.length using Nat.strong_induction_on generalizing msg with
  | _ length ih =>
      rcases split_cases 0 msg with hfield | ⟨field, rest, hfield, rfl⟩
      · by_cases hne : msg = []
        · rw [hne, List.nil_append, loop_nul, fields_nil, fieldEffects]
        · rw [loop_append hne hfield, fields_of_nul_notMem hne hfield, loop_nul,
            fieldEffects]
          cases fieldRound msg <;> rfl
      · by_cases hne : field = []
        · rw [hne, List.nil_append, List.cons_append, loop_nul, fields_nul, fieldEffects]
        · have hshort : rest.length < length := by
            rw [← hlength, List.length_append, List.length_cons]
            omega
          rw [List.append_assoc, List.cons_append, loop_append hne hfield,
            fields_append hne hfield, fieldEffects, ih rest.length hshort rest rfl]
          cases fieldRound field <;> rfl

/-! ## What the fields bring about -/

/-- `add`, anything without a line break, `-partner`. -/
def AddsPartner (field : List UInt8) : Prop :=
  ∃ middle, field = addText ++ (middle ++ partnerText) ∧ ∀ c ∈ middle, isLineBreak c = false

theorem matchesPartner_iff (field : List UInt8) :
    matchesPartner field = true ↔ AddsPartner field := by
  unfold matchesPartner
  simp only [Bool.and_eq_true, List.isPrefixOf_iff_prefix, List.isSuffixOf_iff_suffix,
    List.all_eq_true, Bool.not_eq_true']
  constructor
  · rintro ⟨⟨⟨rest, rfl⟩, hpartner⟩, hmiddle⟩
    rw [List.drop_left] at hpartner hmiddle
    obtain ⟨middle, rfl⟩ := hpartner
    rw [List.length_append, Nat.add_sub_cancel, List.take_left] at hmiddle
    exact ⟨middle, rfl, hmiddle⟩
  · rintro ⟨middle, rfl, hmiddle⟩
    rw [List.drop_left, List.length_append, Nat.add_sub_cancel, List.take_left]
    exact ⟨⟨List.prefix_append _ _, List.suffix_append _ _⟩, hmiddle⟩

def isTypec (field : List UInt8) : Bool := devtypeTypec.isPrefixOf field

theorem not_isTypec_of_addsPartner {field : List UInt8} (hadds : AddsPartner field) :
    isTypec field = false := by
  obtain ⟨middle, rfl, _⟩ := hadds
  rfl

/-- The three kinds of a field exclude each other. -/
theorem fieldRound_cases (field : List UInt8) :
    (fieldRound field = .partnerAdded ∧ AddsPartner field ∧ isTypec field = false) ∨
      (fieldRound field = .devtypeTypec ∧ isTypec field = true) ∨
      (fieldRound field = .other ∧ ¬AddsPartner field ∧ isTypec field = false) := by
  rw [fieldRound, ← isTypec]
  by_cases hadds : AddsPartner field
  · rw [if_pos ((matchesPartner_iff field).mpr hadds)]
    exact Or.inl ⟨rfl, hadds, not_isTypec_of_addsPartner hadds⟩
  · rw [if_neg (mt (matchesPartner_iff field).mp hadds)]
    cases isTypec field with
    | true => exact Or.inr (Or.inl ⟨rfl, rfl⟩)
    | false => exact Or.inr (Or.inr ⟨rfl, hadds, rfl⟩)

theorem partnerUp_mem_fieldEffects (fields : List (List UInt8)) :
    Effect.partnerUp ∈ fieldEffects fields ↔
      ∃ field ∈ fields.takeWhile (fun field => !isTypec field), AddsPartner field := by
  induction fields with
  | nil => simp [fieldEffects]
  | cons field rest ih =>
      rw [fieldEffects]
      rcases fieldRound_cases field with
        ⟨hround, hadds, htypec⟩ | ⟨hround, htypec⟩ | ⟨hround, hadds, htypec⟩
      · simp [hround, htypec, hadds]
      · simp [hround, htypec]
      · simp [hround, htypec, hadds, ih]

theorem portQuery_mem_fieldEffects (fields : List (List UInt8)) :
    Effect.portQuery ∈ fieldEffects fields ↔ ∃ field ∈ fields, isTypec field = true := by
  induction fields with
  | nil => simp [fieldEffects]
  | cons field rest ih =>
      rw [fieldEffects]
      rcases fieldRound_cases field with
        ⟨hround, _, htypec⟩ | ⟨hround, htypec⟩ | ⟨hround, _, htypec⟩
      · simp [hround, htypec, ih]
      · simp [hround, htypec]
      · simp [hround, htypec, ih]

theorem fieldRound_ne_ended (field : List UInt8) : fieldRound field ≠ .ended := by
  unfold fieldRound
  split_ifs <;> decide

theorem count_portQuery_fieldEffects (fields : List (List UInt8)) :
    (fieldEffects fields).count .portQuery ≤ 1 := by
  induction fields with
  | nil => exact Nat.zero_le 1
  | cons field rest ih =>
      rw [fieldEffects]
      cases fieldRound field with
      | ended => exact Nat.zero_le 1
      | devtypeTypec => exact Nat.le_refl 1
      | partnerAdded => simpa using ih
      | other => exact ih

/-- Parsing a message stays within the bytes it may read, and its effects are those of the
fields before the first empty one. -/
theorem uevent_event_exact (msg : List UInt8) (hpos : 0 < msg.length)
    (hlength : msg.length < ueventMsgLen) :
    ∃ effects, ueventEvent (some msg) = some effects ∧
      (.partnerUp ∈ effects ↔
        ∃ field ∈ (fields msg).takeWhile (fun field => !isTypec field), AddsPartner field) ∧
      effects.count .portQuery ≤ 1 ∧
      (.portQuery ∈ effects ↔ ∃ field ∈ fields msg, isTypec field = true) := by
  refine ⟨fieldEffects (fields msg), ?_, partnerUp_mem_fieldEffects _,
    count_portQuery_fieldEffects _, portQuery_mem_fieldEffects _⟩
  rw [ueventEvent, if_neg hpos.ne', if_neg (Nat.not_le_of_lt hlength), loop_eq]

theorem uevent_event_exact_partner :
    ∃ effects, ueventEvent (some (ascii "add@/port0-partner")) = some effects ∧
      (.partnerUp ∈ effects ↔
        ∃ field ∈ (fields (ascii "add@/port0-partner")).takeWhile
          (fun field => !isTypec field), AddsPartner field) ∧
      effects.count .portQuery ≤ 1 ∧
      (.portQuery ∈ effects ↔
        ∃ field ∈ fields (ascii "add@/port0-partner"), isTypec field = true) :=
  uevent_event_exact (ascii "add@/port0-partner") (by decide) (by decide)

/-! ## The worker of the role switches

A message becomes the fields that the worker goes through; the port that an added partner
belongs to is not looked at by the parser. -/

section
variable (portOf : List UInt8 → String)

def toField (field : List UInt8) : RoleSwitch.Field :=
  match fieldRound field with
  | .partnerAdded => .partnerAdded (portOf field)
  | .devtypeTypec => .devtypeTypec
  | _ => .other

def Parses (before after : RoleSwitch.State) : Prop := RoleSwitch.parse before = some after

/-- A worker that meets no other thread has the effects of the parser. -/
theorem worker_parses (fields : List (List UInt8)) {state : RoleSwitch.State} {seqnum : ℕ}
    (hworker : state.worker = .parsing seqnum (fields.map (toField portOf)))
    (hpartner : state.mPartnerLock = none) (hlock : state.mLock = none) :
    ∃ final, Relation.ReflTransGen Parses state final ∧
      final.worker =
        (if .portQuery ∈ fieldEffects fields then .querying else .waiting) ∧
      final.mPartnerUp = (state.mPartnerUp || decide (.partnerUp ∈ fieldEffects fields)) := by
  induction fields generalizing state with
  | nil =>
      refine ⟨{ state with worker := .waiting }, .single ?_, ?_, ?_⟩
      · rw [Parses, RoleSwitch.parse, hworker]
        rfl
      · simp [fieldEffects]
      · simp [fieldEffects]
  | cons field rest ih =>
      rw [List.map_cons, toField] at hworker
      rw [fieldEffects]
      cases hround : fieldRound field with
      | ended => exact absurd hround (fieldRound_ne_ended field)
      | partnerAdded =>
          rw [hround] at hworker
          let next : RoleSwitch.State := { state with
            mPartnerUp := true
            handled := state.handled ++ [{ portName := portOf field, seqnum := seqnum }]
            worker := .parsing seqnum (rest.map (toField portOf)) }
          have hstep : Parses state next := by
            rw [Parses, RoleSwitch.parse, hworker]
            simp [RoleSwitch.partnerAdded, hpartner, next]
          have hnext : next.worker = .parsing seqnum (rest.map (toField portOf)) := rfl
          obtain ⟨final, hrun, hfinal, hup⟩ := ih hnext hpartner hlock
          refine ⟨final, .head hstep hrun, ?_, ?_⟩
          · simpa using hfinal
          · simpa [next] using hup
      | devtypeTypec =>
          rw [hround] at hworker
          let next : RoleSwitch.State := { state with mLock := some .worker, worker := .querying }
          have hstep : Parses state next := by
            rw [Parses, RoleSwitch.parse, hworker]
            simp [RoleSwitch.beginQuery, hlock, next]
          exact ⟨next, .single hstep, by simp [next], by simp [next]⟩
      | other =>
          rw [hround] at hworker
          let next : RoleSwitch.State :=
            { state with worker := .parsing seqnum (rest.map (toField portOf)) }
          have hstep : Parses state next := by
            rw [Parses, RoleSwitch.parse, hworker]
          have hnext : next.worker = .parsing seqnum (rest.map (toField portOf)) := rfl
          obtain ⟨final, hrun, hfinal, hup⟩ := ih hnext hpartner hlock
          exact ⟨final, .head hstep hrun, hfinal, hup⟩

end

end Uevent
end Camellia.Usb

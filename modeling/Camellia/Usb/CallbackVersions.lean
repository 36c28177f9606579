import Camellia.LockedObject
import Camellia.Usb.PortStatus

/-!
# Which client a port query notifies

`queryVersionHelper` casts `mCallback_1_0` to the newer interfaces before it takes `mLock`,
and notifies under the lock.  A `setCallback` in between leaves it with casts of the client
that was registered before.  This file says which client is notified by which method in
every interleaving, when that is the client registered at that moment, and that it always
is when no `setCallback` comes between the casts and the lock.
-/

namespace Camellia.Usb
namespace CallbackVersions

open Transition LockedObject

/-- A client, with the newer interfaces that it implements. -/
structure Callback where
  id : ℕ
  implements1_1 : Bool
  implements1_2 : Bool
  extends1_1 : implements1_2 = true → implements1_1 = true
deriving DecidableEq

def castFrom1_1 (callback : Option Callback) : Option Callback :=
  callback.filter Callback.implements1_1

def castFrom1_2 (callback : Option Callback) : Option Callback :=
  callback.filter Callback.implements1_2

/-- What is sent, with the casts it came from and the client registered at that moment. -/
structure Notification where
  callback : Callback
  version : HALVersion
  cast1_1 : Option Callback
  cast1_2 : Option Callback
  registered : Option Callback
deriving DecidableEq

/-- `nullCalled` is set by a call through a null `mCallback_1_0`. -/
structure Shared where
  mCallback_1_0 : Option Callback
  notifications : List Notification
  nullCalled : Bool

def Shared.initial : Shared where
  mCallback_1_0 := none
  notifications := []
  nullCalled := false

/-- `created` tells whether `pthread_create` succeeds; a query comes with what its casts
have given. -/
inductive Op where
  | setCallback (callback : Option Callback) (created : Bool)
  | query (cast1_1 cast1_2 : Option Callback)

inductive Stage where
  | entered
  | creating
  | notifying
  | done

/-- The end of `queryVersionHelper`, which reads `mCallback_1_0` once more for the oldest
interface. -/
def notify (cast1_1 cast1_2 : Option Callback) (shared : Shared) : Shared :=
  let send (callback : Callback) (version : HALVersion) : Shared :=
    { shared with notifications := shared.notifications ++
        [⟨callback, version, cast1_1, cast1_2, shared.mCallback_1_0⟩] }
  match cast1_2, cast1_1, shared.mCallback_1_0 with
  | some callback, _, _ => send callback .V1_2
  | none, some callback, _ => send callback .V1_1
  | none, none, some callback => send callback .V1_0
  | none, none, none => { shared with nullCalled := true }

def work : Op → Shared × Stage → Option (Shared × Stage)
  | .setCallback callback _, (shared, .entered) =>
      some ({ shared with mCallback_1_0 := callback },
        if shared.mCallback_1_0 = none ∧ callback ≠ none then .creating else .done)
  | .setCallback _ created, (shared, .creating) =>
      some (if created then shared else { shared with mCallback_1_0 := none }, .done)
  | .query _ _, (shared, .entered) =>
      some (shared, if shared.mCallback_1_0 ≠ none then .notifying else .done)
  | .query cast1_1 cast1_2, (shared, .notifying) => some (notify cast1_1 cast1_2 shared, .done)
  | _, _ => none

def code : Code Shared Op Stage where
  start _ := .entered
  work := work

/-! ## Queries before the lock -/

/-- `casting` holds the first cast of each query that has not made the second. -/
structure State where
  object : Object Shared Op Stage
  casting : List (Option Callback)

def State.initial : State where
  object := .initial .initial
  casting := []

inductive Action where
  | setCallback (callback : Option Callback) (created : Bool)
  | cast1_1
  | cast1_2 (query : ℕ)
  | acquire (call : ℕ)
  | work (call : ℕ)
  | release (call : ℕ)

def step (state : State) : Action → Option State
  | .setCallback callback created =>
      (LockedObject.step code state.object (.call (.setCallback callback created))).map
        fun object => { state with object := object }
  | .cast1_1 => some { state with
      casting := state.casting ++ [castFrom1_1 state.object.shared.mCallback_1_0] }
  | .cast1_2 query =>
      state.casting[query]?.bind fun cast1_1 =>
        let cast1_2 := castFrom1_2 state.object.shared.mCallback_1_0
        (LockedObject.step code state.object (.call (.query cast1_1 cast1_2))).map
          fun object => { object := object, casting := state.casting.eraseIdx query }
  | .acquire call =>
      (LockedObject.step code state.object (.acquire call)).map
        fun object => { state with object := object }
  | .work call =>
      (LockedObject.step code state.object (.work call)).map
        fun object => { state with object := object }
  | .release call =>
      (LockedObject.step code state.object (.release call)).map
        fun object => { state with object := object }

/-! ## The client that is notified -/

def Callback.version (callback : Callback) : HALVersion :=
  if callback.implements1_2 then .V1_2 else if callback.implements1_1 then .V1_1 else .V1_0

/-- The casts are those that the client would give. -/
structure Sees (cast1_1 cast1_2 : Option Callback) (callback : Callback) : Prop where
  newest : cast1_2 = castFrom1_2 (some callback)
  newer : callback.implements1_2 = false → cast1_1 = castFrom1_1 (some callback)

def recipient (cast1_1 cast1_2 : Option Callback) (current : Callback) :
    Callback × HALVersion :=
  match cast1_2, cast1_1 with
  | some callback, _ => (callback, .V1_2)
  | none, some callback => (callback, .V1_1)
  | none, none => (current, .V1_0)

theorem castFrom1_2_some (callback : Callback) :
    castFrom1_2 (some callback) = if callback.implements1_2 then some callback else none := by
  simp [castFrom1_2, Option.filter_some]

theorem castFrom1_1_some (callback : Callback) :
    castFrom1_1 (some callback) = if callback.implements1_1 then some callback else none := by
  simp [castFrom1_1, Option.filter_some]

/-- The registered client is notified by the newest method that it has exactly when the
casts that matter are its own. -/
theorem recipient_eq_iff (cast1_1 cast1_2 : Option Callback) (current : Callback) :
    recipient cast1_1 cast1_2 current = (current, current.version) ↔
      Sees cast1_1 cast1_2 current := by
  have hsees : Sees cast1_1 cast1_2 current ↔ cast1_2 = castFrom1_2 (some current) ∧
      (current.implements1_2 = false → cast1_1 = castFrom1_1 (some current)) :=
    ⟨fun hall => ⟨hall.newest, hall.newer⟩, fun hall => ⟨hall.1, hall.2⟩⟩
  rw [hsees, castFrom1_2_some, castFrom1_1_some]
  unfold Callback.version
  cases hnewest : current.implements1_2 with
  | true =>
      cases cast1_2 with
      | some callback => simp [recipient]
      | none => cases cast1_1 <;> simp [recipient]
  | false =>
      cases cast1_2 with
      | some callback => cases hnewer : current.implements1_1 <;> simp [recipient]
      | none =>
          cases hnewer : current.implements1_1 with
          | true => cases cast1_1 <;> simp [recipient]
          | false => cases cast1_1 <;> simp [recipient]

/-! ## The queries one after the other -/

def serve (shared : Shared) : Op → Shared
  | .setCallback callback created => { shared with
      mCallback_1_0 :=
        if shared.mCallback_1_0 = none ∧ callback ≠ none ∧ created = false then none
        else callback }
  | .query cast1_1 cast1_2 =>
      if shared.mCallback_1_0 = none then shared else notify cast1_1 cast1_2 shared

/-- What holds while a call is served that has found `before`. -/
def Serving (op : Op) (before : Shared) : Shared × Stage → Prop
  | (shared, .entered) => shared = before
  | (shared, .creating) => ∃ callback created, op = .setCallback (some callback) created ∧
      before.mCallback_1_0 = none ∧ shared = { before with mCallback_1_0 := some callback }
  | (shared, .notifying) => shared = before ∧ before.mCallback_1_0 ≠ none ∧
      ∃ cast1_1 cast1_2, op = .query cast1_1 cast1_2
  | (shared, .done) => shared = serve before op

section Serving

variable {op : Op} {before : Shared}

theorem Serving.step {state next : Shared × Stage} (hserving : Serving op before state)
    (hwork : work op state = some next) : Serving op before next := by
  obtain ⟨shared, stage⟩ := state
  cases stage with
  | entered =>
      obtain rfl : shared = before := hserving
      cases op with
      | setCallback callback created =>
          rw [work, Option.some.injEq] at hwork
          subst hwork
          by_cases hstarts : shared.mCallback_1_0 = none ∧ callback ≠ none
          · rw [if_pos hstarts]
            obtain ⟨client, rfl⟩ := Option.ne_none_iff_exists'.mp hstarts.2
            exact ⟨client, created, rfl, hstarts.1, rfl⟩
          · rw [if_neg hstarts]
            have hkeeps : ¬(shared.mCallback_1_0 = none ∧ callback ≠ none ∧ created = false) :=
              fun hall => hstarts ⟨hall.1, hall.2.1⟩
            simp only [Serving, serve, if_neg hkeeps]
      | query cast1_1 cast1_2 =>
          rw [work, Option.some.injEq] at hwork
          subst hwork
          by_cases hclient : shared.mCallback_1_0 = none
          · rw [if_neg (not_not_intro hclient)]
            simp only [Serving, serve, if_pos hclient]
          · rw [if_pos hclient]
            exact ⟨rfl, hclient, cast1_1, cast1_2, rfl⟩
  | creating =>
      obtain ⟨callback, created, rfl, hnone, rfl⟩ := hserving
      rw [work, Option.some.injEq] at hwork
      subst hwork
      cases created <;> simp [Serving, serve, hnone]
  | notifying =>
      obtain ⟨rfl, hclient, cast1_1, cast1_2, rfl⟩ := hserving
      rw [work, Option.some.injEq] at hwork
      subst hwork
      simp only [Serving, serve, if_neg hclient]
  | done => cases op <;> contradiction

theorem Serving.of_works {state : Shared × Stage}
    (hworks : code.Works op (before, .entered) state) : Serving op before state := by
  induction hworks with
  | refl => rfl
  | tail _ hwork ih => exact ih.step hwork

theorem serve_of_serves (op : Op) (before after : Shared)
    (hserves : code.Serves op before after) : after = serve before op := by
  obtain ⟨stage, hworks, hend⟩ := hserves
  have hserving := Serving.of_works hworks
  cases stage with
  | entered => cases op <;> contradiction
  | creating =>
      obtain ⟨callback, created, rfl, _⟩ := hserving
      contradiction
  | notifying =>
      obtain ⟨_, _, cast1_1, cast1_2, rfl⟩ := hserving
      contradiction
  | done => exact hserving

end Serving

/-! ## What is notified -/

/-- The notification went out while a client was registered, to the one that the casts
choose. -/
def Notification.Chosen (notification : Notification) : Prop :=
  ∃ current, notification.registered = some current ∧
    (notification.callback, notification.version) =
      recipient notification.cast1_1 notification.cast1_2 current

structure Shared.Sound (shared : Shared) : Prop where
  chosen : ∀ notification ∈ shared.notifications, notification.Chosen
  nullCalled : shared.nullCalled = false

theorem Shared.Sound.notify {shared : Shared} (hsound : shared.Sound)
    (hclient : shared.mCallback_1_0 ≠ none) (cast1_1 cast1_2 : Option Callback) :
    (notify cast1_1 cast1_2 shared).Sound := by
  obtain ⟨current, hcurrent⟩ := Option.ne_none_iff_exists'.mp hclient
  have hsend : ∀ callback version,
      (callback, version) = recipient cast1_1 cast1_2 current →
      ({ shared with notifications := shared.notifications ++
        [⟨callback, version, cast1_1, cast1_2, shared.mCallback_1_0⟩] } : Shared).Sound := by
    intro callback version hrecipient
    refine ⟨?_, hsound.nullCalled⟩
    intro notification hmem
    rcases List.mem_append.mp hmem with hold | hnew
    · exact hsound.chosen notification hold
    · rw [List.mem_singleton.mp hnew]
      exact ⟨current, hcurrent, hrecipient⟩
  unfold CallbackVersions.notify
  rw [hcurrent] at hsend ⊢
  cases cast1_2 with
  | some callback => exact hsend callback .V1_2 rfl
  | none =>
      cases cast1_1 with
      | some callback => exact hsend callback .V1_1 rfl
      | none => exact hsend current .V1_0 rfl

theorem Shared.Sound.serve {shared : Shared} (hsound : shared.Sound) (op : Op) :
    (serve shared op).Sound := by
  cases op with
  | setCallback callback created => exact ⟨hsound.chosen, hsound.nullCalled⟩
  | query cast1_1 cast1_2 =>
      by_cases hclient : shared.mCallback_1_0 = none
      · rw [CallbackVersions.serve, if_pos hclient]
        exact hsound
      · rw [CallbackVersions.serve, if_neg hclient]
        exact hsound.notify hclient cast1_1 cast1_2

theorem Shared.Sound.foldl {shared : Shared} (hsound : shared.Sound) (ops : List Op) :
    (ops.foldl CallbackVersions.serve shared).Sound := by
  induction ops generalizing shared with
  | nil => exact hsound
  | cons op rest ih => exact ih (hsound.serve op)

theorem Serving.sound {op : Op} {before shared : Shared} {stage : Stage}
    (hserving : Serving op before (shared, stage)) (hsound : before.Sound) : shared.Sound := by
  cases stage with
  | entered => exact hserving ▸ hsound
  | creating =>
      obtain ⟨callback, created, _, _, rfl⟩ := hserving
      exact ⟨hsound.chosen, hsound.nullCalled⟩
  | notifying => exact hserving.1 ▸ hsound
  | done => exact hserving ▸ hsound.serve op

theorem Shared.Sound.initial : Shared.initial.Sound where
  chosen _ hmem := absurd hmem List.not_mem_nil
  nullCalled := rfl

theorem sound_of_invariant {object : Object Shared Op Stage}
    (hinv : object.Invariant code .initial) : object.shared.Sound := by
  have hfold : ∀ {ops : List Op} {shared : Shared}, code.Sequential .initial ops shared →
      shared.Sound := by
    intro ops shared hops
    rw [hops.eq_foldl serve_of_serves]
    exact Shared.Sound.initial.foldl ops
  cases hlock : object.lock with
  | none => exact hfold (hinv.free hlock)
  | some i =>
      obtain ⟨⟨op, place⟩, hcall, hinside⟩ := (hinv.held i).mp hlock
      cases place with
      | inside stage =>
          obtain ⟨earlier, before, _, hsequential, hworks⟩ := hinv.working i op stage hcall
          exact (Serving.of_works hworks).sound (hfold hsequential)
      | waiting => contradiction
      | returned => contradiction

/-! ## Runs -/

/-- A step that tests or changes the registered client for `setCallback` comes when no query
stands between its first cast and the lock. -/
def Undisturbed (state : State) : Action → Prop
  | .work call => ∀ (callback : Option Callback) (created : Bool) (place : Place Stage),
      state.object.calls[call]? = some ⟨.setCallback callback created, place⟩ →
        state.casting = [] ∧ ∀ (other : ℕ) (cast1_1 cast1_2 : Option Callback),
          state.object.calls[other]? ≠ some ⟨.query cast1_1 cast1_2, .waiting⟩
  | _ => True

/-- The casts of all queries that have not returned are those of the registered client. -/
structure State.Fresh (state : State) : Prop where
  casting : ∀ cast ∈ state.casting, cast = castFrom1_1 state.object.shared.mCallback_1_0
  queries : ∀ (i : ℕ) cast1_1 cast1_2 place,
    state.object.calls[i]? = some ⟨.query cast1_1 cast1_2, place⟩ → place ≠ .returned →
      cast1_1 = castFrom1_1 state.object.shared.mCallback_1_0 ∧
        cast1_2 = castFrom1_2 state.object.shared.mCallback_1_0
  notifications : ∀ notification ∈ state.object.shared.notifications,
    notification.cast1_1 = castFrom1_1 notification.registered ∧
      notification.cast1_2 = castFrom1_2 notification.registered

theorem object_of_step {state next : State} {action : Action}
    (hstep : step state action = some next) :
    next.object = state.object ∨
      ∃ inner, LockedObject.step code state.object inner = some next.object := by
  cases action with
  | cast1_1 =>
      rw [step, Option.some.injEq] at hstep
      subst hstep
      exact Or.inl rfl
  | cast1_2 query =>
      obtain ⟨cast1_1, _, hrest⟩ := Option.bind_eq_some_iff.mp hstep
      obtain ⟨object, hobject, hnext⟩ := Option.map_eq_some_iff.mp hrest
      subst hnext
      exact Or.inr ⟨_, hobject⟩
  | _ =>
      rw [step, Option.map_eq_some_iff] at hstep
      obtain ⟨object, hobject, hnext⟩ := hstep
      subst hnext
      exact Or.inr ⟨_, hobject⟩

theorem invariant_step {state next : State} {action : Action}
    (hinv : state.object.Invariant code .initial) (hstep : step state action = some next) :
    next.object.Invariant code .initial := by
  rcases object_of_step hstep with hsame | ⟨inner, hinner⟩
  · exact hsame ▸ hinv
  · exact hinv.step hinner

theorem notify_spec (cast1_1 cast1_2 : Option Callback) (shared : Shared) :
    (notify cast1_1 cast1_2 shared).mCallback_1_0 = shared.mCallback_1_0 ∧
      ∀ notification ∈ (notify cast1_1 cast1_2 shared).notifications,
        notification ∈ shared.notifications ∨
          (notification.cast1_1 = cast1_1 ∧ notification.cast1_2 = cast1_2 ∧
            notification.registered = shared.mCallback_1_0) := by
  have hsend : ∀ callback version, ∀ notification ∈ shared.notifications ++
      [⟨callback, version, cast1_1, cast1_2, shared.mCallback_1_0⟩],
      notification ∈ shared.notifications ∨
        (notification.cast1_1 = cast1_1 ∧ notification.cast1_2 = cast1_2 ∧
          notification.registered = shared.mCallback_1_0) := by
    intro callback version notification hmem
    rcases List.mem_append.mp hmem with hold | hnew
    · exact Or.inl hold
    · rw [List.mem_singleton.mp hnew]
      exact Or.inr ⟨rfl, rfl, rfl⟩
  unfold notify
  dsimp only
  split
  · exact ⟨rfl, hsend _ _⟩
  · exact ⟨rfl, hsend _ _⟩
  · exact ⟨rfl, hsend _ _⟩
  · exact ⟨rfl, fun notification hmem => Or.inl hmem⟩

theorem work_query {cast1_1 cast1_2 : Option Callback} {shared later : Shared}
    {own stage : Stage}
    (hwork : work (.query cast1_1 cast1_2) (shared, own) = some (later, stage)) :
    later.mCallback_1_0 = shared.mCallback_1_0 ∧
      ∀ notification ∈ later.notifications, notification ∈ shared.notifications ∨
        (notification.cast1_1 = cast1_1 ∧ notification.cast1_2 = cast1_2 ∧
          notification.registered = shared.mCallback_1_0) := by
  cases own with
  | entered =>
      rw [work, Option.some.injEq, Prod.mk.injEq] at hwork
      rw [← hwork.1]
      exact ⟨rfl, fun notification hmem => Or.inl hmem⟩
  | notifying =>
      rw [work, Option.some.injEq, Prod.mk.injEq] at hwork
      rw [← hwork.1]
      exact notify_spec cast1_1 cast1_2 shared
  | creating => contradiction
  | done => contradiction

theorem work_setCallback {callback : Option Callback} {created : Bool} {shared later : Shared}
    {own stage : Stage}
    (hwork : work (.setCallback callback created) (shared, own) = some (later, stage)) :
    later.notifications = shared.notifications := by
  cases own with
  | entered =>
      rw [work, Option.some.injEq, Prod.mk.injEq] at hwork
      rw [← hwork.1]
  | creating =>
      rw [work, Option.some.injEq, Prod.mk.injEq] at hwork
      rw [← hwork.1]
      split <;> rfl
  | notifying => contradiction
  | done => contradiction

theorem State.Fresh.initial : State.initial.Fresh where
  casting _ hmem := absurd hmem List.not_mem_nil
  queries _ _ _ _ hcall _ := absurd (List.mem_of_getElem? hcall) List.not_mem_nil
  notifications _ hmem := absurd hmem List.not_mem_nil

section Fresh

variable {state : State} {object : Object Shared Op Stage}

/-- A call that moves on without touching the shared state. -/
theorem State.Fresh.moves (hfresh : state.Fresh) {i : ℕ} {op : Op} {before after : Place Stage}
    (hmoves : Moves state.object object i op before after) (hbefore : before ≠ .returned)
    (hshared : object.shared = state.object.shared) :
    ({ state with object := object } : State).Fresh := by
  refine ⟨?_, ?_, ?_⟩
  · rw [hshared]
    exact hfresh.casting
  · intro j cast1_1 cast1_2 place hcall hplace
    rw [hshared]
    by_cases hj : j = i
    · subst hj
      have hself := hmoves.self
      rw [hcall, Option.some.injEq, Call.mk.injEq] at hself
      exact hfresh.queries j cast1_1 cast1_2 before (hself.1 ▸ hmoves.was) hbefore
    · exact hfresh.queries j cast1_1 cast1_2 place (hmoves.other hj ▸ hcall) hplace
  · rw [hshared]
    exact hfresh.notifications

theorem State.Fresh.call (hfresh : state.Fresh) {op : Op} {casting : List (Option Callback)}
    (hcasting : ∀ cast ∈ casting, cast ∈ state.casting)
    (hop : ∀ cast1_1 cast1_2, op = .query cast1_1 cast1_2 →
      cast1_1 = castFrom1_1 state.object.shared.mCallback_1_0 ∧
        cast1_2 = castFrom1_2 state.object.shared.mCallback_1_0)
    (hstep : LockedObject.step code state.object (.call op) = some object) :
    State.Fresh ⟨object, casting⟩ := by
  rw [LockedObject.step, Option.some.injEq] at hstep
  subst hstep
  refine ⟨fun cast hmem => hfresh.casting cast (hcasting cast hmem), ?_, hfresh.notifications⟩
  intro j cast1_1 cast1_2 place hcall hplace
  rw [List.getElem?_append] at hcall
  split at hcall
  · exact hfresh.queries j cast1_1 cast1_2 place hcall hplace
  · have hnew := List.mem_singleton.mp (List.mem_of_getElem? hcall)
    exact hop cast1_1 cast1_2 (congrArg Call.op hnew).symm

theorem State.Fresh.work (hfresh : state.Fresh)
    (hinv : state.object.Invariant code .initial) {i : ℕ}
    (hundisturbed : Undisturbed state (.work i))
    (hstep : LockedObject.step code state.object (.work i) = some object) :
    ({ state with object := object } : State).Fresh := by
  obtain ⟨op, own, later, hmoves, hwork, _, _⟩ := step_work hstep
  cases op with
  | query cast1_1 cast1_2 =>
      obtain ⟨hcallback, hlog⟩ := work_query hwork
      have hcasts := hfresh.queries i cast1_1 cast1_2 _ hmoves.was nofun
      refine ⟨?_, ?_, ?_⟩
      · rw [hcallback]
        exact hfresh.casting
      · intro j other1_1 other1_2 place hcall hplace
        rw [hcallback]
        by_cases hj : j = i
        · subst hj
          have hself := hmoves.self
          rw [hcall, Option.some.injEq, Call.mk.injEq] at hself
          exact hfresh.queries j other1_1 other1_2 (.inside own) (hself.1 ▸ hmoves.was) nofun
        · exact hfresh.queries j other1_1 other1_2 place (hmoves.other hj ▸ hcall) hplace
      · intro notification hmem
        rcases hlog notification hmem with hold | ⟨h1_1, h1_2, hregistered⟩
        · exact hfresh.notifications notification hold
        · rw [h1_1, h1_2, hregistered]
          exact hcasts
  | setCallback callback created =>
      rw [Undisturbed] at hundisturbed
      obtain ⟨hcasting, hwaiting⟩ := hundisturbed callback created _ hmoves.was
      refine ⟨?_, ?_, ?_⟩
      · intro cast hmem
        rw [hcasting] at hmem
        contradiction
      · intro j cast1_1 cast1_2 place hcall hplace
        -- a query that has not returned would wait, or hold the lock as well
        have hj : j ≠ i := by
          intro heq
          subst heq
          rw [hmoves.self, Option.some.injEq, Call.mk.injEq] at hcall
          exact absurd hcall.1 nofun
        rw [hmoves.other hj] at hcall
        cases place with
        | waiting => exact absurd hcall (hwaiting j cast1_1 cast1_2)
        | inside stage =>
            have hsame := hinv.held.unique (inside_of_getElem? hcall)
              (inside_of_getElem? hmoves.was)
            exact absurd hsame hj
        | returned => exact absurd rfl hplace
      · rw [work_setCallback hwork]
        exact hfresh.notifications

end Fresh

theorem State.Fresh.step {state next : State} {action : Action} (hfresh : state.Fresh)
    (hinv : state.object.Invariant code .initial) (hundisturbed : Undisturbed state action)
    (hstep : CallbackVersions.step state action = some next) : next.Fresh := by
  cases action with
  | setCallback callback created =>
      rw [CallbackVersions.step, Option.map_eq_some_iff] at hstep
      obtain ⟨object, hobject, rfl⟩ := hstep
      apply hfresh.call (fun _ hmem => hmem) ?_ hobject
      intro cast1_1 cast1_2 heq
      contradiction
  | cast1_1 =>
      rw [CallbackVersions.step, Option.some.injEq] at hstep
      subst hstep
      refine ⟨?_, hfresh.queries, hfresh.notifications⟩
      intro cast hmem
      rcases List.mem_append.mp hmem with hold | hnew
      · exact hfresh.casting cast hold
      · exact List.mem_singleton.mp hnew
  | cast1_2 query =>
      obtain ⟨cast1_1, hcast, hrest⟩ := Option.bind_eq_some_iff.mp hstep
      obtain ⟨object, hobject, rfl⟩ := Option.map_eq_some_iff.mp hrest
      apply hfresh.call (fun _ hmem => List.mem_of_mem_eraseIdx hmem) ?_ hobject
      intro first second heq
      rw [Op.query.injEq] at heq
      rw [← heq.1, ← heq.2]
      exact ⟨hfresh.casting cast1_1 (List.mem_of_getElem? hcast), rfl⟩
  | acquire call =>
      obtain ⟨object, hobject, rfl⟩ := Option.map_eq_some_iff.mp hstep
      obtain ⟨op, hmoves, _, _, _, hshared⟩ := step_acquire hobject
      exact hfresh.moves hmoves nofun hshared
  | work call =>
      obtain ⟨object, hobject, rfl⟩ := Option.map_eq_some_iff.mp hstep
      exact hfresh.work hinv hundisturbed hobject
  | release call =>
      obtain ⟨object, hobject, rfl⟩ := Option.map_eq_some_iff.mp hstep
      obtain ⟨op, own, hmoves, _, _, _, hshared⟩ := step_release hobject
      exact hfresh.moves hmoves nofun hshared

/-- In every interleaving a notification goes out while a client is registered, to that
client and by its newest method exactly when the casts are its own, and never through a
null pointer; where no `setCallback` comes between the casts of a query and its lock, they
always are. -/
theorem notifications_reach_registered (actions : List Action) (state : State)
    (hrun : run step .initial actions = some state) :
    state.object.shared.nullCalled = false ∧
      (∀ notification ∈ state.object.shared.notifications,
        ∃ current, notification.registered = some current ∧
          ((notification.callback = current ∧ notification.version = current.version) ↔
            Sees notification.cast1_1 notification.cast1_2 current)) ∧
      (EveryStep step Undisturbed .initial actions →
        ∀ notification ∈ state.object.shared.notifications,
          notification.registered = some notification.callback ∧
            notification.version = notification.callback.version) := by
  have hinv : state.object.Invariant code .initial :=
    Reachable.invariant (P := fun state => state.object.Invariant code .initial)
      (Object.Invariant.initial code .initial)
      (fun _ _ _ hinv hstep => invariant_step hinv hstep) ⟨actions, hrun⟩
  have hsound := sound_of_invariant hinv
  have hchosen : ∀ notification ∈ state.object.shared.notifications,
      ∃ current, notification.registered = some current ∧
        ((notification.callback = current ∧ notification.version = current.version) ↔
          Sees notification.cast1_1 notification.cast1_2 current) := by
    intro notification hmem
    obtain ⟨current, hregistered, hrecipient⟩ := hsound.chosen notification hmem
    refine ⟨current, hregistered, ?_⟩
    rw [← recipient_eq_iff, ← hrecipient, Prod.mk.injEq]
  refine ⟨hsound.nullCalled, hchosen, ?_⟩
  intro hevery notification hmem
  have hstart : State.initial.Fresh ∧ State.initial.object.Invariant code .initial :=
    ⟨State.Fresh.initial, Object.Invariant.initial code .initial⟩
  have hfresh : state.Fresh :=
    ((EveryStep.everyState
      (P := fun state : State => state.Fresh ∧ state.object.Invariant code .initial)
      (fun _ _ _ hboth hundisturbed hstep =>
        ⟨hboth.1.step hboth.2 hundisturbed hstep, invariant_step hboth.2 hstep⟩)
      hstart hevery).final hrun).1
  obtain ⟨current, hregistered, hiff⟩ := hchosen notification hmem
  obtain ⟨hcast1_1, hcast1_2⟩ := hfresh.notifications notification hmem
  rw [hregistered] at hcast1_1 hcast1_2
  obtain ⟨hcallback, hversion⟩ := hiff.mpr ⟨hcast1_2, fun _ => hcast1_1⟩
  rw [hregistered, hcallback]
  exact ⟨rfl, hversion⟩

/-! A client is replaced while a query waits for the lock. -/

def oldClient : Callback := ⟨1, true, true, fun _ => rfl⟩

def newClient : Callback := ⟨2, true, true, fun _ => rfl⟩

def replaced : List Action :=
  [.setCallback (some oldClient) true, .acquire 0, .work 0, .work 0, .release 0,
    .cast1_1, .cast1_2 0,
    .setCallback (some newClient) true, .acquire 2, .work 2, .release 2,
    .acquire 1, .work 1, .work 1, .release 1]

def staleNotification : Notification :=
  ⟨oldClient, .V1_2, some oldClient, some oldClient, some newClient⟩

theorem replaced_notifications :
    (run step .initial replaced).map (fun state => state.object.shared.notifications) =
      some [staleNotification] := by
  decide +kernel

theorem notifications_reach_registered_replaced :
    ∃ state, run step .initial replaced = some state ∧
      staleNotification ∈ state.object.shared.notifications ∧
      ¬Sees staleNotification.cast1_1 staleNotification.cast1_2 newClient := by
  obtain ⟨state, hrun, hlog⟩ := Option.map_eq_some_iff.mp replaced_notifications
  have hmem : staleNotification ∈ state.object.shared.notifications := by
    rw [hlog]
    exact List.mem_cons_self
  obtain ⟨_, hreach, _⟩ := notifications_reach_registered replaced state hrun
  obtain ⟨current, hregistered, hiff⟩ := hreach staleNotification hmem
  obtain rfl : newClient = current := Option.some.inj hregistered
  refine ⟨state, hrun, hmem, ?_⟩
  intro hsees
  exact absurd (hiff.mpr hsees).1 (by decide)

end CallbackVersions
end Camellia.Usb

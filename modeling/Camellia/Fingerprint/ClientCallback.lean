import Camellia.Fingerprint.Notifications
import Camellia.LockedObject

/-!
# The client callback

`setNotify` comes on the thread of the service and `notify` on threads of the vendor
library; both hold `mClientCallbackMutex` throughout.  `notify` looks at the callback twice,
once to test it and once to call it.  The mutex keeps the callback from changing in
between, and orders the calls: every message goes to the client that was registered last
before it, once and in this order.
-/

namespace Camellia.Fingerprint

open Transition LockedObject

/-- What `mClientCallbackMutex` protects, with the calls that the clients have received and
whether one of them went through a null pointer. -/
structure ClientCallback where
  mClientCallback : Option Nat
  received : List (Nat × ClientCall)
  nullCalled : Bool

def ClientCallback.initial : ClientCallback where
  mClientCallback := none
  received := []
  nullCalled := false

inductive Entry where
  | setNotify (clientCallback : Option Nat)
  | notify (msg : FingerprintMsg)

inductive Stage where
  | entered
  | tested
  | done

section Serving

variable (header : FingerprintHeader) (devId : Nat)

def work : Entry → ClientCallback × Stage → Option (ClientCallback × Stage)
  | .setNotify clientCallback, (self, .entered) =>
      some ({ self with mClientCallback := clientCallback }, .done)
  | .notify _, (self, .entered) =>
      -- callbacks before the client callback is registered are dropped
      if self.mClientCallback = none then some (self, .done) else some (self, .tested)
  | .notify msg, (self, .tested) =>
      match clientCall header devId msg with
      | none => some (self, .done)
      | some call =>
          match self.mClientCallback with
          | none => some ({ self with nullCalled := true }, .done)
          | some client =>
              some ({ self with received := self.received ++ [(client, call)] }, .done)
  | _, _ => none

def code : Code ClientCallback Entry Stage where
  start _ := .entered
  work := work header devId

/-! ## The service without threads -/

def serve (self : ClientCallback) : Entry → ClientCallback
  | .setNotify clientCallback => { self with mClientCallback := clientCallback }
  | .notify msg =>
      match self.mClientCallback, clientCall header devId msg with
      | some client, some call => { self with received := self.received ++ [(client, call)] }
      | _, _ => self

/-- Who receives what when the entries are served one after the other. -/
def deliveries : Option Nat → List Entry → List (Nat × ClientCall)
  | _, [] => []
  | _, .setNotify clientCallback :: rest => deliveries clientCallback rest
  | mClientCallback, .notify msg :: rest =>
      match mClientCallback, clientCall header devId msg with
      | some client, some call => (client, call) :: deliveries mClientCallback rest
      | _, _ => deliveries mClientCallback rest

variable {header devId}

theorem foldl_serve (entries : List Entry) (self : ClientCallback) :
    (entries.foldl (serve header devId) self).received =
      self.received ++ deliveries header devId self.mClientCallback entries := by
  induction entries generalizing self with
  | nil => simp [deliveries]
  | cons entry rest ih =>
      rw [List.foldl_cons, ih]
      cases entry with
      | setNotify clientCallback => rfl
      | notify msg =>
          cases hclient : self.mClientCallback with
          | none => simp [serve, deliveries, hclient]
          | some client =>
              cases hcall : clientCall header devId msg with
              | none => simp [serve, deliveries, hclient, hcall]
              | some call => simp [serve, deliveries, hclient, hcall]

theorem foldl_serve_nullCalled (entries : List Entry) (self : ClientCallback) :
    (entries.foldl (serve header devId) self).nullCalled = self.nullCalled := by
  induction entries generalizing self with
  | nil => rfl
  | cons entry rest ih =>
      rw [List.foldl_cons, ih]
      cases entry with
      | setNotify clientCallback => rfl
      | notify msg =>
          simp only [serve]
          split
          · rfl
          · rfl

/-! ## The entries under the mutex -/

/-- What holds while an entry is served that has found `before`. -/
def Serving (header : FingerprintHeader) (devId : Nat) (entry : Entry)
    (before : ClientCallback) : ClientCallback × Stage → Prop
  | (self, .entered) => self = before
  | (self, .tested) =>
      self = before ∧ before.mClientCallback ≠ none ∧ ∃ msg, entry = .notify msg
  | (self, .done) => self = serve header devId before entry

theorem Serving.step {entry : Entry} {before : ClientCallback}
    {state next : ClientCallback × Stage} (hserving : Serving header devId entry before state)
    (hwork : work header devId entry state = some next) :
    Serving header devId entry before next := by
  obtain ⟨self, stage⟩ := state
  cases stage with
  | entered =>
      obtain rfl : self = before := hserving
      cases entry with
      | setNotify clientCallback =>
          rw [work, Option.some.injEq] at hwork
          subst hwork
          rfl
      | notify msg =>
          rw [work] at hwork
          by_cases hclient : self.mClientCallback = none
          · rw [if_pos hclient, Option.some.injEq] at hwork
            subst hwork
            simp [Serving, serve, hclient]
          · rw [if_neg hclient, Option.some.injEq] at hwork
            subst hwork
            exact ⟨rfl, hclient, msg, rfl⟩
  | tested =>
      obtain ⟨hself, hclient, msg, rfl⟩ := hserving
      subst hself
      -- the callback is still the one that was tested
      obtain ⟨client, hsome⟩ := Option.ne_none_iff_exists'.mp hclient
      simp only [work, hsome] at hwork
      cases hcall : clientCall header devId msg with
      | none =>
          simp only [hcall, Option.some.injEq] at hwork
          subst hwork
          simp [Serving, serve, hcall]
      | some call =>
          simp only [hcall, Option.some.injEq] at hwork
          subst hwork
          simp [Serving, serve, hsome, hcall]
  | done => cases entry <;> contradiction

theorem Serving.of_works {entry : Entry} {before : ClientCallback}
    {state : ClientCallback × Stage}
    (hworks : (code header devId).Works entry (before, .entered) state) :
    Serving header devId entry before state := by
  induction hworks with
  | refl => rfl
  | tail _ hwork ih => exact ih.step hwork

theorem Serving.nullCalled {entry : Entry} {before self : ClientCallback} {stage : Stage}
    (hserving : Serving header devId entry before (self, stage)) :
    self.nullCalled = before.nullCalled := by
  cases stage with
  | entered => rw [show self = before from hserving]
  | tested => rw [hserving.1]
  | done =>
      rw [show self = serve header devId before entry from hserving]
      exact foldl_serve_nullCalled [entry] before

theorem serve_of_serves (entry : Entry) (before after : ClientCallback)
    (hserves : (code header devId).Serves entry before after) :
    after = serve header devId before entry := by
  obtain ⟨stage, hworks, hend⟩ := hserves
  have hserving := Serving.of_works hworks
  cases stage with
  | entered =>
      cases entry with
      | setNotify clientCallback => simp [code, work] at hend
      | notify msg =>
          simp only [code, work] at hend
          split at hend <;> contradiction
  | tested =>
      obtain ⟨_, _, msg, rfl⟩ := hserving
      simp only [code, work] at hend
      repeat' split at hend
      all_goals contradiction
  | done => exact hserving

end Serving

/-! ## Runs -/

section Runs

variable {header : FingerprintHeader} {devId : Nat}
  {state : Object ClientCallback Entry Stage}

theorem shared_of_sequential {start : ClientCallback} {entries : List Entry}
    {self : ClientCallback} (hsequential : (code header devId).Sequential start entries self) :
    self = entries.foldl (serve header devId) start :=
  hsequential.eq_foldl serve_of_serves

/-- Whether or not a call is being served, no client is called through a null pointer. -/
theorem nullCalled_eq_false {start : ClientCallback}
    (hinv : state.Invariant (code header devId) start) (hstart : start.nullCalled = false) :
    state.shared.nullCalled = false := by
  cases hlock : state.lock with
  | none =>
      rw [shared_of_sequential (hinv.free hlock), foldl_serve_nullCalled, hstart]
  | some i =>
      obtain ⟨⟨entry, place⟩, hcall, hinside⟩ := (hinv.held i).mp hlock
      cases place with
      | inside stage =>
          obtain ⟨earlier, before, _, hsequential, hworks⟩ := hinv.working i entry stage hcall
          rw [(Serving.of_works hworks).nullCalled, shared_of_sequential hsequential,
            foldl_serve_nullCalled, hstart]
      | waiting => contradiction
      | returned => contradiction

theorem order_iff_returned {start : ClientCallback}
    (hinv : state.Invariant (code header devId) start) (hfree : state.lock = none) (i : Nat)
    (entry : Entry) :
    (i, entry) ∈ state.order ↔ state.calls[i]? = some ⟨entry, .returned⟩ := by
  rw [hinv.ordered]
  constructor
  · rintro ⟨place, hcall, hplace⟩
    cases place with
    | waiting => exact absurd rfl hplace
    | inside stage =>
        have hheld := (hinv.held i).mpr ⟨_, hcall, rfl⟩
        rw [hfree] at hheld
        contradiction
    | returned => exact hcall
  · intro hcall
    exact ⟨.returned, hcall, nofun⟩

end Runs

/-- However `setNotify` and `notify` overlap: no client is called through a null pointer;
between two calls the clients have received what the calls that have returned deliver one
after the other; and from any earlier point of the run on, what has been added comes from
the calls that took the mutex since, for the client registered at that point. -/
theorem notifications_delivered (header : FingerprintHeader) (devId : Nat)
    (actions : List (Action Entry)) (state : Object ClientCallback Entry Stage)
    (hrun : run (step (code header devId)) (.initial .initial) actions = some state) :
    state.shared.nullCalled = false ∧
      (state.lock = none →
        (state.order.map Prod.fst).Nodup ∧
        (∀ i entry, (i, entry) ∈ state.order ↔
          state.calls[i]? = some ⟨entry, .returned⟩) ∧
        state.shared.received =
          deliveries header devId none (state.order.map Prod.snd) ∧
        ∀ before after earlier, actions = before ++ after →
          run (step (code header devId)) (.initial .initial) before = some earlier →
          earlier.lock = none →
          ∃ later, state.order = earlier.order ++ later ∧
            state.shared.received = earlier.shared.received ++
              deliveries header devId earlier.shared.mClientCallback
                (later.map Prod.snd)) := by
  have hinv := Object.Invariant.of_run hrun
  refine ⟨nullCalled_eq_false hinv rfl, ?_⟩
  intro hfree
  have hshared := shared_of_sequential (sequential_of_run hrun hfree)
  refine ⟨hinv.nodup, order_iff_returned hinv hfree, ?_, ?_⟩
  · rw [hshared]
    exact foldl_serve _ ClientCallback.initial
  · intro before after earlier hsplit hbefore hearlier
    rw [hsplit, run_append_eq_some] at hrun
    obtain ⟨middle, hmiddle, hafter⟩ := hrun
    obtain rfl : earlier = middle := Option.some.inj (hbefore.symm.trans hmiddle)
    obtain ⟨later, horder⟩ := order_of_run hafter
    have hpast := shared_of_sequential (sequential_of_run hbefore hearlier)
    refine ⟨later, horder, ?_⟩
    rw [hshared, horder, List.map_append, List.foldl_append, ← hpast, foldl_serve]

/-! A message waits while another client takes over. -/

def plainHeader : FingerprintHeader where
  errorHwUnavailable := 1
  errorUnableToProcess := 2
  errorTimeout := 3
  errorNoSpace := 4
  errorCanceled := 5
  errorUnableToRemove := 6
  errorLockout := 7
  errorVendorBase := 1000
  acquiredGood := 0
  acquiredPartial := 1
  acquiredInsufficient := 2
  acquiredImagerDirty := 3
  acquiredTooSlow := 4
  acquiredTooFast := 5
  acquiredVendorBase := 1000

def takeover : List (Action Entry) :=
  [.call (.setNotify (some 1)), .acquire 0, .work 0, .release 0,
    .call (.setNotify (some 2)), .acquire 1, .call (.notify (.error 1003)), .work 1,
    .release 1, .acquire 2, .work 2, .work 2, .release 2]

theorem notifications_delivered_takeover :
    ∃ state, run (step (code plainHeader 5)) (.initial .initial) takeover = some state ∧
      state.shared.nullCalled = false ∧
      state.shared.received = [(2, .onError 5 .errorVendor 3)] := by
  have hdelivered := notifications_delivered plainHeader 5 takeover _ rfl
  exact ⟨_, rfl, hdelivered.1, (hdelivered.2 rfl).2.2.1.trans rfl⟩

end Camellia.Fingerprint

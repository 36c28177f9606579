import Mathlib.Tactic

/-!
# The shared wakelock of the proxy

All wake-up events share one kernel wake lock.  The proxy counts what still
needs it, takes the lock when the count leaves zero and gives it back when the
count returns there.  A decrement that carries the start time of its increment
is ignored once the count has been reset after that time.

Every change to these fields is one of three operations, collected in
`WakelockOp`; the rest of the development reasons about the wakelock through
them.
-/

namespace Camellia.Sensors

/-- The wakelock fields of the proxy.  `held` records whether the last of
`acquire_wake_lock` and `release_wake_lock` called was the acquire. -/
structure Wakelock where
  mWakelockRefCount : ℕ
  mWakelockTimeoutStartTime : ℤ
  mWakelockTimeoutResetTime : ℤ
  held : Bool
deriving DecidableEq

namespace Wakelock

def initial : Wakelock where
  mWakelockRefCount := 0
  mWakelockTimeoutStartTime := 0
  mWakelockTimeoutResetTime := 0
  held := false

/-- The second component is the start time handed out, `none` when the call
returns `false`. -/
def incrementRefCountAndMaybeAcquireWakelock (mThreadsRun : Bool) (lock : Wakelock)
    (delta : ℕ) (timeNow : ℤ) : Wakelock × Option ℤ :=
  if !mThreadsRun then (lock, none)
  else
    ({ lock with
        held := if lock.mWakelockRefCount = 0 then true else lock.held
        mWakelockTimeoutStartTime := timeNow
        mWakelockRefCount := lock.mWakelockRefCount + delta },
      some timeNow)

/-- The default argument of `decrementRefCountAndMaybeReleaseWakelock`. -/
def noTimeoutStart : ℤ := -1

def decrementRefCountAndMaybeReleaseWakelock (mThreadsRun : Bool) (lock : Wakelock)
    (delta : ℕ) (timeoutStart : ℤ) : Wakelock :=
  if !mThreadsRun then lock
  else
    let timeoutStart :=
      if timeoutStart = noTimeoutStart then lock.mWakelockTimeoutResetTime else timeoutStart
    if lock.mWakelockRefCount = 0 ∨ timeoutStart < lock.mWakelockTimeoutResetTime then lock
    else
      let refCount := lock.mWakelockRefCount - min lock.mWakelockRefCount delta
      { lock with
        mWakelockRefCount := refCount
        held := if refCount = 0 then false else lock.held }

def resetSharedWakelock (mThreadsRun : Bool) (lock : Wakelock) (timeNow : ℤ) : Wakelock :=
  { decrementRefCountAndMaybeReleaseWakelock mThreadsRun lock lock.mWakelockRefCount
      noTimeoutStart with
    mWakelockTimeoutResetTime := timeNow }

/-- `none` when the wakelock timed out, otherwise the time left. -/
def sharedWakelockDidTimeout (kWakelockTimeoutNs : ℤ) (lock : Wakelock) (timeNow : ℤ) :
    Option ℤ :=
  let duration := timeNow - lock.mWakelockTimeoutStartTime
  if duration > kWakelockTimeoutNs then none else some (kWakelockTimeoutNs - duration)

end Wakelock

inductive WakelockOp where
  | keep
  | increment (delta : ℕ) (timeNow : ℤ)
  | decrement (delta : ℕ) (timeoutStart : ℤ)
  | reset (timeNow : ℤ)
deriving DecidableEq

namespace Wakelock

def apply (mThreadsRun : Bool) (lock : Wakelock) : WakelockOp → Wakelock
  | .keep => lock
  | .increment delta timeNow =>
      (incrementRefCountAndMaybeAcquireWakelock mThreadsRun lock delta timeNow).1
  | .decrement delta timeoutStart =>
      decrementRefCountAndMaybeReleaseWakelock mThreadsRun lock delta timeoutStart
  | .reset timeNow => resetSharedWakelock mThreadsRun lock timeNow

def HeldIffCounted (lock : Wakelock) : Prop :=
  lock.held = true ↔ 0 < lock.mWakelockRefCount

instance (lock : Wakelock) : Decidable lock.HeldIffCounted :=
  inferInstanceAs (Decidable (_ ↔ _))

/-! ## Threads not running -/

theorem apply_of_not_running (lock : Wakelock) (op : WakelockOp) :
    (lock.apply false op).mWakelockRefCount = lock.mWakelockRefCount ∧
      (lock.apply false op).held = lock.held := by
  cases op <;> exact ⟨rfl, rfl⟩

/-! ## Lock and count -/

theorem increment_heldIffCounted_iff {mThreadsRun : Bool} {lock : Wakelock}
    {delta : ℕ} {timeNow : ℤ} (hlock : lock.HeldIffCounted) :
    (lock.apply mThreadsRun (.increment delta timeNow)).HeldIffCounted ↔
      (mThreadsRun = true → delta = 0 → 0 < lock.mWakelockRefCount) := by
  cases mThreadsRun with
  | false => simpa [apply, incrementRefCountAndMaybeAcquireWakelock] using hlock
  | true =>
      unfold HeldIffCounted at hlock ⊢
      by_cases hzero : lock.mWakelockRefCount = 0
      · simp [apply, incrementRefCountAndMaybeAcquireWakelock, hzero, Nat.pos_iff_ne_zero]
      · have hpos : 0 < lock.mWakelockRefCount := Nat.pos_of_ne_zero hzero
        simp [apply, incrementRefCountAndMaybeAcquireWakelock, hzero, hlock.mpr hpos, hpos]

theorem decrement_cases (mThreadsRun : Bool) (lock : Wakelock) (delta : ℕ)
    (timeoutStart : ℤ) :
    decrementRefCountAndMaybeReleaseWakelock mThreadsRun lock delta timeoutStart = lock ∨
      (0 < lock.mWakelockRefCount ∧
        decrementRefCountAndMaybeReleaseWakelock mThreadsRun lock delta timeoutStart =
          { lock with
            mWakelockRefCount := lock.mWakelockRefCount - min lock.mWakelockRefCount delta
            held :=
              if lock.mWakelockRefCount - min lock.mWakelockRefCount delta = 0 then false
              else lock.held }) := by
  unfold decrementRefCountAndMaybeReleaseWakelock
  cases mThreadsRun with
  | false => exact Or.inl rfl
  | true =>
      simp only [Bool.not_true, Bool.false_eq_true, if_false]
      generalize (if timeoutStart = noTimeoutStart then lock.mWakelockTimeoutResetTime
        else timeoutStart) = start
      by_cases hvoid :
          lock.mWakelockRefCount = 0 ∨ start < lock.mWakelockTimeoutResetTime
      · exact Or.inl (if_pos hvoid)
      · have hpos : 0 < lock.mWakelockRefCount :=
          Nat.pos_of_ne_zero fun hzero => hvoid (Or.inl hzero)
        exact Or.inr ⟨hpos, if_neg hvoid⟩

theorem decrement_heldIffCounted {lock : Wakelock} (hlock : lock.HeldIffCounted)
    (mThreadsRun : Bool) (delta : ℕ) (timeoutStart : ℤ) :
    (decrementRefCountAndMaybeReleaseWakelock mThreadsRun lock delta
      timeoutStart).HeldIffCounted := by
  rcases decrement_cases mThreadsRun lock delta timeoutStart with hvoid | ⟨hpos, hlower⟩
  · rw [hvoid]
    exact hlock
  · have hheld : lock.held = true := hlock.mpr hpos
    rw [hlower]
    unfold HeldIffCounted
    by_cases hzero : lock.mWakelockRefCount - min lock.mWakelockRefCount delta = 0
    · simp [hzero]
    · simp only [hzero, if_false, hheld, true_iff]
      exact Nat.pos_of_ne_zero hzero

theorem reset_heldIffCounted {lock : Wakelock} (hlock : lock.HeldIffCounted)
    (mThreadsRun : Bool) (timeNow : ℤ) :
    (resetSharedWakelock mThreadsRun lock timeNow).HeldIffCounted :=
  decrement_heldIffCounted hlock mThreadsRun lock.mWakelockRefCount noTimeoutStart

/-- The only operation that can part the lock from the count is an increment by
nothing from a count of zero. -/
theorem apply_heldIffCounted_iff {mThreadsRun : Bool} {lock : Wakelock} {op : WakelockOp}
    (hlock : lock.HeldIffCounted) :
    (lock.apply mThreadsRun op).HeldIffCounted ↔
      ∀ timeNow, op = .increment 0 timeNow → mThreadsRun = true →
        0 < lock.mWakelockRefCount := by
  cases op with
  | keep => simpa [apply] using hlock
  | increment delta timeNow =>
      rw [increment_heldIffCounted_iff hlock]
      simp only [WakelockOp.increment.injEq]
      constructor
      · rintro hpos _ ⟨hdelta, _⟩ hrun
        exact hpos hrun hdelta
      · intro hpos hrun hdelta
        exact hpos timeNow ⟨hdelta, rfl⟩ hrun
  | decrement delta timeoutStart =>
      simpa [apply] using decrement_heldIffCounted hlock mThreadsRun delta timeoutStart
  | reset timeNow =>
      simpa [apply] using reset_heldIffCounted hlock mThreadsRun timeNow

/-! ## Reset and start times -/

theorem decrement_resetTime (mThreadsRun : Bool) (lock : Wakelock) (delta : ℕ)
    (timeoutStart : ℤ) :
    (decrementRefCountAndMaybeReleaseWakelock mThreadsRun lock delta
      timeoutStart).mWakelockTimeoutResetTime = lock.mWakelockTimeoutResetTime := by
  rcases decrement_cases mThreadsRun lock delta timeoutStart with hvoid | ⟨_, hlower⟩
  · rw [hvoid]
  · rw [hlower]

theorem apply_resetTime (mThreadsRun : Bool) (lock : Wakelock) (op : WakelockOp) :
    (lock.apply mThreadsRun op).mWakelockTimeoutResetTime =
      match op with
      | .reset timeNow => timeNow
      | _ => lock.mWakelockTimeoutResetTime := by
  cases op with
  | keep => rfl
  | increment delta timeNow => cases mThreadsRun <;> rfl
  | decrement delta timeoutStart =>
      exact decrement_resetTime mThreadsRun lock delta timeoutStart
  | reset timeNow => rfl

theorem decrement_startTime (mThreadsRun : Bool) (lock : Wakelock) (delta : ℕ)
    (timeoutStart : ℤ) :
    (decrementRefCountAndMaybeReleaseWakelock mThreadsRun lock delta
      timeoutStart).mWakelockTimeoutStartTime = lock.mWakelockTimeoutStartTime := by
  rcases decrement_cases mThreadsRun lock delta timeoutStart with hvoid | ⟨_, hlower⟩
  · rw [hvoid]
  · rw [hlower]

theorem decrement_count_le (mThreadsRun : Bool) (lock : Wakelock) (delta : ℕ)
    (timeoutStart : ℤ) :
    (decrementRefCountAndMaybeReleaseWakelock mThreadsRun lock delta
      timeoutStart).mWakelockRefCount ≤ lock.mWakelockRefCount := by
  rcases decrement_cases mThreadsRun lock delta timeoutStart with hvoid | ⟨_, hlower⟩
  · rw [hvoid]
  · rw [hlower]
    exact Nat.sub_le _ _

/-- A count that is positive either was so before and keeps its start time, or has
just been given one. -/
theorem apply_startTime {mThreadsRun : Bool} {lock : Wakelock} {op : WakelockOp}
    (hpos : 0 < (lock.apply mThreadsRun op).mWakelockRefCount) :
    (0 < lock.mWakelockRefCount ∧
        (lock.apply mThreadsRun op).mWakelockTimeoutStartTime =
          lock.mWakelockTimeoutStartTime) ∨
      ∃ delta timeNow, op = .increment delta timeNow ∧
        (lock.apply mThreadsRun op).mWakelockTimeoutStartTime = timeNow := by
  cases op with
  | keep => exact Or.inl ⟨hpos, rfl⟩
  | increment delta timeNow =>
      cases mThreadsRun with
      | false => exact Or.inl ⟨hpos, rfl⟩
      | true => exact Or.inr ⟨delta, timeNow, rfl, rfl⟩
  | decrement delta timeoutStart =>
      exact Or.inl ⟨hpos.trans_le (decrement_count_le _ _ _ _), decrement_startTime _ _ _ _⟩
  | reset timeNow =>
      exact Or.inl ⟨hpos.trans_le (decrement_count_le _ _ _ _), decrement_startTime _ _ _ _⟩

theorem decrement_of_stale {lock : Wakelock} {timeoutStart : ℤ}
    (hstart : timeoutStart ≠ noTimeoutStart)
    (hstale : timeoutStart < lock.mWakelockTimeoutResetTime)
    (mThreadsRun : Bool) (delta : ℕ) :
    decrementRefCountAndMaybeReleaseWakelock mThreadsRun lock delta timeoutStart = lock := by
  unfold decrementRefCountAndMaybeReleaseWakelock
  simp [hstart, hstale]

end Wakelock

/-! ## Scoped wakelocks -/

/-- The `ScopedWakelock` handed to sub-HALs: it is locked when its constructor
took a count, and then remembers the start time it was given. -/
structure ScopedWakelock where
  mLocked : Bool
  mCreatedAtTimeNs : ℤ
deriving DecidableEq

namespace ScopedWakelock

def isLocked (wakelock : ScopedWakelock) : Bool := wakelock.mLocked

def constructOp (lock : Bool) (timeNow : ℤ) : WakelockOp :=
  if lock then .increment 1 timeNow else .keep

def construct (mThreadsRun lock : Bool) (timeNow : ℤ) : ScopedWakelock where
  mLocked := lock && mThreadsRun
  mCreatedAtTimeNs := timeNow

def destroyOp (wakelock : ScopedWakelock) : WakelockOp :=
  if wakelock.mLocked then .decrement 1 wakelock.mCreatedAtTimeNs else .keep

end ScopedWakelock

end Camellia.Sensors

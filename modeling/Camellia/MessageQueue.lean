import Mathlib.Tactic

/-!
# Bounded message queues with one writer and one reader

A queue is the log of all messages ever written to it together with the number
of messages its reader has taken.  The two bounds a ring buffer maintains are
fields, so a queue that overtakes its reader or overfills cannot be built.
Blocks of messages are written and read whole or not at all.
-/

namespace Camellia

structure MessageQueue (α : Type*) where
  quantumCount : ℕ
  written : List α
  numRead : ℕ
  numRead_le : numRead ≤ written.length
  unread_le : written.length - numRead ≤ quantumCount

namespace MessageQueue

variable {α : Type*}

def empty (quantumCount : ℕ) : MessageQueue α where
  quantumCount := quantumCount
  written := []
  numRead := 0
  numRead_le := le_rfl
  unread_le := by simp

def availableToRead (queue : MessageQueue α) : ℕ :=
  queue.written.length - queue.numRead

def availableToWrite (queue : MessageQueue α) : ℕ :=
  queue.quantumCount - queue.availableToRead

def unread (queue : MessageQueue α) : List α :=
  queue.written.drop queue.numRead

def write (queue : MessageQueue α) (messages : List α) : Option (MessageQueue α) :=
  if hroom : messages.length ≤ queue.availableToWrite then
    some {
      quantumCount := queue.quantumCount
      written := queue.written ++ messages
      numRead := queue.numRead
      numRead_le := by
        have := queue.numRead_le
        simp only [List.length_append]
        omega
      unread_le := by
        have := queue.unread_le
        simp only [List.length_append]
        simp only [availableToWrite, availableToRead] at hroom
        omega }
  else none

def read (queue : MessageQueue α) (count : ℕ) : Option (MessageQueue α) :=
  if havailable : count ≤ queue.availableToRead then
    some {
      quantumCount := queue.quantumCount
      written := queue.written
      numRead := queue.numRead + count
      numRead_le := by
        have := queue.numRead_le
        simp only [availableToRead] at havailable
        omega
      unread_le := by
        have := queue.unread_le
        omega }
  else none

@[simp] theorem empty_written (quantumCount : ℕ) :
    (empty quantumCount : MessageQueue α).written = [] := rfl

theorem write_spec {queue next : MessageQueue α} {messages : List α}
    (hwrite : queue.write messages = some next) :
    next.written = queue.written ++ messages ∧
      next.numRead = queue.numRead ∧
      next.quantumCount = queue.quantumCount := by
  unfold write at hwrite
  split at hwrite
  · rw [Option.some.injEq] at hwrite
    subst next
    exact ⟨rfl, rfl, rfl⟩
  · contradiction

theorem write_isSome {queue : MessageQueue α} {messages : List α}
    (hroom : messages.length ≤ queue.availableToWrite) :
    (queue.write messages).isSome := by
  simp [write, hroom]

theorem read_spec {queue next : MessageQueue α} {count : ℕ}
    (hread : queue.read count = some next) :
    next.written = queue.written ∧
      next.numRead = queue.numRead + count ∧
      next.quantumCount = queue.quantumCount := by
  unfold read at hread
  split at hread
  · rw [Option.some.injEq] at hread
    subst next
    exact ⟨rfl, rfl, rfl⟩
  · contradiction

/-- Whether a read goes through or not, it leaves the log of writes alone. -/
theorem read_getD_written (queue : MessageQueue α) (count : ℕ) :
    ((queue.read count).getD queue).written = queue.written := by
  cases hread : queue.read count with
  | none => rfl
  | some next => exact (read_spec hread).1

end MessageQueue

end Camellia

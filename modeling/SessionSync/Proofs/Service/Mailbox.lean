import SessionSync.Service.Mailbox
import Mathlib.Data.List.DropRight

/-!
# What a mailbox keeps

A subscriber that never falls behind by more than the capacity gets everything that is sent, once
and in order. One that falls further behind gets what was sent last, and as much of it as is kept.

* `WithinCapacity` — the invariant.
* `waiting_post`, `waiting_postAll` — what waits after messages have been sent.
-/

namespace SessionSync

/-- The end of a list is not changed by forgetting its beginning first. -/
theorem rtake_append_rtake (l m : List α) (n : Nat) :
    (l.rtake n ++ m).rtake n = (l ++ m).rtake n := by
  rw [List.rtake_eq_reverse_take_reverse, List.rtake_eq_reverse_take_reverse,
    List.rtake_eq_reverse_take_reverse, List.reverse_append, List.reverse_append,
    List.reverse_reverse, List.take_append, List.take_append, List.take_take,
    Nat.min_eq_left (Nat.sub_le n m.reverse.length)]

theorem rtake_of_length_le {l : List α} {n : Nat} (h : l.length ≤ n) : l.rtake n = l := by
  rw [List.rtake, Nat.sub_eq_zero_of_le h, List.drop_zero]

namespace Mailbox

variable {m : Mailbox α}

/-- No more messages wait than are kept, and at least one is kept. -/
structure WithinCapacity (m : Mailbox α) : Prop where
  pos : 0 < m.capacity
  length : m.waiting.length ≤ m.capacity

theorem withinCapacity_empty {capacity : Nat} (pos : 0 < capacity) :
    (empty capacity : Mailbox α).WithinCapacity :=
  ⟨pos, Nat.zero_le capacity⟩

@[simp] theorem capacity_post (m : Mailbox α) (a : α) : (m.post a).capacity = m.capacity := by
  unfold post
  split <;> rfl

@[simp] theorem capacity_postAll (m : Mailbox α) (l : List α) :
    (m.postAll l).capacity = m.capacity := by
  induction l generalizing m with
  | nil => rfl
  | cons a l ih => exact (ih (m.post a)).trans (capacity_post m a)

/-! ## Sending -/

/-- A message that is sent is kept, if need be in place of the oldest one. -/
theorem waiting_post (h : m.WithinCapacity) (a : α) :
    (m.post a).waiting = (m.waiting ++ [a]).rtake m.capacity := by
  obtain ⟨pos, length⟩ := h
  unfold post
  split
  · next hfree =>
    have hlength : (m.waiting ++ [a]).length ≤ m.capacity := by
      rw [List.length_append, List.length_singleton]
      exact hfree
    rw [rtake_of_length_le hlength]
  · next hfull =>
    have heq : m.capacity = m.waiting.length := Nat.le_antisymm (Nat.le_of_not_lt hfull) length
    rw [List.rtake, List.length_append, List.length_singleton, heq, Nat.add_sub_cancel_left,
      List.drop_append_of_le_length (heq ▸ pos)]

theorem WithinCapacity.post (h : m.WithinCapacity) (a : α) : (m.post a).WithinCapacity := by
  refine ⟨by simpa using h.pos, ?_⟩
  rw [waiting_post h, List.rtake, List.length_drop, capacity_post]
  omega

/-- Of everything that waits and is sent, the last messages are kept. -/
theorem waiting_postAll (h : m.WithinCapacity) (l : List α) :
    (m.postAll l).waiting = (m.waiting ++ l).rtake m.capacity := by
  induction l generalizing m with
  | nil =>
    rw [List.append_nil, rtake_of_length_le h.length]
    rfl
  | cons a l ih =>
    show ((m.post a).postAll l).waiting = _
    rw [ih (h.post a), waiting_post h, capacity_post, rtake_append_rtake, List.append_assoc,
      List.singleton_append]

theorem WithinCapacity.postAll (h : m.WithinCapacity) (l : List α) :
    (m.postAll l).WithinCapacity := by
  induction l generalizing m with
  | nil => exact h
  | cons a l ih => exact ih (h.post a)

end Mailbox

end SessionSync

import GenerationGateway.Library.Table

/-!
# Buffered channels

A channel keeps the values in the order in which they were sent and never more than its capacity.
Sending does not wait: it fails on a full channel. A channel of units is a semaphore, and the
sum over the holders is what is in it.
-/

namespace Channels

structure Channel (α : Type) where
  capacity : ℕ
  items : List α
  bounded : items.length ≤ capacity

namespace Channel

variable {α : Type}

def make (capacity : ℕ) : Channel α := ⟨capacity, [], Nat.zero_le _⟩

/-- `select { case c <- a: default: }`. -/
def trySend (c : Channel α) (a : α) : Option (Channel α) :=
  if h : c.items.length < c.capacity then
    some ⟨c.capacity, c.items ++ [a], by rw [List.length_append]; exact h⟩
  else none

/-- `<-c`; `none` is a receiver that waits. -/
def receive (c : Channel α) : Option (α × Channel α) :=
  match h : c.items with
  | [] => none
  | a :: rest => some (a, ⟨c.capacity, rest, by
      have hbound := c.bounded
      rw [h, List.length_cons] at hbound
      omega⟩)

variable {c c' : Channel α} {a : α}

theorem trySend_eq_some (h : c.trySend a = some c') :
    c'.capacity = c.capacity ∧ c'.items = c.items ++ [a] := by
  unfold trySend at h
  split_ifs at h
  cases h
  exact ⟨rfl, rfl⟩

theorem trySend_eq_none : c.trySend a = none ↔ c.items.length = c.capacity := by
  unfold trySend
  split_ifs with h
  · simp [h.ne]
  · simp [le_antisymm c.bounded (not_lt.mp h)]

theorem receive_eq_some (h : c.receive = some (a, c')) :
    c'.capacity = c.capacity ∧ c.items = a :: c'.items := by
  unfold receive at h
  split at h
  · cases h
  · next b rest hitems =>
    cases h
    exact ⟨rfl, hitems⟩

theorem receive_eq_none : c.receive = none ↔ c.items = [] := by
  unfold receive
  split
  · next hitems => simp [hitems]
  · next hitems => simp [hitems]

end Channel

end Channels

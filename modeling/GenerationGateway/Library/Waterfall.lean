import Mathlib.Algebra.Order.Group.Defs
import Mathlib.Tactic

/-!
# Draining buckets in order

A charge empties a list of buckets from the front: each bucket gives what it has, and the
next one the rest. Two charges in a row drain what their sum drains.
-/

namespace Waterfall

variable {α : Type*} [AddCommGroup α] [LinearOrder α]

/-- The buckets after a charge. -/
def drain : List α → α → List α
  | [], _ => []
  | b :: bs, c => (b - min b c) :: drain bs (c - min b c)

theorem drain_zero {bs : List α} (hbs : ∀ b ∈ bs, 0 ≤ b) : drain bs 0 = bs := by
  induction bs with
  | nil => rfl
  | cons b bs ih =>
    obtain ⟨hb, hrest⟩ := List.forall_mem_cons.mp hbs
    rw [drain, min_eq_right hb, sub_zero, sub_zero, ih hrest]

/-- A charge of at least the first bucket empties it. -/
theorem drain_of_le {b c : α} (bs : List α) (h : b ≤ c) :
    drain (b :: bs) c = 0 :: drain bs (c - b) := by
  rw [drain, min_eq_left h, sub_self]

/-- A charge within the first bucket leaves the others alone. -/
theorem drain_of_ge {b c : α} {bs : List α} (hbs : ∀ b ∈ bs, 0 ≤ b) (h : c ≤ b) :
    drain (b :: bs) c = (b - c) :: bs := by
  rw [drain, min_eq_right h, sub_self, drain_zero hbs]

variable [IsOrderedAddMonoid α]

theorem drain_nonneg {bs : List α} (hbs : ∀ b ∈ bs, 0 ≤ b) {c : α} (hc : 0 ≤ c) :
    ∀ b ∈ drain bs c, 0 ≤ b := by
  induction bs generalizing c with
  | nil => simp [drain]
  | cons b bs ih =>
    obtain ⟨hb, hrest⟩ := List.forall_mem_cons.mp hbs
    rcases le_total b c with h | h
    · rw [drain_of_le bs h]
      exact List.forall_mem_cons.mpr ⟨le_rfl, ih hrest (sub_nonneg.mpr h)⟩
    · rw [drain_of_ge hrest h]
      exact List.forall_mem_cons.mpr ⟨sub_nonneg.mpr h, hrest⟩

theorem drain_le {bs : List α} (hbs : ∀ b ∈ bs, 0 ≤ b) {c : α} (hc : 0 ≤ c) :
    List.Forall₂ (· ≤ ·) (drain bs c) bs := by
  induction bs generalizing c with
  | nil => exact .nil
  | cons b bs ih =>
    obtain ⟨hb, hrest⟩ := List.forall_mem_cons.mp hbs
    have hmin : 0 ≤ min b c := le_min hb hc
    refine .cons (sub_le_self b hmin) (ih hrest ?_)
    exact sub_nonneg.mpr (min_le_right b c)

/-- The total falls by the charge, or to zero. -/
theorem drain_sum {bs : List α} (hbs : ∀ b ∈ bs, 0 ≤ b) {c : α} (hc : 0 ≤ c) :
    (drain bs c).sum = bs.sum - min c bs.sum := by
  induction bs generalizing c with
  | nil => simp [drain, min_eq_right hc]
  | cons b bs ih =>
    obtain ⟨hb, hrest⟩ := List.forall_mem_cons.mp hbs
    rcases le_total b c with h | h
    · have hmin : min c (b + bs.sum) = b + min (c - b) bs.sum := by
        rw [← min_add_add_left, add_sub_cancel]
      rw [drain_of_le bs h, List.sum_cons, List.sum_cons, ih hrest (sub_nonneg.mpr h), hmin]
      abel
    · have hle : c ≤ b + bs.sum := h.trans (le_add_of_nonneg_right (List.sum_nonneg hrest))
      rw [drain_of_ge hrest h, List.sum_cons, List.sum_cons, min_eq_left hle]
      abel

/-- Two charges in a row are one charge of their sum. -/
theorem drain_drain {bs : List α} (hbs : ∀ b ∈ bs, 0 ≤ b) {c d : α} (hc : 0 ≤ c) (hd : 0 ≤ d) :
    drain (drain bs c) d = drain bs (c + d) := by
  induction bs generalizing c d with
  | nil => rfl
  | cons b bs ih =>
    obtain ⟨hb, hrest⟩ := List.forall_mem_cons.mp hbs
    rcases le_total b c with h | h
    · have hsum : b ≤ c + d := h.trans (le_add_of_nonneg_right hd)
      rw [drain_of_le bs h, drain_of_le _ hd, drain_of_le bs hsum,
        ih hrest (sub_nonneg.mpr h) (by simpa using hd), sub_zero, sub_add_eq_add_sub]
    · rw [drain_of_ge hrest h]
      rcases le_total (b - c) d with h' | h'
      · have hsum : b ≤ c + d := sub_le_iff_le_add'.mp h'
        have hleft : d - (b - c) = c + d - b := by abel
        rw [drain_of_le bs h', drain_of_le bs hsum, hleft]
      · have hsum : c + d ≤ b := (le_sub_iff_add_le'.mp h')
        rw [drain_of_ge hrest h', drain_of_ge hrest hsum, sub_sub]

end Waterfall

import Mathlib.Tactic

/-!
# Texts that are cut at a separator

The first occurrence of a separator splits a text in a part that does not have it and the rest.
-/

namespace Cuts

variable {α : Type} {c : α} {xs ys : List α}

section Find

variable [DecidableEq α]

theorem idxOf_cut (h : c ∉ xs) : (xs ++ c :: ys).idxOf c = xs.length := by
  rw [List.idxOf_append_of_notMem h, List.idxOf_cons_self, Nat.add_zero]

theorem take_cut (h : c ∉ xs) : (xs ++ c :: ys).take ((xs ++ c :: ys).idxOf c) = xs := by
  rw [idxOf_cut h, List.take_left]

theorem drop_cut (h : c ∉ xs) : (xs ++ c :: ys).drop ((xs ++ c :: ys).idxOf c + 1) = ys := by
  rw [idxOf_cut h, ← List.drop_drop, List.drop_left]
  rfl

theorem takeWhile_cut (h : c ∉ xs) : (xs ++ c :: ys).takeWhile (· ≠ c) = xs := by
  have hall : ∀ x ∈ xs, decide (x ≠ c) = true := by
    intro x hx
    apply decide_eq_true
    intro heq
    exact h (heq ▸ hx)
  rw [List.takeWhile_append_of_pos hall, List.takeWhile_cons_of_neg (by simp), List.append_nil]

end Find

/-- A beginning without the separator ends before it. -/
theorem prefix_of_cut {p : List α} (hp : c ∉ p) (h : p <+: xs ++ c :: ys) : p <+: xs := by
  induction p generalizing xs with
  | nil => exact List.nil_prefix
  | cons a rest ih =>
    rw [List.mem_cons, not_or] at hp
    cases xs with
    | nil => exact absurd (List.cons_prefix_cons.mp h).1.symm hp.1
    | cons x xs =>
      rw [List.cons_append, List.cons_prefix_cons] at h
      exact List.cons_prefix_cons.mpr ⟨h.1, ih hp.2 h.2⟩

/-- A part that starts with a letter that the first text does not have lies in the second. -/
theorem infix_of_append {p : List α} (h : c ∉ xs) (hwithin : c :: p <:+: xs ++ ys) :
    c :: p <:+: ys := by
  induction xs with
  | nil => exact hwithin
  | cons x xs ih =>
    rw [List.mem_cons, not_or] at h
    rw [List.cons_append, List.infix_cons_iff] at hwithin
    rcases hwithin with hstarts | hrest
    · exact absurd (List.cons_prefix_cons.mp hstarts).1 h.1
    · exact ih h.2 hrest

end Cuts

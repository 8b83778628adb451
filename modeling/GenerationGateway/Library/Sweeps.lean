import Mathlib.Tactic

/-!
# Sweeps with a cursor

A sweep visits the elements of a set in batches while the set changes. All that is promised is
that it comes by every element that is there from its beginning to its end. So an element is still
to come, or found and not dealt with yet, or it has come to the set during the sweep.
-/

namespace Sweeps

structure Sweep (κ : Type) where
  pending : List κ
  found : List κ
  deriving DecidableEq

namespace Sweep

variable {κ : Type} {s : Sweep κ} {k j : κ} {batch : List κ}

def start (keys : List κ) : Sweep κ := ⟨keys, []⟩

/-- The batch is dealt with. -/
def clear (s : Sweep κ) : Sweep κ := ⟨s.pending, []⟩

/-- The sweep has not dealt with the element. -/
def Owes (s : Sweep κ) (k : κ) : Prop := k ∈ s.pending ∨ k ∈ s.found

theorem owes_start {keys : List κ} (h : k ∈ keys) : (start keys).Owes k := .inl h

theorem owes_clear (h : s.Owes k) (hk : k ∉ s.found) : s.clear.Owes k := by
  rcases h with hpending | hfound
  · exact .inl hpending
  · exact absurd hfound hk

/-- At its end a sweep owes nothing that is there. -/
theorem not_owes {p : κ → Prop} (hfound : s.found = []) (hpending : ∀ k ∈ s.pending, ¬ p k)
    (hk : p k) : ¬ s.Owes k := by
  rintro (hold | hold)
  · exact hpending k hold hk
  · rw [hfound] at hold
    cases hold

variable [DecidableEq κ]

/-- The next batch. -/
def take (batch : List κ) (s : Sweep κ) : Sweep κ :=
  ⟨s.pending.filter fun k => !batch.contains k, batch⟩

/-- An element comes to the set, which the sweep need not find any more. -/
def arrive (j : κ) (s : Sweep κ) : Sweep κ := ⟨s.pending.filter fun k => k ≠ j, s.found⟩

theorem owes_take (h : s.Owes k) (hfound : s.found = []) : (s.take batch).Owes k := by
  by_cases hk : k ∈ batch
  · exact .inr hk
  · rcases h with hpending | hold
    · left
      simp [take, hpending, hk]
    · rw [hfound] at hold
      cases hold

theorem owes_arrive (h : s.Owes k) (hk : k ≠ j) : (s.arrive j).Owes k := by
  rcases h with hpending | hfound
  · left
    simp [arrive, hpending, hk]
  · exact .inr hfound

end Sweep

end Sweeps

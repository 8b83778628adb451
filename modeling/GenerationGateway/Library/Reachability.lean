import Mathlib.Logic.Relation
import Mathlib.Tactic

/-!
# Labelled transition systems

A system has states and labelled steps. What every step preserves holds along
every run; a condition on the steps gives a system of its own, so a property of
the runs whose steps all meet it is a property of that system.
-/

namespace Transitions

structure LTS (σ ε : Type) where
  step : σ → ε → σ → Prop

namespace LTS

variable {σ ε : Type} (M : LTS σ ε)

/-- `M.Run s es s'`: the labels `es` lead from `s` to `s'`. -/
def Run : σ → List ε → σ → Prop
  | s, [], s' => s' = s
  | s, e :: es, s' => ∃ t, M.step s e t ∧ Run t es s'

@[simp] theorem run_nil {s s' : σ} : M.Run s [] s' ↔ s' = s := Iff.rfl

@[simp] theorem run_cons {s s' : σ} {e : ε} {es : List ε} :
    M.Run s (e :: es) s' ↔ ∃ t, M.step s e t ∧ M.Run t es s' := Iff.rfl

theorem run_append {s s' : σ} {es fs : List ε} :
    M.Run s (es ++ fs) s' ↔ ∃ t, M.Run s es t ∧ M.Run t fs s' := by
  induction es generalizing s with
  | nil => simp
  | cons e es ih =>
    simp only [List.cons_append, run_cons, ih]
    constructor
    · rintro ⟨t, ht, u, hu, hs⟩
      exact ⟨u, ⟨t, ht, hu⟩, hs⟩
    · rintro ⟨u, ⟨t, ht, hu⟩, hs⟩
      exact ⟨t, ht, u, hu, hs⟩

/-- The states that some run leads to. -/
def Reachable (s s' : σ) : Prop := ∃ es, M.Run s es s'

/-- The system that takes only the steps meeting `cond`, a condition on the state
before the step and on its label. -/
def restrict (cond : σ → ε → Prop) : LTS σ ε := ⟨fun s e s' => M.step s e s' ∧ cond s e⟩

variable {M}

/-- The invariant rule. -/
theorem Run.invariant {I : σ → Prop} (hstep : ∀ s e s', M.step s e s' → I s → I s')
    {s s' : σ} {es : List ε} (h : M.Run s es s') (hs : I s) : I s' := by
  induction es generalizing s with
  | nil => exact h ▸ hs
  | cons e es ih =>
    obtain ⟨t, ht, hrun⟩ := h
    exact ih hrun (hstep s e t ht hs)

theorem Reachable.invariant {I : σ → Prop} (hstep : ∀ s e s', M.step s e s' → I s → I s')
    {s s' : σ} (h : M.Reachable s s') (hs : I s) : I s' :=
  h.choose_spec.invariant hstep hs

/-- The invariant rule for steps that preserve `J` only where `I` holds. -/
theorem Run.invariant_of {I J : σ → Prop} (hI : ∀ s e s', M.step s e s' → I s → I s')
    (hJ : ∀ s e s', M.step s e s' → I s → J s → J s') {s s' : σ} {es : List ε}
    (h : M.Run s es s') (hs : I s) (hj : J s) : J s' :=
  have hboth : I s' ∧ J s' := Run.invariant
    (fun s e s' hstep (hs : I s ∧ J s) => ⟨hI s e s' hstep hs.1, hJ s e s' hstep hs.1 hs.2⟩)
    h ⟨hs, hj⟩
  hboth.2

/-- The invariant rule for a relation between a state and the labels that led to it. -/
theorem Run.invariant_history {I : List ε → σ → Prop} {s s' : σ} {es : List ε}
    (hstep : ∀ es t e t', M.Run s es t → M.step t e t' → I es t → I (es ++ [e]) t')
    (h : M.Run s es s') (hs : I [] s) : I es s' := by
  induction es using List.reverseRecOn generalizing s' with
  | nil => exact h ▸ hs
  | append_singleton es e ih =>
    obtain ⟨t, ht, u, hu, rfl⟩ := (M.run_append).mp h
    exact hstep es t e _ ht hu (ih ht)

theorem Reachable.run {s s' s'' : σ} {es : List ε} (h : M.Reachable s s') (h' : M.Run s' es s'') :
    M.Reachable s s'' := by
  obtain ⟨ds, hds⟩ := h
  exact ⟨ds ++ es, (M.run_append).mpr ⟨s', hds, h'⟩⟩

theorem Run.of_restrict {cond : σ → ε → Prop} {s s' : σ} {es : List ε}
    (h : (M.restrict cond).Run s es s') : M.Run s es s' := by
  induction es generalizing s with
  | nil => exact h
  | cons e es ih =>
    obtain ⟨t, ht, hrun⟩ := h
    exact ⟨t, ht.1, ih hrun⟩

theorem Run.mono {N : LTS σ ε} (hstep : ∀ s e s', M.step s e s' → N.step s e s') {s s' : σ}
    {es : List ε} (h : M.Run s es s') : N.Run s es s' := by
  induction es generalizing s with
  | nil => exact h
  | cons e es ih =>
    obtain ⟨t, ht, hrun⟩ := h
    exact ⟨t, hstep s e t ht, ih hrun⟩

/-- The system of a step function. -/
def ofStep (step : σ → ε → Option σ) : LTS σ ε := ⟨fun s e s' => step s e = some s'⟩

/-- The labels one after the other, as long as each meets the condition. -/
def follow (step : σ → ε → Option σ) (cond : σ → ε → Bool) (s : σ) : List ε → Option σ
  | [] => some s
  | e :: es => if cond s e then (step s e).bind fun s' => follow step cond s' es else none

theorem run_of_follow {step : σ → ε → Option σ} {cond : σ → ε → Bool} {s s' : σ} {es : List ε}
    (h : follow step cond s es = some s') :
    ((ofStep step).restrict fun s e => cond s e = true).Run s es s' := by
  induction es generalizing s with
  | nil =>
    cases h
    rfl
  | cons e es ih =>
    unfold follow at h
    split_ifs at h with hcond
    obtain ⟨t, ht, hrun⟩ := Option.bind_eq_some_iff.mp h
    exact ⟨t, ⟨ht, hcond⟩, ih hrun⟩

end LTS

end Transitions

import GenerationGateway.Library.Program

/-!
# Programs among others

Between the calls of a program other parties take steps. The timeline keeps every state passed, so
what a program may conclude is what held at some moment of its run. A state is not left for
another without passing what lies between them.
-/

namespace Effects

/-- The states of a run so far, the last one apart. -/
structure Timeline (σ : Type) where
  now : σ
  past : List σ

namespace Timeline

variable {σ : Type}

def push (h : Timeline σ) (s : σ) : Timeline σ := ⟨s, h.now :: h.past⟩

def states (h : Timeline σ) : List σ := h.now :: h.past

@[simp] theorem push_now (h : Timeline σ) (s : σ) : (h.push s).now = s := rfl

@[simp] theorem push_states (h : Timeline σ) (s : σ) : (h.push s).states = s :: h.states := rfl

theorem now_mem (h : Timeline σ) : h.now ∈ h.states := List.mem_cons_self

end Timeline

variable {S : Signature} {σ α : Type}

/-- One step of somebody else. -/
def Beside (others : σ → σ → Prop) (h h' : Timeline σ) : Prop :=
  ∃ s, others h.now s ∧ h' = h.push s

/-- Steps of others. -/
abbrev Meanwhile (others : σ → σ → Prop) : Timeline σ → Timeline σ → Prop :=
  Relation.ReflTransGen (Beside others)

/-- A call with steps of others before and after it. -/
def amongStep (others : σ → σ → Prop) (step : (op : S.Op) → σ → S.Res op → σ → Prop) (op : S.Op)
    (h : Timeline σ) (r : S.Res op) (h' : Timeline σ) : Prop :=
  ∃ h₁ s, Meanwhile others h h₁ ∧ step op h₁.now r s ∧ Meanwhile others (h₁.push s) h'

variable {others : σ → σ → Prop} {step : (op : S.Op) → σ → S.Res op → σ → Prop}
  {h h' : Timeline σ} {P A L : σ → Prop}

theorem Meanwhile.subset (hm : Meanwhile others h h') : h.states ⊆ h'.states := by
  induction hm with
  | refl => exact List.Subset.refl _
  | tail _ hstep ih =>
    obtain ⟨s, -, rfl⟩ := hstep
    exact List.Subset.trans ih (List.subset_cons_self _ _)

/-- What has been passed stays passed. -/
theorem amongStep_subset {op : S.Op} {r : S.Res op} (hc : amongStep others step op h r h') :
    h.states ⊆ h'.states := by
  obtain ⟨h₁, s, hbefore, -, hafter⟩ := hc
  have hpushed : h₁.states ⊆ (h₁.push s).states := List.subset_cons_self _ _
  exact List.Subset.trans hbefore.subset (List.Subset.trans hpushed hafter.subset)

/-- The states just before and just after the call itself. -/
theorem amongStep_moment {op : S.Op} {r : S.Res op} (hc : amongStep others step op h r h') :
    ∃ s s', s ∈ h'.states ∧ s' ∈ h'.states ∧ step op s r s' := by
  obtain ⟨h₁, s', hbefore, hstep, hafter⟩ := hc
  refine ⟨h₁.now, s', hafter.subset ?_, hafter.subset List.mem_cons_self, hstep⟩
  exact List.mem_cons_of_mem _ h₁.now_mem

theorem Runs.subset {p : Prog S α} {a : α} (hr : p.Runs (amongStep others step) h a h') :
    h.states ⊆ h'.states := by
  induction p generalizing h with
  | ret b => exact hr.2 ▸ List.Subset.refl _
  | call op k ih =>
    obtain ⟨r, h₁, hc, hk⟩ := hr
    exact List.Subset.trans (amongStep_subset hc) (ih r hk)

/-- Where `A` is left only for `L`, steps of others that begin in `A` end in it or pass `L`. -/
theorem Meanwhile.passes (hm : Meanwhile others h h')
    (hothers : ∀ s s', others s s' → A s → A s' ∨ L s') (hA : A h.now) :
    A h'.now ∨ ∃ s ∈ h'.states, L s := by
  induction hm with
  | refl => exact .inl hA
  | @tail h₁ h₂ _ hstep ih =>
    obtain ⟨s, hs, rfl⟩ := hstep
    rcases ih with hA₁ | ⟨s', hs', hL⟩
    · rcases hothers _ _ hs hA₁ with hA₂ | hL
      · exact .inl hA₂
      · exact .inr ⟨s, List.mem_cons_self, hL⟩
    · exact .inr ⟨s', List.mem_cons_of_mem _ hs', hL⟩

end Effects

import Mathlib.Data.List.MinMax
import Mathlib.Order.Basic
import Mathlib.Tactic

/-!
# Lines with two classes of jobs

Jobs stand in line in the order of their arrival. An urgent job waits for the
urgent ones before it and for the aged others before it; a job that is not urgent
waits for the others before it and, as long as it has not aged, for every urgent
one. Some places may be kept back for urgent jobs while there are any. The line
moves except in one case, which is a cycle: the others are kept out, and the
urgent jobs wait for one of them.
-/

namespace Waiting

structure Line (α κ : Type) [LinearOrder κ] where
  jobs : List α
  arrival : α → κ
  urgent : α → Prop
  aged : α → Prop
  /-- The jobs that others have to wait for. -/
  counts : α → Prop
  aged_of_le : ∀ a b, arrival a ≤ arrival b → aged b → aged a

namespace Line

variable {α κ : Type} [LinearOrder κ] (L : Line α κ)

def Blocks (e t : α) : Prop :=
  e ∈ L.jobs ∧ L.counts e ∧
    ((L.urgent t ∧ L.arrival e < L.arrival t ∧ (L.urgent e ∨ L.aged e)) ∨
      (¬ L.urgent t ∧ (L.urgent e ∧ ¬ L.aged t ∨ ¬ L.urgent e ∧ L.arrival e < L.arrival t)))

/-- With the places kept back, jobs that are not urgent stay out while one is urgent. -/
def Moves (keptBack : Prop) (t : α) : Prop :=
  t ∈ L.jobs ∧ (∀ e, ¬ L.Blocks e t) ∧
    (L.urgent t ∨ ¬ (keptBack ∧ ∃ v ∈ L.jobs, L.urgent v))

/-- An aged job is before every urgent one. -/
def Overtaken : Prop :=
  ∃ u ∈ L.jobs, L.counts u ∧ ¬ L.urgent u ∧ L.aged u ∧
    ∀ v ∈ L.jobs, L.urgent v → L.arrival u < L.arrival v

variable {L}

theorem not_blocks_self {t : α} : ¬ L.Blocks t t := by
  rintro ⟨-, -, ⟨-, hbefore, -⟩ | ⟨hnot, ⟨hurgent, -⟩ | ⟨-, hbefore⟩⟩⟩
  · exact lt_irrefl _ hbefore
  · exact hnot hurgent
  · exact lt_irrefl _ hbefore

theorem Overtaken.other (h : L.Overtaken) : ∃ u ∈ L.jobs, ¬ L.urgent u := by
  obtain ⟨u, hu, -, hnot, -⟩ := h
  exact ⟨u, hu, hnot⟩

/-- The first of the jobs that meet `P`. -/
theorem exists_first {P : α → Prop} (h : ∃ t ∈ L.jobs, P t) :
    ∃ t ∈ L.jobs, P t ∧ ∀ e ∈ L.jobs, P e → L.arrival t ≤ L.arrival e := by
  classical
  obtain ⟨t, ht, hP⟩ := h
  have hmem : t ∈ L.jobs.filter fun e => decide (P e) := List.mem_filter.mpr ⟨ht, decide_eq_true hP⟩
  cases hfirst : (L.jobs.filter fun e => decide (P e)).argmin L.arrival with
  | none =>
    rw [List.argmin_eq_none.mp hfirst] at hmem
    cases hmem
  | some first =>
    have hin := List.argmin_mem (Option.mem_def.mpr hfirst)
    obtain ⟨hjob, hPfirst⟩ := List.mem_filter.mp hin
    refine ⟨first, hjob, of_decide_eq_true hPfirst, fun e he hPe => ?_⟩
    exact List.le_of_mem_argmin (List.mem_filter.mpr ⟨he, decide_eq_true hPe⟩)
      (Option.mem_def.mpr hfirst)

/-- The first urgent job waits for nothing, unless an aged one is before all urgent. -/
theorem moves_urgent {keptBack : Prop} (hurgent : ∃ v ∈ L.jobs, L.urgent v) (h : ¬ L.Overtaken) :
    ∃ t, L.Moves keptBack t := by
  obtain ⟨v, hv, hurgentv, hfirst⟩ := exists_first hurgent
  refine ⟨v, hv, ?_, .inl hurgentv⟩
  rintro e ⟨he, hcounts, ⟨-, hbefore, hkind⟩ | ⟨hnot, -⟩⟩
  · by_cases hurgente : L.urgent e
    · exact absurd hbefore (not_lt.mpr (hfirst e he hurgente))
    · have haged := hkind.resolve_left hurgente
      refine h ⟨e, he, hcounts, hurgente, haged, fun w hw hurgentw => ?_⟩
      exact hbefore.trans_le (hfirst w hw hurgentw)
  · exact hnot hurgentv

/-- The first of the others waits for nothing, unless places are kept back. -/
theorem moves_other {keptBack : Prop} (hother : ∃ u ∈ L.jobs, ¬ L.urgent u)
    (haged : (∃ v ∈ L.jobs, L.urgent v) → L.Overtaken)
    (h : ¬ (keptBack ∧ ∃ v ∈ L.jobs, L.urgent v)) : ∃ t, L.Moves keptBack t := by
  obtain ⟨u, hu, hnot, hfirst⟩ := exists_first hother
  refine ⟨u, hu, ?_, .inr h⟩
  rintro e ⟨he, -, ⟨hurgent, -⟩ | ⟨-, ⟨hurgent, hyoung⟩ | ⟨hother, hbefore⟩⟩⟩
  · exact hnot hurgent
  · obtain ⟨w, hw, -, hnotw, hagedw, -⟩ := haged ⟨e, he, hurgent⟩
    exact hyoung (L.aged_of_le u w (hfirst w hw hnotw) hagedw)
  · exact absurd hbefore (not_lt.mpr (hfirst e he hother))

/-- A line moves except in the cycle. -/
theorem exists_moves_iff {keptBack : Prop} (hjobs : ∃ t, t ∈ L.jobs) :
    (∃ t, L.Moves keptBack t) ↔
      ¬ (keptBack ∧ (∃ v ∈ L.jobs, L.urgent v) ∧ L.Overtaken) := by
  constructor
  · rintro ⟨t, ht, hfree, hslot⟩ ⟨hkept, hurgent, u, hu, hcounts, hnot, haged, hbefore⟩
    have hurgentt := hslot.resolve_right (not_not.mpr ⟨hkept, hurgent⟩)
    exact hfree u ⟨hu, hcounts, .inl ⟨hurgentt, hbefore t ht hurgentt, .inr haged⟩⟩
  · intro h
    by_cases hurgent : ∃ v ∈ L.jobs, L.urgent v
    · by_cases hover : L.Overtaken
      · exact moves_other hover.other (fun _ => hover) fun hkept => h ⟨hkept.1, hurgent, hover⟩
      · exact moves_urgent hurgent hover
    · obtain ⟨t, ht⟩ := hjobs
      refine moves_other ⟨t, ht, fun hurgentt => hurgent ⟨t, ht, hurgentt⟩⟩
        (fun hsome => absurd hsome hurgent) fun hkept => hurgent hkept.2

end Line

end Waiting

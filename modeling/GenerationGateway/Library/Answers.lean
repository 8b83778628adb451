import GenerationGateway.Library.Program

/-!
# Answers that are kept

A source may answer one question differently from time to time. A program that keeps the answers it
got and asks for each only once sees one table of answers, whatever the source does meanwhile. An
answer that is not kept does no harm when the program fails on it.
-/

namespace Effects

/-- One answer to each question. -/
abbrev Oracle (S : Signature) := ∀ op, S.Res op

/-- A source of answers with a state of its own. -/
abbrev Source (S : Signature) (σ : Type) := (op : S.Op) → σ → S.Res op × σ

/-- The answers kept so far. -/
abbrev Memory (S : Signature) := ∀ op, Option (S.Res op)

/-- A program that may fail. -/
abbrev Asking (S : Signature) (ε : Type) := ExceptT ε (Prog S)

namespace Prog

variable {S : Signature} {α β ε σ : Type} {keep : ∀ op, S.Res op → Bool} {source : Source S σ}

/-- The result under fixed answers. -/
def under (f : Oracle S) : Prog S α → α
  | ret a => a
  | call op k => (k (f op)).under f

@[simp] theorem under_ret (f : Oracle S) (a : α) : (ret a : Prog S α).under f = a := rfl

@[simp] theorem under_call (f : Oracle S) (op : S.Op) (k : S.Res op → Prog S α) :
    (call op k).under f = (k (f op)).under f := rfl

theorem under_bind (f : Oracle S) (p : Prog S α) (k : α → Prog S β) :
    (p >>= k).under f = (k (p.under f)).under f := by
  induction p with
  | ret a => rfl
  | call op _ ih => exact ih (f op)

/-- The answers are those kept, and for every other question one that the source gives. -/
structure Extends (source : Source S σ) (memory : Memory S) (f : Oracle S) : Prop where
  kept : ∀ op r, memory op = some r → f op = r
  given : ∀ op, memory op = none → ∃ s, f op = (source op s).1

theorem extends_getD (source : Source S σ) (memory : Memory S) (s : σ) :
    Extends source memory fun op => (memory op).getD (source op s).1 where
  kept := by
    intro op r hr
    simp [hr]
  given := by
    intro op hnone
    exact ⟨s, by simp [hnone]⟩

/-- The program fails on the spot when an answer is not to be kept. -/
def GivesUp (keep : ∀ op, S.Res op → Bool) : Prog S (Except ε α) → Prop
  | ret _ => True
  | call op k => ∀ r, (k r).GivesUp keep ∧ (keep op r = false → ∃ e, k r = ret (.error e))

variable [DecidableEq S.Op]

/-- The result when the answers of the source are kept. -/
def remembering (keep : ∀ op, S.Res op → Bool) (source : Source S σ) :
    Prog S α → Memory S → σ → α
  | ret a, _, _ => a
  | call op k, memory, s =>
    match memory op with
    | some r => (k r).remembering keep source memory s
    | none =>
      (k (source op s).1).remembering keep source
        (if keep op (source op s).1 then Function.update memory op (some (source op s).1)
          else memory) (source op s).2

theorem Extends.of_update {memory : Memory S} {op : S.Op} {s : σ} {f : Oracle S}
    (hnone : memory op = none)
    (h : Extends source (Function.update memory op (some (source op s).1)) f) :
    f op = (source op s).1 ∧ Extends source memory f := by
  have hop : f op = (source op s).1 := h.kept op _ (Function.update_self op _ memory)
  refine ⟨hop, ?_, ?_⟩
  · intro op' r hr
    have hne : op' ≠ op := by
      rintro rfl
      rw [hnone] at hr
      cases hr
    exact h.kept op' r (by rw [Function.update_of_ne hne, hr])
  · intro op' hnone'
    by_cases heq : op' = op
    · subst heq
      exact ⟨s, hop⟩
    · exact h.given op' (by rw [Function.update_of_ne heq, hnone'])

/-- Keeping the answers is having one table of them. -/
theorem remembering_eq {p : Prog S (Except ε α)} (h : p.GivesUp keep) (memory : Memory S) (s : σ) :
    ∃ f, Extends source memory f ∧ p.remembering keep source memory s = p.under f := by
  induction p generalizing memory s with
  | ret a => exact ⟨_, extends_getD source memory s, rfl⟩
  | call op k ih =>
    cases hkept : memory op with
    | some r =>
      obtain ⟨f, hf, hresult⟩ := ih r (h r).1 memory s
      refine ⟨f, hf, ?_⟩
      rw [under_call, hf.kept op r hkept, ← hresult]
      simp [remembering, hkept]
    | none =>
      cases hkeep : keep op (source op s).1 with
      | true =>
        obtain ⟨f, hf, hresult⟩ := ih (source op s).1 (h _).1
          (Function.update memory op (some (source op s).1)) (source op s).2
        obtain ⟨hop, hf⟩ := hf.of_update hkept
        refine ⟨f, hf, ?_⟩
        rw [under_call, hop, ← hresult]
        simp [remembering, hkept, hkeep]
      | false =>
        obtain ⟨e, he⟩ := (h (source op s).1).2 hkeep
        obtain ⟨hop, hf⟩ := (extends_getD source
          (Function.update memory op (some (source op s).1)) s).of_update hkept
        refine ⟨_, hf, ?_⟩
        rw [under_call, hop, he]
        simp [remembering, hkept, he]

end Prog

namespace Asking

variable {S : Signature} {α β ε : Type} {keep : ∀ op, S.Res op → Bool} {f : Oracle S}

/-- One question whose answer may be an error of the source. -/
def ask (op : S.Op) (read : S.Res op → Except ε α) : Asking S ε α :=
  ExceptT.mk (Prog.call op fun r => Prog.ret (read r))

def under (f : Oracle S) (p : Asking S ε α) : Except ε α := Prog.under f p.run

structure GivesUp (keep : ∀ op, S.Res op → Bool) (p : Asking S ε α) : Prop where
  run : Prog.GivesUp keep p.run

@[simp] theorem under_pure (a : α) : under f (pure a : Asking S ε α) = .ok a := rfl

@[simp] theorem under_liftExcept (r : Except ε α) :
    under f (liftM r : Asking S ε α) = r := rfl

@[simp] theorem under_ask (op : S.Op) (read : S.Res op → Except ε α) :
    under f (ask op read : Asking S ε α) = read (f op) := rfl

theorem under_bind (p : Asking S ε α) (k : α → Asking S ε β) :
    under f (p >>= k) = under f p >>= fun a => under f (k a) := by
  change Prog.under f (p.run >>= ExceptT.bindCont k) = _
  rw [Prog.under_bind]
  unfold under
  cases Prog.under f p.run with
  | error e => rfl
  | ok a => rfl

theorem GivesUp.bind {p : Asking S ε α} {k : α → Asking S ε β} (hp : GivesUp keep p)
    (hk : ∀ a, GivesUp keep (k a)) : GivesUp keep (p >>= k) := by
  constructor
  change Prog.GivesUp keep (p.run >>= ExceptT.bindCont k)
  have hrun := hp.run
  generalize p.run = q at hrun
  induction q with
  | ret r =>
    cases r with
    | error e => trivial
    | ok a => exact (hk a).run
  | call op q ih =>
    intro r
    refine ⟨ih r (hrun r).1, fun hkeep => ?_⟩
    obtain ⟨e, he⟩ := (hrun r).2 hkeep
    refine ⟨e, ?_⟩
    change (q r).bind (ExceptT.bindCont k) = _
    rw [he]
    rfl

theorem under_foldlM (step : β → α → Asking S ε β) (b : β) (xs : List α) :
    under f (xs.foldlM step b) = xs.foldlM (fun b a => under f (step b a)) b := by
  induction xs generalizing b with
  | nil => rfl
  | cons a xs ih =>
    rw [List.foldlM_cons, List.foldlM_cons, under_bind]
    exact congrArg (under f (step b a) >>= ·) (funext fun b' => ih b')

theorem GivesUp.pure (a : α) : GivesUp keep (pure a : Asking S ε α) := ⟨trivial⟩

theorem GivesUp.lift (r : Except ε α) : GivesUp keep (liftM r : Asking S ε α) := ⟨trivial⟩

theorem GivesUp.ask {op : S.Op} {read : S.Res op → Except ε α}
    (h : ∀ r, keep op r = false → ∃ e, read r = .error e) :
    GivesUp keep (ask op read : Asking S ε α) := by
  constructor
  intro r
  refine ⟨trivial, fun hkeep => ?_⟩
  obtain ⟨e, he⟩ := h r hkeep
  exact ⟨e, congrArg Prog.ret he⟩

theorem GivesUp.foldlM {step : β → α → Asking S ε β} (h : ∀ b a, GivesUp keep (step b a))
    (b : β) (xs : List α) : GivesUp keep (xs.foldlM step b) := by
  induction xs generalizing b with
  | nil => exact GivesUp.pure b
  | cons a xs ih =>
    rw [List.foldlM_cons]
    exact (h b a).bind fun b' => ih b'

end Asking

end Effects

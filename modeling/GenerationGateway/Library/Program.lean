import Mathlib.Logic.Relation
import Mathlib.Tactic

/-!
# Effectful programs and monitors

A program is a tree of calls over a signature: it makes a call, receives the
answer and goes on. The signature says nothing about what a call does. A
relation between states gives the runs of a program, a handler evaluates it, and
a monitor watches the calls: it forbids some of them in some phases and moves
from phase to phase with the answers. `Obeys` is the weakest precondition of a
program under a monitor, so it composes along `bind`.
-/

namespace Effects

structure Signature where
  Op : Type
  Res : Op → Type

inductive Prog (S : Signature) (α : Type)
  | ret (a : α)
  | call (op : S.Op) (k : S.Res op → Prog S α)

namespace Prog

variable {S : Signature} {α β γ σ φ : Type}

def bind : Prog S α → (α → Prog S β) → Prog S β
  | ret a, f => f a
  | call op k, f => call op fun r => (k r).bind f

instance : Monad (Prog S) where
  pure := ret
  bind := bind

/-- The program that makes one call and returns its answer. -/
def perform (op : S.Op) : Prog S (S.Res op) := call op ret

@[simp] theorem pure_eq_ret (a : α) : (pure a : Prog S α) = ret a := rfl

@[simp] theorem ret_bind (a : α) (f : α → Prog S β) : (ret a >>= f) = f a := rfl

@[simp] theorem call_bind (op : S.Op) (k : S.Res op → Prog S α) (f : α → Prog S β) :
    (call op k >>= f) = call op fun r => k r >>= f := rfl

@[simp] theorem perform_bind (op : S.Op) (f : S.Res op → Prog S β) :
    (perform op >>= f) = call op f := rfl

theorem bind_assoc (p : Prog S α) (f : α → Prog S β) (g : β → Prog S γ) :
    (p >>= f >>= g) = p >>= fun a => f a >>= g := by
  induction p with
  | ret a => rfl
  | call op k ih => simp [ih]

theorem bind_ret (p : Prog S α) : p >>= ret = p := by
  induction p with
  | ret a => rfl
  | call op k ih => exact congrArg (call op) (funext ih)

instance : LawfulMonad (Prog S) :=
  LawfulMonad.mk' (Prog S) bind_ret (fun _ _ => rfl) bind_assoc

/-- Evaluation by a handler in a monad. -/
def eval {m : Type → Type} [Monad m] (h : ∀ op, m (S.Res op)) : Prog S α → m α
  | ret a => pure a
  | call op k => h op >>= fun r => (k r).eval h

@[simp] theorem eval_ret {m : Type → Type} [Monad m] (h : ∀ op, m (S.Res op)) (a : α) :
    (ret a : Prog S α).eval h = pure a := rfl

@[simp] theorem eval_call {m : Type → Type} [Monad m] (h : ∀ op, m (S.Res op)) (op : S.Op)
    (k : S.Res op → Prog S α) : (call op k).eval h = h op >>= fun r => (k r).eval h := rfl

/-- `p.Runs step s a s'`: from `s`, with every call answered by `step`, the
program can return `a` in `s'`. -/
def Runs (step : (op : S.Op) → σ → S.Res op → σ → Prop) : Prog S α → σ → α → σ → Prop
  | ret a, s, b, s' => b = a ∧ s' = s
  | call op k, s, b, s' => ∃ r s₁, step op s r s₁ ∧ (k r).Runs step s₁ b s'

section Runs

variable (step : (op : S.Op) → σ → S.Res op → σ → Prop)

@[simp] theorem runs_ret {a b : α} {s s' : σ} :
    (ret a : Prog S α).Runs step s b s' ↔ b = a ∧ s' = s := Iff.rfl

@[simp] theorem runs_call {op : S.Op} {k : S.Res op → Prog S α} {s s' : σ} {b : α} :
    (call op k).Runs step s b s' ↔ ∃ r s₁, step op s r s₁ ∧ (k r).Runs step s₁ b s' := Iff.rfl

theorem runs_bind {p : Prog S α} {f : α → Prog S β} {s s' : σ} {b : β} :
    (p >>= f).Runs step s b s' ↔ ∃ a s₁, p.Runs step s a s₁ ∧ (f a).Runs step s₁ b s' := by
  induction p generalizing s with
  | ret a => simp
  | call op k ih =>
    simp only [call_bind, runs_call, ih]
    constructor
    · rintro ⟨r, s₁, hr, a, s₂, ha, hb⟩
      exact ⟨a, s₂, ⟨r, s₁, hr, ha⟩, hb⟩
    · rintro ⟨a, s₂, ⟨r, s₁, hr, ha⟩, hb⟩
      exact ⟨r, s₁, hr, a, s₂, ha, hb⟩

variable {step}

theorem Runs.mono {step' : (op : S.Op) → σ → S.Res op → σ → Prop}
    (hstep : ∀ op s r s', step op s r s' → step' op s r s') {p : Prog S α} {s s' : σ} {a : α}
    (h : p.Runs step s a s') : p.Runs step' s a s' := by
  induction p generalizing s with
  | ret b => exact h
  | call op k ih =>
    obtain ⟨r, s₁, hr, hk⟩ := h
    exact ⟨r, s₁, hstep op s r s₁ hr, ih r hk⟩

end Runs

end Prog

/-- A monitor: which calls a phase allows, and the phase after the answer. -/
structure Monitor (S : Signature) (φ : Type) where
  allowed : φ → S.Op → Prop
  next : φ → (op : S.Op) → S.Res op → φ

/-- A call with its answer. -/
structure Event (S : Signature) where
  op : S.Op
  answer : S.Res op

namespace Monitor

variable {S : Signature} {φ : Type} (M : Monitor S φ)

/-- The phase after these calls. -/
def after (ph : φ) (es : List (Event S)) : φ :=
  es.foldl (fun ph e => M.next ph e.op e.answer) ph

@[simp] theorem after_nil (ph : φ) : M.after ph [] = ph := rfl

@[simp] theorem after_cons (ph : φ) (e : Event S) (es : List (Event S)) :
    M.after ph (e :: es) = M.after (M.next ph e.op e.answer) es := rfl

theorem after_append (ph : φ) (es fs : List (Event S)) :
    M.after ph (es ++ fs) = M.after (M.after ph es) fs := List.foldl_append

theorem after_snoc (ph : φ) (es : List (Event S)) (e : Event S) :
    M.after ph (es ++ [e]) = M.next (M.after ph es) e.op e.answer := M.after_append ph es [e]

/-- Every call is allowed in the phase after the calls before it. -/
def Accepts (ph : φ) (es : List (Event S)) : Prop :=
  ∀ before e after, es = before ++ e :: after → M.allowed (M.after ph before) e.op

/-- Both monitors, side by side. -/
def both {ψ : Type} (M : Monitor S φ) (N : Monitor S ψ) : Monitor S (φ × ψ) where
  allowed s op := M.allowed s.1 op ∧ N.allowed s.2 op
  next s op r := (M.next s.1 op r, N.next s.2 op r)

variable {M} {ph : φ} {es fs : List (Event S)} {e : Event S}

theorem Accepts.left (h : M.Accepts ph (es ++ fs)) : M.Accepts ph es := by
  rintro before e after rfl
  exact h before e (after ++ fs) (by simp)

theorem Accepts.right (h : M.Accepts ph (es ++ fs)) : M.Accepts (M.after ph es) fs := by
  rintro before e after rfl
  rw [← after_append]
  exact h (es ++ before) e after (by simp)

@[simp] theorem accepts_cons :
    M.Accepts ph (e :: es) ↔ M.allowed ph e.op ∧ M.Accepts (M.next ph e.op e.answer) es := by
  constructor
  · intro h
    have hcons : M.Accepts ph ([e] ++ es) := h
    exact ⟨h [] e es rfl, hcons.right⟩
  · rintro ⟨hallowed, h⟩ before f after hes
    cases before with
    | nil =>
      obtain ⟨rfl, -⟩ := List.cons.inj hes
      exact hallowed
    | cons g before =>
      obtain ⟨rfl, rfl⟩ := List.cons.inj hes
      exact h before f after rfl

theorem Accepts.allowed (h : M.Accepts ph (es ++ e :: fs)) : M.allowed (M.after ph es) e.op :=
  h es e fs rfl

/-- What the phase says of the calls: a step lemma gives it for every sequence. -/
theorem Accepts.invariant {I : φ → List (Event S) → Prop} (h : M.Accepts ph es) (hstart : I ph [])
    (hstep : ∀ ph es e, M.allowed ph e.op → I ph es → I (M.next ph e.op e.answer) (es ++ [e])) :
    I (M.after ph es) es := by
  induction es using List.reverseRecOn with
  | nil => exact hstart
  | append_singleton es e ih =>
    rw [after_snoc]
    exact hstep _ es e h.allowed (ih h.left)

end Monitor

namespace Prog

variable {S : Signature} {α β φ : Type} (M : Monitor S φ)

/-- On every path from phase `ph` each call is allowed, and the value returned
stands in `Q` to the phase reached. -/
def Obeys : Prog S α → φ → (α → φ → Prop) → Prop
  | ret a, ph, Q => Q a ph
  | call op k, ph, Q => M.allowed ph op ∧ ∀ r, (k r).Obeys (M.next ph op r) Q

@[simp] theorem obeys_ret {a : α} {ph : φ} {Q : α → φ → Prop} :
    (ret a : Prog S α).Obeys M ph Q ↔ Q a ph := Iff.rfl

@[simp] theorem obeys_call {op : S.Op} {k : S.Res op → Prog S α} {ph : φ} {Q : α → φ → Prop} :
    (call op k).Obeys M ph Q ↔ M.allowed ph op ∧ ∀ r, (k r).Obeys M (M.next ph op r) Q :=
  Iff.rfl

theorem obeys_bind {p : Prog S α} {f : α → Prog S β} {ph : φ} {Q : β → φ → Prop} :
    (p >>= f).Obeys M ph Q ↔ p.Obeys M ph fun a ph' => (f a).Obeys M ph' Q := by
  induction p generalizing ph with
  | ret a => rfl
  | call op k ih => simp only [call_bind, obeys_call, ih]

variable {M}

theorem Obeys.mono {p : Prog S α} {ph : φ} {Q Q' : α → φ → Prop} (h : p.Obeys M ph Q)
    (hQ : ∀ a ph', Q a ph' → Q' a ph') : p.Obeys M ph Q' := by
  induction p generalizing ph with
  | ret a => exact hQ a ph h
  | call op k ih => exact ⟨h.1, fun r => ih r (h.2 r)⟩

/-- The rule for a sequence: an intermediate assertion for the first part, and
the rest from there. -/
theorem Obeys.bind {p : Prog S α} {f : α → Prog S β} {ph : φ} {R : α → φ → Prop}
    {Q : β → φ → Prop} (hp : p.Obeys M ph R) (hf : ∀ a ph', R a ph' → (f a).Obeys M ph' Q) :
    (p >>= f).Obeys M ph Q :=
  (obeys_bind M).mpr (hp.mono hf)

/-- A program that obeys two monitors obeys them side by side. -/
theorem Obeys.both {ψ : Type} {N : Monitor S ψ} {p : Prog S α} {ph : φ} {x : ψ}
    {Q : α → φ → Prop} {R : α → ψ → Prop} (hp : p.Obeys M ph Q) (hq : p.Obeys N x R) :
    p.Obeys (M.both N) (ph, x) fun a s => Q a s.1 ∧ R a s.2 := by
  induction p generalizing ph x with
  | ret a => exact ⟨hp, hq⟩
  | call op k ih => exact ⟨⟨hp.1, hq.1⟩, fun r => ih r (hp.2 r) (hq.2 r)⟩

theorem obeys_ite {c : Prop} [Decidable c] {p q : Prog S α} {ph : φ} {Q : α → φ → Prop}
    (hp : c → p.Obeys M ph Q) (hq : ¬c → q.Obeys M ph Q) : (if c then p else q).Obeys M ph Q := by
  split
  · exact hp ‹_›
  · exact hq ‹_›

/-- Every call on every path meets `P`. -/
def Sends (P : S.Op → Prop) : Prog S α → Prop
  | ret _ => True
  | call op k => P op ∧ ∀ r, (k r).Sends P

theorem Sends.bind {P : S.Op → Prop} {p : Prog S α} {f : α → Prog S β} (hp : p.Sends P)
    (hf : ∀ a, (f a).Sends P) : (p >>= f).Sends P := by
  induction p with
  | ret a => exact hf a
  | call op k ih => exact ⟨hp.1, fun r => ih r (hp.2 r)⟩

theorem Sends.mono {P P' : S.Op → Prop} (hP : ∀ op, P op → P' op) {p : Prog S α} (h : p.Sends P) :
    p.Sends P' := by
  induction p with
  | ret a => trivial
  | call op k ih => exact ⟨hP op h.1, fun r => ih r (h.2 r)⟩

/-- The rule for runs: what every allowed call preserves beside the phases holds at
the end, and the value returned stands in `Q` to the last phase. -/
theorem Obeys.runs {σ : Type} {step : (op : S.Op) → σ → S.Res op → σ → Prop} {J : φ → σ → Prop}
    (hstep : ∀ ph op s r s', M.allowed ph op → step op s r s' → J ph s → J (M.next ph op r) s')
    {p : Prog S α} {ph : φ} {Q : α → φ → Prop} {s s' : σ} {a : α} (h : p.Obeys M ph Q)
    (hrun : p.Runs step s a s') (hs : J ph s) : ∃ ph', Q a ph' ∧ J ph' s' := by
  induction p generalizing ph s with
  | ret b =>
    obtain ⟨rfl, rfl⟩ := hrun
    exact ⟨ph, h, hs⟩
  | call op k ih =>
    obtain ⟨r, s₁, hop, hk⟩ := hrun
    exact ih r (h.2 r) hk (hstep ph op s r s₁ h.1 hop hs)

/-! ### Paths -/

/-- `p.Path es q`: after these calls, answered in this way, `q` is left of `p`. -/
inductive Path : Prog S α → List (Event S) → Prog S α → Prop
  | nil (p : Prog S α) : Path p [] p
  | cons {op : S.Op} {k : S.Res op → Prog S α} {r : S.Res op} {es : List (Event S)}
      {q : Prog S α} (h : Path (k r) es q) : Path (call op k) (⟨op, r⟩ :: es) q

theorem Path.snoc {p : Prog S α} {es : List (Event S)} {op : S.Op} {k : S.Res op → Prog S α}
    (h : p.Path es (call op k)) (r : S.Res op) : p.Path (es ++ [⟨op, r⟩]) (k r) := by
  generalize hq : call op k = q at h
  induction h with
  | nil p =>
    subst hq
    exact .cons (.nil _)
  | cons _ ih => exact .cons (ih hq)

/-- What is left of a program on a path still obeys, from the phase reached. -/
theorem Obeys.path {p q : Prog S α} {es : List (Event S)} (hpath : p.Path es q) {ph : φ}
    {Q : α → φ → Prop} (h : p.Obeys M ph Q) : q.Obeys M (M.after ph es) Q := by
  induction hpath generalizing ph with
  | nil p => exact h
  | cons _ ih => exact ih (h.2 _)

/-- The monitor accepts the calls on every path. -/
theorem Obeys.accepts {p q : Prog S α} {es : List (Event S)} (hpath : p.Path es q) {ph : φ}
    {Q : α → φ → Prop} (h : p.Obeys M ph Q) : M.Accepts ph es := by
  intro before e after hes
  induction hpath generalizing ph before with
  | nil p => simp at hes
  | @cons op k r es q _ ih =>
    cases before with
    | nil =>
      obtain ⟨rfl, -⟩ := List.cons.inj hes
      exact h.1
    | cons e' before =>
      obtain ⟨rfl, htail⟩ := List.cons.inj hes
      exact ih (h.2 _) before htail

/-- How the calls of a run are answered, each by its number. -/
def Answers (S : Signature) : Type := ℕ → (op : S.Op) → S.Res op

/-- The value returned and the calls made, after those of `sent`. -/
def answered (w : Answers S) : Prog S α → List S.Op → α × List S.Op
  | ret a, sent => (a, sent)
  | call op k, sent => (k (w sent.length op)).answered w (sent ++ [op])

theorem answered_bind (w : Answers S) (p : Prog S α) (f : α → Prog S β) (sent : List S.Op) :
    (p >>= f).answered w sent = (f (p.answered w sent).1).answered w (p.answered w sent).2 := by
  induction p generalizing sent with
  | ret a => rfl
  | call op k ih => exact ih _ _

/-- The calls of a program come after the earlier ones, and are calls of the program. -/
theorem Sends.answered {P : S.Op → Prop} {p : Prog S α} (h : p.Sends P) (w : Answers S)
    (sent : List S.Op) :
    ∃ later, (p.answered w sent).2 = sent ++ later ∧ ∀ op ∈ later, P op := by
  induction p generalizing sent with
  | ret a => exact ⟨[], by simp [Prog.answered], by simp⟩
  | call op k ih =>
    obtain ⟨later, hlater, hP⟩ := ih (w sent.length op) (h.2 _) (sent ++ [op])
    refine ⟨op :: later, ?_, ?_⟩
    · simp [Prog.answered, hlater]
    · intro o ho
      rcases List.mem_cons.mp ho with rfl | ho
      · exact h.1
      · exact hP o ho

end Prog

/-- A program that may return early. -/
abbrev Early (S : Signature) (ε α : Type) : Type := ExceptT ε (Prog S) α

namespace Early

variable {S : Signature} {α β ε φ : Type} {M : Monitor S φ}

/-- The program that makes one call and goes on with its answer. -/
def perform (op : S.Op) : Early S ε (S.Res op) := ExceptT.lift (Prog.perform op)

/-- The body, then the deferred part, whatever the body returns. -/
def deferring (body : Early S ε α) (cleanup : Prog S Unit) : Early S ε α :=
  ExceptT.mk (body.run >>= fun r => cleanup >>= fun _ => pure r)

/-- The outcome of a program as a value. -/
def caught (p : Early S ε α) : Early S ε (Except ε α) :=
  ExceptT.mk (p.run >>= fun r => pure (.ok r))

/-- A program returns early where its outcome is an error. -/
theorem bind_eq_caught_bind (p : Early S ε α) (f : α → Early S ε β) :
    p >>= f = p.caught >>= fun r => Except.casesOn r throw f := by
  apply ExceptT.ext
  refine Eq.trans ?_ (Prog.bind_assoc p.run _ _).symm
  show p.run >>= _ = p.run >>= _
  congr 1
  funext r
  cases r <;> rfl

/-- From phase `ph` each call is allowed, and a value that does not return early stands
in `Q` to the phase reached. -/
def Obeys (M : Monitor S φ) (p : Early S ε α) (ph : φ) (Q : α → φ → Prop) : Prop :=
  Prog.Obeys M p.run ph fun r ph' => ∀ a, r = .ok a → Q a ph'

theorem obeys_pure {a : α} {ph : φ} {Q : α → φ → Prop} (h : Q a ph) :
    (pure a : Early S ε α).Obeys M ph Q := by
  rintro b ⟨⟩
  exact h

theorem obeys_throw {e : ε} {ph : φ} {Q : α → φ → Prop} :
    (throw e : Early S ε α).Obeys M ph Q := by
  rintro b ⟨⟩

theorem Obeys.bind {p : Early S ε α} {f : α → Early S ε β} {ph : φ} {R : α → φ → Prop}
    {Q : β → φ → Prop} (hp : p.Obeys M ph R) (hf : ∀ a ph', R a ph' → (f a).Obeys M ph' Q) :
    (p >>= f).Obeys M ph Q := by
  refine Prog.Obeys.bind hp fun r ph' hr => ?_
  cases r with
  | ok a => exact hf a ph' (hr a rfl)
  | error e => rintro b ⟨⟩

theorem obeys_perform {op : S.Op} {ph : φ} {Q : S.Res op → φ → Prop}
    (hop : M.allowed ph op) (hQ : ∀ r, Q r (M.next ph op r)) :
    (perform op : Early S ε _).Obeys M ph Q := by
  refine ⟨hop, fun r b hb => ?_⟩
  cases hb
  exact hQ r

theorem Obeys.mono {p : Early S ε α} {ph : φ} {Q Q' : α → φ → Prop} (h : p.Obeys M ph Q)
    (hQ : ∀ a ph', Q a ph' → Q' a ph') : p.Obeys M ph Q' :=
  Prog.Obeys.mono h fun _ ph' hr a ha => hQ a ph' (hr a ha)

/-- From phase `ph` each call is allowed; a value stands in `Q` to the phase reached, and
`R` holds where the program returns early. -/
def Ensures (M : Monitor S φ) (R : φ → Prop) (p : Early S ε α) (ph : φ) (Q : α → φ → Prop) :
    Prop :=
  Prog.Obeys M p.run ph fun r ph' =>
    match r with
    | .ok a => Q a ph'
    | .error _ => R ph'

section Ensures

variable {R : φ → Prop}

theorem ensures_pure {a : α} {ph : φ} {Q : α → φ → Prop} (h : Q a ph) :
    (pure a : Early S ε α).Ensures M R ph Q := h

theorem ensures_throw {e : ε} {ph : φ} {Q : α → φ → Prop} (h : R ph) :
    (throw e : Early S ε α).Ensures M R ph Q := h

theorem Ensures.bind {p : Early S ε α} {f : α → Early S ε β} {ph : φ} {P : α → φ → Prop}
    {Q : β → φ → Prop} (hp : p.Ensures M R ph P)
    (hf : ∀ a ph', P a ph' → (f a).Ensures M R ph' Q) : (p >>= f).Ensures M R ph Q := by
  refine Prog.Obeys.bind hp fun r ph' hr => ?_
  cases r with
  | ok a => exact hf a ph' hr
  | error e => exact hr

theorem ensures_perform {op : S.Op} {ph : φ} {Q : S.Res op → φ → Prop}
    (hop : M.allowed ph op) (hQ : ∀ r, Q r (M.next ph op r)) :
    (perform op : Early S ε _).Ensures M R ph Q :=
  ⟨hop, hQ⟩

theorem Ensures.mono {p : Early S ε α} {ph : φ} {Q Q' : α → φ → Prop} (h : p.Ensures M R ph Q)
    (hQ : ∀ a ph', Q a ph' → Q' a ph') : p.Ensures M R ph Q' := by
  refine Prog.Obeys.mono h fun r ph' hr => ?_
  cases r with
  | ok a => exact hQ a ph' hr
  | error e => exact hr

theorem Ensures.weaken {R' : φ → Prop} {p : Early S ε α} {ph : φ} {Q : α → φ → Prop}
    (h : p.Ensures M R ph Q) (hR : ∀ ph', R ph' → R' ph') : p.Ensures M R' ph Q := by
  refine Prog.Obeys.mono h fun r ph' hr => ?_
  cases r with
  | ok a => exact hr
  | error e => exact hR ph' hr

/-- The deferred part starts where the body returns, early or not. -/
theorem Ensures.deferring {E : φ → Prop} {body : Early S ε α} {cleanup : Prog S Unit} {ph : φ}
    (hbody : body.Ensures M E ph fun _ ph' => E ph')
    (hcleanup : ∀ ph', E ph' → cleanup.Obeys M ph' fun _ ph'' => R ph'') :
    (deferring body cleanup).Ensures M R ph fun _ ph' => R ph' := by
  refine Prog.Obeys.bind (R := fun _ ph' => E ph') (Prog.Obeys.mono hbody fun r ph' hr => ?_)
    fun r ph' hph' => ?_
  · cases r <;> exact hr
  · refine Prog.Obeys.bind (hcleanup ph' hph') fun _ ph'' hph'' => ?_
    cases r <;> exact hph''

/-- From a phase with `I`, `I` holds again wherever the program goes on. -/
def Keeps (M : Monitor S φ) (I R : φ → Prop) (p : Early S ε α) : Prop :=
  ∀ ph, I ph → p.Ensures M R ph fun _ ph' => I ph'

/-- From a phase with `I`, `R` holds however the program ends. -/
def Leaves (M : Monitor S φ) (I R : φ → Prop) (p : Early S ε α) : Prop :=
  ∀ ph, I ph → p.Ensures M R ph fun _ ph' => R ph'

variable {I : φ → Prop}

theorem keeps_pure (a : α) : (pure a : Early S ε α).Keeps M I R := fun _ hph => ensures_pure hph

theorem keeps_throw (hI : ∀ ph, I ph → R ph) (e : ε) : (throw e : Early S ε α).Keeps M I R :=
  fun ph hph => ensures_throw (hI ph hph)

theorem keeps_perform {op : S.Op} (h : ∀ ph, I ph → M.allowed ph op ∧ ∀ r, I (M.next ph op r)) :
    (perform op : Early S ε _).Keeps M I R :=
  fun ph hph => ensures_perform (h ph hph).1 (h ph hph).2

theorem Keeps.bind {p : Early S ε α} {f : α → Early S ε β} (hp : p.Keeps M I R)
    (hf : ∀ a, (f a).Keeps M I R) : (p >>= f).Keeps M I R :=
  fun ph hph => Ensures.bind (hp ph hph) fun a ph' hph' => hf a ph' hph'

theorem Keeps.leaves {p : Early S ε α} (hI : ∀ ph, I ph → R ph) (hp : p.Keeps M I R) :
    p.Leaves M I R :=
  fun ph hph => (hp ph hph).mono fun _ ph' hph' => hI ph' hph'

theorem Keeps.bind_leaves {p : Early S ε α} {f : α → Early S ε β} (hp : p.Keeps M I R)
    (hf : ∀ a, (f a).Leaves M I R) : (p >>= f).Leaves M I R :=
  fun ph hph => Ensures.bind (hp ph hph) fun a ph' hph' => hf a ph' hph'

/-- What comes after a program that keeps the assertion. -/
theorem Keeps.ensures_bind {p : Early S ε α} {f : α → Early S ε β} {ph : φ} {Q : β → φ → Prop}
    (hp : p.Keeps M I R) (hph : I ph) (hf : ∀ a ph', I ph' → (f a).Ensures M R ph' Q) :
    (p >>= f).Ensures M R ph Q :=
  Ensures.bind (hp ph hph) hf

end Ensures

/-- Every call on every path meets `P`. -/
def Sends (P : S.Op → Prop) (p : Early S ε α) : Prop := Prog.Sends P p.run

section Sends

variable {P : S.Op → Prop}

theorem sends_pure (a : α) : (pure a : Early S ε α).Sends P := trivial

theorem sends_throw (e : ε) : (throw e : Early S ε α).Sends P := trivial

theorem sends_perform {op : S.Op} (h : P op) : (perform op : Early S ε _).Sends P :=
  ⟨h, fun _ => trivial⟩

theorem Sends.bind {p : Early S ε α} {f : α → Early S ε β} (hp : p.Sends P)
    (hf : ∀ a, (f a).Sends P) : (p >>= f).Sends P := by
  refine Prog.Sends.bind hp fun r => ?_
  cases r with
  | ok a => exact hf a
  | error e => trivial

theorem Sends.mono {P' : S.Op → Prop} (hP : ∀ op, P op → P' op) {p : Early S ε α}
    (h : p.Sends P) : p.Sends P' := Prog.Sends.mono hP h

theorem Sends.caught {p : Early S ε α} (h : p.Sends P) :
    (Early.caught p : Early S ε (Except ε α)).Sends P :=
  Prog.Sends.bind (p := p.run) h fun _ => trivial

/-- A program whose calls are allowed in a phase and keep it. -/
theorem Sends.obeys {ph : φ} (hP : ∀ op, P op → M.allowed ph op ∧ ∀ r, M.next ph op r = ph)
    {p : Early S ε α} (h : p.Sends P) : p.Obeys M ph fun _ ph' => ph' = ph := by
  have hall : ∀ q : Prog S (Except ε α), q.Sends P → q.Obeys M ph fun _ ph' => ph' = ph := by
    intro q hq
    induction q with
    | ret r => rfl
    | call op k ih =>
      refine ⟨(hP op hq.1).1, fun r => ?_⟩
      rw [(hP op hq.1).2 r]
      exact ih r (hq.2 r)
  exact Prog.Obeys.mono (hall _ h) fun _ _ hph _ _ => hph

/-- Such a program in front of another. -/
theorem Sends.obeys_bind {ph : φ} {Q : β → φ → Prop}
    (hP : ∀ op, P op → M.allowed ph op ∧ ∀ r, M.next ph op r = ph) {p : Early S ε α}
    {f : α → Early S ε β} (hp : p.Sends P) (hf : ∀ a, (f a).Obeys M ph Q) :
    (p >>= f).Obeys M ph Q := by
  refine Obeys.bind (hp.obeys hP) fun a ph' hph => ?_
  rw [hph]
  exact hf a

end Sends

/-- The outcome and the calls made, after those of `sent`. -/
def answered (w : Prog.Answers S) (p : Early S ε α) (sent : List S.Op) :
    Except ε α × List S.Op := Prog.answered w p.run sent

section Answered

variable (w : Prog.Answers S) (sent : List S.Op)

@[simp] theorem answered_pure (a : α) :
    (pure a : Early S ε α).answered w sent = (.ok a, sent) := rfl

@[simp] theorem answered_throw (e : ε) :
    (throw e : Early S ε α).answered w sent = (.error e, sent) := rfl

@[simp] theorem answered_perform (op : S.Op) :
    (perform op : Early S ε _).answered w sent = (.ok (w sent.length op), sent ++ [op]) := rfl

theorem answered_bind (p : Early S ε α) (f : α → Early S ε β) :
    (p >>= f).answered w sent =
      match p.answered w sent with
      | (.ok a, sent') => (f a).answered w sent'
      | (.error e, sent') => (.error e, sent') := by
  have h : (p >>= f).answered w sent = _ := Prog.answered_bind w p.run _ sent
  rw [h]
  unfold answered
  rcases Prog.answered w p.run sent with ⟨a | e, sent'⟩ <;> rfl

@[simp] theorem answered_caught (p : Early S ε α) :
    (caught p).answered w sent = (.ok (p.answered w sent).1, (p.answered w sent).2) :=
  Prog.answered_bind w p.run (fun r => (pure (Except.ok r) : Prog S (Except ε (Except ε α)))) sent

theorem answered_bind_of_ok {p : Early S ε α} {a : α} {sent' : List S.Op}
    (h : p.answered w sent = (.ok a, sent')) (f : α → Early S ε β) :
    (p >>= f).answered w sent = (f a).answered w sent' := by
  rw [answered_bind, h]

variable {w sent}

theorem Sends.answered {P : S.Op → Prop} {p : Early S ε α} (h : p.Sends P) :
    ∃ later, (p.answered w sent).2 = sent ++ later ∧ ∀ op ∈ later, P op :=
  Prog.Sends.answered h w sent

theorem answered_extends (p : Early S ε α) : ∃ later, (p.answered w sent).2 = sent ++ later := by
  have hall : ∀ q : Prog S (Except ε α), q.Sends fun _ => True := by
    intro q
    induction q with
    | ret r => trivial
    | call op k ih => exact ⟨trivial, ih⟩
  obtain ⟨later, hlater, -⟩ := Prog.Sends.answered (hall p.run) w sent
  exact ⟨later, hlater⟩

/-- A program that starts with a call makes it. -/
theorem mem_answered_perform_bind (op : S.Op) (f : S.Res op → Early S ε α) :
    ∃ later, ((perform op >>= f).answered w sent).2 = sent ++ op :: later := by
  rw [answered_bind]
  obtain ⟨later, hlater⟩ : ∃ later, ((f (w sent.length op)).answered w (sent ++ [op])).2 =
      sent ++ [op] ++ later := answered_extends _
  exact ⟨later, by simpa using hlater⟩

end Answered

end Early

end Effects

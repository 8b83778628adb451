import Mathlib.Tactic

/-!
# Programs that fail and keep their state

A program over a state may stop with an error, and what it has done by then stays done. A triple
has a postcondition for each way to end, so what is true after an error is a promise like any
other.
-/

namespace Attempts

/-- A failure keeps the state it is met in. -/
def Attempt (ε σ α : Type) : Type := σ → Except ε α × σ

namespace Attempt

variable {ε σ α β : Type}

def bind (m : Attempt ε σ α) (f : α → Attempt ε σ β) : Attempt ε σ β := fun s =>
  match m s with
  | (.ok a, s') => f a s'
  | (.error e, s') => (.error e, s')

instance : Monad (Attempt ε σ) where
  pure a := fun s => (.ok a, s)
  bind := bind

def fail (e : ε) : Attempt ε σ α := fun s => (.error e, s)

def change (f : σ → σ) : Attempt ε σ Unit := fun s => (.ok (), f s)

/-- From a state with `P` the program returns to `Q`, or fails in a state with `E`. -/
def Meets (P : σ → Prop) (m : Attempt ε σ α) (Q : α → σ → Prop) (E : σ → Prop) : Prop :=
  ∀ s, P s → match m s with
    | (.ok a, s') => Q a s'
    | (.error _, s') => E s'

variable {P P' : σ → Prop} {Q Q' : α → σ → Prop} {R : β → σ → Prop} {E E' : σ → Prop}

theorem Meets.pure (a : α) (h : ∀ s, P s → Q a s) : Meets P (Pure.pure a : Attempt ε σ α) Q E := h

theorem Meets.fail (e : ε) (h : ∀ s, P s → E s) : Meets P (fail e : Attempt ε σ α) Q E := h

theorem Meets.change {f : σ → σ} {Q : Unit → σ → Prop} (h : ∀ s, P s → Q () (f s)) :
    Meets P (change f : Attempt ε σ Unit) Q E := h

theorem Meets.bind {m : Attempt ε σ α} {f : α → Attempt ε σ β} (hm : Meets P m Q E)
    (hf : ∀ a, Meets (Q a) (f a) R E) : Meets P (m >>= f) R E := by
  intro s hs
  have hfirst := hm s hs
  change match Attempt.bind m f s with | (.ok b, s') => R b s' | (.error _, s') => E s'
  unfold Attempt.bind
  cases hr : m s with
  | mk r s' =>
    rw [hr] at hfirst
    cases r with
    | ok a => exact hf a s' hfirst
    | error e => exact hfirst

theorem Meets.weaken {m : Attempt ε σ α} (h : Meets P m Q E) (hP : ∀ s, P' s → P s)
    (hQ : ∀ a s, Q a s → Q' a s) (hE : ∀ s, E s → E' s) : Meets P' m Q' E' := by
  intro s hs
  have hrun := h s (hP s hs)
  cases hr : m s with
  | mk r s' =>
    rw [hr] at hrun
    cases r with
    | ok a => exact hQ a s' hrun
    | error e => exact hE s' hrun

/-- A loop carries what it has done so far. -/
theorem Meets.forM {ι : Type} {body : ι → Attempt ε σ Unit} {I : List ι → σ → Prop} {xs : List ι}
    (h : ∀ done x, Meets (I done) (body x) (fun _ => I (done ++ [x])) E) (done : List ι) :
    Meets (I done) (xs.forM body) (fun _ => I (done ++ xs)) E := by
  induction xs generalizing done with
  | nil =>
    apply Meets.pure
    intro s hs
    rw [List.append_nil]
    exact hs
  | cons x xs ih =>
    rw [show done ++ x :: xs = (done ++ [x]) ++ xs by simp]
    exact (h done x).bind fun _ => ih (done ++ [x])

end Attempt

end Attempts

import GenerationGateway.Store.Stranded

/-!
# What has ended

A task that has succeeded, failed or been cancelled keeps its whole row, its reservation and its
usage for good. An uncertain one keeps its row until an administrator fails it.
-/

namespace GenerationGateway

open Relational Transitions Effects

/-- The row of a task that has ended, then and later. -/
def Task.Final (t t' : Task) : Prop :=
  t' = t ∨ t.status = .submissionUncertain ∧ t'.status = .failed ∧ SameOrigin t t'

theorem Task.Final.refl (t : Task) : t.Final t := .inl rfl

theorem Task.Final.terminal {t t' : Task} (h : t.Final t') (hended : t.status.terminal = true) :
    t'.status.terminal = true := by
  rcases h with rfl | ⟨-, hfailed, -⟩
  · exact hended
  · simp [hfailed, TaskStatus.terminal]

theorem Task.Final.trans {t t' t'' : Task} (h : t.Final t') (h' : t'.Final t'') : t.Final t'' := by
  rcases h' with rfl | ⟨huncertain, hfailed, horigin⟩
  · exact h
  · rcases h with rfl | ⟨-, hfailed', -⟩
    · exact .inr ⟨huncertain, hfailed, horigin⟩
    · simp [hfailed'] at huncertain

theorem Task.Final.eq_of_settled {t t' : Task} (h : t.Final t')
    (hsettled : t.status.settled = true) : t' = t := by
  rcases h with rfl | ⟨huncertain, -⟩
  · rfl
  · simp [huncertain, TaskStatus.settled] at hsettled

theorem Task.Final.succeeded_iff {t t' : Task} (h : t.Final t') :
    t'.status = .succeeded ↔ t.status = .succeeded := by
  rcases h with rfl | ⟨huncertain, hfailed, -⟩
  · rfl
  · simp [huncertain, hfailed]

theorem TaskStatus.terminal_of_settled {s : TaskStatus} (h : s.settled = true) :
    s.terminal = true := by
  cases s <;> simp_all [settled, terminal]

section Steps

variable {now : Time} {call : Call} {c c' : Cell} {t : Task}

/-- What a transition does to a task that has ended: nothing, unless the task is uncertain and an
administrator settles it. -/
theorem Transition.final (h : Transition now call c c') (ht : c.task = some t)
    (hended : t.status.terminal = true) :
    (∃ t', c'.task = some t' ∧ t.Final t') ∧
      (t.status ≠ .submissionUncertain →
        c'.reservation = c.reservation ∧ c'.ledger = c.ledger) := by
  have hsame {t₀ : Task} (h₀ : c.task = some t₀) : t₀ = t := Option.some.inj (h₀.symm.trans ht)
  cases h with
  | create hcall htask => simp [htask] at ht
  | redispatch | retime | deliver => exact ⟨⟨t, ht, .refl t⟩, fun _ => ⟨rfl, rfl⟩⟩
  | reroute leaseID target hcall htask hqueued =>
    obtain rfl := hsame htask
    simp [hqueued, TaskStatus.terminal] at hended
  | claim leaseID expiresAt g hcall htask hstatus =>
    obtain rfl := hsame htask
    rcases hstatus with hqueued | hflight
    · simp [hqueued, TaskStatus.terminal] at hended
    · rcases (Task.inFlight_iff.mp hflight).1 with h | h <;> simp [h, TaskStatus.terminal] at hended
  | update leaseID g hcall htask hkeeps =>
    obtain rfl := hsame htask
    simp [hkeeps.running] at hended
  | requeue g htask horigin hrunning =>
    obtain rfl := hsame htask
    simp [TaskStatus.terminal_of_executing hrunning] at hended
  | uncertain htask horigin hrunning | finish reason htask horigin hrunning =>
    obtain rfl := hsame htask
    simp [hrunning] at hended
  | complete htask horigin hrunning =>
    obtain rfl := hsame htask
    rcases hrunning with h | h <;> simp [h, TaskStatus.terminal] at hended
  | @confirm t₀ f hcall htask horigin huncertain hfailed =>
    obtain rfl := hsame htask
    refine ⟨⟨f t₀, ?_, .inr ⟨huncertain, hfailed, horigin⟩⟩, fun h => absurd huncertain h⟩
    simp [Cell.mapOutbox, Cell.mapTask, htask]
  | release reason htask huncertain =>
    obtain rfl := hsame htask
    exact ⟨⟨_, by rw [Cell.settle_task, ht], .refl _⟩, fun h => absurd huncertain h⟩

theorem Transition.keeps_final (h : Transition now call c c')
    (hc : ∃ t', c.task = some t' ∧ t.Final t') (hended : t.status.terminal = true) :
    ∃ t', c'.task = some t' ∧ t.Final t' := by
  obtain ⟨t₁, ht₁, hfinal⟩ := hc
  obtain ⟨⟨t', ht', hfinal'⟩, -⟩ := h.final ht₁ (hfinal.terminal hended)
  exact ⟨t', ht', hfinal.trans hfinal'⟩

/-- The rows of a settled task stay. -/
theorem Transition.keeps_settled (h : Transition now call c c') {r : Option Reservation}
    {l : Option LedgerRow} (hc : c.task = some t ∧ c.reservation = r ∧ c.ledger = l)
    (hsettled : t.status.settled = true) :
    c'.task = some t ∧ c'.reservation = r ∧ c'.ledger = l := by
  obtain ⟨ht, rfl, rfl⟩ := hc
  obtain ⟨⟨t', ht', hfinal⟩, hrows⟩ := h.final ht (TaskStatus.terminal_of_settled hsettled)
  obtain rfl := hfinal.eq_of_settled hsettled
  refine ⟨ht', hrows ?_⟩
  rintro huncertain
  simp [huncertain, TaskStatus.settled] at hsettled

end Steps

section Runs

variable {s s' : StoreState} {es : List Event} {id : UUID} {t : Task}

theorem StoreStep.final {e : Event} (h : StoreStep s e s')
    (hs : ∃ t', s.db.tasks.get? id = some t' ∧ t.Final t') (hended : t.status.terminal = true) :
    ∃ t', s'.db.tasks.get? id = some t' ∧ t.Final t' :=
  Steps.invariant (P := fun c => ∃ t', c.task = some t' ∧ t.Final t')
    (fun _ _ htransition hc => htransition.keeps_final hc hended) (h.lives id) hs

/-- The row of a task that has ended is final. -/
theorem store_run_final (h : store.Run s es s') (ht : s.db.tasks.get? id = some t)
    (hended : t.status.terminal = true) : ∃ t', s'.db.tasks.get? id = some t' ∧ t.Final t' :=
  h.invariant (I := fun s => ∃ t', s.db.tasks.get? id = some t' ∧ t.Final t')
    (fun _ _ _ hstep hs => StoreStep.final hstep hs hended) ⟨t, ht, .refl t⟩

/-- No later operation touches the task, the reservation or the usage of a settled task. -/
theorem store_run_settled (h : store.Run s es s') (ht : s.db.tasks.get? id = some t)
    (hsettled : t.status.settled = true) :
    s'.db.tasks.get? id = some t ∧ s'.db.reservations.get? id = s.db.reservations.get? id ∧
      s'.db.ledger.get? id = s.db.ledger.get? id := by
  refine h.invariant (I := fun s₁ => s₁.db.tasks.get? id = some t ∧
    s₁.db.reservations.get? id = s.db.reservations.get? id ∧
      s₁.db.ledger.get? id = s.db.ledger.get? id) ?_ ⟨ht, rfl, rfl⟩
  intro s₁ e s₂ hstep hs
  exact Steps.invariant (P := fun c => c.task = some t ∧
    c.reservation = s.db.reservations.get? id ∧ c.ledger = s.db.ledger.get? id)
    (fun _ _ htransition hc => htransition.keeps_settled hc hsettled) (hstep.lives id) hs

end Runs

end GenerationGateway

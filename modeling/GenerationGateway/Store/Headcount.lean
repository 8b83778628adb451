import GenerationGateway.Store.Threads

/-!
# Counting tasks

The limits of the system and of the API keys count task rows. A transaction about
one task moves such a count by at most one, and outside admission and claim no
count of executing or of open tasks grows.
-/

namespace GenerationGateway

open Relational

/-- What the task of the cell adds to a count. -/
def Cell.counts (p : Task → Bool) (c : Cell) : ℕ := if c.task.any p then 1 else 0

/-- The tasks that `p` counts, but for the task `own`. -/
def Task.besides (own : UUID) (p : Task → Bool) (t : Task) : Bool := decide (t.id ≠ own) && p t

section Count

variable {db v : Database} {p : Task → Bool} {own k : UUID}

theorem count_contribution (db : Database) (p : Task → Bool) (k : UUID) :
    db.tasks.contribution (fun t => if p t then 1 else 0) k = (db.cell k).counts p := by
  cases ht : db.tasks.get? k with
  | none => simp [Table.contribution_of_none ht, Cell.counts, Database.cell, ht]
  | some t => simp [Table.contribution_of_get? ht, Cell.counts, Database.cell, ht]

theorem count_le_count (h : ∀ k, (v.cell k).counts p ≤ (db.cell k).counts p) :
    v.tasks.count p ≤ db.tasks.count p := by
  rw [Table.count_eq_total, Table.count_eq_total]
  apply Table.total_le_total
  intro k
  rw [count_contribution, count_contribution]
  exact h k

theorem Cell.counts_le_one (c : Cell) : c.counts p ≤ 1 := by
  unfold Cell.counts
  split <;> omega

theorem Cell.counts_of_task {c c' : Cell} (h : c'.task = c.task) : c'.counts p = c.counts p := by
  rw [Cell.counts, h, Cell.counts]

theorem counts_besides (db : Database) (own k : UUID) :
    (db.cell k).counts (Task.besides own p) = if k = own then 0 else (db.cell k).counts p := by
  cases ht : db.tasks.get? k with
  | none => simp [Cell.counts, Database.cell, ht]
  | some t =>
    have hid : t.id = k := Table.key_of_get? ht
    split
    · next hk =>
      subst hk
      simp [Cell.counts, Database.cell, ht, Task.besides, hid]
    · next hk => simp [Cell.counts, Database.cell, ht, Task.besides, hid, hk]

theorem count_besides_le : db.tasks.count (Task.besides own p) ≤ db.tasks.count p := by
  refine List.countP_mono_left fun t _ ht => ?_
  exact ((Bool.and_eq_true _ _).mp ht).2

theorem count_le_besides : db.tasks.count p ≤ db.tasks.count (Task.besides own p) + 1 := by
  rw [Table.count_eq_total, Table.count_eq_total]
  have hothers (k : UUID) (hk : k ≠ own) :
      db.tasks.contribution (fun t => if p t then 1 else 0) k ≤
        db.tasks.contribution (fun t => if Task.besides own p t then 1 else 0) k := by
    rw [count_contribution, count_contribution, counts_besides, if_neg hk]
  have hmove := Table.total_add_contribution_le own hothers
  rw [count_contribution, count_contribution] at hmove
  have hone := (db.cell own).counts_le_one (p := p)
  omega

/-- Other tasks are counted as before where only the rows of `own` differ. -/
theorem Frame.besides (h : Frame own db v) :
    v.tasks.count (Task.besides own p) = db.tasks.count (Task.besides own p) := by
  rw [Table.count_eq_total, Table.count_eq_total]
  apply Table.total_congr
  intro k
  rw [count_contribution, count_contribution, counts_besides, counts_besides]
  split
  · rfl
  · next hk => exact Cell.counts_of_task (h.others k hk).task

/-- A count grows only where the own task is newly counted. -/
theorem Frame.count_le (h : Frame own db v)
    (hown : (v.cell own).counts p ≤ (db.cell own).counts p) :
    v.tasks.count p ≤ db.tasks.count p := by
  apply count_le_count
  intro k
  by_cases hk : k = own
  · rw [hk]
    exact hown
  · exact (Cell.counts_of_task (h.others k hk).task).le

/-- The same for what another transaction counts. -/
theorem Frame.count_besides_le {other : UUID} (h : Frame own db v)
    (hown : (v.cell own).counts p ≤ (db.cell own).counts p) :
    v.tasks.count (Task.besides other p) ≤ db.tasks.count (Task.besides other p) := by
  apply h.count_le
  rw [counts_besides, counts_besides]
  split
  · exact le_rfl
  · exact hown

end Count

theorem SameOrigin.trans {a b c : Task} (h : SameOrigin a b) (h' : SameOrigin b c) :
    SameOrigin a c :=
  ⟨h'.id.trans h.id, h'.providerID.trans h.providerID, h'.apiKeyID.trans h.apiKeyID,
    h'.kind.trans h.kind, h'.model.trans h.model, h'.pricingRuleID.trans h.pricingRuleID,
    h'.estimatedTokens.trans h.estimatedTokens, h'.createdAt.trans h.createdAt,
    h'.request.trans h.request, h'.requestHash.trans h.requestHash,
    h'.idempotencyKey.trans h.idempotencyKey⟩

theorem SameOrigin.refl (t : Task) : SameOrigin t t := ⟨rfl, rfl, rfl, rfl, rfl, rfl, rfl, rfl, rfl, rfl, rfl⟩

/-- Only admission and claim make `p` true. -/
def Task.Fades (p : Task → Bool) : Prop :=
  ∀ t t', SameOrigin t t' → (t'.status.executing = true → t.status.executing = true) →
    (t.status.terminal = true → t'.status.terminal = true) → p t' = true → p t = true

/-- The tasks of the key that `p` counts. -/
def Task.ofKey (key : UUID) (p : Task → Bool) (t : Task) : Bool :=
  decide (t.apiKeyID = some key) && p t

def Task.executes (t : Task) : Bool := t.status.executing

/-- Not terminal yet. -/
def Task.isOpen (t : Task) : Bool := !t.status.terminal

section Fades

variable {p : Task → Bool}

theorem Task.executes_fades : Task.Fades Task.executes := fun _ _ _ hexec _ h => hexec h

theorem Task.isOpen_fades : Task.Fades Task.isOpen := by
  intro t t' _ _ hterminal h
  cases ht : t.status.terminal with
  | false => simp [Task.isOpen, ht]
  | true => simp [Task.isOpen, hterminal ht] at h

theorem Task.Fades.ofKey (hp : Task.Fades p) (key : UUID) : Task.Fades (Task.ofKey key p) := by
  intro t t' horigin hexec hterminal h
  obtain ⟨hkey, h⟩ := (Bool.and_eq_true _ _).mp h
  rw [horigin.apiKeyID] at hkey
  exact (Bool.and_eq_true _ _).mpr ⟨hkey, hp t t' horigin hexec hterminal h⟩

theorem Task.Fades.besides (hp : Task.Fades p) (own : UUID) : Task.Fades (Task.besides own p) := by
  intro t t' horigin hexec hterminal h
  obtain ⟨hid, h⟩ := (Bool.and_eq_true _ _).mp h
  rw [horigin.id] at hid
  exact (Bool.and_eq_true _ _).mpr ⟨hid, hp t t' horigin hexec hterminal h⟩

end Fades

section Step

variable {now : Time} {call : Call} {c c' : Cell} {p : Task → Bool}

/-- A task keeps its origin, and its end is final. -/
theorem Transition.origin (h : Transition now call c c') {t' : Task} (ht' : c'.task = some t') :
    call = .admission ∧ c.task = none ∨ ∃ t, c.task = some t ∧ SameOrigin t t' ∧
      (t.status.terminal = true → t'.status.terminal = true) := by
  have hmap {t : Task} {f : Task → Task} (htask : c.task = some t) (horigin : SameOrigin t (f t))
      (hend : t.status.terminal = true → (f t).status.terminal = true)
      (h' : (c.mapTask f).task = some t') : ∃ t, c.task = some t ∧ SameOrigin t t' ∧
        (t.status.terminal = true → t'.status.terminal = true) := by
    obtain rfl := Cell.task_of_mapTask htask h'
    exact ⟨t, htask, horigin, hend⟩
  cases h with
  | create hcall htask => exact .inl ⟨hcall, htask⟩
  | redispatch => exact .inr ⟨t', ht', .refl _, id⟩
  | retime => exact .inr ⟨t', ht', .refl _, id⟩
  | @reroute t leaseID target hcall htask hstatus hgen =>
    exact .inr (hmap htask ⟨rfl, rfl, rfl, rfl, rfl, rfl, rfl, rfl, rfl, rfl, rfl⟩ id ht')
  | @claim t leaseID expiresAt g hcall htask hstatus hfree =>
    refine .inr (hmap htask ⟨rfl, rfl, rfl, rfl, rfl, rfl, rfl, rfl, rfl, rfl, rfl⟩ (fun hended => ?_) ht')
    have hne : t.status ≠ .queued := by
      intro hq
      rw [hq] at hended
      cases hended
    simpa [Task.claim, hne] using hended
  | deliver => exact .inr ⟨t', ht', .refl _, id⟩
  | update leaseID g hcall htask hkeeps =>
    refine .inr (hmap htask hkeeps.origin (fun hended => ?_) ht')
    rw [hkeeps.running] at hended
    cases hended
  | requeue g htask horigin hrunning hlease hstatus hgen hh hrow =>
    refine .inr (hmap htask horigin (fun hended => ?_) ht')
    rw [TaskStatus.terminal_of_executing hrunning] at hended
    cases hended
  | uncertain htask horigin hrunning hstatus hlease =>
    exact .inr (hmap htask horigin (fun _ => by rw [hstatus]; rfl) ht')
  | complete htask horigin hrunning hstatus hlease =>
    rw [Cell.mapOutbox, Cell.settle_task] at ht'
    exact .inr (hmap htask horigin (fun _ => by rw [hstatus]; rfl) ht')
  | finish reason htask horigin hrunning hstatus hlease =>
    rw [Cell.mapOutbox, Cell.settle_task] at ht'
    refine .inr (hmap htask horigin (fun _ => ?_) ht')
    rcases hstatus with h | h <;> rw [h] <;> rfl
  | confirm hcall htask horigin huncertain hstatus hlease =>
    rw [Cell.mapOutbox, Cell.settle_task] at ht'
    exact .inr (hmap htask horigin (fun _ => by rw [hstatus]; rfl) ht')
  | release reason htask huncertain =>
    rw [Cell.settle_task] at ht'
    exact .inr ⟨t', ht', .refl _, id⟩

/-- What one transition outside admission and claim does to a count. -/
theorem Transition.counts_le (h : Transition now call c c') (hcall : call.session = false)
    (hc : c.Attended) (hp : Task.Fades p) : c'.counts p ≤ c.counts p := by
  unfold Cell.counts
  split
  · next hany =>
    obtain ⟨t', ht', hpt'⟩ := (Option.any_eq_true _ _).mp hany
    rcases h.origin ht' with ⟨hadmission, -⟩ | ⟨t, ht, horigin, hend⟩
    · rw [hadmission] at hcall
      cases hcall
    · have hpt := hp t t' horigin (h.executing hcall hc ht ht') hend hpt'
      rw [if_pos ((Option.any_eq_true _ _).mpr ⟨t, ht, hpt⟩)]
  · exact Nat.zero_le _

theorem Steps.counts_le (h : Steps now call c c') (hcall : call.session = false)
    (hc : c.Attended) (hp : Task.Fades p) : c'.counts p ≤ c.counts p := by
  induction h with
  | refl => exact le_rfl
  | tail hsteps hstep ih =>
    have hmid := Steps.invariant (P := Cell.Attended) (fun _ _ => Transition.attended) hsteps hc
    exact (hstep.counts_le hcall hmid hp).trans ih

theorem Lives.count_le {db db' : Database} (h : Lives now call db db')
    (hcall : call.session = false) (hattended : ∀ k, (db.cell k).Attended) (hp : Task.Fades p) :
    db'.tasks.count p ≤ db.tasks.count p :=
  count_le_count fun k => (h k).counts_le hcall (hattended k) hp

/-- Tasks are never deleted. -/
theorem Transition.present (h : Transition now call c c') (hc : c.task ≠ none) :
    c'.task ≠ none := by
  cases h with
  | create hcall htask => exact absurd htask hc
  | _ => simpa [Cell.mapTask, Cell.mapOutbox, Cell.mapReservation, Cell.extend] using hc

/-- Over a whole operation, too, a task keeps its origin, and its end is final. -/
theorem Steps.origin (h : Steps now call c c') {t t' : Task} (ht : c.task = some t)
    (ht' : c'.task = some t') :
    SameOrigin t t' ∧ (t.status.terminal = true → t'.status.terminal = true) := by
  induction h generalizing t' with
  | refl =>
    obtain rfl : t = t' := Option.some.inj (ht.symm.trans ht')
    exact ⟨.refl _, id⟩
  | @tail c₁ c₂ hsteps hstep ih =>
    have hpresent : c₁.task ≠ none := by
      refine Steps.invariant (P := fun c => c.task ≠ none) (fun _ _ => Transition.present) hsteps ?_
      rw [ht]
      exact Option.some_ne_none t
    rcases hstep.origin ht' with ⟨-, hnone⟩ | ⟨t₁, ht₁, horigin, hend⟩
    · exact absurd hnone hpresent
    · obtain ⟨horigin₁, hend₁⟩ := ih ht₁
      exact ⟨horigin₁.trans horigin, fun hended => hend (hend₁ hended)⟩

/-- Only admission creates tasks. -/
theorem Steps.created (h : Steps now call c c') (hc : c.task = none) (hc' : c'.task ≠ none) :
    call = .admission := by
  induction h with
  | refl => exact absurd hc hc'
  | @tail c₁ c₂ hsteps hstep ih =>
    obtain ⟨t', ht'⟩ := Option.ne_none_iff_exists'.mp hc'
    rcases hstep.origin ht' with ⟨hadmission, -⟩ | ⟨t₁, ht₁, -⟩
    · exact hadmission
    · apply ih
      rw [ht₁]
      exact Option.some_ne_none t₁

end Step

section Ages

variable {now : Time} {call : Call} {db v : Database}

/-- No task is lost, and each keeps its origin. -/
theorem Lives.kept (h : Lives now call db v) {k : UUID} {t : Task}
    (ht : db.tasks.get? k = some t) : ∃ t', v.tasks.get? k = some t' ∧ SameOrigin t t' := by
  have hpresent : (v.cell k).task ≠ none := by
    refine Steps.invariant (P := fun c => c.task ≠ none) (fun _ _ => Transition.present) (h k) ?_
    exact fun hnone => Option.some_ne_none t (ht.symm.trans hnone)
  obtain ⟨t', ht'⟩ := Option.ne_none_iff_exists'.mp hpresent
  exact ⟨t', ht', (Steps.origin (h k) ht ht').1⟩

/-- Outside admission every task is an old one. -/
theorem Lives.old (h : Lives now call db v) (hcall : call ≠ .admission) {k : UUID} {t' : Task}
    (ht' : v.tasks.get? k = some t') : ∃ t, db.tasks.get? k = some t ∧ SameOrigin t t' := by
  cases ht : db.tasks.get? k with
  | none =>
    refine absurd (Steps.created (h k) ht ?_) hcall
    exact fun hnone => Option.some_ne_none t' (ht'.symm.trans hnone)
  | some t => exact ⟨t, rfl, (Steps.origin (h k) ht ht').1⟩

end Ages

end GenerationGateway

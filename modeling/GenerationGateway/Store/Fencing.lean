import GenerationGateway.Store.System

/-!
# Fencing of leases and final states

The guard of every owned operation refuses a lease that is not valid at the
operation's `now()`. A lease id that was replaced or cleared does not come back,
because a claim draws a new one, and an expired lease is only renewed by an
operation called before it expired. Final states are never left.
-/

namespace GenerationGateway

open Relational Transitions

/-- The task is leased to `leaseID`, and at `now` the lease has not expired. -/
def Database.Leased (db : Database) (id leaseID : UUID) (now : Time) : Prop :=
  ∃ t, db.tasks.get? id = some t ∧ t.leasedTo leaseID now = true

/-- The call reports no success, and every table is as before. -/
def OwnedCall.Refused (call : OwnedCall) (env : Env) (id leaseID : UUID) (db : Database) : Prop :=
  (transaction (call.body env id leaseID) db).2 = db ∧
    (transaction (call.body env id leaseID) db).1 ≠ .ok true

section Refused

variable {env : Env} {id leaseID : UUID} {db : Database}

theorem onRow_of_not_leased {guard : Task → Bool} {f : Task → Task} {hf : ∀ t, (f t).id = t.id}
    {rest : Task → Tx (Ending Bool)} (hguard : ∀ t, guard t = true → t.leasedTo leaseID env.now = true)
    (h : ¬ db.Leased id leaseID env.now) :
    onRow (updateTask id guard f hf) rest db = .ok (.rollback false, db) := by
  refine onRow_of_none (updateTask_of_not_guard ?_)
  intro t ht
  by_contra hg
  exact h ⟨t, ht, hguard t (by simpa using hg)⟩

theorem OwnedCall.refused_of_rollback {call : OwnedCall}
    (h : call.body env id leaseID db = .ok (.rollback false, db)) :
    call.Refused env id leaseID db := by
  unfold OwnedCall.Refused transaction
  rw [h]
  exact ⟨rfl, by simp⟩

/-- The fence: without a valid lease no owned operation has an effect. -/
theorem OwnedCall.refused_of_not_leased (call : OwnedCall) (h : ¬ db.Leased id leaseID env.now) :
    call.Refused env id leaseID db := by
  have hleft {a b : Bool} (hab : (a && b) = true) : a = true := (Bool.and_eq_true_iff.mp hab).1
  cases call with
  | renew lease =>
    exact refused_of_rollback (onRow_of_not_leased (fun t hg => hleft hg) h)
  | yield retryAt =>
    exact refused_of_rollback (onRow_of_not_leased (fun t hg => hleft hg) h)
  | update u issued =>
    exact refused_of_rollback (onRow_of_not_leased (fun t hg => hleft hg) h)
  | prepare accountID request deadline =>
    exact refused_of_rollback (onRow_of_not_leased (fun t hg => hleft hg) h)
  | updateTokens before after =>
    exact refused_of_rollback (onRow_of_not_leased (fun t hg => hleft hg) h)
  | recordSubmission accountID generationID cost =>
    by_cases hgen : generationID = ""
    · unfold OwnedCall.Refused transaction
      simp only [OwnedCall.body, recordTaskSubmissionOwned, if_pos hgen]
      refine ⟨rfl, fun hdone => ?_⟩
      cases hdone
    · apply refused_of_rollback
      rw [OwnedCall.body, recordTaskSubmissionOwned, if_neg hgen]
      exact onRow_of_not_leased (fun t hg => hleft hg) h
  | recordUpstreamStatus known =>
    exact refused_of_rollback (onRow_of_not_leased (fun t hg => hleft (hleft hg)) h)
  | complete accountID generationID result tokensAfter =>
    exact refused_of_rollback (onRow_of_not_leased (fun t hg => hleft hg) h)
  | fail code message details tokensAfter =>
    exact refused_of_rollback (onRow_of_not_leased (fun t hg => hleft (hleft hg)) h)
  | failSubmitted code message details =>
    exact refused_of_rollback (onRow_of_not_leased (fun t hg => hleft (hleft hg)) h)

end Refused

theorem Task.leasedTo_iff {t : Task} {leaseID : UUID} {now : Time} :
    t.leasedTo leaseID now = true ↔
      t.executionLeaseID = some leaseID ∧ ∃ e, t.executionLeaseExpiresAt = some e ∧ now < e := by
  simp [Task.leasedTo, Option.any_eq_true]

/-- At most one lease id is valid for a task. -/
theorem Database.Leased.unique {db : Database} {id leaseID leaseID' : UUID} {now now' : Time}
    (h : db.Leased id leaseID now) (h' : db.Leased id leaseID' now') : leaseID = leaseID' := by
  obtain ⟨t, ht, hlease⟩ := h
  obtain ⟨t', ht', hlease'⟩ := h'
  obtain rfl : t = t' := Option.some.inj (ht.symm.trans ht')
  have hid := (Task.leasedTo_iff.mp hlease).1
  have hid' := (Task.leasedTo_iff.mp hlease').1
  exact Option.some.inj (hid.symm.trans hid')

theorem Task.unleased_id {t : Task} (h : t.unleased = true) : t.executionLeaseID = none := by
  simp only [Task.unleased, Bool.and_eq_true, Option.isNone_iff_eq_none] at h
  exact h.1

theorem Cell.task_of_mapTask {c : Cell} {t t' : Task} {f : Task → Task} (htask : c.task = some t)
    (ht' : (c.mapTask f).task = some t') : t' = f t := by
  simpa [Cell.mapTask, htask, eq_comm] using ht'

section Transition

variable {now : Time} {call : Call} {c c' : Cell}

/-- What a transition does to the lease: none is left, a claim sets a new one, or
the id stays, and then the expiry stays too or the holder acts under a valid
lease. -/
theorem Transition.lease (h : Transition now call c c') {t' : Task} (ht' : c'.task = some t') :
    t'.executionLeaseID = none ∨
    (∃ leaseID, call = .claim t'.id leaseID ∧ t'.executionLeaseID = some leaseID) ∨
    ∃ t, c.task = some t ∧ t.id = t'.id ∧ t'.executionLeaseID = t.executionLeaseID ∧
      (t'.executionLeaseExpiresAt = t.executionLeaseExpiresAt ∨
        ∃ leaseID, call = .owned t'.id leaseID ∧ t.leasedTo leaseID now = true) := by
  cases h with
  | create hcall htask hres hout hstatus hlease hgen hheld hdel =>
    cases ht'
    exact .inl (Task.unleased_id hlease)
  | redispatch htask hstatus hf => exact .inr (.inr ⟨t', ht', rfl, rfl, .inl rfl⟩)
  | retime hf => exact .inr (.inr ⟨t', ht', rfl, rfl, .inl rfl⟩)
  | reroute leaseID target hcall htask hstatus hgen =>
    obtain rfl := Cell.task_of_mapTask htask ht'
    exact .inr (.inr ⟨_, htask, rfl, rfl, .inl rfl⟩)
  | claim leaseID expiresAt g hcall htask hstatus hfree =>
    obtain rfl := Cell.task_of_mapTask htask ht'
    exact .inr (.inl ⟨leaseID, hcall, rfl⟩)
  | deliver htask hlease hrunning => exact .inr (.inr ⟨t', ht', rfl, rfl, .inl rfl⟩)
  | update leaseID g hcall htask hkeeps =>
    obtain rfl := Cell.task_of_mapTask htask ht'
    refine .inr (.inr ⟨_, htask, hkeeps.origin.id.symm, hkeeps.leaseID, .inr ⟨leaseID, ?_,
      hkeeps.leasedTo⟩⟩)
    rw [hkeeps.origin.id]
    exact hcall
  | requeue g htask horigin hrunning hlease hstatus hgen hh hrow =>
    obtain rfl := Cell.task_of_mapTask htask ht'
    exact .inl (Task.unleased_id hlease)
  | uncertain htask horigin hrunning hstatus hlease =>
    obtain rfl := Cell.task_of_mapTask htask ht'
    exact .inl (Task.unleased_id hlease)
  | complete htask horigin hrunning hstatus hlease =>
    rw [Cell.mapOutbox, Cell.settle_task] at ht'
    obtain rfl := Cell.task_of_mapTask htask ht'
    exact .inl (Task.unleased_id hlease)
  | finish reason htask horigin hrunning hstatus hlease =>
    rw [Cell.mapOutbox, Cell.settle_task] at ht'
    obtain rfl := Cell.task_of_mapTask htask ht'
    rcases hlease with hlease | ⟨-, hid, hexpires⟩
    · exact .inl (Task.unleased_id hlease)
    · exact .inr (.inr ⟨_, htask, horigin.id.symm, hid, .inl hexpires⟩)
  | confirm hcall htask horigin huncertain hstatus hlease =>
    rw [Cell.mapOutbox, Cell.settle_task] at ht'
    obtain rfl := Cell.task_of_mapTask htask ht'
    exact .inr (.inr ⟨_, htask, horigin.id.symm, hlease.1, .inl hlease.2⟩)
  | release reason htask huncertain =>
    rw [Cell.settle_task] at ht'
    exact .inr (.inr ⟨t', ht', rfl, rfl, .inl rfl⟩)

/-- What a transition does to a task that has ended. -/
theorem Transition.ended (h : Transition now call c c') {t : Task} (ht : c.task = some t)
    (hended : t.status.terminal = true) : ∃ t', c'.task = some t' ∧ t'.id = t.id ∧
      (t'.status = t.status ∨ t.status = .submissionUncertain ∧ call = .confirm t.id) := by
  have hsame {t₀ : Task} (h₀ : c.task = some t₀) : t₀ = t := Option.some.inj (h₀.symm.trans ht)
  cases h with
  | create hcall htask hres hout hstatus hlease hgen hheld hdel =>
    rw [htask] at ht
    cases ht
  | redispatch htask hstatus hf => exact ⟨t, ht, rfl, .inl rfl⟩
  | retime hf => exact ⟨t, ht, rfl, .inl rfl⟩
  | reroute leaseID target hcall htask hstatus hgen =>
    obtain rfl := hsame htask
    simp [hstatus, TaskStatus.terminal] at hended
  | claim leaseID expiresAt g hcall htask hstatus hfree =>
    obtain rfl := hsame htask
    rcases hstatus with hq | hflight
    · simp [hq, TaskStatus.terminal] at hended
    · simp only [Task.inFlight, Bool.and_eq_true, Bool.or_eq_true, decide_eq_true_eq] at hflight
      rcases hflight.1 with h | h <;> simp [h, TaskStatus.terminal] at hended
  | deliver htask hlease hrunning => exact ⟨t, ht, rfl, .inl rfl⟩
  | update leaseID g hcall htask hkeeps =>
    obtain rfl := hsame htask
    simp [hkeeps.running] at hended
  | requeue g htask horigin hrunning hlease hstatus hgen hh hrow =>
    obtain rfl := hsame htask
    simp [TaskStatus.terminal_of_executing hrunning] at hended
  | uncertain htask horigin hrunning hstatus hlease =>
    obtain rfl := hsame htask
    simp [hrunning] at hended
  | complete htask horigin hrunning hstatus hlease =>
    obtain rfl := hsame htask
    rcases hrunning with h | h <;> simp [h, TaskStatus.terminal] at hended
  | finish reason htask horigin hrunning hstatus hlease =>
    obtain rfl := hsame htask
    simp [hrunning] at hended
  | @confirm t₀ f hcall htask horigin huncertain hstatus hlease =>
    obtain rfl := hsame htask
    refine ⟨f t₀, ?_, horigin.id, .inr ⟨huncertain, hcall⟩⟩
    simp [Cell.mapOutbox, Cell.mapTask, htask]
  | release reason htask huncertain =>
    refine ⟨t, ?_, rfl, .inl rfl⟩
    rw [Cell.settle_task]
    exact ht

/-- The lease of the task `id`, if it is `leaseID`, is over at `T`. -/
def Cell.Fenced (id leaseID : UUID) (T : Time) (c : Cell) : Prop :=
  ∀ t, c.task = some t → t.id = id → t.leasedTo leaseID T = false

/-- The task `id` does not carry the lease id. -/
def Cell.Cleared (id leaseID : UUID) (c : Cell) : Prop :=
  ∀ t, c.task = some t → t.id = id → t.executionLeaseID ≠ some leaseID

theorem Steps.cleared {id leaseID : UUID} (h : Steps now call c c')
    (hclaim : call ≠ .claim id leaseID) (hc : c.Cleared id leaseID) : c'.Cleared id leaseID := by
  refine h.invariant ?_ hc
  intro a b hstep ha t' ht' hid
  rcases hstep.lease ht' with hnone | ⟨leaseID', hcall, hnew⟩ | ⟨t, ht, hsame, hlease, -⟩
  · simp [hnone]
  · intro hold
    obtain rfl : leaseID' = leaseID := Option.some.inj (hnew.symm.trans hold)
    exact hclaim (hid ▸ hcall)
  · rw [hlease]
    exact ha t ht (hsame.trans hid)

theorem Steps.fenced {id leaseID : UUID} {T : Time} (h : Steps now call c c')
    (hclaim : call ≠ .claim id leaseID) (howned : call = .owned id leaseID → T ≤ now)
    (hc : c.Fenced id leaseID T) : c'.Fenced id leaseID T := by
  refine h.invariant ?_ hc
  intro a b hstep ha t' ht' hid
  by_contra hleased
  simp only [Bool.not_eq_false, Task.leasedTo_iff] at hleased
  obtain ⟨hold, e, he, hlt⟩ := hleased
  rcases hstep.lease ht' with hnone | ⟨leaseID', hcall, hnew⟩ | ⟨t, ht, hsame, hlease, hexpires⟩
  · simp [hnone] at hold
  · obtain rfl : leaseID' = leaseID := Option.some.inj (hnew.symm.trans hold)
    exact hclaim (hid ▸ hcall)
  · have hdead := ha t ht (hsame.trans hid)
    have hcarries : t.executionLeaseID = some leaseID := hlease ▸ hold
    rcases hexpires with hexpires | ⟨leaseID', hcall, hvalid⟩
    · have hleased : t.leasedTo leaseID T = true :=
        Task.leasedTo_iff.mpr ⟨hcarries, e, hexpires ▸ he, hlt⟩
      simp [hleased] at hdead
    · -- the holder acts at `now`, when its lease is already over
      obtain ⟨hcarries', e', he', hlt'⟩ := Task.leasedTo_iff.mp hvalid
      obtain rfl : leaseID' = leaseID := Option.some.inj (hcarries'.symm.trans hcarries)
      have hle : T ≤ now := howned (hid ▸ hcall)
      have hleased : t.leasedTo leaseID' T = true :=
        Task.leasedTo_iff.mpr ⟨hcarries, e', he', lt_of_le_of_lt hle hlt'⟩
      simp [hleased] at hdead

theorem Steps.ended (h : Steps now call c c') {t : Task} (ht : c.task = some t)
    (hended : t.status.terminal = true)
    (hkeep : t.status = .submissionUncertain → call ≠ .confirm t.id) :
    ∃ t', c'.task = some t' ∧ t'.id = t.id ∧ t'.status = t.status := by
  induction h with
  | refl => exact ⟨t, ht, rfl, rfl⟩
  | tail _ hstep ih =>
    obtain ⟨t₁, ht₁, hid₁, hstatus₁⟩ := ih
    obtain ⟨t₂, ht₂, hid₂, hstatus₂⟩ := hstep.ended ht₁ (hstatus₁ ▸ hended)
    refine ⟨t₂, ht₂, hid₂.trans hid₁, ?_⟩
    rcases hstatus₂ with hstatus₂ | ⟨huncertain, hcall⟩
    · exact hstatus₂.trans hstatus₁
    · rw [hid₁] at hcall
      exact absurd hcall (hkeep (hstatus₁ ▸ huncertain))

end Transition

theorem Cell.fenced_iff {db : Database} {id leaseID : UUID} {T : Time} :
    (db.cell id).Fenced id leaseID T ↔ ¬ db.Leased id leaseID T := by
  constructor
  · rintro h ⟨t, ht, hleased⟩
    have hdead := h t ht (Table.key_of_get? ht)
    simp [hleased] at hdead
  · intro h t ht _
    by_contra hleased
    exact h ⟨t, ht, by simpa using hleased⟩

theorem Database.Leased.mono {db : Database} {id leaseID : UUID} {now now' : Time}
    (h : db.Leased id leaseID now') (hle : now ≤ now') : db.Leased id leaseID now := by
  obtain ⟨t, ht, hleased⟩ := h
  obtain ⟨hid, e, he, hlt⟩ := Task.leasedTo_iff.mp hleased
  exact ⟨t, ht, Task.leasedTo_iff.mpr ⟨hid, e, he, lt_of_le_of_lt hle hlt⟩⟩

section Runs

variable {s s' : StoreState} {es : List Event} {id leaseID : UUID}

theorem StoreStep.not_claim {e : Event} (h : StoreStep s e s') (hdrawn : leaseID ∈ s.leases) :
    e.op.call ≠ .claim id leaseID := by
  intro hcall
  obtain ⟨env, op⟩ := e
  cases op with
  | claim policy id' leaseID' lease =>
    cases hcall
    exact h.fresh leaseID (List.mem_singleton_self _) hdrawn
  | _ => cases hcall

theorem StoreStep.drawn {e : Event} (h : StoreStep s e s') (hdrawn : leaseID ∈ s.leases) :
    leaseID ∈ s'.leases := by
  rw [h.leases]
  exact List.mem_append_right _ hdrawn

/-- A lease id that was replaced or cleared does not come back. -/
theorem run_cleared (h : store.Run s es s') (hdrawn : leaseID ∈ s.leases)
    (hcleared : ∀ t, s.db.tasks.get? id = some t → t.executionLeaseID ≠ some leaseID) :
    ∀ t, s'.db.tasks.get? id = some t → t.executionLeaseID ≠ some leaseID := by
  have hrun : leaseID ∈ s'.leases ∧ (s'.db.cell id).Cleared id leaseID := by
    refine h.invariant (I := fun s => leaseID ∈ s.leases ∧ (s.db.cell id).Cleared id leaseID) ?_
      ⟨hdrawn, fun t ht _ => hcleared t ht⟩
    rintro s e s' hstep ⟨hdrawn, hcleared⟩
    exact ⟨hstep.drawn hdrawn,
      (hstep.lives id).cleared (hstep.not_claim hdrawn) hcleared⟩
  intro t ht
  exact hrun.2 t ht (Table.key_of_get? ht)

/-- An expired lease stays expired as long as the calls with its id are made after
its end. -/
theorem run_expired {T : Time} (h : store.Run s es s') (hdrawn : leaseID ∈ s.leases)
    (hcalls : ∀ e ∈ es, e.op.call = .owned id leaseID → T ≤ e.env.now)
    (hexpired : ¬ s.db.Leased id leaseID T) : ¬ s'.db.Leased id leaseID T := by
  induction es generalizing s with
  | nil =>
    obtain rfl : s' = s := h
    exact hexpired
  | cons e es ih =>
    obtain ⟨t, hstep, hrun⟩ := h
    refine ih hrun (hstep.drawn hdrawn) (fun e' he' => hcalls e' (List.mem_cons_of_mem _ he')) ?_
    rw [← Cell.fenced_iff] at hexpired ⊢
    exact (hstep.lives id).fenced (hstep.not_claim hdrawn) (hcalls e List.mem_cons_self) hexpired

/-- A run does not change the status of a task that has succeeded, failed or been
cancelled. -/
theorem run_settled {t : Task} (h : store.Run s es s') (ht : s.db.tasks.get? id = some t)
    (hsettled : t.status.settled = true) :
    ∃ t', s'.db.tasks.get? id = some t' ∧ t'.status = t.status := by
  refine h.invariant (I := fun s => ∃ t', s.db.tasks.get? id = some t' ∧ t'.status = t.status) ?_
    ⟨t, ht, rfl⟩
  rintro s e s' hstep ⟨t₁, ht₁, hstatus⟩
  have hended : t₁.status.terminal = true ∧ t₁.status ≠ .submissionUncertain := by
    rw [hstatus]
    cases hs : t.status <;> simp_all [TaskStatus.terminal, TaskStatus.settled]
  obtain ⟨t', ht', -, hstatus'⟩ := (hstep.lives id).ended ht₁ hended.1 fun h => absurd h hended.2
  exact ⟨t', ht', hstatus'.trans hstatus⟩

/-- An uncertain task stays uncertain unless an administrator settles it. -/
theorem step_uncertain {e : Event} {t : Task} (h : StoreStep s e s')
    (ht : s.db.tasks.get? id = some t) (huncertain : t.status = .submissionUncertain)
    (hop : e.op ≠ .confirm id) :
    ∃ t', s'.db.tasks.get? id = some t' ∧ t'.status = .submissionUncertain := by
  have hid : t.id = id := Table.key_of_get? ht
  have hcall : e.op.call ≠ .confirm t.id := by
    rw [hid]
    intro hcall
    obtain ⟨env, op⟩ := e
    cases op with
    | confirm id' =>
      cases hcall
      exact hop rfl
    | _ => cases hcall
  obtain ⟨t', ht', -, hstatus⟩ := (h.lives id).ended ht
    (by simp [huncertain, TaskStatus.terminal]) fun _ => hcall
  exact ⟨t', ht', hstatus.trans huncertain⟩

end Runs

/-- Calls without a valid lease are refused; a lease id stays refused for good once
it was replaced or cleared, and once expired for all calls made from then on; one
lease id at most is valid; final states last. -/
structure StoreState.Fenced (s : StoreState) : Prop where
  invalid : ∀ env id leaseID (call : OwnedCall), ¬ s.db.Leased id leaseID env.now →
    call.Refused env id leaseID s.db
  replaced : ∀ id, ∀ leaseID ∈ s.leases,
    (∀ t, s.db.tasks.get? id = some t → t.executionLeaseID ≠ some leaseID) →
    ∀ es s', store.Run s es s' → ∀ env (call : OwnedCall), call.Refused env id leaseID s'.db
  expired : ∀ id, ∀ leaseID ∈ s.leases, ∀ T, ¬ s.db.Leased id leaseID T →
    ∀ es s', store.Run s es s' →
    (∀ e ∈ es, e.op.call = .owned id leaseID → T ≤ e.env.now) →
    ∀ env (call : OwnedCall), T ≤ env.now → call.Refused env id leaseID s'.db
  unique : ∀ id leaseID leaseID' now, s.db.Leased id leaseID now → s.db.Leased id leaseID' now →
    leaseID = leaseID'
  settled : ∀ id t, s.db.tasks.get? id = some t → t.status.settled = true →
    ∀ es s', store.Run s es s' → ∃ t', s'.db.tasks.get? id = some t' ∧ t'.status = t.status
  uncertain : ∀ id t, s.db.tasks.get? id = some t → t.status = .submissionUncertain →
    ∀ e s', store.step s e s' → e.op ≠ .confirm id →
    ∃ t', s'.db.tasks.get? id = some t' ∧ t'.status = .submissionUncertain

/-- Leases are fenced and final states are final, in reachable stores as in any. -/
theorem leases_fenced (s : StoreState) : s.Fenced where
  invalid := fun _ _ _ call h => call.refused_of_not_leased h
  replaced := by
    intro id leaseID hdrawn hcleared es s' hrun env call
    refine call.refused_of_not_leased ?_
    rintro ⟨t, ht, hleased⟩
    exact run_cleared hrun hdrawn hcleared t ht (Task.leasedTo_iff.mp hleased).1
  expired := by
    intro id leaseID hdrawn T hexpired es s' hrun hcalls env call hle
    refine call.refused_of_not_leased fun hleased => ?_
    exact run_expired hrun hdrawn hcalls hexpired (hleased.mono hle)
  unique := fun _ _ _ _ h h' => h.unique h'
  settled := fun _ _ ht hsettled _ _ hrun => run_settled hrun ht hsettled
  uncertain := fun _ _ ht huncertain _ _ hstep hop => step_uncertain hstep ht huncertain hop

end GenerationGateway

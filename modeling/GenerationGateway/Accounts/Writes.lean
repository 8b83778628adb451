import GenerationGateway.Accounts.BalanceRows
import GenerationGateway.Accounts.StagedImports

/-!
# Every write to the accounts

The operations of the refresh queue and of the workers, with what is left: the settings of
an administrator, the verdict of a reconciliation, the charge and the submission of a task,
and the deletion of an account that could not be set up.
-/

namespace GenerationGateway

open Relational Transitions

/-- A field that is missing keeps its value. -/
structure AccountConfigPatch where
  proxyURL : Option String
  imageConcurrency : Option ℕ
  queueCapacity : Option ℕ
  routingRole : Option RoutingRole
  protectedTokens : Option ℕ
  videoReservedSlots : Option ℕ
  browserWorkerGroup : Option String

namespace AccountConfigPatch

variable (patch : AccountConfigPatch) (a : SessionAccount)

def concurrency : ℕ := patch.imageConcurrency.getD a.imageConcurrency
def capacity : ℕ := patch.queueCapacity.getD a.queueCapacity
def reservedSlots : ℕ := patch.videoReservedSlots.getD a.videoReservedSlots

/-- The row would hold its tasks and break no CHECK. -/
structure Fits (executingTasks queuedTasks : ℕ) : Prop where
  executing : executingTasks ≤ patch.concurrency a
  queued : queuedTasks ≤ patch.capacity a
  reserved : patch.reservedSlots a ≤ patch.concurrency a
  concurrency : 0 < patch.concurrency a
  capacity : 0 < patch.capacity a
  capacity_le : patch.capacity a ≤ 1000

instance (executingTasks queuedTasks : ℕ) : Decidable (patch.Fits a executingTasks queuedTasks) :=
  decidable_of_iff (executingTasks ≤ patch.concurrency a ∧ queuedTasks ≤ patch.capacity a ∧
    patch.reservedSlots a ≤ patch.concurrency a ∧ 0 < patch.concurrency a ∧
    0 < patch.capacity a ∧ patch.capacity a ≤ 1000)
    ⟨fun ⟨h₁, h₂, h₃, h₄, h₅, h₆⟩ => ⟨h₁, h₂, h₃, h₄, h₅, h₆⟩,
      fun ⟨h₁, h₂, h₃, h₄, h₅, h₆⟩ => ⟨h₁, h₂, h₃, h₄, h₅, h₆⟩⟩

end AccountConfigPatch

namespace SessionAccount

/-- `UpdateAccountConfig`; a refused patch leaves the row as it is. -/
def withConfig (executingTasks queuedTasks : ℕ) (patch : AccountConfigPatch)
    (a : SessionAccount) : SessionAccount :=
  if h : patch.Fits a executingTasks queuedTasks then
    { a with
      proxyURL := patch.proxyURL.getD a.proxyURL
      imageConcurrency := patch.concurrency a
      queueCapacity := patch.capacity a
      routingRole := patch.routingRole.getD a.routingRole
      protectedTokens := patch.protectedTokens.getD a.protectedTokens
      videoReservedSlots := patch.reservedSlots a
      browserWorkerGroup := patch.browserWorkerGroup.getD a.browserWorkerGroup
      imageConcurrency_pos := h.concurrency
      queueCapacity_pos := h.capacity
      queueCapacity_le := h.capacity_le
      videoReservedSlots_le := h.reserved }
  else a

end SessionAccount

inductive AccountWrite
  | refresh (op : RefreshOperation)
  | setStatus (id : UUID) (status : AdminStatus)
  | updateConfig (id : UUID) (executingTasks queuedTasks : ℕ) (patch : AccountConfigPatch)
  | setSessionRefreshEnabled (id : UUID) (enabled : Bool)
  | setBrowserWorkerGroup (id : UUID) (group : String)
  | reconcile (id : UUID) (outcome : ReconciliationOutcome)
  /-- The charge of `CompleteTaskOwned`. -/
  | charge (id : UUID) (tokens : ℕ)
  /-- `last_submitted_at` of `PrepareTaskSubmissionOwned`. -/
  | submitted (id : UUID)
  /-- `DeleteAccount`, unless a task, a reservation or a batch refers to the account. -/
  | delete (id : UUID) (referenced : Bool)

namespace SessionAccount

theorem withConfig_eq (executingTasks queuedTasks : ℕ) (patch : AccountConfigPatch)
    (a : SessionAccount) :
    (a.withConfig executingTasks queuedTasks patch).id = a.id ∧
      (a.withConfig executingTasks queuedTasks patch).providerID = a.providerID ∧
      (a.withConfig executingTasks queuedTasks patch).standing = a.standing := by
  unfold withConfig
  split <;> exact ⟨rfl, rfl, rfl⟩

theorem paused_eq (now delay : Time) (message : String) (a : SessionAccount) :
    (a.paused now delay message).id = a.id ∧
      (a.paused now delay message).providerID = a.providerID := by
  unfold paused
  split <;> exact ⟨rfl, rfl⟩

theorem reconciled_eq (now : Time) (outcome : ReconciliationOutcome) (a : SessionAccount) :
    (a.reconciled now outcome).id = a.id ∧
      (a.reconciled now outcome).providerID = a.providerID := by
  cases outcome with
  | drift expected observed => exact paused_eq now _ _ a
  | pending expected observed unresolved => exact paused_eq now _ _ a
  | settled =>
    simp only [reconciled]
    split <;> exact ⟨rfl, rfl⟩

end SessionAccount

namespace AccountWrite

def apply (now : Time) : AccountWrite → SessionStore → SessionStore
  | refresh op, s => op.apply now s
  | setStatus id status, s =>
    (updateAccounts (fun a => decide (a.id = id) && a.archivedAt.isNone)
      (SessionAccount.withStatus status) (fun _ => rfl) s).2
  | updateConfig id executingTasks queuedTasks patch, s =>
    (updateAccounts (fun a => a.id = id)
      (SessionAccount.withConfig executingTasks queuedTasks patch)
      (fun a => (a.withConfig_eq executingTasks queuedTasks patch).1) s).2
  | setSessionRefreshEnabled id enabled, s =>
    (updateAccounts (fun a => a.id = id) (fun a => { a with sessionRefreshEnabled := enabled })
      (fun _ => rfl) s).2
  | setBrowserWorkerGroup id group, s =>
    (updateAccounts (fun a => a.id = id) (fun a => { a with browserWorkerGroup := group })
      (fun _ => rfl) s).2
  | reconcile id outcome, s =>
    (updateAccounts (fun a => a.id = id) (SessionAccount.reconciled now outcome)
      (fun a => (a.reconciled_eq now outcome).1) s).2
  | charge id tokens, s =>
    (updateAccounts (fun a => a.id = id)
      (fun a => { a with toAccount := a.toAccount.charge tokens }) (fun _ => rfl) s).2
  | submitted id, s =>
    (updateAccounts (fun a => a.id = id) (SessionAccount.submitted now) (fun _ => rfl) s).2
  | delete id referenced, s =>
    if referenced then s
    else
      { accounts := s.accounts.deleteWhere fun a => a.id = id
        jobs := s.jobs.deleteWhere fun j => j.accountID = id }

/-- What a write makes of an account that exists. -/
def sets (now : Time) (s : SessionStore) (a : SessionAccount) : AccountWrite → SessionAccount
  | refresh op => op.setsAccount now s a
  | setStatus id status =>
    if decide (a.id = id) && a.archivedAt.isNone then a.withStatus status else a
  | updateConfig id executingTasks queuedTasks patch =>
    if a.id = id then a.withConfig executingTasks queuedTasks patch else a
  | setSessionRefreshEnabled id enabled =>
    if a.id = id then { a with sessionRefreshEnabled := enabled } else a
  | setBrowserWorkerGroup id group => if a.id = id then { a with browserWorkerGroup := group } else a
  | reconcile id outcome => if a.id = id then a.reconciled now outcome else a
  | charge id tokens => if a.id = id then { a with toAccount := a.toAccount.charge tokens } else a
  | submitted id => if a.id = id then a.submitted now else a
  | delete _ _ => a

variable {now : Time} {s : SessionStore} {write : AccountWrite} {a : SessionAccount} {id k : UUID}

/-- An `UPDATE` of one account. -/
theorem get?_updateAccount {p : SessionAccount → Bool} {f : SessionAccount → SessionAccount}
    {hf : ∀ a, (f a).id = a.id} {b : SessionAccount} (ha : s.accounts.get? k = some a)
    (hb : (if p a then f a else a) = b) :
    (updateAccounts p f hf s).2.accounts.get? k = some b := by
  rw [AccountOperation.get?_updateAccounts, ha, Option.map_some, hb]

/-- What a write leaves of an account that existed before. -/
theorem get?_existing (ha : s.accounts.get? k = some a) {b : SessionAccount}
    (hb : (write.apply now s).accounts.get? k = some b) : b = write.sets now s a := by
  have hrow {c : SessionAccount} (hc : (write.apply now s).accounts.get? k = some c) : b = c :=
    Option.some.inj (hb.symm.trans hc)
  cases write with
  | refresh op => exact hrow (RefreshOperation.get?_existingAccount op ha)
  | setStatus id status => exact hrow (get?_updateAccount ha rfl)
  | delete id referenced =>
    apply hrow
    rw [apply] at hb ⊢
    cases referenced with
    | true => exact ha
    | false =>
      have hkept := Table.get?_of_deleteWhere hb
      rw [ha] at hkept
      cases hkept
      exact hb
  | _ => exact hrow (get?_updateAccount ha (by simp [sets]))

/-- A new account has the defaults. -/
theorem created_of_new (hnone : s.accounts.get? k = none) {b : SessionAccount}
    (hb : (write.apply now s).accounts.get? k = some b) : ∃ c : SessionAccount, b = c.created := by
  have hupdate {p : SessionAccount → Bool} {f : SessionAccount → SessionAccount}
      {hf : ∀ a, (f a).id = a.id} : (updateAccounts p f hf s).2.accounts.get? k = none := by
    rw [AccountOperation.get?_updateAccounts, hnone, Option.map_none]
  cases write with
  | refresh op => exact RefreshOperation.created_of_new hnone hb
  | delete id referenced =>
    rw [apply] at hb
    cases referenced with
    | true => cases hnone.symm.trans hb
    | false => cases hnone.symm.trans (Table.get?_of_deleteWhere hb)
  | _ => cases hupdate.symm.trans hb

theorem sets_providerID (write : AccountWrite) (a : SessionAccount) :
    (write.sets now s a).providerID = a.providerID := by
  cases write with
  | refresh op => exact op.setsAccount_providerID a
  | updateConfig id executingTasks queuedTasks patch =>
    simp only [sets]
    split
    · exact (a.withConfig_eq executingTasks queuedTasks patch).2.1
    · rfl
  | reconcile id outcome =>
    simp only [sets]
    split
    · exact (a.reconciled_eq now outcome).2
    · rfl
  | delete => rfl
  | _ =>
    simp only [sets]
    split <;> rfl

end AccountWrite

/-- One write, at a time that no earlier write lies after. -/
structure AccountAct where
  now : Time
  write : AccountWrite

def AccountState.write (s : AccountState) (act : AccountAct) : Option AccountState :=
  if s.clock ≤ act.now then some ⟨act.write.apply act.now s.store, act.now⟩ else none

def accountWrites : LTS AccountState AccountAct := .ofStep AccountState.write

theorem AccountState.write_eq_some {s s' : AccountState} {act : AccountAct}
    (h : accountWrites.step s act s') :
    s.clock ≤ act.now ∧ s' = ⟨act.write.apply act.now s.store, act.now⟩ := by
  have hwrite : s.write act = some s' := h
  unfold AccountState.write at hwrite
  split_ifs at hwrite with hclock
  exact ⟨hclock, (Option.some.inj hwrite).symm⟩

end GenerationGateway

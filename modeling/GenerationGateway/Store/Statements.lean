import GenerationGateway.Store.Schema
import Mathlib.Data.List.Sort

/-!
# Statements and transactions

A statement is a function on the database that may fail; the constraints and the
triggers of `account_reservations` run inside it. A transaction is a sequence of
statements that ends with a commit or a rollback, and an error rolls it back.
Each statement has one lemma that says which rows of which task it can change.
-/

namespace GenerationGateway

open Relational

/-- What a transaction reads from outside the database: `now()` of the
transaction, `time.Now()` of the process, and the rows that other transactions
hold locked, which `SKIP LOCKED` passes over. -/
structure Env where
  now : Time
  wall : Time
  lockedTasks : List UUID
  lockedAccounts : List UUID

inductive StoreError
  | insufficientPoolBalance
  | accountQueueCapacity
  | apiKeyCapacity
  | noHealthyAccount
  | costRuleUnavailable
  | submissionCircuitOpen
  | systemMaintenance
  | systemQueueCapacity
  | systemOverloaded
  | noRows
  | notFound
  | idempotencyKeyReused
  | queuedTaskWithoutAccount
  | reservationNotRerouted
  | generationIDRequired
  | nullColumn
  | contextDone
  | uniqueViolation
  | foreignKeyViolation
  | reservationIdentityImmutable
  | settledReservationImmutable
  deriving DecidableEq, Repr

abbrev Tx := StateT Database (Except StoreError)

/-- How the body of a transaction returns: after `tx.Commit`, or without it, in
which case the deferred `tx.Rollback` discards its writes. -/
inductive Ending (α : Type)
  | commit (a : α)
  | rollback (a : α)

def transaction {α : Type} (body : Tx (Ending α)) (db : Database) :
    Except StoreError α × Database :=
  match body db with
  | .ok (.commit a, db') => (.ok a, db')
  | .ok (.rollback a, _) => (.ok a, db)
  | .error e => (.error e, db)

section Transactions

variable {α β : Type}

theorem bind_eq_ok {x : Tx α} {f : α → Tx β} {db : Database} {r : β × Database} :
    (x >>= f) db = .ok r ↔ ∃ a db₁, x db = .ok (a, db₁) ∧ f a db₁ = .ok r := by
  change Except.bind (x db) (fun p => f p.1 p.2) = .ok r ↔ _
  rcases x db with e | ⟨a, db₁⟩ <;> simp [Except.bind]

theorem bind_of_ok {x : Tx α} {f : α → Tx β} {db db₁ : Database} {a : α}
    (h : x db = .ok (a, db₁)) : (x >>= f) db = f a db₁ := by
  change Except.bind (x db) (fun p => f p.1 p.2) = _
  rw [h]
  rfl

theorem pure_eq_ok {a b : α} {db db' : Database} :
    (pure a : Tx α) db = .ok (b, db') ↔ b = a ∧ db' = db := by
  change Except.ok (a, db) = .ok (b, db') ↔ _
  simp [Prod.ext_iff, eq_comm]

theorem get_eq_ok {a db db' : Database} :
    (get : Tx Database) db = .ok (a, db') ↔ a = db ∧ db' = db := by
  change Except.ok (db, db) = .ok (a, db') ↔ _
  simp [Prod.ext_iff, eq_comm]

/-- A transaction changes the database only by committing. -/
theorem transaction_eq {body : Tx (Ending α)} {db db' : Database} {r : Except StoreError α}
    (h : transaction body db = (r, db')) :
    db' = db ∨ ∃ a, r = .ok a ∧ body db = .ok (.commit a, db') := by
  unfold transaction at h
  split at h
  · next a db₁ hbody =>
    cases h
    exact .inr ⟨a, rfl, hbody⟩
  · cases h
    exact .inl rfl
  · cases h
    exact .inl rfl

end Transactions

/-! ### Tasks -/

/-- `execution_lease_id=$2 AND execution_lease_expires_at>now()`. -/
def Task.leasedTo (t : Task) (leaseID : UUID) (now : Time) : Bool :=
  t.executionLeaseID = some leaseID && t.executionLeaseExpiresAt.any fun e => now < e

/-- `execution_lease_id IS NULL OR execution_lease_expires_at<=now()`. -/
def Task.leaseFree (t : Task) (now : Time) : Bool :=
  t.executionLeaseID.isNone || t.executionLeaseExpiresAt.any fun e => e ≤ now

/-- A deadline column that is set and not after `now()`. -/
def due (deadline : Option Time) (now : Time) : Bool := deadline.any fun d => d ≤ now

/-- Submitted or polling with a generation id. -/
def Task.inFlight (t : Task) : Bool :=
  (t.status = .submitted || t.status = .polling) && decide (t.generationID ≠ "")

/-- `SET execution_lease_id=NULL,execution_lease_expires_at=NULL`. -/
def Task.clearLease (t : Task) : Task :=
  { t with executionLeaseID := none, executionLeaseExpiresAt := none }

/-- New rows for tasks and reservations; the foreign key is checked at the end of
the statement. -/
def Database.replace (db : Database) (tasks : Table Task) (reservations : Table Reservation) :
    Except StoreError Database :=
  if h : FinancialIdentity tasks reservations then
    .ok { db with tasks := tasks, reservations := reservations, identity := h }
  else .error .foreignKeyViolation

/-- The tables that are not about one task. -/
structure Database.SameShared (db db' : Database) : Prop where
  accounts : db'.accounts = db.accounts
  apiKeys : db'.apiKeys = db.apiKeys
  costRules : db'.costRules = db.costRules
  capacity : db'.capacity = db.capacity

theorem Database.SameShared.refl (db : Database) : db.SameShared db := ⟨rfl, rfl, rfl, rfl⟩

theorem Database.SameShared.trans {a b c : Database} (h : a.SameShared b) (h' : b.SameShared c) :
    a.SameShared c :=
  ⟨h'.accounts.trans h.accounts, h'.apiKeys.trans h.apiKeys, h'.costRules.trans h.costRules,
    h'.capacity.trans h.capacity⟩

theorem Database.replace_eq_ok {db db' : Database} {tasks : Table Task}
    {reservations : Table Reservation} (h : db.replace tasks reservations = .ok db') :
    db'.tasks = tasks ∧ db'.reservations = reservations ∧ db'.outbox = db.outbox ∧
      db'.ledger = db.ledger ∧ db.SameShared db' := by
  unfold Database.replace at h
  split_ifs at h
  cases h
  exact ⟨rfl, rfl, rfl, rfl, ⟨rfl, rfl, rfl, rfl⟩⟩

/-- Only the rows of the task `id` change, and they change by `F`. -/
structure Touches (id : UUID) (F : Cell → Cell) (db db' : Database) : Prop where
  cell : db'.cell id = F (db.cell id)
  frame : ∀ k, k ≠ id → db'.cell k = db.cell k

theorem Touches.refl (id : UUID) (db : Database) : Touches id (fun c => c) db db :=
  ⟨rfl, fun _ _ => rfl⟩

theorem Touches.trans {id : UUID} {F G : Cell → Cell} {a b c : Database} (h : Touches id F a b)
    (h' : Touches id G b c) : Touches id (fun x => G (F x)) a c :=
  ⟨by rw [h'.cell, h.cell], fun k hk => (h'.frame k hk).trans (h.frame k hk)⟩

/-- `UPDATE tasks SET f WHERE id=$1 AND guard RETURNING *`. -/
def updateTask (id : UUID) (guard : Task → Bool) (f : Task → Task)
    (hf : ∀ t, (f t).id = t.id) : Tx (Option Task) := fun db =>
  match db.tasks.get? id with
  | none => .ok (none, db)
  | some t =>
    if guard t then do
      let db' ← db.replace (db.tasks.modify id f (key_of_task hf)) db.reservations
      .ok (some (f t), db')
    else .ok (none, db)

/-- `UPDATE tasks SET f WHERE p RETURNING *`. -/
def updateTasks (p : Database → Task → Bool) (f : Task → Task) (hf : ∀ t, (f t).id = t.id) :
    Tx (List Task) := fun db => do
  let db' ← db.replace (db.tasks.updateWhere (p db) f (key_of_task hf)) db.reservations
  .ok ((db.tasks.select (p db)).map f, db')

section UpdateTask

variable {id : UUID} {guard : Task → Bool} {f : Task → Task} {hf : ∀ t, (f t).id = t.id}
variable {db db' : Database}

theorem updateTask_none (h : updateTask id guard f hf db = .ok (none, db')) : db' = db := by
  unfold updateTask at h
  split at h
  · cases h
    rfl
  · split_ifs at h
    · cases hr : db.replace (db.tasks.modify id f (key_of_task hf)) db.reservations <;>
        simp [hr, bind, Except.bind] at h
    · cases h
      rfl

theorem updateTask_some {t' : Task} (h : updateTask id guard f hf db = .ok (some t', db')) :
    ∃ t, db.tasks.get? id = some t ∧ guard t = true ∧ t' = f t ∧
      Touches id (Cell.mapTask f) db db' ∧ db.SameShared db' := by
  unfold updateTask at h
  split at h
  · cases h
  · next t ht =>
    split_ifs at h with hg
    · cases hr : db.replace (db.tasks.modify id f (key_of_task hf)) db.reservations with
      | error e => simp [hr, bind, Except.bind] at h
      | ok db₁ =>
        simp only [hr, bind, Except.bind, Except.ok.injEq, Prod.mk.injEq, Option.some.injEq] at h
        obtain ⟨rfl, rfl⟩ := h
        obtain ⟨htasks, hres, hout, hled, hshared⟩ := Database.replace_eq_ok hr
        refine ⟨t, ht, hg, rfl, ⟨?_, ?_⟩, hshared⟩
        · ext1 <;> simp [Database.cell, Cell.mapTask, htasks, hres, hout, hled]
        · intro k hk
          ext1 <;> simp [Database.cell, htasks, hres, hout, hled, Table.get?_modify_of_ne _ hk]
    · cases h

/-- An update whose guard fails returns no row. -/
theorem updateTask_of_not_guard (h : ∀ t, db.tasks.get? id = some t → guard t = false) :
    updateTask id guard f hf db = .ok (none, db) := by
  unfold updateTask
  split
  · rfl
  · next t ht => simp [h t ht]

theorem updateTask_of_guard {t : Task} (ht : db.tasks.get? id = some t) (hg : guard t = true)
    (hacc : (f t).accountID = t.accountID) (hest : (f t).estimatedTokens = t.estimatedTokens) :
    ∃ db', updateTask id guard f hf db = .ok (some (f t), db') := by
  have hid : FinancialIdentity (db.tasks.modify id f (key_of_task hf)) db.reservations := by
    intro r hr
    obtain ⟨u, hu, huid, huacc, huest⟩ := db.identity r hr
    have hget : db.tasks.get? u.id = some u := Table.get?_of_mem hu
    by_cases hk : u.id = id
    · rw [hk, ht] at hget
      cases hget
      refine ⟨f t, ?_, by rw [hf, huid], by rw [hacc, huacc], by rw [hest, huest]⟩
      exact Table.mem_of_get? (by simp [ht] : (db.tasks.modify id f (key_of_task hf)).get? id = some (f t))
    · refine ⟨u, ?_, huid, huacc, huest⟩
      exact Table.mem_of_get?
        ((Table.get?_modify_of_ne _ hk f (key_of_task hf)).trans hget)
  refine ⟨{ db with tasks := db.tasks.modify id f (key_of_task hf), identity := hid }, ?_⟩
  simp [updateTask, ht, hg, Database.replace, hid, bind, Except.bind]

end UpdateTask

theorem updateTasks_ok {p : Database → Task → Bool} {f : Task → Task} {hf : ∀ t, (f t).id = t.id}
    {db db' : Database} {rows : List Task} (h : updateTasks p f hf db = .ok (rows, db')) :
    rows = (db.tasks.select (p db)).map f ∧
      (∀ k, db'.cell k = (db.cell k).mapTask fun t => if p db t then f t else t) ∧
      db.SameShared db' := by
  unfold updateTasks at h
  cases hr : db.replace (db.tasks.updateWhere (p db) f (key_of_task hf)) db.reservations with
  | error e => simp [hr, bind, Except.bind] at h
  | ok db₁ =>
    simp only [hr, bind, Except.bind, Except.ok.injEq, Prod.mk.injEq] at h
    obtain ⟨rfl, rfl⟩ := h
    obtain ⟨htasks, hres, hout, hled, hshared⟩ := Database.replace_eq_ok hr
    refine ⟨rfl, ?_, hshared⟩
    intro k
    ext1 <;> simp [Database.cell, Cell.mapTask, htasks, hres, hout, hled]

/-! ### Reservations and the usage ledger -/

/-- The trigger `enforce_reservation_immutability` on UPDATE. -/
def enforceReservationImmutability (old new : Reservation) : Except StoreError Unit :=
  if old.taskID ≠ new.taskID ∨ old.estimatedTokens ≠ new.estimatedTokens then
    .error .reservationIdentityImmutable
  else if old.held = false ∧ new ≠ old then .error .settledReservationImmutable
  else .ok ()

def ledgerRow (t : Task) (r : Reservation) (s : Settlement) : LedgerRow where
  taskID := t.id
  apiKeyID := t.apiKeyID
  providerID := t.providerID
  accountID := r.accountID
  pricingRuleID := t.pricingRuleID
  kind := t.kind
  model := t.model
  estimatedTokens := r.estimatedTokens
  settledTokens := s.settledTokens
  settlementState := s.state
  releaseReason := r.releaseReason
  settledAt := s.releasedAt

/-- The trigger `append_api_key_usage_ledger`; `task_id` is unique in the ledger. -/
def appendAPIKeyUsageLedger (old new : Reservation) (db : Database) : Except StoreError Database :=
  match old.settlement, new.settlement, db.tasks.get? new.taskID with
  | none, some s, some t =>
    match db.ledger.insert? (ledgerRow t new s) with
    | some ledger => .ok { db with ledger := ledger }
    | none => .error .uniqueViolation
  | _, _, _ => .ok db

/-- `UPDATE account_reservations SET f WHERE task_id=$1 AND guard`. -/
def updateReservation (taskID : UUID) (guard : Reservation → Bool) (f : Reservation → Reservation)
    (hf : ∀ r, (f r).taskID = r.taskID) : Tx (Option Reservation) := fun db =>
  match db.reservations.get? taskID with
  | none => .ok (none, db)
  | some r =>
    if guard r then do
      enforceReservationImmutability r (f r)
      let db₁ ← db.replace db.tasks (db.reservations.modify taskID f (key_of_reservation hf))
      let db₂ ← appendAPIKeyUsageLedger r (f r) db₁
      .ok (some (f r), db₂)
    else .ok (none, db)

def Reservation.settle (s : Settlement) (reason : String) (r : Reservation) : Reservation :=
  { r with settlement := some s, releaseReason := reason }

/-- `UPDATE account_reservations SET state=…, settled_tokens=…, released_at=…
WHERE task_id=$1 AND state='held' AND guard`. -/
def settleReservation (taskID : UUID) (guard : Reservation → Bool)
    (s : Reservation → Settlement) (reason : String) : Tx (Option Reservation) :=
  updateReservation taskID (fun r => r.held && guard r) (fun r => r.settle (s r) reason)
    fun _ => rfl

/-- `SET state='released',settled_tokens=0,reconciled_snapshot_version=0`. -/
def releasedAt (now : Time) : Settlement := ⟨.released, 0, 0, now⟩

def releaseReservation (env : Env) (taskID : UUID) (reason : String) : Tx (Option Reservation) :=
  settleReservation taskID (fun _ => true) (fun _ => releasedAt env.now) reason

/-- `UPDATE account_reservations SET expires_at=g WHERE task_id=$1 AND state='held'`. -/
def extendReservation (taskID : UUID) (g : Time → Time) : Tx (Option Reservation) :=
  updateReservation taskID Reservation.held (fun r => { r with expiresAt := g r.expiresAt })
    fun _ => rfl

def Cell.settle (guard : Reservation → Bool) (s : Reservation → Settlement) (reason : String)
    (c : Cell) : Cell :=
  match c.task, c.reservation with
  | some t, some r =>
    if r.held && guard r then
      { c with
        reservation := some (r.settle (s r) reason)
        ledger := some (ledgerRow t (r.settle (s r) reason) (s r)) }
    else c
  | _, _ => c

def Cell.extend (g : Time → Time) (c : Cell) : Cell :=
  { c with reservation := c.reservation.map fun r =>
      if r.held then { r with expiresAt := g r.expiresAt } else r }

theorem updateReservation_ok {taskID : UUID} {guard : Reservation → Bool}
    {f : Reservation → Reservation} {hf : ∀ r, (f r).taskID = r.taskID} {db db' : Database}
    {x : Option Reservation} (h : updateReservation taskID guard f hf db = .ok (x, db')) :
    (x = none ∧ db' = db ∧ ∀ r, db.reservations.get? taskID = some r → guard r = false) ∨
    ∃ r db₁, db.reservations.get? taskID = some r ∧ guard r = true ∧ x = some (f r) ∧
      db.replace db.tasks (db.reservations.modify taskID f (key_of_reservation hf)) = .ok db₁ ∧
      appendAPIKeyUsageLedger r (f r) db₁ = .ok db' := by
  unfold updateReservation at h
  split at h
  · next hnone =>
    cases h
    exact .inl ⟨rfl, rfl, by simp [hnone]⟩
  · next r hr =>
    split_ifs at h with hg
    · cases he : enforceReservationImmutability r (f r) with
      | error e => simp [he, bind, Except.bind] at h
      | ok u =>
        cases hrep : db.replace db.tasks (db.reservations.modify taskID f (key_of_reservation hf)) with
        | error e => simp [he, hrep, bind, Except.bind] at h
        | ok db₁ =>
          cases hl : appendAPIKeyUsageLedger r (f r) db₁ with
          | error e => simp [he, hrep, hl, bind, Except.bind] at h
          | ok db₂ =>
            simp only [he, hrep, hl, bind, Except.bind, Except.ok.injEq, Prod.mk.injEq] at h
            obtain ⟨rfl, rfl⟩ := h
            exact .inr ⟨r, db₁, hr, hg, rfl, rfl, hl⟩
    · cases h
      exact .inl ⟨rfl, rfl, by simp [hr, hg]⟩

theorem settleReservation_ok {taskID : UUID} {guard : Reservation → Bool}
    {s : Reservation → Settlement} {reason : String} {db db' : Database} {x : Option Reservation}
    (h : settleReservation taskID guard s reason db = .ok (x, db')) :
    Touches taskID (Cell.settle guard s reason) db db' ∧ db.SameShared db' := by
  rcases updateReservation_ok h with ⟨-, rfl, hnot⟩ | ⟨r, db₁, hr, hg, -, hrep, hled⟩
  · refine ⟨⟨?_, fun _ _ => rfl⟩, .refl _⟩
    unfold Cell.settle
    split
    · next t r ht hr => rw [if_neg (by simpa using hnot r hr)]
    · rfl
  · obtain ⟨htasks, hres, hout, hledger, hshared⟩ := Database.replace_eq_ok hrep
    obtain ⟨t, ht, -, -⟩ := Database.identity_of_get? hr
    have hkey : r.taskID = taskID := Table.key_of_get? hr
    have hid : t.id = taskID := Table.key_of_get? ht
    have hheld : r.settlement = none := by
      simp only [Reservation.held, Bool.and_eq_true, Option.isNone_iff_eq_none] at hg
      exact hg.1
    have hget : db₁.tasks.get? taskID = some t := htasks ▸ ht
    simp only [appendAPIKeyUsageLedger, Reservation.settle, hheld, hkey, hget] at hled
    split at hled
    · next ledger hins =>
      cases hled
      have hl := fun k => Table.get?_insert? hins k
      simp only [key_ledgerRow, ledgerRow, hid, hledger] at hl
      refine ⟨⟨?_, ?_⟩, ⟨hshared.accounts, hshared.apiKeys, hshared.costRules, hshared.capacity⟩⟩
      · ext1 <;>
          simp [Database.cell, Cell.settle, Reservation.settle, ledgerRow, hid, htasks, hres, hout,
            hl, ht, hr, hg]
      · intro k hk
        ext1 <;> simp [Database.cell, htasks, hres, hout, hl, hk, Table.get?_modify_of_ne _ hk]
    · cases hled

theorem releaseReservation_ok {env : Env} {taskID : UUID} {reason : String} {db db' : Database}
    {x : Option Reservation} (h : releaseReservation env taskID reason db = .ok (x, db')) :
    Touches taskID (Cell.settle (fun _ => true) (fun _ => releasedAt env.now) reason) db db' ∧
      db.SameShared db' :=
  settleReservation_ok h

theorem extendReservation_ok {taskID : UUID} {g : Time → Time} {db db' : Database}
    {x : Option Reservation} (h : extendReservation taskID g db = .ok (x, db')) :
    Touches taskID (Cell.extend g) db db' ∧ db.SameShared db' := by
  rcases updateReservation_ok h with ⟨-, rfl, hnot⟩ | ⟨r, db₁, hr, hg, -, hrep, hled⟩
  · refine ⟨⟨?_, fun _ _ => rfl⟩, .refl _⟩
    cases hr : db'.reservations.get? taskID with
    | none => simp [Cell.extend, Database.cell, hr]
    | some r => simp [Cell.extend, Database.cell, hr, hnot r hr]
  · obtain ⟨htasks, hres, hout, hledger, hshared⟩ := Database.replace_eq_ok hrep
    have hheld : r.settlement = none := by simpa [Reservation.held] using hg
    simp only [appendAPIKeyUsageLedger, hheld, Except.ok.injEq] at hled
    subst hled
    refine ⟨⟨?_, ?_⟩, hshared⟩
    · ext1 <;> simp [Database.cell, Cell.extend, htasks, hres, hout, hledger, hr, hg]
    · intro k hk
      ext1 <;> simp [Database.cell, htasks, hres, hout, hledger, Table.get?_modify_of_ne _ hk]

/-! ### Outbox and wake-ups -/

/-- `UPDATE task_outbox SET f WHERE p`. -/
def updateOutbox (p : OutboxRow → Bool) (f : OutboxRow → OutboxRow)
    (hf : ∀ o, (f o).taskID = o.taskID) : Tx Unit := fun db =>
  .ok ((), { db with outbox := db.outbox.updateWhere p f (key_of_outboxRow hf) })

def OutboxRow.deliver (now : Time) (o : OutboxRow) : OutboxRow := { o with deliveredAt := some now }

theorem OutboxRow.deliver_taskID (env : Env) (o : OutboxRow) :
    (o.deliver env.now).taskID = o.taskID := rfl

/-- `SET delivered_at=NULL,next_attempt_at=$1`. -/
def OutboxRow.reset (nextAttemptAt : Time) (o : OutboxRow) : OutboxRow :=
  { o with deliveredAt := none, nextAttemptAt := nextAttemptAt }

/-- `UPDATE task_outbox SET delivered_at=now() WHERE task_id=$1`. -/
def deliverOutbox (env : Env) (id : UUID) : Tx Unit :=
  updateOutbox (fun o => o.taskID = id) (OutboxRow.deliver env.now) (OutboxRow.deliver_taskID env)

/-- `UPDATE task_outbox SET delivered_at=now() WHERE task_id=$1 AND delivered_at IS NULL`. -/
def deliverPendingOutbox (env : Env) (id : UUID) : Tx Unit :=
  updateOutbox (fun o => decide (o.taskID = id) && o.deliveredAt.isNone)
    (OutboxRow.deliver env.now) (OutboxRow.deliver_taskID env)

def OutboxRow.defer (nextAttemptAt : Time) (reason : String) (o : OutboxRow) : OutboxRow :=
  { o.reset nextAttemptAt with lastError := reason }

/-- The statement of `deferQueuedTaskTx`. -/
def deferOutbox (id : UUID) (nextAttemptAt : Time) (reason : String) : Tx Unit :=
  updateOutbox (fun o => o.taskID = id) (OutboxRow.defer nextAttemptAt reason) fun _ => rfl

/-- `INSERT INTO task_outbox … ON CONFLICT(task_id) DO UPDATE SET f`. -/
def upsertOutbox (row : OutboxRow) (f : OutboxRow → OutboxRow)
    (hf : ∀ o, (f o).taskID = o.taskID) : Tx Unit := fun db =>
  match db.outbox.insert? row with
  | some outbox => .ok ((), { db with outbox := outbox })
  | none => updateOutbox (fun o => o.taskID = row.taskID) f hf db

/-- A new outbox row; `next_attempt_at` and `created_at` default to `now()`. -/
def OutboxRow.new (env : Env) (taskID : UUID) (kind : Kind) : OutboxRow where
  taskID := taskID
  kind := kind
  deliveredAt := none
  lastAttemptAt := none
  nextAttemptAt := env.now
  attemptCount := 0
  lastError := ""
  createdAt := env.now

/-- `(a.created_at,a.id)<(b.created_at,b.id)`. -/
def Task.before (a b : Task) : Bool :=
  a.createdAt < b.createdAt || (a.createdAt = b.createdAt && a.id < b.id)

/-- `ORDER BY created_at,id`. -/
def Task.precedes (a b : Task) : Prop := b.before a = false

instance : DecidableRel Task.precedes := fun a b => inferInstanceAs (Decidable (b.before a = false))

/-- The first 32 queued tasks of `p` in queue order, past the locked ones. -/
def wakeCandidates (env : Env) (db : Database) (p : Task → Bool) : List UUID :=
  (((db.tasks.select fun t => p t && decide (t.status = .queued) &&
    !env.lockedTasks.contains t.id).insertionSort Task.precedes).take 32).map Task.id

def wakeWhere (env : Env) (p : Task → Bool) : Tx Unit := fun db =>
  updateOutbox (fun o => (wakeCandidates env db p).contains o.taskID)
    (OutboxRow.reset env.now) (fun _ => rfl) db

def wakeQueuedTasksTx (env : Env) (accountID : UUID) (apiKeyID : Option UUID) : Tx Unit := do
  wakeWhere env fun t => t.accountID = some accountID
  match apiKeyID with
  | none => return ()
  | some key => wakeWhere env fun t => t.apiKeyID = some key

/-- `if accountID != nil` around a wake-up. -/
def wakeAccount (env : Env) (accountID : Option UUID) (apiKeyID : Option UUID) : Tx Unit :=
  match accountID with
  | none => return ()
  | some account => wakeQueuedTasksTx env account apiKeyID

theorem updateOutbox_ok {p : OutboxRow → Bool} {f : OutboxRow → OutboxRow}
    {hf : ∀ o, (f o).taskID = o.taskID} {db db' : Database} {u : Unit}
    (h : updateOutbox p f hf db = .ok (u, db')) :
    (∀ k, db'.cell k = (db.cell k).mapOutbox fun o => if p o then f o else o) ∧
      db.SameShared db' := by
  simp only [updateOutbox, Except.ok.injEq, Prod.mk.injEq, true_and] at h
  subst h
  refine ⟨fun k => ?_, ⟨rfl, rfl, rfl, rfl⟩⟩
  ext1 <;> simp [Database.cell, Cell.mapOutbox]

/-- An update that selects outbox rows by their task. -/
theorem updateOutbox_of_task {q : UUID → Bool} {f : OutboxRow → OutboxRow}
    {hf : ∀ o, (f o).taskID = o.taskID} {db db' : Database} {u : Unit}
    (h : updateOutbox (fun o => q o.taskID) f hf db = .ok (u, db')) (k : UUID) :
    db'.cell k = if q k then (db.cell k).mapOutbox f else db.cell k := by
  rw [(updateOutbox_ok h).1]
  cases ho : db.outbox.get? k with
  | none => cases hq : q k <;> simp [Cell.mapOutbox, Database.cell, ho]
  | some o =>
    have hkey : o.taskID = k := Table.key_of_get? ho
    cases hq : q k <;> simp [Cell.mapOutbox, Database.cell, ho, hkey, hq]

/-- An update of the outbox row of one task. -/
theorem updateOutbox_touches {id : UUID} {q : OutboxRow → Bool} {f : OutboxRow → OutboxRow}
    {hf : ∀ o, (f o).taskID = o.taskID} {db db' : Database} {u : Unit}
    (h : updateOutbox (fun o => decide (o.taskID = id) && q o) f hf db = .ok (u, db')) :
    Touches id (Cell.mapOutbox fun o => if q o then f o else o) db db' ∧ db.SameShared db' := by
  obtain ⟨hcell, hshared⟩ := updateOutbox_ok h
  have hkey : ∀ k o, db.outbox.get? k = some o → o.taskID = k := fun k o ho => Table.key_of_get? ho
  refine ⟨⟨?_, ?_⟩, hshared⟩
  · rw [hcell]
    cases ho : db.outbox.get? id with
    | none => simp [Cell.mapOutbox, Database.cell, ho]
    | some o => simp [Cell.mapOutbox, Database.cell, ho, hkey id o ho]
  · intro k hk
    rw [hcell]
    cases ho : db.outbox.get? k with
    | none => simp [Cell.mapOutbox, Database.cell, ho]
    | some o => simp [Cell.mapOutbox, Database.cell, ho, hkey k o ho, hk]

theorem updateOutbox_self {id : UUID} {f : OutboxRow → OutboxRow}
    {hf : ∀ o, (f o).taskID = o.taskID} {db db' : Database} {u : Unit}
    (h : updateOutbox (fun o => o.taskID = id) f hf db = .ok (u, db')) :
    Touches id (Cell.mapOutbox f) db db' ∧ db.SameShared db' := by
  have hcell := updateOutbox_of_task (q := fun k => k = id) h
  refine ⟨⟨by simp [hcell], fun k hk => by simp [hcell, hk]⟩, (updateOutbox_ok h).2⟩

theorem deliverOutbox_ok {env : Env} {id : UUID} {db db' : Database} {u : Unit}
    (h : deliverOutbox env id db = .ok (u, db')) :
    Touches id (Cell.mapOutbox (OutboxRow.deliver env.now)) db db' ∧ db.SameShared db' :=
  updateOutbox_self h

theorem deliverPendingOutbox_ok {env : Env} {id : UUID} {db db' : Database} {u : Unit}
    (h : deliverPendingOutbox env id db = .ok (u, db')) :
    Touches id (Cell.mapOutbox fun o => if o.deliveredAt.isNone then o.deliver env.now else o)
      db db' ∧ db.SameShared db' :=
  updateOutbox_touches h

theorem deferOutbox_ok {id : UUID} {nextAttemptAt : Time} {reason : String} {db db' : Database}
    {u : Unit} (h : deferOutbox id nextAttemptAt reason db = .ok (u, db')) :
    Touches id (Cell.mapOutbox (OutboxRow.defer nextAttemptAt reason)) db db' ∧
      db.SameShared db' :=
  updateOutbox_self h

theorem upsertOutbox_ok {row : OutboxRow} {f : OutboxRow → OutboxRow}
    {hf : ∀ o, (f o).taskID = o.taskID} {db db' : Database} {u : Unit}
    (h : upsertOutbox row f hf db = .ok (u, db')) :
    Touches row.taskID (fun c => { c with outbox := some ((c.outbox.map f).getD row) }) db db' ∧
      db.SameShared db' := by
  unfold upsertOutbox at h
  split at h
  · next outbox hins =>
    cases h
    have hnone : db.outbox.get? row.taskID = none := (Table.insert?_eq_some hins).1
    have hget := fun k => Table.get?_insert? hins k
    refine ⟨⟨?_, fun k hk => ?_⟩, ⟨rfl, rfl, rfl, rfl⟩⟩
    · ext1 <;> simp [Database.cell, hget, hnone]
    · ext1 <;> simp [Database.cell, hget, hk]
  · next hins =>
    have hsome : db.outbox.get? row.taskID ≠ none := by
      intro hnone
      have := Table.insert?_isSome (t := db.outbox) (r := row) hnone
      simp [hins] at this
    obtain ⟨htouch, hshared⟩ := updateOutbox_self h
    refine ⟨⟨?_, htouch.frame⟩, hshared⟩
    obtain ⟨o, ho⟩ := Option.ne_none_iff_exists'.mp hsome
    rw [htouch.cell]
    simp [Cell.mapOutbox, Database.cell, ho]

/-- A cell as a wake-up leaves it: a queued task may get its outbox row reset. -/
def Cell.Woken (now : Time) (c c' : Cell) : Prop :=
  c' = c ∨ (∃ t, c.task = some t ∧ t.status = .queued) ∧ c' = c.mapOutbox (OutboxRow.reset now)

namespace Cell.Woken

variable {now : Time} {a b c : Cell}

theorem refl (now : Time) (c : Cell) : Cell.Woken now c c := .inl rfl

theorem task (h : Cell.Woken now a b) : b.task = a.task := by
  rcases h with rfl | ⟨-, rfl⟩ <;> rfl

theorem trans (h : Cell.Woken now a b) (h' : Cell.Woken now b c) : Cell.Woken now a c := by
  have htask := h.task
  rcases h with rfl | ⟨hq, rfl⟩
  · exact h'
  · rcases h' with rfl | ⟨-, rfl⟩
    · exact .inr ⟨hq, rfl⟩
    · refine .inr ⟨hq, ?_⟩
      simp only [Cell.mapOutbox, Option.map_map]
      rfl

theorem eq_of_not_queued (h : Cell.Woken now a b)
    (hq : ∀ t, a.task = some t → t.status ≠ .queued) : b = a := by
  rcases h with rfl | ⟨⟨t, ht, hstatus⟩, -⟩
  · rfl
  · exact absurd hstatus (hq t ht)

end Cell.Woken

/-- Queued tasks may get their outbox row reset; nothing else happens. -/
structure Wakes (now : Time) (db db' : Database) : Prop where
  cell : ∀ k, Cell.Woken now (db.cell k) (db'.cell k)
  shared : db.SameShared db'

namespace Wakes

variable {now : Time} {a b c : Database}

theorem refl (now : Time) (db : Database) : Wakes now db db := ⟨fun _ => .refl _ _, .refl db⟩

theorem trans (h : Wakes now a b) (h' : Wakes now b c) : Wakes now a c :=
  ⟨fun k => (h.cell k).trans (h'.cell k), h.shared.trans h'.shared⟩

end Wakes

theorem mem_wakeCandidates {env : Env} {db : Database} {p : Task → Bool} {k : UUID}
    (h : k ∈ wakeCandidates env db p) :
    ∃ t, db.tasks.get? k = some t ∧ p t = true ∧ t.status = .queued := by
  obtain ⟨t, ht, rfl⟩ := List.mem_map.mp h
  have hmem := (List.perm_insertionSort _ _).mem_iff.mp (List.mem_of_mem_take ht)
  simp only [Table.select, List.mem_filter, Bool.and_eq_true, decide_eq_true_eq] at hmem
  exact ⟨t, Table.get?_of_mem hmem.1, hmem.2.1.1, hmem.2.1.2⟩

theorem wakeWhere_ok {env : Env} {p : Task → Bool} {db db' : Database} {u : Unit}
    (h : wakeWhere env p db = .ok (u, db')) : Wakes env.now db db' := by
  refine ⟨fun k => ?_, (updateOutbox_ok h).2⟩
  rw [updateOutbox_of_task (q := fun k => (wakeCandidates env db p).contains k) h k]
  split_ifs with hk
  · obtain ⟨t, ht, -, hq⟩ := mem_wakeCandidates (List.contains_iff_mem.mp hk)
    exact .inr ⟨⟨t, ht, hq⟩, rfl⟩
  · exact .refl _ _

theorem wakeQueuedTasksTx_ok {env : Env} {accountID : UUID} {apiKeyID : Option UUID}
    {db db' : Database} {u : Unit} (h : wakeQueuedTasksTx env accountID apiKeyID db = .ok (u, db')) :
    Wakes env.now db db' := by
  obtain ⟨_, db₁, h₁, h₂⟩ := bind_eq_ok.mp h
  cases apiKeyID with
  | none =>
    obtain ⟨-, rfl⟩ := pure_eq_ok.mp h₂
    exact wakeWhere_ok h₁
  | some key => exact (wakeWhere_ok h₁).trans (wakeWhere_ok h₂)

theorem wakeAccount_ok {env : Env} {accountID apiKeyID : Option UUID} {db db' : Database}
    {u : Unit} (h : wakeAccount env accountID apiKeyID db = .ok (u, db')) :
    Wakes env.now db db' := by
  cases accountID with
  | none =>
    obtain ⟨-, rfl⟩ := pure_eq_ok.mp h
    exact .refl env.now db'
  | some account => exact wakeQueuedTasksTx_ok h

/-! ### Accounts -/

/-- `UPDATE accounts SET f WHERE id=$1`. -/
def updateAccount (id : UUID) (f : Account → Account) (hf : ∀ a, (f a).id = a.id) : Tx Unit :=
  fun db => .ok ((), { db with accounts := db.accounts.modify id f (key_of_account hf) })

theorem updateAccount_cell {id : UUID} {f : Account → Account} {hf : ∀ a, (f a).id = a.id}
    {db db' : Database} {u : Unit} (h : updateAccount id f hf db = .ok (u, db')) (k : UUID) :
    db'.cell k = db.cell k := by
  cases h
  rfl

theorem Touches.of_cells {id : UUID} {F : Cell → Cell} {a b c : Database} (h : Touches id F a b)
    (hc : ∀ k, c.cell k = b.cell k) : Touches id F a c :=
  ⟨(hc id).trans h.cell, fun k hk => (hc k).trans (h.frame k hk)⟩

end GenerationGateway

import GenerationGateway.Library.Table
import Mathlib.Data.Rat.Defs

/-!
# Tables of the gateway store

Rows carry the columns that the store reads or writes. A CHECK constraint is a
field of the row, and the foreign key from a reservation to the financial
identity of its task is a field of the database, so a state that PostgreSQL
would refuse cannot be written down. Timestamps are microseconds, JSON documents
and texts are strings.
-/

namespace GenerationGateway

open Relational

abbrev UUID := ℕ
abbrev Time := ℤ
abbrev JSON := String

def seconds (n : ℤ) : Time := n * 1000000
def minutes (n : ℤ) : Time := seconds (n * 60)
def hours (n : ℤ) : Time := minutes (n * 60)

/-- The empty JSON object, which the store reads as "no value given". -/
def emptyObject : JSON := "\x7b\x7d"

inductive TaskStatus
  | queued | reserving | uploading | submitted | polling
  | succeeded | failed | cancelled | submissionUncertain
  deriving DecidableEq, Repr

namespace TaskStatus

/-- `status IN ('reserving','uploading','submitted','polling')`. -/
def executing : TaskStatus → Bool
  | reserving | uploading | submitted | polling => true
  | _ => false

/-- `status IN ('succeeded','failed','cancelled','submission_uncertain')`. -/
def terminal : TaskStatus → Bool
  | succeeded | failed | cancelled | submissionUncertain => true
  | _ => false

/-- The statuses that no operation leaves. -/
def settled : TaskStatus → Bool
  | succeeded | failed | cancelled => true
  | _ => false

theorem terminal_eq_false_iff {s : TaskStatus} :
    s.terminal = false ↔ s = queued ∨ s.executing = true := by
  cases s <;> simp [terminal, executing]

end TaskStatus

inductive Kind
  | image | video | audio
  deriving DecidableEq, Repr

inductive ProviderID
  | leonardo | adobe | creativefabrica
  deriving DecidableEq, Repr

def ProviderID.name : ProviderID → String
  | leonardo => "leonardo"
  | adobe => "adobe"
  | creativefabrica => "creativefabrica"

structure Task where
  id : UUID
  providerID : ProviderID
  apiKeyID : Option UUID
  accountID : Option UUID
  kind : Kind
  status : TaskStatus
  progress : ℤ
  model : String
  prompt : String
  request : JSON
  requestHash : String
  idempotencyKey : Option String
  upstreamRequest : JSON
  generationID : String
  result : JSON
  errorCode : String
  errorMessage : String
  errorDetails : JSON
  tokensBefore : Option ℤ
  tokensAfter : Option ℤ
  cancelRequested : Bool
  estimatedTokens : ℕ
  upstreamReportedCost : Option ℚ
  pricingRuleID : Option ℤ
  createdAt : Time
  startedAt : Option Time
  submittedAt : Option Time
  completedAt : Option Time
  queueDeadlineAt : Option Time
  upstreamDeadlineAt : Option Time
  lastUpstreamStatusAt : Option Time
  unknownStatusCount : ℕ
  reconciliationReason : String
  executionLeaseID : Option UUID
  executionLeaseExpiresAt : Option Time
  executionAttempt : ℕ
  deriving DecidableEq

inductive SettlementState
  | released | consumed
  deriving DecidableEq, Repr

/-- The columns `state`, `settled_tokens`, `reconciled_snapshot_version` and
`released_at` of a settled reservation. The CHECK on the terminal fields makes
the last three null together exactly while the state is 'held'. -/
structure Settlement where
  state : SettlementState
  settledTokens : ℕ
  reconciledSnapshotVersion : ℕ
  releasedAt : Time
  deriving DecidableEq, Repr

structure Reservation where
  taskID : UUID
  accountID : UUID
  estimatedTokens : ℕ
  settlement : Option Settlement
  expiresAt : Time
  releaseReason : String
  deriving DecidableEq, Repr

/-- `state='held'`. -/
def Reservation.held (r : Reservation) : Bool := r.settlement.isNone

structure OutboxRow where
  taskID : UUID
  kind : Kind
  deliveredAt : Option Time
  lastAttemptAt : Option Time
  nextAttemptAt : Time
  attemptCount : ℕ
  lastError : String
  createdAt : Time
  deriving DecidableEq, Repr

/-- A row of `api_key_usage_ledger`. -/
structure LedgerRow where
  taskID : UUID
  apiKeyID : Option UUID
  providerID : ProviderID
  accountID : UUID
  pricingRuleID : Option ℤ
  kind : Kind
  model : String
  estimatedTokens : ℕ
  settledTokens : ℕ
  settlementState : SettlementState
  releaseReason : String
  settledAt : Time
  deriving DecidableEq, Repr

inductive AccountStatus
  | active | disabled | invalid | rateLimited | cooldown
  deriving DecidableEq, Repr

inductive GenerationPermission
  | unknown | verified | blocked | rateLimited | error
  deriving DecidableEq, Repr

inductive RoutingRole
  | general | videoReserved
  deriving DecidableEq, Repr

structure Account where
  id : UUID
  providerID : ProviderID
  status : AccountStatus
  generationPermissionStatus : GenerationPermission
  cooldownUntil : Option Time
  accessTokenExpiresAt : Option Time
  lastCheckedAt : Option Time
  subscriptionTokens : ℤ
  rolloverTokens : ℤ
  paidTokens : ℤ
  imageConcurrency : ℕ
  queueCapacity : ℕ
  routingRole : RoutingRole
  protectedTokens : ℕ
  videoReservedSlots : ℕ
  proxyURL : String
  lastError : String
  lastSubmittedAt : Option Time
  archivedAt : Option Time
  imageConcurrency_pos : 0 < imageConcurrency
  queueCapacity_pos : 0 < queueCapacity
  queueCapacity_le : queueCapacity ≤ 1000
  videoReservedSlots_le : videoReservedSlots ≤ imageConcurrency
  deriving DecidableEq

/-- `subscription_tokens+rollover_tokens+paid_tokens`. -/
def Account.balance (a : Account) : ℤ := a.subscriptionTokens + a.rolloverTokens + a.paidTokens

structure APIKey where
  id : UUID
  enabled : Bool
  concurrencyLimit : ℤ
  expiresAt : Option Time
  deletedAt : Option Time

/-- `enabled=true AND deleted_at IS NULL AND (expires_at IS NULL OR expires_at>now())`. -/
def APIKey.usable (k : APIKey) (now : Time) : Bool :=
  k.enabled && k.deletedAt.isNone && k.expiresAt.all fun e => now < e

structure CostRule where
  id : ℤ
  providerID : ProviderID
  enabled : Bool
  drifted : Bool

/-- `enabled=true AND drifted=false`. -/
def CostRule.active (r : CostRule) : Bool := r.enabled && !r.drifted

structure SystemCapacityConfig where
  maxExecuting : ℕ
  maxQueued : ℕ
  queueHighWatermark : ℕ
  queueResumeWatermark : ℕ
  queueTimeoutSeconds : ℕ
  maintenanceMode : Bool
  executionPaused : Bool
  overloadActive : Bool
  maxExecuting_bounds : 1 ≤ maxExecuting ∧ maxExecuting ≤ 10000
  maxQueued_bounds : 1 ≤ maxQueued ∧ maxQueued ≤ 100000
  queueHighWatermark_bounds : 1 ≤ queueHighWatermark ∧ queueHighWatermark ≤ maxQueued
  queueResumeWatermark_lt : queueResumeWatermark < queueHighWatermark
  queueTimeoutSeconds_bounds : 60 ≤ queueTimeoutSeconds ∧ queueTimeoutSeconds ≤ 86400
  executionPaused_maintenance : executionPaused = true → maintenanceMode = true

instance : Keyed UUID Task := ⟨Task.id⟩
instance : Keyed UUID Reservation := ⟨Reservation.taskID⟩
instance : Keyed UUID OutboxRow := ⟨OutboxRow.taskID⟩
instance : Keyed UUID LedgerRow := ⟨LedgerRow.taskID⟩
instance : Keyed UUID Account := ⟨Account.id⟩
instance : Keyed UUID APIKey := ⟨APIKey.id⟩
instance : Keyed ℤ CostRule := ⟨CostRule.id⟩

@[simp] theorem key_task (t : Task) : Keyed.key t = t.id := rfl
@[simp] theorem key_reservation (r : Reservation) : Keyed.key r = r.taskID := rfl
@[simp] theorem key_outboxRow (o : OutboxRow) : Keyed.key o = o.taskID := rfl
@[simp] theorem key_ledgerRow (l : LedgerRow) : Keyed.key l = l.taskID := rfl
@[simp] theorem key_account (a : Account) : Keyed.key a = a.id := rfl

theorem key_of_task {f : Task → Task} (h : ∀ t, (f t).id = t.id) (t : Task) :
    Keyed.key (f t) = Keyed.key t := h t

theorem key_of_reservation {f : Reservation → Reservation} (h : ∀ r, (f r).taskID = r.taskID)
    (r : Reservation) : Keyed.key (f r) = Keyed.key r := h r

theorem key_of_outboxRow {f : OutboxRow → OutboxRow} (h : ∀ o, (f o).taskID = o.taskID)
    (o : OutboxRow) : Keyed.key (f o) = Keyed.key o := h o

theorem key_of_account {f : Account → Account} (h : ∀ a, (f a).id = a.id) (a : Account) :
    Keyed.key (f a) = Keyed.key a := h a

/-- `account_reservations_task_identity_fk`: the reservation names the account
and the estimate that its task has. -/
def FinancialIdentity (tasks : Table Task) (reservations : Table Reservation) : Prop :=
  ∀ r ∈ reservations.rows, ∃ t ∈ tasks.rows,
    t.id = r.taskID ∧ t.accountID = some r.accountID ∧ t.estimatedTokens = r.estimatedTokens

instance (tasks : Table Task) (reservations : Table Reservation) :
    Decidable (FinancialIdentity tasks reservations) :=
  inferInstanceAs (Decidable (∀ r ∈ reservations.rows, ∃ t ∈ tasks.rows, _))

structure Database where
  tasks : Table Task
  reservations : Table Reservation
  outbox : Table OutboxRow
  ledger : Table LedgerRow
  accounts : Table Account
  apiKeys : Table APIKey
  costRules : Table CostRule
  capacity : SystemCapacityConfig
  identity : FinancialIdentity tasks reservations

/-- The four rows that belong to one task. -/
@[ext] structure Cell where
  task : Option Task
  reservation : Option Reservation
  outbox : Option OutboxRow
  ledger : Option LedgerRow

namespace Cell

def empty : Cell := ⟨none, none, none, none⟩

def mapTask (f : Task → Task) (c : Cell) : Cell := { c with task := c.task.map f }

def mapReservation (f : Reservation → Reservation) (c : Cell) : Cell :=
  { c with reservation := c.reservation.map f }

def mapOutbox (f : OutboxRow → OutboxRow) (c : Cell) : Cell := { c with outbox := c.outbox.map f }

end Cell

namespace Database

/-- The rows of the task `k`. -/
def cell (db : Database) (k : UUID) : Cell where
  task := db.tasks.get? k
  reservation := db.reservations.get? k
  outbox := db.outbox.get? k
  ledger := db.ledger.get? k

theorem identity_of_get? {db : Database} {k : UUID} {r : Reservation}
    (h : db.reservations.get? k = some r) :
    ∃ t, db.tasks.get? k = some t ∧ t.accountID = some r.accountID ∧
      t.estimatedTokens = r.estimatedTokens := by
  obtain ⟨t, ht, hid, hacc, hest⟩ := db.identity r (Table.mem_of_get? h)
  have hk : r.taskID = k := Table.key_of_get? h
  refine ⟨t, ?_, hacc, hest⟩
  rw [← hk, ← hid]
  exact Table.get?_of_mem ht

end Database

end GenerationGateway

import GenerationGateway.Store.Statements
import Mathlib.Data.List.MinMax
import Mathlib.Data.Prod.Lex

/-!
# Usage of accounts and the choice of one

The aggregates over held reservations, the conditions under which an account may
take a task, and the order in which candidates are tried. A sub-select over the
reservations and the columns of the account are separate arguments throughout:
a statement that waits for the account's lock reads the first from its snapshot
and the second from the row it gets.
-/

namespace GenerationGateway

open Relational

structure SchedulingPolicy where
  apiKeyQueueMultiplier : ℕ
  uncertainAccountLimit : ℕ
  uncertainProxyLimit : ℕ
  uncertainProviderLimit : ℕ

def defaultSchedulingPolicy : SchedulingPolicy := ⟨2, 1, 3, 5⟩

/-- The held reservations of an account, by the state of their tasks. -/
structure Usage where
  heldTokens : ℕ
  activeTasks : ℕ
  activeNonVideoTasks : ℕ
  reservationCount : ℕ

def Reservation.holds (r : Reservation) (account : UUID) : Bool :=
  r.held && decide (r.accountID = account)

def heldTokens (db : Database) (account : UUID) : ℕ :=
  db.reservations.total fun r => if r.holds account then r.estimatedTokens else 0

def reservationCount (db : Database) (account : UUID) : ℕ :=
  db.reservations.count fun r => r.holds account

def activeTasks (db : Database) (account : UUID) : ℕ :=
  db.reservations.count fun r =>
    r.holds account && (db.tasks.get? r.taskID).any fun t => t.status.executing

def activeNonVideoTasks (db : Database) (account : UUID) : ℕ :=
  db.reservations.count fun r =>
    r.holds account && (db.tasks.get? r.taskID).any fun t =>
      t.status.executing && decide (t.kind ≠ .video)

def usage (db : Database) (account : UUID) : Usage where
  heldTokens := heldTokens db account
  activeTasks := activeTasks db account
  activeNonVideoTasks := activeNonVideoTasks db account
  reservationCount := reservationCount db account

/-- An uncertain task that still holds its reservation. -/
def Task.heldUncertain (db : Database) (t : Task) : Bool :=
  decide (t.status = .submissionUncertain) && (db.reservations.get? t.id).any Reservation.held

def uncertainOfAccount (db : Database) (account : UUID) : ℕ :=
  db.tasks.count fun t => t.heldUncertain db && decide (t.accountID = some account)

def uncertainOfProxy (db : Database) (provider : ProviderID) (proxyURL : String) : ℕ :=
  db.tasks.count fun t => t.heldUncertain db && decide (t.providerID = provider) &&
    t.accountID.any fun id => (db.accounts.get? id).any fun a => a.proxyURL = proxyURL

def uncertainOfProvider (db : Database) (provider : ProviderID) : ℕ :=
  db.tasks.count fun t => t.heldUncertain db && decide (t.providerID = provider)

/-- The conditions on an account that every routing query repeats. -/
def Account.healthy (a : Account) (provider : ProviderID) (now : Time) : Bool :=
  a.archivedAt.isNone && decide (a.providerID = provider) && decide (a.status = .active) &&
    (decide (a.providerID ≠ .leonardo) || decide (a.generationPermissionStatus = .verified)) &&
    (a.cooldownUntil.all fun c => c ≤ now) && (a.accessTokenExpiresAt.any fun e => now < e) &&
    a.lastCheckedAt.isSome

/-- What a task of this kind may spend: the protected credits are set aside for
videos as long as the available credits cover them. -/
def Account.spendable (a : Account) (reserved : ℤ) (kind : Kind) : ℤ :=
  let available := a.balance - reserved
  available - if kind ≠ .video ∧ a.protectedTokens ≤ available then (a.protectedTokens : ℤ) else 0

/-- How many reservations the account takes from tasks of this kind. -/
def Account.capacity (a : Account) (kind : Kind) : ℤ :=
  a.imageConcurrency + a.queueCapacity -
    if kind ≠ .video ∧ a.routingRole = .videoReserved then (a.videoReservedSlots : ℤ) else 0

/-- The filter shared by the admission and the reroute query. -/
def Account.accepts (policy : SchedulingPolicy) (snapshot : Database) (a : Account)
    (provider : ProviderID) (kind : Kind) (estimatedTokens : ℕ) (now : Time) : Bool :=
  a.healthy provider now &&
    decide (uncertainOfAccount snapshot a.id < policy.uncertainAccountLimit) &&
    decide (uncertainOfProxy snapshot provider a.proxyURL < policy.uncertainProxyLimit) &&
    decide ((reservationCount snapshot a.id : ℤ) < a.capacity kind) &&
    decide ((estimatedTokens : ℤ) ≤ a.spendable (heldTokens snapshot a.id) kind)

def Account.roleRank (a : Account) (kind : Kind) : ℕ :=
  if kind = .video then if a.routingRole = .videoReserved then 0 else 1
  else if a.routingRole = .general then 0 else 1

/-- The ORDER BY of the routing queries; `errorRank` is a term of the admission
query only. -/
def Account.routingKey (snapshot : Database) (kind : Kind) (estimatedTokens errorRank : ℕ)
    (a : Account) : ℕ ×ₗ ℚ ×ₗ ℚ ×ₗ Time ×ₗ ℤ ×ₗ ℕ ×ₗ UUID :=
  toLex (a.roleRank kind, toLex ((activeTasks snapshot a.id : ℚ) / a.imageConcurrency,
    toLex ((reservationCount snapshot a.id : ℚ) / (a.imageConcurrency + a.queueCapacity),
      toLex (a.lastSubmittedAt.getD 0,
        toLex (a.spendable (heldTokens snapshot a.id) kind - estimatedTokens,
          toLex (errorRank, a.id))))))

/-- `FOR UPDATE OF a … LIMIT 1`: in the order of the snapshot, the first
candidate whose row is not passed over and still satisfies the conditions in its
latest version. -/
def chooseAccount {α : Type} [LinearOrder α] (snapshot current : Database)
    (accepts : Account → Bool) (order : Account → α) (skip : UUID → Bool) : Option UUID :=
  let rows := snapshot.accounts.select fun a =>
    accepts a && !skip a.id && (current.accounts.get? a.id).any accepts
  (rows.argmin order).map Account.id

theorem chooseAccount_spec {α : Type} [LinearOrder α] {snapshot current : Database}
    {accepts : Account → Bool} {order : Account → α} {skip : UUID → Bool} {id : UUID}
    (h : chooseAccount snapshot current accepts order skip = some id) :
    ∃ a, current.accounts.get? id = some a ∧ accepts a = true ∧ skip id = false := by
  obtain ⟨a, ha, rfl⟩ := Option.map_eq_some_iff.mp h
  have hmem := List.argmin_mem (Option.mem_def.mpr ha)
  simp only [Table.select, List.mem_filter, Bool.and_eq_true, Bool.not_eq_true',
    Option.any_eq_true] at hmem
  obtain ⟨-, ⟨-, hskip⟩, b, hb, hacc⟩ := hmem
  exact ⟨b, hb, hacc, hskip⟩

/-- What `loadClaimAccount` reads: the account's columns and its usage. -/
structure ClaimAccountState where
  account : Account
  usage : Usage

def ClaimAccountState.routeable (s : ClaimAccountState) (provider : ProviderID) (now : Time) :
    Bool :=
  decide (s.account.providerID = provider) && decide (s.account.status = .active) &&
    (decide (s.account.providerID ≠ .leonardo) ||
      decide (s.account.generationPermissionStatus = .verified)) &&
    (s.account.cooldownUntil.all fun c => c ≤ now) &&
    (s.account.accessTokenExpiresAt.any fun e => now < e) &&
    s.account.lastCheckedAt.isSome && decide ((s.usage.heldTokens : ℤ) ≤ s.account.balance)

end GenerationGateway

import GenerationGateway.Accounts.Session
import GenerationGateway.Store.Owned

/-!
# The balance of an account

What the statements of a refresh and a completed task do to the balance columns. The
columns stand under a version: a refresh takes the next one and writes under the one it
took, and a charge looks at no version.
-/

namespace GenerationGateway

open Relational

namespace SessionAccount

/-- The columns that a balance refresh writes. -/
structure BalanceColumns where
  credits : Credits
  lastCheckedAt : Option Time
  snapshotVersion : ℤ
  snapshotStartedAt : Option Time

def balanceColumns (a : SessionAccount) : BalanceColumns :=
  ⟨⟨a.subscriptionTokens, a.rolloverTokens, a.paidTokens⟩, a.lastCheckedAt,
    a.balanceSnapshotVersion, a.balanceSnapshotStartedAt⟩

/-- `subscription_tokens`, `rollover_tokens` and `paid_tokens`. -/
def credits (a : SessionAccount) : Credits := a.balanceColumns.credits

def Credits.total (c : Credits) : ℤ := c.subscription + c.rollover + c.paid

/-- What the charge of a completed task leaves. -/
def Credits.charge (tokens : ℕ) (c : Credits) : Credits :=
  ⟨max 0 (c.subscription - tokens), max 0 (c.rollover - max 0 (tokens - c.subscription)),
    max 0 (c.paid - max 0 (tokens - c.subscription - c.rollover))⟩

end SessionAccount

theorem SessionAccount.toAccount_key (a : SessionAccount) : Keyed.key a.toAccount = Keyed.key a :=
  rfl

/-- The rows of the ledger, with the accounts as they stand. -/
def SessionStore.database (s : SessionStore) (db : Database) : Database :=
  { db with accounts := s.accounts.mapRows SessionAccount.toAccount SessionAccount.toAccount_key }

/-- The row of an account after a statement on the columns of the ledger. -/
def SessionAccount.withLedger (accounts : Table Account) (a : SessionAccount) : SessionAccount :=
  match accounts.get? a.id with
  | some row => { a with toAccount := row }
  | none => a

theorem SessionAccount.withLedger_id (accounts : Table Account) (a : SessionAccount) :
    (a.withLedger accounts).id = a.id := by
  unfold withLedger
  split
  · next row h => exact Table.key_of_get? h
  · rfl

def SessionStore.adopt (s : SessionStore) (accounts : Table Account) : SessionStore :=
  { s with
    accounts := s.accounts.mapRows (SessionAccount.withLedger accounts)
      (SessionAccount.withLedger_id accounts) }

/-- The credits that a task still holds on an account. -/
def Database.heldFor (db : Database) (taskID accountID : UUID) : ℕ :=
  match db.reservations.get? taskID with
  | some r => if r.held && decide (r.accountID = accountID) then r.estimatedTokens else 0
  | none => 0

theorem consumeReservation_accounts {env : Env} {id accountID : UUID} {u : Unit} {db db' : Database}
    (h : consumeReservation env id accountID db = .ok (u, db')) (k : UUID) :
    db'.accounts.get? k = if k = accountID ∧ 0 < db.heldFor id accountID then
      (db.accounts.get? k).map (Account.charge (db.heldFor id accountID))
    else db.accounts.get? k := by
  obtain ⟨x, db₁, hsettle, hrest⟩ := bind_eq_ok.mp h
  rw [← (settleReservation_ok hsettle).2.accounts]
  rcases updateReservation_ok hsettle with ⟨rfl, -, hnot⟩ | ⟨r, -, hr, hg, rfl, -, -⟩
  · obtain ⟨-, rfl⟩ := pure_eq_ok.mp hrest
    have hzero : db.heldFor id accountID = 0 := by
      unfold Database.heldFor
      split
      · next r hr => rw [if_neg (by simpa using hnot r hr)]
      · rfl
    simp [hzero]
  · have hamount : db.heldFor id accountID = r.estimatedTokens := by
      simp only [Database.heldFor, hr]
      exact if_pos hg
    rw [hamount]
    by_cases hpos : 0 < r.estimatedTokens
    · have hrun : updateAccount accountID (Account.charge r.estimatedTokens) (fun _ => rfl) db₁ =
          .ok (u, db') := by
        simpa [hpos, Reservation.settle] using hrest
      cases hrun
      simpa [hpos] using Table.get?_modify db₁.accounts accountID
        (Account.charge r.estimatedTokens) (key_of_account fun _ => rfl) k
    · have hrun : (pure () : Tx Unit) db₁ = .ok (u, db') := by
        simpa [hpos, Reservation.settle] using hrest
      obtain ⟨-, rfl⟩ := pure_eq_ok.mp hrun
      simp [hpos]

/-- A completed task charges what it holds. -/
theorem completeTaskOwned_accounts {env : Env} {id leaseID accountID : UUID}
    {generationID : String} {result : JSON} {tokensAfter : Option ℤ} {db db' : Database} {b : Bool}
    (h : completeTaskOwned env id leaseID accountID generationID result tokensAfter db =
      .ok (.commit b, db')) (k : UUID) :
    db'.accounts.get? k = if k = accountID ∧ 0 < db.heldFor id accountID then
      (db.accounts.get? k).map (Account.charge (db.heldFor id accountID))
    else db.accounts.get? k := by
  obtain ⟨t', db₁, h₁, h₂⟩ := onRow_commit h
  obtain ⟨t, ht, hg, rfl, htouch, hshared⟩ := updateTask_some h₁
  obtain ⟨x, db₂, h₃, h₄⟩ := bind_eq_ok.mp h₂
  obtain ⟨y, db₃, h₅, h₆⟩ := bind_eq_ok.mp h₄
  obtain ⟨z, db₄, h₇, h₈⟩ := bind_eq_ok.mp h₆
  obtain ⟨-, rfl⟩ := pure_eq_ok.mp h₈
  have hafter : db'.accounts = db₂.accounts :=
    (wakeQueuedTasksTx_ok h₇).shared.accounts.trans (deliverOutbox_ok h₅).2.accounts
  have hreservation : db₁.reservations.get? id = db.reservations.get? id :=
    congrArg Cell.reservation htouch.cell
  have hheld : db₁.heldFor id accountID = db.heldFor id accountID := by
    simp only [Database.heldFor, hreservation]
  rw [hafter, ← hshared.accounts, ← hheld]
  exact consumeReservation_accounts h₃ k

/-! ### The fence of an account -/

/-- What the refreshes compare and write: the balance columns under their version. -/
structure Fence where
  columns : SessionAccount.BalanceColumns
  refreshVersion : ℤ

def SessionAccount.fence (a : SessionAccount) : Fence := ⟨a.balanceColumns, a.balanceRefreshVersion⟩

def SessionStore.fence (s : SessionStore) (id : UUID) : Option Fence :=
  (s.accounts.get? id).map SessionAccount.fence

namespace Fence

def next (f : Fence) : Fence := { f with refreshVersion := f.refreshVersion + 1 }

def write (now : Time) (version : ℤ) (startedAt : Time) (credits : SessionAccount.Credits)
    (f : Fence) : Fence :=
  if f.refreshVersion = version then
    { f with columns := ⟨credits, some now, version, some startedAt⟩ }
  else f

def charge (tokens : ℕ) (f : Fence) : Fence :=
  if 0 < tokens then
    { f with columns := { f.columns with credits := f.columns.credits.charge tokens } }
  else f

@[simp] theorem refreshVersion_next (f : Fence) : f.next.refreshVersion = f.refreshVersion + 1 := rfl

@[simp] theorem columns_next (f : Fence) : f.next.columns = f.columns := rfl

@[simp] theorem refreshVersion_write (now : Time) (version : ℤ) (startedAt : Time)
    (credits : SessionAccount.Credits) (f : Fence) :
    (f.write now version startedAt credits).refreshVersion = f.refreshVersion := by
  unfold write
  split <;> rfl

@[simp] theorem refreshVersion_charge (tokens : ℕ) (f : Fence) :
    (f.charge tokens).refreshVersion = f.refreshVersion := by
  unfold charge
  split <;> rfl

@[simp] theorem snapshotVersion_charge (tokens : ℕ) (f : Fence) :
    (f.charge tokens).columns.snapshotVersion = f.columns.snapshotVersion := by
  unfold charge
  split <;> rfl

theorem credits_charge (tokens : ℕ) (f : Fence) :
    (f.charge tokens).columns.credits =
      if 0 < tokens then f.columns.credits.charge tokens else f.columns.credits := by
  unfold charge
  split <;> rfl

end Fence

section Statements

variable {s : SessionStore} {id : UUID}

theorem beginAccountBalanceRefresh_fence :
    (beginAccountBalanceRefresh id s).2.fence id = (s.fence id).map Fence.next ∧
      (beginAccountBalanceRefresh id s).1 =
        ((beginAccountBalanceRefresh id s).2.fence id).map Fence.refreshVersion := by
  have hrow : (beginAccountBalanceRefresh id s).2.accounts.get? id =
      (s.accounts.get? id).map fun a => if decide (a.id = id) then a.withNextVersion else a :=
    Table.get?_updateWhere s.accounts _ SessionAccount.withNextVersion (fun _ => rfl) id
  refine ⟨?_, ?_⟩
  · rw [SessionStore.fence, hrow, SessionStore.fence]
    cases ha : s.accounts.get? id with
    | none => rfl
    | some a =>
      have hid : a.id = id := Table.key_of_get? ha
      simp [hid]
      rfl
  · show ((beginAccountBalanceRefresh id s).2.accounts.get? id).map _ = _
    simp [SessionStore.fence, Function.comp_def, SessionAccount.fence]

theorem updateAccountTokens_fence (now : Time) (version : ℤ) (startedAt : Time)
    (credits : SessionAccount.Credits) :
    (updateAccountTokens now id version startedAt credits s).2.fence id =
      (s.fence id).map (Fence.write now version startedAt credits) := by
  have hrow : (updateAccountTokens now id version startedAt credits s).2.accounts.get? id =
      (s.accounts.get? id).map fun a =>
        if decide (a.id = id) && decide (a.balanceRefreshVersion = version) then
          a.withTokens now version startedAt credits
        else a :=
    Table.get?_updateWhere s.accounts _ (SessionAccount.withTokens now version startedAt credits)
      (fun _ => rfl) id
  rw [SessionStore.fence, hrow, SessionStore.fence]
  cases ha : s.accounts.get? id with
  | none => rfl
  | some a =>
    have hid : a.id = id := Table.key_of_get? ha
    by_cases hversion : a.balanceRefreshVersion = version
    · simp [hid, hversion, Fence.write, SessionAccount.fence, SessionAccount.withTokens,
        SessionAccount.balanceColumns]
    · simp [hid, hversion, Fence.write, SessionAccount.fence]

theorem updateAccountSession_fence (now : Time) (version : ℤ) (expiry startedAt : Time)
    (credits : SessionAccount.Credits) :
    (updateAccountSession now id version expiry startedAt credits "" s).2.fence id =
      (s.fence id).map (Fence.write now version startedAt credits) := by
  have hrow : (updateAccountSession now id version expiry startedAt credits "" s).2.accounts.get? id
      = (s.accounts.get? id).map fun a =>
        if decide (a.id = id) then a.withSession now version expiry startedAt credits "" else a :=
    Table.get?_updateWhere s.accounts _
      (SessionAccount.withSession now version expiry startedAt credits "") (fun _ => rfl) id
  rw [SessionStore.fence, hrow, SessionStore.fence]
  cases ha : s.accounts.get? id with
  | none => rfl
  | some a =>
    have hid : a.id = id := Table.key_of_get? ha
    by_cases hversion : a.balanceRefreshVersion = version
    · simp [hid, hversion, Fence.write, SessionAccount.fence, SessionAccount.withSession,
        SessionAccount.balanceColumns]
    · simp [hid, hversion, Fence.write, SessionAccount.fence, SessionAccount.withSession,
        SessionAccount.balanceColumns]

theorem adopt_fence {env : Env} {taskID leaseID accountID : UUID} {generationID : String}
    {result : JSON} {tokensAfter : Option ℤ} {db db' : Database} {b : Bool}
    (h : completeTaskOwned env taskID leaseID accountID generationID result tokensAfter
      (s.database db) = .ok (.commit b, db')) :
    (s.adopt db'.accounts).fence id = (s.fence id).map
      (Fence.charge (if id = accountID then db.heldFor taskID accountID else 0)) := by
  have hrow := completeTaskOwned_accounts h id
  have hheld : (s.database db).heldFor taskID accountID = db.heldFor taskID accountID := rfl
  have hbefore : (s.database db).accounts.get? id =
      (s.accounts.get? id).map SessionAccount.toAccount :=
    Table.get?_mapRows _ _ SessionAccount.toAccount_key _
  have hafter : (s.adopt db'.accounts).accounts.get? id =
      (s.accounts.get? id).map (SessionAccount.withLedger db'.accounts) :=
    Table.get?_mapRows _ _ (SessionAccount.withLedger_id _) _
  rw [SessionStore.fence, hafter, SessionStore.fence]
  rw [hheld, hbefore] at hrow
  cases ha : s.accounts.get? id with
  | none => rfl
  | some a =>
    have hid : a.id = id := Table.key_of_get? ha
    rw [ha] at hrow
    by_cases hcharged : id = accountID ∧ 0 < db.heldFor taskID accountID
    · rw [if_pos hcharged] at hrow
      simp only [Option.map_some] at hrow ⊢
      simp only [SessionAccount.withLedger, hid, hrow, if_pos hcharged.1, Fence.charge,
        if_pos hcharged.2]
      rfl
    · rw [if_neg hcharged] at hrow
      simp only [Option.map_some] at hrow ⊢
      simp only [SessionAccount.withLedger, hid, hrow, Fence.charge]
      by_cases heq : id = accountID
      · have hzero : ¬ 0 < db.heldFor taskID accountID := fun hpos => hcharged ⟨heq, hpos⟩
        simp only [if_pos heq, if_neg hzero]
      · simp only [if_neg heq, lt_irrefl, if_false]

end Statements

end GenerationGateway

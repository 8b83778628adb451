import GenerationGateway.Store.Statements

/-!
# Operations under an execution lease

Every operation starts with an update of the task that is guarded by the lease
and by the status, and goes on only when that update found its row. The lemma
about an operation names the guard and the exact change of the task's rows; the
rows of other tasks change only by the wake-up at the end.
-/

namespace GenerationGateway

open Relational

/-- `if ct.RowsAffected() == 0 { return false, nil }`, otherwise go on. -/
def onRow (row : Tx (Option Task)) (rest : Task → Tx (Ending Bool)) : Tx (Ending Bool) := do
  match ← row with
  | none => return .rollback false
  | some t => rest t

theorem onRow_commit {row : Tx (Option Task)} {rest : Task → Tx (Ending Bool)} {b : Bool}
    {db db' : Database} (h : onRow row rest db = .ok (.commit b, db')) :
    ∃ t db₁, row db = .ok (some t, db₁) ∧ rest t db₁ = .ok (.commit b, db') := by
  obtain ⟨x, db₁, h₁, h₂⟩ := bind_eq_ok.mp h
  cases x with
  | none => cases h₂
  | some t => exact ⟨t, db₁, h₁, h₂⟩

theorem onRow_of_none {row : Tx (Option Task)} {rest : Task → Tx (Ending Bool)} {db : Database}
    (h : row db = .ok (none, db)) : onRow row rest db = .ok (.rollback false, db) :=
  bind_eq_ok.mpr ⟨none, db, h, rfl⟩

/-- `Scan` of `account_id` into a `uuid.UUID`, which fails on null. -/
def scanAccount {α : Type} (t : Task) (rest : UUID → Tx α) : Tx α :=
  match t.accountID with
  | none => throw .nullColumn
  | some account => rest account

theorem scanAccount_ok {α : Type} {t : Task} {rest : UUID → Tx α} {db : Database}
    {r : α × Database} (h : scanAccount t rest db = .ok r) :
    ∃ account, t.accountID = some account ∧ rest account db = .ok r := by
  cases hacc : t.accountID with
  | none =>
    simp only [scanAccount, hacc] at h
    cases h
  | some account =>
    simp only [scanAccount, hacc] at h
    exact ⟨account, rfl, h⟩

def defaultLease : Time := minutes 16

def renewTaskLease (env : Env) (id leaseID : UUID) (lease : Time) : Tx (Ending Bool) :=
  let expiresAt := env.wall + if lease ≤ 0 then defaultLease else lease
  onRow (updateTask id (fun t => t.leasedTo leaseID env.now && t.status.executing)
    (fun t => { t with executionLeaseExpiresAt := some expiresAt }) fun _ => rfl) fun _ => do
  let _ ← extendReservation id fun _ => expiresAt
  return .commit true

/-- A yield goes back to the queue, or to polling once there is a generation. -/
def Task.yield (t : Task) : Task :=
  { t.clearLease with status := if t.generationID = "" then .queued else .polling }

/-- The tasks that may be yielded: a submitted task only with a generation id. -/
def Task.yieldable (t : Task) : Bool :=
  t.status = .reserving || t.status = .uploading || t.status = .polling ||
    (t.status = .submitted && t.generationID ≠ "")

def yieldTaskLease (env : Env) (id leaseID : UUID) (retryAt : Time) : Tx (Ending Bool) :=
  onRow (updateTask id (fun t => t.leasedTo leaseID env.now && t.yieldable) Task.yield
    fun _ => rfl) fun task => do
  let _ ← extendReservation id fun e => max e (retryAt + minutes 20)
  upsertOutbox { OutboxRow.new env id task.kind with nextAttemptAt := retryAt }
    (OutboxRow.reset retryAt) fun _ => rfl
  wakeAccount env task.accountID task.apiKeyID
  return .commit true

/-- `EXISTS` an enabled, undrifted price rule of the task's provider. -/
def pricingActive (db : Database) (t : Task) : Bool :=
  t.pricingRuleID.any fun id =>
    (db.costRules.get? id).any fun r => r.providerID = t.providerID && r.active

/-- The arguments of `updateTaskOwned`. -/
structure TaskUpdate where
  status : TaskStatus
  progress : ℤ
  accountID : Option UUID
  generationID : String
  result : Option JSON
  code : String
  message : String
  upstreamRequest : Option JSON
  upstreamDeadline : Option Time

/-- `COALESCE`. -/
def coalesce {α : Type} (a b : Option α) : Option α := a.orElse fun _ => b

/-- `CASE WHEN $1='{}'::jsonb THEN old ELSE $1 END`. -/
def replaceJSON (new : Option JSON) (old : JSON) : JSON :=
  let body := new.getD emptyObject
  if body = emptyObject then old else body

def Task.update (now : Time) (u : TaskUpdate) (t : Task) : Task :=
  { t with
    status := u.status
    progress := u.progress
    accountID := coalesce u.accountID t.accountID
    generationID := if u.generationID = "" then t.generationID else u.generationID
    submittedAt := if u.status = .submitted then coalesce t.submittedAt (some now)
      else t.submittedAt
    result := replaceJSON u.result t.result
    errorCode := u.code
    errorMessage := u.message
    upstreamRequest := replaceJSON u.upstreamRequest t.upstreamRequest
    upstreamDeadlineAt := coalesce t.upstreamDeadlineAt u.upstreamDeadline
    lastUpstreamStatusAt :=
      if (u.status = .submitted ∨ u.status = .polling) ∧ u.generationID ≠ "" then some now
      else t.lastUpstreamStatusAt
    unknownStatusCount :=
      if u.status = .polling ∧ u.generationID ≠ "" then t.unknownStatusCount + 1
      else t.unknownStatusCount
    reconciliationReason :=
      if u.status = .submissionUncertain then u.message else t.reconciliationReason
    completedAt := if u.status.terminal then some now else t.completedAt
    executionLeaseID := if u.status.terminal then none else t.executionLeaseID
    executionLeaseExpiresAt := if u.status.terminal then none else t.executionLeaseExpiresAt }

/-- The updates that the workers issue: polling only with a generation id. -/
def TaskUpdate.issued (u : TaskUpdate) : Prop :=
  u.status = .uploading ∨ u.status = .submitted ∨
    u.status = .polling ∧ u.generationID ≠ "" ∨ u.status = .submissionUncertain

/-- A first submission needs an active price rule. -/
def Task.updatable (db : Database) (u : TaskUpdate) (t : Task) : Bool :=
  !t.status.terminal &&
    (u.status ≠ .submitted || t.generationID ≠ "" || u.generationID ≠ "" || pricingActive db t)

def markSubmitted (env : Env) (u : TaskUpdate) : Tx Unit :=
  match u.accountID with
  | some account =>
    if u.status = .submitted then
      updateAccount account (fun a => { a with lastSubmittedAt := some env.now }) fun _ => rfl
    else return ()
  | none => return ()

def updateTaskOwned (env : Env) (id leaseID : UUID) (u : TaskUpdate) : Tx (Ending Bool) := do
  let db ← get
  onRow (updateTask id (fun t => t.leasedTo leaseID env.now && t.updatable db u)
    (Task.update env.now u) fun _ => rfl) fun task => do
  markSubmitted env u
  if u.status.terminal then
    deliverOutbox env id
    wakeAccount env task.accountID task.apiKeyID
  return .commit true

/-- Records the exact provider request and advances the leased task to submitted. -/
def prepareTaskSubmissionWithDeadlineOwned (env : Env) (id leaseID accountID : UUID)
    (upstreamRequest : Option JSON) (upstreamDeadline : Time) : Tx (Ending Bool) :=
  updateTaskOwned env id leaseID
    { status := .submitted, progress := 20, accountID := some accountID, generationID := ""
      result := none, code := "", message := "", upstreamRequest := upstreamRequest
      upstreamDeadline := some upstreamDeadline }

def prepareTaskSubmissionOwned (env : Env) (id leaseID accountID : UUID)
    (upstreamRequest : Option JSON) : Tx (Ending Bool) :=
  prepareTaskSubmissionWithDeadlineOwned env id leaseID accountID upstreamRequest
    (env.wall + minutes 30)

def updateTaskTokensOwned (env : Env) (id leaseID : UUID) (before after : Option ℤ) :
    Tx (Ending Bool) :=
  onRow (updateTask id (fun t => t.leasedTo leaseID env.now && t.status.executing)
    (fun t => { t with
      tokensBefore := coalesce before t.tokensBefore
      tokensAfter := coalesce after t.tokensAfter }) fun _ => rfl) fun _ =>
  return .commit true

def recordTaskSubmissionOwned (env : Env) (id leaseID accountID : UUID) (generationID : String)
    (upstreamReportedCost : Option ℚ) : Tx (Ending Bool) :=
  if generationID = "" then throw .generationIDRequired
  else
    onRow (updateTask id (fun t => t.leasedTo leaseID env.now && decide (t.status = .submitted))
      (fun t => { t with
        status := .submitted
        progress := 0
        accountID := some accountID
        generationID := generationID
        upstreamReportedCost := coalesce upstreamReportedCost t.upstreamReportedCost })
      fun _ => rfl) fun _ =>
    return .commit true

def recordTaskUpstreamStatusOwned (env : Env) (id leaseID : UUID) (known : Bool) :
    Tx (Ending Bool) :=
  onRow (updateTask id
    (fun t => t.leasedTo leaseID env.now && decide (t.generationID ≠ "") &&
      (t.status = .submitted || t.status = .polling))
    (fun t => { t with
      lastUpstreamStatusAt := some env.now
      unknownStatusCount := if known then t.unknownStatusCount else t.unknownStatusCount + 1 })
    fun _ => rfl) fun _ =>
  return .commit true

def Task.succeed (now : Time) (accountID : UUID) (generationID : String) (result : JSON)
    (tokensAfter : Option ℤ) (t : Task) : Task :=
  { t.clearLease with
    status := .succeeded
    progress := 100
    accountID := some accountID
    generationID := if generationID = "" then t.generationID else generationID
    result := result
    tokensAfter := coalesce tokensAfter t.tokensAfter
    errorCode := ""
    errorMessage := ""
    completedAt := some now }

/-- Subscription credits are spent first, then rollover, then paid credits. -/
def Account.charge (tokens : ℕ) (a : Account) : Account :=
  { a with
    subscriptionTokens := max 0 (a.subscriptionTokens - tokens)
    rolloverTokens := max 0 (a.rolloverTokens - max 0 (tokens - a.subscriptionTokens))
    paidTokens :=
      max 0 (a.paidTokens - max 0 (tokens - a.subscriptionTokens - a.rolloverTokens)) }

def consumedAt (now : Time) (r : Reservation) : Settlement := ⟨.consumed, r.estimatedTokens, 0, now⟩

/-- The statement that consumes the hold and charges the account. -/
def consumeReservation (env : Env) (id accountID : UUID) : Tx Unit := do
  let consumed ← settleReservation id (fun r => r.accountID = accountID) (consumedAt env.now)
    "local_ledger_consumed"
  match consumed with
  | none => return ()
  | some r =>
    if 0 < r.estimatedTokens then
      updateAccount accountID (Account.charge r.estimatedTokens) fun _ => rfl
    else return ()

def completeTaskOwned (env : Env) (id leaseID accountID : UUID) (generationID : String)
    (result : JSON) (tokensAfter : Option ℤ) : Tx (Ending Bool) :=
  onRow (updateTask id
    (fun t => t.leasedTo leaseID env.now && (t.status = .submitted || t.status = .polling))
    (Task.succeed env.now accountID generationID result tokensAfter) fun _ => rfl) fun task => do
  consumeReservation env id accountID
  deliverOutbox env id
  wakeQueuedTasksTx env accountID task.apiKeyID
  return .commit true

/-- `SET status='failed',progress=100,error_code=…,completed_at=now()`. -/
def Task.fail (now : Time) (code message : String) (t : Task) : Task :=
  { t with
    status := .failed, progress := 100, errorCode := code, errorMessage := message
    completedAt := some now }

def failTaskOwned (env : Env) (id leaseID : UUID) (code message : String) (details : Option JSON)
    (tokensAfter : Option ℤ) : Tx (Ending Bool) :=
  onRow (updateTask id
    (fun t => t.leasedTo leaseID env.now && decide (t.generationID = "") && !t.status.terminal)
    (fun t => { (t.fail env.now code message).clearLease with
      errorDetails := details.getD emptyObject
      tokensAfter := coalesce tokensAfter t.tokensAfter }) fun _ => rfl) fun task => do
  let _ ← releaseReservation env id code
  deliverOutbox env id
  wakeAccount env task.accountID task.apiKeyID
  return .commit true

/-- Reserved for an explicit upstream terminal FAILED status. -/
def failSubmittedTaskOwned (env : Env) (id leaseID : UUID) (code message : String)
    (details : Option JSON) : Tx (Ending Bool) :=
  onRow (updateTask id
    (fun t => t.leasedTo leaseID env.now && decide (t.generationID ≠ "") &&
      (t.status = .submitted || t.status = .polling))
    (fun t => { (t.fail env.now code message).clearLease with
      errorDetails := details.getD emptyObject }) fun _ => rfl) fun task =>
  scanAccount task fun account => do
  let _ ← releaseReservation env id code
  deliverOutbox env id
  wakeQueuedTasksTx env account task.apiKeyID
  return .commit true

end GenerationGateway

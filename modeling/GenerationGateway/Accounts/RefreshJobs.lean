import GenerationGateway.Accounts.Traffic

/-!
# The queue of session refreshes

A refresh job is leased to one worker under a token. Each operation is one statement, or
a transaction that locks the job and its account before it decides, so each is one step.
The imports of cookie documents and browser sessions write the account beside it.
-/

namespace GenerationGateway

open Relational

namespace SessionRefreshJob

/-- `status IN ('pending','leased')`. -/
def active (j : SessionRefreshJob) : Bool :=
  decide (j.status = .pending) || decide (j.status = .leased)

def queued (id accountID : UUID) (stage : RefreshStage) (priority : ℤ) (now : Time) :
    SessionRefreshJob where
  id := id
  accountID := accountID
  stage := stage
  status := .pending
  priority := priority
  nextAttemptAt := now
  attemptCount := 0
  leaseOwner := ""
  leaseToken := none
  leaseStartedAt := none
  leaseExpiresAt := none
  lastError := ""
  completedAt := none
  createdAt := now

/-- A job that is enqueued again is raised. -/
def raised (now : Time) (priority : ℤ) (stage : RefreshStage) (j : SessionRefreshJob) :
    SessionRefreshJob :=
  { j with
    stage := if stage = .browser then .browser else j.stage
    priority := max j.priority priority
    nextAttemptAt := min j.nextAttemptAt now }

def leased (now : Time) (owner : String) (leaseToken : UUID) (lease : Time)
    (j : SessionRefreshJob) : SessionRefreshJob :=
  { j with
    status := .leased
    leaseOwner := owner
    leaseToken := some leaseToken
    leaseStartedAt := some now
    leaseExpiresAt := some (now + lease)
    attemptCount := j.attemptCount + 1 }

/-- `status='leased' AND lease_expires_at<=now()`. -/
def leaseExpired (now : Time) (j : SessionRefreshJob) : Bool :=
  decide (j.status = .leased) && j.leaseExpiresAt.any fun e => e ≤ now

def recovered (now : Time) (j : SessionRefreshJob) : SessionRefreshJob :=
  { j.released with
    status := .pending
    nextAttemptAt := now
    lastError := if j.lastError = "" then "worker lease expired" else j.lastError }

def browserRequired (now : Time) (message : String) (j : SessionRefreshJob) : SessionRefreshJob :=
  { j.released with
    stage := .browser, status := .pending, nextAttemptAt := now, lastError := message }

def deferred (now retryAfter : Time) (message : String) (j : SessionRefreshJob) :
    SessionRefreshJob :=
  { j.released with
    status := .pending
    nextAttemptAt := now + retryAfter
    attemptCount := j.attemptCount - 1
    lastError := message }

def archived (now : Time) (j : SessionRefreshJob) : SessionRefreshJob :=
  { j.released with status := .cancelled, completedAt := some now, lastError := "account archived" }

def sessionRefreshBalanceRetry : Time := seconds 30
def sessionRefreshRotationRetryAhead : Time := minutes 5

/-- The branches of `CompleteSessionRefreshJob`. -/
def completed (now minFresh tokenExpiresAt leaseStartedAt : Time) (a : SessionAccount)
    (j : SessionRefreshJob) : SessionRefreshJob :=
  if a.pendingCookieJSON ≠ "" then j.tryCookies now
  else if tokenExpiresAt ≤ now + minFresh then
    { j.released with
      stage := .browser
      status := .pending
      nextAttemptAt := max (tokenExpiresAt - sessionRefreshRotationRetryAhead) (now + minutes 1)
      attemptCount := j.attemptCount - 1
      lastError := "browser authenticated; JWT rotation deferred by upstream"
      completedAt := none }
  else if a.lastCheckedAt.any fun t => leaseStartedAt ≤ t then
    { j.released with
      status := .succeeded, nextAttemptAt := now, lastError := "", completedAt := some now }
  else
    { j.released with
      stage := .cookie
      status := .pending
      nextAttemptAt := now + sessionRefreshBalanceRetry
      lastError := "session restored; balance refresh deferred"
      completedAt := none }

/-- `ORDER BY j.priority DESC,j.next_attempt_at,j.created_at`. -/
def before (j k : SessionRefreshJob) : Bool :=
  decide (k.priority < j.priority) || decide (j.priority = k.priority) &&
    (decide (j.nextAttemptAt < k.nextAttemptAt) ||
      decide (j.nextAttemptAt = k.nextAttemptAt) && decide (j.createdAt < k.createdAt))

end SessionRefreshJob

namespace SessionAccount

/-- `archived_at IS NULL AND session_refresh_enabled=true`. -/
def refreshable (a : SessionAccount) : Bool := a.archivedAt.isNone && a.sessionRefreshEnabled

/-- The account of a completed refresh. -/
def refreshSucceeded (a : SessionAccount) : SessionAccount :=
  { a with sessionRefreshFailures := 0, sessionRefreshNotBefore := none }

end SessionAccount

namespace SessionStore

def activeJob (s : SessionStore) (accountID : UUID) : Option SessionRefreshJob :=
  s.jobs.rows.find? fun j => decide (j.accountID = accountID) && j.active

/-- The WHERE of `ClaimSessionRefreshJob`; `skip` are the rows that others have locked. -/
def claimable (s : SessionStore) (now : Time) (stage : RefreshStage) (workerGroup : String)
    (skip : UUID → Bool) (j : SessionRefreshJob) : Bool :=
  decide (j.status = .pending) && decide (j.stage = stage) && decide (j.nextAttemptAt ≤ now) &&
    (s.accounts.get? j.accountID).any (fun a => a.refreshable &&
      (decide (workerGroup = "") || decide (a.browserWorkerGroup = workerGroup))) &&
    !skip j.id

/-- `ORDER BY … LIMIT 1 FOR UPDATE SKIP LOCKED`. -/
def claimCandidate (s : SessionStore) (now : Time) (stage : RefreshStage) (workerGroup : String)
    (skip : UUID → Bool) : Option SessionRefreshJob :=
  let candidates := s.jobs.select (s.claimable now stage workerGroup skip)
  candidates.find? fun j => candidates.all fun k => !k.before j

/-- The accounts of `EnqueueDueSessionRefreshJobs`. `due` stands for the time windows of the
token and of the permission check, for their order and for the limit. -/
def dueAccounts (s : SessionStore) (now : Time) (due : SessionAccount → Bool) :
    List SessionAccount :=
  s.accounts.select fun a => a.refreshable && decide (a.status ≠ .disabled) &&
    decide (a.status ≠ .invalid) && (a.sessionRefreshNotBefore.all fun t => t ≤ now) &&
    (s.activeJob a.id).isNone && due a

end SessionStore

/-- `INSERT … ON CONFLICT DO NOTHING`: the key and the account's place among the active jobs
must be free. -/
def insertJob (j : SessionRefreshJob) : StateM SessionStore Unit := fun s =>
  match s.activeJob j.accountID, s.jobs.insert? j with
  | none, some jobs => ((), { s with jobs := jobs })
  | _, _ => ((), s)

def enqueueDueSessionRefreshJobs (now : Time) (due : SessionAccount → Bool)
    (newID : UUID → UUID) : StateM SessionStore Unit := do
  let s ← get
  (s.dueAccounts now due).forM fun a => insertJob (.queued (newID a.id) a.id .cookie 0 now)

/-- `none` is `ErrNotFound`. -/
def enqueueSessionRefreshJob (now : Time) (accountID : UUID) (priority : ℤ) (stage : RefreshStage)
    (newID : UUID) : StateM SessionStore (Option SessionRefreshJob) := do
  let s ← get
  if (s.accounts.get? accountID).any SessionAccount.refreshable then
    insertJob (.queued newID accountID stage priority now)
  match (← get).activeJob accountID with
  | none => return none
  | some job =>
    updateJob job.id (fun j => if j.status = .pending then j.raised now priority stage else j)
      fun j => by split <;> rfl
    return (← get).jobs.get? job.id

def recoverExpiredSessionRefreshJobs (now : Time) : StateM SessionStore ℕ := fun s =>
  (s.jobs.count (SessionRefreshJob.leaseExpired now), { s with
    jobs := s.jobs.updateWhere (SessionRefreshJob.leaseExpired now)
      (SessionRefreshJob.recovered now) fun _ => rfl })

def claimSessionRefreshJob (now : Time) (stage : RefreshStage) (owner workerGroup : String)
    (lease : Time) (leaseToken : UUID) (skip : UUID → Bool) :
    StateM SessionStore (Option SessionRefreshJob) := do
  let s ← get
  match s.claimCandidate now stage workerGroup skip with
  | none => return none
  | some candidate =>
    updateJob candidate.id (SessionRefreshJob.leased now owner leaseToken lease) fun _ => rfl
    return (← get).jobs.get? candidate.id

def extendSessionRefreshLease (now : Time) (id leaseToken : UUID) (lease : Time) :
    StateM SessionStore Bool := do
  let s ← get
  if (s.leasedJob id leaseToken).any fun j => j.leaseExpiresAt.any fun e => now < e then
    updateJob id (fun j => { j with leaseExpiresAt := some (now + lease) }) fun _ => rfl
    return true
  else return false

/-- `UPDATE … SET f WHERE id=$1 AND status='leased' AND lease_token=$2`; `none` is
`ErrNotFound`. -/
def updateLeasedJob (id leaseToken : UUID) (f : SessionRefreshJob → SessionRefreshJob)
    (hf : ∀ j, (f j).id = j.id) : StateM SessionStore (Option Unit) := do
  let s ← get
  match s.leasedJob id leaseToken with
  | none => return none
  | some _ =>
    updateJob id f hf
    return some ()

def requireBrowserSessionRefresh (now : Time) (id leaseToken : UUID) (message : String) :
    StateM SessionStore (Option Unit) :=
  updateLeasedJob id leaseToken
    (SessionRefreshJob.browserRequired now (truncateRefreshError message)) fun _ => rfl

def deferSessionRefreshJob (now : Time) (id leaseToken : UUID) (retryAfter : Time)
    (message : String) : StateM SessionStore (Option Unit) :=
  updateLeasedJob id leaseToken
    (SessionRefreshJob.deferred now (if retryAfter < seconds 1 then seconds 1 else retryAfter)
      (truncateRefreshError message)) fun _ => rfl

theorem SessionRefreshJob.completed_id (now minFresh tokenExpiresAt leaseStartedAt : Time)
    (a : SessionAccount) (j : SessionRefreshJob) :
    (j.completed now minFresh tokenExpiresAt leaseStartedAt a).id = j.id := by
  unfold completed
  split_ifs <;> rfl

/-- `none` is `ErrNotFound`, or a missing time that does not scan. -/
def completeSessionRefreshJob (now : Time) (id leaseToken : UUID) (minFresh : Time) :
    StateM SessionStore (Option Unit) := do
  let s ← get
  match s.leasedJob id leaseToken with
  | none => return none
  | some job =>
    match s.accounts.get? job.accountID with
    | none => return none
    | some a =>
      match a.accessTokenExpiresAt, job.leaseStartedAt with
      | some tokenExpiresAt, some leaseStartedAt =>
        if tokenExpiresAt ≤ now then return none
        else
          updateJob id (SessionRefreshJob.completed now minFresh tokenExpiresAt leaseStartedAt a)
            (SessionRefreshJob.completed_id now minFresh tokenExpiresAt leaseStartedAt a)
          let _ ← updateAccounts (fun a => a.id = job.accountID) SessionAccount.refreshSucceeded
            fun _ => rfl
          return some ()
      | _, _ => return none

/-- `ArchiveAccount` in the columns of the session; `inUse` is its check of tasks and
reservations. `none` is an error. -/
def SessionStore.archiveAccount (now : Time) (id : UUID) (inUse : Bool) :
    StateM SessionStore (Option Unit) := do
  let s ← get
  match s.accounts.get? id with
  | none => return none
  | some a =>
    if a.archivedAt.isSome || inUse then return none
    else
      set { s with
        jobs := s.jobs.updateWhere (fun j => decide (j.accountID = id) && j.active)
          (SessionRefreshJob.archived now) fun _ => rfl
        accounts := s.accounts.modify id (SessionAccount.archived now) fun _ => rfl }
      return some ()

/-! ### Cookie documents and browser sessions -/

/-- An encrypted cookie document with the SHA-256 of its text. -/
structure CookieDocument where
  ciphertext : String
  fingerprint : String
  ciphertext_ne : ciphertext ≠ ""
  fingerprint_ne : fingerprint ≠ ""

/-- The SET of `SetPendingAccountCookieJSON`. -/
def SessionAccount.withPendingCookies (document : CookieDocument) (a : SessionAccount) :
    SessionAccount :=
  { a with
    pendingCookieJSON := document.ciphertext, pendingFingerprint := document.fingerprint }

/-- The SET of `SetAccountCookieJSON`. -/
def SessionAccount.withCookies (ciphertext : String) (a : SessionAccount) : SessionAccount :=
  { a with cookieJSON := ciphertext, pendingCookieJSON := "", pendingFingerprint := "" }

def setPendingAccountCookieJSON (id : UUID) (document : CookieDocument) :
    StateM SessionStore ℕ :=
  updateAccounts (fun a => a.id = id) (SessionAccount.withPendingCookies document) fun _ => rfl

def setAccountCookieJSON (id : UUID) (ciphertext : String) : StateM SessionStore ℕ :=
  updateAccounts (fun a => a.id = id) (SessionAccount.withCookies ciphertext) fun _ => rfl

/-- The providers whose sessions need no browser. -/
def ProviderID.importsDirectly : ProviderID → Bool
  | adobe | creativefabrica => true
  | leonardo => false

/-- The write of `adminImportAccountCookieJSON`: the document is staged unless the account's
provider takes it over at once. -/
def importAccountCookieJSON (id : UUID) (document : CookieDocument) : StateM SessionStore Unit := do
  match (← get).accounts.get? id with
  | none => return ()
  | some a =>
    if a.providerID.importsDirectly then
      let _ ← setAccountCookieJSON id document.ciphertext
    else
      let _ ← setPendingAccountCookieJSON id document

/-- The cookies that `refreshCreativeFabricaWithTokens` writes back. -/
def storeCreativeFabricaCookies (id : UUID) (ciphertext : String) : StateM SessionStore Unit := do
  if ((← get).accounts.get? id).any fun a => a.providerID = .creativefabrica then
    let _ ← setAccountCookieJSON id ciphertext

/-- A session that a browser worker reports; `cookieJSON` is encrypted, or empty where the
worker sent none. -/
structure BrowserSession where
  cookieJSON : String
  cookieJSONSource : String
  cookieJSONFingerprint : String
  accessTokenExpiry : Time

namespace BrowserSession

def source (session : BrowserSession) : String :=
  if session.cookieJSON ≠ "" ∧ session.cookieJSONSource = "" then "browser"
  else session.cookieJSONSource

def promoteCookieJSON (session : BrowserSession) : Bool := session.source = "pending"

def persistCookieJSON (session : BrowserSession) : Bool :=
  decide (session.source = "pending") || decide (session.source = "active") ||
    decide (session.source = "browser")

end BrowserSession

/-- `none` is an error before the statement, `some false` a superseded document. -/
def importBrowserSession (now : Time) (id : UUID) (session : BrowserSession) :
    StateM SessionStore (Option Bool) := do
  if session.accessTokenExpiry ≤ now then return none
  else if session.promoteCookieJSON && decide (session.cookieJSONFingerprint = "") then return none
  else
    let updated ← updateAccountSessionCredentials now id session.cookieJSON
      session.persistCookieJSON session.promoteCookieJSON session.cookieJSONFingerprint
      session.accessTokenExpiry
    return some updated

end GenerationGateway

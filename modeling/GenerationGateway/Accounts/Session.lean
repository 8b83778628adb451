import GenerationGateway.Library.Reachability
import GenerationGateway.Library.Text
import GenerationGateway.Store.Schema

/-!
# Automatic operations on accounts

The updates that the session refresh, the workers and the scheduler make without an
administrator. Each is one `UPDATE accounts` whose CASE expressions decide what a row
keeps, so each is a function on the row.
-/

namespace GenerationGateway

open Relational Transitions

/-- An account with the columns of its session. -/
structure SessionAccount extends Account where
  sessionRefreshEnabled : Bool
  browserWorkerGroup : String
  cookieJSON : String
  pendingCookieJSON : String
  pendingFingerprint : String
  balanceRefreshVersion : ℤ
  balanceSnapshotVersion : ℤ
  balanceSnapshotStartedAt : Option Time
  sessionRefreshFailures : ℕ
  sessionRefreshNotBefore : Option Time

instance : Keyed UUID SessionAccount := ⟨fun a => a.id⟩

inductive RefreshStage
  | cookie | browser
  deriving DecidableEq

inductive RefreshStatus
  | pending | leased | succeeded | failed | cancelled
  deriving DecidableEq

/-- A row of `session_refresh_jobs`. -/
structure SessionRefreshJob where
  id : UUID
  accountID : UUID
  stage : RefreshStage
  status : RefreshStatus
  priority : ℤ
  nextAttemptAt : Time
  attemptCount : ℕ
  leaseOwner : String
  leaseToken : Option UUID
  leaseStartedAt : Option Time
  leaseExpiresAt : Option Time
  lastError : String
  completedAt : Option Time
  createdAt : Time

instance : Keyed UUID SessionRefreshJob := ⟨SessionRefreshJob.id⟩

/-- `lease_owner='',lease_token=NULL,lease_started_at=NULL,lease_expires_at=NULL`. -/
def SessionRefreshJob.released (j : SessionRefreshJob) : SessionRefreshJob :=
  { j with leaseOwner := "", leaseToken := none, leaseStartedAt := none, leaseExpiresAt := none }

structure SessionStore where
  accounts : Table SessionAccount
  jobs : Table SessionRefreshJob

/-- The statuses that `adminSetAccountStatus` accepts. -/
inductive AdminStatus
  | active | disabled
  deriving DecidableEq

def AdminStatus.status : AdminStatus → AccountStatus
  | active => .active
  | disabled => .disabled

/-- How `ReconcileTerminalReservationsForAccount` ends. -/
inductive ReconciliationOutcome
  | drift (expected observed : ℤ)
  | pending (expected observed unresolved : ℤ)
  | settled

namespace SessionAccount

/-- `status='rate_limited' AND cooldown_until>now()`. -/
def cooling (a : SessionAccount) (now : Time) : Bool :=
  decide (a.status = .rateLimited) && a.cooldownUntil.any fun c => now < c

/-- `access_token_expires_at IS NULL OR access_token_expires_at<=now()`. -/
def tokenExpired (a : SessionAccount) (now : Time) : Bool :=
  a.accessTokenExpiresAt.all fun e => e ≤ now

/-- `GREATEST(COALESCE(access_token_expires_at,$1),$1)`. -/
def laterExpiry (a : SessionAccount) (expiry : Time) : Time :=
  max (a.accessTokenExpiresAt.getD expiry) expiry

def checkpointError : String := "Leonardo HTTP 429: temporary Vercel security checkpoint"

/-- A limit that a new session does not lift. -/
def keepsLimit (a : SessionAccount) (now : Time) : Bool :=
  a.cooling now && decide (a.lastError ≠ checkpointError)

/-- The SET of `UpdateAccountSessionCredentials`. -/
def withCredentials (now : Time) (cookieJSON : String) (persist promote : Bool) (expiry : Time)
    (a : SessionAccount) : SessionAccount :=
  { a with
    accessTokenExpiresAt := some (if promote then expiry else a.laterExpiry expiry)
    cookieJSON := if persist && cookieJSON ≠ "" then cookieJSON else a.cookieJSON
    pendingCookieJSON := if promote && cookieJSON ≠ "" then "" else a.pendingCookieJSON
    pendingFingerprint := if promote && cookieJSON ≠ "" then "" else a.pendingFingerprint
    status :=
      if a.status = .disabled then a.status
      else if a.generationPermissionStatus = .blocked then .invalid
      else if a.keepsLimit now then a.status
      else .active
    lastError :=
      if a.status = .disabled then a.lastError
      else if a.generationPermissionStatus = .blocked then a.lastError
      else if a.keepsLimit now then a.lastError
      else ""
    cooldownUntil :=
      if a.status = .disabled then a.cooldownUntil
      else if a.generationPermissionStatus = .blocked then none
      else if a.keepsLimit now then a.cooldownUntil
      else none
    sessionRefreshFailures := 0
    sessionRefreshNotBefore := none }

/-- The credits of a snapshot. -/
structure Credits where
  subscription : ℤ
  rollover : ℤ
  paid : ℤ

/-- The SET of `UpdateAccountSession`; its status does not look at the old one. -/
def withSession (now : Time) (balanceVersion : ℤ) (expiry snapshotStartedAt : Time)
    (credits : Credits) (lastErr : String) (a : SessionAccount) : SessionAccount :=
  let fresh := decide (a.balanceRefreshVersion = balanceVersion)
  let blocked := decide (a.generationPermissionStatus = .blocked)
  { a with
    accessTokenExpiresAt := some (a.laterExpiry expiry)
    subscriptionTokens := if fresh then credits.subscription else a.subscriptionTokens
    rolloverTokens := if fresh then credits.rollover else a.rolloverTokens
    paidTokens := if fresh then credits.paid else a.paidTokens
    lastError := if blocked then a.lastError else lastErr
    status := if blocked then .invalid else if lastErr ≠ "" then .invalid else .active
    cooldownUntil := none
    lastCheckedAt := if fresh then some now else a.lastCheckedAt
    balanceSnapshotVersion := if fresh then balanceVersion else a.balanceSnapshotVersion
    balanceSnapshotStartedAt := if fresh then some snapshotStartedAt else a.balanceSnapshotStartedAt }

/-- A state that a new balance leaves alone. -/
def keepsState (a : SessionAccount) (now : Time) : Bool :=
  decide (a.status = .disabled) || decide (a.status = .invalid) ||
    decide (a.generationPermissionStatus = .blocked) ||
    ((decide (a.status = .rateLimited) || decide (a.status = .cooldown)) &&
      a.cooldownUntil.any fun c => now < c)

/-- The SET of `UpdateAccountTokens`. -/
def withTokens (now : Time) (version : ℤ) (snapshotStartedAt : Time) (credits : Credits)
    (a : SessionAccount) : SessionAccount :=
  { a with
    subscriptionTokens := credits.subscription
    rolloverTokens := credits.rollover
    paidTokens := credits.paid
    lastError := if a.keepsState now then a.lastError else ""
    status := if a.keepsState now then a.status else .active
    cooldownUntil := if a.keepsState now then a.cooldownUntil else none
    lastCheckedAt := some now
    balanceSnapshotVersion := version
    balanceSnapshotStartedAt := some snapshotStartedAt }

/-- The SET of `BeginAccountBalanceRefresh`. -/
def withNextVersion (a : SessionAccount) : SessionAccount :=
  { a with balanceRefreshVersion := a.balanceRefreshVersion + 1 }

/-- The SET of `FailSessionRefreshJob`: a cooldown once the token has expired. -/
def refreshFailed (now retryAfter : Time) (message : String) (a : SessionAccount) :
    SessionAccount :=
  let cools := decide (a.status ≠ .disabled) && a.tokenExpired now
  { a with
    sessionRefreshFailures := a.sessionRefreshFailures + 1
    sessionRefreshNotBefore := some (now + retryAfter)
    lastError := if a.tokenExpired now then message else a.lastError
    status := if cools then .cooldown else a.status
    cooldownUntil := if cools then some (now + retryAfter) else a.cooldownUntil }

/-- The SET of `TerminalFailSessionRefreshJob`. -/
def refreshFailedForGood (now : Time) (message : String) (a : SessionAccount) : SessionAccount :=
  { a with
    sessionRefreshFailures := a.sessionRefreshFailures + 1
    sessionRefreshNotBefore := none
    lastError := if a.tokenExpired now then message else a.lastError
    status :=
      if a.status = .disabled then a.status
      else if a.tokenExpired now then .invalid
      else a.status
    cooldownUntil := if a.tokenExpired now then none else a.cooldownUntil }

/-- `GREATEST` of two cooldowns, either of which may be missing. -/
def laterCooldown (a : SessionAccount) (cooldown : Option Time) : Option Time :=
  match a.cooldownUntil, cooldown with
  | none, cooldown => cooldown
  | some c, none => some c
  | some c, some d => some (max c d)

/-- The SET of `SetAccountError`. -/
def withError (now : Time) (status : AccountStatus) (message : String) (cooldown : Option Time)
    (a : SessionAccount) : SessionAccount :=
  let final := decide (a.status = .disabled) || decide (a.status = .invalid)
  let stays := a.cooling now && decide (status = .cooldown)
  { a with
    status := if final then a.status else if stays then a.status else status
    lastError := if final then a.lastError else if stays then a.lastError else message
    cooldownUntil := if final then a.cooldownUntil else a.laterCooldown cooldown }

/-- The SET of `SetGenerationPermission`. -/
def withPermission (permission : GenerationPermission) (message : String) (a : SessionAccount) :
    SessionAccount :=
  let restored := decide (permission = .verified) &&
    decide (a.generationPermissionStatus = .blocked) && decide (a.status = .invalid)
  { a with
    generationPermissionStatus := permission
    status :=
      if a.status = .disabled then a.status
      else if permission = .blocked then .invalid
      else if restored then .active
      else a.status
    lastError :=
      if a.status = .disabled then a.lastError
      else if permission = .blocked then
        if message = "" then "generation permission was rejected by the provider" else message
      else if restored then ""
      else a.lastError
    cooldownUntil := if permission = .blocked then none else a.cooldownUntil }

/-- The WHERE of `ActivateExpiredAccountCooldowns`. -/
def cooldownOver (now : Time) (a : SessionAccount) : Bool :=
  a.archivedAt.isNone && (decide (a.status = .rateLimited) || decide (a.status = .cooldown)) &&
    a.cooldownUntil.any fun c => c ≤ now

def activated (a : SessionAccount) : SessionAccount :=
  { a with status := .active, lastError := "", cooldownUntil := none }

def archived (now : Time) (a : SessionAccount) : SessionAccount :=
  { a with
    archivedAt := some now
    status := .disabled
    sessionRefreshEnabled := false
    cooldownUntil := none }

/-- The columns that `CreateProviderAccount` leaves to their defaults. -/
def created (a : SessionAccount) : SessionAccount :=
  { a with
    status := .active
    generationPermissionStatus := .unknown
    cooldownUntil := none
    accessTokenExpiresAt := none
    lastCheckedAt := none
    subscriptionTokens := 0
    rolloverTokens := 0
    paidTokens := 0
    lastError := ""
    lastSubmittedAt := none
    archivedAt := none
    sessionRefreshEnabled := true
    browserWorkerGroup := "default"
    cookieJSON := ""
    pendingCookieJSON := ""
    pendingFingerprint := ""
    balanceRefreshVersion := 0
    balanceSnapshotVersion := 0
    balanceSnapshotStartedAt := none
    sessionRefreshFailures := 0
    sessionRefreshNotBefore := none }

/-- The SET of `SetAccountStatus`. -/
def withStatus (status : AdminStatus) (a : SessionAccount) : SessionAccount :=
  { a with status := status.status, cooldownUntil := none }

/-- `last_submitted_at=now()`. -/
def submitted (now : Time) (a : SessionAccount) : SessionAccount :=
  { a with lastSubmittedAt := some now }

def reconciliationPrefix : String := "balance reconciliation "

/-- The states in which a verdict may pause the account. -/
def pausable (a : SessionAccount) : Bool :=
  decide (a.status ≠ .disabled) && decide (a.status ≠ .invalid) && decide (a.status ≠ .rateLimited)

def paused (now delay : Time) (message : String) (a : SessionAccount) : SessionAccount :=
  if a.pausable then
    { a with status := .cooldown, cooldownUntil := some (now + delay), lastError := message }
  else a

/-- `status='cooldown' AND last_error LIKE 'balance reconciliation %'`. -/
def pausedByReconciliation (a : SessionAccount) : Bool :=
  decide (a.status = .cooldown) && a.lastError.startsWith reconciliationPrefix

def reconciled (now : Time) (outcome : ReconciliationOutcome) (a : SessionAccount) :
    SessionAccount :=
  match outcome with
  | .drift expected observed =>
    a.paused now (minutes 30) (reconciliationPrefix ++ "price drift: expected " ++
      toString expected ++ " credits, observed " ++ toString observed)
  | .pending expected observed unresolved =>
    a.paused now (seconds 30) (reconciliationPrefix ++ "pending: expected " ++
      toString expected ++ " credits, observed " ++ toString observed ++ ", unresolved up to " ++
      toString unresolved)
  | .settled =>
    if a.pausedByReconciliation then
      { a with status := .active, cooldownUntil := none, lastError := "" }
    else a

end SessionAccount

/-- A statement that reads the rows before it decides. -/
theorem read_store {α : Type} (next : SessionStore → StateM SessionStore α) (s : SessionStore) :
    (get >>= next) s = next s s := rfl

/-- `UPDATE accounts SET f WHERE p`; the number of rows. -/
def updateAccounts (p : SessionAccount → Bool) (f : SessionAccount → SessionAccount)
    (hf : ∀ a, (f a).id = a.id) : StateM SessionStore ℕ := fun s =>
  (s.accounts.count p, { s with accounts := s.accounts.updateWhere p f hf })

def updateJob (id : UUID) (f : SessionRefreshJob → SessionRefreshJob) (hf : ∀ j, (f j).id = j.id) :
    StateM SessionStore Unit := fun s => ((), { s with jobs := s.jobs.modify id f hf })

def updateAccountSessionCredentials (now : Time) (id : UUID) (cookieJSON : String)
    (persist promote : Bool) (fingerprint : String) (expiry : Time) : StateM SessionStore Bool := do
  let rows ← updateAccounts
    (fun a => decide (a.id = id) && (!promote || decide (a.pendingFingerprint = fingerprint)))
    (SessionAccount.withCredentials now cookieJSON persist promote expiry) fun _ => rfl
  return decide (rows = 1)

/-- `none` is `ErrNotFound`. -/
def updateAccountSession (now : Time) (id : UUID) (balanceVersion : ℤ)
    (expiry snapshotStartedAt : Time) (credits : SessionAccount.Credits) (lastErr : String) :
    StateM SessionStore (Option Bool) := do
  let _ ← updateAccounts (fun a => a.id = id)
    (SessionAccount.withSession now balanceVersion expiry snapshotStartedAt credits lastErr)
    fun _ => rfl
  return ((← get).accounts.get? id).map fun a => decide (a.balanceRefreshVersion = balanceVersion)

def updateAccountTokens (now : Time) (id : UUID) (version : ℤ) (snapshotStartedAt : Time)
    (credits : SessionAccount.Credits) : StateM SessionStore Bool := do
  let rows ← updateAccounts
    (fun a => decide (a.id = id) && decide (a.balanceRefreshVersion = version))
    (SessionAccount.withTokens now version snapshotStartedAt credits) fun _ => rfl
  return decide (rows = 1)

/-- `none` is `ErrNotFound`. -/
def beginAccountBalanceRefresh (id : UUID) : StateM SessionStore (Option ℤ) := do
  let _ ← updateAccounts (fun a => a.id = id) SessionAccount.withNextVersion fun _ => rfl
  return ((← get).accounts.get? id).map SessionAccount.balanceRefreshVersion

/-- `status='leased' AND lease_token=$2`. -/
def SessionRefreshJob.leasedTo (leaseToken : UUID) (j : SessionRefreshJob) : Bool :=
  decide (j.status = .leased) && decide (j.leaseToken = some leaseToken)

/-- The characters that fit into so many bytes. A text that the source cuts inside of a
character is rejected by the database, and the call changes nothing. -/
def takeBytes : ℕ → List Char → List Char
  | _, [] => []
  | bytes, c :: rest => if c.utf8Size ≤ bytes then c :: takeBytes (bytes - c.utf8Size) rest else []

def truncateRefreshError (message : String) : String :=
  String.ofList (takeBytes 1000 (Text.trimSpace message).toList)

/-- `SELECT … WHERE id=$1 AND status='leased' AND lease_token=$2`. -/
def SessionStore.leasedJob (s : SessionStore) (id leaseToken : UUID) : Option SessionRefreshJob :=
  (s.jobs.get? id).filter (SessionRefreshJob.leasedTo leaseToken)

def SessionRefreshJob.failed (now retryAfter : Time) (message : String) (j : SessionRefreshJob) :
    SessionRefreshJob :=
  { j.released with
    status := .pending, nextAttemptAt := now + retryAfter, lastError := message }

def SessionRefreshJob.failedForGood (now : Time) (message : String) (j : SessionRefreshJob) :
    SessionRefreshJob :=
  { j.released with status := .failed, lastError := message, completedAt := some now }

/-- A refresh failure is retried after a minute at least. -/
def refreshRetry (retryAfter : Time) : Time := if retryAfter < minutes 1 then minutes 1 else retryAfter

/-- `none` is `ErrNotFound`. -/
def failSessionRefreshJob (now : Time) (id leaseToken : UUID) (retryAfter : Time)
    (message : String) : StateM SessionStore (Option Unit) := do
  let message := truncateRefreshError message
  let retryAfter := refreshRetry retryAfter
  let s ← get
  match s.leasedJob id leaseToken with
  | none => return none
  | some job =>
    updateJob id (SessionRefreshJob.failed now retryAfter message) fun _ => rfl
    let _ ← updateAccounts (fun a => a.id = job.accountID)
      (SessionAccount.refreshFailed now retryAfter message) fun _ => rfl
    return some ()

/-- A job goes back to the browser while a cookie document is pending. -/
def SessionRefreshJob.tryCookies (now : Time) (j : SessionRefreshJob) : SessionRefreshJob :=
  { j.released with
    stage := .browser
    status := .pending
    nextAttemptAt := now
    attemptCount := j.attemptCount - 1
    lastError := "complete Cookie JSON pending browser validation"
    completedAt := none }

/-- A cookie document that nobody has tried yet. -/
def SessionAccount.untriedCookies (a : SessionAccount) (attemptedFingerprint : String) : Bool :=
  decide (a.pendingCookieJSON ≠ "") &&
    (decide (attemptedFingerprint = "") || decide (a.pendingFingerprint ≠ attemptedFingerprint))

/-- `none` is `ErrNotFound`. -/
def terminalFailSessionRefreshJob (now : Time) (id leaseToken : UUID)
    (message attemptedFingerprint : String) : StateM SessionStore (Option Unit) := do
  let message := truncateRefreshError message
  let s ← get
  match s.leasedJob id leaseToken with
  | none => return none
  | some job =>
    match s.accounts.get? job.accountID with
    | none => return none
    | some a =>
      if a.untriedCookies attemptedFingerprint then
        updateJob id (SessionRefreshJob.tryCookies now) fun _ => rfl
        return some ()
      else
        updateJob id (SessionRefreshJob.failedForGood now message) fun _ => rfl
        let _ ← updateAccounts (fun a => a.id = job.accountID)
          (SessionAccount.refreshFailedForGood now message) fun _ => rfl
        return some ()

/-- The statuses that the callers of `SetAccountError` report. -/
inductive AccountFault
  | invalid | rateLimited | cooldown
  deriving DecidableEq

def AccountFault.status : AccountFault → AccountStatus
  | invalid => .invalid
  | rateLimited => .rateLimited
  | cooldown => .cooldown

def setAccountError (now : Time) (id : UUID) (fault : AccountFault) (message : String)
    (cooldown : Option Time) : StateM SessionStore Unit := do
  let _ ← updateAccounts (fun a => a.id = id)
    (SessionAccount.withError now fault.status message cooldown) fun _ => rfl

def setGenerationPermission (id : UUID) (permission : GenerationPermission) (message : String) :
    StateM SessionStore Unit := do
  let _ ← updateAccounts (fun a => a.id = id)
    (SessionAccount.withPermission permission message) fun _ => rfl

def activateExpiredAccountCooldowns (now : Time) : StateM SessionStore ℕ :=
  updateAccounts (SessionAccount.cooldownOver now) SessionAccount.activated fun _ => rfl

/-! ### Runs -/

inductive AccountOperation
  | updateSessionCredentials (id : UUID) (cookieJSON : String) (persist promote : Bool)
    (fingerprint : String) (expiry : Time)
  | updateSession (id : UUID) (balanceVersion : ℤ) (expiry snapshotStartedAt : Time)
    (credits : SessionAccount.Credits) (lastErr : String)
  | updateTokens (id : UUID) (version : ℤ) (snapshotStartedAt : Time)
    (credits : SessionAccount.Credits)
  | failRefresh (job leaseToken : UUID) (retryAfter : Time) (message : String)
  | terminalFailRefresh (job leaseToken : UUID) (message attemptedFingerprint : String)
  | setError (id : UUID) (fault : AccountFault) (message : String) (cooldown : Option Time)
  | setPermission (id : UUID) (permission : GenerationPermission) (message : String)
  | activateExpired

def AccountOperation.apply (now : Time) : AccountOperation → SessionStore → SessionStore
  | updateSessionCredentials id cookieJSON persist promote fingerprint expiry, s =>
    (updateAccountSessionCredentials now id cookieJSON persist promote fingerprint expiry s).2
  | updateSession id balanceVersion expiry snapshotStartedAt credits lastErr, s =>
    (updateAccountSession now id balanceVersion expiry snapshotStartedAt credits lastErr s).2
  | updateTokens id version snapshotStartedAt credits, s =>
    (updateAccountTokens now id version snapshotStartedAt credits s).2
  | failRefresh job leaseToken retryAfter message, s =>
    (failSessionRefreshJob now job leaseToken retryAfter message s).2
  | terminalFailRefresh job leaseToken message attemptedFingerprint, s =>
    (terminalFailSessionRefreshJob now job leaseToken message attemptedFingerprint s).2
  | setError id fault message cooldown, s => (setAccountError now id fault message cooldown s).2
  | setPermission id permission message, s => (setGenerationPermission id permission message s).2
  | activateExpired, s => (activateExpiredAccountCooldowns now s).2

/-- The store at the time of its last operation. -/
structure AccountState where
  store : SessionStore
  clock : Time

inductive AccountEvent
  | operation (now : Time) (op : AccountOperation)
  | housekeeping (now : Time)

/-- The columns that decide about traffic, and the expiry of the token. -/
structure SessionAccount.Standing where
  status : AccountStatus
  generationPermissionStatus : GenerationPermission
  cooldownUntil : Option Time
  accessTokenExpiresAt : Option Time
  lastError : String
  archivedAt : Option Time

def SessionAccount.standing (a : SessionAccount) : SessionAccount.Standing :=
  ⟨a.status, a.generationPermissionStatus, a.cooldownUntil, a.accessTokenExpiresAt, a.lastError,
    a.archivedAt⟩

/-- One operation, or a change of refresh jobs, imported cookies and snapshot versions
between them. -/
def AccountStep (s : AccountState) : AccountEvent → AccountState → Prop
  | .operation now op, s' => s.clock ≤ now ∧ s' = ⟨op.apply now s.store, now⟩
  | .housekeeping now, s' => s.clock ≤ now ∧ s'.clock = now ∧
    ∀ id, (s'.store.accounts.get? id).map SessionAccount.standing =
      (s.store.accounts.get? id).map SessionAccount.standing

def automatic : LTS AccountState AccountEvent := ⟨AccountStep⟩

end GenerationGateway

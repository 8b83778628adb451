import GenerationGateway.Store.Signature

/-!
# ClaimTask

A worker owns a task from the commit of this transaction on. A queued task is
first checked against its price rule, moved to another account when its own is
not routeable, and compared with the rest of the queue and with the limits of
the account, the API key and the system; each refusal resets the outbox row and
commits. A task that is already in flight is only leased again.
-/

namespace GenerationGateway

open Effects

structure ClaimResult where
  task : Option Task
  leaseID : Option UUID
  claimed : Bool

def ClaimResult.refused (task : Option Task) : ClaimResult := ⟨task, none, false⟩

def deferQueuedTaskTx (id : UUID) (reason : String) (delay : Time) : Session Unit := do
  let delay := if delay < seconds 1 then seconds 1 else delay
  let wall : Time ← send .timeNow
  send (.deferQueued id (wall + delay) reason)

/-- Every refusal waits thirty seconds and commits the deferral. -/
def refuse (task : Task) (reason : String) : Session (Ending ClaimResult) := do
  deferQueuedTaskTx task.id reason (seconds 30)
  return .commit (.refused (some task))

/-- The target of the reroute; `none` when no account qualifies. -/
def rerouteQueuedTaskTx (policy : SchedulingPolicy) (task : Task) (oldAccountID : UUID)
    (estimatedTokens : ℕ) : Session (Option UUID) := do
  send (.advisoryLock ("aiv2api:provider-reroute:" ++ task.providerID.name))
  send (.lockAccount oldAccountID)
  match ← send (.chooseTarget ⟨task.providerID, task.kind, estimatedTokens, policy⟩ oldAccountID)
    with
  | none => return none
  | some targetID =>
    send (.moveReservation task.id targetID)
    return some targetID

/-- `if task.AccountID != nil` around the wake-up. -/
def wakeOwner (task : Task) : Session Unit :=
  match task.accountID with
  | none => return ()
  | some account => send (.wake account task.apiKeyID)

/-- The end of every successful claim: the lease, the reservation's expiry, the
outbox row and the wake-up. -/
def leaseTask (id leaseID : UUID) (expiresAt : Time) : Session (Ending ClaimResult) := do
  match ← send (.claimLease id leaseID expiresAt) with
  | none => return .rollback (.refused none)
  | some task =>
    send (.extendClaimed id expiresAt)
    send (.deliverPending id)
    wakeOwner task
    return .commit ⟨some task, some leaseID, true⟩

/-- The branch for a price rule that was disabled after admission. -/
def failUnpricedTask (task : Task) (accountID : UUID) : Session (Ending ClaimResult) := do
  send (.failUnpriced task.id)
  send (.releaseUnpriced task.id)
  send (.deliver task.id)
  send (.wake accountID task.apiKeyID)
  return .commit (.refused (some task))

/-- Locks the system capacity; the reason is empty when a task may execute. -/
def lockSystemExecution : Session (Bool × String) := do
  let config ← send .lockCapacity
  if config.executionPaused then return (false, "system execution is paused")
  else
    let executing : ℕ ← send .executing
    if config.maxExecuting ≤ executing then
      return (false, "system execution capacity is full (" ++ toString executing ++ "/" ++
        toString config.maxExecuting ++ ")")
    else return (true, "")

/-- The slot checks on the account and the reason recorded when they fail. -/
def ClaimAccountState.slotAvailable (s : ClaimAccountState) (kind : Kind)
    (earlierQueued videoQueued : Bool) : Bool × String :=
  let nonVideoLimit : ℤ := s.account.imageConcurrency - s.account.videoReservedSlots
  let reserved := kind ≠ .video && decide (s.account.routingRole = .videoReserved) && videoQueued
  let nonVideoFull := reserved && decide (nonVideoLimit ≤ s.usage.activeNonVideoTasks)
  let available := decide (s.usage.activeTasks < s.account.imageConcurrency) && !earlierQueued &&
    !nonVideoFull
  let reason :=
    if earlierQueued then "an earlier account task is still queued"
    else if nonVideoFull then "video-reserved execution capacity is waiting for video work"
    else "account execution capacity is full"
  (available, reason)

/-- The API key has a free execution slot; a limit of zero or less is none. -/
def keyAvailable (key : Option UUID) : Session Bool :=
  match key with
  | none => return true
  | some id => do
    let limit : ℤ ← send (.lockKeyConcurrency id)
    if 0 < limit then
      let active : ℕ ← send (.keyActive id)
      return decide ((active : ℤ) < limit)
    else return true

/-- The checks once the account is chosen and its state is read. -/
def claimOnAccount (task : Task) (accountID leaseID : UUID) (expiresAt : Time)
    (state : ClaimAccountState) : Session (Ending ClaimResult) := do
  let wall : Time ← send .timeNow
  if !state.routeable task.providerID wall then
    refuse task "reserved account balance or session snapshot is not routeable"
  else
    let (earlierQueued, videoQueued) ← send (.queueOrder accountID task)
    let (available, reason) := state.slotAvailable task.kind earlierQueued videoQueued
    if !available then refuse task reason
    else
      let keyFree ← keyAvailable task.apiKeyID
      if !keyFree then refuse task "API key execution capacity is full"
      else
        let (systemAvailable, systemReason) ← lockSystemExecution
        if !systemAvailable then refuse task systemReason
        else leaseTask task.id leaseID expiresAt

/-- A queued task: price rule, account, then the checks on that account. -/
def claimQueued (policy : SchedulingPolicy) (task : Task) (leaseID : UUID) (expiresAt : Time) :
    Session (Ending ClaimResult) :=
  match task.accountID with
  | none => fail .queuedTaskWithoutAccount
  | some accountID => do
    let estimatedTokens : ℕ ← send (.readEstimatedTokens task.id)
    let priced : Bool ← send (.readPricingActive task.id)
    if !priced then failUnpricedTask task accountID
    else
      let preview : ClaimAccountState ← send (.loadClaimAccount accountID false)
      let wall : Time ← send .timeNow
      if preview.routeable task.providerID wall then
        let state ← send (.loadClaimAccount accountID true)
        claimOnAccount task accountID leaseID expiresAt state
      else
        match ← rerouteQueuedTaskTx policy task accountID estimatedTokens with
        | none => refuse task "waiting for a healthy account with balance and execution capacity"
        | some targetID =>
          let state ← send (.loadClaimAccount targetID false)
          claimOnAccount (task.moveTo targetID) targetID leaseID expiresAt state

def claimTaskOnce (policy : SchedulingPolicy) (id leaseID : UUID) (lease : Time) :
    Session (Ending ClaimResult) := do
  let wall : Time ← send .timeNow
  let expiresAt := wall + if lease ≤ 0 then defaultLease else lease
  match ← send (.lockTask id) with
  | none => return .rollback (.refused none)
  | some task =>
    if task.status = .queued then claimQueued policy task leaseID expiresAt
    else leaseTask id leaseID expiresAt

end GenerationGateway

import GenerationGateway.Store.Signature

/-!
# Admission of a task

The candidate query orders the accounts from one snapshot; once the account's
lock is held, the balance and the capacity are read again in fresh statements,
and an account that no longer fits is excluded and its lock given back. The API
key and the system capacity are locked after the account, and the task, its
reservation and its outbox row are inserted together.
-/

namespace GenerationGateway

open Effects

/-- The arguments of an admission, with the id that `uuid.New()` gives the task
and the number of candidates tried before the request's context is done. -/
structure AdmissionRequest where
  id : UUID
  keyID : UUID
  providerID : ProviderID
  kind : Kind
  model : String
  prompt : String
  request : JSON
  hashRequest : JSON
  idempotencyKey : String
  estimatedTokens : ℕ
  pricingRuleID : ℤ
  lease : Time
  attempts : ℕ

def queuedReservationTTL : Time := hours 24

def Kind.name : Kind → String
  | image => "image"
  | video => "video"
  | audio => "audio"

/-- The kind and the hashed document separated by a colon. -/
def AdmissionRequest.hash (sha256 : String → String) (req : AdmissionRequest) : String :=
  sha256 (req.kind.name ++ ":" ++ req.hashRequest)

def AdmissionRequest.query (policy : SchedulingPolicy) (req : AdmissionRequest) : RoutingQuery :=
  ⟨req.providerID, req.kind, req.estimatedTokens, policy⟩

/-- The ten polls of the candidate query that pass over locked rows. -/
def pollCandidate (q : RoutingQuery) (excluded : List UUID) : ℕ → Session (Option UUID)
  | 0 => return none
  | attempts + 1 => do
    match ← send (.chooseCandidate q excluded true) with
    | some accountID => return some accountID
    | none => pollCandidate q excluded attempts

def nextCandidate (q : RoutingQuery) (excluded : List UUID) : Session (Option UUID) := do
  match ← pollCandidate q excluded 10 with
  | some accountID => return some accountID
  | none => send (.chooseCandidate q excluded false)

/-- The check under the account's lock. -/
def AccountLimits.admits (l : AccountLimits) (kind : Kind) (estimatedTokens reservationCount
    reserved : ℕ) : Bool :=
  let available := l.balance - reserved
  let spendable :=
    if kind ≠ .video ∧ (l.protectedTokens : ℤ) ≤ available then available - l.protectedTokens
    else available
  let capacity : ℤ :=
    if kind ≠ .video ∧ l.routingRole = .videoReserved then
      l.concurrency + l.queueCapacity - l.videoReservedSlots
    else l.concurrency + l.queueCapacity
  decide ((reservationCount : ℤ) < capacity) && decide ((estimatedTokens : ℤ) ≤ spendable)

/-- The candidate loop; `none` when the query returns no row. -/
def selectAccount (q : RoutingQuery) : ℕ → List UUID → Session (Option UUID)
  | 0, _ => fail .contextDone
  | attempts + 1, excluded => do
    send .savepoint
    match ← nextCandidate q excluded with
    | none =>
      send .releaseSavepoint
      return none
    | some accountID =>
      let (reservationCount, reserved) ← send (.reservedUsage accountID)
      let limits : AccountLimits ← send (.accountLimits accountID)
      if limits.admits q.kind q.estimatedTokens reservationCount reserved then
        send .releaseSavepoint
        return some accountID
      else
        send .rollbackToSavepoint
        send .releaseSavepoint
        selectAccount q attempts (excluded ++ [accountID])

/-- The error of an admission that found no account. -/
def diagnoseFailure {α : Type} (q : RoutingQuery) : Session α := do
  let (healthy, enoughBalance) ← send (.diagnose q)
  if healthy = 0 then fail .noHealthyAccount
  else if !enoughBalance then fail .insufficientPoolBalance
  else fail .accountQueueCapacity

/-- A queue at a watermark turns the overload mode on and refuses the task. -/
def checkWatermarks (config : SystemCapacityConfig) (queued : ℕ) :
    Session SystemCapacityConfig :=
  if config.maxQueued ≤ queued then do
    send (.setOverload true)
    fail .systemQueueCapacity
  else if config.queueHighWatermark ≤ queued then do
    send (.setOverload true)
    fail .systemOverloaded
  else return { config with overloadActive := false }

/-- Locks the system capacity and decides whether the queue takes another task.
Every refusal is an error, and the caller rolls its transaction back. -/
def lockSystemAdmission : Session SystemCapacityConfig := do
  let config : SystemCapacityConfig ← send .lockCapacity
  if config.maintenanceMode then fail .systemMaintenance
  else
    let queued : ℕ ← send .queued
    if config.overloadActive then
      if config.queueResumeWatermark < queued then fail .systemOverloaded
      else
        send (.setOverload false)
        checkWatermarks config queued
    else checkWatermarks config queued

/-- The row that the INSERT of an admission writes, with the column defaults;
`created_at` defaults to `now()`. -/
def AdmissionRequest.task (req : AdmissionRequest) (sha256 : String → String) (accountID : UUID)
    (queueDeadline now : Time) : Task where
  id := req.id
  providerID := req.providerID
  apiKeyID := some req.keyID
  accountID := some accountID
  kind := req.kind
  status := .queued
  progress := 0
  model := req.model
  prompt := req.prompt
  request := req.request
  requestHash := req.hash sha256
  idempotencyKey := if req.idempotencyKey = "" then none else some req.idempotencyKey
  upstreamRequest := emptyObject
  generationID := ""
  result := emptyObject
  errorCode := ""
  errorMessage := ""
  errorDetails := emptyObject
  tokensBefore := none
  tokensAfter := none
  cancelRequested := false
  estimatedTokens := req.estimatedTokens
  upstreamReportedCost := none
  pricingRuleID := some req.pricingRuleID
  createdAt := now
  startedAt := none
  submittedAt := none
  completedAt := none
  queueDeadlineAt := some queueDeadline
  upstreamDeadlineAt := none
  lastUpstreamStatusAt := none
  unknownStatusCount := 0
  reconciliationReason := ""
  executionLeaseID := none
  executionLeaseExpiresAt := none
  executionAttempt := 0

def AdmissionRequest.reservation (req : AdmissionRequest) (accountID : UUID) (expiresAt : Time) :
    Reservation where
  taskID := req.id
  accountID := accountID
  estimatedTokens := req.estimatedTokens
  settlement := none
  expiresAt := expiresAt
  releaseReason := ""

/-- A key limit below one counts as one. -/
def keyConcurrency (limit : ℤ) : ℤ := if limit < 1 then 1 else limit

/-- The key's task limit and the system queue, locked in this order after the
account. -/
def lockLimits (policy : SchedulingPolicy) (keyID : UUID) : Session SystemCapacityConfig := do
  let limit : ℤ ← send (.lockUsableKey keyID)
  let keyNonTerminal : ℕ ← send (.keyNonTerminal keyID)
  if keyConcurrency limit * (1 + policy.apiKeyQueueMultiplier) ≤ keyNonTerminal then
    fail .apiKeyCapacity
  else lockSystemAdmission

/-- The three inserts and the commit. -/
def insertAdmitted (sha256 : String → String) (req : AdmissionRequest) (accountID : UUID)
    (config : SystemCapacityConfig) : Session (Ending (Task × Bool)) := do
  let wall : Time ← send .timeNow
  let task : Task ← send (.insertTask
    (req.task sha256 accountID (wall + seconds config.queueTimeoutSeconds)))
  let lease := if req.lease < queuedReservationTTL then queuedReservationTTL else req.lease
  let wall : Time ← send .timeNow
  send (.insertReservation (req.reservation accountID (wall + lease)))
  send (.insertOutbox req.id req.kind)
  return .commit (task, true)

def admitNew (sha256 : String → String) (policy : SchedulingPolicy) (req : AdmissionRequest) :
    Session (Ending (Task × Bool)) := do
  let uncertain : ℕ ← send (.providerUncertain req.providerID)
  if policy.uncertainProviderLimit ≤ uncertain then fail .submissionCircuitOpen
  else
    let costRuleExists : Bool ← send (.costRuleExists req.pricingRuleID req.providerID)
    if !costRuleExists then fail .costRuleUnavailable
    else
      match ← selectAccount (req.query policy) req.attempts [] with
      | none => diagnoseFailure (req.query policy)
      | some accountID =>
        let config ← lockLimits policy req.keyID
        insertAdmitted sha256 req accountID config

/-- One attempt to admit a task. The second component of the answer says that a
task was created. -/
def createReservedTaskForProviderOnce (sha256 : String → String) (policy : SchedulingPolicy)
    (req : AdmissionRequest) : Session (Ending (Task × Bool)) :=
  if req.idempotencyKey = "" then admitNew sha256 policy req
  else do
    send (.advisoryLock (toString req.keyID ++ ":" ++ req.idempotencyKey))
    let existing : Option Task ← send (.findIdempotent req.keyID req.idempotencyKey)
    match existing with
    | none => admitNew sha256 policy req
    | some task =>
      if task.requestHash ≠ req.hash sha256 then fail .idempotencyKeyReused
      else return .commit (task, false)

end GenerationGateway

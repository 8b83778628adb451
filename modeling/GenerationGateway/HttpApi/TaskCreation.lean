import GenerationGateway.Domain.Requests
import GenerationGateway.Library.Text
import GenerationGateway.Store.Admitted

/-!
# Creation of a task by a request

Once the daily quota is taken, a handler runs the admission transaction with its
retries, reads the new task back, gives the quota back when there is none, and
answers; the files of the request are removed by a deferred function unless a
task was created. Every call may fail on its own, and the client may cancel the
request at any moment.
-/

namespace GenerationGateway

open Relational Effects

/-- An error of the database layer: the store error it wraps, its text, and whether
its SQL state is 40P01 or 40001. -/
structure CallError where
  cause : Option StoreError
  message : String
  retryable : Bool

/-- The error a handler reports: a `requestError`, or the error as it came. -/
inductive HandlerError
  | request (status : ℕ) (code message : String) (retryAfter : ℕ)
  | plain (message : String)

def CallError.routing (e : CallError) : HandlerError :=
  match e.cause with
  | some .insufficientPoolBalance => .request 402 "insufficient_pool_balance"
      "the account pool does not have enough available credits" 0
  | some .accountQueueCapacity => .request 503 "account_queue_full"
      "all eligible account queues are full" 8
  | some .apiKeyCapacity => .request 503 "api_key_capacity_exhausted"
      "this API key has reached its execution and waiting capacity" 8
  | some .systemMaintenance => .request 503 "system_maintenance"
      "the service is draining for maintenance and is not accepting new tasks" 60
  | some .systemQueueCapacity => .request 503 "system_queue_full"
      "the system waiting queue has reached its hard limit" 15
  | some .systemOverloaded => .request 503 "system_overloaded"
      "the system queue is above its overload watermark" 15
  | some .submissionCircuitOpen => .request 503 "provider_circuit_open"
      "provider submission uncertainty budget is exhausted" 60
  | some .noHealthyAccount => .request 503 "no_account"
      "no healthy account with a fresh balance is available" 60
  | some .costRuleUnavailable => .request 422 "cost_unavailable"
      "the selected price rule is no longer active" 0
  | _ => .plain e.message

inductive Response
  | task (status : ℕ) (task : Task)
  | error (status : ℕ) (code message : String) (retryAfter : ℕ)

def writeCreateTaskError : HandlerError → Response
  | .request status code message retryAfter => .error status code message retryAfter
  | .plain message =>
    if Text.contains message "idempotency" then .error 409 "idempotency_conflict" message 0
    else .error 400 "invalid_request" message 0

/-- The calls of a handler after the quota: `admission` is one transaction of an
attempt, and `rollbackQuota` the script of `rollbackDailyQuota`. -/
inductive HandlerCall
  | admission
  | backoff
  | getTask (id : UUID)
  | rollbackQuota (images : ℕ)
  | enqueueKind (taskID : UUID) (kind : Kind)
  | recordOutboxError (taskID : UUID) (message : String) (retryAfter : Time)
  | remove (asset : SourceMedia)

/-- What a call returns: `backoff` tells whether the delay has passed, and `enqueueKind`
the text of its error. -/
def HandlerCall.Res : HandlerCall → Type
  | admission => Except CallError (Task × Bool)
  | backoff => Bool
  | getTask _ => Except CallError Task
  | enqueueKind _ _ => Option String
  | _ => Unit

def handling : Signature := ⟨HandlerCall, HandlerCall.Res⟩

abbrev Handler := Prog handling

def invoke (op : HandlerCall) : Handler op.Res := Prog.perform (S := handling) op

/-- One attempt: a new task is read back after the commit. The flag that a task was
created, which the source returns beside an error too, is read by no caller then. -/
def createOnce : Handler (Except CallError (Task × Bool)) := do
  let outcome : Except CallError (Task × Bool) ← invoke .admission
  match outcome with
  | .error e => return .error e
  | .ok (task, false) => return .ok (task, false)
  | .ok (task, true) =>
    let readBack : Except CallError Task ← invoke (.getTask task.id)
    return readBack.map fun task => (task, true)

def retryable : Except CallError (Task × Bool) → Bool
  | .ok _ => false
  | .error e => e.retryable

/-- The retries after a serialization failure or a deadlock. -/
def createReservedTaskForProvider : ℕ → Handler (Except CallError (Task × Bool))
  | 0 => return .error ⟨none, "task admission retry loop exhausted", false⟩
  | attempts + 1 => do
    let result ← createOnce
    if !retryable result || attempts == 0 then return result
    else
      let elapsed : Bool ← invoke .backoff
      if elapsed then createReservedTaskForProvider attempts
      else return .error ⟨some .contextDone, "context canceled", false⟩

def maxAttempts : ℕ := 5

def rollbackDailyQuota (images : ℕ) : Handler Unit :=
  if images = 0 then return () else invoke (.rollbackQuota images)

/-- Best effort: the outbox row makes up for a queue that does not answer. -/
def enqueueTask (task : Task) : Handler Unit := do
  let failure : Option String ← invoke (.enqueueKind task.id task.kind)
  match failure with
  | none => return ()
  | some message => invoke (.recordOutboxError task.id message (seconds 5))

/-- The end of `createTask` and of `createVideoTask`, after `admitDailyQuota`. -/
def admitTask (images : ℕ) : Handler (Except HandlerError (Task × Bool)) := do
  match ← createReservedTaskForProvider maxAttempts with
  | .error e =>
    rollbackDailyQuota images
    return .error e.routing
  | .ok (task, false) =>
    rollbackDailyQuota images
    return .ok (task, false)
  | .ok (task, true) =>
    enqueueTask task
    return .ok (task, true)

/-- `n` defaults to one image; `createTask` has checked that it is not negative. -/
def ImageRequest.images (req : ImageRequest) : ℕ := if req.n = 0 then 1 else req.n.toNat

def createTask (req : ImageRequest) : Handler (Except HandlerError (Task × Bool)) :=
  admitTask req.images

def createVideoTask : Handler (Except HandlerError (Task × Bool)) := admitTask 1

def cleanup : List SourceMedia → Handler Unit
  | [] => return ()
  | asset :: assets => do
    invoke (.remove asset)
    cleanup assets

/-- The answer, and the deferred function that removes the files of a request that
created no task. -/
def respond (assets : List SourceMedia) : Except HandlerError (Task × Bool) → Handler Response
  | .error e => do
    cleanup assets
    return writeCreateTaskError e
  | .ok (task, false) => do
    cleanup assets
    return .task 200 task
  | .ok (task, true) => return .task 202 task

def createAsyncImage (req : ImageRequest) : Handler Response := do
  respond req.assets (← createTask req)

def videoGeneration (req : VideoRequest) : Handler Response := do
  respond req.assets (← createVideoTask)

end GenerationGateway

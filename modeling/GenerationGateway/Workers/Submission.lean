import GenerationGateway.Workers.Calls

/-!
# From the claim to the submission

What the workers of the three providers share on the way to the provider's generation
request: the checks that stop a run or give the task back to the queue, the uploads of
its references with their progress, and the three steps prepare, submit and record.
A helper whose call of `fail` returns no error returns none either, and its caller goes
on with what it has.
-/

namespace GenerationGateway

open Effects

/-- The providers other than Leonardo need no verified permission. -/
def submissionAccountRouteable (now : Time) (account : WorkerAccount) : Bool :=
  decide (account.status = .active) &&
    (if account.providerID = .leonardo then decide (account.generationPermissionStatus = .verified)
      else decide (account.generationPermissionStatus ≠ .blocked)) &&
    (account.cooldownUntil.all fun c => c ≤ now) &&
    (account.accessTokenExpiresAt.any fun e => now < e) && account.lastCheckedAt.isSome &&
    decide (account.reservedTokens ≤ account.totalTokens)

/-- The generation and the account of a task that was submitted before. -/
def Task.submittedGeneration (t : Task) : Option (GenerationID × UUID) :=
  match t.accountID with
  | none => none
  | some accountID =>
    if h : (t.status = .uploading ∨ t.status = .submitted ∨ t.status = .polling) ∧
        t.generationID ≠ "" then some (⟨t.generationID, h.2⟩, accountID)
    else none

/-- The account of a task that is to be submitted. -/
def Task.reservedAccount (t : Task) : Option UUID :=
  if t.status = .reserving then t.accountID else none

namespace Worker

/-! ### Checks -/

def routeableNow (account : WorkerAccount) : Work Bool := do
  let now : Time ← perform .timeNow
  return submissionAccountRouteable now account

/-- A step without which the task fails under this code. -/
def require (what : Check) (code : String) : Work Unit := do
  match ← perform (.check what) with
  | .error err => exit (fail code err)
  | .ok () => return ()

def validateTaskAPIKey (task : Task) : Work Returned := do
  match task.apiKeyID with
  | none => return none
  | some id =>
    match ← perform (.getAPIKey id) with
    | .error err => return some err
    | .ok () => return none

def requireAPIKey (task : Task) : Work Unit := do
  match ← validateTaskAPIKey task with
  | some err => exit (fail "api_key_disabled" err)
  | none => return ()

def pricingDisabled : GoError := .new "price rule was disabled before upstream submission"

def requirePricing : Work Unit := do
  match ← perform .pricingRuleActive with
  | .error err => stop err
  | .ok true => return ()
  | .ok false => exit (fail "cost_rule_unavailable" pricingDisabled)

def enforceSubmissionFence (accountID : UUID) : Work WorkerAccount := do
  match ← perform (.getAccount accountID) with
  | .error err => exit (fail "account_not_found" err)
  | .ok account =>
    if ← routeableNow account then
      match ← perform (.circuit account) with
      | .error err => stop err
      | .ok (some until_) => exit (yieldAt until_)
      | .ok none => do
        requirePricing
        return account
    else exit yieldForReroute

def waitForSubmit (account : WorkerAccount) : Work Unit := do
  match ← perform (.waitForProviderAccountSubmit account) with
  | .error err => exit (fail "account_submit_interval" err)
  | .ok () => return ()

def noReservedAccount : GoError := .new "task has no reserved account for submission"

/-- The reserved account with its session, as the Leonardo and the Creative Fabrica
workers look it up. -/
def submissionAccount (task : Task) : Work WorkerAccount := do
  match task.reservedAccount with
  | none => exit (fail "invalid_task_state" noReservedAccount)
  | some accountID =>
    match ← perform (.getAccount accountID) with
    | .error err => exit (fail "account_not_found" err)
    | .ok account =>
      if ← routeableNow account then
        match ← perform (.token account) with
        | .error _ => exit yieldForReroute
        | .ok account =>
          if ← routeableNow account then do
            orReturn (updateTokens (some account.totalTokens) none)
            return account
          else exit yieldForReroute
      else exit yieldForReroute

/-- The fence, the wait for the account's turn and the fence again. -/
def fenceTwice (account : WorkerAccount) : Work WorkerAccount := do
  let account ← enforceSubmissionFence account.id
  waitForSubmit account
  let account ← enforceSubmissionFence account.id
  requirePricing
  return account

/-! ### Uploads -/

/-- What became of one reference: a helper may have failed the task without an error,
and then leaves the reference out or gives up the rest. -/
inductive Uploaded (α : Type)
  | added (reference : α)
  | skipped
  | abandoned

section Uploads

variable {α β : Type} (account : WorkerAccount) (total : ℕ) (one : β → Work (Uploaded α))

/-- The references in turn, each followed by the progress; whether all were tried. -/
def uploadEach : ℕ → List β → Work (List α × Bool)
  | _, [] => return ([], true)
  | done, media :: rest => do
    match ← one media with
    | .added reference => do
      orReturn (updateUploading (15 + (done + 1) * 4 / total) account.id)
      let (references, complete) ← uploadEach (done + 1) rest
      return (reference :: references, complete)
    | .skipped => uploadEach done rest
    | .abandoned => return ([], false)

/-- `if totalUploads > 0` with the first update, then the references. -/
def uploadAll (media : List β) : Work (List α × Bool) := do
  if media.isEmpty then return ([], true)
  else
    orReturn (updateUploading 15 account.id)
    uploadEach account media.length one 0 media

end Uploads

/-- `return nil, w.fail(…)` of a helper: without an error its caller goes on. -/
def abandon {α : Type} (code : String) (err : GoError) : Work (Uploaded α) := do
  orReturn (fail code err)
  return .abandoned

/-- `return w.fail(…)` of a closure: without an error the loop goes on. -/
def skip {α : Type} (code : String) (err : GoError) : Work (Uploaded α) := do
  orReturn (fail code err)
  return .skipped

/-- One upload; `failed` is what a failure leads to. -/
def uploadBy {α : Type} (account : WorkerAccount) (x : Work (Except GoError α))
    (failed : GoError → Work (Uploaded α)) : Work (Uploaded α) := do
  match ← x with
  | .error err => do
    let _ ← perform (.recordAccountFailure account err)
    failed err
  | .ok reference => return .added reference

def upload (account : WorkerAccount) (media : Media)
    (failed : GoError → Work (Uploaded String)) : Work (Uploaded String) :=
  uploadBy account (perform (.upload media)) failed

/-- Reads the medium and goes on with it. -/
def read {α : Type} (media : Media) (failed : GoError → Work (Uploaded α))
    (rest : MediaData → Work (Uploaded α)) : Work (Uploaded α) := do
  match ← perform (.readMedia media) with
  | .error err => failed err
  | .ok data => rest data

/-! ### The submission -/

def submitRequest (provider : ProviderID) (client : Bool) (request : UpstreamRequest) :
    Work (Except GoError UpstreamJob) :=
  if client then perform (.submit provider request) else panics

/-- Prepares the task, sends the request once and records the id of the job. Any error
but a definite rejection leaves the task uncertain. -/
def submitPrepared (provider : ProviderID) (client : Bool) (account : WorkerAccount)
    (request : UpstreamRequest) (deadline : Time) : Work (GenerationID × UpstreamJob) := do
  orReturn (prepareSubmission account.id request deadline)
  match ← submitRequest provider client request with
  | .error err => do
    let _ ← perform (.recordAccountFailure account err)
    if provider.uncertain err then
      exit (markSubmissionUncertain (some account.id) "submission_uncertain" err.text)
    else exit (fail "generate_failed" err)
  | .ok job => do
    perform (.clearAccountFailures account)
    match ← recordSubmission account.id job with
    | .error err => stop err
    | .ok generationID => return (generationID, job)

/-- The request is built, and the deadline of the job counts from here. -/
def submit (provider : ProviderID) (client : Bool) (taskTimeout : Time)
    (account : WorkerAccount) (references : References) (build : Work (Except GoError JSON)) :
    Work (GenerationID × UpstreamJob × Time) := do
  match ← build with
  | .error err => exit (fail "unsupported_model" err)
  | .ok members => do
    let now : Time ← perform .timeNow
    let (generationID, job) ← submitPrepared provider client account ⟨members, references⟩
      (now + taskTimeout)
    return (generationID, job, now + taskTimeout)

end Worker

end GenerationGateway

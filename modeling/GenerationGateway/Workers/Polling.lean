import GenerationGateway.Workers.Submission

/-!
# Polling a submitted job

A worker polls the job of its task until it is complete, has failed or has reached its
deadline, or until the run is cancelled. The loops of the workers are one loop; what
they do with an error of a poll and with the states of a job is theirs. The number of
ticks bounds the loop only from outside: a run may end at any call.
-/

namespace GenerationGateway

open Effects

/-- The states that the gateway knows. -/
def JobStatus.known (s : JobStatus) : Bool :=
  s.status = "PENDING" || s.status = "COMPLETE" || s.status = "FAILED"

/-- The progress to show; a value below one is replaced. -/
def JobStatus.shownProgress (s : JobStatus) : ℤ := if s.progress < 1 then 20 else s.progress

/-- The job that a run polls; the client may be nil. -/
structure PolledJob where
  generationID : GenerationID
  account : WorkerAccount
  client : Bool
  deadline : Option Time

namespace Worker

/-- `failUpstreamGeneration`; the texts of `failure` depend on what Leonardo tells. -/
def failUpstreamGeneration (job : PolledJob) : Work Returned := do
  let details : JSON ← perform (.failureDetails job.generationID)
  failAfterSubmission "upstream_failed" "Leonardo 上游生成失败" details

def failJob (fallback source : String) (status : JobStatus) : Work Returned :=
  let message := Text.trimSpace status.error
  failAfterSubmission "upstream_failed" (if message = "" then fallback else message)
    ("source=" ++ source ++ " upstream_status=" ++ status.status)

/-- What a worker does in its loop. -/
structure PollHandlers where
  deadlineMessage : String
  poll : Work (Except GoError JobStatus)
  /-- Returns from the run, or goes on with the next tick. -/
  pollFailed : GoError → Work Unit
  failed : JobStatus → Work Returned
  completed : JobStatus → Work Returned
  running : JobStatus → Work Returned

def pollLoop (job : PolledJob) (h : PollHandlers) : ℕ → Work Unit
  | 0 => throw none
  | ticks + 1 => do
    let done : Bool ← perform .contextDone
    if done then exit yieldContextDone
    else if ← deadlinePassed job.deadline then
      exit (markSubmissionUncertain (some job.account.id) "upstream_deadline_exceeded"
        h.deadlineMessage)
    else
      match ← h.poll with
      | .error err => do
        h.pollFailed err
        pollLoop job h ticks
      | .ok status => do
        orReturn (holding (.recordUpstreamStatus status.known))
        if status.status = "FAILED" then exit (h.failed status)
        else if status.status = "COMPLETE" then exit (h.completed status)
        else do
          orReturn (h.running status)
          pollLoop job h ticks

/-- The loop behind its ticker. -/
def pollFrom (job : PolledJob) (h : PollHandlers) (ticks : ℕ) : Work Unit := do
  perform (.pollInterval job.client)
  pollLoop job h ticks

def pollJob (job : PolledJob) : Work (Except GoError JobStatus) :=
  if job.client then perform (.poll job.generationID) else panics

def retryResult (job : PolledJob) (message : String) : Work Returned :=
  yieldSubmittedRetry job.account.id job.deadline message (seconds 15)

/-! ### Leonardo -/

/-- The common loop of `pollGeneration`, `pollVideo` and `pollAudio`; `empty` is the
message for a result without outputs. -/
def pollLeonardo (deadlineMessage empty : String) (job : PolledJob) (ticks : ℕ) : Work Unit :=
  pollFrom job
    { deadlineMessage := deadlineMessage
      poll := pollJob job
      pollFailed := fun err => do
        match ← perform (.recordAccountFailure job.account err) with
        | some retryAt => exit (settling (.yield retryAt))
        | none => return ()
      failed := fun _ => failUpstreamGeneration job
      completed := fun _ => do
        match ← perform (.result job.generationID) with
        | .error err => do
          let _ ← perform (.recordAccountFailure job.account err)
          retryResult job err.text
        | .ok outputs =>
          if outputs = [] then retryResult job empty
          else complete job.account.id job.generationID outputs
      running := fun status =>
        updateRunning (Text.toUpper (Text.trimSpace status.status) = "PENDING") 0 job.account.id
          job.generationID }
    ticks

def pollGeneration : PolledJob → ℕ → Work Unit :=
  pollLeonardo "image generation deadline exceeded" "Leonardo returned no images"

def pollVideo : PolledJob → ℕ → Work Unit :=
  pollLeonardo "video generation deadline exceeded" "Leonardo returned no MP4 video"

def pollAudio : PolledJob → ℕ → Work Unit :=
  pollLeonardo "audio generation deadline exceeded" "Leonardo returned no audio file URL"

/-! ### Adobe and Creative Fabrica -/

/-- An error of a poll: a rejected session is tried again later, an account that cools
down gives the task back, and otherwise the loop goes on. -/
def pollRejected (job : PolledJob) (rejected : Bool) (err : GoError) : Work Unit := do
  let retryAt : Option Time ← perform (.recordAccountFailure job.account err)
  if rejected then
    exit (yieldSubmittedRetry job.account.id job.deadline err.text (seconds 30))
  else
    match retryAt with
    | some retryAt => exit (yieldAt retryAt)
    | none => return ()

/-- The outputs as they are stored; without any the result is asked for again. -/
def completeWith (job : PolledJob) (empty : String) (outputs : List (String × String)) :
    Work Returned :=
  if outputs = [] then retryResult job empty
  else complete job.account.id job.generationID (outputs.map Prod.snd)

def adobeUnauthorized (err : GoError) : Bool :=
  match err.kind with
  | .http .adobe status => status = 401 || status = 403
  | _ => false

def pollAdobe (completed : JobStatus → Work Returned) (job : PolledJob) (ticks : ℕ) : Work Unit :=
  pollFrom job
    { deadlineMessage := "Adobe generation deadline exceeded"
      poll := pollJob job
      pollFailed := fun err => pollRejected job (adobeUnauthorized err) err
      failed := failJob "Adobe upstream generation failed" "adobe"
      completed := fun status => do
        perform (.clearAccountFailures job.account)
        completed status
      running := fun status =>
        updateRunning false status.shownProgress job.account.id job.generationID }
    ticks

/-- The outputs of one media type or of none. -/
def JobStatus.ofType (mediaType : String) (s : JobStatus) : List (String × String) :=
  s.outputs.filter fun o => o.1 = mediaType || o.1 = ""

def pollAdobeImage (job : PolledJob) : ℕ → Work Unit :=
  pollAdobe (fun s => completeWith job "Adobe returned no images" (JobStatus.ofType "image" s)) job

def pollAdobeVideo (job : PolledJob) : ℕ → Work Unit :=
  pollAdobe (fun s => completeWith job "Adobe returned no video" (JobStatus.ofType "video" s)) job

def pollCreativeFabrica (deadlineMessage failure empty : String)
    (poll : Work (Except GoError JobStatus)) (job : PolledJob) (ticks : ℕ) : Work Unit :=
  pollFrom job
    { deadlineMessage := deadlineMessage
      poll := poll
      pollFailed := fun err => do
        let rejected : Bool ← perform (.authenticationRejected err)
        pollRejected job rejected err
      failed := failJob failure "creativefabrica"
      completed := fun status => completeWith job empty (status.outputs.filter fun o => o.2 ≠ "")
      running := fun status =>
        updateRunning false status.shownProgress job.account.id job.generationID }
    ticks

def pollCreativeFabricaImage (job : PolledJob) : ℕ → Work Unit :=
  pollCreativeFabrica "Creative Fabrica image generation deadline exceeded"
    "Creative Fabrica image generation failed" "Creative Fabrica returned no images" (pollJob job)
    job

/-- A fallback counts when it has outputs. -/
def usableFallback (fallback : Except GoError JobStatus) : Option JobStatus :=
  match fallback with
  | .ok status => if status.outputs = [] then none else some status
  | .error _ => none

/-- A complete session without outputs is asked for its media, then its iterations. -/
def pollSession (job : PolledJob) : Work (Except GoError JobStatus) := do
  match ← pollJob job with
  | .error err => return .error err
  | .ok status =>
    if status.status = "COMPLETE" && status.outputs.isEmpty then do
      match usableFallback (← perform (.sessionMedia job.generationID)) with
      | some fallback => return .ok fallback
      | none =>
        match usableFallback (← perform (.sessionIterations job.generationID)) with
        | some fallback => return .ok fallback
        | none => return .ok status
    else return .ok status

def pollCreativeFabricaVideo (job : PolledJob) : ℕ → Work Unit :=
  pollCreativeFabrica "Creative Fabrica video generation deadline exceeded"
    "Creative Fabrica video generation failed" "Creative Fabrica returned no video"
    (pollSession job) job

end Worker

end GenerationGateway

import GenerationGateway.Domain.Requests
import GenerationGateway.Store.System
import GenerationGateway.Workers.Errors

/-!
# The calls of a worker

A run of a worker is a program over the calls it makes: operations of the store under
its lease, reads, checks of the request, and calls to the provider. The task and the
lease are those of the run. A function of the source that returns an error returns it
here as well; `exit` is `return` with the error of another function, which is nil when
that function has settled the task.
-/

namespace GenerationGateway

open Effects

/-- The account as `GetAccount` returns it. -/
structure WorkerAccount where
  id : UUID
  providerID : ProviderID
  status : AccountStatus
  generationPermissionStatus : GenerationPermission
  cooldownUntil : Option Time
  accessTokenExpiresAt : Option Time
  lastCheckedAt : Option Time
  totalTokens : ℤ
  reservedTokens : ℤ
  proxyURL : String

/-- The id of a generation, of which the empty text is none. -/
abbrev GenerationID := Subtype fun generationID : String => generationID ≠ ""

/-- What a worker uploads for a task. -/
inductive Media
  | inline (source : SourceImage)
  | asset (source : SourceMedia)
  deriving DecidableEq

def Media.filename : Media → String
  | .inline source => source.filename
  | .asset source => source.filename

def Media.mediaType : Media → String
  | .inline source => source.mediaType
  | .asset source => source.mediaType

/-- What a request tells of the data of a medium: its length, and the dimensions that
`creativeFabricaImageDimensions` finds in it, zero when it finds none. -/
structure MediaData where
  size : ℕ
  width : ℕ
  height : ℕ
  deriving DecidableEq

/-- A frame of a Creative Fabrica video with the place it takes. -/
structure VideoInput where
  frameType : String
  referenceType : String
  media : Media
  deriving DecidableEq

/-- A frame with its data. -/
structure CollectedInput where
  input : VideoInput
  data : MediaData
  deriving DecidableEq

/-- A signed URL; `parseUploadURL` takes no other text for one. -/
structure UploadURL where
  url : String
  http : "http".toList.isPrefixOf url.toList = true

/-! ### Upstream requests -/

/-- An entry of `guidances.image_reference`. -/
structure ImageReference where
  id : String
  type : String
  strength : String
  deriving DecidableEq

/-- `adobe.Reference`. -/
structure AdobeReference where
  id : String
  usage : String
  promptReference : ℕ
  deriving DecidableEq

/-- `creativefabrica.VideoFrameRequest`. -/
structure VideoFrameRequest where
  type : String
  fileSize : ℕ
  fileName : String
  referenceType : String
  width : ℕ
  height : ℕ
  deriving DecidableEq

/-- The references of an upstream request, as the provider takes them. -/
inductive References
  | imageReference (references : List ImageReference)
  /-- The guidance of a Leonardo video by its ids. -/
  | guidance (ids : List String)
  | referenceBlobs (references : List AdobeReference)
  /-- `imageUrl` and the members of `referenceImages`. -/
  | flow (imageURL : Option String) (referenceImages : List (ℕ × String))
  | frames (frames : List VideoFrameRequest)
  deriving DecidableEq

structure UpstreamRequest where
  /-- What it says beside the references. -/
  members : JSON
  references : References

/-- Steps on the request, the catalogue and the configuration that may fail. -/
inductive Check
  | provider
  | model
  | videoSpec
  | size
  | quantity
  | options
  | client

/-- The answer of a submission: the id under which the job is polled, the reported cost
and the signed URLs for the frames of a video. -/
structure UpstreamJob where
  generationID : String
  upstreamReportedCost : Option ℚ
  frameUploadURLs : Except GoError (List String)

/-- The error of an upload, and whether it is of the file and not of the provider. -/
structure UploadFault where
  err : GoError
  stored : Bool

/-- The state of a job as a poll tells it; an output has a media type and a URL. -/
structure JobStatus where
  status : String
  progress : ℤ
  outputs : List (String × String)
  error : String

inductive JobCall
  | claimTask
  | owned (call : OwnedCall)
  | getTask
  | getAPIKey (id : UUID)
  | getAccount (id : UUID)
  | pricingRuleActive
  | check (what : Check)
  /-- The members of the upstream request beside the references; only Leonardo's
  cannot fail. -/
  | buildGeneration (references : References)
  | build (references : References)
  /-- The stored form of a request. -/
  | marshalRequest (request : UpstreamRequest)
  | token (account : WorkerAccount)
  | timeNow
  | contextDone
  | waitForProviderAccountSubmit (account : WorkerAccount)
  | circuit (account : WorkerAccount)
  | recordAccountFailure (account : WorkerAccount) (err : GoError)
  | clearAccountFailures (account : WorkerAccount)
  /-- An inline image is decoded, a stored file is read within its limit. -/
  | readMedia (media : Media)
  /-- `w.Assets.Open` of a Leonardo upload, for an image with the reading of the file. -/
  | openAsset (source : SourceMedia)
  /-- `UploadInitImage` and Adobe's `Upload`. -/
  | upload (media : Media)
  /-- `UploadMedia`, which reads the open file as it sends it. -/
  | uploadMedia (source : SourceMedia)
  | createUploadURL (media : Media)
  | uploadToURL (url : UploadURL) (media : Media)
  /-- The durations and dimensions that Leonardo returned for the uploaded guidance;
  an error comes with the code to fail with. -/
  | guidance (references : List String)
  | uploadFrame (url : String) (input : VideoInput)
  /-- `SubmitGeneration`, `SubmitImage`, `SubmitVideo`, `CreateFlow`, `InitiateSession`. -/
  | submit (provider : ProviderID) (request : UpstreamRequest)
  /-- The ticker at the head of a poll loop, whose client may be nil. -/
  | pollInterval (client : Bool)
  /-- `Status`, `Poll`, `GetFlow`, `GetSession`. -/
  | poll (generationID : GenerationID)
  /-- `GetSessionMedia` and `GetSessionIterations`. -/
  | sessionMedia (generationID : GenerationID)
  | sessionIterations (generationID : GenerationID)
  | result (generationID : GenerationID)
  | failureDetails (generationID : GenerationID)
  | authenticationRejected (err : GoError)
  | marshal (outputs : List String)
  | cleanup (assets : List SourceMedia)

def JobCall.Res : JobCall → Type
  | claimTask => Except GoError ClaimResult
  | owned _ => Except GoError Bool
  | getTask => Except GoError Task
  | getAPIKey _ => Except GoError Unit
  | getAccount _ => Except GoError WorkerAccount
  | pricingRuleActive => Except GoError Bool
  | check _ => Except GoError Unit
  | buildGeneration _ => JSON
  | build _ | marshalRequest _ => Except GoError JSON
  | token _ => Except GoError WorkerAccount
  | timeNow => Time
  | contextDone => Bool
  | waitForProviderAccountSubmit _ => Except GoError Unit
  | circuit _ => Except GoError (Option Time)
  | recordAccountFailure _ _ => Option Time
  | readMedia _ => Except GoError MediaData
  | openAsset _ => Except GoError Unit
  | upload _ => Except GoError String
  | uploadMedia _ => Except UploadFault String
  | createUploadURL _ => Except GoError UploadURL
  | uploadToURL _ _ => Except GoError Unit
  | guidance _ => Except (String × GoError) Unit
  | uploadFrame _ _ => Except GoError Unit
  | submit _ _ => Except GoError UpstreamJob
  | poll _ | sessionMedia _ | sessionIterations _ => Except GoError JobStatus
  | authenticationRejected _ => Bool
  | result _ => Except GoError (List String)
  | failureDetails _ => JSON
  | marshal _ => JSON
  | clearAccountFailures _ | cleanup _ | pollInterval _ => Unit

def jobs : Signature := ⟨JobCall, JobCall.Res⟩

/-- A call of a run with its answer. -/
abbrev JobEvent := Effects.Event jobs

/-- The error that a function returns; nil is none. -/
abbrev Returned := Option GoError

abbrev Work := Early jobs Returned

namespace Worker

def perform (op : JobCall) : Work op.Res := Early.perform (S := jobs) op

/-- `return err`. -/
def exit {α : Type} (x : Work Returned) : Work α := do throw (← x)

def stop {α : Type} (err : GoError) : Work α := throw (some err)

/-- `if err != nil { return err }`. -/
def orReturn (x : Work Returned) : Work Unit := do
  match ← x with
  | some err => stop err
  | none => return ()

/-- A method called on a nil client. -/
def panics {α : Type} : Work α := stop (.new "invalid memory address or nil pointer dereference")

/-! ### Operations under the lease -/

def leaseLost : GoError := .new "task execution lease is no longer owned"

/-- An operation without which the run does not go on. -/
def holding (call : OwnedCall) : Work Returned := do
  match ← perform (.owned call) with
  | .error err => return some err
  | .ok true => return none
  | .ok false => return some leaseLost

/-- An operation that ends the run: a lost lease is no error. -/
def settling (call : OwnedCall) : Work Returned := do
  match ← perform (.owned call) with
  | .error err => return some err
  | .ok _ => return none

def updateTokens (before after : Option ℤ) : Work Returned := holding (.updateTokens before after)

/-- `w.update` with `uploading`, the progress and the account. -/
def updateUploading (progress : ℤ) (accountID : UUID) : Work Returned :=
  holding (.update
    { status := .uploading, progress := progress, accountID := some accountID, generationID := ""
      result := none, code := "", message := "", upstreamRequest := none, upstreamDeadline := none }
    (.inl rfl))

/-- `w.update` with `submitted` and the progress of the frames. -/
def updateSubmitted (progress : ℤ) (accountID : UUID) : Work Returned :=
  holding (.update
    { status := .submitted, progress := progress, accountID := some accountID, generationID := ""
      result := none, code := "", message := "", upstreamRequest := none, upstreamDeadline := none }
    (.inr (.inl rfl)))

/-- `w.update` of a poll that found the job running. -/
def updateRunning (pending : Bool) (progress : ℤ) (accountID : UUID) (generationID : GenerationID) :
    Work Returned :=
  if pending then
    holding (.update
      { status := .submitted, progress := progress, accountID := some accountID
        generationID := generationID.1, result := none, code := "", message := ""
        upstreamRequest := none, upstreamDeadline := none }
      (.inr (.inl rfl)))
  else
    holding (.update
      { status := .polling, progress := progress, accountID := some accountID
        generationID := generationID.1, result := none, code := "", message := ""
        upstreamRequest := none, upstreamDeadline := none }
      (.inr (.inr (.inl ⟨rfl, generationID.2⟩))))

def markSubmissionUncertain (accountID : Option UUID) (code message : String) : Work Returned :=
  holding (.update
    { status := .submissionUncertain, progress := 100, accountID := accountID, generationID := ""
      result := none, code := code, message := message, upstreamRequest := none
      upstreamDeadline := none }
    (.inr (.inr (.inr rfl))))

def prepareSubmission (accountID : UUID) (request : UpstreamRequest) (upstreamDeadline : Time) :
    Work Returned := do
  match ← perform (.marshalRequest request) with
  | .error err => return some err
  | .ok body => holding (.prepare accountID (some body) upstreamDeadline)

/-- The three `record…Submission` functions; an empty id is an error. -/
def recordSubmission (accountID : UUID) (job : UpstreamJob) : Work (Except GoError GenerationID) := do
  if h : job.generationID = "" then return .error (.new "generation id is required")
  else
    match ← holding (.recordSubmission accountID job.generationID job.upstreamReportedCost) with
    | some err => return .error err
    | none => return .ok ⟨job.generationID, h⟩

def yieldAt (retryAt : Time) : Work Returned := holding (.yield retryAt)

def yieldForReroute : Work Returned := do
  let now : Time ← perform .timeNow
  yieldAt (now + seconds 1)

def yieldForCooldown (account : WorkerAccount) : Work Returned := do
  let now : Time ← perform .timeNow
  let retryAt := now + seconds 30
  yieldAt (max retryAt (account.cooldownUntil.getD retryAt))

def deadlinePassed (deadline : Option Time) : Work Bool := do
  let now : Time ← perform .timeNow
  return deadline.any fun d => d ≤ now

def yieldSubmittedRetry (accountID : UUID) (deadline : Option Time) (message : String)
    (delay : Time) : Work Returned := do
  if ← deadlinePassed deadline then
    markSubmissionUncertain (some accountID) "upstream_deadline_exceeded" message
  else
    let delay := if delay < seconds 1 then seconds 10 else delay
    let now : Time ← perform .timeNow
    yieldAt (min (now + delay) (deadline.getD (now + delay)))

/-- `ctx.Done()` in a poll loop: the lease is given back for a minute. -/
def yieldContextDone : Work Returned := do
  let now : Time ← perform .timeNow
  settling (.yield (now + minutes 1))

def complete (accountID : UUID) (generationID : GenerationID) (outputs : List String) :
    Work Returned := do
  let result : JSON ← perform (.marshal outputs)
  settling (.complete accountID generationID.1 result none)

def fail (code : String) (err : GoError) : Work Returned := settling (.fail code err.text none none)

def failAfterSubmission (code message : String) (details : JSON) : Work Returned :=
  settling (.failSubmitted code message (some details))

/-- The claim at the start of a run. -/
def claimTask : Work Task := do
  match ← perform .claimTask with
  | .error err => stop err
  | .ok r =>
    match (if r.claimed then r.task else none) with
    | none => throw none
    | some task => return task

end Worker

end GenerationGateway

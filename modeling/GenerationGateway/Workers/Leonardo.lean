import GenerationGateway.Domain.Requests
import GenerationGateway.Workers.Polling

/-!
# The Leonardo workers

The bodies of `processImage`, `processVideo` and `processAudio` for the tasks of
Leonardo. They differ in the checks of the request and in the uploads; a task that was
submitted before is polled again.
-/

namespace GenerationGateway

open Effects

/-- The inline images of a request: the single one of older requests first. -/
def inlineImages (sourceImage : Option SourceImage) (sourceImages : List SourceImage) :
    List Media := (sourceImage.toList ++ sourceImages).map .inline

def ImageRequest.media (r : ImageRequest) : List Media :=
  inlineImages r.sourceImage r.sourceImages ++ r.referenceImages.map .asset

def VideoRequest.images (r : VideoRequest) : List Media :=
  inlineImages r.sourceImage r.sourceImages ++ r.referenceImages.map .asset ++
    r.startFrame.toList.map .asset ++ r.endFrame.toList.map .asset

namespace Worker

variable (taskTimeout : Time) (ticks : ℕ)

/-- `rate_limited`, `cooldown` or a cooldown that is not over. -/
def coolingDown (now : Time) (account : WorkerAccount) : Bool :=
  account.status = .rateLimited || account.status = .cooldown ||
    account.cooldownUntil.any fun c => now < c

/-- No session for now: the task is given back for half a minute. -/
def retrySession (task : Task) (account : WorkerAccount) (err : GoError) : Work Returned :=
  yieldSubmittedRetry account.id task.upstreamDeadlineAt err.text (seconds 30)

/-- The account and the session for a job that was submitted before. -/
def resumeLeonardo (task : Task) (accountID : UUID) : Work WorkerAccount := do
  if ← deadlinePassed task.upstreamDeadlineAt then
    exit (markSubmissionUncertain task.accountID "upstream_deadline_exceeded"
      "upstream generation deadline exceeded")
  else
    match ← perform (.getAccount accountID) with
    | .error err => exit (markSubmissionUncertain task.accountID "account_not_found" err.text)
    | .ok account => do
      let now : Time ← perform .timeNow
      if coolingDown now account then exit (yieldForCooldown account)
      else
        match ← perform (.token account) with
        | .error err => exit (retrySession task account err)
        | .ok account =>
          match ← perform (.check .client) with
          | .error err => exit (retrySession task account err)
          | .ok () => return account

/-- A Leonardo task: resumed, or submitted after its checks and uploads. -/
def processLeonardo (checks : List (Check × String)) (registered : Bool)
    (uploads : WorkerAccount → Work References) (poll : PolledJob → ℕ → Work Unit)
    (task : Task) : Work Unit := do
  match task.submittedGeneration with
  | some (generationID, accountID) => do
    let account ← resumeLeonardo task accountID
    poll ⟨generationID, account, true, task.upstreamDeadlineAt⟩ ticks
  | none => do
    requireAPIKey task
    if registered then require .provider "provider_unavailable"
    let account ← submissionAccount task
    checks.forM fun c => require c.1 c.2
    let references ← uploads account
    let account ← fenceTwice account
    let (generationID, _, deadline) ← submit .leonardo true taskTimeout account references do
      let members : JSON ← perform (.buildGeneration references)
      return .ok members
    poll ⟨generationID, account, true, some deadline⟩ ticks

/-- `return w.fail(…)` of the run itself. -/
def failRun {α : Type} (code : String) (err : GoError) : Work α := exit (fail code err)

/-- The error of the file and that of the provider come out as one. -/
def uploadTaskImage (source : SourceMedia) : Work (Except GoError String) := do
  match ← perform (.openAsset source) with
  | .error err => return .error err
  | .ok () => perform (.upload (.asset source))

def uploadTaskMedia (source : SourceMedia) : Work (Except GoError String) := do
  match ← perform (.openAsset source) with
  | .error err => return .error err
  | .ok () =>
    match ← perform (.uploadMedia source) with
    | .error fault => return .error fault.err
    | .ok reference => return .ok reference

/-- One image of an image task: a failure ends the run. -/
def uploadImage (account : WorkerAccount) : Media → Work (Uploaded String)
  | .inline source =>
    read (.inline source) (failRun "invalid_source_image") fun _ =>
      upload account (.inline source) (failRun "upload_failed")
  | .asset source => uploadBy account (uploadTaskImage source) (failRun "upload_failed")

/-- What `BuildImageGenerationRequest` makes of an uploaded image. -/
def imageReference (strength id : String) : ImageReference where
  id := id
  type := "UPLOADED"
  strength := Text.toUpper (if strength = "" then "MID" else strength)

def processLeonardoImage (task : Task) (req : ImageRequest) : Work Unit :=
  processLeonardo taskTimeout ticks
    [(.model, "model_not_found"), (.size, "invalid_size"), (.client, "client_error")] true
    (fun account => do
      let (ids, _) ← uploadAll account (uploadImage account) req.media
      return .imageReference (ids.map (imageReference req.referenceStrength)))
    pollGeneration task

/-! ### Video guidance -/

/-- One medium of the guidance: a failure ends the uploads. -/
def uploadGuidance (account : WorkerAccount) : Media → Work (Uploaded String)
  | .inline source =>
    read (.inline source) (abandon "invalid_source_image") fun _ =>
      upload account (.inline source) (abandon "upload_failed")
  | .asset source => uploadBy account (uploadTaskImage source) (abandon "upload_failed")

/-- A reference video or audio, whose duration and dimensions are checked as well. -/
def uploadMeasured (account : WorkerAccount) (source : SourceMedia) : Work (Uploaded String) := do
  match ← uploadBy account (uploadTaskMedia source) (abandon "upload_failed") with
  | .added reference => do
    match ← perform (.guidance [reference]) with
    | .error (code, err) => abandon code err
    | .ok () => return .added reference
  | other => return other

/-- The media of one group, then the check of their total duration. -/
def uploadMeasuredGroup (account : WorkerAccount) (total done : ℕ) (media : List SourceMedia) :
    Work (List String × Bool) := do
  let (references, complete) ← uploadEach account total (uploadMeasured account) done media
  if complete then
    match ← perform (.guidance references) with
    | .error (code, err) => do
      orReturn (fail code err)
      return (references, false)
    | .ok () => return (references, true)
  else return (references, false)

/-- `uploadLeonardoVideoGuidance`; after a failure that was settled the caller goes on
with the guidance so far. -/
def uploadLeonardoVideoGuidance (account : WorkerAccount) (req : VideoRequest) :
    Work (List String) := do
  let images := req.images
  let total := images.length + req.referenceVideos.length + req.audioReferences.length
  if 0 < total then orReturn (updateUploading 15 account.id)
  let (references, complete) ← uploadEach account total (uploadGuidance account) 0 images
  if complete then do
    let (videos, complete) ← uploadMeasuredGroup account total images.length req.referenceVideos
    if complete then do
      let (audios, _) ← uploadMeasuredGroup account total
        (images.length + req.referenceVideos.length) req.audioReferences
      return references ++ videos ++ audios
    else return references ++ videos
  else return references

def processLeonardoVideo (task : Task) (req : VideoRequest) : Work Unit :=
  processLeonardo taskTimeout ticks
    [(.model, "model_not_found"), (.videoSpec, "invalid_model"), (.size, "invalid_size"),
      (.client, "client_error")] false
    (fun account => do
      let ids ← uploadLeonardoVideoGuidance account req
      return .guidance ids)
    pollVideo task

def processLeonardoAudio (task : Task) : Work Unit :=
  processLeonardo taskTimeout ticks
    [(.model, "model_not_found"), (.client, "client_error")] false
    (fun _ => return .guidance []) pollAudio task

end Worker

end GenerationGateway

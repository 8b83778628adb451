import GenerationGateway.Workers.Adobe

/-!
# The Creative Fabrica workers

Images are flows and videos are sessions. A session is initiated first; its frames are
uploaded to signed URLs of the answer, after the id of the session has been recorded.
-/

namespace GenerationGateway

open Effects

/-- The inputs of the session of a request, in order. -/
def VideoRequest.inputs (r : VideoRequest) : List VideoInput :=
  (inlineImages r.sourceImage r.sourceImages).map
      (fun m => ⟨"VIDEO_FRAME_TYPE_REFERENCE", "VIDEO_FRAME_REFERENCE_TYPE_SUBJECT", m⟩) ++
    r.referenceImages.map
      (fun m => ⟨"VIDEO_FRAME_TYPE_REFERENCE", "VIDEO_FRAME_REFERENCE_TYPE_SUBJECT", .asset m⟩) ++
    r.startFrame.toList.map (fun m => ⟨"VIDEO_FRAME_TYPE_FIRST", "", .asset m⟩) ++
    r.endFrame.toList.map (fun m => ⟨"VIDEO_FRAME_TYPE_LAST", "", .asset m⟩) ++
    r.referenceVideos.map
      (fun m => ⟨"VIDEO_FRAME_TYPE_REFERENCE", "VIDEO_FRAME_REFERENCE_TYPE_SUBJECT", .asset m⟩) ++
    r.audioReferences.map (fun m => ⟨"VIDEO_FRAME_TYPE_ATTACHMENT", "", .asset m⟩)

/-- How stored requests are decoded. -/
structure Decoder where
  image : JSON → Except GoError ImageRequest
  video : JSON → Except GoError VideoRequest
  audio : JSON → Except GoError Unit

namespace Worker

variable (taskTimeout : Time) (ticks : ℕ)

def resumeCreativeFabricaTask (task : Task) (accountID : UUID) : Work (WorkerAccount × Bool) := do
  if ← deadlinePassed task.upstreamDeadlineAt then
    withoutClient noAccount (markSubmissionUncertain task.accountID "upstream_deadline_exceeded"
      "Creative Fabrica generation deadline exceeded")
  else
    match ← perform (.getAccount accountID) with
    | .error err =>
      withoutClient noAccount
        (markSubmissionUncertain task.accountID "account_not_found" err.text)
    | .ok account => do
      let now : Time ← perform .timeNow
      if coolingDown now account then withoutClient account (yieldForCooldown account)
      else
        match ← perform (.token account) with
        | .error err => withoutClient account (retrySession task account err)
        | .ok account =>
          match ← perform (.check .client) with
          | .error err => withoutClient account (retrySession task account err)
          | .ok () => return (account, true)

/-- The beginning of both workers for a task that is to be submitted. -/
def prepareCreativeFabrica (checks : List (Check × String)) (task : Task) : Work WorkerAccount := do
  requireAPIKey task
  require .provider "provider_unavailable"
  let account ← submissionAccount task
  checks.forM fun c => require c.1 c.2
  return account

def uploadToFlow (media : Media) : Work (Except GoError UploadURL) := do
  match ← perform (.createUploadURL media) with
  | .error err => return .error err
  | .ok url =>
    match ← perform (.uploadToURL url media) with
    | .error err => return .error err
    | .ok () => return .ok url

/-- An inline image or a stored one for a flow: what cannot be read ends the uploads,
what cannot be uploaded is left out. -/
def uploadFlowImage (account : WorkerAccount) (media : Media) :
    Work (Uploaded (Media × UploadURL)) :=
  read media (abandon "invalid_source_image") fun _ => do
    match ← uploadBy account (uploadToFlow media) (skip "upload_failed") with
    | .added url => return .added (media, url)
    | .skipped => return .skipped
    | .abandoned => return .abandoned

/-- The first inline image is the source of the flow, the other ones are references. -/
def flowURLs : List (Media × UploadURL) → Option UploadURL × List UploadURL
  | (.inline _, url) :: rest => (some url, rest.map Prod.snd)
  | uploads => (none, uploads.map Prod.snd)

def stripQuery (value : String) : String := String.ofList (value.toList.takeWhile (· ≠ '?'))

/-- What `BuildImageFlowRequest` makes of the URLs. -/
def flowReferences (sourceURL : Option UploadURL) (references : List UploadURL) : References :=
  .flow (sourceURL.map fun u => stripQuery u.url)
    ((references.mapIdx fun i u => (i + 1, stripQuery u.url)).filter fun r => r.2 ≠ "")

def uploadCreativeFabricaImageInputs (account : WorkerAccount) (req : ImageRequest) :
    Work (Option UploadURL × List UploadURL) := do
  let (uploads, complete) ← uploadAll account (uploadFlowImage account) req.media
  return if complete then flowURLs uploads else (none, [])

def processCreativeFabricaImage (task : Task) (req : ImageRequest) : Work Unit := do
  match task.submittedGeneration with
  | some (generationID, accountID) => do
    let (account, client) ← resumeCreativeFabricaTask task accountID
    pollCreativeFabricaImage ⟨generationID, account, client, task.upstreamDeadlineAt⟩ ticks
  | none => do
    let account ← prepareCreativeFabrica
      [(.model, "model_not_found"), (.client, "client_error"), (.size, "invalid_size"),
        (.quantity, "invalid_quantity")] task
    let (sourceURL, urls) ← uploadCreativeFabricaImageInputs account req
    let references := flowReferences sourceURL urls
    let account ← fenceTwice account
    let (generationID, _, deadline) ← submit .creativefabrica true taskTimeout account references
      (perform (.build references))
    pollCreativeFabricaImage ⟨generationID, account, true, some deadline⟩ ticks

/-! ### Video sessions -/

/-- One input: an inline image that cannot be decoded gives the inputs up, a stored file
that cannot be read is left out. -/
def collectInput (input : VideoInput) : Work (Uploaded CollectedInput) :=
  match input.media with
  | .inline _ =>
    read input.media (abandon "invalid_source_media") fun data => return .added ⟨input, data⟩
  | .asset _ =>
    read input.media (skip "invalid_source_media") fun data => return .added ⟨input, data⟩

def collectCreativeFabricaVideoInputs (account : WorkerAccount) (req : VideoRequest) :
    Work (List CollectedInput) := do
  let (collected, complete) ← uploadAll account collectInput req.inputs
  return if complete then collected else []

/-- `creativefabricaVideoFrameRequest`, as `BuildVideoSessionRequest` writes it. -/
def creativefabricaVideoFrameRequest (c : CollectedInput) : VideoFrameRequest :=
  let mediaType := Text.toLower (Text.trimSpace c.input.media.mediaType)
  let shown := "image/".toList.isPrefixOf mediaType.toList || mediaType = "application/octet-stream"
  { type := c.input.frameType
    fileSize := c.data.size
    fileName := Text.trimSpace c.input.media.filename
    referenceType := c.input.referenceType
    width := if shown then c.data.width else 0
    height := if shown then c.data.height else 0 }

/-- The frames in turn, each followed by the progress. -/
def uploadFrames (accountID : UUID) (total : ℕ) : ℕ → List (String × VideoInput) → Work Returned
  | _, [] => return none
  | done, (url, input) :: rest => do
    match ← perform (.uploadFrame url input) with
    | .error err =>
      return some
        ⟨err.kind, "upload Creative Fabrica video frame " ++ toString (done + 1) ++ ": " ++ err.text⟩
    | .ok () =>
      match ← updateSubmitted (40 + (done + 1) * 20 / total) accountID with
      | some err => return some err
      | none => uploadFrames accountID total (done + 1) rest

def urlCountMismatch (urls inputs : ℕ) : GoError :=
  .new ("Creative Fabrica returned " ++ toString urls ++ " video frame upload URLs for " ++
    toString inputs ++ " inputs")

def uploadCreativeFabricaVideoFrames (accountID : UUID) (inputs : List CollectedInput)
    (job : UpstreamJob) : Work Returned := do
  if inputs.isEmpty then return none
  else
    match job.frameUploadURLs with
    | .error err => return some err
    | .ok urls =>
      if urls.length ≠ inputs.length then return some (urlCountMismatch urls.length inputs.length)
      else uploadFrames accountID inputs.length 0 (urls.zip (inputs.map CollectedInput.input))

def processCreativeFabricaVideo (task : Task) (req : VideoRequest) : Work Unit := do
  match task.submittedGeneration with
  | some (generationID, accountID) => do
    let (account, client) ← resumeCreativeFabricaTask task accountID
    pollCreativeFabricaVideo ⟨generationID, account, client, task.upstreamDeadlineAt⟩ ticks
  | none => do
    let account ← prepareCreativeFabrica
      [(.model, "model_not_found"), (.videoSpec, "invalid_model"), (.options, "invalid_request"),
        (.client, "client_error")] task
    let inputs ← collectCreativeFabricaVideoInputs account req
    let references := .frames (inputs.map creativefabricaVideoFrameRequest)
    let account ← fenceTwice account
    let (generationID, job, deadline) ← submit .creativefabrica true taskTimeout account references
      (perform (.build references))
    match ← uploadCreativeFabricaVideoFrames account.id inputs job with
    | some err => do
      let _ ← perform (.recordAccountFailure account err)
      exit (markSubmissionUncertain (some account.id) "frame_upload_uncertain" err.text)
    | none => pollCreativeFabricaVideo ⟨generationID, account, true, some deadline⟩ ticks

/-! ### The handlers of the queue -/

/-- `w.cleanupTerminal…Assets`: the files of a task that has ended. -/
def cleanupTerminalAssets (assets : List SourceMedia) : Prog jobs Unit := do
  match ← Prog.perform (S := jobs) .getTask with
  | .error _ => return ()
  | .ok task =>
    if task.status.terminal then Prog.perform (S := jobs) (.cleanup assets)
    else return ()

/-- A stored request that cannot be decoded. -/
def invalidRequest (task : Task) (err : GoError) : Work Unit :=
  match task.submittedGeneration with
  | some _ => exit (markSubmissionUncertain task.accountID "invalid_request_state" err.text)
  | none => exit (fail "invalid_request" err)

/-- `switch task.ProviderID` of `processImage`. -/
def processImageOf (task : Task) (req : ImageRequest) : Work Unit :=
  match task.providerID with
  | .leonardo => processLeonardoImage taskTimeout ticks task req
  | .adobe => processAdobeImage taskTimeout ticks task req
  | .creativefabrica => processCreativeFabricaImage taskTimeout ticks task req

def processImage (decoder : Decoder) : Work Unit := do
  let task ← claimTask
  match decoder.image task.request with
  | .error err => invalidRequest task err
  | .ok req =>
    Early.deferring (processImageOf taskTimeout ticks task req) (cleanupTerminalAssets req.assets)

/-- `switch task.ProviderID` of `processVideo`. -/
def processVideoOf (task : Task) (req : VideoRequest) : Work Unit :=
  match task.providerID with
  | .leonardo => processLeonardoVideo taskTimeout ticks task req
  | .adobe => processAdobeVideo taskTimeout ticks task req
  | .creativefabrica => processCreativeFabricaVideo taskTimeout ticks task req

def processVideo (decoder : Decoder) : Work Unit := do
  let task ← claimTask
  match decoder.video task.request with
  | .error err => invalidRequest task err
  | .ok req =>
    Early.deferring (processVideoOf taskTimeout ticks task req) (cleanupTerminalAssets req.assets)

def unsupportedProvider : GoError := .new "provider is not supported"

def processAudio (decoder : Decoder) : Work Unit := do
  let task ← claimTask
  if task.providerID ≠ .leonardo then exit (fail "provider_unavailable" unsupportedProvider)
  else
    match decoder.audio task.request with
    | .error err => invalidRequest task err
    | .ok () => processLeonardoAudio taskTimeout ticks task

/-- `ProcessTask` by the kind of the message. -/
def processTask (decoder : Decoder) : Kind → Work Unit
  | .image => processImage taskTimeout ticks decoder
  | .video => processVideo taskTimeout ticks decoder
  | .audio => processAudio taskTimeout ticks decoder

end Worker

end GenerationGateway

import GenerationGateway.Workers.Leonardo

/-!
# The Adobe workers

`prepareAdobeTask` and `resumeAdobeTask` return no error once they have failed the task
or given it back, so their callers go on without a client. Adobe's workers check the
fence once.
-/

namespace GenerationGateway

open Effects

/-- A medium of a video with the kind and the number that its entry depends on. -/
structure AdobeMedia where
  kind : String
  media : Media
  index : ℕ

def adobeNumbered (kind : String) (media : List Media) : List AdobeMedia :=
  media.mapIdx fun i m => ⟨kind, m, i + 1⟩

/-- The media of a video request in the order of the uploads. -/
def VideoRequest.adobeMedia (r : VideoRequest) : List AdobeMedia :=
  adobeNumbered "image"
      (inlineImages r.sourceImage r.sourceImages ++ r.referenceImages.map .asset) ++
    r.startFrame.toList.map (fun m => ⟨"frame", .asset m, 1⟩) ++
    r.endFrame.toList.map (fun m => ⟨"frame", .asset m, 2⟩) ++
    adobeNumbered "video" (r.referenceVideos.map .asset) ++
    adobeNumbered "audio" (r.audioReferences.map .asset)

def adobeImageReference (model mediaID : String) : AdobeReference where
  id := mediaID
  usage := if model = "gpt-image-2" then "subject" else "general"
  promptReference := 0

def adobeVideoReference (model kind mediaID : String) (index : ℕ) : AdobeReference where
  id := mediaID
  usage :=
    if kind = "frame" then
      if model = "seedance-2.0" ∨ model = "seedance-2.0-fast" ∨ model = "kling-3.0-omni" then
        "keyframe"
      else "general"
    else if kind = "image" then if model = "veo-3.1" then "asset" else "style"
    else if kind = "video" ∨ kind = "audio" then "source"
    else ""
  promptReference := if kind = "frame" then index else 0

namespace Worker

variable (taskTimeout : Time) (ticks : ℕ)

/-- `domain.Account{}`. -/
def noAccount : WorkerAccount where
  id := 0
  providerID := .adobe
  status := .disabled
  generationPermissionStatus := .unknown
  cooldownUntil := none
  accessTokenExpiresAt := none
  lastCheckedAt := none
  totalTokens := 0
  reservedTokens := 0
  proxyURL := ""

/-- `return account, "", nil, err`: without an error the client is nil. -/
def withoutClient (account : WorkerAccount) (x : Work Returned) : Work (WorkerAccount × Bool) := do
  orReturn x
  return (account, false)

def prepareAdobeTask (task : Task) : Work (WorkerAccount × Bool) := do
  match task.reservedAccount with
  | none => withoutClient noAccount (fail "invalid_task_state" noReservedAccount)
  | some accountID =>
    match ← perform (.getAccount accountID) with
    | .error err => withoutClient noAccount (fail "account_not_found" err)
    | .ok account =>
      if ← routeableNow account then
        match ← perform (.token account) with
        | .error _ => withoutClient account yieldForReroute
        | .ok account =>
          match ← perform (.check .client) with
          | .error err => withoutClient account (fail "client_error" err)
          | .ok () => do
            orReturn (updateTokens (some account.totalTokens) none)
            return (account, true)
      else withoutClient account yieldForReroute

def resumeAdobeTask (task : Task) (accountID : UUID) : Work (WorkerAccount × Bool) := do
  if ← deadlinePassed task.upstreamDeadlineAt then
    withoutClient noAccount (markSubmissionUncertain task.accountID "upstream_deadline_exceeded"
      "Adobe generation deadline exceeded")
  else
    match ← perform (.getAccount accountID) with
    | .error err =>
      withoutClient noAccount
        (markSubmissionUncertain task.accountID "account_not_found" err.text)
    | .ok account =>
      match ← perform (.token account) with
      | .error err => withoutClient account (retrySession task account err)
      | .ok account =>
        match ← perform (.check .client) with
        | .error err => withoutClient account (retrySession task account err)
        | .ok () => return (account, true)

/-- An upload through the client, which may be nil. -/
def uploadVia (client : Bool) (account : WorkerAccount) (media : Media)
    (failed : GoError → Work (Uploaded String)) : Work (Uploaded String) :=
  if client then upload account media failed else panics

/-- An Adobe task: resumed, or submitted after its checks and uploads. -/
def processAdobe (checks : List (Check × String)) (registered : Bool)
    (uploads : WorkerAccount × Bool → Work References) (poll : PolledJob → ℕ → Work Unit)
    (task : Task) : Work Unit := do
  match task.submittedGeneration with
  | some (generationID, accountID) => do
    let (account, client) ← resumeAdobeTask task accountID
    poll ⟨generationID, account, client, task.upstreamDeadlineAt⟩ ticks
  | none => do
    requireAPIKey task
    if registered then require .provider "provider_unavailable"
    let (account, client) ← prepareAdobeTask task
    checks.forM fun c => require c.1 c.2
    let references ← uploads (account, client)
    let account ← enforceSubmissionFence account.id
    waitForSubmit account
    let (generationID, _, deadline) ← submit .adobe client taskTimeout account references
      (perform (.build references))
    poll ⟨generationID, account, client, some deadline⟩ ticks

/-- One image of an image task: a failure ends the run. -/
def uploadAdobeImage (account : WorkerAccount × Bool) (media : Media) : Work (Uploaded String) :=
  read media (failRun "invalid_source_image") fun _ =>
    uploadVia account.2 account.1 media (failRun "upload_failed")

def processAdobeImage (task : Task) (req : ImageRequest) : Work Unit :=
  processAdobe taskTimeout ticks [(.model, "unsupported_model"), (.size, "invalid_size")] true
    (fun account => do
      let (ids, _) ← uploadAll account.1 (uploadAdobeImage account) req.media
      return .referenceBlobs (ids.map (adobeImageReference req.model)))
    pollAdobeImage task

/-- The closure `upload` of the videos. -/
def uploadAdobeMedia (account : WorkerAccount × Bool) (model : String) (m : AdobeMedia) :
    Work (Uploaded AdobeReference) :=
  read m.media (abandon "invalid_source_media") fun _ => do
    match ← uploadVia account.2 account.1 m.media (skip "upload_failed") with
    | .added mediaID => return .added (adobeVideoReference model m.kind mediaID m.index)
    | .skipped => return .skipped
    | .abandoned => return .abandoned

/-- `uploadAdobeVideoReferences`: a medium that cannot be read ends the uploads without
references, one that cannot be uploaded is left out. -/
def uploadAdobeVideoReferences (account : WorkerAccount × Bool) (req : VideoRequest) :
    Work (List AdobeReference) := do
  let (references, complete) ← uploadAll account.1 (uploadAdobeMedia account req.model)
    req.adobeMedia
  return if complete then references else []

def processAdobeVideo (task : Task) (req : VideoRequest) : Work Unit :=
  processAdobe taskTimeout ticks [(.model, "unsupported_model"), (.size, "invalid_size")] false
    (fun account => do
      let references ← uploadAdobeVideoReferences account req
      return .referenceBlobs references)
    pollAdobeVideo task

end Worker

end GenerationGateway

import GenerationGateway.Assets.Uploads
import GenerationGateway.HttpApi.MediaModels

/-!
# Uploads of a video request

The parser removes its uploads when it fails, and the handler removes them once more when no task
was created. So a request leaves the files behind that its task names, and none when there is no
task.
-/

namespace GenerationGateway.Assets

open Attempts Bytes Paths Relational Text VideoSpecs

section Video

variable (s : Store) (formats : Formats) (limits : UploadLimits) (scan : String → Option ℤ)

/-- The model's own bound, when it is the smaller one. -/
def maxReferenceVideoBytes (limits : UploadLimits) (model : String) : ℤ :=
  match parsePublicMediaModelID model with
  | .error _ => limits.maxVideoBytes
  | .ok (provider, model) =>
    match getForProvider provider model with
    | none => limits.maxVideoBytes
    | some spec =>
      if 0 < spec.maxReferenceVideoBytes ∧ spec.maxReferenceVideoBytes < limits.maxVideoBytes then
        spec.maxReferenceVideoBytes
      else limits.maxVideoBytes

def takeGenerateAudio (raw : String) : Parsing VideoRequest Unit :=
  if raw = "" then pure ()
  else
    match parseBool raw with
    | none => Attempt.fail (.text "generate_audio must be true or false")
    | some value => Attempt.change fun st => ({ st.1 with generateAudio := some value }, st.2)

def videoImages (form : Form) : List FileHeader := form.files "image" ++ form.files "image[]"
def videoFiles (form : Form) : List FileHeader := form.files "video" ++ form.files "video[]"
def audioFiles (form : Form) : List FileHeader := form.files "audio" ++ form.files "audio[]"

def videoForm (form : Form) : Parsing VideoRequest Unit := do
  (videoImages form).forM <| takeUpload s formats limits.maxImageBytes isImageMedia
    "reference images must be PNG, JPEG or WebP"
    fun asset req => { req with referenceImages := req.referenceImages ++ [asset] }
  takeSingle s formats limits.maxImageBytes "start_frame" "start_frame must be PNG, JPEG or WebP"
    (fun asset req => { req with startFrame := some asset }) (form.files "start_frame")
  takeSingle s formats limits.maxImageBytes "end_frame" "end_frame must be PNG, JPEG or WebP"
    (fun asset req => { req with endFrame := some asset }) (form.files "end_frame")
  (videoFiles form).forM <| takeUpload s formats
    (maxReferenceVideoBytes limits (form.value "model")) isVideoMedia
    "reference videos must be MP4, MOV or WebM"
    fun asset req => { req with referenceVideos := req.referenceVideos ++ [asset] }
  (audioFiles form).forM <| takeUpload s formats limits.maxAudioBytes isAudioMedia
    "reference audio must be MP3, WAV, M4A, AAC or OGG"
    fun asset req => { req with referenceAudios := req.referenceAudios ++ [asset] }
  takeGenerateAudio (trimSpace (form.value "generate_audio"))
  takeNumber scan (form.value "duration") "duration must be an integer"
    fun n req => { req with duration := n }

/-- The files that a form uploads, in the order of their saves. -/
def videoUploads (form : Form) : List FileHeader :=
  videoImages form ++ form.files "start_frame" ++ form.files "end_frame" ++ videoFiles form ++
    audioFiles form

/-- The clean-up lists the videos before the frames. -/
theorem cleanup_perm (images starts ends videos audios : List FileHeader) :
    (images ++ videos ++ starts ++ ends ++ audios).Perm
      (images ++ starts ++ ends ++ videos ++ audios) := by
  apply List.Perm.append_right
  simp only [List.append_assoc]
  apply List.Perm.append_left
  rw [← List.append_assoc starts]
  exact List.perm_append_comm

/-- The request names these uploads. -/
structure VideoFiles (images starts ends videos audios : List FileHeader) (req : VideoRequest) :
    Prop where
  referenceImages : req.referenceImages = images.map (FileHeader.asset formats)
  startFrame : req.startFrame.toList = starts.map (FileHeader.asset formats)
  endFrame : req.endFrame.toList = ends.map (FileHeader.asset formats)
  referenceVideos : req.referenceVideos = videos.map (FileHeader.asset formats)
  referenceAudio : req.referenceAudio = none
  referenceAudios : req.referenceAudios = audios.map (FileHeader.asset formats)

section VideoFiles

variable {s formats} {before : Disk} {images starts ends videos audios uploads : List FileHeader}
  {req : VideoRequest} {st : VideoRequest × Disk}

theorem VideoFiles.assets (hfiles : VideoFiles formats images starts ends videos audios req) :
    cleanupVideoAssets req =
      (images ++ videos ++ starts ++ ends ++ audios).map (FileHeader.asset formats) := by
  simp only [cleanupVideoAssets, VideoRequest.audioReferences, hfiles.referenceImages,
    hfiles.startFrame, hfiles.endFrame, hfiles.referenceVideos, hfiles.referenceAudio,
    hfiles.referenceAudios, List.map_append]
  rfl

theorem VideoFiles.tidy
    (hst : Taken s before uploads (VideoFiles formats images starts ends videos audios) st)
    (hperm : (images ++ videos ++ starts ++ ends ++ audios).Perm uploads) :
    Tidy s cleanupVideoAssets before st := by
  intro p
  rw [hst.1.assets]
  exact (hst.2.perm hperm).removeAll p

end VideoFiles

def videoRequestOf (form : Form) : VideoRequest where
  model := form.value "model"
  prompt := form.value "prompt"
  size := form.value "size"
  resolution := form.value "resolution"
  referenceStrength := form.value "reference_strength"

theorem takeGenerateAudio_meets {before : Disk} {uploads : List FileHeader} {F : VideoRequest → Prop}
    {E : VideoRequest × Disk → Prop} {raw : String}
    (hadd : ∀ value r, F r → F { r with generateAudio := some value })
    (hfail : ∀ st, Taken s before uploads F st → E st) :
    Attempt.Meets (Taken s before uploads F) (takeGenerateAudio raw)
      (fun _ => Taken s before uploads F) E := by
  unfold takeGenerateAudio
  split_ifs
  · exact Attempt.Meets.pure () fun _ hst => hst
  · cases parseBool raw with
    | none => exact Attempt.Meets.fail _ hfail
    | some value => exact Attempt.Meets.change fun st hst => taken_pair (hadd value st.1 hst.1) hst.2

theorem videoForm_meets (form : Form) (before : Disk) :
    Attempt.Meets (Taken s before [] (VideoFiles formats [] [] [] [] []))
      (videoForm s formats limits scan form)
      (fun _ => Taken s before (videoUploads form) (VideoFiles formats (videoImages form)
        (form.files "start_frame") (form.files "end_frame") (videoFiles form) (audioFiles form)))
      (Tidy s cleanupVideoAssets before) := by
  unfold videoForm
  apply Attempt.Meets.bind
  · apply takeUploads_meets (F := fun done => VideoFiles formats done [] [] [] [])
    · rintro done h r hr
      exact { hr with referenceImages := by simp [hr.referenceImages] }
    · intro done st hst
      exact VideoFiles.tidy hst (by simp)
  intro _
  apply Attempt.Meets.bind
  · apply takeSingle_meets (F := fun done => VideoFiles formats (videoImages form) done [] [] [])
    · rintro h r hr
      exact { hr with startFrame := rfl }
    · intro st hst
      exact VideoFiles.tidy hst (by simp)
  intro _
  apply Attempt.Meets.bind
  · apply takeSingle_meets
      (F := fun done => VideoFiles formats (videoImages form) (form.files "start_frame") done [] [])
    · rintro h r hr
      exact { hr with endFrame := rfl }
    · intro st hst
      exact VideoFiles.tidy hst (by simp)
  intro _
  apply Attempt.Meets.bind
  · apply takeUploads_meets (F := fun done => VideoFiles formats (videoImages form)
      (form.files "start_frame") (form.files "end_frame") done [])
    · rintro done h r hr
      exact { hr with referenceVideos := by simp [hr.referenceVideos] }
    · intro done st hst
      apply VideoFiles.tidy hst
      simpa using cleanup_perm (videoImages form) (form.files "start_frame")
        (form.files "end_frame") done []
  intro _
  apply Attempt.Meets.bind
  · apply takeUploads_meets (F := fun done => VideoFiles formats (videoImages form)
      (form.files "start_frame") (form.files "end_frame") (videoFiles form) done)
    · rintro done h r hr
      exact { hr with referenceAudios := by simp [hr.referenceAudios] }
    · intro done st hst
      exact VideoFiles.tidy hst (cleanup_perm _ _ _ _ _)
  intro _
  have htidy (st : VideoRequest × Disk) (hst : Taken s before (videoUploads form)
      (VideoFiles formats (videoImages form) (form.files "start_frame") (form.files "end_frame")
        (videoFiles form) (audioFiles form)) st) : Tidy s cleanupVideoAssets before st :=
    VideoFiles.tidy hst (cleanup_perm _ _ _ _ _)
  apply Attempt.Meets.bind
  · exact takeGenerateAudio_meets s (fun value r hr => { hr with }) htidy
  intro _
  exact takeNumber_meets (fun _ n r hr => { hr with }) htidy

/-- The form, or the error of its parsing. The deferred clean-up sees the request so far. -/
def parseVideoMultipart (form : Except AssetError Form) (disk : Disk) :
    Except AssetError VideoRequest × Disk :=
  match form with
  | .error e => (.error e, disk)
  | .ok form =>
    match videoForm s formats limits scan form (videoRequestOf form, disk) with
    | (.ok (), req, disk') => (.ok req, disk')
    | (.error e, req, disk') => (.error e, s.cleanupVideoRequest req disk')

section VideoMultipart

variable {s formats limits scan} {form : Except AssetError Form} {disk disk' : Disk}
  {req : VideoRequest}

variable (s formats limits scan form disk) in
/-- The deferred clean-up takes back what a refused form has saved. -/
theorem parseVideoMultipart_meets :
    match parseVideoMultipart s formats limits scan form disk with
    | (.error _, disk') => ∀ p, disk'.get? p = disk.get? p
    | (.ok req, disk') => ∃ form', form = .ok form' ∧
        VideoFiles formats (videoImages form') (form'.files "start_frame")
          (form'.files "end_frame") (videoFiles form') (audioFiles form') req ∧
        Kept s disk (videoUploads form') disk' := by
  unfold parseVideoMultipart
  cases form with
  | error e => exact fun _ => rfl
  | ok form =>
    have hform := videoForm_meets s formats limits scan form disk (videoRequestOf form, disk)
      ⟨⟨rfl, rfl, rfl, rfl, rfl, rfl⟩, Kept.nil s disk⟩
    dsimp only
    cases hr : videoForm s formats limits scan form (videoRequestOf form, disk) with
    | mk r st =>
      rw [hr] at hform
      cases r with
      | ok _ => exact ⟨form, rfl, hform⟩
      | error e => exact hform

theorem parseVideoMultipart_error {e : AssetError}
    (h : parseVideoMultipart s formats limits scan form disk = (.error e, disk')) (p : Path) :
    disk'.get? p = disk.get? p := by
  have hmeets := parseVideoMultipart_meets s formats limits scan form disk
  rw [h] at hmeets
  exact hmeets p

theorem parseVideoMultipart_ok
    (h : parseVideoMultipart s formats limits scan form disk = (.ok req, disk')) :
    ∃ form', form = .ok form' ∧ VideoFiles formats (videoImages form') (form'.files "start_frame")
      (form'.files "end_frame") (videoFiles form') (audioFiles form') req ∧
      Kept s disk (videoUploads form') disk' := by
  have hmeets := parseVideoMultipart_meets s formats limits scan form disk
  rw [h] at hmeets
  exact hmeets

end VideoMultipart

/-- The fields that a JSON body can set. -/
structure PublicVideoJSONRequest where
  model : String
  prompt : String
  duration : ℤ
  size : String
  resolution : String
  generateAudio : Option Bool

def PublicVideoJSONRequest.domainRequest (req : PublicVideoJSONRequest) : VideoRequest where
  model := req.model
  prompt := req.prompt
  duration := req.duration
  size := req.size
  resolution := req.resolution
  generateAudio := req.generateAudio

/-- The request of the handler, and whether its parsing failed. -/
def readVideoRequest (body : Body PublicVideoJSONRequest) (disk : Disk) :
    VideoRequest × Bool × Disk :=
  match body with
  | .multipart form =>
    match parseVideoMultipart s formats limits scan form disk with
    | (.ok req, disk') => (req, true, disk')
    | (.error _, disk') => ({}, false, disk')
  | .json decoded err => (decoded.domainRequest, err.isNone, disk)

/-- `createTask` says whether the request makes a new task. -/
def videoGeneration (createTask : VideoRequest → Bool) (body : Body PublicVideoJSONRequest)
    (disk : Disk) : Bool × Disk :=
  let (req, parsed, disk') := readVideoRequest s formats limits scan body disk
  if parsed && createTask req then (true, disk') else (false, s.cleanupVideoRequest req disk')

theorem cleanupVideoRequest_none {req : VideoRequest} (h : cleanupVideoAssets req = [])
    (disk : Disk) : s.cleanupVideoRequest req disk = disk := by
  rw [Store.cleanupVideoRequest, h]
  rfl

end Video

end GenerationGateway.Assets

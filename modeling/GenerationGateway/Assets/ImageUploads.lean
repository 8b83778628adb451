import GenerationGateway.Assets.Uploads

/-!
# Uploads of an image request

The image handler cleans up as the video handler does, with two ways out that leave the wrong
files: a delivery that is refused last, and a body that does not decode.
-/

namespace GenerationGateway.Assets

open Attempts Bytes Paths Relational Text

section Image

variable (s : Store) (formats : Formats) (limits : UploadLimits) (scan : String → Option ℤ)

def normalizeAsyncImageDelivery (req : ImageRequest) : Except AssetError ImageRequest :=
  let req := if req.responseFormat = "" then { req with responseFormat := "url" } else req
  if req.responseFormat ≠ "url" ∨ req.outputFormat ≠ "" ∨ req.outputCompression ≠ none then
    .error (.text "asynchronous image tasks only support response_format=url and do not support output_format or output_compression")
  else .ok req

def validatePublicImageRequest (req : ImageRequest) : Except AssetError Unit :=
  if req.isPublic ≠ none ∨ req.styleIDs ≠ [] ∨ req.referenceIDs ≠ [] ∨ req.sourceImage ≠ none ∨
      req.sourceImages ≠ [] ∨ req.referenceImages ≠ [] ∨ req.imageStrength ≠ none ∨
      req.referenceStrength ≠ "" then
    .error (.text "reference images must be uploaded with multipart/form-data using image or image[]")
  else .ok ()

def normalizeAsyncImageRequest (req : ImageRequest) : Except AssetError ImageRequest := do
  validatePublicImageRequest req
  normalizeAsyncImageDelivery req

def imageFiles (form : Form) : List FileHeader := form.files "image" ++ form.files "image[]"

def checkImageStrength (value : String) : Parsing ImageRequest Unit :=
  if value = "" then pure ()
  else Attempt.fail (.text "image_strength is not used by the selected reference-image models; use reference_strength")

def imageForm (form : Form) : Parsing ImageRequest Unit := do
  (imageFiles form).forM <| takeUpload s formats limits.maxImageBytes isImageMedia
    "only PNG, JPEG and WebP are supported"
    fun asset req => { req with referenceImages := req.referenceImages ++ [asset] }
  takeNumber scan (form.value "n") "n must be an integer" fun n req => { req with n := n }
  checkImageStrength (form.value "image_strength")
  takeNumber scan (form.value "output_compression") "output_compression must be an integer"
    fun n req => { req with outputCompression := some n }

/-- The request names these uploads, and asks for the delivery that the form asks for. -/
structure ImageFiles (form : Form) (images : List FileHeader) (req : ImageRequest) : Prop where
  referenceImages : req.referenceImages = images.map (FileHeader.asset formats)
  responseFormat : req.responseFormat = form.value "response_format"
  outputFormat : req.outputFormat = form.value "output_format"
  outputCompression : req.outputCompression ≠ none → form.value "output_compression" ≠ ""

theorem ImageFiles.tidy {s : Store} {formats : Formats} {before : Disk} {form : Form}
    {images : List FileHeader} {st : ImageRequest × Disk}
    (hst : Taken s before images (ImageFiles formats form images) st) :
    Tidy s ImageRequest.referenceImages before st := by
  intro p
  rw [hst.1.referenceImages]
  exact hst.2.removeAll p

theorem imageForm_meets (form : Form) (before : Disk) :
    Attempt.Meets (Taken s before [] (ImageFiles formats form []))
      (imageForm s formats limits scan form)
      (fun _ => Taken s before (imageFiles form) (ImageFiles formats form (imageFiles form)))
      (Tidy s ImageRequest.referenceImages before) := by
  unfold imageForm
  apply Attempt.Meets.bind
  · apply takeUploads_meets (F := ImageFiles formats form)
    · intro done h r hr
      exact { hr with referenceImages := by simp [hr.referenceImages] }
    · intro done st hst
      exact ImageFiles.tidy hst
  intro _
  apply Attempt.Meets.bind
  · exact takeNumber_meets (fun _ n r hr => { hr with }) fun st hst => ImageFiles.tidy hst
  intro _
  have hstrength : Attempt.Meets
      (Taken s before (imageFiles form) (ImageFiles formats form (imageFiles form)))
      (checkImageStrength (form.value "image_strength"))
      (fun _ => Taken s before (imageFiles form) (ImageFiles formats form (imageFiles form)))
      (Tidy s ImageRequest.referenceImages before) := by
    unfold checkImageStrength
    split_ifs
    · exact Attempt.Meets.pure () fun _ hst => hst
    · exact Attempt.Meets.fail _ fun st hst => ImageFiles.tidy hst
  apply hstrength.bind
  intro _
  apply takeNumber_meets
  · intro hvalue n r hr
    exact { hr with outputCompression := fun _ => hvalue }
  · exact fun st hst => ImageFiles.tidy hst

def imageRequestOf (form : Form) : ImageRequest where
  model := form.value "model"
  prompt := form.value "prompt"
  size := form.value "size"
  responseFormat := form.value "response_format"
  quality := form.value "quality"
  outputFormat := form.value "output_format"
  background := form.value "background"
  moderation := form.value "moderation"
  referenceStrength := form.value "reference_strength"

def checkImageFiles (form : Form) : Except AssetError Unit :=
  if form.files "mask" ≠ [] then
    .error (.text "mask editing is not exposed by the selected Leonardo models")
  else if imageFiles form = [] then .error (.text "image is required")
  else if 6 < (imageFiles form).length then
    .error (.text "at most 6 reference images are supported")
  else .ok ()

/-- The last check overwrites the request before the deferred clean-up sees it. -/
def parseAsyncImageMultipart (form : Except AssetError Form) (disk : Disk) :
    Except AssetError ImageRequest × Disk :=
  match form with
  | .error e => (.error e, disk)
  | .ok form =>
    match checkImageFiles form with
    | .error e => (.error e, disk)
    | .ok () =>
      match imageForm s formats limits scan form (imageRequestOf form, disk) with
      | (.error e, req, disk') => (.error e, s.cleanupImageRequest req disk')
      | (.ok (), req, disk') =>
        match normalizeAsyncImageDelivery req with
        | .error e => (.error e, s.cleanupImageRequest {} disk')
        | .ok req => (.ok req, disk')

def readImageRequest (body : Body ImageRequest) (disk : Disk) : ImageRequest × Bool × Disk :=
  match body with
  | .multipart form =>
    match parseAsyncImageMultipart s formats limits scan form disk with
    | (.ok req, disk') => (req, true, disk')
    | (.error _, disk') => ({}, false, disk')
  | .json decoded (some _) => (decoded, false, disk)
  | .json decoded none =>
    match normalizeAsyncImageRequest decoded with
    | .ok req => (req, true, disk)
    | .error _ => ({}, false, disk)

def createAsyncImage (createTask : ImageRequest → Bool) (body : Body ImageRequest) (disk : Disk) :
    Bool × Disk :=
  let (req, parsed, disk') := readImageRequest s formats limits scan body disk
  if parsed && createTask req then (true, disk') else (false, s.cleanupImageRequest req disk')

/-- The form asks for a delivery that tasks do not have. -/
def Form.deliveryRefused (form : Form) : Prop :=
  form.value "response_format" ≠ "" ∧ form.value "response_format" ≠ "url" ∨
    form.value "output_format" ≠ "" ∨ form.value "output_compression" ≠ ""

section ImageMultipart

variable {s formats limits scan} {form : Form} {req req' : ImageRequest} {disk disk' : Disk}

theorem normalizeAsyncImageDelivery_ok (h : normalizeAsyncImageDelivery req = .ok req') :
    req'.referenceImages = req.referenceImages := by
  unfold normalizeAsyncImageDelivery at h
  dsimp only at h
  split_ifs at h
  · injection h with h
    rw [← h]
  · injection h with h
    rw [← h]

theorem normalizeAsyncImageDelivery_error {images : List FileHeader} {e : AssetError}
    (hfiles : ImageFiles formats form images req)
    (h : normalizeAsyncImageDelivery req = .error e) : form.deliveryRefused := by
  have hrefused : (req.responseFormat ≠ "" ∧ req.responseFormat ≠ "url") ∨
      req.outputFormat ≠ "" ∨ req.outputCompression ≠ none := by
    unfold normalizeAsyncImageDelivery at h
    dsimp only at h
    split_ifs at h with hempty hbad hbad
    · exact .inr (by simpa using hbad)
    · simpa [hempty] using hbad
  rw [hfiles.responseFormat, hfiles.outputFormat] at hrefused
  exact hrefused.imp id (Or.imp id hfiles.outputCompression)

theorem normalizeAsyncImageRequest_ok (h : normalizeAsyncImageRequest req = .ok req') :
    req'.referenceImages = [] := by
  unfold normalizeAsyncImageRequest at h
  cases hvalid : validatePublicImageRequest req with
  | error e =>
    rw [hvalid] at h
    cases h
  | ok _ =>
    rw [hvalid] at h
    have hnone : req.referenceImages = [] := by
      unfold validatePublicImageRequest at hvalid
      split_ifs at hvalid with hused
      simp only [not_or, not_not] at hused
      tauto
    have hdelivery : normalizeAsyncImageDelivery req = .ok req' := h
    rw [normalizeAsyncImageDelivery_ok hdelivery, hnone]

variable (s formats limits scan form disk) in
/-- The deferred clean-up takes back what a refused form has saved, but for one that is refused
for its delivery. -/
theorem parseAsyncImageMultipart_meets :
    match parseAsyncImageMultipart s formats limits scan (.ok form) disk with
    | (.error _, disk') => (∀ p, disk'.get? p = disk.get? p) ∨
        form.deliveryRefused ∧ imageFiles form ≠ [] ∧ Kept s disk (imageFiles form) disk'
    | (.ok req, disk') => req.referenceImages = (imageFiles form).map (FileHeader.asset formats) ∧
        Kept s disk (imageFiles form) disk' := by
  have hform := imageForm_meets s formats limits scan form disk (imageRequestOf form, disk)
    ⟨⟨rfl, rfl, rfl, fun h => absurd rfl h⟩, Kept.nil s disk⟩
  unfold parseAsyncImageMultipart
  dsimp only
  cases hcheck : checkImageFiles form with
  | error e => exact .inl fun _ => rfl
  | ok _ =>
    have hsome : imageFiles form ≠ [] := by
      intro hnone
      unfold checkImageFiles at hcheck
      split_ifs at hcheck
    dsimp only
    cases hr : imageForm s formats limits scan form (imageRequestOf form, disk) with
    | mk r st =>
      rw [hr] at hform
      cases r with
      | error e => exact .inl hform
      | ok _ =>
        dsimp only
        cases hdelivery : normalizeAsyncImageDelivery st.1 with
        | error e =>
          exact .inr ⟨normalizeAsyncImageDelivery_error hform.1 hdelivery, hsome, hform.2⟩
        | ok req =>
          refine ⟨?_, hform.2⟩
          rw [normalizeAsyncImageDelivery_ok hdelivery]
          exact hform.1.referenceImages

theorem parseAsyncImageMultipart_ok
    (h : parseAsyncImageMultipart s formats limits scan (.ok form) disk = (.ok req, disk')) :
    req.referenceImages = (imageFiles form).map (FileHeader.asset formats) ∧
      Kept s disk (imageFiles form) disk' := by
  have hmeets := parseAsyncImageMultipart_meets s formats limits scan form disk
  rw [h] at hmeets
  exact hmeets

theorem parseAsyncImageMultipart_error {e : AssetError}
    (h : parseAsyncImageMultipart s formats limits scan (.ok form) disk = (.error e, disk')) :
    (∀ p, disk'.get? p = disk.get? p) ∨
      form.deliveryRefused ∧ imageFiles form ≠ [] ∧ Kept s disk (imageFiles form) disk' := by
  have hmeets := parseAsyncImageMultipart_meets s formats limits scan form disk
  rw [h] at hmeets
  exact hmeets

end ImageMultipart

theorem cleanupImageRequest_none {req : ImageRequest} (h : req.referenceImages = []) (disk : Disk) :
    s.cleanupImageRequest req disk = disk := by
  rw [Store.cleanupImageRequest, h]
  rfl

end Image

end GenerationGateway.Assets

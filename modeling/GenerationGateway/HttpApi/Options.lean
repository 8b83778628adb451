import GenerationGateway.Domain.ImageOptions
import GenerationGateway.Domain.Requests
import GenerationGateway.Domain.VideoSpecs
import GenerationGateway.Library.Checks

/-!
# Options of a request

The checks of an image request and the defaults and checks of a video request. The
endpoints that create a task and the endpoints that estimate one share them.
-/

namespace GenerationGateway

open Checks ImageOptions VideoSpecs

/-- A model of the catalog, as far as the handlers read it. -/
structure ModelConfig where
  id : String
  capabilities : List String
  enabled : Bool
  deriving DecidableEq

/-- Whether a list of an API key or of a model names an entry. -/
def allowed (list : List String) (m : String) : Bool := list.any fun v => v = "*" || v = m

/-- The error of a check; the durations of a reference video are printed with two decimals. -/
inductive OptionError
  | text (message : String)
  | size (err : SizeError)
  /-- "reference video duration must be at least %.2f seconds for %s" -/
  | videoTooShort (bound : ℚ) (model : String)
  /-- "reference video duration must not exceed %.2f seconds for %s" -/
  | videoTooLong (bound : ℚ) (model : String)
  deriving DecidableEq

/-! ### Image options -/

def validateImageCount (req : ImageRequest) : Except OptionError Unit :=
  check (0 ≤ req.n && req.n ≤ 4) (.text "n must be between 1 and 4")

/-- The routes that make one image a request. -/
def validateSingleImage (req : ImageRequest) : Except OptionError Unit :=
  check (!(isGPTImage2 req.model || isAdobeImageModel req.provider req.model) || req.n ≤ 1)
    (.text "selected image route currently supports n=1")

def validateQuality (req : ImageRequest) (model : ModelConfig) : Except OptionError Unit := do
  if isGPTImage2 req.model then
    let quality := if req.quality = "" then "auto" else req.quality
    check (["auto", "low", "medium", "high"].contains quality)
      (.text "quality must be auto, low, medium or high")
    check (allowed model.capabilities "quality")
      (.text "quality is not supported by the selected model")
  else
    check (req.quality = "") (.text "quality is supported only by gpt-image-2")

def validateImageOptions (req : ImageRequest) (model : ModelConfig) : Except OptionError Unit := do
  match parseSizeForProvider req.provider req.model req.size with
  | .error err => throw (.size err)
  | .ok _ => pure ()
  validateQuality req model
  check (["", "auto", "opaque"].contains req.background)
    (.text "background must be auto or opaque; transparent is not supported")
  check (["", "auto"].contains req.moderation)
    (.text "the selected provider does not expose adjustable moderation; moderation must be auto")

/-! ### Video options -/

def supportsVideoGeneration (model : ModelConfig) : Bool :=
  allowed model.capabilities "text-to-video" || allowed model.capabilities "image-to-video"

/-- The values of a request after the defaults of its model. -/
def fillAudio (spec : Spec) (generateAudio : Option Bool) : Option Bool :=
  if generateAudio = none ∧ spec.supportsGenerateAudio = true then some true else generateAudio

def fillSize (spec : Spec) (size resolution : String) : String :=
  if size = "" then spec.filledSize resolution else size

def fillDuration (spec : Spec) (duration : ℤ) : ℤ :=
  if duration = 0 then spec.defaultDuration else duration

def fillResolution (spec : Spec) (size resolution : String) : String :=
  if resolution = "" then spec.filledResolution size else resolution

def VideoRequest.filled (req : VideoRequest) (spec : Spec) : VideoRequest :=
  let size := fillSize spec req.size req.resolution
  { req with
    generateAudio := fillAudio spec req.generateAudio
    size := size
    duration := fillDuration spec req.duration
    resolution := fillResolution spec size req.resolution }

/-- A reference video is as long as the job. -/
def validateReferenceDuration (req : VideoRequest) (spec : Spec) : Except OptionError Unit := do
  check (req.referenceVideos.isEmpty || spec.minVideoDuration ≤ 0 ||
      spec.minVideoDuration ≤ (req.duration : ℚ))
    (.videoTooShort spec.minVideoDuration req.model)
  check (req.referenceVideos.isEmpty || spec.maxVideoDuration ≤ 0 ||
      (req.duration : ℚ) ≤ spec.maxVideoDuration)
    (.videoTooLong spec.maxVideoDuration req.model)

/-- The checks of the audio option before its default. -/
def validateAudio (req : VideoRequest) (spec : Spec) : Except OptionError Unit := do
  check (req.generateAudio.isNone || spec.supportsGenerateAudio)
    (.text (req.model ++ " does not support generate_audio"))
  check (!spec.alwaysGenerateAudio || req.generateAudio ≠ some false)
    (.text (req.model ++ " always generates native audio; generate_audio cannot be false"))

/-- The checks of the size, the duration and the resolution, in the order of the source. -/
def validateFilled (req : VideoRequest) (spec : Spec) : Except OptionError Unit := do
  check (spec.supportsSize req.size)
    (.text ("unsupported size " ++ req.size ++ " for " ++ req.model))
  check (spec.supportsDuration req.duration)
    (.text ("unsupported duration " ++ toString req.duration ++ " for " ++ req.model))
  validateReferenceDuration req spec
  check (spec.supportsResolution req.resolution)
    (.text ("unsupported resolution " ++ req.resolution ++ " for " ++ req.model))
  check (req.referenceVideos.isEmpty || spec.supportsVideoReferenceResolution req.resolution)
    (.text ("unsupported resolution " ++ req.resolution ++ " for " ++ req.model ++
      " video references"))
  let expected := (spec.resolutionForSize req.size).getD req.resolution
  check (expected = req.resolution)
    (.text ("size " ++ req.size ++ " requires resolution " ++ expected ++ " for " ++ req.model))

/-- veo-3.1 animates reference images only in its default format. -/
def validateVeoImages (req : VideoRequest) : Except OptionError Unit := do
  let unaffected := req.model ≠ "veo-3.1" || req.ordinaryImages = 0
  check (unaffected || req.size = "1280x720")
    (.text "veo-3.1 ordinary reference images require size 1280x720 (16:9)")
  check (unaffected || req.duration = 8)
    (.text "veo-3.1 ordinary reference images require duration 8")

def normalizeVideoOptions (req : VideoRequest) (spec : Spec) : Except OptionError VideoRequest := do
  validateAudio req spec
  let req := req.filled spec
  validateFilled req spec
  validateVeoImages req
  return req

def validateVideoFrameContract (req : VideoRequest) (spec : Spec) : Except OptionError Unit := do
  check (req.startFrame.isNone && req.endFrame.isNone || spec.supportsStartEndFrame)
    (.text (req.model ++ " does not support start_frame or end_frame"))
  check (req.endFrame.isNone || spec.supportsEndFrame)
    (.text (req.model ++ " does not support end_frame"))
  check (req.endFrame.isNone || req.startFrame.isSome) (.text "end_frame requires start_frame")
  check (!spec.requiresStartFrame || req.startFrame.isSome)
    (.text (req.model ++ " requires start_frame"))

end GenerationGateway

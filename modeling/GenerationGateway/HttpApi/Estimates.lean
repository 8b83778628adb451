import GenerationGateway.HttpApi.MediaModels

/-!
# Estimates and admissions

The endpoints that estimate a request and the handlers that create its task, up to the
price that the admission reserves. Each normalizes and checks the request on its own before
it calls the pricing.
-/

namespace GenerationGateway.Estimates

open Checks Text ImageOptions VideoSpecs Pricing

/-- The error of a request: a check (status 400), a prompt over the limit of its model
(400, "prompt_too_long"), a price that is not available (422), or an error of a read. -/
inductive RequestError
  | invalid (err : OptionError)
  | promptTooLong (limit : ℕ) (model : String) (actual : ℕ)
  | costUnavailable
  | store (err : StoreError)
  | admission (code : String)
  deriving DecidableEq

abbrev invalidRequest {α : Type} (message : String) : Except RequestError α :=
  .error (.invalid (.text message))

def checked {α : Type} : Except OptionError α → Except RequestError α :=
  Except.mapError .invalid

/-- One check of a handler. -/
def demand (condition : Bool) (message : String) : Except RequestError Unit :=
  check condition (.invalid (.text message))

def priced {α : Type} : Except PricingError α → Except RequestError α :=
  Except.mapError fun
    | .costUnavailable => .costUnavailable
    | .store err => .store err

def found {α : Type} (message : String) (row : Option α) : Except RequestError α :=
  match row with
  | some row => .ok row
  | none => invalidRequest message

/-! ### The creation of an image task -/

def promptLimits : List (String × ℕ) :=
  [("gpt-image-2", 9999), ("nano-banana-2", 9999), ("nano-banana-pro", 9999),
    ("seedream-5.0-pro", 9999), ("flux-3-video", 5000), ("seedance-2.0", 5000),
    ("seedance-2.0-fast", 5000), ("seedance-2.0-mini", 5000), ("seedance-2.5", 5000),
    ("veo-3.1", 9999), ("veo-3.1-fast", 9999), ("kling-o3-omni", 2500), ("kling-3.0-omni", 2500),
    ("minimax-h3", 2000), ("grok-imagine-1.5", 5000), ("gemini-omni-flash", 5000),
    ("happy-horse-1.1", 5000), ("kling-3.0", 5000), ("kling-3.0-turbo", 5000),
    ("hailuo-2.3", 5000), ("wan-2.7", 5000), ("dialogue-v3", 5000), ("music-v1", 9999),
    ("sound-effects-v2", 9999), ("seedance_v2_mini", 4096)]

def validateModelPrompt (model prompt : String) : Except RequestError Unit :=
  match promptLimits.lookup model with
  | none => .ok ()
  | some limit =>
    check (prompt.length ≤ limit) (.promptTooLong limit model prompt.length)

/-- What a handler finds beside the catalog: the models of the API key, the lookup under the
idempotency key, whether it finds an earlier task, and the circuit of the provider. -/
structure Caller where
  allowedModels : List String
  idempotent : Except RequestError Bool
  circuit : String → Except RequestError Unit

def fillQuality (model quality : String) : String :=
  if isGPTImage2 model ∧ (quality = "" ∨ quality = "auto") then "low" else quality

def fillStrength (imageCount : ℕ) (strength : String) : String :=
  if 0 < imageCount ∧ strength = "" then "MID" else toUpper strength

/-- The checks and defaults of `createTask` before it reads the catalog. -/
def normalizeImageTask (req : ImageRequest) : Except RequestError ImageRequest := do
  checked (validateImageCount req)
  demand (req.styleIDs.isEmpty && req.referenceIDs.isEmpty)
    "style_ids and reference_ids are not exposed by this API"
  checked (validateSingleImage req)
  demand (req.imageCount ≤ 6) "image edits support at most 6 reference images"
  let strength := fillStrength req.imageCount req.referenceStrength
  demand (["", "LOW", "MID", "HIGH"].contains strength)
    "reference_strength must be LOW, MID or HIGH"
  let responseFormat := if req.responseFormat = "" then "url" else req.responseFormat
  demand (responseFormat = "url" && req.outputFormat = "" && req.outputCompression.isNone)
    ("asynchronous image tasks only support response_format=url and do not support " ++
      "output_format or output_compression")
  return { req with
    isPublic := some false
    quality := fillQuality req.model req.quality
    referenceStrength := strength
    responseFormat := responseFormat }

/-- `createTask` up to the price: no estimate stands for an earlier task under the
idempotency key. -/
def priceImageTask (catalog : Catalog) (caller : Caller) (req : ImageRequest) :
    Except RequestError (Option Estimate) := do
  demand (trimSpace req.prompt ≠ "") "prompt is required"
  let route ← checked (resolveMediaModel "image" req.model)
  let req := { req with provider := route.provider, model := route.internalModel }
  validateModelPrompt req.model req.prompt
  let req ← normalizeImageTask req
  demand (allowedMediaModel caller.allowedModels route) "model is not allowed for this API key"
  let model ← found "unknown model" (catalog.getModel route.internalModel)
  demand (allowed model.capabilities "text-to-image") "selected model is not an image model"
  checked (validateImageOptions req model)
  if ← caller.idempotent then return none
  caller.circuit route.provider
  let rules ← found "model provider is unavailable"
    (catalog.providerModelContext route.provider route.internalModel)
  let estimate ← priced (imageForProvider rules route.provider req)
  return some estimate

/-! ### The estimate of an image -/

structure ImageEstimateRequest where
  provider : String := ""
  model : String
  size : String
  quality : String
  n : ℤ
  deriving DecidableEq

structure ImageEstimateResponse where
  model : String
  size : String
  quality : String
  quantity : ℤ
  unitTokens : ℤ
  estimatedTokens : ℤ
  pricingBasis : String := ""
  pricingTier : String := ""
  pricingAnchor : String
  qualityMultiplier : Option ℚ := none
  formula : String := ""
  costParameters : List String := []
  priceVersion : String
  source : String
  deriving DecidableEq

def estimateSize (size : String) : String :=
  let size := toLower (trimSpace size)
  if size = "" ∨ size = "auto" then "1024x1024" else size

def normalizeImageEstimateRequest (req : ImageEstimateRequest) :
    Except OptionError ImageRequest := do
  let model := trimSpace req.model
  check (model ≠ "") (.text "model is required")
  let n := if req.n = 0 then 1 else req.n
  check (1 ≤ n && n ≤ 4) (.text "n must be between 1 and 4")
  check (!(isGPTImage2 model || isAdobeImageModel req.provider model) || n = 1)
    (.text "selected image route currently supports n=1")
  let quality := toLower (trimSpace req.quality)
  check (isGPTImage2 model || quality = "") (.text "quality is supported only by gpt-image-2")
  return {
    provider := req.provider
    model := model
    size := estimateSize req.size
    quality := fillQuality model quality
    n := n }

def nanoBananaTier (ruleSize : String) : String :=
  (([("1024x1024", "small"), ("2048x2048", "medium"), ("4096x4096", "large")] :
    List (String × String)).lookup ruleSize).getD ""

def seedreamTier (ruleSize : String) : String :=
  (([("1024x1024", "standard"), ("2048x2048", "2k")] :
    List (String × String)).lookup ruleSize).getD ""

def qualityMultiplier (quality : String) : ℚ :=
  (([("low", 1), ("medium", 8833 / 1000), ("high", 35167 / 1000)] :
    List (String × ℚ)).lookup quality).getD 0

/-- How the response explains the price. -/
def describeImage (request : ImageRequest) (estimate : Estimate)
    (response : ImageEstimateResponse) : ImageEstimateResponse :=
  if isAdobeImageModel request.provider request.model then
    { response with
      pricingBasis := "provider_rule"
      formula := "adobe_bks_unit_tokens * n"
      costParameters := if request.model = gptImage2 then ["model", "size", "quality", "n"]
        else ["model", "size", "n"] }
  else if request.model = gptImage2 then
    { response with
      pricingBasis := "pixel_formula"
      qualityMultiplier := some (qualityMultiplier request.quality)
      formula := "ceil(width * height / 1000000 * 7 * quality_multiplier) * n"
      costParameters := ["model", "size", "quality", "n"] }
  else if request.model = nanoBanana2 ∨ request.model = nanoBananaPro then
    { response with
      pricingBasis := "size_tier"
      pricingTier := nanoBananaTier estimate.ruleSize
      formula := "size_tier_unit_tokens * n"
      costParameters := ["model", "size", "n"] }
  else if request.model = seedream50Pro then
    { response with
      pricingBasis := "size_threshold"
      pricingTier := seedreamTier estimate.ruleSize
      formula := "(45 + 45 when width>=2016 and height>=1153, or width>=1153 and height>=2016) * n"
      costParameters := ["model", "size", "n"] }
  else response

def estimateImageCost (catalog : Catalog) (rules : RuleStore) (req : ImageEstimateRequest)
    (allowedModels : List String) (enforceAPIKeyModels : Bool) :
    Except RequestError ImageEstimateResponse := do
  let normalized ← checked (normalizeImageEstimateRequest req)
  demand (!enforceAPIKeyModels ||
      allowed allowedModels (mediaModelPermission normalized.provider normalized.model))
    "model is not allowed for this API key"
  let model ← found "unknown model" (catalog.getModel normalized.model)
  demand (allowed model.capabilities "text-to-image") "selected model is not an image model"
  checked (validateImageOptions normalized model)
  let estimate ← priced (imageForProvider rules normalized.provider normalized)
  return describeImage normalized estimate {
    model := normalized.model
    size := normalized.size
    quality := normalized.quality
    quantity := normalized.n
    unitTokens := estimate.unitTokens
    estimatedTokens := estimate.tokens
    pricingAnchor := estimate.ruleSize
    priceVersion := estimate.priceVersion
    source := estimate.source }

def writeImageEstimate (catalog : Catalog) (allowedModels : List String)
    (enforceAPIKeyModels : Bool) (req : ImageEstimateRequest) :
    Except RequestError ImageEstimateResponse := do
  let route ← checked (resolveMediaModel "image" req.model)
  demand (!enforceAPIKeyModels || allowedMediaModel allowedModels route)
    "model is not allowed for this API key"
  let rules ← found "model provider is unavailable"
    (catalog.providerModelContext route.provider route.internalModel)
  let estimate ← estimateImageCost catalog rules
    { req with provider := route.provider, model := route.internalModel } [] false
  return { estimate with model := route.publicModel }

/-! ### The creation of a video task -/

/-- The limits of the reference media, in the order of the source. -/
def validateVideoReferences (req : VideoRequest) (spec : Spec) (model : ModelConfig) :
    Except RequestError Unit := do
  let images := req.ordinaryImages
  let videos := req.referenceVideos.length
  let audios := req.audioReferences.length
  let frames := req.startFrame.isSome || req.endFrame.isSome
  demand ((images = 0 && !frames && videos = 0 && audios = 0) ||
      allowed model.capabilities "image-to-video" || allowed model.capabilities "video-reference")
    "selected video model does not support media references"
  let maxImages := if 0 < videos ∧ 0 < spec.maxReferenceImagesWithVideo then
      spec.maxReferenceImagesWithVideo else spec.maxReferenceImages
  demand (images ≤ maxImages)
    (req.model ++ " supports at most " ++ toString maxImages ++
      " reference images for this reference mode")
  checked (validateVideoFrameContract req spec)
  demand (images = 0 || !frames)
    "reference images cannot be combined with start_frame or end_frame"
  demand (videos = 0 || !frames)
    "reference videos cannot be combined with start_frame or end_frame"
  demand (videos ≤ spec.maxReferenceVideos)
    (req.model ++ " supports at most " ++ toString spec.maxReferenceVideos ++ " reference videos")
  demand (spec.maxReferenceVideoBytes ≤ 0 ||
      req.referenceVideos.all fun reference => reference.size ≤ spec.maxReferenceVideoBytes)
    (req.model ++ " reference videos must not exceed " ++ toString spec.maxReferenceVideoBytes ++
      " bytes")
  demand (audios ≤ spec.maxReferenceAudios)
    (req.model ++ " supports at most " ++ toString spec.maxReferenceAudios ++ " audio references")
  demand (spec.maxReferenceItems = 0 || images + videos + audios ≤ spec.maxReferenceItems)
    (req.model ++ " supports at most " ++ toString spec.maxReferenceItems ++
      " combined image, video and audio references")
  demand (audios = 0 || 0 < images || 0 < videos)
    "an audio reference requires a reference image or video"

/-- `createVideoTask` up to the price. -/
def priceVideoTask (catalog : Catalog) (caller : Caller) (req : VideoRequest) :
    Except RequestError (Option Estimate) := do
  let prompt := trimSpace req.prompt
  demand (prompt ≠ "") "prompt is required"
  let route ← checked (resolveMediaModel "video" req.model)
  let spec ← found "unknown video model" (getForProvider route.provider route.internalModel)
  validateModelPrompt route.internalModel prompt
  let model ← found "unknown video model" (catalog.getModel route.internalModel)
  demand (supportsVideoGeneration model) "unknown video model"
  let strength := if req.referenceStrength = "" then "MID" else req.referenceStrength
  demand (["LOW", "MID", "HIGH"].contains strength) "reference_strength must be LOW, MID or HIGH"
  let req := { req with
    prompt := prompt
    isPublic := some false
    provider := route.provider
    model := route.internalModel
    referenceStrength := strength }
  validateVideoReferences req spec model
  let req ← checked (normalizeVideoOptions req spec)
  demand (allowedMediaModel caller.allowedModels route) "model is not allowed for this API key"
  if ← caller.idempotent then return none
  caller.circuit route.provider
  let rules ← found "model provider is unavailable"
    (catalog.providerModelContext route.provider route.internalModel)
  let estimate ← priced (videoForProvider rules route.provider req)
  return some estimate

/-! ### The estimate of a video -/

structure VideoEstimateRequest where
  provider : String := ""
  model : String
  duration : ℤ
  size : String
  resolution : String
  generateAudio : Option Bool
  hasVideoReference : Bool
  referenceMode : String
  deriving DecidableEq

structure VideoEstimateResponse where
  model : String
  duration : ℤ
  size : String
  resolution : String
  generateAudio : Option Bool
  hasVideoReference : Bool
  referenceMode : String
  baseTokens : ℤ
  estimatedTokens : ℤ
  appliedModifiers : List String
  formula : String
  costParameters : List String
  priceVersion : String
  source : String
  deriving DecidableEq

/-- A file that stands for the references of an estimate. -/
def placeholder (filename : String) : SourceMedia := ⟨filename, "", "", 0, ""⟩

/-- The start frame and the reference images of a reference mode. -/
def estimateReferences (provider model referenceMode : String) :
    Except RequestError (Option SourceMedia × List SourceMedia) :=
  let mode := toLower (trimSpace referenceMode)
  let mode := if mode = "" then "text" else mode
  if provider = adobeProvider ∧ model = adobeKling30Omni then
    if mode = "text" then .ok (none, [])
    else if mode = "frame" then .ok (some (placeholder "cost-estimate-frame"), [])
    else if mode = "image" then .ok (none, [placeholder "cost-estimate-image"])
    else invalidRequest
      "reference_mode must be text, frame or image for kling-3.0-omni on provider adobe"
  else if referenceMode = "" then .ok (none, [])
  else invalidRequest
    "reference_mode is supported only by kling-3.0-omni on provider adobe"

def appliedModifiers (request : VideoRequest) (hasVideoReference : Bool) : List String :=
  (if hasVideoReference then
      if request.model = "kling-o3-omni" then ["kling_o3_video_reference"]
      else if request.model = "flux-3-video" then ["flux_video_reference"]
      else ["seedance_video_reference"]
    else []) ++
  if request.generateAudio = some false ∧
      (request.model = "veo-3.1" ∨ request.model = "veo-3.1-fast" ∨
        (request.model = "kling-o3-omni" ∧ hasVideoReference = false ∧
          request.resolution ≠ "2160p")) then
    ["native_audio_disabled"]
  else []

/-- The formula and the parameters that the response names. -/
def describeVideo (request : VideoRequest) (spec : Spec) : String × List String :=
  if request.provider = "adobe" then
    if request.model = adobeKling30Omni then
      ("active Adobe BKS price rule selected by normalized duration and size/resolution" ++
        ", including the text/frame/image workflow",
        ["model", "duration", "size", "resolution", "reference_mode"])
    else
      ("active Adobe BKS price rule selected by normalized duration and size/resolution",
        ["model", "duration", "size", "resolution"])
  else if spec.resolutionBySize ≠ [] then
    if 0 < spec.maxReferenceVideos then
      ("active_price_rule selected by the normalized size/resolution tier and duration" ++
        ", then the schema video-reference modifier",
        ["model", "duration", "size", "resolution", "has_video_reference"])
    else
      ("active_price_rule selected by the normalized size/resolution tier and duration",
        ["model", "duration", "size", "resolution"])
  else
    ("active_price_rule, then schema modifiers for video reference and native audio",
      ["model", "duration", "resolution", "generate_audio", "has_video_reference"])

def estimateVideoCost (catalog : Catalog) (rules : RuleStore) (req : VideoEstimateRequest)
    (allowedModels : List String) (enforceAPIKeyModels : Bool) :
    Except RequestError VideoEstimateResponse := do
  let modelID := trimSpace req.model
  demand (modelID ≠ "") "model is required"
  demand (!enforceAPIKeyModels || allowed allowedModels (mediaModelPermission req.provider modelID))
    "model is not allowed for this API key"
  let model ← found "unknown model" (catalog.getModel modelID)
  demand (supportsVideoGeneration model) "selected model is not a video model"
  let spec ← found "unknown video model" (getForProvider req.provider modelID)
  let (startFrame, images) ← estimateReferences req.provider modelID req.referenceMode
  demand (!req.hasVideoReference || 0 < spec.maxReferenceVideos)
    (modelID ++ " does not support video references")
  let request ← checked (normalizeVideoOptions {
    provider := req.provider
    model := modelID
    duration := req.duration
    size := toLower (trimSpace req.size)
    resolution := toLower (trimSpace req.resolution)
    generateAudio := req.generateAudio
    startFrame := startFrame
    referenceImages := images
    referenceVideos :=
      if req.hasVideoReference then [placeholder "cost-estimate-reference"] else [] } spec)
  let estimate ← priced (videoForProvider rules request.provider request)
  let mode := toLower (trimSpace req.referenceMode)
  return {
    model := request.model
    duration := request.duration
    size := request.size
    resolution := request.resolution
    generateAudio := request.generateAudio
    hasVideoReference := req.hasVideoReference
    referenceMode := if mode = "" then "text" else mode
    baseTokens := estimate.unitTokens
    estimatedTokens := estimate.tokens
    appliedModifiers := appliedModifiers request req.hasVideoReference
    formula := (describeVideo request spec).1
    costParameters := (describeVideo request spec).2
    priceVersion := estimate.priceVersion
    source := estimate.source }

def writeVideoEstimate (catalog : Catalog) (allowedModels : List String)
    (enforceAPIKeyModels : Bool) (req : VideoEstimateRequest) :
    Except RequestError VideoEstimateResponse := do
  let route ← checked (resolveMediaModel "video" req.model)
  demand (!enforceAPIKeyModels || allowedMediaModel allowedModels route)
    "model is not allowed for this API key"
  let rules ← found "model provider is unavailable"
    (catalog.providerModelContext route.provider route.internalModel)
  let estimate ← estimateVideoCost catalog rules
    { req with provider := route.provider, model := route.internalModel } [] false
  return { estimate with model := route.publicModel }

end GenerationGateway.Estimates

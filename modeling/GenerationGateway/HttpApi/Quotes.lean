import GenerationGateway.HttpApi.Estimates

/-!
# Estimates quote what admissions charge

A request that a handler prices has its options in the form that the estimate would give
them, so the estimate reads the same rule and applies the same formula.
-/

namespace GenerationGateway.Estimates

open Checks Text ImageOptions VideoSpecs Pricing

/-! ### The steps of a handler -/

section Steps

variable {α β : Type}

theorem checked_eq_ok {step : Except OptionError α} {a : α} :
    checked step = .ok a ↔ step = .ok a := by
  cases step <;> simp [checked, Except.mapError]

theorem priced_eq_ok {step : Except PricingError α} {a : α} :
    priced step = .ok a ↔ step = .ok a := by
  cases step <;> simp [priced, Except.mapError]

theorem found_eq_ok {message : String} {row : Option α} {a : α} :
    found message row = .ok a ↔ row = some a := by
  cases row <;> simp [found, invalidRequest]

theorem checked_bind_eq_ok {step : Except OptionError α} {rest : α → Except RequestError β}
    {b : β} : (checked step >>= rest) = .ok b ↔ ∃ a, step = .ok a ∧ rest a = .ok b := by
  simp only [bind_eq_ok, checked_eq_ok]

theorem found_bind_eq_ok {message : String} {row : Option α} {rest : α → Except RequestError β}
    {b : β} : (found message row >>= rest) = .ok b ↔ ∃ a, row = some a ∧ rest a = .ok b := by
  simp only [bind_eq_ok, found_eq_ok]

theorem demand_bind_eq_ok {condition : Bool} {message : String} {rest : Except RequestError β}
    {b : β} : (demand condition message >>= fun _ => rest) = .ok b ↔
      condition = true ∧ rest = .ok b :=
  check_bind_eq_ok

end Steps

theorem normalizeImageTask_ok {req accepted : ImageRequest}
    (h : normalizeImageTask req = .ok accepted) :
    validateImageCount req = .ok () ∧ validateSingleImage req = .ok () ∧
      ∃ strength format, accepted = { req with
        isPublic := some false
        quality := fillQuality req.model req.quality
        referenceStrength := strength
        responseFormat := format } := by
  unfold normalizeImageTask at h
  obtain ⟨⟨⟩, hcount, h⟩ := checked_bind_eq_ok.mp h
  obtain ⟨-, h⟩ := demand_bind_eq_ok.mp h
  obtain ⟨⟨⟩, hsingle, h⟩ := checked_bind_eq_ok.mp h
  obtain ⟨-, h⟩ := demand_bind_eq_ok.mp h
  obtain ⟨-, h⟩ := demand_bind_eq_ok.mp h
  obtain ⟨-, h⟩ := demand_bind_eq_ok.mp h
  cases h
  exact ⟨hcount, hsingle, _, _, rfl⟩

theorem priceImageTask_ok {catalog : Catalog} {caller : Caller} {req : ImageRequest}
    {e : Estimate} (h : priceImageTask catalog caller req = .ok (some e)) :
    ∃ route accepted model rules,
      resolveMediaModel "image" req.model = .ok route ∧
      normalizeImageTask { req with provider := route.provider, model := route.internalModel } =
        .ok accepted ∧
      allowedMediaModel caller.allowedModels route = true ∧
      catalog.getModel route.internalModel = some model ∧
      allowed model.capabilities "text-to-image" = true ∧
      validateImageOptions accepted model = .ok () ∧
      catalog.providerModelContext route.provider route.internalModel = some rules ∧
      imageForProvider rules route.provider accepted = .ok e := by
  unfold priceImageTask at h
  obtain ⟨-, h⟩ := demand_bind_eq_ok.mp h
  obtain ⟨route, hroute, h⟩ := checked_bind_eq_ok.mp h
  obtain ⟨-, -, h⟩ := bind_eq_ok.mp h
  obtain ⟨accepted, haccepted, h⟩ := bind_eq_ok.mp h
  obtain ⟨hallowed, h⟩ := demand_bind_eq_ok.mp h
  obtain ⟨model, hmodel, h⟩ := found_bind_eq_ok.mp h
  obtain ⟨himage, h⟩ := demand_bind_eq_ok.mp h
  obtain ⟨⟨⟩, hoptions, h⟩ := checked_bind_eq_ok.mp h
  obtain ⟨earlier, -, h⟩ := bind_eq_ok.mp h
  cases earlier with
  | true => cases h
  | false =>
    obtain ⟨-, -, h⟩ := bind_eq_ok.mp h
    obtain ⟨rules, hrules, h⟩ := found_bind_eq_ok.mp h
    obtain ⟨estimate, hestimate, h⟩ := bind_eq_ok.mp h
    cases h
    exact ⟨route, accepted, model, rules, hroute, haccepted, hallowed, hmodel, himage, hoptions,
      hrules, priced_eq_ok.mp hestimate⟩

/-! ### Accepted sizes and qualities -/

theorem normalizedProvider_eq (provider : String) :
    normalizedProvider provider =
      if toLower (trimSpace provider) = "" then "leonardo" else toLower (trimSpace provider) := rfl

theorem normalizedProvider_idem (provider : String) :
    normalizedProvider (normalizedProvider provider) = normalizedProvider provider := by
  rw [normalizedProvider_eq provider]
  split_ifs with hempty
  · decide
  · rw [normalizedProvider_eq, toLower_trimSpace_idem, if_neg hempty]

theorem parseSizeForProvider_normalized (provider model size : String) :
    parseSizeForProvider (normalizedProvider provider) model size =
      parseSizeForProvider provider model size := by
  unfold parseSizeForProvider
  rw [normalizedProvider_idem]

/-- A size that is accepted is written as the estimate would write it. -/
theorem pricingSize_of_parse {provider model size : String} {edges : ℤ × ℤ}
    (hok : parseSizeForProvider provider model size = .ok edges) :
    pricingSize size = if size = "" ∨ size = "auto" then "1024x1024" else size := by
  have hcanonical : isCanonical size = true := by
    unfold parseSizeForProvider at hok
    dsimp only at hok
    split_ifs at hok with hempty
    · rcases hempty with rfl | rfl <;> decide
    · split at hok
      · cases hok
      · rename_i w h hedges
        unfold edges? at hedges
        split at hedges
        · rename_i width height hsplit
          split at hedges
          · rename_i hw hh
            exact isCanonical_of_numbers hsplit hw hh
          · cases hedges
        · cases hedges
  unfold pricingSize
  rw [toLower_trimSpace hcanonical]

theorem pricingSize_idem (size : String) : pricingSize (pricingSize size) = pricingSize size := by
  unfold pricingSize
  dsimp only
  split_ifs with hempty htier hother
  · decide
  · decide
  · rw [toLower_trimSpace_idem] at hother
    exact absurd hother hempty
  · exact toLower_trimSpace_idem size

theorem validateQuality_ok {req : ImageRequest} {model : ModelConfig} :
    validateQuality req model = .ok () ↔
      if isGPTImage2 req.model then
        req.quality ∈ ["", "auto", "low", "medium", "high"] ∧
          allowed model.capabilities "quality" = true
      else req.quality = "" := by
  unfold validateQuality
  by_cases hgpt : isGPTImage2 req.model = true
  · simp only [hgpt, if_true, check_bind_eq_ok, check_eq_ok]
    by_cases hempty : req.quality = ""
    · simp [hempty]
    · simp [hempty]
  · simp [hgpt]

/-- The qualities of an accepted request are in small letters, and the default is filled in. -/
theorem toLower_quality {req : ImageRequest} {model : ModelConfig} {raw : String}
    (hquality : req.quality = fillQuality req.model raw)
    (hok : validateQuality req model = .ok ()) : toLower (trimSpace raw) = raw := by
  apply toLower_trimSpace
  rw [validateQuality_ok, hquality] at hok
  unfold fillQuality at hok
  by_cases hgpt : isGPTImage2 req.model = true
  · simp only [hgpt, if_true, true_and] at hok
    by_cases hfilled : raw = "" ∨ raw = "auto"
    · rcases hfilled with rfl | rfl <;> decide
    · rw [if_neg hfilled] at hok
      have hlisted := hok.1
      simp only [List.mem_cons, List.not_mem_nil, or_false] at hlisted
      rcases hlisted with rfl | rfl | rfl | rfl | rfl <;> decide
  · simp only [hgpt, false_and, if_false, Bool.false_eq_true] at hok
    rw [hok]
    decide

/-! ### Images -/

/-- The request that the estimate prices for an accepted one. -/
def estimated (request : ImageRequest) : ImageRequest where
  provider := request.provider
  model := request.model
  size := pricingSize request.size
  quality := request.quality
  n := if request.n = 0 then 1 else request.n

section Estimated

variable (request : ImageRequest)

@[simp] theorem estimated_model : (estimated request).model = request.model := by
  simp only [estimated]

@[simp] theorem estimated_size : (estimated request).size = pricingSize request.size := by
  simp only [estimated]

@[simp] theorem estimated_quality : (estimated request).quality = request.quality := by
  simp only [estimated]

@[simp] theorem estimated_n :
    (estimated request).n = if request.n = 0 then 1 else request.n := by
  simp only [estimated]

end Estimated

theorem imagePricingSize_estimated (provider model size : String) :
    imagePricingSize provider model (pricingSize size) = imagePricingSize provider model size := by
  unfold imagePricingSize
  rw [pricingSize_idem]

theorem parse_leonardo_estimated {size : String} {edges : ℤ × ℤ}
    (hok : parseSizeForProvider "leonardo" gptImage2 size = .ok edges) :
    parseSizeForProvider "leonardo" gptImage2 (pricingSize size) =
      parseSizeForProvider "leonardo" gptImage2 size := by
  rw [pricingSize_of_parse hok]
  split_ifs with hempty
  · rcases hempty with rfl | rfl <;> decide +kernel
  · rfl

theorem imagePricingQuality_estimated (request : ImageRequest) :
    imagePricingQuality (estimated request) = imagePricingQuality request := by
  simp only [imagePricingQuality, estimated_model, estimated_quality]

theorem imageUnitTokens_estimated {provider : String} {request : ImageRequest}
    {rule : ModelCostRule} {edges : ℤ × ℤ}
    (hok : parseSizeForProvider provider request.model request.size = .ok edges) :
    imageUnitTokens provider (estimated request) rule = imageUnitTokens provider request rule := by
  unfold imageUnitTokens
  by_cases hpixels : request.model = gptImage2 ∧ provider = "leonardo"
  · rw [hpixels.1, hpixels.2] at hok
    simp only [estimated_model, estimated_size, hpixels.1, hpixels.2, and_self, if_true,
      parse_leonardo_estimated hok, imagePricingQuality_estimated]
  · simp only [estimated_model, hpixels, if_false]

theorem imageForProvider_estimated {rules : RuleStore} {provider : String}
    {request : ImageRequest} {edges : ℤ × ℤ}
    (hok : parseSizeForProvider provider request.model request.size = .ok edges) :
    imageForProvider rules provider (estimated request) =
      imageForProvider rules provider request := by
  have hquantity : (if (estimated request).n < 1 then 1 else (estimated request).n) =
      if request.n < 1 then 1 else request.n := by
    rw [estimated_n]
    split_ifs <;> omega
  rw [← parseSizeForProvider_normalized] at hok
  unfold imageForProvider
  simp only [estimated_model, estimated_size, imagePricingSize_estimated,
    imagePricingQuality_estimated, hquantity, imageUnitTokens_estimated hok]

theorem imagePricingSize_ok {provider model size tier : String}
    (hok : imagePricingSize provider model size = .ok tier) :
    ∃ edges, parseSizeForProvider provider model (pricingSize size) = .ok edges := by
  unfold imagePricingSize at hok
  dsimp only at hok
  split at hok
  · cases hok
  · exact ⟨_, by assumption⟩

theorem validateImageOptions_ok {req : ImageRequest} {model : ModelConfig} :
    validateImageOptions req model = .ok () ↔
      (∃ edges, parseSizeForProvider req.provider req.model req.size = .ok edges) ∧
        validateQuality req model = .ok () ∧
        ["", "auto", "opaque"].contains req.background = true ∧
        ["", "auto"].contains req.moderation = true := by
  unfold validateImageOptions
  cases parseSizeForProvider req.provider req.model req.size with
  | error err =>
    constructor
    · intro h
      cases h
    · rintro ⟨⟨edges, h⟩, -⟩
      cases h
  | ok edges =>
    simp only [bind_eq_ok, check_eq_ok]
    simp [Unique.exists_iff]

/-- The estimate passes the checks that the request passed: its size is one the pricing has
parsed, its quality is the one the request has. -/
theorem validateImageOptions_estimated {rules : RuleStore} {request : ImageRequest}
    {model : ModelConfig} {e : Estimate} (hok : validateImageOptions request model = .ok ())
    (hestimate : imageForProvider rules request.provider request = .ok e) :
    validateImageOptions (estimated request) model = .ok () := by
  rw [validateImageOptions_ok] at hok ⊢
  have hplain : (estimated request).background = "" ∧ (estimated request).moderation = "" := by
    simp only [estimated, and_self]
  rw [hplain.1, hplain.2]
  refine ⟨?_, ?_, by decide, by decide⟩
  · unfold imageForProvider at hestimate
    obtain ⟨tier, htier, -⟩ := bind_eq_ok.mp hestimate
    obtain ⟨edges, hedges⟩ := imagePricingSize_ok htier
    rw [parseSizeForProvider_normalized] at hedges
    exact ⟨edges, hedges⟩
  · have hquality := hok.2.1
    rw [validateQuality_ok] at hquality ⊢
    exact hquality

/-- The estimate of the options of an accepted request normalizes them to `estimated`. -/
theorem normalizeImageEstimateRequest_ok {provider model size quality : String} {n : ℤ}
    (htrim : trimSpace model = model ∧ model ≠ "") (hcount : 0 ≤ n ∧ n ≤ 4)
    (hsingle : (isGPTImage2 model || isAdobeImageModel provider model) = true → n ≤ 1)
    (hquality : toLower (trimSpace quality) = quality)
    (hother : isGPTImage2 model = false → quality = "") :
    normalizeImageEstimateRequest ⟨provider, model, size, quality, n⟩ =
      .ok (estimated {
        provider := provider
        model := model
        size := size
        quality := fillQuality model quality
        n := n }) := by
  have hn : 1 ≤ (if n = 0 then 1 else n) ∧ (if n = 0 then 1 else n) ≤ 4 := by
    split_ifs <;> omega
  have hone : (!(isGPTImage2 model || isAdobeImageModel provider model) ||
      decide ((if n = 0 then 1 else n) = 1)) = true := by
    cases hroute : (isGPTImage2 model || isAdobeImageModel provider model) with
    | false => rfl
    | true =>
      have := hsingle hroute
      simp only [Bool.not_true, Bool.false_or, decide_eq_true_eq]
      split_ifs <;> omega
  have hallowed : (isGPTImage2 model || decide (quality = "")) = true := by
    cases hgpt : isGPTImage2 model with
    | true => rfl
    | false => simpa using hother hgpt
  unfold normalizeImageEstimateRequest
  simp only [htrim.1, hquality]
  rw [check_bind_eq_ok]
  refine ⟨by simpa using htrim.2, ?_⟩
  rw [check_bind_eq_ok]
  refine ⟨by simpa using hn, ?_⟩
  rw [check_bind_eq_ok]
  refine ⟨hone, ?_⟩
  rw [check_bind_eq_ok]
  refine ⟨hallowed, ?_⟩
  have hsize : estimateSize size = pricingSize size := by
    unfold estimateSize pricingSize
    rfl
  rw [hsize]
  rfl

/-- The estimate request with the options of an image request. -/
def imageEstimateOf (req : ImageRequest) : ImageEstimateRequest where
  model := req.model
  size := req.size
  quality := req.quality
  n := req.n

theorem describeImage_quote (request : ImageRequest) (estimate : Estimate)
    (response : ImageEstimateResponse) :
    (describeImage request estimate response).estimatedTokens = response.estimatedTokens ∧
      (describeImage request estimate response).priceVersion = response.priceVersion := by
  unfold describeImage
  split_ifs <;> exact ⟨rfl, rfl⟩

/-- What the creation of a task checked makes the estimate accept the same options. -/
theorem normalizeImageEstimateRequest_accepted {req accepted : ImageRequest} {model : ModelConfig}
    (htrim : trimSpace req.model = req.model ∧ req.model ≠ "")
    (haccepted : normalizeImageTask req = .ok accepted)
    (hoptions : validateImageOptions accepted model = .ok ()) :
    normalizeImageEstimateRequest ⟨req.provider, req.model, req.size, req.quality, req.n⟩ =
      .ok (estimated accepted) := by
  obtain ⟨hcount, hsingle, strength, format, rfl⟩ := normalizeImageTask_ok haccepted
  have hvalid := (validateImageOptions_ok.mp hoptions).2.1
  have hquality := toLower_quality rfl hvalid
  have hother (hgpt : isGPTImage2 req.model = false) : req.quality = "" := by
    rw [validateQuality_ok] at hvalid
    simpa [fillQuality, hgpt] using hvalid
  simp only [validateImageCount, check_eq_ok, Bool.and_eq_true, decide_eq_true_eq] at hcount
  simp only [validateSingleImage, check_eq_ok, Bool.or_eq_true, Bool.not_eq_true',
    decide_eq_true_eq] at hsingle
  rw [normalizeImageEstimateRequest_ok htrim hcount (fun hroute => by simpa [hroute] using hsingle)
    hquality hother]
  simp only [estimated]

theorem estimateImageCost_quotes {catalog : Catalog} {rules : RuleStore} (req : ImageRequest)
    {accepted : ImageRequest} {model : ModelConfig} {e : Estimate}
    (htrim : trimSpace req.model = req.model ∧ req.model ≠ "")
    (haccepted : normalizeImageTask req = .ok accepted)
    (hmodel : catalog.getModel req.model = some model)
    (himage : allowed model.capabilities "text-to-image" = true)
    (hoptions : validateImageOptions accepted model = .ok ())
    (hestimate : imageForProvider rules req.provider accepted = .ok e) :
    ∃ response, estimateImageCost catalog rules
        ⟨req.provider, req.model, req.size, req.quality, req.n⟩ [] false = .ok response ∧
      response.estimatedTokens = e.tokens ∧ response.priceVersion = e.priceVersion := by
  have hnormalized := normalizeImageEstimateRequest_accepted htrim haccepted hoptions
  obtain ⟨-, -, strength, format, hshape⟩ := normalizeImageTask_ok haccepted
  have hsame : accepted.provider = req.provider ∧ accepted.model = req.model := by
    rw [hshape]
    exact ⟨rfl, rfl⟩
  have hvalid := validateImageOptions_estimated hoptions (hsame.1.symm ▸ hestimate)
  obtain ⟨edges, hedges⟩ := (validateImageOptions_ok.mp hoptions).1
  have hpriced : imageForProvider rules (estimated accepted).provider (estimated accepted) =
      .ok e := by
    have hprovider : (estimated accepted).provider = req.provider := hsame.1
    rw [hprovider, imageForProvider_estimated (hsame.1 ▸ hedges), hestimate]
  unfold estimateImageCost
  refine ⟨_, checked_bind_eq_ok.mpr ⟨_, hnormalized, demand_bind_eq_ok.mpr ⟨rfl,
    found_bind_eq_ok.mpr ⟨model, ?_, demand_bind_eq_ok.mpr ⟨himage,
      checked_bind_eq_ok.mpr ⟨(), hvalid, bind_eq_ok.mpr ⟨e, priced_eq_ok.mpr hpriced, rfl⟩⟩⟩⟩⟩⟩,
    (describeImage_quote _ _ _).1, (describeImage_quote _ _ _).2⟩
  rw [estimated_model, hsame.2, hmodel]

theorem imageEstimate_quotes {catalog : Catalog} {caller : Caller} {req : ImageRequest}
    {e : Estimate} (h : priceImageTask catalog caller req = .ok (some e)) (enforce : Bool) :
    ∃ response, writeImageEstimate catalog caller.allowedModels enforce (imageEstimateOf req) =
        .ok response ∧
      response.estimatedTokens = e.tokens ∧ response.priceVersion = e.priceVersion := by
  obtain ⟨route, accepted, model, rules, hroute, haccepted, hallowed, hmodel, himage, hoptions,
    hrules, hestimate⟩ := priceImageTask_ok h
  obtain ⟨response, hresponse, htokens, hversion⟩ :=
    estimateImageCost_quotes
      { req with provider := route.provider, model := route.internalModel }
      (resolveMediaModel_trimmed hroute) haccepted hmodel himage hoptions hestimate
  unfold writeImageEstimate
  refine ⟨{ response with model := route.publicModel }, ?_, htokens, hversion⟩
  refine checked_bind_eq_ok.mpr ⟨route, hroute, demand_bind_eq_ok.mpr ⟨?_,
    found_bind_eq_ok.mpr ⟨rules, hrules, bind_eq_ok.mpr ⟨response, hresponse, rfl⟩⟩⟩⟩
  simp [hallowed]

/-! ### Videos -/

theorem validateVideoReferences_ok {req : VideoRequest} {spec : Spec} {model : ModelConfig}
    (h : validateVideoReferences req spec model = .ok ()) :
    req.referenceVideos.length ≤ spec.maxReferenceVideos := by
  unfold validateVideoReferences at h
  dsimp only at h
  obtain ⟨-, h⟩ := demand_bind_eq_ok.mp h
  obtain ⟨-, h⟩ := demand_bind_eq_ok.mp h
  obtain ⟨-, -, h⟩ := checked_bind_eq_ok.mp h
  obtain ⟨-, h⟩ := demand_bind_eq_ok.mp h
  obtain ⟨-, h⟩ := demand_bind_eq_ok.mp h
  obtain ⟨hvideos, -⟩ := demand_bind_eq_ok.mp h
  simpa using hvideos

theorem priceVideoTask_ok {catalog : Catalog} {caller : Caller} {req : VideoRequest}
    {e : Estimate} (h : priceVideoTask catalog caller req = .ok (some e)) :
    ∃ route spec model strength accepted rules,
      resolveMediaModel "video" req.model = .ok route ∧
      getForProvider route.provider route.internalModel = some spec ∧
      catalog.getModel route.internalModel = some model ∧
      supportsVideoGeneration model = true ∧
      req.referenceVideos.length ≤ spec.maxReferenceVideos ∧
      normalizeVideoOptions { req with
        prompt := trimSpace req.prompt
        isPublic := some false
        provider := route.provider
        model := route.internalModel
        referenceStrength := strength } spec = .ok accepted ∧
      allowedMediaModel caller.allowedModels route = true ∧
      catalog.providerModelContext route.provider route.internalModel = some rules ∧
      videoForProvider rules route.provider accepted = .ok e := by
  unfold priceVideoTask at h
  dsimp only at h
  obtain ⟨-, h⟩ := demand_bind_eq_ok.mp h
  obtain ⟨route, hroute, h⟩ := checked_bind_eq_ok.mp h
  obtain ⟨spec, hspec, h⟩ := found_bind_eq_ok.mp h
  obtain ⟨-, -, h⟩ := bind_eq_ok.mp h
  obtain ⟨model, hmodel, h⟩ := found_bind_eq_ok.mp h
  obtain ⟨hvideo, h⟩ := demand_bind_eq_ok.mp h
  obtain ⟨-, h⟩ := demand_bind_eq_ok.mp h
  obtain ⟨⟨⟩, hreferences, h⟩ := bind_eq_ok.mp h
  have hvideos := validateVideoReferences_ok hreferences
  obtain ⟨accepted, haccepted, h⟩ := checked_bind_eq_ok.mp h
  obtain ⟨hallowed, h⟩ := demand_bind_eq_ok.mp h
  obtain ⟨earlier, -, h⟩ := bind_eq_ok.mp h
  cases earlier with
  | true => cases h
  | false =>
    obtain ⟨-, -, h⟩ := bind_eq_ok.mp h
    obtain ⟨rules, hrules, h⟩ := found_bind_eq_ok.mp h
    obtain ⟨estimate, hestimate, h⟩ := bind_eq_ok.mp h
    cases h
    exact ⟨route, spec, model, _, accepted, rules, hroute, hspec, hmodel, hvideo, hvideos,
      haccepted, hallowed, hrules, priced_eq_ok.mp hestimate⟩

/-- Two requests with the same options; the second one has images only if the first has. -/
structure Agrees (r s : VideoRequest) : Prop where
  model : s.model = r.model
  size : s.size = r.size
  resolution : s.resolution = r.resolution
  duration : s.duration = r.duration
  generateAudio : s.generateAudio = r.generateAudio
  videos : s.referenceVideos.isEmpty = r.referenceVideos.isEmpty
  images : 0 < s.ordinaryImages → 0 < r.ordinaryImages

theorem Agrees.filled {r s : VideoRequest} (h : Agrees r s) (spec : Spec) :
    Agrees (r.filled spec) (s.filled spec) where
  model := h.model
  size := by simp only [VideoRequest.filled, h.size, h.resolution]
  resolution := by simp only [VideoRequest.filled, h.size, h.resolution]
  duration := by simp only [VideoRequest.filled, h.duration]
  generateAudio := by simp only [VideoRequest.filled, h.generateAudio]
  videos := h.videos
  images := h.images

theorem normalizeVideoOptions_ok {req accepted : VideoRequest} {spec : Spec} :
    normalizeVideoOptions req spec = .ok accepted ↔
      validateAudio req spec = .ok () ∧ validateFilled (req.filled spec) spec = .ok () ∧
        validateVeoImages (req.filled spec) = .ok () ∧ req.filled spec = accepted := by
  unfold normalizeVideoOptions
  simp only [bind_eq_ok]
  simp [Unique.exists_iff, pure, Except.pure]

theorem validateAudio_agrees {r s : VideoRequest} {spec : Spec} (h : Agrees r s)
    (hok : validateAudio r spec = .ok ()) : validateAudio s spec = .ok () := by
  unfold validateAudio at hok ⊢
  rw [check_bind_eq_ok, check_eq_ok] at hok ⊢
  rwa [h.generateAudio]

theorem validateFilled_agrees {r s : VideoRequest} {spec : Spec} (h : Agrees r s)
    (hok : validateFilled r spec = .ok ()) : validateFilled s spec = .ok () := by
  unfold validateFilled validateReferenceDuration at hok ⊢
  simp only [bind_eq_ok, check_eq_ok, h.size, h.duration, h.resolution, h.videos] at hok ⊢
  exact hok

theorem validateVeoImages_agrees {r s : VideoRequest} (h : Agrees r s)
    (hok : validateVeoImages r = .ok ()) : validateVeoImages s = .ok () := by
  have himages : r.ordinaryImages = 0 → s.ordinaryImages = 0 := by
    have := h.images
    omega
  unfold validateVeoImages at hok ⊢
  dsimp only at hok ⊢
  rw [check_bind_eq_ok, check_eq_ok] at hok ⊢
  simp only [Bool.or_eq_true, decide_eq_true_eq, h.model, h.size, h.duration] at hok ⊢
  tauto

theorem normalizeVideoOptions_agrees {r s accepted : VideoRequest} {spec : Spec}
    (h : Agrees r s) (hok : normalizeVideoOptions r spec = .ok accepted) :
    normalizeVideoOptions s spec = .ok (s.filled spec) ∧ Agrees accepted (s.filled spec) := by
  obtain ⟨haudio, hfilled, hveo, rfl⟩ := normalizeVideoOptions_ok.mp hok
  have hagrees := h.filled spec
  exact ⟨normalizeVideoOptions_ok.mpr ⟨validateAudio_agrees h haudio,
    validateFilled_agrees hagrees hfilled, validateVeoImages_agrees hagrees hveo, rfl⟩, hagrees⟩

theorem silentTokens_agrees {model resolution : String} {d tokens : ℤ} {v w : List SourceMedia}
    (h : w = [] ↔ v = []) :
    silentTokens model resolution d w tokens = silentTokens model resolution d v tokens := by
  unfold silentTokens
  simp only [h]

theorem videoTokens_agrees {provider resolution : String} {d u : ℤ} {r s : VideoRequest}
    (h : Agrees r s) : videoTokens provider resolution d s u = videoTokens provider resolution d r u := by
  have hvideos : s.referenceVideos = [] ↔ r.referenceVideos = [] := by
    rw [← List.isEmpty_iff, ← List.isEmpty_iff, h.videos]
  unfold videoTokens
  simp only [hvideos, h.model, h.generateAudio, silentTokens_agrees hvideos]

/-- The prices of two requests that agree differ at most by the workflow of Adobe. -/
theorem videoForProvider_agrees {rules : RuleStore} {provider : String} {r s : VideoRequest}
    (h : Agrees r s) (hworkflow : adobeVideoWorkflow (normalizedProvider provider) s =
      adobeVideoWorkflow (normalizedProvider provider) r) :
    videoForProvider rules provider s = videoForProvider rules provider r := by
  have hresolution (spec : Spec) : pricedResolution spec s = pricedResolution spec r := by
    simp only [pricedResolution, h.resolution, h.size]
  have hduration (spec : Spec) : pricedDuration spec s = pricedDuration spec r := by
    simp only [pricedDuration, h.duration]
  have hsize (spec : Spec) (resolution : String) :
      sizeMatches spec resolution s = sizeMatches spec resolution r := by
    simp only [sizeMatches, h.size]
  unfold videoForProvider videoForSpec
  simp only [h.model, hresolution, hduration, hsize, hworkflow, videoTokens_agrees h]

/-- The reference mode that stands for the images and frames of a request. -/
def referenceMode (route : MediaModelRoute) (req : VideoRequest) : String :=
  if route.provider = adobeProvider ∧ route.internalModel = adobeKling30Omni then
    if 0 < req.ordinaryImages then "image"
    else if req.startFrame.isSome ∨ req.endFrame.isSome then "frame"
    else "text"
  else ""

/-- The estimate request with the options of a video request. -/
def videoEstimateOf (route : MediaModelRoute) (req : VideoRequest) : VideoEstimateRequest where
  model := req.model
  duration := req.duration
  size := req.size
  resolution := req.resolution
  generateAudio := req.generateAudio
  hasVideoReference := !req.referenceVideos.isEmpty
  referenceMode := referenceMode route req

/-- The mode stands for the references as the workflow of Adobe tells them apart. -/
theorem estimateReferences_ok (route : MediaModelRoute) (req : VideoRequest) :
    ∃ startFrame images,
      estimateReferences route.provider route.internalModel (referenceMode route req) =
        .ok (startFrame, images) ∧
      (images ≠ [] → 0 < req.ordinaryImages) ∧
      (route.provider = adobeProvider ∧ route.internalModel = adobeKling30Omni →
        (images ≠ [] ↔ 0 < req.ordinaryImages) ∧
        (images = [] → (startFrame.isSome = true ↔
          req.startFrame.isSome = true ∨ req.endFrame.isSome = true))) := by
  unfold estimateReferences referenceMode
  by_cases hkling : route.provider = adobeProvider ∧ route.internalModel = adobeKling30Omni
  · simp only [hkling, and_self, if_true]
    by_cases himages : 0 < req.ordinaryImages
    · have htext : toLower (trimSpace "image") = "image" := by decide
      simp [himages, htext]
    · by_cases hframes : req.startFrame.isSome = true ∨ req.endFrame.isSome = true
      · have htext : toLower (trimSpace "frame") = "frame" := by decide
        simp [himages, hframes, htext]
      · have htext : toLower (trimSpace "text") = "text" := by decide
        simp [himages, hframes, htext]
  · simp [hkling]

theorem adobe_of_route {route : MediaModelRoute}
    (hroute : toLower (trimSpace route.provider) = route.provider) :
    normalizedProvider route.provider = adobeProvider ↔ route.provider = adobeProvider := by
  rw [normalizedProvider_eq, hroute]
  split_ifs with hempty
  · rw [hempty]
    decide
  · rfl

theorem adobeVideoWorkflow_agrees {provider : String} {r s : VideoRequest}
    (hmodel : s.model = r.model)
    (h : provider = adobeProvider ∧ r.model = adobeKling30Omni →
      (0 < s.ordinaryImages ↔ 0 < r.ordinaryImages) ∧
      (¬0 < s.ordinaryImages → (s.startFrame.isSome = true ∨ s.endFrame.isSome = true ↔
        r.startFrame.isSome = true ∨ r.endFrame.isSome = true))) :
    adobeVideoWorkflow provider s = adobeVideoWorkflow provider r := by
  unfold adobeVideoWorkflow
  rw [hmodel]
  by_cases hkling : provider ≠ adobeProvider ∨ r.model ≠ adobeKling30Omni
  · rw [if_pos hkling, if_pos hkling]
  · push Not at hkling
    obtain ⟨himages, hframes⟩ := h hkling
    by_cases hsome : 0 < s.ordinaryImages
    · simp only [hsome, himages.mp hsome, if_true]
    · have hnone : ¬0 < r.ordinaryImages := fun hr => hsome (himages.mpr hr)
      simp only [hsome, hnone, if_false, hframes hsome]

/-- The options of a request that its validator accepts are written as the estimate would
write them. -/
theorem toLower_options {req accepted : VideoRequest} {spec : Spec} (hspec : spec.WellFormed)
    (hok : normalizeVideoOptions req spec = .ok accepted) :
    toLower (trimSpace req.size) = req.size ∧
      toLower (trimSpace req.resolution) = req.resolution := by
  obtain ⟨-, hfilled, -, -⟩ := normalizeVideoOptions_ok.mp hok
  unfold validateFilled at hfilled
  obtain ⟨hsize, hfilled⟩ := check_bind_eq_ok.mp hfilled
  obtain ⟨-, hfilled⟩ := check_bind_eq_ok.mp hfilled
  obtain ⟨-, -, hfilled⟩ := bind_eq_ok.mp hfilled
  obtain ⟨hresolution, -⟩ := check_bind_eq_ok.mp hfilled
  constructor
  · by_cases hempty : req.size = ""
    · rw [hempty]
      decide
    · have hkept : (req.filled spec).size = req.size := if_neg hempty
      rw [hkept] at hsize
      exact toLower_trimSpace (hspec.sizes _ (by simpa [Spec.supportsSize] using hsize)).2
  · by_cases hempty : req.resolution = ""
    · rw [hempty]
      decide
    · have hkept : (req.filled spec).resolution = req.resolution := if_neg hempty
      rw [hkept] at hresolution
      exact toLower_trimSpace
        (hspec.resolutions _ (by simpa [Spec.supportsResolution] using hresolution)).2

/-- The request that the estimate prices: its options, and files that stand for references. -/
def estimatedVideo (route : MediaModelRoute) (req : VideoRequest) (startFrame : Option SourceMedia)
    (images : List SourceMedia) : VideoRequest where
  provider := route.provider
  model := route.internalModel
  duration := req.duration
  size := toLower (trimSpace req.size)
  resolution := toLower (trimSpace req.resolution)
  generateAudio := req.generateAudio
  startFrame := startFrame
  referenceImages := images
  referenceVideos :=
    if !req.referenceVideos.isEmpty then [placeholder "cost-estimate-reference"] else []

theorem ordinaryImages_estimatedVideo (route : MediaModelRoute) (req : VideoRequest)
    (startFrame : Option SourceMedia) (images : List SourceMedia) :
    0 < (estimatedVideo route req startFrame images).ordinaryImages ↔ images ≠ [] := by
  simp [VideoRequest.ordinaryImages, estimatedVideo, List.length_pos_iff]

theorem agrees_estimatedVideo {route : MediaModelRoute} {req : VideoRequest}
    (startFrame : Option SourceMedia) {images : List SourceMedia}
    (hmodel : req.model = route.internalModel) (hsize : toLower (trimSpace req.size) = req.size)
    (hresolution : toLower (trimSpace req.resolution) = req.resolution)
    (himages : images ≠ [] → 0 < req.ordinaryImages) :
    Agrees req (estimatedVideo route req startFrame images) where
  model := by simp only [estimatedVideo, hmodel]
  size := by simp only [estimatedVideo, hsize]
  resolution := by simp only [estimatedVideo, hresolution]
  duration := by simp only [estimatedVideo]
  generateAudio := by simp only [estimatedVideo]
  videos := by
    simp only [estimatedVideo]
    cases req.referenceVideos <;> rfl
  images hpos := himages ((ordinaryImages_estimatedVideo _ _ _ _).mp hpos)

theorem estimateVideoCost_quotes {catalog : Catalog} {rules : RuleStore} {route : MediaModelRoute}
    (req : VideoRequest) {accepted : VideoRequest} {spec : Spec} {model : ModelConfig} {e : Estimate}
    (htrim : trimSpace route.internalModel = route.internalModel ∧ route.internalModel ≠ "")
    (hprovider : toLower (trimSpace route.provider) = route.provider)
    (hspec : getForProvider route.provider route.internalModel = some spec)
    (hmodel : catalog.getModel route.internalModel = some model)
    (hvideo : supportsVideoGeneration model = true)
    (hvideos : req.referenceVideos.length ≤ spec.maxReferenceVideos)
    (hsame : req.model = route.internalModel)
    (haccepted : normalizeVideoOptions req spec = .ok accepted)
    (hestimate : videoForProvider rules route.provider accepted = .ok e) :
    ∃ response, estimateVideoCost catalog rules { videoEstimateOf route req with
        provider := route.provider, model := route.internalModel } [] false = .ok response ∧
      response.estimatedTokens = e.tokens ∧ response.priceVersion = e.priceVersion := by
  obtain ⟨startFrame, images, hreferences, himages, hworkflow⟩ := estimateReferences_ok route req
  obtain ⟨hsize, hresolution⟩ := toLower_options (getForProvider_wellFormed hspec) haccepted
  have hagrees := agrees_estimatedVideo startFrame hsame hsize hresolution himages
  obtain ⟨hnormalized, hpriced⟩ := normalizeVideoOptions_agrees hagrees haccepted
  obtain ⟨-, -, -, hfilled⟩ := normalizeVideoOptions_ok.mp haccepted
  have hadobe : adobeVideoWorkflow (normalizedProvider route.provider)
      ((estimatedVideo route req startFrame images).filled spec) =
        adobeVideoWorkflow (normalizedProvider route.provider) accepted := by
    apply adobeVideoWorkflow_agrees hpriced.model
    rw [← hfilled]
    intro hkling
    obtain ⟨hsome, hframes⟩ := hworkflow ⟨(adobe_of_route hprovider).mp hkling.1,
      hsame ▸ hkling.2⟩
    constructor
    · exact (ordinaryImages_estimatedVideo route req startFrame images).trans hsome
    · intro hnone
      have hempty : images = [] := by
        by_contra hne
        exact hnone ((ordinaryImages_estimatedVideo route req startFrame images).mpr hne)
      have hstart := hframes hempty
      simpa [VideoRequest.filled, estimatedVideo] using hstart
  have hquote := (videoForProvider_agrees hpriced hadobe).trans hestimate
  have hsupported : (!!req.referenceVideos.isEmpty || decide (0 < spec.maxReferenceVideos)) =
      true := by
    cases hrefs : req.referenceVideos with
    | nil => rfl
    | cons first others =>
      rw [hrefs, List.length_cons] at hvideos
      simp
      omega
  unfold estimateVideoCost
  dsimp only [videoEstimateOf]
  rw [htrim.1]
  refine ⟨_, demand_bind_eq_ok.mpr ⟨by simpa using htrim.2, demand_bind_eq_ok.mpr ⟨rfl,
    found_bind_eq_ok.mpr ⟨model, hmodel, demand_bind_eq_ok.mpr ⟨hvideo,
      found_bind_eq_ok.mpr ⟨spec, hspec, bind_eq_ok.mpr ⟨(startFrame, images), hreferences,
        demand_bind_eq_ok.mpr ⟨hsupported, checked_bind_eq_ok.mpr ⟨_, hnormalized,
          bind_eq_ok.mpr ⟨e, priced_eq_ok.mpr hquote, rfl⟩⟩⟩⟩⟩⟩⟩⟩⟩, rfl, rfl⟩

theorem videoEstimate_quotes {catalog : Catalog} {caller : Caller} {req : VideoRequest}
    {e : Estimate} (h : priceVideoTask catalog caller req = .ok (some e)) (enforce : Bool) :
    ∃ route response, resolveMediaModel "video" req.model = .ok route ∧
      writeVideoEstimate catalog caller.allowedModels enforce (videoEstimateOf route req) =
        .ok response ∧
      response.estimatedTokens = e.tokens ∧ response.priceVersion = e.priceVersion := by
  obtain ⟨route, spec, model, strength, accepted, rules, hroute, hspec, hmodel, hvideo, hvideos,
    haccepted, hallowed, hrules, hestimate⟩ := priceVideoTask_ok h
  obtain ⟨response, hresponse, htokens, hversion⟩ :=
    estimateVideoCost_quotes
      { req with
        prompt := trimSpace req.prompt
        isPublic := some false
        provider := route.provider
        model := route.internalModel
        referenceStrength := strength }
      (resolveMediaModel_trimmed hroute) (resolveMediaModel_provider hroute) hspec hmodel hvideo
      hvideos rfl haccepted hestimate
  refine ⟨route, { response with model := route.publicModel }, hroute, ?_, htokens, hversion⟩
  unfold writeVideoEstimate
  refine checked_bind_eq_ok.mpr ⟨route, hroute, demand_bind_eq_ok.mpr ⟨?_,
    found_bind_eq_ok.mpr ⟨rules, hrules, bind_eq_ok.mpr ⟨response, hresponse, rfl⟩⟩⟩⟩
  simp [hallowed]

/-- Whatever the tables hold, a request that is priced for its task gets the same amount and
the same price version from the estimate, with the models of the key enforced or not. -/
theorem estimates_quote_admissions (catalog : Catalog) (caller : Caller) (enforce : Bool) :
    (∀ (req : ImageRequest) (e : Estimate),
      priceImageTask catalog caller req = .ok (some e) →
      ∃ response, writeImageEstimate catalog caller.allowedModels enforce (imageEstimateOf req) =
          .ok response ∧
        response.estimatedTokens = e.tokens ∧ response.priceVersion = e.priceVersion) ∧
    ∀ (req : VideoRequest) (e : Estimate),
      priceVideoTask catalog caller req = .ok (some e) →
      ∃ route response, resolveMediaModel "video" req.model = .ok route ∧
        writeVideoEstimate catalog caller.allowedModels enforce (videoEstimateOf route req) =
          .ok response ∧
        response.estimatedTokens = e.tokens ∧ response.priceVersion = e.priceVersion :=
  ⟨fun _ _ h => imageEstimate_quotes h enforce, fun _ _ h => videoEstimate_quotes h enforce⟩

/-- A catalog with one image model and one video model of Leonardo. -/
def smallCatalog : Catalog where
  models := ⟨[⟨"gpt-image-2", ["text-to-image", "quality"], true⟩,
    ⟨"veo-3.1", ["text-to-video"], true⟩], by decide⟩
  providers := ⟨[⟨"leonardo", true⟩], by decide⟩
  configs := ⟨[⟨"leonardo", "gpt-image-2", true⟩, ⟨"leonardo", "veo-3.1", true⟩], by decide⟩
  costRules := {
    rules := ⟨[⟨⟨⟨"leonardo", "image", "gpt-image-2", "1024x1024", "low", "", 0⟩, 8, "v1", "sync"⟩,
        1, true, false, 0⟩,
      ⟨⟨⟨"leonardo", "video", "veo-3.1", "", "", "720p", 8⟩, 1200, "v1", "sync"⟩,
        2, true, false, 0⟩], by decide⟩
    nextID := 3
    issued := by decide
    constraints := by decide +kernel }

def smallCaller : Caller := ⟨["*"], .ok false, fun _ => .ok ()⟩

theorem estimates_quote_admissions_small :
    (∃ response, writeImageEstimate smallCatalog ["*"] true
        ⟨"", "leonardo/gpt-image-2", "auto", "", 0⟩ = .ok response ∧
      response.estimatedTokens = 8 ∧ response.priceVersion = "v1") ∧
    ∃ route response, resolveMediaModel "video" " leonardo/veo-3.1" = .ok route ∧
      writeVideoEstimate smallCatalog ["*"] true (videoEstimateOf route
        { model := " leonardo/veo-3.1", prompt := "a fox", generateAudio := some false }) =
          .ok response ∧
      response.estimatedTokens = 600 ∧ response.priceVersion = "v1" :=
  ⟨(estimates_quote_admissions smallCatalog smallCaller true).1
      { model := "leonardo/gpt-image-2", prompt := "a fox", size := "auto" }
      ⟨8, 8, 1, "1024x1024", "v1", "sync"⟩ (by decide +kernel),
    (estimates_quote_admissions smallCatalog smallCaller true).2
      { model := " leonardo/veo-3.1", prompt := "a fox", generateAudio := some false }
      ⟨600, 1200, 2, "", "v1", "sync"⟩ (by decide +kernel)⟩

end GenerationGateway.Estimates

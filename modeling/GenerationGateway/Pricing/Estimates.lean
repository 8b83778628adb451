import GenerationGateway.Domain.ImageOptions
import GenerationGateway.Domain.Requests
import GenerationGateway.Domain.VideoSpecs
import GenerationGateway.Library.Checks
import GenerationGateway.Library.Word
import GenerationGateway.Pricing.Rules

/-!
# Estimates

The tokens of a request: a stored rule prices the option tuple, and the formulas of some
models replace or change its unit tokens. The arithmetic is that of `int64`.
-/

namespace GenerationGateway.Pricing

open Checks Text Word ImageOptions VideoSpecs

/-- `FindModelCostRule(kind, model, size, quality, resolution, duration)`. -/
abbrev RuleStore := String → String → String → String → String → ℤ → Except StoreError ModelCostRule

/-- The rules of the provider of a route. -/
def providerModelStore (db : CostRules) (providerID : String) : RuleStore :=
  fun kind model size quality resolution duration =>
    findProviderModelCostRule ⟨providerID, kind, model, size, quality, resolution, duration⟩ db

structure Estimate where
  tokens : ℤ
  unitTokens : ℤ
  ruleID : ℤ
  ruleSize : String
  priceVersion : String
  source : String
  deriving DecidableEq

inductive PricingError
  | costUnavailable
  | store (err : StoreError)
  deriving DecidableEq

/-- A missing rule is a price that is not available. -/
def findRule (found : Except StoreError ModelCostRule) : Except PricingError ModelCostRule :=
  match found with
  | .ok rule => .ok rule
  | .error .notFound => .error .costUnavailable
  | .error err => .error (.store err)

/-! ### Images -/

/-- The smallest square of gpt-image-2 that has the pixels. -/
def gptImage2Tier (pixels : ℤ) : Option String :=
  if pixels ≤ 1024 * 1024 then some "1024x1024"
  else if pixels ≤ 2048 * 2048 then some "2048x2048"
  else if pixels ≤ 2880 * 2880 then some "2880x2880"
  else none

/-- The size in small letters, and the smallest square for none. -/
@[irreducible] def pricingSize (requested : String) : String :=
  let size := toLower (trimSpace requested)
  if size = "" ∨ size = "auto" then "1024x1024" else size

def imagePricingSize (provider model requested : String) : Except PricingError String :=
  let size := pricingSize requested
  match parseSizeForProvider provider model size with
  | .error _ => .error .costUnavailable
  | .ok (width, height) =>
    if model = gptImage2 then
      match gptImage2Tier (width * height) with
      | some tier => .ok tier
      | none => .error .costUnavailable
    else if model = nanoBanana2 ∨ model = nanoBananaPro then
      if 3072 ≤ width ∧ width ≠ 3168 then .ok "4096x4096"
      else if 1536 ≤ width ∧ width ≠ 1584 then .ok "2048x2048"
      else .ok "1024x1024"
    else if model = seedream50Pro then
      if (2016 ≤ width ∧ 1153 ≤ height) ∨ (1153 ≤ width ∧ 2016 ≤ height) then .ok "2048x2048"
      else .ok "1024x1024"
    else .ok size

def qualityFactor (quality : String) : Option ℤ :=
  [("low", 1000), ("medium", 8833), ("high", 35167)].lookup quality

def gptImage2Tokens (width height : ℤ) (quality : String) : Except PricingError ℤ :=
  match qualityFactor quality with
  | none => .error .costUnavailable
  | some factor =>
    let numerator := int64 (width * height * 7 * factor)
    let denominator := 1000000 * 1000
    .ok ((int64 (numerator + denominator - 1)).tdiv denominator)

/-- The quality that the rules of gpt-image-2 are stored under. -/
def pricingQuality (model quality : String) : String :=
  if model = gptImage2 then
    let quality := toLower (trimSpace quality)
    if quality = "" ∨ quality = "auto" then "low" else quality
  else ""

def imagePricingQuality (request : ImageRequest) : String :=
  pricingQuality request.model request.quality

/-- Leonardo prices gpt-image-2 by the pixels, every other model has the tokens of its rule. -/
def imageUnitTokens (provider : String) (request : ImageRequest) (rule : ModelCostRule) :
    Except PricingError ℤ :=
  if request.model = gptImage2 ∧ provider = "leonardo" then
    match parseSizeForProvider provider request.model request.size with
    | .error _ => .error .costUnavailable
    | .ok (width, height) => gptImage2Tokens width height (imagePricingQuality request)
  else .ok rule.unitTokens

def imageForProvider (rules : RuleStore) (provider : String) (request : ImageRequest) :
    Except PricingError Estimate := do
  let provider := normalizedProvider provider
  let size ← imagePricingSize provider request.model request.size
  let rule ← findRule
    (rules "image" request.model size (imagePricingQuality request) "" 0)
  let quantity := if request.n < 1 then 1 else request.n
  let unitTokens ← imageUnitTokens provider request rule
  return ⟨int64 (unitTokens * quantity), unitTokens, rule.id, size, rule.priceVersion, rule.source⟩

/-! ### Videos -/

def adobeKling30Omni : String := "kling-3.0-omni"

def adobeVideoWorkflow (provider : String) (request : VideoRequest) : String :=
  if provider ≠ adobeProvider ∨ request.model ≠ adobeKling30Omni then ""
  else if 0 < request.ordinaryImages then "rtv"
  else if request.startFrame.isSome ∨ request.endFrame.isSome then "i2v"
  else "t2v"

def pricedResolution (spec : Spec) (request : VideoRequest) : String :=
  let resolution := toLower (trimSpace request.resolution)
  if resolution = "" then spec.filledResolution (toLower (trimSpace request.size)) else resolution

def pricedDuration (spec : Spec) (request : VideoRequest) : ℤ :=
  if request.duration = 0 then spec.defaultDuration else request.duration

/-- The size and the resolution of a request belong together. -/
def sizeMatches (spec : Spec) (resolution : String) (request : VideoRequest) : Bool :=
  let size := toLower (trimSpace request.size)
  let size := if size = "" then spec.filledSize resolution else size
  spec.resolutionBySize.isEmpty || spec.resolutionForSize size = some resolution

/-- The surcharge of Leonardo on a job with reference videos. -/
def videoReferenceTokens (model resolution : String) (duration tokens : ℤ) : ℤ :=
  if model = "seedance-2.5" then int64 ((if resolution = "720p" then 466 else 258) * duration)
  else if model = "kling-o3-omni" then int64 (252 * duration)
  else if model = "flux-3-video" then
    int64 ((if resolution = "1080p" then 682 else 543) * duration)
  else
    let steps := (int64 (duration * 5 + 2)).tdiv 3
    let numerator := int64 (tokens * steps * 3)
    let denominator := int64 (duration * 5)
    int64 ((int64 (numerator + denominator - 1)).tdiv denominator)

/-- The stored rules are for jobs with sound; a silent one costs less. -/
def silentTokens (model resolution : String) (duration : ℤ) (videos : List SourceMedia)
    (tokens : ℤ) : ℤ :=
  if model = "veo-3.1" then tokens.tdiv 2
  else if model = "veo-3.1-fast" then int64 (tokens - int64 (50 * duration))
  else if model = "kling-o3-omni" ∧ videos = [] then
    if resolution = "720p" then (int64 (tokens * 3)).tdiv 4
    else if resolution = "1080p" then (int64 (tokens * 4)).tdiv 5
    else tokens
  else tokens

def videoTokens (provider resolution : String) (duration : ℤ) (request : VideoRequest)
    (unitTokens : ℤ) : ℤ :=
  if provider = "leonardo" then
    let tokens := if request.referenceVideos = [] then unitTokens
      else videoReferenceTokens request.model resolution duration unitTokens
    if request.generateAudio = some false then
      silentTokens request.model resolution duration request.referenceVideos tokens
    else tokens
  else unitTokens

def videoForSpec (rules : RuleStore) (provider : String) (spec : Spec) (request : VideoRequest) :
    Except PricingError Estimate := do
  let resolution := pricedResolution spec request
  let duration := pricedDuration spec request
  check (spec.supportsResolution resolution && spec.supportsDuration duration) .costUnavailable
  check (sizeMatches spec resolution request) .costUnavailable
  let rule ← findRule
    (rules "video" request.model "" (adobeVideoWorkflow provider request) resolution duration)
  return ⟨videoTokens provider resolution duration request rule.unitTokens, rule.unitTokens,
    rule.id, "", rule.priceVersion, rule.source⟩

def videoForProvider (rules : RuleStore) (provider : String) (request : VideoRequest) :
    Except PricingError Estimate :=
  match getForProvider (normalizedProvider provider) request.model with
  | none => .error .costUnavailable
  | some spec => videoForSpec rules (normalizedProvider provider) spec request

end GenerationGateway.Pricing

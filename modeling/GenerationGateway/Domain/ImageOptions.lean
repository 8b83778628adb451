import GenerationGateway.Library.Text

/-!
# Image sizes

The size of an image request is a text of two edges. Which edges are accepted depends on
the provider and on the model family.
-/

namespace GenerationGateway.ImageOptions

open Text

def gptImage2 : String := "gpt-image-2"
def adobeProvider : String := "adobe"
def nanoBanana2 : String := "nano-banana-2"
def nanoBananaPro : String := "nano-banana-pro"
def seedream50Pro : String := "seedream-5.0-pro"

def gptImage2Widths : List ℤ :=
  [768, 832, 848, 864, 896, 928, 1024, 1136, 1152, 1184, 1200, 1248, 1264, 1344, 1376, 1536, 1584,
    1648, 1696, 1792, 1856, 2016, 2048, 2336, 2448, 2560, 2880, 3200, 3264, 3504, 3584, 3808]

def gptImage2Heights : List ℤ :=
  [672, 768, 832, 848, 864, 896, 928, 1024, 1136, 1152, 1184, 1200, 1248, 1264, 1344, 1376, 1536,
    1632, 1648, 1696, 1792, 1856, 2016, 2048, 2336, 2448, 2560, 2880, 3200, 3264, 3504, 3584]

def nanoBananaWidths : List ℤ :=
  [768, 848, 896, 928, 1024, 1152, 1200, 1264, 1376, 1536, 1584, 1696, 1792, 1856, 2048, 2304, 2400,
    2528, 2752, 3072, 3168, 3392, 3584, 3712, 4096, 4608, 4800, 5056, 5504, 6336]

def nanoBananaHeights : List ℤ :=
  [672, 768, 848, 896, 928, 1024, 1152, 1200, 1264, 1344, 1376, 1536, 1696, 1792, 1856, 2048, 2304,
    2400, 2528, 2688, 2752, 3072, 3392, 3584, 3712, 4096, 4608, 4800, 5056, 5504]

inductive SizeError
  /-- "invalid image size" -/
  | invalid (size : String)
  /-- "invalid Creative Fabrica image size" -/
  | invalidCreativeFabrica (size : String)
  /-- "gpt-image-2 size must be 1024x1024, 2048x2048 or 2880x2880 on provider adobe" -/
  | adobeTiers
  /-- "gpt-image-2 size edges must be multiples of 16 and at most 3840px" -/
  | edges
  /-- "gpt-image-2 size must have ratio <= 3:1 and 655360..8294400 total pixels" -/
  | ratio
  /-- "is valid for OpenAI but not exposed by Leonardo" -/
  | onlyOpenAI (size : String)
  /-- "size edges must be positive" -/
  | notPositive (model : String)
  /-- "is not exposed by Leonardo" -/
  | notExposed (model size : String)
  /-- "seedream-5.0-pro size edges must be between 768 and 2048px" -/
  | seedream
  deriving DecidableEq

/-- A provider as the functions of the packages compare it; no provider is Leonardo. -/
def normalizedProvider (provider : String) : String :=
  let provider := toLower (trimSpace provider)
  if provider = "" then "leonardo" else provider

/-- The two edges of a size, which are numbers. -/
def edges? (size : String) : Option (ℤ × ℤ) :=
  match split size 'x' with
  | [w, h] =>
    match atoi w, atoi h with
    | some w, some h => some (w, h)
    | _, _ => none
  | _ => none

def parseGPTImage2 (size : String) (w h : ℤ) : Except SizeError (ℤ × ℤ) :=
  if w ≤ 0 ∨ h ≤ 0 ∨ 3840 < w ∨ 3840 < h ∨ w % 16 ≠ 0 ∨ h % 16 ≠ 0 then .error .edges
  else
    let short := min w h
    let long := max w h
    let pixels := w * h
    if short * 3 < long ∨ pixels < 655360 ∨ 8294400 < pixels then .error .ratio
    else if !gptImage2Widths.contains w || !gptImage2Heights.contains h then
      .error (.onlyOpenAI size)
    else .ok (w, h)

def parseNanoBanana (model size : String) (w h : ℤ) : Except SizeError (ℤ × ℤ) :=
  if w ≤ 0 ∨ h ≤ 0 then .error (.notPositive model)
  else if !nanoBananaWidths.contains w || !nanoBananaHeights.contains h then
    .error (.notExposed model size)
  else .ok (w, h)

/-- The checks of the edges after the text is split. -/
def checkEdges (provider model size : String) (w h : ℤ) : Except SizeError (ℤ × ℤ) :=
  if provider = "creativefabrica" then
    if w < 64 ∨ h < 64 ∨ 8192 < w ∨ 8192 < h then .error (.invalidCreativeFabrica size)
    else .ok (w, h)
  else if provider = adobeProvider ∧ model = gptImage2 ∧
      ["1024x1024", "2048x2048", "2880x2880"].contains size = false then .error .adobeTiers
  else if model = gptImage2 then parseGPTImage2 size w h
  else if model = nanoBanana2 ∨ model = nanoBananaPro then parseNanoBanana model size w h
  else if model = seedream50Pro then
    if w < 768 ∨ h < 768 ∨ 2048 < w ∨ 2048 < h then .error .seedream else .ok (w, h)
  else if w < 64 ∨ h < 64 ∨ 4096 < w ∨ 4096 < h then .error (.invalid size)
  else .ok (w, h)

@[irreducible] def parseSizeForProvider (provider model size : String) : Except SizeError (ℤ × ℤ) :=
  let provider := normalizedProvider provider
  if size = "" ∨ size = "auto" then .ok (1024, 1024)
  else
    match edges? size with
    | none => .error (.invalid size)
    | some (w, h) => checkEdges provider model size w h

def isGPTImage2 (model : String) : Bool := model = gptImage2

def isAdobeImageModel (provider model : String) : Bool :=
  equalFold (trimSpace provider) adobeProvider && (model = gptImage2 || model = nanoBanana2)

/-! ### Accepted sizes -/

section Accepted

variable {size : String} {w h : ℤ} {edges : ℤ × ℤ}

theorem parseGPTImage2_bounds (hok : parseGPTImage2 size w h = .ok edges) :
    (0 < edges.1 ∧ edges.1 ≤ 3840) ∧ 0 < edges.2 ∧ edges.2 ≤ 3840 := by
  unfold parseGPTImage2 at hok
  by_cases hedges : w ≤ 0 ∨ h ≤ 0 ∨ 3840 < w ∨ 3840 < h ∨ w % 16 ≠ 0 ∨ h % 16 ≠ 0
  · rw [if_pos hedges] at hok
    cases hok
  · rw [if_neg hedges] at hok
    dsimp only at hok
    split_ifs at hok
    cases hok
    dsimp only
    omega

theorem parseSizeForProvider_gptImage2
    (hok : parseSizeForProvider "leonardo" gptImage2 size = .ok edges) :
    (0 < edges.1 ∧ edges.1 ≤ 3840) ∧ 0 < edges.2 ∧ edges.2 ≤ 3840 := by
  have hleonardo : normalizedProvider "leonardo" = "leonardo" := by decide
  unfold parseSizeForProvider at hok
  rw [hleonardo] at hok
  dsimp only at hok
  split_ifs at hok
  · cases hok
    decide
  · cases hedges : edges? size with
    | none =>
      rw [hedges] at hok
      cases hok
    | some pair =>
      rw [hedges] at hok
      exact parseGPTImage2_bounds hok

end Accepted

end GenerationGateway.ImageOptions

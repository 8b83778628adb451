import GenerationGateway.Pricing.Bounds

/-!
# Exact ceilings

The formulas of the estimates against the rational prices that they round up: the surcharge
of a job with reference videos, and the pixels of gpt-image-2.
-/

namespace GenerationGateway.Pricing

open Checks Text Word ImageOptions VideoSpecs

/-! ### Reference videos -/

/-- What the estimate of a job with reference videos is for: the rational surcharge rounded up,
between the price of the rule and its two thirds more, and no less for a dearer rule. -/
structure SurchargeExact (model resolution : String) (d base : ℤ) : Prop where
  multiples : d * 5 + 2 < 2 ^ 63
  eq_ceil : videoReferenceTokens model resolution d base =
    ⌈(base * ⌈(5 * d / 3 : ℚ)⌉ * 3 / (5 * d) : ℚ)⌉
  base_le : base ≤ videoReferenceTokens model resolution d base
  le_base_add : videoReferenceTokens model resolution d base ≤
    base + ⌈(2 * base / (5 * d) : ℚ)⌉
  mono : ∀ lower, 0 ≤ lower → lower ≤ base →
    videoReferenceTokens model resolution d lower ≤ videoReferenceTokens model resolution d base

/-- The steps of the formula: five for three seconds, rounded up. -/
def steps (d : ℤ) : ℤ := (d * 5 + 2).tdiv 3

theorem steps_eq_ceil {d : ℤ} (hd : 1 ≤ d) : steps d = ⌈(5 * d / 3 : ℚ)⌉ := by
  have hceil := tdiv_eq_ceil (x := d * 5) (k := 3) (by omega) (by norm_num)
  have hratio : (5 * d / 3 : ℚ) = (d * 5 : ℤ) / (3 : ℤ) := by
    push_cast
    ring
  rw [hratio]
  exact hceil

theorem steps_bounds {d : ℤ} (hd : 1 ≤ d) : d * 5 ≤ steps d * 3 ∧ steps d * 3 ≤ d * 5 + 2 := by
  rw [steps, Int.tdiv_eq_ediv_of_nonneg (by omega)]
  omega

theorem surcharged_eq (base d : ℤ) : surcharged base d = base * steps d * 3 + (d * 5 - 1) := rfl

theorem numerator_nonneg {base d : ℤ} (hbase : 0 ≤ base) (hd : 1 ≤ d) :
    0 ≤ base * steps d * 3 := by
  have hsteps := steps_bounds hd
  rw [mul_assoc]
  exact mul_nonneg hbase (by omega)

/-- The quotient before any wrapping is the rational surcharge, rounded up. -/
theorem surcharged_tdiv {base d : ℤ} (hbase : 0 ≤ base) (hd : 1 ≤ d) :
    (surcharged base d).tdiv (d * 5) =
      ⌈(base * ⌈(5 * d / 3 : ℚ)⌉ * 3 / (5 * d) : ℚ)⌉ := by
  rw [surcharged_eq, tdiv_eq_ceil (numerator_nonneg hbase hd) (by omega), ← steps_eq_ceil hd]
  push_cast
  ring_nf

/-- The products of the duration leave the 64 bits later than those of the price. -/
theorem multiples_of_surcharged {base d : ℤ} (hbase : 0 ≤ base) (hd : 1 ≤ d)
    (h : surcharged base d < 2 ^ 63) : d * 5 + 2 < 2 ^ 63 := by
  have hnumerator := numerator_nonneg hbase hd
  rw [surcharged_eq] at h
  omega

theorem videoReferenceTokens_ceil {model resolution : String} {base d : ℤ}
    (hmodel : fixedReferencePrice model = false) (hbase : 0 ≤ base) (hd : 1 ≤ d)
    (h : surcharged base d < 2 ^ 63) :
    videoReferenceTokens model resolution d base = (surcharged base d).tdiv (d * 5) := by
  have hnumerator := numerator_nonneg hbase hd
  rw [videoReferenceTokens_other hmodel (by omega) (multiples_of_surcharged hbase hd h),
    int64_of_bounds _ h]
  rw [surcharged_eq]
  omega

theorem surcharged_mono {lower base d : ℤ} (hle : lower ≤ base) (hd : 1 ≤ d) :
    surcharged lower d ≤ surcharged base d := by
  have hsteps := steps_bounds hd
  rw [surcharged_eq, surcharged_eq]
  have hproduct : lower * steps d ≤ base * steps d :=
    mul_le_mul_of_nonneg_right hle (by omega)
  omega

theorem le_surcharged_tdiv {base d : ℤ} (hbase : 0 ≤ base) (hd : 1 ≤ d) :
    base ≤ (surcharged base d).tdiv (d * 5) := by
  have hsteps := steps_bounds hd
  have hnumerator := numerator_nonneg hbase hd
  rw [surcharged_eq, Int.tdiv_eq_ediv_of_nonneg (by omega), Int.le_ediv_iff_mul_le (by omega)]
  have hproduct : base * (d * 5) ≤ base * (steps d * 3) :=
    mul_le_mul_of_nonneg_left hsteps.1 hbase
  rw [← mul_assoc base (steps d) 3] at hproduct
  omega

theorem surcharged_tdiv_le {base d : ℤ} (hbase : 0 ≤ base) (hd : 1 ≤ d) :
    (surcharged base d).tdiv (d * 5) ≤ base + ⌈(2 * base / (5 * d) : ℚ)⌉ := by
  have hsteps := steps_bounds hd
  have hnumerator := numerator_nonneg hbase hd
  have hceil := tdiv_eq_ceil (x := 2 * base) (k := d * 5) (by omega) (by omega)
  have hextra : ⌈(2 * base / (5 * d) : ℚ)⌉ = (2 * base + (d * 5 - 1)) / (d * 5) := by
    rw [← Int.tdiv_eq_ediv_of_nonneg (by omega), hceil]
    push_cast
    ring_nf
  rw [hextra, surcharged_eq, Int.tdiv_eq_ediv_of_nonneg (by omega), add_comm base,
    ← Int.add_mul_ediv_right _ _ (by omega)]
  apply Int.ediv_le_ediv (by omega)
  have hproduct : base * (steps d * 3) ≤ base * (d * 5 + 2) :=
    mul_le_mul_of_nonneg_left hsteps.2 hbase
  linarith

/-- The surcharge is exact as long as its numerator stays in the 64 bits. -/
theorem surchargeExact_iff {model resolution : String} {base d : ℤ}
    (hmodel : fixedReferencePrice model = false) (hbase : 0 ≤ base) (hd : 1 ≤ d) :
    SurchargeExact model resolution d base ↔ surcharged base d < 2 ^ 63 := by
  constructor
  · intro hexact
    by_contra hwide
    have hvalue := hexact.eq_ceil
    rw [videoReferenceTokens_other hmodel (by omega) hexact.multiples,
      ← surcharged_tdiv hbase hd] at hvalue
    have hmultiples := hexact.multiples
    exact tdiv_int64_ne (by omega) (by omega) (not_lt.mp hwide) hvalue
  · intro h
    have hvalue : videoReferenceTokens model resolution d base =
        (surcharged base d).tdiv (d * 5) := videoReferenceTokens_ceil hmodel hbase hd h
    refine ⟨multiples_of_surcharged hbase hd h, ?_, ?_, ?_, ?_⟩
    · rw [hvalue, surcharged_tdiv hbase hd]
    · rw [hvalue]
      exact le_surcharged_tdiv hbase hd
    · rw [hvalue]
      exact surcharged_tdiv_le hbase hd
    · intro lower hlower hle
      have hmono := surcharged_mono hle hd
      rw [hvalue, videoReferenceTokens_ceil hmodel hlower hd (by omega)]
      exact Int.tdiv_le_tdiv (by omega) hmono

/-! ### Pixels -/

/-- The multipliers of the qualities, in their order. -/
def qualityMultiplier (quality : String) : Option ℚ :=
  [("low", 1), ("medium", 8833 / 1000), ("high", 35167 / 1000)].lookup quality

/-- The intermediate results of the formula. -/
def pixelProducts (width height factor : ℤ) : List ℤ :=
  [width * height, width * height * 7, width * height * 7 * factor,
    width * height * 7 * factor + 1000000 * 1000]

/-- What the estimate of gpt-image-2 is for: the price of the pixels rounded up, with every
product in 64 bits, and no more for fewer pixels or a lower quality. -/
structure PixelsExact (width height : ℤ) (multiplier : ℚ) (quality : String) (tokens : ℤ) :
    Prop where
  estimate : gptImage2Tokens width height quality = .ok tokens
  eq_ceil : tokens = ⌈(width * height / 10 ^ 6 * 7 * multiplier : ℚ)⌉
  products : ∃ factor : ℤ, qualityFactor quality = some factor ∧ factor = 1000 * multiplier ∧
    ∀ product ∈ pixelProducts width height factor, int64 product = product
  mono : ∀ (size : String) (width' height' : ℤ) (quality' : String) (multiplier' : ℚ)
      (tokens' : ℤ), parseSizeForProvider "leonardo" gptImage2 size = .ok (width', height') →
    qualityMultiplier quality' = some multiplier' → width' ≤ width → height' ≤ height →
    multiplier' ≤ multiplier → gptImage2Tokens width' height' quality' = .ok tokens' →
    tokens' ≤ tokens

theorem qualityFactor_of_multiplier {quality : String} {multiplier : ℚ}
    (h : qualityMultiplier quality = some multiplier) :
    ∃ factor : ℤ, qualityFactor quality = some factor ∧ factor = 1000 * multiplier := by
  unfold qualityMultiplier at h
  unfold qualityFactor
  simp only [List.lookup_cons, List.lookup_nil] at h ⊢
  cases hlow : quality == "low" with
  | true =>
    rw [hlow] at h
    obtain rfl := Option.some.inj h
    exact ⟨1000, rfl, by norm_num⟩
  | false =>
    rw [hlow] at h
    cases hmedium : quality == "medium" with
    | true =>
      rw [hmedium] at h
      obtain rfl := Option.some.inj h
      exact ⟨8833, rfl, by norm_num⟩
    | false =>
      rw [hmedium] at h
      cases hhigh : quality == "high" with
      | true =>
        rw [hhigh] at h
        obtain rfl := Option.some.inj h
        exact ⟨35167, rfl, by norm_num⟩
      | false =>
        rw [hhigh] at h
        cases h

theorem pixels_bounds {width height factor : ℤ} (hwidth : 0 < width ∧ width ≤ 3840)
    (hheight : 0 < height ∧ height ≤ 3840) (hfactor : 1000 ≤ factor ∧ factor ≤ 35167) :
    (0 < width * height ∧ width * height ≤ 3840 * 3840) ∧
      0 < width * height * 7 * factor ∧
      width * height * 7 * factor ≤ 3840 * 3840 * 7 * 35167 := by
  have hpixels : 0 < width * height ∧ width * height ≤ 3840 * 3840 := by
    constructor <;> nlinarith
  refine ⟨hpixels, ?_, ?_⟩ <;> nlinarith

theorem gptImage2Tokens_ceil {width height factor : ℤ} {quality : String} {multiplier : ℚ}
    (hwidth : 0 < width ∧ width ≤ 3840) (hheight : 0 < height ∧ height ≤ 3840)
    (hfactor : qualityFactor quality = some factor) (hratio : factor = 1000 * multiplier) :
    gptImage2Tokens width height quality =
      .ok ⌈(width * height / 10 ^ 6 * 7 * multiplier : ℚ)⌉ := by
  have hbounds := (pixels_bounds hwidth hheight (qualityFactor_bounds hfactor)).2
  have hceil := tdiv_eq_ceil (x := width * height * 7 * factor) (k := 1000000 * 1000)
    hbounds.1.le (by norm_num)
  have hprice : ((width * height * 7 * factor : ℤ) : ℚ) / (1000000 * 1000 : ℤ) =
      width * height / 10 ^ 6 * 7 * multiplier := by
    push_cast
    rw [hratio]
    ring
  rw [hprice] at hceil
  unfold gptImage2Tokens
  simp only [hfactor]
  rw [int64_of_bounds (x := width * height * 7 * factor) (by omega) (by omega), add_sub_assoc,
    int64_of_bounds (by omega) (by omega), hceil]

theorem pixelsExact {size quality : String} {width height : ℤ} {multiplier : ℚ}
    (hsize : parseSizeForProvider "leonardo" gptImage2 size = .ok (width, height))
    (hquality : qualityMultiplier quality = some multiplier) :
    ∃ tokens, PixelsExact width height multiplier quality tokens := by
  obtain ⟨hwidth, hheight⟩ := parseSizeForProvider_gptImage2 hsize
  obtain ⟨factor, hfactor, hratio⟩ := qualityFactor_of_multiplier hquality
  refine ⟨_, gptImage2Tokens_ceil hwidth hheight hfactor hratio, rfl,
    ⟨factor, hfactor, hratio, ?_⟩, ?_⟩
  · have hbounds := pixels_bounds hwidth hheight (qualityFactor_bounds hfactor)
    intro product hproduct
    simp only [pixelProducts, List.mem_cons, List.not_mem_nil, or_false] at hproduct
    dsimp only at hbounds
    apply int64_of_bounds <;> omega
  · intro size' width' height' quality' multiplier' tokens' hsize' hquality' hwle hhle hmle htokens
    obtain ⟨hwidth', hheight'⟩ := parseSizeForProvider_gptImage2 hsize'
    obtain ⟨factor', hfactor', hratio'⟩ := qualityFactor_of_multiplier hquality'
    rw [gptImage2Tokens_ceil hwidth' hheight' hfactor' hratio'] at htokens
    obtain rfl := Except.ok.inj htokens
    dsimp only at hwidth hheight hwidth' hheight'
    have hlow := qualityFactor_bounds hfactor'
    have hpositive : 0 ≤ multiplier' := by
      have hcast : (1000 : ℚ) ≤ factor' := by exact_mod_cast hlow.1
      linarith
    have hw : (0 : ℚ) ≤ width' := by exact_mod_cast hwidth'.1.le
    have hh : (0 : ℚ) ≤ height' := by exact_mod_cast hheight'.1.le
    have hwq : (width' : ℚ) ≤ width := by exact_mod_cast hwle
    have hhq : (height' : ℚ) ≤ height := by exact_mod_cast hhle
    have hw' : (0 : ℚ) ≤ width := hw.trans hwq
    have hh' : (0 : ℚ) ≤ height := hh.trans hhq
    have hprice : (0 : ℚ) ≤ width * height / 10 ^ 6 * 7 := by positivity
    apply Int.ceil_le_ceil
    dsimp only
    gcongr

/-! ### Both formulas -/

/-- The surcharge is exact for the prices and durations whose numerator stays in the 64 bits,
the price of the pixels for every admitted size. -/
theorem ceilings_exact_iff (model resolution : String) (d base : ℤ)
    (size quality : String) (width height : ℤ) (multiplier : ℚ)
    (hmodel : fixedReferencePrice model = false) (hbase : 0 ≤ base) (hd : 1 ≤ d)
    (hsize : parseSizeForProvider "leonardo" gptImage2 size = .ok (width, height))
    (hquality : qualityMultiplier quality = some multiplier) :
    (SurchargeExact model resolution d base ↔
      base * ⌈(5 * d / 3 : ℚ)⌉ * 3 + (5 * d - 1) < 2 ^ 63) ∧
    ∃ tokens, PixelsExact width height multiplier quality tokens := by
  constructor
  · rw [surchargeExact_iff hmodel hbase hd, surcharged_eq, ← steps_eq_ceil hd, mul_comm d 5]
  · exact pixelsExact hsize hquality

/-- A price of 10 ^ 18 tokens for four seconds of video. -/
def giantRule : ModelCostRule := {
  options := ⟨"leonardo", "video", "seedance-2.0", "", "", "720p", 4⟩
  unitTokens := 10 ^ 18
  priceVersion := "manual"
  source := "admin"
  id := 1
  enabled := true
  drifted := false
  updatedAt := 0 }

def giantRules : CostRules where
  rules := ⟨[giantRule], by decide⟩
  nextID := 2
  issued := by decide
  constraints := by decide +kernel

def referenceVideo : SourceMedia :=
  ⟨"reference.mp4", "video/mp4", "/media/reference.mp4", 1000, "5f"⟩

def giantRequest : VideoRequest := {
  provider := "leonardo"
  model := "seedance-2.0"
  duration := 4
  size := "1280x720"
  resolution := "720p"
  referenceVideos := [referenceVideo] }

/-- The product with the 21 parts of the surcharge is beyond the 64 bits, and the estimate is an
eighth of the price without the reference video. -/
theorem giantRule_below_base :
    ∃ e, videoForProvider (providerModelStore giantRules "leonardo") "leonardo" giantRequest =
        .ok e ∧
      e.unitTokens = giantRule.unitTokens ∧
      e.tokens = videoReferenceTokens "seedance-2.0" "720p" 4 giantRule.unitTokens ∧
      e.tokens < giantRule.unitTokens ∧
      e.tokens ≠ ⌈(giantRule.unitTokens * ⌈(5 * 4 / 3 : ℚ)⌉ * 3 / (5 * 4) : ℚ)⌉ := by
  refine ⟨⟨127662796314522420, 10 ^ 18, 1, "", "manual", "admin"⟩, ?_, rfl, ?_, ?_, ?_⟩
  · decide +kernel
  · decide +kernel
  · decide
  · have hsteps : ⌈(5 * 4 / 3 : ℚ)⌉ = 7 := by norm_num
    rw [hsteps]
    norm_num [giantRule]

/-- A price of 100 tokens for four seconds, and a picture of the middle size. -/
theorem ceilings_exact_small :
    SurchargeExact "seedance-2.0" "720p" 4 100 ∧
      ∃ tokens, PixelsExact 2048 2048 (8833 / 1000) "medium" tokens := by
  have h := ceilings_exact_iff "seedance-2.0" "720p" 4 100 "2048x2048" "medium" 2048 2048
    (8833 / 1000) (by decide) (by norm_num) (by norm_num) (by decide +kernel) rfl
  refine ⟨h.1.mpr ?_, h.2⟩
  norm_num

end GenerationGateway.Pricing

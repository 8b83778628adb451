import GenerationGateway.HttpApi.Options
import GenerationGateway.Pricing.Estimates

/-!
# Bounds of the estimates

Which unit tokens of a rule give an estimate that a reservation can hold: no negative one,
and a positive one for a rule that is not free.
-/

namespace GenerationGateway.Pricing

open Checks Text Word ImageOptions VideoSpecs

/-- The amount is not negative, and positive where the price is. -/
def Holdable (unitTokens tokens : ℤ) : Prop := 0 ≤ tokens ∧ (0 < unitTokens → 0 < tokens)

theorem holdable_self {u : ℤ} (hu : 0 ≤ u) : Holdable u u := ⟨hu, id⟩

theorem holdable_of_pos {u tokens : ℤ} (h : 0 < tokens) : Holdable u tokens := ⟨h.le, fun _ => h⟩

/-- A free rule needs an amount of zero at least, every other one a positive amount. -/
theorem holdable_iff {u tokens : ℤ} (hu : 0 ≤ u) (hfree : u = 0 → tokens = 0) :
    Holdable u tokens ↔ u = 0 ∨ 1 ≤ tokens := by
  unfold Holdable
  constructor
  · rintro ⟨-, hpos⟩
    by_cases hzero : u = 0
    · exact .inl hzero
    · exact .inr (hpos (by omega))
  · rintro (hzero | hpos)
    · rw [hzero, hfree hzero]
      simp
    · exact holdable_of_pos hpos

/-- A unit price is a `bigint` that is not negative. -/
def Bigint (u : ℤ) : Prop := 0 ≤ u ∧ u < 2 ^ 63

/-! ### Images -/

/-- Neither factor is beyond the checks, but the product of the two may be beyond 64 bits. -/
def imageHolds (provider : String) (request : ImageRequest) (u : ℤ) : Prop :=
  (request.model = gptImage2 ∧ normalizedProvider provider = "leonardo") ∨ u = 0 ∨
    Reaches 1 (u * max 1 request.n)

theorem qualityFactor_bounds {quality : String} {factor : ℤ}
    (h : qualityFactor quality = some factor) : 1000 ≤ factor ∧ factor ≤ 35167 := by
  have hmem : (quality, factor) ∈
      [("low", (1000 : ℤ)), ("medium", 8833), ("high", 35167)] := by
    obtain ⟨before, after, hlist, -⟩ := List.lookup_eq_some_iff.mp h
    rw [hlist]
    simp
  simp only [List.mem_cons, Prod.mk.injEq, List.not_mem_nil, or_false] at hmem
  omega

theorem gptImage2Tokens_bounds {width height : ℤ} {quality : String} {tokens : ℤ}
    (hwidth : 0 < width ∧ width ≤ 3840) (hheight : 0 < height ∧ height ≤ 3840)
    (h : gptImage2Tokens width height quality = .ok tokens) : 0 < tokens ∧ tokens < 2 ^ 63 := by
  unfold gptImage2Tokens at h
  split at h
  · cases h
  · rename_i factor hfactor
    cases h
    have hbounds := qualityFactor_bounds hfactor
    have hpixels : 1 ≤ width * height ∧ width * height ≤ 3840 * 3840 := by
      constructor <;> nlinarith
    have hlow : 7000 ≤ width * height * 7 * factor := by nlinarith
    have hhigh : width * height * 7 * factor ≤ 3840 * 3840 * 7 * 35167 := by nlinarith
    rw [int64_of_bounds (x := width * height * 7 * factor) (by omega) (by omega),
      int64_of_bounds (by omega) (by omega), Int.tdiv_eq_ediv_of_nonneg (by omega)]
    omega

theorem findRule_eq_ok {found : Except StoreError ModelCostRule} {rule : ModelCostRule} :
    findRule found = .ok rule ↔ found = .ok rule := by
  unfold findRule
  split <;> simp_all

theorem imageForProvider_ok {rules : RuleStore} {provider : String} {request : ImageRequest}
    {e : Estimate} (h : imageForProvider rules provider request = .ok e) :
    ∃ rule unitTokens,
      rules "image" request.model e.ruleSize (imagePricingQuality request) "" 0 = .ok rule ∧
      imageUnitTokens (normalizedProvider provider) request rule = .ok unitTokens ∧
      e.tokens = int64 (unitTokens * max 1 request.n) := by
  unfold imageForProvider at h
  obtain ⟨size, -, h⟩ := bind_eq_ok.mp h
  obtain ⟨rule, hrule, h⟩ := bind_eq_ok.mp h
  obtain ⟨unitTokens, hunit, h⟩ := bind_eq_ok.mp h
  cases h
  refine ⟨rule, unitTokens, findRule_eq_ok.mp hrule, hunit, ?_⟩
  have hquantity : max 1 request.n = if request.n < 1 then 1 else request.n := by
    split_ifs <;> omega
  rw [hquantity]

/-- Leonardo's price of gpt-image-2 does not come from the rule. -/
theorem imageUnitTokens_pixels {request : ImageRequest} {rule : ModelCostRule} {tokens : ℤ}
    (hmodel : request.model = gptImage2) (h : imageUnitTokens "leonardo" request rule = .ok tokens) :
    0 < tokens ∧ tokens < 2 ^ 63 := by
  unfold imageUnitTokens at h
  rw [if_pos ⟨hmodel, rfl⟩, hmodel] at h
  split at h
  · cases h
  · rename_i width height hsize
    have hbounds := parseSizeForProvider_gptImage2 hsize
    exact gptImage2Tokens_bounds hbounds.1 hbounds.2 h

theorem imageUnitTokens_rule {provider : String} {request : ImageRequest} {rule : ModelCostRule}
    {tokens : ℤ} (hother : ¬(request.model = gptImage2 ∧ provider = "leonardo"))
    (h : imageUnitTokens provider request rule = .ok tokens) : tokens = rule.unitTokens := by
  unfold imageUnitTokens at h
  rw [if_neg hother] at h
  cases h
  rfl

theorem holdable_product_iff {u q : ℤ} (hu : 0 ≤ u) :
    Holdable u (int64 (u * q)) ↔ u = 0 ∨ Reaches 1 (u * q) := by
  rw [holdable_iff hu, le_int64_iff one_pos]
  rintro rfl
  rw [zero_mul]
  rfl

theorem single_of_gptImage2 {request : ImageRequest} (hmodel : request.model = gptImage2)
    (hsingle : validateSingleImage request = .ok ()) : request.n ≤ 1 := by
  rw [validateSingleImage, check_eq_ok] at hsingle
  simpa [isGPTImage2, hmodel] using hsingle

theorem imageForProvider_holdable_iff {rules : RuleStore} {provider : String}
    {request : ImageRequest} {rule : ModelCostRule} {e : Estimate}
    (hsingle : validateSingleImage request = .ok ())
    (hestimate : imageForProvider rules provider request = .ok e)
    (hrule : rules "image" request.model e.ruleSize (imagePricingQuality request) "" 0 = .ok rule)
    (hunit : 0 ≤ rule.unitTokens) :
    Holdable rule.unitTokens e.tokens ↔ imageHolds provider request rule.unitTokens := by
  obtain ⟨found, tokens, hfound, htokens, heq⟩ := imageForProvider_ok hestimate
  rw [hrule] at hfound
  cases hfound
  rw [heq, imageHolds]
  by_cases hpixels : request.model = gptImage2 ∧ normalizedProvider provider = "leonardo"
  · rw [hpixels.2] at htokens
    have hbounds := imageUnitTokens_pixels hpixels.1 htokens
    have hquantity : max 1 request.n = 1 := by
      have hn := single_of_gptImage2 hpixels.1 hsingle
      omega
    rw [hquantity, mul_one, int64_of_bounds (by omega) hbounds.2]
    exact ⟨fun _ => .inl hpixels, fun _ => holdable_of_pos hbounds.1⟩
  · rw [imageUnitTokens_rule hpixels htokens, holdable_product_iff hunit]
    simp only [hpixels, false_or]

/-! ### Videos -/

/-- Where the number of reference videos sets the price. -/
def fixedReferencePrice (model : String) : Bool :=
  ["seedance-2.5", "kling-o3-omni", "flux-3-video"].contains model

/-- The numerator of the surcharge before the division by `5 * d`. -/
def surcharged (u d : ℤ) : ℤ := u * ((d * 5 + 2).tdiv 3) * 3 + (d * 5 - 1)

/-- The discount of a silent job leaves something of a price without reference videos. -/
def silentHolds (model resolution : String) (d u : ℤ) : Prop :=
  if model = "veo-3.1" then u ≠ 1
  else if model = "veo-3.1-fast" then 50 * d < u
  else if model = "kling-o3-omni" ∧ resolution = "720p" then u = 0 ∨ Reaches 4 (u * 3)
  else if model = "kling-o3-omni" ∧ resolution = "1080p" then u = 0 ∨ Reaches 5 (u * 4)
  else True

/-- The surcharged price stays in 64 bits and is more than the discount of a silent job. -/
def surchargeHolds (model : String) (silent : Bool) (d u : ℤ) : Prop :=
  if silent ∧ model = "veo-3.1" then u = 0 ∨ Reaches (2 * (d * 5)) (surcharged u d)
  else if silent ∧ model = "veo-3.1-fast" then Reaches ((50 * d + 1) * (d * 5)) (surcharged u d)
  else u = 0 ∨ Reaches (d * 5) (surcharged u d)

def videoHolds (provider resolution : String) (d : ℤ) (request : VideoRequest) (u : ℤ) : Prop :=
  if provider ≠ "leonardo" then True
  else if request.referenceVideos = [] then
    request.generateAudio = some false → silentHolds request.model resolution d u
  else if fixedReferencePrice request.model = true then True
  else surchargeHolds request.model (request.generateAudio = some false) d u

instance (model resolution : String) (d u : ℤ) : Decidable (silentHolds model resolution d u) := by
  unfold silentHolds
  infer_instance

instance (model : String) (silent : Bool) (d u : ℤ) :
    Decidable (surchargeHolds model silent d u) := by
  unfold surchargeHolds
  infer_instance

instance (provider resolution : String) (d : ℤ) (request : VideoRequest) (u : ℤ) :
    Decidable (videoHolds provider resolution d request u) := by
  unfold videoHolds
  infer_instance

theorem videoForSpec_ok {rules : RuleStore} {provider : String} {spec : Spec}
    {request : VideoRequest} {e : Estimate} (h : videoForSpec rules provider spec request = .ok e) :
    spec.supportsDuration (pricedDuration spec request) = true ∧
      ∃ rule,
        rules "video" request.model "" (adobeVideoWorkflow provider request)
          (pricedResolution spec request) (pricedDuration spec request) = .ok rule ∧
        e.tokens = videoTokens provider (pricedResolution spec request)
          (pricedDuration spec request) request rule.unitTokens := by
  unfold videoForSpec at h
  dsimp only at h
  obtain ⟨hsupports, h⟩ := check_bind_eq_ok.mp h
  obtain ⟨-, h⟩ := check_bind_eq_ok.mp h
  obtain ⟨rule, hrule, h⟩ := bind_eq_ok.mp h
  have he := Except.ok.inj h
  refine ⟨(Bool.and_eq_true_iff.mp hsupports).2, rule, findRule_eq_ok.mp hrule, ?_⟩
  rw [← he]

theorem videoForProvider_eq {rules : RuleStore} {provider : String} {request : VideoRequest}
    {spec : Spec} (hspec : getForProvider (normalizedProvider provider) request.model = some spec) :
    videoForProvider rules provider request =
      videoForSpec rules (normalizedProvider provider) spec request := by
  rw [videoForProvider, hspec]

theorem int64_surcharge (u d : ℤ) :
    int64 (int64 (u * ((d * 5 + 2).tdiv 3) * 3) + d * 5 - 1) = int64 (surcharged u d) := by
  rw [add_sub_assoc, int64_int64_add, surcharged]

/-- A free job stays free with reference videos. -/
theorem int64_surcharged_zero {d : ℤ} (hd : 0 < d ∧ d ≤ 30) :
    int64 (surcharged 0 d) = d * 5 - 1 := by
  rw [surcharged, zero_mul, zero_mul, zero_add]
  exact int64_of_bounds (by omega) (by omega)

theorem videoReferenceTokens_fixed {model resolution : String} {d u : ℤ}
    (hmodel : fixedReferencePrice model = true) (hd : 0 < d ∧ d ≤ 30) :
    0 < videoReferenceTokens model resolution d u := by
  have hpositive : ∀ perSecond : ℤ, 0 < perSecond → perSecond ≤ 1000 →
      0 < int64 (perSecond * d) := by
    intro perSecond hlow hhigh
    have hproduct : 0 < perSecond * d ∧ perSecond * d ≤ 1000 * 30 := by
      constructor <;> nlinarith
    rw [int64_of_bounds (by omega) (by omega)]
    exact hproduct.1
  simp only [fixedReferencePrice, List.contains_eq_mem, List.mem_cons, List.not_mem_nil, or_false,
    decide_eq_true_eq] at hmodel
  have hprice : ∀ (p : Prop) [Decidable p] (x y : ℤ), 0 < x ∧ x ≤ 1000 → 0 < y ∧ y ≤ 1000 →
      0 < (if p then x else y) ∧ (if p then x else y) ≤ 1000 := by
    intro p _ x y hx hy
    by_cases hp : p
    · rwa [if_pos hp]
    · rwa [if_neg hp]
  unfold videoReferenceTokens
  rcases hmodel with rfl | rfl | rfl
  · rw [if_pos rfl]
    have hbounds := hprice (resolution = "720p") 466 258 (by norm_num) (by norm_num)
    exact hpositive _ hbounds.1 hbounds.2
  · rw [if_neg (by decide), if_pos rfl]
    exact hpositive 252 (by norm_num) (by norm_num)
  · rw [if_neg (by decide), if_neg (by decide), if_pos rfl]
    have hbounds := hprice (resolution = "1080p") 682 543 (by norm_num) (by norm_num)
    exact hpositive _ hbounds.1 hbounds.2

theorem videoReferenceTokens_other {model resolution : String} {d u : ℤ}
    (hmodel : fixedReferencePrice model = false) (hd : 0 < d) (hmultiples : d * 5 + 2 < 2 ^ 63) :
    videoReferenceTokens model resolution d u = (int64 (surcharged u d)).tdiv (d * 5) := by
  simp only [fixedReferencePrice, List.contains_eq_mem, List.mem_cons, List.not_mem_nil, or_false,
    decide_eq_false_iff_not, not_or] at hmodel
  have hquotient := tdiv_bounds (int64_bounds (surcharged u d)) (k := d * 5) (by omega)
  unfold videoReferenceTokens
  rw [if_neg hmodel.1, if_neg hmodel.2.1, if_neg hmodel.2.2]
  simp only [int64_of_bounds (x := d * 5 + 2) (by omega) hmultiples,
    int64_of_bounds (x := d * 5) (by omega) (by omega), int64_surcharge]
  exact int64_of_bounds (by omega) (by omega)

theorem holdable_surcharge_iff {d u : ℤ} (hd : 0 < d ∧ d ≤ 30) (hu : 0 ≤ u) :
    Holdable u ((int64 (surcharged u d)).tdiv (d * 5)) ↔
      u = 0 ∨ Reaches (d * 5) (surcharged u d) := by
  have hfree : u = 0 → (int64 (surcharged u d)).tdiv (d * 5) = 0 := by
    rintro rfl
    rw [int64_surcharged_zero hd]
    exact tdiv_eq_zero (by omega) (by omega)
  rw [holdable_iff hu hfree, le_tdiv_iff (by omega) one_pos, one_mul, le_int64_iff (by omega)]

theorem holdable_half_surcharge_iff {d u : ℤ} (hd : 0 < d ∧ d ≤ 30) (hu : 0 ≤ u) :
    Holdable u (((int64 (surcharged u d)).tdiv (d * 5)).tdiv 2) ↔
      u = 0 ∨ Reaches (2 * (d * 5)) (surcharged u d) := by
  have hfree : u = 0 → ((int64 (surcharged u d)).tdiv (d * 5)).tdiv 2 = 0 := by
    rintro rfl
    have hzero : (d * 5 - 1).tdiv (d * 5) = 0 := tdiv_eq_zero (by omega) (by omega)
    rw [int64_surcharged_zero hd, hzero]
    rfl
  rw [holdable_iff hu hfree, le_tdiv_iff two_pos one_pos, one_mul,
    le_tdiv_iff (by omega) two_pos, le_int64_iff (by omega)]

/-- A free job with reference videos owes less than nothing after this discount. -/
theorem holdable_discounted_surcharge_iff {d u : ℤ} (hd : 0 < d ∧ d ≤ 30) (hu : 0 ≤ u) :
    Holdable u (int64 ((int64 (surcharged u d)).tdiv (d * 5) - 50 * d)) ↔
      Reaches ((50 * d + 1) * (d * 5)) (surcharged u d) := by
  have hroom := tdiv_bounds (int64_bounds (surcharged u d)) (k := d * 5) (by omega)
  have hpos : 0 < (50 * d + 1) * (d * 5) := by nlinarith
  rw [int64_of_bounds (by omega) (by omega), ← le_int64_iff hpos,
    ← le_tdiv_iff (by omega) (by omega)]
  unfold Holdable
  constructor
  · rintro ⟨hnonneg, hstrict⟩
    by_cases hzero : u = 0
    · rw [hzero, int64_surcharged_zero hd, tdiv_eq_zero (by omega) (by omega)] at hnonneg
      omega
    · have := hstrict (by omega)
      omega
  · intro hle
    omega

theorem holdable_discount_iff {d u : ℤ} (hd : 0 < d ∧ d ≤ 30) (hu : 0 ≤ u ∧ u < 2 ^ 63) :
    Holdable u (int64 (u - 50 * d)) ↔ 50 * d < u := by
  rw [int64_of_bounds (by omega) (by omega)]
  unfold Holdable
  omega

theorem holdable_half_iff {u : ℤ} (hu : 0 ≤ u) : Holdable u (u.tdiv 2) ↔ u ≠ 1 := by
  rw [holdable_iff hu (by rintro rfl; rfl), le_tdiv_iff two_pos one_pos]
  omega

/-- Multiplied first, then divided: the product may leave the 64 bits. -/
theorem holdable_fraction_iff {u m k : ℤ} (hu : 0 ≤ u) (hk : 0 < k) :
    Holdable u ((int64 (u * m)).tdiv k) ↔ u = 0 ∨ Reaches k (u * m) := by
  have hfree : u = 0 → (int64 (u * m)).tdiv k = 0 := by
    rintro rfl
    rw [zero_mul]
    exact tdiv_eq_zero le_rfl hk
  rw [holdable_iff hu hfree, le_tdiv_iff hk one_pos, one_mul, le_int64_iff hk]

/-- A job without reference videos, and without sound. -/
theorem silentTokens_holdable_iff {model resolution : String} {d u : ℤ} (hd : 0 < d ∧ d ≤ 30)
    (hu : 0 ≤ u ∧ u < 2 ^ 63) :
    Holdable u (silentTokens model resolution d [] u) ↔ silentHolds model resolution d u := by
  unfold silentTokens silentHolds
  by_cases hveo : model = "veo-3.1"
  · rw [if_pos hveo, if_pos hveo]
    exact holdable_half_iff hu.1
  rw [if_neg hveo, if_neg hveo]
  by_cases hfast : model = "veo-3.1-fast"
  · rw [if_pos hfast, if_pos hfast, int64_sub_int64]
    exact holdable_discount_iff hd hu
  rw [if_neg hfast, if_neg hfast]
  by_cases hkling : model = "kling-o3-omni"
  · simp only [hkling, and_self, true_and, if_true]
    by_cases h720 : resolution = "720p"
    · rw [if_pos h720, if_pos h720]
      exact holdable_fraction_iff hu.1 (by norm_num)
    · rw [if_neg h720, if_neg h720]
      split_ifs
      · exact holdable_fraction_iff hu.1 (by norm_num)
      · exact iff_of_true (holdable_self hu.1) trivial
  · simp only [hkling, false_and, if_false]
    exact iff_of_true (holdable_self hu.1) trivial

/-- Where a reference video has a price of its own, the discounts do not apply. -/
theorem silentTokens_fixed {model resolution : String} {d tokens : ℤ} {videos : List SourceMedia}
    (hmodel : fixedReferencePrice model = true) (hvideos : videos ≠ []) :
    silentTokens model resolution d videos tokens = tokens := by
  simp only [fixedReferencePrice, List.contains_eq_mem, List.mem_cons, List.not_mem_nil, or_false,
    decide_eq_true_eq] at hmodel
  unfold silentTokens
  rcases hmodel with rfl | rfl | rfl <;> simp [hvideos]

theorem silentTokens_other {model resolution : String} {d tokens : ℤ} {videos : List SourceMedia}
    (hmodel : fixedReferencePrice model = false) :
    silentTokens model resolution d videos tokens =
      if model = "veo-3.1" then tokens.tdiv 2
      else if model = "veo-3.1-fast" then int64 (tokens - 50 * d)
      else tokens := by
  have hkling : model ≠ "kling-o3-omni" := by
    rintro rfl
    exact absurd hmodel (by decide)
  simp [silentTokens, hkling, int64_sub_int64]

/-- The surcharge of a job with reference videos, with or without sound. -/
theorem surcharge_holdable_iff (model : String) (silent : Bool) {d u : ℤ} (hd : 0 < d ∧ d ≤ 30)
    (hu : 0 ≤ u) :
    let tokens := (int64 (surcharged u d)).tdiv (d * 5)
    Holdable u (if silent then
        if model = "veo-3.1" then tokens.tdiv 2
        else if model = "veo-3.1-fast" then int64 (tokens - 50 * d)
        else tokens
      else tokens) ↔ surchargeHolds model silent d u := by
  intro tokens
  unfold surchargeHolds
  cases silent with
  | false =>
    simp only [Bool.false_eq_true, false_and, if_false]
    exact holdable_surcharge_iff hd hu
  | true =>
    simp only [true_and, if_true]
    split_ifs
    · exact holdable_half_surcharge_iff hd hu
    · exact holdable_discounted_surcharge_iff hd hu
    · exact holdable_surcharge_iff hd hu

theorem videoTokens_holdable_iff {provider resolution : String} {d u : ℤ} {request : VideoRequest}
    (hd : 0 < d ∧ d ≤ 30) (hu : 0 ≤ u ∧ u < 2 ^ 63) :
    Holdable u (videoTokens provider resolution d request u) ↔
      videoHolds provider resolution d request u := by
  unfold videoTokens videoHolds
  by_cases hprovider : provider = "leonardo"
  · rw [if_pos hprovider, if_neg (not_not.mpr hprovider)]
    by_cases hvideos : request.referenceVideos = []
    · simp only [hvideos, if_true]
      split_ifs with hsilent
      · simp only [hsilent, forall_const]
        exact silentTokens_holdable_iff hd hu
      · exact iff_of_true (holdable_self hu.1) fun h => absurd h hsilent
    · simp only [hvideos, if_false]
      cases hmodel : fixedReferencePrice request.model with
      | true =>
        rw [silentTokens_fixed hmodel hvideos, ite_self]
        exact iff_of_true (holdable_of_pos (videoReferenceTokens_fixed hmodel hd)) trivial
      | false =>
        rw [silentTokens_other hmodel, videoReferenceTokens_other hmodel hd.1 (by omega)]
        have hsurcharge := surcharge_holdable_iff request.model
          (decide (request.generateAudio = some false)) hd hu.1
        simpa using hsurcharge
  · rw [if_neg hprovider, if_pos hprovider]
    exact iff_of_true (holdable_self hu.1) trivial

/-! ### Estimates of stored rules -/

/-- The estimate of an image, with the rule that `FindModelCostRule` returned for it, and the
estimate of a video, whose duration is then one of the model's. -/
theorem estimates_holdable_iff (rules : RuleStore) (provider : String) :
    (∀ (request : ImageRequest) (rule : ModelCostRule) (e : Estimate),
      validateSingleImage request = .ok () →
      imageForProvider rules provider request = .ok e →
      rules "image" request.model e.ruleSize (imagePricingQuality request) "" 0 = .ok rule →
      Bigint rule.unitTokens →
      (Holdable rule.unitTokens e.tokens ↔ imageHolds provider request rule.unitTokens)) ∧
    ∀ (request : VideoRequest) (spec : Spec) (rule : ModelCostRule) (e : Estimate),
      getForProvider (normalizedProvider provider) request.model = some spec →
      videoForProvider rules provider request = .ok e →
      rules "video" request.model "" (adobeVideoWorkflow (normalizedProvider provider) request)
        (pricedResolution spec request) (pricedDuration spec request) = .ok rule →
      Bigint rule.unitTokens →
      (Holdable rule.unitTokens e.tokens ↔
        videoHolds (normalizedProvider provider) (pricedResolution spec request)
          (pricedDuration spec request) request rule.unitTokens) := by
  constructor
  · intro request rule e hsingle hestimate hrule hunit
    exact imageForProvider_holdable_iff hsingle hestimate hrule hunit.1
  · intro request spec rule e hspec hestimate hrule hunit
    rw [videoForProvider_eq hspec] at hestimate
    obtain ⟨hsupports, found, hfound, htokens⟩ := videoForSpec_ok hestimate
    rw [hrule] at hfound
    cases hfound
    have hduration := (getForProvider_wellFormed hspec).durations (pricedDuration spec request)
      (by simpa [Spec.supportsDuration] using hsupports)
    rw [htokens]
    exact videoTokens_holdable_iff hduration hunit

/-- A price of 100 tokens for eight seconds. -/
def cheapRule : ModelCostRule := {
  options := ⟨"leonardo", "video", "veo-3.1-fast", "", "", "720p", 8⟩
  unitTokens := 100
  priceVersion := "manual"
  source := "admin"
  id := 1
  enabled := true
  drifted := false
  updatedAt := 0 }

def cheapRules : CostRules where
  rules := ⟨[cheapRule], by decide⟩
  nextID := 2
  issued := by decide
  constraints := by decide +kernel

def veo31Fast : Spec := (getForProvider "leonardo" "veo-3.1-fast").get (by decide +kernel)

/-- The job as its validator returns it; it has no sound. -/
def silentRequest : VideoRequest := {
  provider := "leonardo"
  model := "veo-3.1-fast"
  duration := 8
  size := "1280x720"
  resolution := "720p"
  generateAudio := some false }

/-- The discount of 400 tokens is more than the price. -/
theorem cheapRule_negative :
    ∃ e, normalizeVideoOptions silentRequest veo31Fast = .ok silentRequest ∧
      videoForProvider (providerModelStore cheapRules "leonardo") "leonardo" silentRequest =
        .ok e ∧
      Bigint cheapRule.unitTokens ∧ ¬Holdable cheapRule.unitTokens e.tokens := by
  refine ⟨⟨-300, 100, 1, "", "manual", "admin"⟩, ?_, ?_, ?_, ?_⟩
  · decide +kernel
  · decide +kernel
  · exact ⟨by decide, by decide⟩
  · intro h
    exact absurd h.1 (by decide)

/-- A token more than the discount. -/
def dearRule : ModelCostRule := { cheapRule with unitTokens := 401 }

/-- One image of gpt-image-2, and the silent video at the higher price. -/
theorem estimates_holdable_positive : Holdable 401 8 ∧ Holdable 401 1 := by
  have hunit : Bigint dearRule.unitTokens := ⟨by decide, by decide⟩
  constructor
  · exact ((estimates_holdable_iff (fun _ _ _ _ _ _ => .ok dearRule) "leonardo").1
      { provider := "leonardo", model := "gpt-image-2" } dearRule
      ⟨8, 8, 1, "1024x1024", "manual", "admin"⟩ (by decide +kernel) (by decide +kernel) rfl
      hunit).mpr (.inl ⟨rfl, by decide +kernel⟩)
  · exact ((estimates_holdable_iff (fun _ _ _ _ _ _ => .ok dearRule) "leonardo").2 silentRequest
      veo31Fast dearRule ⟨1, 401, 1, "", "manual", "admin"⟩ (Option.some_get _).symm
      (by decide +kernel) rfl hunit).mpr (by decide +kernel)

end GenerationGateway.Pricing

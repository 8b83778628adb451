import GenerationGateway.Library.Text
import Mathlib.Data.Rat.Defs

/-!
# Video models

What each video model of a provider accepts. An entry leaves out what the model does not
support; the columns that only build an upstream request are not kept.
-/

namespace GenerationGateway.VideoSpecs

open Text

structure Spec where
  defaultDuration : ℤ
  durations : List ℤ
  defaultSize : String
  sizes : List String
  defaultResolution : String
  resolutions : List String
  maxReferenceImages : ℕ := 0
  maxReferenceImagesWithVideo : ℕ := 0
  supportsStartEndFrame : Bool := false
  supportsEndFrame : Bool := false
  requiresStartFrame : Bool := false
  maxReferenceVideos : ℕ := 0
  maxReferenceAudios : ℕ := 0
  maxReferenceItems : ℕ := 0
  minVideoDuration : ℚ := 0
  maxVideoDuration : ℚ := 0
  videoReferenceResolutions : List String := []
  maxReferenceVideoBytes : ℤ := 0
  supportsGenerateAudio : Bool := false
  alwaysGenerateAudio : Bool := false
  resolutionBySize : List (String × String) := []

def integerRange (minimum maximum : ℕ) : List ℤ :=
  (List.range' minimum (maximum + 1 - minimum)).map fun n => (n : ℤ)

def standardSizes : List String := ["1280x720", "720x1280"]

def standardHDVideoSizes : List String := ["1280x720", "720x1280", "1920x1080", "1080x1920"]

def standardUHDVideoSizes : List String :=
  ["1280x720", "720x1280", "1920x1080", "1080x1920", "3840x2160", "2160x3840"]

def creativeFabricaVideoSizes : List String :=
  ["992x432", "864x496", "752x560", "640x640", "560x752", "496x864", "1470x630", "1280x720",
    "1112x834", "960x960", "834x1112", "720x1280", "2520x1080", "2160x1080", "1920x1080",
    "1440x1080", "1440x1440", "1080x1440", "1080x1920"]

def creativeFabricaVideoResolutions : List String :=
  ["360p", "480p", "720p", "768p", "1080p", "2k", "4k"]

def creativeFabricaVideoResolutionBySize : List (String × String) :=
  [("992x432", "480p"), ("864x496", "480p"), ("752x560", "480p"), ("640x640", "480p"),
   ("560x752", "480p"), ("496x864", "480p"), ("1470x630", "720p"), ("1280x720", "720p"),
   ("1112x834", "720p"), ("960x960", "720p"), ("834x1112", "720p"), ("720x1280", "720p"),
   ("2520x1080", "1080p"), ("2160x1080", "1080p"), ("1920x1080", "1080p"), ("1440x1080", "1080p"),
   ("1440x1440", "1080p"), ("1080x1440", "1080p"), ("1080x1920", "1080p")]

def creativeFabricaVideoModels : List String :=
  ["alibaba_happy_horse_v1", "alibaba_happy_horse_v1_1", "alibaba_wan_2_7", "berry_1_0",
    "berry_1_0_pro", "fal_ltx_2_3", "fal_pixverse_c1", "fal_pixverse_v6", "flux_3",
    "gemini_omni_flash", "gemini_omni_flash_1_1", "gemini_omni_flash_1_1_video_extended",
    "grok_imagine_video", "grok_imagine_video_1_5", "heygen_avatar_5", "kling_ai_v3",
    "kling_ai_v3_motion_control", "kling_ai_v3_turbo", "kling_v3_omni", "luma_ray_2",
    "luma_ray_3_2", "minimax_hailuo_v3", "minimax_hailuo_v3_max", "mulerouter_wan_2_7_spicy",
    "pika_v2_5", "runway_gen_4_5", "seedance_one_five_pro", "seedance_two_point_zero",
    "seedance_v2_5", "seedance_v2_fast", "seedance_v2_mini", "veo_31_fast_generate_preview",
    "wan_3_0", "wan_3_0_prime"]

def adobeSeedanceTierSizes : String → List String
  | "480p" => ["1120x480", "854x480", "640x480", "480x480", "480x640", "480x854"]
  | "720p" => ["1680x720", "1280x720", "960x720", "720x720", "720x960", "720x1280"]
  | "1080p" => ["2520x1080", "1920x1080", "1440x1080", "1080x1080", "1080x1440", "1080x1920"]
  | _ => []

def adobeSeedanceSizes (resolutions : List String) : List String :=
  resolutions.flatMap adobeSeedanceTierSizes

def adobeSeedanceResolutionBySize (resolutions : List String) : List (String × String) :=
  resolutions.flatMap fun resolution =>
    (adobeSeedanceTierSizes resolution).map fun size => (size, resolution)

def specs : List (String × Spec) := [
  ("gemini-omni-flash", {
    defaultDuration := 5, durations := integerRange 3 10, defaultSize := "1280x720",
    sizes := standardSizes, defaultResolution := "720p", resolutions := ["720p"],
    maxReferenceImages := 5 }),
  ("happy-horse-1.1", {
    defaultDuration := 5, durations := integerRange 3 15, defaultSize := "1280x720",
    sizes := standardHDVideoSizes, defaultResolution := "720p", resolutions := ["720p", "1080p"],
    supportsGenerateAudio := true,
    resolutionBySize := [("1280x720", "720p"), ("720x1280", "720p"), ("1920x1080", "1080p"),
      ("1080x1920", "1080p")] }),
  ("kling-3.0", {
    defaultDuration := 5, durations := integerRange 3 15, defaultSize := "1920x1080",
    sizes := standardUHDVideoSizes, defaultResolution := "1080p",
    resolutions := ["720p", "1080p", "2160p"], supportsGenerateAudio := true,
    resolutionBySize := [("1280x720", "720p"), ("720x1280", "720p"), ("1920x1080", "1080p"),
      ("1080x1920", "1080p"), ("3840x2160", "2160p"), ("2160x3840", "2160p")] }),
  ("kling-3.0-turbo", {
    defaultDuration := 5, durations := integerRange 3 15, defaultSize := "1280x720",
    sizes := standardHDVideoSizes, defaultResolution := "720p", resolutions := ["720p", "1080p"],
    supportsGenerateAudio := true,
    resolutionBySize := [("1280x720", "720p"), ("720x1280", "720p"), ("1920x1080", "1080p"),
      ("1080x1920", "1080p")] }),
  ("hailuo-2.3", {
    defaultDuration := 6, durations := [6, 10], defaultSize := "1280x720",
    sizes := standardHDVideoSizes, defaultResolution := "768p", resolutions := ["768p", "1080p"],
    resolutionBySize := [("1280x720", "768p"), ("720x1280", "768p"), ("1920x1080", "1080p"),
      ("1080x1920", "1080p")] }),
  ("wan-2.7", {
    defaultDuration := 5, durations := integerRange 2 10, defaultSize := "1280x720",
    sizes := standardHDVideoSizes, defaultResolution := "720p", resolutions := ["720p", "1080p"],
    supportsGenerateAudio := true,
    resolutionBySize := [("1280x720", "720p"), ("720x1280", "720p"), ("1920x1080", "1080p"),
      ("1080x1920", "1080p")] }),
  ("adobe:veo-3.1", {
    defaultDuration := 8, durations := [4, 6, 8], defaultSize := "1280x720",
    sizes := ["1280x720", "720x1280", "1920x1080", "1080x1920"], defaultResolution := "720p",
    resolutions := ["720p", "1080p"], maxReferenceImages := 3, supportsStartEndFrame := true,
    supportsEndFrame := true,
    resolutionBySize := [("1280x720", "720p"), ("720x1280", "720p"), ("1920x1080", "1080p"),
      ("1080x1920", "1080p")] }),
  ("adobe:veo-3.1-fast", {
    defaultDuration := 8, durations := [4, 6, 8], defaultSize := "1280x720",
    sizes := ["1280x720", "720x1280", "1920x1080", "1080x1920"], defaultResolution := "720p",
    resolutions := ["720p", "1080p"], supportsStartEndFrame := true, supportsEndFrame := true,
    resolutionBySize := [("1280x720", "720p"), ("720x1280", "720p"), ("1920x1080", "1080p"),
      ("1080x1920", "1080p")] }),
  ("adobe:seedance-2.0", {
    defaultDuration := 8, durations := integerRange 4 15, defaultSize := "1280x720",
    sizes := adobeSeedanceSizes ["480p", "720p", "1080p"], defaultResolution := "720p",
    resolutions := ["480p", "720p", "1080p"], maxReferenceImages := 9,
    supportsStartEndFrame := true, supportsEndFrame := true, maxReferenceVideos := 3,
    maxReferenceAudios := 3, maxReferenceItems := 12, maxVideoDuration := 15,
    resolutionBySize := adobeSeedanceResolutionBySize ["480p", "720p", "1080p"] }),
  ("adobe:seedance-2.0-fast", {
    defaultDuration := 8, durations := integerRange 4 15, defaultSize := "1280x720",
    sizes := adobeSeedanceSizes ["480p", "720p"], defaultResolution := "720p",
    resolutions := ["480p", "720p"], maxReferenceImages := 9, supportsStartEndFrame := true,
    supportsEndFrame := true, maxReferenceVideos := 3, maxReferenceAudios := 3,
    maxReferenceItems := 12, maxVideoDuration := 15,
    resolutionBySize := adobeSeedanceResolutionBySize ["480p", "720p"] }),
  ("adobe:kling-3.0-omni", {
    defaultDuration := 5, durations := [5, 10, 15], defaultSize := "1280x720",
    sizes := ["1280x720", "720x1280", "720x720", "1920x1080", "1080x1920", "1080x1080"],
    defaultResolution := "720p", resolutions := ["720p", "1080p"], maxReferenceImages := 3,
    supportsStartEndFrame := true, supportsEndFrame := true,
    resolutionBySize := [("1280x720", "720p"), ("720x1280", "720p"), ("720x720", "720p"),
      ("1920x1080", "1080p"), ("1080x1920", "1080p"), ("1080x1080", "1080p")] }),
  ("seedance-2.0", {
    defaultDuration := 8, durations := integerRange 4 15, defaultSize := "1280x720",
    sizes := standardSizes, defaultResolution := "720p",
    resolutions := ["480p", "720p", "1080p", "2160p"], maxReferenceImages := 4,
    supportsStartEndFrame := true, supportsEndFrame := true, maxReferenceVideos := 3,
    maxReferenceAudios := 1, maxVideoDuration := 15, supportsGenerateAudio := true }),
  ("seedance-2.0-fast", {
    defaultDuration := 8, durations := integerRange 4 15, defaultSize := "1280x720",
    sizes := standardSizes, defaultResolution := "720p", resolutions := ["480p", "720p"],
    maxReferenceImages := 4, supportsStartEndFrame := true, supportsEndFrame := true,
    maxReferenceVideos := 3, maxReferenceAudios := 1, maxVideoDuration := 15,
    supportsGenerateAudio := true }),
  ("seedance-2.0-mini", {
    defaultDuration := 8, durations := integerRange 4 15, defaultSize := "1280x720",
    sizes := standardSizes, defaultResolution := "720p", resolutions := ["480p", "720p"],
    maxReferenceImages := 4, supportsStartEndFrame := true, supportsEndFrame := true,
    maxReferenceVideos := 3, maxReferenceAudios := 1, maxVideoDuration := 15,
    supportsGenerateAudio := true }),
  ("seedance-2.5", {
    defaultDuration := 8, durations := integerRange 4 30, defaultSize := "1280x720",
    sizes := ["992x432", "864x496", "752x560", "640x640", "560x752", "496x864", "1470x630",
      "1280x720", "1112x834", "960x960", "834x1112", "720x1280"], defaultResolution := "720p",
    resolutions := ["480p", "720p"], maxReferenceImages := 30, supportsStartEndFrame := true,
    supportsEndFrame := true, maxReferenceVideos := 10, maxReferenceAudios := 10,
    maxVideoDuration := 151 / 5, supportsGenerateAudio := true,
    resolutionBySize := [("992x432", "480p"), ("864x496", "480p"), ("752x560", "480p"),
      ("640x640", "480p"), ("560x752", "480p"), ("496x864", "480p"), ("1470x630", "720p"),
      ("1280x720", "720p"), ("1112x834", "720p"), ("960x960", "720p"), ("834x1112", "720p"),
      ("720x1280", "720p")] }),
  ("flux-3-video", {
    defaultDuration := 8, durations := integerRange 5 20, defaultSize := "1280x720",
    sizes := ["1470x630", "1360x680", "1280x720", "1112x834", "960x960", "834x1112", "720x1280",
      "2520x1080", "2160x1080", "1920x1080", "1440x1080", "1440x1440", "1080x1440", "1080x1920"],
    defaultResolution := "720p", resolutions := ["720p", "1080p"], supportsStartEndFrame := true,
    supportsEndFrame := true, maxReferenceVideos := 1, maxVideoDuration := 301 / 20,
    maxReferenceVideoBytes := 50000000, supportsGenerateAudio := true,
    resolutionBySize := [("1470x630", "720p"), ("1360x680", "720p"), ("1280x720", "720p"),
      ("1112x834", "720p"), ("960x960", "720p"), ("834x1112", "720p"), ("720x1280", "720p"),
      ("2520x1080", "1080p"), ("2160x1080", "1080p"), ("1920x1080", "1080p"),
      ("1440x1080", "1080p"), ("1440x1440", "1080p"), ("1080x1440", "1080p"),
      ("1080x1920", "1080p")] }),
  ("veo-3.1", {
    defaultDuration := 8, durations := [4, 6, 8], defaultSize := "1280x720", sizes := standardSizes,
    defaultResolution := "720p", resolutions := ["720p", "1080p", "2160p"], maxReferenceImages := 3,
    supportsStartEndFrame := true, supportsEndFrame := true, supportsGenerateAudio := true }),
  ("veo-3.1-fast", {
    defaultDuration := 8, durations := [4, 6, 8], defaultSize := "1280x720", sizes := standardSizes,
    defaultResolution := "720p", resolutions := ["720p", "1080p", "2160p"],
    supportsStartEndFrame := true, supportsEndFrame := true, supportsGenerateAudio := true }),
  ("kling-o3-omni", {
    defaultDuration := 5, durations := integerRange 3 15, defaultSize := "1920x1080",
    sizes := ["1280x720", "720x1280", "960x960", "1920x1080", "1080x1920", "1440x1440", "3840x2160",
      "2160x3840", "2880x2880"], defaultResolution := "1080p",
    resolutions := ["720p", "1080p", "2160p"], maxReferenceImages := 7,
    maxReferenceImagesWithVideo := 4, supportsStartEndFrame := true, supportsEndFrame := true,
    maxReferenceVideos := 1, minVideoDuration := 3, maxVideoDuration := 201 / 20,
    videoReferenceResolutions := ["720p", "1080p"], supportsGenerateAudio := true,
    resolutionBySize := [("1280x720", "720p"), ("720x1280", "720p"), ("960x960", "720p"),
      ("1920x1080", "1080p"), ("1080x1920", "1080p"), ("1440x1440", "1080p"),
      ("3840x2160", "2160p"), ("2160x3840", "2160p"), ("2880x2880", "2160p")] }),
  ("minimax-h3", {
    defaultDuration := 5, durations := integerRange 5 15, defaultSize := "2560x1440",
    sizes := ["3360x1440", "2560x1440", "1920x1440", "1440x1440", "1440x1920", "1440x2560"],
    defaultResolution := "1440p", resolutions := ["1440p"], maxReferenceImages := 5,
    supportsStartEndFrame := true, supportsEndFrame := true, maxReferenceAudios := 3,
    supportsGenerateAudio := true, alwaysGenerateAudio := true }),
  ("grok-imagine-1.5", {
    defaultDuration := 6, durations := integerRange 3 15, defaultSize := "736x400",
    sizes := ["736x400", "400x736", "544x544", "1280x720", "720x1280", "960x960", "1888x1072",
      "1072x1888", "1424x1424"], defaultResolution := "480p",
    resolutions := ["480p", "720p", "1080p"], supportsStartEndFrame := true,
    requiresStartFrame := true, supportsGenerateAudio := true,
    resolutionBySize := [("736x400", "480p"), ("400x736", "480p"), ("544x544", "480p"),
      ("1280x720", "720p"), ("720x1280", "720p"), ("960x960", "720p"), ("1888x1072", "1080p"),
      ("1072x1888", "1080p"), ("1424x1424", "1080p")] })]

def creativeFabricaVideoSpec (model : String) : Spec :=
  let spec : Spec := {
    defaultDuration := 5
    durations := integerRange 3 15
    defaultSize := "1280x720"
    sizes := creativeFabricaVideoSizes
    defaultResolution := "720p"
    resolutions := creativeFabricaVideoResolutions
    maxReferenceImages := 10
    supportsStartEndFrame := true
    supportsEndFrame := true
    maxReferenceVideos := 10
    maxReferenceAudios := 10
    maxReferenceItems := 30
    maxVideoDuration := 151 / 5
    supportsGenerateAudio := true
    resolutionBySize := creativeFabricaVideoResolutionBySize }
  if model = "seedance_v2_mini" then
    { spec with
      defaultDuration := 4
      durations := integerRange 4 15
      resolutions := ["480p", "720p"]
      maxReferenceImages := 9
      maxReferenceVideos := 3
      maxReferenceAudios := 3
      maxReferenceItems := 9
      maxVideoDuration := 15 }
  else spec

/-- Every model stands under its id and under the id with its provider. -/
def creativeFabricaVideoSpecs : List (String × Spec) :=
  creativeFabricaVideoModels.flatMap fun model =>
    [("creativefabrica:" ++ model, creativeFabricaVideoSpec model),
      (model, creativeFabricaVideoSpec model)]

/-- The models of Adobe and Creative Fabrica stand under their id with the provider. -/
def specKey (provider model : String) : String :=
  if provider = "adobe" ∨ provider = "creativefabrica" then provider ++ ":" ++ model else model

@[irreducible] def getForNormalized (provider model : String) : Option Spec :=
  (specs.lookup (specKey provider model)).or
    (if provider = "creativefabrica" then creativeFabricaVideoSpecs.lookup model else none)

def getForProvider (provider model : String) : Option Spec :=
  getForNormalized (toLower (trimSpace provider)) (toLower (trimSpace model))

namespace Spec

variable (s : Spec)

def supportsDuration (duration : ℤ) : Bool := s.durations.contains duration

def supportsResolution (resolution : String) : Bool := s.resolutions.contains resolution

def supportsSize (size : String) : Bool := s.sizes.contains size

def supportsVideoReferenceResolution (resolution : String) : Bool :=
  s.videoReferenceResolutions.isEmpty || s.videoReferenceResolutions.contains resolution

def resolutionForSize (size : String) : Option String := s.resolutionBySize.lookup size

/-- The first size of the resolution. -/
def defaultSizeForResolution (resolution : String) : Option String :=
  if resolution = "" ∨ s.resolutionBySize = [] then none
  else s.sizes.find? fun size => (s.resolutionBySize.lookup size).getD "" = resolution

/-- The size of a request that names none. -/
def filledSize (resolution : String) : String :=
  (s.defaultSizeForResolution resolution).getD s.defaultSize

/-- The resolution of a request that names none. -/
def filledResolution (size : String) : String :=
  (s.resolutionForSize size).getD s.defaultResolution

/-- What holds of every entry: the defaults pass the checks, a duration is positive, and the
sizes and resolutions are written as the handlers compare them. -/
structure WellFormed : Prop where
  duration : s.supportsDuration s.defaultDuration = true
  size : s.supportsSize s.defaultSize = true
  resolution : s.supportsResolution s.defaultResolution = true
  durations : ∀ duration ∈ s.durations, 0 < duration ∧ duration ≤ 30
  sizes : ∀ size ∈ s.sizes, size ≠ "" ∧ isCanonical size = true
  resolutions : ∀ resolution ∈ s.resolutions, resolution ≠ "" ∧ isCanonical resolution = true

instance : Decidable s.WellFormed :=
  decidable_of_iff
    (s.supportsDuration s.defaultDuration = true ∧ s.supportsSize s.defaultSize = true ∧
      s.supportsResolution s.defaultResolution = true ∧
      (∀ duration ∈ s.durations, 0 < duration ∧ duration ≤ 30) ∧
      (∀ size ∈ s.sizes, size ≠ "" ∧ isCanonical size = true) ∧
      ∀ resolution ∈ s.resolutions, resolution ≠ "" ∧ isCanonical resolution = true)
    ⟨fun ⟨h₁, h₂, h₃, h₄, h₅, h₆⟩ => ⟨h₁, h₂, h₃, h₄, h₅, h₆⟩,
      fun ⟨h₁, h₂, h₃, h₄, h₅, h₆⟩ => ⟨h₁, h₂, h₃, h₄, h₅, h₆⟩⟩

end Spec

theorem specs_wellFormed : ∀ entry ∈ specs, entry.2.WellFormed := by
  decide +kernel

theorem creativeFabricaVideoSpecs_wellFormed :
    ∀ entry ∈ creativeFabricaVideoSpecs, entry.2.WellFormed := by
  decide +kernel

theorem mem_of_lookup {table : List (String × Spec)} {key : String} {spec : Spec}
    (h : table.lookup key = some spec) : (key, spec) ∈ table := by
  rw [List.lookup_eq_some_iff] at h
  obtain ⟨before, after, rfl, -⟩ := h
  simp

theorem getForProvider_wellFormed {provider model : String} {spec : Spec}
    (h : getForProvider provider model = some spec) : spec.WellFormed := by
  rw [getForProvider, getForNormalized, Option.or_eq_some_iff] at h
  rcases h with hspecs | ⟨-, hcreativeFabrica⟩
  · exact specs_wellFormed _ (mem_of_lookup hspecs)
  · split_ifs at hcreativeFabrica
    exact creativeFabricaVideoSpecs_wellFormed _ (mem_of_lookup hcreativeFabrica)

end GenerationGateway.VideoSpecs

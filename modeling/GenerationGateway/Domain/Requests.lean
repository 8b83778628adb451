import Mathlib.Data.Rat.Defs

/-!
# Generation requests

The requests as the HTTP layer decodes them and as the task row stores them. A
pointer of the source is an option, and an absent text is the empty one.
-/

namespace GenerationGateway

/-- An uploaded reference file: `path` is its name in the task asset store. -/
structure SourceMedia where
  filename : String
  mediaType : String
  path : String
  size : ℤ
  sha256 : String
  deriving DecidableEq, Repr

structure SourceImage where
  filename : String
  mediaType : String
  data : String
  deriving DecidableEq, Repr

structure ImageRequest where
  provider : String := ""
  model : String := ""
  prompt : String := ""
  n : ℤ := 0
  size : String := ""
  responseFormat : String := ""
  quality : String := ""
  outputFormat : String := ""
  outputCompression : Option ℤ := none
  background : String := ""
  moderation : String := ""
  isPublic : Option Bool := none
  styleIDs : List String := []
  referenceIDs : List String := []
  sourceImage : Option SourceImage := none
  sourceImages : List SourceImage := []
  referenceImages : List SourceMedia := []
  referenceStrength : String := ""
  imageStrength : Option ℚ := none
  deriving DecidableEq

structure VideoRequest where
  provider : String := ""
  model : String := ""
  prompt : String := ""
  duration : ℤ := 0
  size : String := ""
  resolution : String := ""
  isPublic : Option Bool := none
  sourceImage : Option SourceImage := none
  sourceImages : List SourceImage := []
  referenceStrength : String := ""
  referenceImages : List SourceMedia := []
  startFrame : Option SourceMedia := none
  endFrame : Option SourceMedia := none
  referenceVideos : List SourceMedia := []
  referenceAudio : Option SourceMedia := none
  referenceAudios : List SourceMedia := []
  generateAudio : Option Bool := none
  deriving DecidableEq

/-- The single audio reference of older tasks comes first. -/
def VideoRequest.audioReferences (r : VideoRequest) : List SourceMedia :=
  r.referenceAudio.toList ++ r.referenceAudios

/-- The images that an edit starts from. -/
def ImageRequest.imageCount (r : ImageRequest) : ℕ :=
  r.sourceImages.length + r.referenceImages.length + r.sourceImage.toList.length

/-- The reference images, the ones of older clients among them. -/
def VideoRequest.ordinaryImages (r : VideoRequest) : ℕ :=
  r.referenceImages.length + r.sourceImages.length + r.sourceImage.toList.length

/-- The files that `CleanupImageRequest` removes. -/
def ImageRequest.assets (r : ImageRequest) : List SourceMedia := r.referenceImages

/-- The files that `CleanupVideoRequest` removes. -/
def VideoRequest.assets (r : VideoRequest) : List SourceMedia :=
  r.referenceImages ++ r.referenceVideos ++ r.startFrame.toList ++ r.endFrame.toList ++
    r.audioReferences

end GenerationGateway

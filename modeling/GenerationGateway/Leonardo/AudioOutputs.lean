import GenerationGateway.Library.Walks

/-!
# Audio results of Leonardo

Every other response is decoded into types; the metadata of an audio generation are any
document, and `audioURLsFromMetadata` ranges over their maps.
-/

namespace GenerationGateway.Leonardo

open Documents Text

structure URL where
  scheme : String
  host : String
  path : String

/-- `url.Parse`, of which no more is used than that the empty text has no host. -/
structure URLParser where
  parse : String → Option URL
  host_empty : ∀ u, parse "" = some u → u.host = ""

structure Output where
  id : String
  url : String
  deriving DecidableEq

section Audio

variable (parser : URLParser)

def hasSuffix (s ending : String) : Bool := ending.toList.isSuffixOf s.toList

def isAudioURL (rawURL : String) : Bool :=
  match parser.parse rawURL with
  | none => false
  | some u => u.scheme ≠ "" && u.host ≠ "" &&
    [".mp3", ".wav", ".ogg", ".m4a", ".flac", ".aac"].any (hasSuffix (toLower u.path))

def isHTTPURL (rawURL : String) : Bool :=
  match parser.parse rawURL with
  | none => false
  | some u => (u.scheme = "http" || u.scheme = "https") && u.host ≠ ""

def isAudioKey (key : String) : Bool :=
  let lower := toLower key
  contains lower "audio" || contains lower "sound" || contains lower "music"

/-- The walk remembers whether one of the keys on its path is about audio. -/
def audioWalk : Walk Bool String where
  enter _ _ := []
  descends _ _ := true
  field _ _ _ := []
  under audioContext key := audioContext || isAudioKey key
  text audioContext s :=
    if (audioContext || isAudioURL parser s) && isHTTPURL parser s then [s] else []

/-- `audioURLsFromMetadata` of a decoded value may be `urls`. -/
def AudioURLsFromMetadata (value : Document) (urls : List String) : Prop :=
  ∃ out, Collects (audioWalk parser) false value out ∧ urls = fresh id [] out

/-- A generated image: its id, its URL and the asset under `urls`. -/
structure Image where
  id : String
  url : String
  asset : String

def Image.output (image : Image) : Output :=
  ⟨image.id, if image.url = "" then image.asset else image.url⟩

/-- The outputs among the images. -/
def imageOutputs (images : List Image) : List Output :=
  (images.map Image.output).filter fun output =>
    output.url ≠ "" && isAudioURL parser output.url

/-- The loop of `AudioResult` over the metadata. -/
def metadataOutputs (urls : List String) : List Output :=
  (urls.filter fun url => url ≠ "").map fun url => ⟨"", url⟩

/-- `AudioResult` may return `outputs` for the images and the metadata of a generation. -/
def AudioResult (images : List Image) (metadata : Document) (outputs : List Output) : Prop :=
  ∃ urls, AudioURLsFromMetadata parser metadata urls ∧
    outputs = fresh Output.url [] (imageOutputs parser images ++ metadataOutputs urls)

/-! ### The order of the metadata -/

variable {parser} {images : List Image} {metadata : Document}

theorem not_isHTTPURL_empty (parser : URLParser) : isHTTPURL parser "" = false := by
  unfold isHTTPURL
  cases hparse : parser.parse "" with
  | none => rfl
  | some u => simp [parser.host_empty u hparse]

mutual

/-- The walk takes HTTP URLs only. -/
theorem isHTTPURL_of_collects : ∀ {c : Bool} {value : Document} {out : List String},
    Collects (audioWalk parser) c value out → ∀ url ∈ out, isHTTPURL parser url
  | c, .object fields, out, h => by
    rw [Collects] at h
    obtain ⟨order, ⟨parts, hparts, hperm⟩, rfl⟩ := h
    intro url hurl
    obtain ⟨part, hpart, hmem⟩ := List.mem_flatten.mp hurl
    exact isHTTPURL_of_branches hparts part (hperm.mem_iff.mp hpart) url hmem
  | c, .array items, out, h => by
    rw [Collects] at h
    exact isHTTPURL_of_items h
  | c, .string s, out, h => by
    rw [Collects] at h
    subst h
    intro url hurl
    simp only [audioWalk] at hurl
    split_ifs at hurl with htaken
    · rw [List.mem_singleton.mp hurl]
      exact (Bool.and_eq_true_iff.mp htaken).2
    · cases hurl
  | _, .null, _, rfl => nofun
  | _, .bool _, _, rfl => nofun
  | _, .number _, _, rfl => nofun

theorem isHTTPURL_of_branches : ∀ {c : Bool} {fields : Fields} {parts : List (List String)},
    CollectsBranches (audioWalk parser) c fields parts →
      ∀ part ∈ parts, ∀ url ∈ part, isHTTPURL parser url
  | _, [], _, rfl => nofun
  | c, (key, value) :: rest, _, h => by
    rw [CollectsBranches] at h
    obtain ⟨out, parts', hout, hparts, rfl⟩ := h
    intro part hpart url hurl
    rcases List.mem_cons.mp hpart with rfl | hpart
    · exact isHTTPURL_of_collects hout url hurl
    · exact isHTTPURL_of_branches hparts part hpart url hurl

theorem isHTTPURL_of_items : ∀ {c : Bool} {items : List Document} {out : List String},
    CollectsItems (audioWalk parser) c items out → ∀ url ∈ out, isHTTPURL parser url
  | _, [], _, rfl => nofun
  | c, item :: rest, _, h => by
    rw [CollectsItems] at h
    obtain ⟨first, others, hfirst, hothers, rfl⟩ := h
    intro url hurl
    rcases List.mem_append.mp hurl with hurl | hurl
    · exact isHTTPURL_of_collects hfirst url hurl
    · exact isHTTPURL_of_items hothers url hurl

end

theorem fresh_map_url (seen urls : List String) :
    fresh Output.url seen (urls.map fun url => ⟨"", url⟩) =
      (fresh id seen urls).map fun url => ⟨"", url⟩ := by
  induction urls generalizing seen with
  | nil => rfl
  | cons url rest ih =>
    rw [List.map_cons, fresh, fresh, ih, ih]
    split_ifs with hseen hseen' hseen'
    · rfl
    · exact absurd hseen hseen'
    · exact absurd hseen' hseen
    · rfl

/-- The outputs are those of the images and then the new URLs of the metadata. -/
theorem audioOutputs_eq {out : List String} (hout : Collects (audioWalk parser) false metadata out) :
    fresh Output.url [] (imageOutputs parser images ++ metadataOutputs (fresh id [] out)) =
      fresh Output.url [] (imageOutputs parser images) ++
        (fresh id ((imageOutputs parser images).map Output.url) out).map fun url => ⟨"", url⟩ := by
  have hnonempty : metadataOutputs (fresh id [] out) =
      (fresh id [] out).map fun url => ⟨"", url⟩ := by
    rw [metadataOutputs, List.filter_eq_self.mpr]
    intro url hurl
    apply decide_eq_true
    rintro rfl
    have hmem : "" ∈ out := by
      have hkey := mem_keys_fresh.mp (List.mem_map_of_mem (f := id) hurl)
      simpa using hkey.1
    have hhttp := isHTTPURL_of_collects hout "" hmem
    rw [not_isHTTPURL_empty] at hhttp
    cases hhttp
  rw [hnonempty, fresh_append, List.append_nil, fresh_map_url, fresh_fresh]

/-- Of two branches one begins with the URLs that the other adds to the images. -/
def AudioSettled (parser : URLParser) (images : List Image) (metadata : Document) : Prop :=
  Steady (audioWalk parser) (Extends id) false ((imageOutputs parser images).map Output.url) metadata

theorem parsedAlike_audio_iff :
    ParsedAlike (AudioResult parser images metadata) ↔ AudioSettled parser images metadata := by
  have hinjective : Function.Injective fun url : String => (⟨"", url⟩ : Output) := by
    intro url url' h
    exact (Output.mk.inj h).2
  have hsame {out out' : List String} (hout : Collects (audioWalk parser) false metadata out)
      (hout' : Collects (audioWalk parser) false metadata out') :
      fresh Output.url [] (imageOutputs parser images ++ metadataOutputs (fresh id [] out)) =
          fresh Output.url [] (imageOutputs parser images ++ metadataOutputs (fresh id [] out')) ↔
        fresh id [] ((imageOutputs parser images).map Output.url ++ out) =
          fresh id [] ((imageOutputs parser images).map Output.url ++ out') := by
    rw [audioOutputs_eq hout, audioOutputs_eq hout', fresh_append, fresh_append, List.append_nil,
      List.map_id, List.append_cancel_left_eq, List.append_cancel_left_eq,
      (List.map_injective_iff.mpr hinjective).eq_iff]
  rw [AudioSettled, ← settled_iff settles_fresh]
  constructor
  · intro h out out' hout hout'
    exact (hsame hout hout').mp (h _ _ ⟨_, ⟨out, hout, rfl⟩, rfl⟩ ⟨_, ⟨out', hout', rfl⟩, rfl⟩)
  · rintro h _ _ ⟨_, ⟨out, hout, rfl⟩, rfl⟩ ⟨_, ⟨out', hout', rfl⟩, rfl⟩
    exact (hsame hout hout').mpr (h out out' hout hout')

end Audio

end GenerationGateway.Leonardo

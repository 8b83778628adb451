import GenerationGateway.CreativeFabrica.Poll
import GenerationGateway.Library.Walks

/-!
# Responses to submissions and uploads of Creative Fabrica

The parsers that read a response whose shape is not known: some search for the first hit,
some collect URLs. Every `range` over a map may take its own order.
-/

namespace GenerationGateway.CreativeFabrica

open Documents Text

/-! ### Jobs -/

structure Job where
  id : String
  flowID : String
  sessionID : String
  pollID : String
  deriving DecidableEq

/-- `mapValue` of several keys. -/
def firstMap (data : Fields) (keys : List String) : Option Fields := keys.findSome? (mapValue data)

def objectIdentifier (value : Option Fields) (keys : List String) : String :=
  value.elim "" fun fields => firstString fields keys

def flowIDKeys : List String := ["flowId", "flow_id"]
def sessionIDKeys : List String := ["sessionId", "session_id"]
def pollIDKeys : List String := ["iterationId", "iteration_id"]
def idKeys : List String := ["flowId", "flow_id", "sessionId", "session_id", "id"]

/-- The first text that is not empty. -/
def firstNonEmpty : List String → String
  | [] => ""
  | s :: rest => if s ≠ "" then s else firstNonEmpty rest

/-- The flow id at the places where it is expected. -/
def ownFlowID (data : Fields) : String :=
  firstNonEmpty [firstString data flowIDKeys,
    objectIdentifier (firstMap data ["flow", "flowData", "flow_data"]) ["flowId", "flow_id", "id"]]

def ownSessionID (data : Fields) : String :=
  firstNonEmpty [firstString data sessionIDKeys,
    objectIdentifier (firstMap data ["session", "sessionData", "session_data"])
      ["sessionId", "session_id", "id"]]

def ownPollID (data : Fields) : String :=
  firstNonEmpty [firstString data pollIDKeys,
    objectIdentifier (firstMap data ["iteration", "iterationData", "iteration_data"])
      ["iterationId", "iteration_id", "id"],
    firstString data ["id"]]

/-- A text at an expected place, or else one that a search may find. -/
def FoundOr (own : String) (data : Fields) (keys : List String) (s : String) : Prop :=
  if own ≠ "" then s = own else FirstStringRecursive data keys s

/-- `parseJob(data)` may be `job`. -/
def ParseJob (data : Fields) (job : Job) : Prop :=
  FoundOr (ownFlowID data) data flowIDKeys job.flowID ∧
    FoundOr (ownSessionID data) data sessionIDKeys job.sessionID ∧
    FoundOr (ownPollID data) data pollIDKeys job.pollID ∧
    FoundOr (firstNonEmpty [job.flowID, job.sessionID, firstString data ["id"]]) data idKeys job.id

/-! ### Upload URLs -/

/-- The headers are the entries of a map. -/
structure UploadURL where
  id : String
  url : String
  method : String
  headers : Option (List (String × String))

def UploadURL.empty : UploadURL := ⟨"", "", "", none⟩

/-- What the walk takes from an object that has a URL. -/
def uploadOf (current : Fields) : Option UploadURL :=
  let candidate := firstString current ["uploadUrl", "upload_url", "url", "signedUrl", "signed_url"]
  if candidate ≠ "" ∧ hasPrefix candidate "http" then
    some {
      id := firstString current ["id", "uploadId", "upload_id"]
      url := candidate
      method := firstString current ["method", "httpMethod", "http_method"]
      headers := (mapValue current "headers").map
        (List.map fun header => (header.1, header.2.stringValue)) }
  else none

/-- `parseUploadURL(data)` may be `upload`. -/
def ParseUploadURL (data : Fields) (upload : UploadURL) : Prop :=
  Ends (search uploadOf (.object data)) .empty upload

/-- `strings.EqualFold(key, "frames")`. -/
def isFrames (key : String) : Bool := key.toList.map foldChar = "frames".toList

def frameURL (frame : Fields) : Option String :=
  let candidate := firstString frame ["url", "uploadUrl", "upload_url", "signedUrl", "signed_url"]
  if hasPrefix candidate "http" then some candidate else none

/-- The walk of `VideoFrameUploadURLs`: it takes the URLs of a list of frames, and goes on below
every key. -/
def frameWalk : Walk Unit String where
  enter _ _ := []
  descends _ _ := true
  field _ key value := if isFrames key then value.objects.filterMap frameURL else []
  under _ _ := ()
  text _ _ := []

/-- `VideoFrameUploadURLs(data)` may be `urls`; it never fails. -/
def VideoFrameUploadURLs (data : Fields) (urls : List String) : Prop :=
  ∃ out, Collects frameWalk () (.object data) out ∧ urls = fresh id [] out

/-! ### Outputs at any place -/

/-- An output of `parseOutputs`. -/
structure MediaOutput extends Output where
  duration : ℤ

def mediaURL (current : Fields) : String :=
  firstString current ["url", "downloadUrl", "download_url", "presignedUrl", "presigned_url",
    "mediaUrl", "media_url"]

def mediaOutput (current : Fields) : MediaOutput where
  id := firstString current ["id", "assetId", "asset_id", "mediaId", "media_id"]
  url := mediaURL current
  mediaType := firstString current ["mediaType", "media_type", "mimeType", "mime_type", "type"]
  width := firstInt current ["width"]
  height := firstInt current ["height"]
  duration := firstInt current ["duration", "durationSeconds", "duration_seconds"]

def outputWalk : Walk Unit MediaOutput where
  enter _ current :=
    if mediaURL current ≠ "" ∧ hasPrefix (mediaURL current) "http" then [mediaOutput current] else []
  descends _ _ := true
  field _ _ _ := []
  under _ _ := ()
  text _ _ := []

/-- `parseOutputs(data)` may be `outputs`. -/
def ParseOutputs (data : Fields) (outputs : List MediaOutput) : Prop :=
  ∃ out, Collects outputWalk () (.object data) out ∧
    outputs = fresh (fun output => output.url) [] out

end GenerationGateway.CreativeFabrica

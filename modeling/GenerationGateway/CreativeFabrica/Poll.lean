import GenerationGateway.Library.Document

/-!
# Poll responses of Creative Fabrica

A response passes the check that every RPC makes, which searches the whole document for
a message and for a status that looks like an error, and then the parser of its kind.
The searches run over maps in any order, so both layers are relations.
-/

namespace GenerationGateway.CreativeFabrica

open Documents Text

structure RPCError where
  service : String
  method : String
  message : String

structure Output where
  id : String
  url : String
  mediaType : String
  width : ℤ
  height : ℤ

structure PollResult where
  status : String
  progress : ℤ
  outputs : List Output
  error : String

def normalizeStatus (value : String) : String :=
  let status := toUpper (trimSpace value)
  if ["SUCCEEDED", "SUCCESS", "COMPLETED", "COMPLETE", "DONE"].contains status then "COMPLETE"
  else if ["FAILED", "FAILURE", "ERROR"].contains status then "FAILED"
  else if ["CANCELLED", "CANCELED"].contains status then "CANCELLED"
  else if ["PENDING", "QUEUED", "RUNNING", "PROCESSING", "COMPILING", "PERSISTING", "WAITING",
    "WAITING_EXTERNAL"].contains status then "PENDING"
  else status

def normalizeFlowStatus (value : String) : String :=
  let status := toUpper (trimSpace value)
  if ["IMAGE_STATE_GENERATING", "GENERATING", "QUEUED", "PROCESSING"].contains status then
    "PENDING"
  else if ["IMAGE_STATE_GENERATED", "GENERATED", "COMPLETE", "COMPLETED", "SUCCESS"].contains status
  then "COMPLETE"
  else if ["IMAGE_STATE_FAILED", "FAILED", "ERROR"].contains status then "FAILED"
  else normalizeStatus value

def normalizeSessionStatus (value : String) : String :=
  let upper := toUpper (trimSpace value)
  if contains upper "FAILED" || contains upper "ERROR" then "FAILED"
  else if contains upper "COMPLETED" || contains upper "COMPLETE" || contains upper "SUCCEEDED" ||
    contains upper "SUCCESS" then "COMPLETE"
  else if contains upper "PENDING" || contains upper "PROCESS" || contains upper "QUEUE" ||
    contains upper "RUNNING" then "PENDING"
  else normalizeStatus value

/-! ### The check of every RPC -/

def errorMessageKeys : List String := ["error", "message", "errorMessage"]

/-- `looksLikeError`, with the status that its search finds. -/
def looksLikeError (data : Fields) (status : String) : Bool :=
  equalFold status "error" || equalFold status "failed" || !(data.value "error").isNull ||
    !(data.value "errors").isNull

/-- `RPCWithCookie` may answer a decoded response of status 200 with `r`. -/
def RPC (service method : String) (data : Fields) (r : Except RPCError Fields) : Prop :=
  ∃ message status, FirstStringRecursive data errorMessageKeys message ∧
    FirstStringRecursive data ["status", "code"] status ∧
    r = if message ≠ "" ∧ looksLikeError data status then .error ⟨service, method, message⟩
      else .ok data

/-! ### Flows -/

def flowStatusKeys : List String := ["state", "status", "flowStatus"]

/-- The flow of a response is under `flow`, or the response itself. -/
def flowOf (data : Fields) : Fields := (mapValue data "flow").getD data

/-- The images of all iterations. -/
def flowImages (flow : Fields) : List Fields :=
  (flow.value "iterations").objects.flatMap fun iteration => (iteration.value "images").objects

def imageState (image : Fields) : String := normalizeFlowStatus (firstString image ["state", "status"])

def imageURL (image : Fields) : String :=
  firstString image ["imageUrl", "image_url", "previewUrl", "preview_url"]

def flowOutput (image : Fields) : Output where
  id := firstString image ["id", "externalId", "external_id"]
  url := imageURL image
  mediaType := firstString image ["contentType", "content_type"]
  width := firstInt image ["width"]
  height := firstInt image ["height"]

/-- The body of the loop over the images. -/
def PollResult.addImage (result : PollResult) (image : Fields) : PollResult :=
  let state := imageState image
  let result :=
    if state = "FAILED" ∧ result.error = "" then
      { result with error := firstString image ["errorMessage", "error_message"] }
    else result
  let result := if state = "FAILED" then { result with status := "FAILED" } else result
  let result :=
    if imageURL image ≠ "" ∧ hasPrefix (imageURL image) "http" then
      { result with outputs := result.outputs ++ [flowOutput image] }
    else result
  if state = "GENERATED" then { result with status := "COMPLETE" } else result

/-- A result without a status is complete once it has outputs. -/
def PollResult.finished (result : PollResult) : PollResult :=
  if result.status = "" ∧ result.outputs ≠ [] then { result with status := "COMPLETE" } else result

/-- `parseFlowPollResult`, with the status and the error that its searches find. -/
def parseFlow (flow : Fields) (status error : String) : PollResult :=
  ((flowImages flow).foldl PollResult.addImage ⟨normalizeFlowStatus status, 0, [], error⟩).finished

/-- `parseFlowPollResult(data)` may be `result`. -/
def ParseFlowPollResult (data : Fields) (result : PollResult) : Prop :=
  ∃ status error, FirstStringRecursive (flowOf data) flowStatusKeys status ∧
    FirstStringRecursive (flowOf data) ["errorMessage", "error_message"] error ∧
    result = parseFlow (flowOf data) status error

/-! ### Sessions -/

/-- A poll result with the URLs that it has already. -/
structure SessionScan where
  result : PollResult
  seen : List String

namespace SessionScan

/-- `FAILED` stays, and `COMPLETE` is not replaced by `PENDING`. -/
def setStatus (value : String) (scan : SessionScan) : SessionScan :=
  let status := normalizeSessionStatus value
  if status = "FAILED" then { scan with result := { scan.result with status := "FAILED" } }
  else if status = "COMPLETE" then
    if scan.result.status ≠ "FAILED" then
      { scan with result := { scan.result with status := "COMPLETE" } }
    else scan
  else if status = "PENDING" then
    if scan.result.status = "" then
      { scan with result := { scan.result with status := "PENDING" } }
    else scan
  else scan

def setError (value : Fields) (keys : List String) (scan : SessionScan) : SessionScan :=
  if scan.result.error = "" then
    { scan with result := { scan.result with error := firstString value keys } }
  else scan

def errorKeys : List String := ["errorMessage", "error_message", "error"]

/-- An output with a new URL. -/
def addOutput (output : Output) (scan : SessionScan) : SessionScan :=
  if hasPrefix output.url "http" ∧ output.url ∉ scan.seen then
    ⟨{ scan.result with outputs := scan.result.outputs ++ [output] }, output.url :: scan.seen⟩
  else scan

/-- `mapValue` of two keys. -/
def content (item : Fields) (key key' : String) : Option Fields :=
  (mapValue item key).or (mapValue item key')

def videoOutput (item video : Fields) : Output where
  id := firstString item ["id", "mediaId", "media_id"]
  url := firstString video ["generatedVideoUrl", "generated_video_url", "generatedPreviewUrl",
    "generated_preview_url"]
  mediaType := "video/mp4"
  width := 0
  height := 0

def imageOutput (item image : Fields) : Output where
  id := firstString item ["id", "mediaId", "media_id"]
  url := firstString image ["generatedImageUrl", "generated_image_url", "generatedPreviewUrl",
    "generated_preview_url"]
  mediaType := "image/png"
  width := firstInt image ["width"]
  height := firstInt image ["height"]

/-- A failed item settles the status and adds nothing; another one adds its media. -/
def appendItem (scan : SessionScan) (item : Fields) : SessionScan :=
  let status := normalizeSessionStatus (firstString item ["status", "mediaStatus", "media_status"])
  if status = "FAILED" then
    let scan := { scan with result := { scan.result with status := "FAILED" } }
    (scan.setError item errorKeys).setError item ["message"]
  else
    let scan := (content item "videoContent" "video_content").elim scan fun video =>
      scan.addOutput (videoOutput item video)
    let scan := (content item "imageContent" "image_content").elim scan fun image =>
      scan.addOutput (imageOutput item image)
    scan.setStatus status

/-- The value under the first of the keys that is there. -/
def firstValue (data : Fields) (keys : List String) : Document :=
  (keys.findSome? fun key => data.lookup key).getD .null

def collectItems (value : Document) (scan : SessionScan) : SessionScan :=
  value.objects.foldl appendItem scan

mutual

/-- The status, the error and the media of an iteration, then what lies under it. -/
def walkIterations : Document → SessionScan → SessionScan
  | .object current, scan =>
    let status := normalizeSessionStatus
      (firstString current ["status", "state", "iterationStatus", "iteration_status"])
    let scan := (scan.setStatus status).setError current errorKeys
    let scan := if status = "FAILED" then scan.setError current ["message"] else scan
    let scan := scan.collectItems (firstValue current ["mediaItems", "media_items", "items"])
    let scan := walkUnder "iterations" current scan
    let scan := walkUnder "iteration" current scan
    let scan := walkUnder "sessionIterations" current scan
    walkUnder "session_iterations" current scan
  | .array items, scan => walkEach items scan
  | _, scan => scan

/-- The walk from the value under the key, if there is one. -/
def walkUnder (key : String) : Fields → SessionScan → SessionScan
  | [], scan => scan
  | (name, child) :: rest, scan =>
    if key = name then walkIterations child scan else walkUnder key rest scan

def walkEach : List Document → SessionScan → SessionScan
  | [], scan => scan
  | item :: rest, scan => walkEach rest (walkIterations item scan)

end

end SessionScan

open SessionScan

/-- The session of a response is under `session`, or the response itself. -/
def sessionOf (data : Fields) : Fields := (mapValue data "session").getD data

def sessionStatus (data : Fields) : String :=
  firstString (sessionOf data) ["status", "sessionStatus", "session_status"]

def parseSessionPollResult (data : Fields) : PollResult :=
  let items := ["items", "mediaItems", "media_items"]
  let scan : SessionScan := ⟨⟨"", 0, [], ""⟩, []⟩
  let scan := (scan.setStatus (sessionStatus data)).setError (sessionOf data) errorKeys
  let scan := (mapValue data "media").elim scan fun media =>
    scan.collectItems (firstValue media items)
  let scan := scan.collectItems (firstValue data items)
  let scan := (data.value "iterations").objects.foldl (fun scan iteration =>
    scan.collectItems (firstValue iteration ["mediaItems", "media_items", "items"])) scan
  let scan := walkIterations (data.value "iterations") scan
  let scan := (mapValue data "session").elim scan fun session =>
    walkIterations (session.value "iterations") scan
  scan.result.finished

/-! ### The two polls -/

inductive Poll
  | getFlow
  | getSession

namespace Poll

def service : Poll → String
  | getFlow => "FlowService"
  | getSession => "StudioMediaMatrixService"

def method : Poll → String
  | getFlow => "GetFlow"
  | getSession => "GetSession"

/-- The parser of the response may return `result`. -/
def Parses : Poll → Fields → PollResult → Prop
  | getFlow, data, result => ParseFlowPollResult data result
  | getSession, data, result => result = parseSessionPollResult data

/-- The call may return `r` when the response is `data`. -/
def Returns (poll : Poll) (data : Fields) (r : Except RPCError PollResult) : Prop :=
  ∃ checked, RPC poll.service poll.method data checked ∧
    match checked with
    | .error e => r = .error e
    | .ok data => ∃ result, poll.Parses data result ∧ r = .ok result

/-- The status of the flow or the session itself, normalised. -/
def ownStatus : Poll → Fields → String
  | getFlow, data => normalizeFlowStatus (firstString (flowOf data) flowStatusKeys)
  | getSession, data => normalizeSessionStatus (sessionStatus data)

end Poll

end GenerationGateway.CreativeFabrica

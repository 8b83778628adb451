import GenerationGateway.Library.Walks

/-!
# Responses of Adobe

Texts are what `fmt.Sprint` prints, and `fmt` prints a map in the order of its keys; the format
of a number is a parameter. The searches and the walk over the outputs range over maps.
-/

namespace GenerationGateway.Adobe

open Documents Text

section Values

variable (format : Number → String)

mutual

/-- `fmt.Sprint` of a decoded value. -/
def sprint : Document → String
  | .null => "<nil>"
  | .bool b => if b then "true" else "false"
  | .number n => format n
  | .string s => s
  | .array items => "[" ++ " ".intercalate (sprintItems items) ++ "]"
  | .object fields =>
    let entries := (sprintFields fields).mergeSort fun entry entry' => decide (entry.1 ≤ entry'.1)
    "map[" ++ " ".intercalate (entries.map fun entry => entry.1 ++ ":" ++ entry.2) ++ "]"

def sprintItems : List Document → List String
  | [] => []
  | item :: rest => sprint item :: sprintItems rest

def sprintFields : Fields → List (String × String)
  | [] => []
  | (key, value) :: rest => (key, sprint value) :: sprintFields rest

end

def stringValue (value : Document) : String :=
  if value.isNull then "" else trimSpace (sprint format value)

def firstString (data : Fields) : List String → String
  | [] => ""
  | key :: keys =>
    let found := stringValue format (data.value key)
    if found ≠ "" ∧ found ≠ "<nil>" then found else firstString data keys

/-- The hit of an object in a search for the keys. -/
def hit (keys : List String) (current : Fields) : Option String :=
  if firstString format current keys ≠ "" then some (firstString format current keys) else none

def mediaIDKeys : List String := ["id", "assetId", "asset_id", "imageId", "videoId", "audioId"]

/-- `findID(value)` may be `id`. -/
def FindID (value : Document) (id : String) : Prop :=
  Ends (search (hit format mediaIDKeys) value) "" id

/-- `findString(value, keys...)` may be `s`. -/
def FindString (value : Document) (keys : List String) (s : String) : Prop :=
  Ends (search (hit format keys) value) "" s

/-! ### Outputs -/

structure Output where
  id : String
  url : String
  mediaType : String
  width : ℤ
  height : ℤ
  deriving DecidableEq

/-- The output under the key of a kind. -/
def nestedOutput (current : Fields) (kind : String) : Option Output :=
  (mapValue current kind).bind fun nested =>
    let url := firstString format nested ["presignedUrl", "url"]
    if url ≠ "" then
      some {
        id := firstString format nested ["id", "creativeCloudFileId"]
        url := url
        mediaType := kind
        width := (nested.value "width").int64Value
        height := (nested.value "height").int64Value }
    else none

/-- The output of an object itself. -/
def ownOutput (current : Fields) : Option Output :=
  let url := firstString format current ["presignedUrl", "url"]
  if url ≠ "" then
    some {
      id := firstString format current ["id"]
      url := url
      mediaType := firstString format current ["mediaType"]
      width := 0
      height := 0 }
  else none

def outputOf (current : Fields) : Option Output :=
  (["image", "video", "audio"].findSome? (nestedOutput format current)).or (ownOutput format current)

/-- The walk of `parseOutputs`; it does not go below an output. -/
def outputWalk : Walk Unit Output where
  enter _ current := (outputOf format current).toList
  descends _ current := (outputOf format current).isNone
  field _ _ _ := []
  under _ _ := ()
  text _ _ := []

/-- `parseOutputs(data)` may be `outputs`. A key that is not there reads as null, below which
there is nothing. -/
def ParseOutputs (data : Fields) (outputs : List Output) : Prop :=
  Collects (outputWalk format) () (data.value "outputs") outputs

/-! ### Polls -/

def normalizeStatus (status : String) : String :=
  let upper := toUpper (trimSpace status)
  if ["COMPLETED", "COMPLETE", "SUCCEEDED", "SUCCESS", "DONE"].contains upper then "COMPLETE"
  else if ["FAILED", "FAILURE", "ERROR", "CANCELLED", "CANCELED"].contains upper then "FAILED"
  else if ["IN_PROGRESS", "RUNNING", "PROCESSING", "PENDING", "QUEUED", "STARTED"].contains upper then
    "PENDING"
  else upper

def firstStatus (data : Fields) : String :=
  let value := stringValue format (data.value "status")
  if value ≠ "" then value
  else (mapValue data "task").elim "" fun task => stringValue format (task.value "status")

/-- A fraction counts as a percentage from 1 on. -/
def ownProgress (data : Fields) : List String → ℤ
  | [] => 0
  | key :: keys =>
    let value := (data.value key).int64Value
    if 0 < value then if value ≤ 1 then value * 100 else value else ownProgress data keys

def progressKeys : List String := ["progress", "percentage", "percent", "task_progress"]

/-- The progress of the task under `task`, and of the tasks below it. -/
def taskProgress : Fields → ℤ
  | [] => 0
  | (key, value) :: rest =>
    if key = "task" then
      match value with
      | .object task =>
        if ownProgress task progressKeys ≠ 0 then ownProgress task progressKeys else taskProgress task
      | _ => 0
    else taskProgress rest

def progressValue (data : Fields) : ℤ :=
  if ownProgress data progressKeys ≠ 0 then ownProgress data progressKeys else taskProgress data

/-- `headers.Get`. -/
abbrev Headers := String → String

def progressHeader (headers : Headers) : ℤ :=
  ((["x-task-progress", "x-progress", "progress"].map fun key =>
    parseInt64 (trimSpace (headers key))).find? fun value => decide (0 < value)).getD 0

structure PollResult where
  status : String
  progress : ℤ
  outputs : List Output
  error : String

def errorKeys : List String := ["message", "error_message", "errorMessage"]

/-- The result of a poll with these outputs and this message. -/
def pollResult (headers : Headers) (data : Fields) (outputs : List Output) (error : String) :
    PollResult :=
  let status := firstStatus format data
  let status := normalizeStatus (if status = "" then headers "x-task-status" else status)
  let progress := progressValue data
  { status := if outputs ≠ [] ∧ status = "" then "COMPLETE" else status
    progress := if progress = 0 then progressHeader headers else progress
    outputs := outputs
    error := error }

/-- `Poll` may parse the response to `result`. -/
def Poll (headers : Headers) (data : Fields) (result : PollResult) : Prop :=
  ∃ outputs error, ParseOutputs format data outputs ∧
    FindString format (.object data) errorKeys error ∧
    result = pollResult format headers data outputs error

/-- The messages agree, and the outputs of any two branches of a map commute. -/
structure PollSettled (data : Fields) : Prop where
  error : Agree (search (hit format errorKeys) (.object data))
  outputs : Steady (outputWalk format) (fun _ xs ys => xs ++ ys = ys ++ xs) () []
    (data.value "outputs")

variable {format}

theorem parsedAlike_poll_iff {headers : Headers} {data : Fields} :
    ParsedAlike (Poll format headers data) ↔ PollSettled format data := by
  constructor
  · intro h
    obtain ⟨error, herror⟩ := ends_total (search (hit format errorKeys) (.object data)) ""
    have houtputs := collects_collected (outputWalk format) () (data.value "outputs")
    constructor
    · apply ends_unique_iff.mp
      intro e e' he he'
      exact (PollResult.mk.inj
        (h _ _ ⟨_, e, houtputs, he, rfl⟩ ⟨_, e', houtputs, he', rfl⟩)).2.2.2
    · rw [← settled_iff settles_id]
      intro out out' hout hout'
      exact (PollResult.mk.inj
        (h _ _ ⟨out, error, hout, herror, rfl⟩ ⟨out', error, hout', herror, rfl⟩)).2.2.1
  · rintro ⟨herrors, hsteady⟩ _ _ ⟨out, e, hout, he, rfl⟩ ⟨out', e', hout', he', rfl⟩
    rw [← settled_iff settles_id] at hsteady
    obtain rfl : out = out' := hsteady out out' hout hout'
    obtain rfl : e = e' := ends_unique_iff.mpr herrors e e' he he'
    rfl

end Values

end GenerationGateway.Adobe

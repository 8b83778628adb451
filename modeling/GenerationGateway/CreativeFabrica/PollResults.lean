import GenerationGateway.CreativeFabrica.Poll

/-!
# What a poll reports

A failure that the provider reports settles the task if the check of the RPC lets the
response pass: both parsers keep it to the end, but the check comes first and takes a
message beside a status for an error of the call.
-/

namespace GenerationGateway.CreativeFabrica

open Documents Text

/-! ### Failures -/

/-- Every order in which the searches may run ends in a failed poll result. -/
def Poll.SettlesFailure (poll : Poll) (data : Fields) : Prop :=
  (∃ r, poll.Returns data r) ∧
    ∀ r, poll.Returns data r → ∃ result, r = .ok result ∧ result.status = "FAILED"

/-- The response holds no message, or nothing in it looks like an error. -/
def PassesErrorCheck (data : Fields) : Prop :=
  foundStrings data errorMessageKeys = [] ∨
    ∀ status, FirstStringRecursive data ["status", "code"] status → looksLikeError data status = false

theorem rpc_passes_iff {service method : String} {data : Fields} :
    (∀ r, RPC service method data r → r = .ok data) ↔ PassesErrorCheck data := by
  constructor
  · intro h
    by_contra hnot
    rw [PassesErrorCheck, not_or] at hnot
    obtain ⟨hmessage, hstatus⟩ := hnot
    push Not at hstatus
    obtain ⟨status, hfound, hlooks⟩ := hstatus
    obtain ⟨message, rest, hcons⟩ := List.exists_cons_of_ne_nil hmessage
    have hmem : message ∈ foundStrings data errorMessageKeys := hcons ▸ List.mem_cons_self
    obtain ⟨-, -, hne⟩ := firstString_of_mem_foundStrings hmem
    have herror : RPC service method data (.error ⟨service, method, message⟩) := by
      refine ⟨message, status, .inl hmem, hfound, ?_⟩
      rw [if_pos ⟨hne, by simpa using hlooks⟩]
    cases h _ herror
  · rintro hpass r ⟨message, status, hmessage, hstatus, rfl⟩
    rw [if_neg]
    rintro ⟨hne, hlooks⟩
    rcases hpass with hnone | hquiet
    · rcases hmessage with hmem | ⟨-, hempty⟩
      · rw [hnone] at hmem
        cases hmem
      · exact hne hempty
    · rw [hquiet status hstatus] at hlooks
      cases hlooks

theorem rpc_total (service method : String) (data : Fields) : ∃ r, RPC service method data r := by
  obtain ⟨message, hmessage⟩ := firstStringRecursive_total data errorMessageKeys
  obtain ⟨status, hstatus⟩ := firstStringRecursive_total data ["status", "code"]
  exact ⟨_, message, status, hmessage, hstatus, rfl⟩

theorem Poll.parses_total (poll : Poll) (data : Fields) : ∃ result, poll.Parses data result := by
  cases poll with
  | getFlow =>
    obtain ⟨status, hstatus⟩ := firstStringRecursive_total (flowOf data) flowStatusKeys
    obtain ⟨error, herror⟩ := firstStringRecursive_total (flowOf data) ["errorMessage", "error_message"]
    exact ⟨_, status, error, hstatus, herror, rfl⟩
  | getSession => exact ⟨_, rfl⟩

/-! #### The status of a flow -/

/-- No normalised status is `GENERATED`, so the last branch of the loop is dead. -/
theorem normalizeFlowStatus_ne_generated (value : String) :
    normalizeFlowStatus value ≠ "GENERATED" := by
  unfold normalizeFlowStatus normalizeStatus
  dsimp only
  by_cases h : toUpper (trimSpace value) = "GENERATED"
  · rw [h]
    decide
  · split_ifs <;> first | decide | exact h

section Images

variable (result : PollResult) (image : Fields)

/-- The loop shows an image that has a link under any of the four keys. -/
def shown : Bool := decide (imageURL image ≠ "") && hasPrefix (imageURL image) "http"

theorem addImage_status : (result.addImage image).status =
    if imageState image = "FAILED" then "FAILED" else result.status := by
  have hdead : imageState image ≠ "GENERATED" := normalizeFlowStatus_ne_generated _
  simp only [PollResult.addImage, if_neg hdead]
  split_ifs <;> rfl

theorem addImage_outputs : (result.addImage image).outputs =
    result.outputs ++ if shown image then [flowOutput image] else [] := by
  have hdead : imageState image ≠ "GENERATED" := normalizeFlowStatus_ne_generated _
  simp only [PollResult.addImage, if_neg hdead, shown]
  split_ifs <;> simp_all

end Images

/-- The loop over the images: a failed one settles the status. -/
theorem foldl_addImage_status (images : List Fields) (result : PollResult) :
    (images.foldl PollResult.addImage result).status =
      if ∃ image ∈ images, imageState image = "FAILED" then "FAILED" else result.status := by
  induction images generalizing result with
  | nil => simp
  | cons image rest ih =>
    rw [List.foldl_cons, ih, addImage_status]
    by_cases hfailed : imageState image = "FAILED"
    · simp [hfailed]
    · simp [hfailed]

theorem foldl_addImage_outputs (images : List Fields) (result : PollResult) :
    (images.foldl PollResult.addImage result).outputs =
      result.outputs ++ (images.filter shown).map flowOutput := by
  induction images generalizing result with
  | nil => simp
  | cons image rest ih =>
    rw [List.foldl_cons, ih, addImage_outputs]
    by_cases h : shown image <;> simp [h]

theorem finished_status {result : PollResult} (h : result.status ≠ "") :
    result.finished.status = result.status := by
  rw [PollResult.finished, if_neg fun hempty => h hempty.1]

theorem finished_outputs (result : PollResult) : result.finished.outputs = result.outputs := by
  unfold PollResult.finished
  split_ifs <;> rfl

/-! #### The status of a session -/

namespace SessionScan

/-- The scan has seen a failure. -/
def Failed (scan : SessionScan) : Prop := scan.result.status = "FAILED"

variable {scan : SessionScan}

theorem Failed.setStatus (h : scan.Failed) (value : String) : (scan.setStatus value).Failed := by
  have hstatus : scan.result.status = "FAILED" := h
  unfold SessionScan.setStatus Failed
  dsimp only
  split_ifs <;> simp_all

theorem Failed.setError (h : scan.Failed) (value : Fields) (keys : List String) :
    (scan.setError value keys).Failed := by
  unfold SessionScan.setError
  split_ifs <;> exact h

theorem Failed.addOutput (h : scan.Failed) (output : Output) : (scan.addOutput output).Failed := by
  unfold SessionScan.addOutput
  split_ifs <;> exact h

theorem Failed.appendItem (h : scan.Failed) (item : Fields) : (scan.appendItem item).Failed := by
  unfold SessionScan.appendItem
  dsimp only
  split_ifs
  · have hfailed : Failed { scan with result := { scan.result with status := "FAILED" } } := rfl
    exact (hfailed.setError item errorKeys).setError item ["message"]
  · apply Failed.setStatus
    cases content item "videoContent" "video_content" with
    | none =>
      cases content item "imageContent" "image_content" with
      | none => exact h
      | some image => exact h.addOutput _
    | some video =>
      cases content item "imageContent" "image_content" with
      | none => exact h.addOutput _
      | some image => exact (h.addOutput _).addOutput _

theorem Failed.foldl {α : Type} {f : SessionScan → α → SessionScan}
    (hf : ∀ scan a, Failed scan → (f scan a).Failed) (as : List α) (h : scan.Failed) :
    (as.foldl f scan).Failed := by
  induction as generalizing scan with
  | nil => exact h
  | cons a rest ih => exact ih (hf scan a h)

theorem Failed.collectItems (h : scan.Failed) (value : Document) :
    (scan.collectItems value).Failed :=
  h.foldl (fun _ item h => h.appendItem item) _

mutual

theorem Failed.walkIterations : ∀ (value : Document) (scan : SessionScan), scan.Failed →
    (SessionScan.walkIterations value scan).Failed
  | .object current, scan, h => by
    rw [SessionScan.walkIterations]
    refine walkUnder _ _ _ (walkUnder _ _ _ (walkUnder _ _ _ (walkUnder _ _ _ ?_)))
    apply Failed.collectItems
    have herror := (h.setStatus (normalizeSessionStatus (firstString current
      ["status", "state", "iterationStatus", "iteration_status"]))).setError current errorKeys
    split_ifs
    · exact herror.setError current ["message"]
    · exact herror
  | .array items, scan, h => walkEach items scan h
  | .null, _, h | .bool _, _, h | .number _, _, h | .string _, _, h => h

theorem Failed.walkUnder (key : String) : ∀ (fields : Fields) (scan : SessionScan), scan.Failed →
    (SessionScan.walkUnder key fields scan).Failed
  | [], _, h => h
  | (name, child) :: rest, scan, h => by
    rw [SessionScan.walkUnder]
    split_ifs
    · exact walkIterations child scan h
    · exact walkUnder key rest scan h

theorem Failed.walkEach : ∀ (items : List Document) (scan : SessionScan), scan.Failed →
    (SessionScan.walkEach items scan).Failed
  | [], _, h => h
  | item :: rest, scan, h => walkEach rest _ (walkIterations item scan h)

end

end SessionScan

open SessionScan

/-- The parser of a session keeps a failure that the session reports. -/
theorem parseSession_failed {data : Fields} (h : Poll.getSession.ownStatus data = "FAILED") :
    (parseSessionPollResult data).status = "FAILED" := by
  have hown : normalizeSessionStatus (sessionStatus data) = "FAILED" := h
  have hstart : Failed (((⟨⟨"", 0, [], ""⟩, []⟩ : SessionScan).setStatus (sessionStatus data)).setError
      (sessionOf data) errorKeys) := by
    apply Failed.setError
    rw [SessionScan.setStatus, if_pos hown]
    rfl
  unfold parseSessionPollResult
  dsimp only
  generalize SessionScan.setError (sessionOf data) errorKeys _ = scan at hstart ⊢
  have hmedia : Failed ((mapValue data "media").elim scan fun media =>
      scan.collectItems (firstValue media ["items", "mediaItems", "media_items"])) := by
    cases mapValue data "media" with
    | none => exact hstart
    | some media => exact hstart.collectItems _
  generalize Option.elim _ _ _ = scan at hmedia ⊢
  have hiterations := (hmedia.collectItems
    (firstValue data ["items", "mediaItems", "media_items"])).foldl
    (f := fun scan iteration =>
      scan.collectItems (firstValue iteration ["mediaItems", "media_items", "items"]))
    (fun _ _ h => h.collectItems _) (data.value "iterations").objects
  have hwalk := Failed.walkIterations (data.value "iterations") _ hiterations
  generalize SessionScan.walkIterations _ _ = scan at hwalk ⊢
  have hsession : Failed ((mapValue data "session").elim scan fun session =>
      SessionScan.walkIterations (session.value "iterations") scan) := by
    cases mapValue data "session" with
    | none => exact hwalk
    | some session => exact Failed.walkIterations _ _ hwalk
  rw [finished_status]
  · exact hsession
  · rw [show _ = "FAILED" from hsession]
    decide

/-- The parser of a flow keeps a failure that the flow reports. -/
theorem parseFlow_failed {data : Fields} {result : PollResult}
    (h : Poll.getFlow.ownStatus data = "FAILED") (hparse : ParseFlowPollResult data result) :
    result.status = "FAILED" := by
  obtain ⟨status, error, hstatus, -, rfl⟩ := hparse
  have hown : normalizeFlowStatus (firstString (flowOf data) flowStatusKeys) = "FAILED" := h
  have hne : firstString (flowOf data) flowStatusKeys ≠ "" := by
    intro hempty
    rw [hempty] at hown
    revert hown
    decide +kernel
  obtain rfl := (firstStringRecursive_of_own hne).mp hstatus
  have hfold := foldl_addImage_status (flowImages (flowOf data))
    ⟨normalizeFlowStatus (firstString (flowOf data) flowStatusKeys), 0, [], error⟩
  rw [hown, ite_self] at hfold
  unfold parseFlow
  rw [hown, finished_status, hfold]
  rw [hfold]
  decide

theorem Poll.parses_failed {poll : Poll} {data : Fields} {result : PollResult}
    (h : poll.ownStatus data = "FAILED") (hparse : poll.Parses data result) :
    result.status = "FAILED" := by
  cases poll with
  | getFlow => exact parseFlow_failed h hparse
  | getSession =>
    obtain rfl := hparse
    exact parseSession_failed h

/-- A failure that the flow or the session reports settles the task exactly when the
check of the RPC lets the response pass. -/
theorem failure_settles_iff (poll : Poll) (data : Fields) (h : poll.ownStatus data = "FAILED") :
    poll.SettlesFailure data ↔ PassesErrorCheck data := by
  have hpasses : (∀ r, RPC poll.service poll.method data r → r = .ok data) ↔ PassesErrorCheck data :=
    rpc_passes_iff
  rw [← hpasses]
  constructor
  · rintro ⟨-, hall⟩ r hrpc
    cases r with
    | error e =>
      obtain ⟨result, hok, -⟩ := hall (.error e) ⟨.error e, hrpc, rfl⟩
      cases hok
    | ok checked =>
      obtain ⟨message, status, -, -, hchecked⟩ := hrpc
      split_ifs at hchecked
      exact hchecked
  · intro hpass
    constructor
    · obtain ⟨r, hrpc⟩ := rpc_total poll.service poll.method data
      obtain rfl := hpass r hrpc
      obtain ⟨result, hparse⟩ := poll.parses_total data
      exact ⟨.ok result, .ok data, hrpc, result, hparse, rfl⟩
    · rintro r ⟨checked, hrpc, hreturns⟩
      obtain rfl := hpass checked hrpc
      obtain ⟨result, hparse, rfl⟩ := hreturns
      exact ⟨result, rfl, Poll.parses_failed h hparse⟩

/-- A failed flow without any message. -/
def silentFlow : Fields := [("flow", .object [("status", .string " failed ")])]

theorem failure_settles_silentFlow : Poll.getFlow.SettlesFailure silentFlow :=
  (failure_settles_iff .getFlow silentFlow (by decide +kernel)).mpr (.inl (by decide +kernel))

/-- A flow that its provider has failed, with the reason. -/
def failedFlow : Fields :=
  [("flow", .object [("status", .string "failed"), ("errorMessage", .string "content policy")])]

theorem failedFlow_is_error :
    ¬ ∀ (poll : Poll) (data : Fields), poll.ownStatus data = "FAILED" → poll.SettlesFailure data := by
  intro h
  have hown : Poll.getFlow.ownStatus failedFlow = "FAILED" := by decide +kernel
  have hmessage : "content policy" ∈ foundStrings failedFlow errorMessageKeys := by decide +kernel
  have hstatus : "failed" ∈ foundStrings failedFlow ["status", "code"] := by decide +kernel
  have herror : Poll.getFlow.Returns failedFlow
      (.error ⟨"FlowService", "GetFlow", "content policy"⟩) := by
    refine ⟨_, ⟨"content policy", "failed", .inl hmessage, .inl hstatus, rfl⟩, ?_⟩
    rw [if_pos (by decide +kernel)]
    rfl
  obtain ⟨result, hok, -⟩ := (h .getFlow failedFlow hown).2 _ herror
  cases hok

end GenerationGateway.CreativeFabrica

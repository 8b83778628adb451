import GenerationGateway.Adobe.Responses
import GenerationGateway.CreativeFabrica.FlowCompletion
import GenerationGateway.CreativeFabrica.Responses
import GenerationGateway.Leonardo.AudioOutputs

/-!
# Responses and the order of their maps

A response is parsed by its content if every order in which the parsers range over its maps
gives the same values. For each parser this is a condition on the response: the hits that a
search can meet first agree, and of two branches of a map, one begins with the URLs of the other.
-/

namespace GenerationGateway.Responses

open Documents CreativeFabrica

theorem parsedAlike_firstString_iff {data : Fields} {keys : List String} :
    ParsedAlike (FirstStringRecursive data keys) ↔ Agree (foundStrings data keys) :=
  ends_unique_iff

/-! ### Jobs -/

theorem firstNonEmpty_eq_empty {texts : List String} :
    firstNonEmpty texts = "" ↔ ∀ s ∈ texts, s = "" := by
  induction texts with
  | nil => simp [firstNonEmpty]
  | cons s rest ih =>
    rw [firstNonEmpty, List.forall_mem_cons]
    split_ifs with hs
    · exact iff_of_false hs fun h => hs h.1
    · rw [ih]
      exact ⟨fun h => ⟨not_not.mp hs, h⟩, And.right⟩

section Jobs

variable {own : String} {data : Fields} {keys : List String}

theorem foundOr_total (own : String) (data : Fields) (keys : List String) :
    ∃ s, FoundOr own data keys s := by
  unfold FoundOr
  split_ifs
  · exact ⟨own, rfl⟩
  · exact firstStringRecursive_total data keys

theorem parsedAlike_foundOr_iff :
    ParsedAlike (FoundOr own data keys) ↔ (own = "" → Agree (foundStrings data keys)) := by
  by_cases hown : own = ""
  · rw [← parsedAlike_firstString_iff]
    simp [ParsedAlike, FoundOr, hown]
  · refine iff_of_true ?_ fun h => absurd h hown
    rintro s s' hs hs'
    rw [FoundOr, if_pos hown] at hs hs'
    exact hs.trans hs'.symm

/-- Nothing is found just when there is nothing. -/
theorem FoundOr.eq_empty (h : FoundOr own data keys "") : own = "" ∧ foundStrings data keys = [] := by
  unfold FoundOr at h
  split_ifs at h with hown
  · exact absurd h.symm hown
  · refine ⟨not_not.mp hown, ?_⟩
    rcases h with hfound | ⟨hnone, -⟩
    · obtain ⟨-, -, hne⟩ := firstString_of_mem_foundStrings hfound
      exact absurd rfl hne
    · exact hnone

theorem foundOr_empty (hnone : foundStrings data keys = []) : FoundOr "" data keys "" := by
  rw [FoundOr, if_neg (not_not.mpr rfl)]
  exact .inr ⟨hnone, rfl⟩

end Jobs

/-- The searches that `parseJob` makes have hits that agree. -/
structure JobSettled (data : Fields) : Prop where
  flowID : ownFlowID data = "" → Agree (foundStrings data flowIDKeys)
  sessionID : ownSessionID data = "" → Agree (foundStrings data sessionIDKeys)
  pollID : ownPollID data = "" → Agree (foundStrings data pollIDKeys)
  id : ownFlowID data = "" → foundStrings data flowIDKeys = [] → ownSessionID data = "" →
    foundStrings data sessionIDKeys = [] → firstString data ["id"] = "" →
      Agree (foundStrings data idKeys)

theorem parsedAlike_job_iff {data : Fields} : ParsedAlike (ParseJob data) ↔ JobSettled data := by
  constructor
  · intro h
    have hjob (flowID sessionID pollID : String) : ∃ job : CreativeFabrica.Job, job.flowID = flowID ∧
        job.sessionID = sessionID ∧ job.pollID = pollID ∧
        FoundOr (firstNonEmpty [flowID, sessionID, firstString data ["id"]]) data idKeys job.id := by
      obtain ⟨id, hid⟩ := foundOr_total (firstNonEmpty [flowID, sessionID, firstString data ["id"]])
        data idKeys
      exact ⟨⟨id, flowID, sessionID, pollID⟩, rfl, rfl, rfl, hid⟩
    obtain ⟨flowID, hflow⟩ := foundOr_total (ownFlowID data) data flowIDKeys
    obtain ⟨sessionID, hsession⟩ := foundOr_total (ownSessionID data) data sessionIDKeys
    obtain ⟨pollID, hpoll⟩ := foundOr_total (ownPollID data) data pollIDKeys
    have hparses (s s' s'' : String) (hs : FoundOr (ownFlowID data) data flowIDKeys s)
        (hs' : FoundOr (ownSessionID data) data sessionIDKeys s')
        (hs'' : FoundOr (ownPollID data) data pollIDKeys s'') :
        ∃ job, ParseJob data job ∧ job.flowID = s ∧ job.sessionID = s' ∧ job.pollID = s'' := by
      obtain ⟨job, rfl, rfl, rfl, hid⟩ := hjob s s' s''
      exact ⟨job, ⟨hs, hs', hs'', hid⟩, rfl, rfl, rfl⟩
    refine ⟨parsedAlike_foundOr_iff.mp ?_, parsedAlike_foundOr_iff.mp ?_,
      parsedAlike_foundOr_iff.mp ?_, ?_⟩
    · intro s s' hs hs'
      obtain ⟨job, hjob, rfl, -⟩ := hparses s _ _ hs hsession hpoll
      obtain ⟨job', hjob', rfl, -⟩ := hparses s' _ _ hs' hsession hpoll
      rw [h job job' hjob hjob']
    · intro s s' hs hs'
      obtain ⟨job, hjob, -, rfl, -⟩ := hparses _ s _ hflow hs hpoll
      obtain ⟨job', hjob', -, rfl, -⟩ := hparses _ s' _ hflow hs' hpoll
      rw [h job job' hjob hjob']
    · intro s s' hs hs'
      obtain ⟨job, hjob, -, -, rfl⟩ := hparses _ _ s hflow hsession hs
      obtain ⟨job', hjob', -, -, rfl⟩ := hparses _ _ s' hflow hsession hs'
      rw [h job job' hjob hjob']
    · intro hownFlow hnoFlow hownSession hnoSession htop
      apply parsedAlike_firstString_iff.mp
      have hid (s : String) (hs : FirstStringRecursive data idKeys s) :
          ParseJob data ⟨s, "", "", pollID⟩ := by
        refine ⟨hownFlow ▸ foundOr_empty hnoFlow, hownSession ▸ foundOr_empty hnoSession, hpoll, ?_⟩
        rw [FoundOr, if_neg]
        · exact hs
        · rw [not_not, firstNonEmpty_eq_empty]
          simp [htop]
      intro s s' hs hs'
      exact (CreativeFabrica.Job.mk.inj (h _ _ (hid s hs) (hid s' hs'))).1
  · rintro h ⟨id, flowID, sessionID, pollID⟩ ⟨id', flowID', sessionID', pollID'⟩
      ⟨hflow, hsession, hpoll, hid⟩ ⟨hflow', hsession', hpoll', hid'⟩
    obtain rfl : flowID = flowID' := parsedAlike_foundOr_iff.mpr h.flowID _ _ hflow hflow'
    obtain rfl : sessionID = sessionID' :=
      parsedAlike_foundOr_iff.mpr h.sessionID _ _ hsession hsession'
    obtain rfl : pollID = pollID' := parsedAlike_foundOr_iff.mpr h.pollID _ _ hpoll hpoll'
    have hsame : id = id' := by
      refine parsedAlike_foundOr_iff.mpr ?_ _ _ hid hid'
      intro hempty
      have hall := firstNonEmpty_eq_empty.mp hempty
      obtain rfl : flowID = "" := hall _ (by simp)
      obtain rfl : sessionID = "" := hall _ (by simp)
      obtain ⟨hownFlow, hnoFlow⟩ := FoundOr.eq_empty hflow
      obtain ⟨hownSession, hnoSession⟩ := FoundOr.eq_empty hsession
      exact h.id hownFlow hnoFlow hownSession hnoSession (hall _ (by simp))
    rw [hsame]

/-! ### Errors and flows -/

/-- No message can be met, or the status of every order has the same verdict; where it is an
error, the messages agree. -/
def RPCSettled (data : Fields) : Prop :=
  foundStrings data errorMessageKeys = [] ∨
    (∀ status, FirstStringRecursive data ["status", "code"] status →
      looksLikeError data status = false) ∨
    (∀ status, FirstStringRecursive data ["status", "code"] status →
      looksLikeError data status = true) ∧ Agree (foundStrings data errorMessageKeys)

theorem parsedAlike_rpc_iff {service method : String} {data : Fields} :
    ParsedAlike (RPC service method data) ↔ RPCSettled data := by
  have hmessage {message : String} (hm : message ∈ foundStrings data errorMessageKeys) :
      message ≠ "" := by
    obtain ⟨-, -, hne⟩ := firstString_of_mem_foundStrings hm
    exact hne
  constructor
  · intro h
    by_cases hnone : foundStrings data errorMessageKeys = []
    · exact .inl hnone
    obtain ⟨m, rest, hm⟩ := List.exists_cons_of_ne_nil hnone
    have hm : m ∈ foundStrings data errorMessageKeys := hm ▸ List.mem_cons_self
    refine .inr ?_
    by_cases hquiet : ∀ status, FirstStringRecursive data ["status", "code"] status →
        looksLikeError data status = false
    · exact .inl hquiet
    simp only [not_forall, Bool.not_eq_false] at hquiet
    obtain ⟨bad, hbad, hlooks⟩ := hquiet
    have hfails (message : String) (hin : message ∈ foundStrings data errorMessageKeys) :
        RPC service method data (.error ⟨service, method, message⟩) :=
      ⟨message, bad, .inl hin, hbad, by rw [if_pos ⟨hmessage hin, hlooks⟩]⟩
    refine .inr ⟨fun status hstatus => ?_, fun m hm m' hm' => ?_⟩
    · by_contra hgood
      have hok : RPC service method data (.ok data) :=
        ⟨m, status, .inl hm, hstatus, by rw [if_neg fun hboth => hgood hboth.2]⟩
      cases h _ _ (hfails m hm) hok
    · cases h _ _ (hfails m hm) (hfails m' hm')
      rfl
  · rintro h _ _ ⟨m, s, hm, hs, rfl⟩ ⟨m', s', hm', hs', rfl⟩
    rcases h with hnone | hquiet | ⟨hloud, hagree⟩
    · obtain rfl : m = "" := by simpa [FirstStringRecursive, hnone] using hm
      obtain rfl : m' = "" := by simpa [FirstStringRecursive, hnone] using hm'
      simp
    · simp [hquiet s hs, hquiet s' hs']
    · rw [parsedAlike_firstString_iff.mpr hagree m m' hm hm']
      simp [hloud s hs, hloud s' hs']

theorem addImage_error (result : PollResult) (image : Fields) :
    (result.addImage image).error =
      if imageState image = "FAILED" ∧ result.error = "" then
        firstString image ["errorMessage", "error_message"]
      else result.error := by
  simp only [PollResult.addImage]
  split_ifs <;> rfl

/-- The loop over the images gives the same error to results with the same error. -/
theorem foldl_addImage_error {images : List Fields} {result result' : PollResult}
    (h : result.error = result'.error) :
    (images.foldl PollResult.addImage result).error =
      (images.foldl PollResult.addImage result').error := by
  induction images generalizing result result' with
  | nil => exact h
  | cons image rest ih =>
    have hnext : (result.addImage image).error = (result'.addImage image).error := by
      rw [addImage_error, addImage_error, h]
    rw [List.foldl_cons, List.foldl_cons]
    exact ih hnext

theorem foldl_addImage_error_of_ne {images : List Fields} {result : PollResult}
    (h : result.error ≠ "") :
    (images.foldl PollResult.addImage result).error = result.error := by
  induction images generalizing result with
  | nil => rfl
  | cons image rest ih =>
    have hkept : (result.addImage image).error = result.error := by
      rw [addImage_error, if_neg fun hfailed => h hfailed.2]
    rw [List.foldl_cons, ih (by rwa [hkept]), hkept]

theorem foldl_addImage_progress (images : List Fields) (result : PollResult) :
    (images.foldl PollResult.addImage result).progress = result.progress := by
  induction images generalizing result with
  | nil => rfl
  | cons image rest ih =>
    rw [List.foldl_cons, ih]
    simp only [PollResult.addImage]
    split_ifs <;> rfl

theorem finished_error (result : PollResult) : result.finished.error = result.error := by
  unfold PollResult.finished
  split_ifs <;> rfl

theorem finished_progress (result : PollResult) : result.finished.progress = result.progress := by
  unfold PollResult.finished
  split_ifs <;> rfl

/-- The messages agree, and so do the statuses, unless a failed image overrides them. -/
structure FlowSettled (flow : Fields) : Prop where
  error : Agree (foundStrings flow ["errorMessage", "error_message"])
  status : (∀ image ∈ flowImages flow, imageState image ≠ "FAILED") →
    Agree ((foundStrings flow flowStatusKeys).map normalizeFlowStatus)

theorem parsedAlike_flow_iff {data : Fields} :
    ParsedAlike (ParseFlowPollResult data) ↔ FlowSettled (flowOf data) := by
  generalize hflow : flowOf data = flow
  have hparses (status error : String) (hstatus : FirstStringRecursive flow flowStatusKeys status)
      (herror : FirstStringRecursive flow ["errorMessage", "error_message"] error) :
      ParseFlowPollResult data (parseFlow flow status error) :=
    ⟨status, error, hflow ▸ hstatus, hflow ▸ herror, by rw [hflow]⟩
  constructor
  · intro h
    constructor
    · obtain ⟨status, hstatus⟩ := firstStringRecursive_total flow flowStatusKeys
      intro e he e' he'
      have hsame := h _ _ (hparses status e hstatus (.inl he)) (hparses status e' hstatus (.inl he'))
      have herror (e : String) (he : e ∈ foundStrings flow ["errorMessage", "error_message"]) :
          (parseFlow flow status e).error = e := by
        obtain ⟨-, -, hne⟩ := firstString_of_mem_foundStrings he
        rw [parseFlow, finished_error, foldl_addImage_error_of_ne hne]
      rw [← herror e he, ← herror e' he', hsame]
    · intro hnone n hn n' hn'
      obtain ⟨error, herror⟩ := firstStringRecursive_total flow ["errorMessage", "error_message"]
      obtain ⟨s, hs, rfl⟩ := List.mem_map.mp hn
      obtain ⟨s', hs', rfl⟩ := List.mem_map.mp hn'
      have hsame := h _ _ (hparses s error (.inl hs) herror) (hparses s' error (.inl hs') herror)
      have hstatus (s : String) (hs : s ∈ foundStrings flow flowStatusKeys) :
          (parseFlow flow s error).status = normalizeFlowStatus s := by
        rw [parseFlow_status, if_neg, if_neg fun hempty => normalizeFlowStatus_ne_empty hs hempty.1]
        rintro ⟨image, himage, hfailed⟩
        exact hnone image himage hfailed
      rw [← hstatus s hs, ← hstatus s' hs', hsame]
  · rintro ⟨hagree, hstatuses⟩ _ _ ⟨s, e, hs, he, rfl⟩ ⟨s', e', hs', he', rfl⟩
    rw [hflow] at hs he hs' he' ⊢
    obtain rfl : e = e' := parsedAlike_firstString_iff.mpr hagree e e' he he'
    have hstatus : (parseFlow flow s e).status = (parseFlow flow s' e).status := by
      rw [parseFlow_status, parseFlow_status]
      by_cases hfailed : ∃ image ∈ flowImages flow, imageState image = "FAILED"
      · rw [if_pos hfailed, if_pos hfailed]
      · have hnone (image : Fields) (himage : image ∈ flowImages flow) :
            imageState image ≠ "FAILED" := fun h => hfailed ⟨image, himage, h⟩
        have hsame : normalizeFlowStatus s = normalizeFlowStatus s' := by
          rcases hs with hs | ⟨hempty, rfl⟩
          · rcases hs' with hs' | ⟨hempty, -⟩
            · exact hstatuses hnone _ (List.mem_map_of_mem hs) _ (List.mem_map_of_mem hs')
            · rw [hempty] at hs
              cases hs
          · rcases hs' with hs' | ⟨-, rfl⟩
            · rw [hempty] at hs'
              cases hs'
            · rfl
        rw [hsame]
    have houtputs : (parseFlow flow s e).outputs = (parseFlow flow s' e).outputs := by
      rw [parseFlow, parseFlow, finished_outputs, finished_outputs, foldl_addImage_outputs,
        foldl_addImage_outputs]
    have herror : (parseFlow flow s e).error = (parseFlow flow s' e).error := by
      rw [parseFlow, parseFlow, finished_error, finished_error]
      exact foldl_addImage_error rfl
    have hprogress : (parseFlow flow s e).progress = (parseFlow flow s' e).progress := by
      rw [parseFlow, parseFlow, finished_progress, finished_progress, foldl_addImage_progress,
        foldl_addImage_progress]
    generalize parseFlow flow s e = result at *
    generalize parseFlow flow s' e = result' at *
    cases result
    cases result'
    simp_all

/-! ### All parsers -/

/-- A session whose first and last frame have a list of their own. -/
def splitFrames : Fields :=
  [("sessionId", .string "5f"),
    ("startFrame", .object [("frames", .array [.object [("uploadUrl", .string "https://a")]])]),
    ("endFrame", .object [("frames", .array [.object [("uploadUrl", .string "https://b")]])])]

end GenerationGateway.Responses

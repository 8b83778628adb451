import GenerationGateway.HttpApi.PublicTasks

/-!
# The chat stream

A streamed chat request reads its task once a second and sends what has changed, until the task
has ended. Other requests and the workers go on meanwhile and afterwards, so the text that was
sent is compared with every later state of the store.
-/

namespace GenerationGateway

open Relational Transitions Documents

/-- A server-sent event of the stream. -/
inductive Chunk
  | progress (percent : ℤ)
  | image (url : String)
  | error (message code : String)
  | done
  deriving DecidableEq

namespace Chunk

def url? : Chunk → Option String
  | image url => some url
  | _ => none

def markdown (url : String) : String := "![generated image](" ++ url ++ ")"

/-- `chat.completion.chunk` with one choice. -/
def completion (chatID content : String) : Document :=
  .object [("choices", .array [.object [("delta", .object [("content", .string content)]),
    ("index", .number (.ofInt 0))]]), ("id", .string ("chatcmpl-" ++ chatID)),
    ("object", .string "chat.completion.chunk")]

/-- The event on the wire. -/
def event (marshal : Document → String) (chatID : String) : Chunk → String
  | progress percent => "data: " ++ marshal (completion chatID
      ("Generation progress: " ++ toString percent ++ "%\n")) ++ "\n\n"
  | image url => "data: " ++ marshal (completion chatID (markdown url)) ++ "\n\n"
  | error message code => "data: " ++ marshal (.object [("error", .object
      [("code", .string code), ("message", .string message), ("type", .string code)])]) ++ "\n\n"
  | done => "data: [DONE]\n\n"

end Chunk

section Stream

-- The urls of `data` in a result, none where the result cannot be decoded.
variable (imageURLs : JSON → List String)

/-- What the stream sends about a task that has ended. -/
def Task.closing (t : Task) : List Chunk :=
  if t.status = .succeeded then (imageURLs t.result).map .image ++ [.done]
  else
    [.error (if t.errorMessage = "" then "upstream generation failed" else t.errorMessage)
      (if t.errorCode = "" then "upstream_failed" else t.errorCode), .done]

/-- The answer to a request that does not stream, once the wait for the task is over. -/
def Task.chatAnswer (t : Task) : Except (String × String) String :=
  if t.status ≠ .succeeded then .error (t.errorCode, t.errorMessage)
  else .ok ("\n".intercalate ((imageURLs t.result).map Chunk.markdown))

/-- The local state of `streamChat` with what it has written. -/
structure ChatStream where
  last : ℤ
  sent : List Chunk
  running : Bool
  deriving DecidableEq

def ChatStream.opened : ChatStream := ⟨-1, [], true⟩

/-- The events of one turn of the loop. -/
def ChatStream.chunks (stream : ChatStream) (t : Task) : List Chunk :=
  (if t.progress ≠ stream.last then [.progress t.progress] else []) ++
    if t.status.terminal then t.closing imageURLs else []

/-- One turn of the loop. The handler returns at the first write that fails, after `written`
others, and after the turn in which it has found the task ended. -/
def ChatStream.turn (stream : ChatStream) (t : Task) (written : ℕ) : ChatStream where
  last := t.progress
  sent := stream.sent ++ (stream.chunks imageURLs t).take written
  running := decide ((stream.chunks imageURLs t).length ≤ written) && !t.status.terminal

/-- A store and a stream about one of its tasks. -/
structure Watched where
  store : StoreState
  stream : ChatStream

inductive WatchAct
  | operation (e : Event)
  | turn (written : ℕ)
  | gone

/-- A turn reads the row as it is. The handler also returns when its client is gone or the row
cannot be read. -/
def WatchStep (id : UUID) (w : Watched) : WatchAct → Watched → Prop
  | .operation e, w' => StoreStep w.store e w'.store ∧ w'.stream = w.stream
  | .turn written, w' => w.stream.running = true ∧ ∃ t, w.store.db.tasks.get? id = some t ∧
      w' = { w with stream := w.stream.turn imageURLs t written }
  | .gone, w' => w' = { w with stream.running := false }

def watch (id : UUID) : LTS Watched WatchAct := ⟨WatchStep imageURLs id⟩

/-! ### The text of a stream -/

/-- The percentages of the stream, none twice in a row, and what it has sent of the end of the task
as it read it. -/
structure ChatStream.Transcript (id : UUID) (db : Database) (stream : ChatStream)
    (shown : List ℤ) (rest : List Chunk) : Prop where
  sent : stream.sent = shown.map .progress ++ rest
  changes : (-1 :: shown).IsChain (· ≠ ·)
  running : stream.running = true → rest = [] ∧ shown.getLastD (-1) = stream.last
  ended : rest ≠ [] → ∃ t t' : Task, db.tasks.get? id = some t' ∧ t.Final t' ∧
    t.status.terminal = true ∧ shown.getLastD (-1) = t.progress ∧ rest <+: t.closing imageURLs

end Stream

section Transcript

variable {imageURLs : JSON → List String} {id : UUID} {db : Database} {stream : ChatStream}
  {shown : List ℤ} {rest : List Chunk} {t : Task}

theorem isChain_snoc {p : ℤ} (h : (-1 :: shown).IsChain (· ≠ ·))
    (hp : p ≠ shown.getLastD (-1)) : (-1 :: (shown ++ [p])).IsChain (· ≠ ·) := by
  rw [← List.cons_append, List.isChain_append]
  refine ⟨h, List.isChain_singleton p, ?_⟩
  intro x hx y hy
  simp only [List.head?_cons, Option.mem_def, Option.some.injEq] at hy
  subst hy
  have hlast : x = shown.getLastD (-1) := by
    rw [Option.mem_def, List.getLast?_cons, Option.some.injEq] at hx
    rw [← hx]
    cases shown <;> simp
  rw [hlast]
  exact hp.symm

theorem ChatStream.transcript_opened :
    ChatStream.Transcript imageURLs id db .opened [] [] where
  sent := rfl
  changes := List.isChain_singleton _
  running := fun _ => ⟨rfl, rfl⟩
  ended := fun h => absurd rfl h

/-- The percentages that a turn of which `written` events arrive adds. -/
def ChatStream.news (stream : ChatStream) (t : Task) (written : ℕ) : List ℤ :=
  if t.progress ≠ stream.last ∧ 0 < written then [t.progress] else []

theorem ChatStream.take_chunks (imageURLs : JSON → List String) (stream : ChatStream) (t : Task)
    (written : ℕ) :
    ∃ n, (stream.chunks imageURLs t).take written = (stream.news t written).map .progress ++
        (if t.status.terminal then t.closing imageURLs else []).take n ∧
      (0 < n → 0 < written) := by
  unfold chunks news
  by_cases hp : t.progress ≠ stream.last
  · cases written with
    | zero => exact ⟨0, by simp, id⟩
    | succ n => exact ⟨n, by simp [hp], fun _ => n.succ_pos⟩
  · exact ⟨written, by simp [hp], id⟩

/-- After the first event that arrives, the stream shows the progress of the row. -/
theorem ChatStream.getLastD_news (hlast : shown.getLastD (-1) = stream.last) {written : ℕ}
    (h : t.progress = stream.last ∨ 0 < written) :
    (shown ++ stream.news t written).getLastD (-1) = t.progress := by
  by_cases hp : t.progress = stream.last
  · rw [ChatStream.news, if_neg (fun hnews => hnews.1 hp), List.append_nil, hlast, hp]
  · rw [ChatStream.news, if_pos ⟨hp, h.resolve_left hp⟩, List.getLastD_concat]

/-- A turn of a stream that is still running. -/
theorem ChatStream.Transcript.turn
    (h : stream.Transcript imageURLs id db shown rest) (hrunning : stream.running = true)
    (ht : db.tasks.get? id = some t) (written : ℕ) :
    ∃ shown' rest', (stream.turn imageURLs t written).Transcript imageURLs id db shown' rest' := by
  obtain ⟨hrest, hlast⟩ := h.running hrunning
  obtain ⟨n, htake, hn⟩ := ChatStream.take_chunks imageURLs stream t written
  refine ⟨shown ++ stream.news t written,
    (if t.status.terminal then t.closing imageURLs else []).take n, ?_, ?_, ?_, ?_⟩
  · rw [ChatStream.turn, htake, h.sent, hrest]
    simp
  · unfold ChatStream.news
    split_ifs with hnews
    · exact isChain_snoc h.changes (hlast ▸ hnews.1)
    · simpa using h.changes
  · intro hrun
    simp only [ChatStream.turn, Bool.and_eq_true, Bool.not_eq_true', decide_eq_true_eq] at hrun
    obtain ⟨hwritten, hopen⟩ := hrun
    refine ⟨by simp [hopen], ChatStream.getLastD_news hlast ?_⟩
    by_cases hp : t.progress = stream.last
    · exact .inl hp
    · simp only [ChatStream.chunks, if_pos (show t.progress ≠ stream.last from hp)] at hwritten
      simp only [List.cons_append, List.length_cons] at hwritten
      omega
  · intro hne
    have hended : t.status.terminal = true := by
      by_contra hopen
      simp [hopen] at hne
    rw [if_pos hended] at hne ⊢
    have hpos : 0 < n := by
      rcases Nat.eq_zero_or_pos n with rfl | hpos
      · simp at hne
      · exact hpos
    exact ⟨t, t, ht, .refl t, hended, ChatStream.getLastD_news hlast (.inr (hn hpos)),
      List.take_prefix n _⟩

/-- What the rest of the gateway does to the store leaves the text right. -/
theorem ChatStream.Transcript.later {db' : Database}
    (h : stream.Transcript imageURLs id db shown rest)
    (hfinal : ∀ t, db.tasks.get? id = some t → t.status.terminal = true →
      ∃ t', db'.tasks.get? id = some t' ∧ t.Final t') :
    stream.Transcript imageURLs id db' shown rest where
  sent := h.sent
  changes := h.changes
  running := h.running
  ended := by
    intro hne
    obtain ⟨t, t₁, ht₁, hfinal₁, hended, hlast, hrest⟩ := h.ended hne
    obtain ⟨t', ht', hfinal'⟩ := hfinal t₁ ht₁ (hfinal₁.terminal hended)
    exact ⟨t, t', ht', hfinal₁.trans hfinal', hended, hlast, hrest⟩

theorem ChatStream.Transcript.gone (h : stream.Transcript imageURLs id db shown rest) :
    ChatStream.Transcript imageURLs id db { stream with running := false } shown rest where
  sent := h.sent
  changes := h.changes
  running := fun hrun => by cases hrun
  ended := h.ended

/-- The text is right in every state that the store and the stream reach. -/
theorem watch_transcript {s : StoreState} {w : Watched}
    (h : (watch imageURLs id).Reachable ⟨s, .opened⟩ w) :
    ∃ shown rest, w.stream.Transcript imageURLs id w.store.db shown rest := by
  refine h.invariant
    (I := fun w => ∃ shown rest, w.stream.Transcript imageURLs id w.store.db shown rest) ?_
    ⟨[], [], ChatStream.transcript_opened⟩
  rintro w act w' hstep ⟨shown, rest, hw⟩
  cases act with
  | operation e =>
    obtain ⟨hstore, hstream⟩ := hstep
    rw [hstream]
    exact ⟨shown, rest, hw.later fun t ht hended => hstore.final ⟨t, ht, .refl t⟩ hended⟩
  | turn written =>
    obtain ⟨hrunning, t, ht, rfl⟩ := hstep
    exact hw.turn hrunning ht written
  | gone =>
    obtain rfl : w' = _ := hstep
    exact ⟨shown, rest, hw.gone⟩

end Transcript

/-! ### What the client was told -/

/-- The stream agrees with the store, and with whoever reads the task there. -/
structure ChatStream.Agrees (imageURLs : JSON → List String) (id : UUID) (db : Database)
    (stream : ChatStream) : Prop where
  transcript : ∃ shown rest, stream.Transcript imageURLs id db shown rest
  images : ∀ url, .image url ∈ stream.sent → ∃ t, db.tasks.get? id = some t ∧
    t.status = .succeeded ∧ stream.sent.filterMap Chunk.url? <+: imageURLs t.result
  errors : ∀ message code, .error message code ∈ stream.sent → ∃ t, db.tasks.get? id = some t ∧
    t.status.terminal = true ∧ t.status ≠ .succeeded
  done : .done ∈ stream.sent → stream.running = false ∧ stream.sent.getLast? = some .done ∧
    stream.sent.count .done = 1 ∧ ∃ t, db.tasks.get? id = some t ∧ t.status.terminal = true ∧
      (t.status = .succeeded →
        t.chatAnswer imageURLs = .ok ("\n".intercalate
          ((stream.sent.filterMap Chunk.url?).map Chunk.markdown))) ∧
      (t.status ≠ .succeeded → ∃ message code, .error message code ∈ stream.sent)

section Agreement

variable {imageURLs : JSON → List String} {id : UUID} {db : Database} {stream : ChatStream}
  {shown : List ℤ} {rest : List Chunk} {t : Task}

theorem Task.closing_eq (imageURLs : JSON → List String) (t : Task) :
    ∃ body, t.closing imageURLs = body ++ [.done] ∧ .done ∉ body ∧
      (t.status = .succeeded → body = (imageURLs t.result).map .image) ∧
      (t.status ≠ .succeeded → ∃ message code, body = [.error message code]) := by
  by_cases hsucceeded : t.status = .succeeded
  · rw [Task.closing, if_pos hsucceeded]
    exact ⟨_, rfl, by simp, fun _ => rfl, fun h => absurd hsucceeded h⟩
  · rw [Task.closing, if_neg hsucceeded]
    exact ⟨[_], rfl, by simp, fun h => absurd h hsucceeded, fun _ => ⟨_, _, rfl⟩⟩

/-- What the events that are not percentages say about the row. -/
theorem ChatStream.Transcript.rest_spec (h : stream.Transcript imageURLs id db shown rest)
    (hne : rest ≠ []) : ∃ t body, db.tasks.get? id = some t ∧ t.status.terminal = true ∧
      .done ∉ body ∧ rest <+: body ++ [.done] ∧
      (t.status = .succeeded → body = (imageURLs t.result).map .image) ∧
      (t.status ≠ .succeeded → ∃ message code, body = [.error message code]) := by
  obtain ⟨t, t', ht', hfinal, hended, -, hrest⟩ := h.ended hne
  obtain ⟨body, hclosing, hdone, himages, herror⟩ := t.closing_eq imageURLs
  refine ⟨t', body, ht', hfinal.terminal hended, hdone, hclosing ▸ hrest, ?_, ?_⟩
  · intro hsucceeded
    have hsettled : t.status.settled = true := by
      rw [hfinal.succeeded_iff.mp hsucceeded]
      rfl
    rw [hfinal.eq_of_settled hsettled]
    exact himages (hfinal.succeeded_iff.mp hsucceeded)
  · exact fun hfailed => herror fun h => hfailed (hfinal.succeeded_iff.mpr h)

theorem ChatStream.Transcript.mem_rest {chunk : Chunk}
    (h : stream.Transcript imageURLs id db shown rest) (hchunk : ∀ percent, chunk ≠ .progress percent)
    (hsent : chunk ∈ stream.sent) : chunk ∈ rest := by
  rw [h.sent, List.mem_append, List.mem_map] at hsent
  rcases hsent with ⟨percent, -, rfl⟩ | hrest
  · exact absurd rfl (hchunk percent)
  · exact hrest

theorem ChatStream.Transcript.urls (h : stream.Transcript imageURLs id db shown rest) :
    stream.sent.filterMap Chunk.url? = rest.filterMap Chunk.url? := by
  have hnone : (shown.map Chunk.progress).filterMap Chunk.url? = [] := by
    rw [List.filterMap_map]
    exact List.filterMap_eq_nil_iff.mpr fun _ _ => rfl
  rw [h.sent, List.filterMap_append, hnone, List.nil_append]

theorem Chunk.urls_closing (urls : List String) :
    (urls.map Chunk.image ++ [Chunk.done]).filterMap Chunk.url? = urls := by
  induction urls with
  | nil => rfl
  | cons url urls ih => simpa [Chunk.url?] using ih

theorem ChatStream.Transcript.agrees (h : stream.Transcript imageURLs id db shown rest) :
    stream.Agrees imageURLs id db where
  transcript := ⟨shown, rest, h⟩
  images := by
    intro url hsent
    have hmem := h.mem_rest (by simp) hsent
    obtain ⟨t, body, ht, -, -, hrest, himages, herror⟩ := h.rest_spec (List.ne_nil_of_mem hmem)
    by_cases hsucceeded : t.status = .succeeded
    · refine ⟨t, ht, hsucceeded, ?_⟩
      rw [himages hsucceeded] at hrest
      have hurls := hrest.filterMap Chunk.url?
      rw [Chunk.urls_closing] at hurls
      rwa [h.urls]
    · obtain ⟨message, code, rfl⟩ := herror hsucceeded
      have hclosing := hrest.subset hmem
      simp at hclosing
  errors := by
    intro message code hsent
    have hmem := h.mem_rest (by simp) hsent
    obtain ⟨t, body, ht, hended, -, hrest, himages, -⟩ := h.rest_spec (List.ne_nil_of_mem hmem)
    refine ⟨t, ht, hended, fun hsucceeded => ?_⟩
    rw [himages hsucceeded] at hrest
    have hclosing := hrest.subset hmem
    simp at hclosing
  done := by
    intro hsent
    have hmem := h.mem_rest (by simp) hsent
    have hne := List.ne_nil_of_mem hmem
    obtain ⟨t, body, ht, hended, hdone, hrest, himages, herror⟩ := h.rest_spec hne
    have hall : rest = body ++ [.done] := by
      rcases List.prefix_concat_iff.mp hrest with hall | hbody
      · exact hall
      · exact absurd (hbody.subset hmem) hdone
    refine ⟨?_, ?_, ?_, t, ht, hended, ?_, ?_⟩
    · by_contra hrunning
      exact hne (h.running (by simpa using hrunning)).1
    · rw [h.sent, hall, ← List.append_assoc, List.getLast?_concat]
    · rw [h.sent, hall, List.count_append, List.count_append, List.count_eq_zero_of_not_mem hdone,
        List.count_eq_zero_of_not_mem (by simp)]
      rfl
    · intro hsucceeded
      rw [h.urls, hall, himages hsucceeded, Chunk.urls_closing, Task.chatAnswer]
      simp [hsucceeded]
    · intro hfailed
      obtain ⟨message, code, rfl⟩ := herror hfailed
      exact ⟨message, code, by rw [h.sent, hall]; simp⟩

/-- Whatever is done to the store before, between and after the turns of a stream, the images it has
shown are the first ones of a result that the task keeps, an error it has sent is of a task that
never succeeds, and a finished text says what a request without a stream is answered. -/
theorem chatStream_agrees {s : StoreState} {w : Watched}
    (h : (watch imageURLs id).Reachable ⟨s, .opened⟩ w) :
    w.stream.Agrees imageURLs id w.store.db := by
  obtain ⟨shown, rest, htranscript⟩ := watch_transcript h
  exact htranscript.agrees

/-- Operations of the store between two turns. -/
theorem watch_run_operations {w : Watched} {s : StoreState} {es : List Event}
    (h : store.Run w.store es s) :
    (watch imageURLs id).Run w (es.map .operation) { w with store := s } := by
  induction es generalizing w with
  | nil =>
    obtain rfl : s = w.store := h
    rfl
  | cons e es ih =>
    obtain ⟨t, hstep, hrun⟩ := h
    exact ⟨{ w with store := t }, ⟨hstep, rfl⟩, ih (w := { w with store := t }) hrun⟩

/-- Operations of the store and then one turn. -/
theorem watch_reachable_turn {start w : Watched} {s : StoreState} {es : List Event}
    (hw : (watch imageURLs id).Reachable start w) (h : store.Run w.store es s)
    (hrunning : w.stream.running = true) (ht : s.db.tasks.get? id = some t) (written : ℕ) :
    (watch imageURLs id).Reachable start ⟨s, w.stream.turn imageURLs t written⟩ := by
  have hrun : (watch imageURLs id).Run w (es.map .operation ++ [.turn written])
      ⟨s, w.stream.turn imageURLs t written⟩ := by
    apply (LTS.run_append _).mpr
    exact ⟨{ w with store := s }, watch_run_operations h, _, ⟨hrunning, t, ht, rfl⟩, rfl⟩
  exact hw.run hrun

end Agreement

def queuedStore : StoreState := (smallStore smallAccounts).after (smallLife.take 1)

def endedStore : StoreState := queuedStore.after (smallLife.drop 1)

theorem queuedStore_isSome : (queuedStore.db.tasks.get? 20).isSome = true := by decide +kernel

theorem endedStore_isSome : (endedStore.db.tasks.get? 20).isSome = true := by decide +kernel

def queuedStream : ChatStream :=
  ChatStream.opened.turn (fun _ => ["u"]) ((queuedStore.db.tasks.get? 20).get queuedStore_isSome) 9

def endedStream : ChatStream :=
  queuedStream.turn (fun _ => ["u"]) ((endedStore.db.tasks.get? 20).get endedStore_isSome) 9

theorem queuedStream_reachable : (watch (fun _ => ["u"]) 20).Reachable
    ⟨smallStore smallAccounts, .opened⟩ ⟨queuedStore, queuedStream⟩ :=
  watch_reachable_turn (w := ⟨smallStore smallAccounts, .opened⟩) ⟨[], rfl⟩
    (store_run_after (by decide +kernel)) rfl (Option.some_get queuedStore_isSome).symm 9

theorem endedStream_reachable : (watch (fun _ => ["u"]) 20).Reachable
    ⟨smallStore smallAccounts, .opened⟩ ⟨endedStore, endedStream⟩ :=
  watch_reachable_turn queuedStream_reachable (store_run_after (by decide +kernel))
    (by decide +kernel) (Option.some_get endedStore_isSome).symm 9

/-- A turn while the task is queued, and one when it has succeeded. -/
theorem chatStream_agrees_ended :
    endedStream.sent = [.progress 0, .progress 100, .image "u", .done] ∧
      endedStream.Agrees (fun _ => ["u"]) 20 endedStore.db :=
  ⟨by decide +kernel, chatStream_agrees (w := ⟨endedStore, endedStream⟩) endedStream_reachable⟩

end GenerationGateway

import GenerationGateway.Accounts.Session
import GenerationGateway.Library.Document
import GenerationGateway.Library.Utf8
import GenerationGateway.Store.Owned

/-!
# Recorded error texts

The clients and the refresh queue cut the texts of errors after so many bytes, and the
workers write them as they are. PostgreSQL takes a text only if it is UTF-8 without NUL
bytes, so a cut inside a character keeps a failure from being recorded.
-/

namespace GenerationGateway.Worker

open Bytes Utf8

/-- The bytes of a text of the program. -/
def literal (s : String) : ByteString := encode s.toList

namespace CreativeFabrica

def truncate (raw : ByteString) : ByteString :=
  let text := trimSpace raw
  if text.length > 4096 then text.take 4096 ++ literal "…" else text

end CreativeFabrica

namespace Leonardo

def truncate (raw : ByteString) : ByteString :=
  let s := trimSpace raw
  if s.length > 2048 then s.take 2048 else s

end Leonardo

/-- The name of a service or a method, which the program chooses. -/
structure EndpointName where
  text : String
  plain : '\x00' ∉ text.toList

/-- The errors of the clients; an HTTP error is made of the bytes that were read from the
response. -/
inductive UpstreamError
  | leonardoHTTP (status : ℤ) (raw : ByteString)
  | creativeFabricaHTTP (status : ℤ) (raw : ByteString)
  | creativeFabricaRPC (service method : EndpointName) (status : ℤ) (code message : ByteString)
  | creativeFabricaGraphQL (message : ByteString)
  | adobeHTTP (status : ℤ) (message : ByteString)
  | proxyControlUnavailable (message : ByteString)
  | other (message : ByteString)
  /-- `fmt.Errorf("…: %w", err)`. -/
  | wrapped (context : ByteString) (cause : UpstreamError)

/-- The message of an RPC error with its code. -/
def rpcMessage (code message : ByteString) : ByteString :=
  let message := if trimSpace message = [] then literal "rpc request failed" else trimSpace message
  if code ≠ [] then message ++ (literal " [" ++ (code ++ literal "]")) else message

/-- `Error()`. -/
def UpstreamError.text : UpstreamError → ByteString
  | leonardoHTTP status raw =>
    literal ("leonardo returned HTTP " ++ status.repr ++ ": ") ++ Leonardo.truncate raw
  | creativeFabricaHTTP status raw =>
    literal ("creativefabrica returned HTTP " ++ status.repr ++ ": ") ++
      CreativeFabrica.truncate raw
  | creativeFabricaRPC service method status code message =>
    if status > 0 then
      literal ("creativefabrica " ++ service.text ++ "." ++ method.text ++ " HTTP " ++
        status.repr ++ ": ") ++ rpcMessage code message
    else
      literal ("creativefabrica " ++ service.text ++ "." ++ method.text ++ ": ") ++
        rpcMessage code message
  | creativeFabricaGraphQL message => message
  | adobeHTTP _ message => message
  | proxyControlUnavailable message => message
  | other message => message
  | wrapped context cause => context ++ (literal ": " ++ cause.text)

/-- What `errors.As` finds first, of the errors whose texts are not reported. -/
def UpstreamError.sanitized : UpstreamError → Option ByteString
  | leonardoHTTP status _ => some (literal ("Leonardo upstream HTTP " ++ status.repr))
  | adobeHTTP status _ => some (literal ("Adobe upstream HTTP " ++ status.repr))
  | creativeFabricaHTTP status _ => some (literal ("Creative Fabrica upstream HTTP " ++ status.repr))
  | creativeFabricaRPC _ _ _ code _ =>
    if code ≠ [] then some (literal "Creative Fabrica RPC " ++ code)
    else some (literal "Creative Fabrica RPC request failed")
  | creativeFabricaGraphQL _ => some (literal "Creative Fabrica GraphQL request failed")
  | proxyControlUnavailable _ => none
  | other _ => none
  | wrapped _ cause => cause.sanitized

def UpstreamError.isProxyControlUnavailable : UpstreamError → Bool
  | proxyControlUnavailable _ => true
  | wrapped _ cause => cause.isProxyControlUnavailable
  | _ => false

def sanitizedUpstreamError (err : UpstreamError) : ByteString :=
  match err.sanitized with
  | some text => text
  | none => if err.isProxyControlUnavailable then err.text else trimSpace err.text

def truncateRefreshError (message : ByteString) : ByteString :=
  let message := trimSpace message
  if message.length > 1000 then message.take 1000 else message

/-- The writes of an error text. -/
inductive Recording
  /-- `FailTaskOwned` of `fail`. -/
  | failTask (err : UpstreamError)
  /-- `UpdateTaskOwned` of `markSubmissionUncertain`. -/
  | submissionUncertain (err : UpstreamError)
  /-- The failure of a refresh by the scheduler. -/
  | refreshFailed (err : UpstreamError)
  /-- The failure that a browser worker reports. -/
  | refreshReported (message : ByteString)

def Recording.text : Recording → ByteString
  | failTask err => err.text
  | submissionUncertain err => err.text
  | refreshFailed err => truncateRefreshError (sanitizedUpstreamError err)
  | refreshReported message => truncateRefreshError message

/-! ### Which errors are recorded -/

/-- The texts of an error that go into its own. Of a response body that is cut, the
characters that begin before the cut have to end before it. -/
def UpstreamError.Clean : UpstreamError → Prop
  | leonardoHTTP _ raw => keeps 2048 (trimSpace raw)
  | creativeFabricaHTTP _ raw => keeps 4096 (trimSpace raw)
  | creativeFabricaRPC _ _ _ code message => Storable (trimSpace message) ∧ Storable code
  | creativeFabricaGraphQL message => Storable message
  | adobeHTTP _ message => Storable message
  | proxyControlUnavailable message => Storable message
  | other message => Storable message
  | wrapped context cause => Storable context ∧ cause.Clean

/-- Of the errors that are not reported by a fixed text, the code of an RPC error or the
whole text is cut. -/
def UpstreamError.CleanReport (err : UpstreamError) : UpstreamError → Prop
  | leonardoHTTP _ _ => True
  | creativeFabricaHTTP _ _ => True
  | creativeFabricaRPC _ _ _ code _ =>
    keeps 1000 (trimSpace (literal "Creative Fabrica RPC " ++ code))
  | creativeFabricaGraphQL _ => True
  | adobeHTTP _ _ => True
  | proxyControlUnavailable _ => keeps 1000 (trimSpace err.text)
  | other _ => keeps 1000 (trimSpace err.text)
  | wrapped _ cause => CleanReport err cause

def Recording.Clean : Recording → Prop
  | failTask err => err.Clean
  | submissionUncertain err => err.Clean
  | refreshFailed err => err.CleanReport err
  | refreshReported message => keeps 1000 (trimSpace message)

/-! ### The texts of the program -/

theorem storable_literal {s : String} (h : '\x00' ∉ s.toList) : Storable (literal s) :=
  storable_encode.mpr h

theorem literal_append (s t : String) : literal (s ++ t) = literal s ++ literal t := by
  rw [literal, String.toList_append, encode_append]
  rfl

theorem storable_around_literal {s : String} (hne : s.toList ≠ []) (h : '\x00' ∉ s.toList)
    (b b' : ByteString) : Storable (b ++ (literal s ++ b')) ↔ Storable b ∧ Storable b' :=
  storable_append_encode hne (storable_literal h)

theorem storable_before_literal {s : String} (hne : s.toList ≠ []) (h : '\x00' ∉ s.toList)
    (b : ByteString) : Storable (b ++ literal s) ↔ Storable b := by
  have hjoined := storable_around_literal hne h b []
  rw [List.append_nil] at hjoined
  rw [hjoined]
  exact and_iff_left storable_nil

theorem ascii_status {status : ℤ} {c : Char} (hc : c ∈ status.repr.toList) :
    c.utf8Size = 1 ∧ c ≠ '\x00' := by
  have hplain := List.all_eq_true.mp (Documents.plain_intRepr status) c hc
  simp only [Bool.or_eq_true, decide_eq_true_eq] at hplain
  rcases hplain with (hdigit | rfl) | rfl
  · have hrange : 48 ≤ c.val.toNat ∧ c.val.toNat ≤ 57 := by
      simpa [Char.isDigit, UInt32.le_iff_toNat_le] using hdigit
    constructor
    · apply Char.utf8Size_eq_one_iff.mpr
      apply UInt32.le_iff_toNat_le.mpr
      have h127 : (127 : UInt32).toNat = 127 := rfl
      omega
    · rintro rfl
      exact absurd hrange.1 (by decide)
  · decide
  · decide

theorem storable_status (status : ℤ) : Storable (literal status.repr) :=
  storable_literal fun h => (ascii_status h).2 rfl

/-- A text of ASCII characters is reported whole or cut between two characters. -/
theorem storable_truncateRefreshError {s : String}
    (h : ∀ c ∈ s.toList, c.utf8Size = 1 ∧ c ≠ '\x00') :
    Storable ((trimSpace (literal s)).take 1000) := by
  have htrimmed (c : Char) (hc : c ∈ (Text.trimSpace s).toList) : c.utf8Size = 1 ∧ c ≠ '\x00' :=
    h c (Text.mem_of_mem_trimSpace hc)
  rw [literal, trimSpace_encode, String.ofList_toList,
    take_encode_of_ascii fun c hc => (htrimmed c hc).1, storable_encode]
  exact fun hmem => (htrimmed _ (List.mem_of_mem_take hmem)).2 rfl

theorem truncateRefreshError_eq (message : ByteString) :
    truncateRefreshError message = (trimSpace message).take 1000 := by
  unfold truncateRefreshError
  dsimp only
  split_ifs with hlong
  · rfl
  · rw [List.take_of_length_le (by omega)]

theorem storable_refresh_iff (message : ByteString) :
    Storable (truncateRefreshError message) ↔ keeps 1000 (trimSpace message) := by
  rw [truncateRefreshError_eq]
  exact storable_take_iff 1000 (trimSpace message)

/-- Whole characters are cut off in the refresh queue's own model; where the text can be
stored this is the cut of its bytes. -/
theorem take_eq_encode_takeBytes {cs : List Char} {limit : ℕ}
    (h : Storable ((encode cs).take limit)) :
    (encode cs).take limit = encode (takeBytes limit cs) := by
  induction cs generalizing limit with
  | nil => cases limit <;> rfl
  | cons c rest ih =>
    have hlen := encodeChar_length c
    rw [takeBytes]
    split_ifs with hfits
    · rw [encode_cons, List.take_append, List.take_of_length_le (by omega), hlen,
        storable_encodeChar_append] at h
      rw [encode_cons, encode_cons, List.take_append, List.take_of_length_le (by omega), hlen,
        ih h.2]
    · rw [storable_take_iff, keeps, encode_cons] at h
      by_cases hzero : limit = 0
      · rw [hzero]
        rfl
      · rw [if_neg (by simp [hzero]), decode_encodeChar_append] at h
        simp [not_le.mp hfits] at h

theorem truncateRefreshError_encode {message : String}
    (h : Storable (truncateRefreshError (literal message))) :
    truncateRefreshError (literal message) = literal (GenerationGateway.truncateRefreshError message) := by
  rw [truncateRefreshError_eq, literal, trimSpace_encode, String.ofList_toList] at h ⊢
  rw [take_eq_encode_takeBytes h, literal, GenerationGateway.truncateRefreshError, String.toList_ofList]

/-! ### The errors -/

theorem storable_leonardo_truncate (raw : ByteString) :
    Storable (Leonardo.truncate raw) ↔ keeps 2048 (trimSpace raw) := by
  rw [← storable_take_iff]
  unfold Leonardo.truncate
  dsimp only
  split_ifs with hlong
  · rfl
  · rw [List.take_of_length_le (by omega)]

theorem storable_creativeFabrica_truncate (raw : ByteString) :
    Storable (CreativeFabrica.truncate raw) ↔ keeps 4096 (trimSpace raw) := by
  rw [← storable_take_iff]
  unfold CreativeFabrica.truncate
  dsimp only
  split_ifs with hlong
  · rw [storable_before_literal (by decide) (by decide)]
  · rw [List.take_of_length_le (by omega)]

theorem storable_rpcMessage (code message : ByteString) :
    Storable (rpcMessage code message) ↔ Storable (trimSpace message) ∧ Storable code := by
  have hmessage : Storable
      (if trimSpace message = [] then literal "rpc request failed" else trimSpace message) ↔
      Storable (trimSpace message) := by
    split_ifs with hempty
    · rw [hempty]
      exact ⟨fun _ => storable_nil, fun _ => storable_literal (by decide)⟩
    · rfl
  unfold rpcMessage
  dsimp only
  generalize (if trimSpace message = [] then literal "rpc request failed"
    else trimSpace message) = shown at hmessage ⊢
  rw [← hmessage]
  by_cases hcode : code = []
  · rw [if_neg (not_not.mpr hcode), hcode]
    exact (and_iff_left storable_nil).symm
  · rw [if_pos hcode, storable_around_literal (by decide) (by decide),
      storable_before_literal (by decide) (by decide)]

theorem storable_text_iff (err : UpstreamError) : Storable err.text ↔ err.Clean := by
  induction err with
  | leonardoHTTP status raw =>
    rw [UpstreamError.text, literal_append, literal_append, List.append_assoc, List.append_assoc,
      (storable_literal (by decide)).append_iff, (storable_status status).append_iff,
      (storable_literal (by decide)).append_iff, storable_leonardo_truncate]
    rfl
  | creativeFabricaHTTP status raw =>
    rw [UpstreamError.text, literal_append, literal_append, List.append_assoc, List.append_assoc,
      (storable_literal (by decide)).append_iff, (storable_status status).append_iff,
      (storable_literal (by decide)).append_iff, storable_creativeFabrica_truncate]
    rfl
  | creativeFabricaRPC service method status code message =>
    have hname : Storable (literal ("creativefabrica " ++ service.text ++ "." ++ method.text)) := by
      apply storable_literal
      simp only [String.toList_append, List.mem_append, not_or]
      exact ⟨⟨⟨by decide, service.plain⟩, by decide⟩, method.plain⟩
    rw [UpstreamError.text]
    split_ifs
    · rw [literal_append _ ": ", literal_append _ status.repr, literal_append _ " HTTP ",
        List.append_assoc, List.append_assoc, List.append_assoc, hname.append_iff,
        (storable_literal (by decide)).append_iff, (storable_status status).append_iff,
        (storable_literal (by decide)).append_iff, storable_rpcMessage]
      rfl
    · rw [literal_append _ ": ", List.append_assoc, hname.append_iff,
        (storable_literal (by decide)).append_iff, storable_rpcMessage]
      rfl
  | wrapped context cause ih =>
    rw [UpstreamError.text, storable_around_literal (by decide) (by decide), ih]
    rfl
  | _ => rfl

/-! ### The reports of the refresh queue -/

theorem ascii_of_all {s : String}
    (h : (s.toList.all fun c => c.utf8Size == 1 && c != '\x00') = true) :
    ∀ c ∈ s.toList, c.utf8Size = 1 ∧ c ≠ '\x00' := by
  intro c hc
  have hbyte := List.all_eq_true.mp h c hc
  rw [Bool.and_eq_true, beq_iff_eq, bne_iff_ne] at hbyte
  exact hbyte

theorem ascii_append_status {s : String} (hs : ∀ c ∈ s.toList, c.utf8Size = 1 ∧ c ≠ '\x00')
    (status : ℤ) : ∀ c ∈ (s ++ status.repr).toList, c.utf8Size = 1 ∧ c ≠ '\x00' := by
  intro c hc
  rw [String.toList_append, List.mem_append] at hc
  exact hc.elim (hs c) ascii_status

/-- What is reported of an error that was wrapped into another one. -/
theorem storable_report_iff (err cause : UpstreamError) :
    Storable (truncateRefreshError (match cause.sanitized with
      | some text => text
      | none => if cause.isProxyControlUnavailable then err.text else trimSpace err.text)) ↔
      err.CleanReport cause := by
  have hfixed (s : String) (h : ∀ c ∈ s.toList, c.utf8Size = 1 ∧ c ≠ '\x00') :
      Storable (truncateRefreshError (literal s)) := by
    rw [truncateRefreshError_eq]
    exact storable_truncateRefreshError h
  induction cause with
  | leonardoHTTP status raw =>
    exact iff_of_true (hfixed _ (ascii_append_status (ascii_of_all (by decide)) status)) trivial
  | creativeFabricaHTTP status raw =>
    exact iff_of_true (hfixed _ (ascii_append_status (ascii_of_all (by decide)) status)) trivial
  | adobeHTTP status message =>
    exact iff_of_true (hfixed _ (ascii_append_status (ascii_of_all (by decide)) status)) trivial
  | creativeFabricaGraphQL message => exact iff_of_true (hfixed _ (ascii_of_all (by decide))) trivial
  | creativeFabricaRPC service method status code message =>
    unfold UpstreamError.sanitized UpstreamError.CleanReport
    by_cases hcode : code = []
    · rw [if_neg (not_not.mpr hcode), hcode, List.append_nil, ← storable_refresh_iff]
      exact iff_of_true (hfixed _ (ascii_of_all (by decide))) (hfixed _ (ascii_of_all (by decide)))
    · rw [if_pos hcode]
      exact storable_refresh_iff _
  | proxyControlUnavailable message => exact storable_refresh_iff _
  | other message =>
    have htrim := storable_refresh_iff (trimSpace err.text)
    rw [trimSpace_trimSpace] at htrim
    exact htrim
  | wrapped context cause ih => exact ih

theorem storable_recording_iff (r : Recording) : Storable r.text ↔ r.Clean := by
  cases r with
  | failTask err => exact storable_text_iff err
  | submissionUncertain err => exact storable_text_iff err
  | refreshFailed err => exact storable_report_iff err err
  | refreshReported message => exact storable_refresh_iff message

/-! ### The writes -/

inductive WriteError
  /-- `invalid byte sequence for encoding "UTF8"`. -/
  | invalidText
  | store (err : StoreError)

/-- A parameter of type `text`, as PostgreSQL decodes it. -/
def textParameter (b : ByteString) : Option String :=
  if Storable b then String.fromUTF8? b.toByteArray else none

theorem textParameter_isSome (b : ByteString) : (textParameter b).isSome ↔ Storable b := by
  unfold textParameter
  split_ifs with h
  · obtain ⟨cs, hcs⟩ := h.valid
    have hvalid : b.toByteArray.IsValidUTF8 := ⟨cs, by rw [hcs]; rfl⟩
    rw [String.fromUTF8?, dif_pos hvalid]
    exact iff_of_true rfl h
  · exact iff_of_false (by simp) h

/-- A transaction whose statements have a text parameter. -/
def withText (text : ByteString) (statements : String → Tx (Ending Bool)) (db : Database) :
    Except WriteError Bool × Database :=
  match textParameter text with
  | none => (.error .invalidText, db)
  | some message =>
    let (result, db') := transaction (statements message) db
    (result.mapError .store, db')

/-- `fail`. -/
def recordFailure (env : Env) (id leaseID : UUID) (code : String) (err : UpstreamError) :
    Database → Except WriteError Bool × Database :=
  withText (Recording.failTask err).text fun message =>
    failTaskOwned env id leaseID code message none none

/-- `markSubmissionUncertain`. -/
def recordUncertain (env : Env) (id leaseID accountID : UUID) (err : UpstreamError) :
    Database → Except WriteError Bool × Database :=
  withText (Recording.submissionUncertain err).text fun message =>
    updateTaskOwned env id leaseID
      { status := .submissionUncertain, progress := 100, accountID := some accountID
        generationID := "", result := none, code := "submission_uncertain", message := message
        upstreamRequest := none, upstreamDeadline := none }

theorem withText_accepted_iff (text : ByteString) (statements : String → Tx (Ending Bool))
    (db : Database) :
    (withText text statements db).1 ≠ .error .invalidText ↔ Storable text := by
  rw [← textParameter_isSome]
  unfold withText
  cases htext : textParameter text with
  | none => simp
  | some message =>
    cases hrun : (transaction (statements message) db).1 <;> simp [hrun, Except.mapError]

theorem withText_rejected {text : ByteString} (h : ¬ Storable text)
    (statements : String → Tx (Ending Bool)) (db : Database) :
    withText text statements db = (.error .invalidText, db) := by
  rw [← textParameter_isSome, Option.not_isSome_iff_eq_none] at h
  rw [withText, h]

/-- A failure is recorded exactly if its text is clean; otherwise the write is rejected and
nothing has changed. -/
theorem recorded_iff_clean (r : Recording) (env : Env) (id leaseID accountID : UUID)
    (code : String) (err : UpstreamError) (db : Database) :
    (Storable r.text ↔ r.Clean) ∧
      ((recordFailure env id leaseID code err db).1 ≠ .error .invalidText ↔ err.Clean) ∧
      ((recordUncertain env id leaseID accountID err db).1 ≠ .error .invalidText ↔ err.Clean) ∧
      (err.Clean ∨ recordFailure env id leaseID code err db = (.error .invalidText, db) ∧
        recordUncertain env id leaseID accountID err db = (.error .invalidText, db)) := by
  refine ⟨storable_recording_iff r, ?_, ?_, ?_⟩
  · exact (withText_accepted_iff _ _ db).trans (storable_text_iff err)
  · exact (withText_accepted_iff _ _ db).trans (storable_text_iff err)
  · by_cases hclean : err.Clean
    · exact .inl hclean
    · have hrejected : ¬ Storable err.text := fun h => hclean ((storable_text_iff err).mp h)
      exact .inr ⟨withText_rejected hrejected _ db, withText_rejected hrejected _ db⟩

/-- A letter of two bytes at the limit of the error text. -/
def straddlingBody : ByteString := encode (List.replicate 2047 'a' ++ ['é'])

theorem straddlingBody_rejected :
    ¬ Storable (Recording.failTask (.leonardoHTTP 500 straddlingBody)).text := by
  rw [Recording.text, storable_text_iff]
  have hletters (c : Char) (hc : c ∈ List.replicate 2047 'a' ++ ['é']) : c = 'a' ∨ c = 'é' := by
    rcases List.mem_append.mp hc with ha | he
    · exact .inl (List.eq_of_mem_replicate ha)
    · exact .inr (List.mem_singleton.mp he)
  have htrim : trimSpace straddlingBody = straddlingBody := by
    rw [straddlingBody, trimSpace_encode, Text.trimSpace_of_forall, String.toList_ofList]
    intro c hc
    rw [String.toList_ofList] at hc
    rcases hletters c hc with rfl | rfl <;> decide
  have hstorable : Storable straddlingBody := by
    apply storable_encode.mpr
    intro hnul
    rcases hletters _ hnul with h | h <;> cases h
  change ¬ keeps 2048 (trimSpace straddlingBody) = true
  rw [htrim, keeps_iff_of_storable hstorable]
  intro hfirst
  have hstart : (encode (List.replicate 2047 'a')).length = 2047 :=
    encode_replicate 2047 'a' (by decide)
  have hbytes : straddlingBody = encode (List.replicate 2047 'a') ++ [0xC3, 0xA9] := by
    rw [straddlingBody, encode_append]
    rfl
  have hlength : 2048 < straddlingBody.length := by
    rw [hbytes, List.length_append, hstart]
    decide
  have hget (xs : ByteString) (hxs : xs.length = 2047) (h : 2048 < (xs ++ [0xC3, 0xA9]).length) :
      (xs ++ [0xC3, 0xA9])[2048] = 0xA9 := by
    rw [List.getElem_append_right (by omega)]
    simp [hxs]
  have hbyte : FirstByte 0xA9 := by
    have hcut := hfirst hlength
    simp only [hbytes] at hcut hlength
    rwa [hget _ hstart hlength] at hcut
  exact absurd hbyte (by decide)

end GenerationGateway.Worker

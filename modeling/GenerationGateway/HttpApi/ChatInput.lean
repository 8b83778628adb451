import GenerationGateway.Domain.Requests
import GenerationGateway.Library.Base64
import GenerationGateway.Library.Checks
import GenerationGateway.Library.Cuts
import GenerationGateway.Library.Document

/-!
# The messages of a chat request

A chat request is a picture request in disguise: the last message of the user is the prompt, with
a picture to start from where it has one. The other messages are read as carefully and then
thrown away.
-/

namespace GenerationGateway

open Documents Bytes Checks

/-- `value[key].(string)`. -/
def stringField (item : Fields) (key : String) : Option String :=
  match item.lookup key with
  | some (.string s) => some s
  | _ => none

/-- `value[key].(map[string]any)`. -/
def objectField (item : Fields) (key : String) : Option Fields :=
  (item.lookup key).bind Document.asObject

def hasOnlyKeys (value : Fields) (keys : List String) : Bool :=
  decide ((value.map Prod.fst).dedup.length = keys.length) &&
    keys.all fun key => (value.lookup key).isSome

def imageExtensions : List (String × String) :=
  [("image/png", "png"), ("image/jpeg", "jpg"), ("image/webp", "webp")]

/-- The image of a chat message as the task stores it. -/
def chatImage (mediaType : String) (data : ByteString) : SourceImage where
  filename := "chat-image." ++ (imageExtensions.lookup mediaType).getD ""
  mediaType := mediaType
  data := String.ofList (Base64.encode true data)

def sourceImageFromDataURL (rawURL : String) : Except String SourceImage := do
  let comma := rawURL.toList.idxOf ','
  let head := rawURL.toList.take comma
  check (comma < rawURL.toList.length && Text.contains (String.ofList head) ";base64")
    "invalid image data URL"
  let mediaType := Text.trimPrefix (String.ofList (head.takeWhile (· ≠ ';'))) "data:"
  check (mediaType = "image/png" || mediaType = "image/jpeg" || mediaType = "image/webp")
    "chat image must be PNG, JPEG or WebP"
  let data ← expect (Base64.decode true (rawURL.toList.drop (comma + 1))) "invalid image data URL"
  check (data.length ≤ 25 * 2 ^ 20) "chat image exceeds 25 MB"
  return chatImage mediaType data

/-- What the loop over the parts has read. -/
structure ChatParts where
  texts : List String := []
  source : Option SourceImage := none
  imageCount : ℕ := 0

section Parse

-- `strconv.Quote`, as `%q` writes a text.
variable (quote : String → String)

/-- One turn of the loop over the parts. -/
def parseChatPart (includeImage : Bool) (index : ℕ) (part : Document) (state : ChatParts) :
    Except String ChatParts := do
  let item ← expect part.asObject ("part " ++ toString index ++ " must be an object")
  let typeName ← expect (stringField item "type")
    ("part " ++ toString index ++ " requires a string type")
  if typeName = "text" then
    check (hasOnlyKeys item ["type", "text"])
      ("text part " ++ toString index ++ " contains unsupported fields")
    let text ← expect (stringField item "text")
      ("text part " ++ toString index ++ " requires non-empty text")
    check (text ≠ "") ("text part " ++ toString index ++ " requires non-empty text")
    return { state with texts := state.texts ++ [text] }
  else if typeName = "image_url" then
    check (hasOnlyKeys item ["type", "image_url"])
      ("image_url part " ++ toString index ++ " contains unsupported fields")
    check (state.imageCount + 1 ≤ 1) "chat content accepts at most one image_url part"
    let imageURL ← expect (objectField item "image_url")
      ("image_url part " ++ toString index ++ " requires only a url field")
    check (hasOnlyKeys imageURL ["url"])
      ("image_url part " ++ toString index ++ " requires only a url field")
    let rawURL ← expect (stringField imageURL "url")
      "chat image_url currently requires a data URL"
    check (Text.hasPrefix rawURL "data:") "chat image_url currently requires a data URL"
    let parsed ← sourceImageFromDataURL rawURL
    return { state with
      source := if includeImage then some parsed else state.source
      imageCount := state.imageCount + 1 }
  else
    .error ("unsupported chat content part type " ++ quote typeName)

def parseChatParts (includeImage : Bool) : ℕ → List Document → ChatParts → Except String ChatParts
  | _, [], state => .ok state
  | index, part :: rest, state => do
    let state ← parseChatPart quote includeImage index part state
    parseChatParts includeImage (index + 1) rest state

def parseChatContent (includeImage : Bool) : Document →
    Except String (String × Option SourceImage)
  | .string value => do
    check (value ≠ "") "content must not be empty"
    return (value, none)
  | .array items => do
    check (items ≠ []) "content parts must not be empty"
    let state ← parseChatParts quote includeImage 0 items {}
    return ("\n".intercalate state.texts, state.source)
  | _ => .error "content must be a string or an array of content parts"

structure ChatMessage where
  role : String
  content : Document

/-- The loop over the messages; the content of the last message of the user so far. -/
def lastUserContent : ℕ → List ChatMessage → Option Document → Except String (Option Document)
  | _, [], lastUser => .ok lastUser
  | index, message :: rest, lastUser => do
    check (message.role = "system" || message.role = "user" || message.role = "assistant")
      ("unsupported chat role " ++ quote message.role)
    match parseChatContent quote false message.content with
    | .error err => .error ("messages[" ++ toString index ++ "].content: " ++ err)
    | .ok _ =>
      lastUserContent (index + 1) rest
        (if message.role = "user" then some message.content else lastUser)

def lastChatInput (messages : List ChatMessage) :
    Except String (String × Option SourceImage) := do
  let lastUser ← lastUserContent quote 0 messages none
  let content ← expect lastUser "messages must include a user message"
  parseChatContent quote true content

structure ChatRequest where
  model : String := ""
  stream : Bool := false
  messages : List ChatMessage := []

def ChatRequest.imageRequest (request : ChatRequest) (prompt : String)
    (source : Option SourceImage) : ImageRequest where
  model := request.model
  prompt := prompt
  responseFormat := "url"
  sourceImage := source

/-- What `chat` makes of a decoded request before it creates the task. -/
def chatInput (request : ChatRequest) : Except String ImageRequest := do
  let input ← lastChatInput quote request.messages
  check (input.1 ≠ "") "no user prompt found"
  let model := if request.model = "" then "leonardo/gpt-image-2" else request.model
  return { request with model := model }.imageRequest input.1 input.2

end Parse

/-! ### The images -/

/-- An image of one of the three kinds in base64, after whatever parameters. -/
structure DataURL (url mediaType : String) (data : ByteString) : Prop where
  kind : mediaType ∈ imageExtensions.map Prod.fst
  form : ∃ params payload : List Char,
    url.toList = ("data:".toList ++ mediaType.toList ++ ';' :: params) ++ ',' :: payload ∧
      ',' ∉ params ∧ ";base64".toList <:+: ';' :: params ∧ Base64.decode true payload = some data
  size : data.length ≤ 25 * 2 ^ 20

theorem mem_imageKinds {mediaType : String} : mediaType ∈ imageExtensions.map Prod.fst ↔
    (mediaType = "image/png" || mediaType = "image/jpeg" || mediaType = "image/webp") = true := by
  simp [imageExtensions, or_assoc]

theorem imageKind_plain {mediaType : String} (h : mediaType ∈ imageExtensions.map Prod.fst) :
    ',' ∉ mediaType.toList ∧ ';' ∉ mediaType.toList := by
  have hall : ∀ kind ∈ imageExtensions.map Prod.fst, ',' ∉ kind.toList ∧ ';' ∉ kind.toList := by
    decide
  exact hall mediaType h

theorem hasPrefix_iff {s start : String} :
    Text.hasPrefix s start = true ↔ start.toList <+: s.toList := List.isPrefixOf_iff_prefix

theorem trimPrefix_data (mediaType : String) :
    Text.trimPrefix (String.ofList ("data:".toList ++ mediaType.toList)) "data:" = mediaType := by
  have hstart : Text.hasPrefix (String.ofList ("data:".toList ++ mediaType.toList)) "data:" = true := by
    rw [hasPrefix_iff, String.toList_ofList (l := "data:".toList ++ _)]
    exact List.prefix_append _ _
  rw [Text.trimPrefix, if_pos hstart, String.toList_ofList (l := "data:".toList ++ _)]
  exact String.ofList_toList

/-- What the parser makes of the text before the comma. -/
theorem head_iff {head : List Char} {mediaType : String}
    (hstart : "data:".toList <+: head) (hkind : mediaType ∈ imageExtensions.map Prod.fst) :
    Text.contains (String.ofList head) ";base64" = true ∧
        Text.trimPrefix (String.ofList (head.takeWhile (· ≠ ';'))) "data:" = mediaType ↔
      ∃ params, head = "data:".toList ++ mediaType.toList ++ ';' :: params ∧
        ";base64".toList <:+: ';' :: params := by
  rw [Text.contains, String.toList_ofList (l := head), decide_eq_true_iff]
  constructor
  · rintro ⟨hbase, hmedia⟩
    have hfirst : ';' ∈ ";base64".toList := by decide
    have hmem : ';' ∈ head := hbase.subset hfirst
    obtain ⟨before, params, rfl, hbefore⟩ := List.eq_append_cons_of_mem hmem
    rw [Cuts.takeWhile_cut hbefore] at hmedia
    obtain ⟨rest, rfl⟩ := Cuts.prefix_of_cut (by decide) hstart
    have hrest : String.ofList rest = mediaType := by
      rw [← hmedia]
      conv_lhs => rw [← trimPrefix_data (String.ofList rest), String.toList_ofList (l := rest)]
    subst hrest
    refine ⟨params, by rw [String.toList_ofList (l := rest)], ?_⟩
    exact Cuts.infix_of_append hbefore hbase
  · rintro ⟨params, rfl, hbase⟩
    have hplain : ';' ∉ "data:".toList ++ mediaType.toList := by
      rw [List.mem_append, not_or]
      exact ⟨by decide, (imageKind_plain hkind).2⟩
    constructor
    · exact hbase.trans (List.suffix_append _ _).isInfix
    · rw [Cuts.takeWhile_cut hplain, trimPrefix_data]

theorem DataURL.hasPrefix {url mediaType : String} {data : ByteString}
    (h : DataURL url mediaType data) : Text.hasPrefix url "data:" = true := by
  obtain ⟨params, payload, hurl, -⟩ := h.form
  rw [hasPrefix_iff, hurl, List.append_assoc, List.append_assoc]
  exact List.prefix_append _ _

theorem sourceImageFromDataURL_eq_ok {url : String} {image : SourceImage}
    (hstart : Text.hasPrefix url "data:" = true) :
    sourceImageFromDataURL url = .ok image ↔
      ∃ mediaType data, DataURL url mediaType data ∧ image = chatImage mediaType data := by
  simp only [sourceImageFromDataURL, check_bind_eq_ok, expect_bind_eq_ok, Bool.and_eq_true,
    decide_eq_true_iff]
  constructor
  · rintro ⟨⟨hcomma, hbase⟩, hkind, data, hdata, hsize, himage⟩
    obtain ⟨head, payload, hurl, hhead⟩ :=
      List.eq_append_cons_of_mem (List.idxOf_lt_length_iff.mp hcomma)
    rw [hurl, Cuts.take_cut hhead] at hbase hkind himage
    rw [hurl, Cuts.drop_cut hhead] at hdata
    rw [hasPrefix_iff, hurl] at hstart
    have hkind' := mem_imageKinds.mpr hkind
    obtain ⟨params, hform, hwithin⟩ :=
      (head_iff (Cuts.prefix_of_cut (by decide) hstart) hkind').mp ⟨hbase, rfl⟩
    cases himage
    refine ⟨_, data, ⟨hkind', ⟨params, payload, ?_, ?_, hwithin, hdata⟩, hsize⟩, rfl⟩
    · rw [hurl, ← hform]
    · intro hmem
      apply hhead
      rw [hform]
      simp [hmem]
  · rintro ⟨mediaType, data, hform, rfl⟩
    obtain ⟨params, payload, hurl, hparams, hwithin, hdata⟩ := hform.form
    have hhead : ',' ∉ "data:".toList ++ mediaType.toList ++ ';' :: params := by
      simp [hparams, (imageKind_plain hform.kind).1]
    have hparsed := (head_iff (((List.prefix_append _ _).trans (List.prefix_append _ _)))
      hform.kind).mpr ⟨params, rfl, hwithin⟩
    rw [hurl, Cuts.take_cut hhead, Cuts.drop_cut hhead]
    refine ⟨⟨?_, hparsed.1⟩, ?_, data, hdata, hform.size, ?_⟩
    · exact List.idxOf_lt_length_iff.mpr (by simp)
    · rw [hparsed.2]
      exact mem_imageKinds.mp hform.kind
    · rw [hparsed.2]
      rfl

/-! ### The parts of a message -/

theorem hasOnlyKeys_iff {value : Fields} {keys : List String} (h : keys.Nodup) :
    hasOnlyKeys value keys = true ↔ ∀ key, key ∈ value.map Prod.fst ↔ key ∈ keys := by
  rw [← keys_iff h, hasOnlyKeys, Bool.and_eq_true, decide_eq_true_iff, List.all_eq_true]
  simp only [lookup_isSome]

theorem stringField_eq_some {item : Fields} {key s : String} :
    stringField item key = some s ↔ item.lookup key = some (.string s) := by
  unfold stringField
  split
  · next t ht => simp [ht]
  · next hnone =>
    constructor
    · intro h
      cases h
    · intro h
      exact absurd h (hnone s)

theorem objectField_eq_some {item inner : Fields} {key : String} :
    objectField item key = some inner ↔ item.lookup key = some (.object inner) := by
  rw [objectField, Option.bind_eq_some_iff]
  constructor
  · rintro ⟨value, hvalue, hobject⟩
    cases value with
    | object fields =>
      cases hobject
      exact hvalue
    | _ => cases hobject
  · intro h
    exact ⟨_, h, rfl⟩

/-- A part of a message. -/
inductive ChatPart
  | text (s : String)
  | image (mediaType : String) (data : ByteString)

def ChatPart.text? : ChatPart → Option String
  | text s => some s
  | image _ _ => none

def ChatPart.image? : ChatPart → Option SourceImage
  | text _ => none
  | image mediaType data => some (chatImage mediaType data)

def partTexts (parts : List ChatPart) : List String := parts.filterMap ChatPart.text?

def partImages (parts : List ChatPart) : List SourceImage := parts.filterMap ChatPart.image?

section Parts

variable {s mediaType : String} {data : ByteString} {parts : List ChatPart}

@[simp] theorem partTexts_text : partTexts (.text s :: parts) = s :: partTexts parts := rfl

@[simp] theorem partTexts_image : partTexts (.image mediaType data :: parts) = partTexts parts := rfl

@[simp] theorem partImages_text : partImages (.text s :: parts) = partImages parts := rfl

@[simp] theorem partImages_image :
    partImages (.image mediaType data :: parts) = chatImage mediaType data :: partImages parts := rfl

end Parts

/-- The JSON of a part. -/
inductive ReadsPart : Document → ChatPart → Prop
  | text {item : Fields} {s : String} (hs : s ≠ "")
      (hitem : item.Is [("type", .string "text"), ("text", .string s)]) :
      ReadsPart (.object item) (.text s)
  | image {item inner : Fields} {url mediaType : String} {data : ByteString}
      (hitem : item.Is [("type", .string "image_url"), ("image_url", .object inner)])
      (hinner : inner.Is [("url", .string url)]) (hurl : DataURL url mediaType data) :
      ReadsPart (.object item) (.image mediaType data)

/-- The loop can take the part: there is one image at most. -/
def ChatParts.Admits (state : ChatParts) : ChatPart → Prop
  | .text _ => True
  | .image _ _ => state.imageCount = 0

def ChatParts.add (includeImage : Bool) (state : ChatParts) : ChatPart → ChatParts
  | .text s => { state with texts := state.texts ++ [s] }
  | .image mediaType data => { state with
      source := if includeImage then some (chatImage mediaType data) else state.source
      imageCount := state.imageCount + 1 }

/-- The keys are counted and each entry is looked up. -/
theorem is_iff_lookups {item entries : Fields} (h : (entries.map Prod.fst).Nodup) :
    item.Is entries ↔ hasOnlyKeys item (entries.map Prod.fst) = true ∧
      ∀ entry ∈ entries, item.lookup entry.1 = some entry.2 := by
  rw [hasOnlyKeys_iff h, Fields.is_iff h]

theorem is_pair {item : Fields} {key key' : String} {value value' : Document} (h : key ≠ key') :
    item.Is [(key, value), (key', value')] ↔ hasOnlyKeys item [key, key'] = true ∧
      item.lookup key = some value ∧ item.lookup key' = some value' := by
  rw [is_iff_lookups (by simp [h])]
  simp

theorem is_single {item : Fields} {key : String} {value : Document} :
    item.Is [(key, value)] ↔ hasOnlyKeys item [key] = true ∧ item.lookup key = some value := by
  rw [is_iff_lookups (by simp)]
  simp

section Loops

variable {quote : String → String}

/-- One turn of the loop takes a part that is well formed, or ends it. -/
theorem parseChatPart_eq_ok {includeImage : Bool} {index : ℕ} {part : Document}
    {state state' : ChatParts} :
    parseChatPart quote includeImage index part state = .ok state' ↔
      ∃ p, ReadsPart part p ∧ state.Admits p ∧ state' = state.add includeImage p := by
  simp only [parseChatPart, expect_bind_eq_ok, stringField_eq_some]
  constructor
  · rintro ⟨item, hobject, typeName, htype, h⟩
    cases part <;> cases hobject
    by_cases htext : typeName = "text"
    · subst htext
      rw [if_pos rfl] at h
      simp only [check_bind_eq_ok, expect_bind_eq_ok, stringField_eq_some] at h
      obtain ⟨hkeys, s, hs, hne, hstate⟩ := h
      cases hstate
      exact ⟨.text s, .text (of_decide_eq_true hne)
        ((is_pair (by decide)).mpr ⟨hkeys, htype, hs⟩), trivial, rfl⟩
    rw [if_neg htext] at h
    by_cases himage : typeName = "image_url"
    · subst himage
      rw [if_pos rfl] at h
      simp only [check_bind_eq_ok, expect_bind_eq_ok, stringField_eq_some,
        objectField_eq_some] at h
      obtain ⟨hkeys, hcount, inner, hinner, hinnerKeys, url, hurl, hstart, h⟩ := h
      obtain ⟨image, hparsed, hstate⟩ := bind_eq_ok.mp h
      obtain ⟨mediaType, data, hform, rfl⟩ := (sourceImageFromDataURL_eq_ok hstart).mp hparsed
      cases hstate
      refine ⟨.image mediaType data, .image ((is_pair (by decide)).mpr ⟨hkeys, htype, hinner⟩)
        (is_single.mpr ⟨hinnerKeys, hurl⟩) hform, ?_, rfl⟩
      have hle := of_decide_eq_true hcount
      change state.imageCount = 0
      omega
    · rw [if_neg himage] at h
      cases h
  · rintro ⟨p, hread, hadmits, rfl⟩
    cases hread with
    | text hs hitem =>
      obtain ⟨hkeys, htype, htext⟩ := (is_pair (by decide)).mp hitem
      refine ⟨_, rfl, _, htype, ?_⟩
      rw [if_pos rfl]
      simp only [check_bind_eq_ok, expect_bind_eq_ok, stringField_eq_some]
      exact ⟨hkeys, _, htext, decide_eq_true hs, rfl⟩
    | image hitem hinner hurl =>
      obtain ⟨hkeys, htype, hobject⟩ := (is_pair (by decide)).mp hitem
      obtain ⟨hinnerKeys, hlookup⟩ := is_single.mp hinner
      have hcount : state.imageCount = 0 := hadmits
      have hparsed := (sourceImageFromDataURL_eq_ok hurl.hasPrefix).mpr ⟨_, _, hurl, rfl⟩
      refine ⟨_, rfl, _, htype, ?_⟩
      rw [if_neg (by decide), if_pos rfl]
      simp only [check_bind_eq_ok, expect_bind_eq_ok, stringField_eq_some, objectField_eq_some]
      refine ⟨hkeys, decide_eq_true (by omega), _, hobject, hinnerKeys, _, hlookup,
        hurl.hasPrefix, ?_⟩
      rw [hparsed]
      rfl

/-- The state after these parts. -/
def ChatParts.after (includeImage : Bool) (state : ChatParts) (parts : List ChatPart) :
    ChatParts where
  texts := state.texts ++ partTexts parts
  source := if includeImage then (partImages parts).head?.or state.source else state.source
  imageCount := state.imageCount + (partImages parts).length

def ChatParts.Room (state : ChatParts) (parts : List ChatPart) : Prop :=
  partImages parts = [] ∨ state.imageCount + (partImages parts).length ≤ 1

theorem ChatParts.room_cons (includeImage : Bool) {state : ChatParts} {p : ChatPart}
    {parts : List ChatPart} :
    state.Room (p :: parts) ↔ state.Admits p ∧ (state.add includeImage p).Room parts := by
  cases p with
  | text s => simp [Room, Admits, add]
  | image mediaType data =>
    simp only [Room, Admits, add, partImages_image, List.length_cons, reduceCtorEq, false_or,
      ← List.length_eq_zero_iff]
    omega

theorem ChatParts.after_nil (includeImage : Bool) (state : ChatParts) :
    state.after includeImage [] = state := by
  cases includeImage <;> simp [after, partTexts, partImages]

theorem ChatParts.after_cons {includeImage : Bool} {state : ChatParts} {p : ChatPart}
    {parts : List ChatPart} (h : state.Room (p :: parts)) :
    (state.add includeImage p).after includeImage parts = state.after includeImage (p :: parts) := by
  cases p with
  | text s => simp [after, add]
  | image mediaType data =>
    have hnone : partImages parts = [] := by
      simp only [Room, partImages_image, List.length_cons, reduceCtorEq, false_or] at h
      exact List.length_eq_zero_iff.mp (by omega)
    cases includeImage <;> simp [after, add, hnone]

theorem parseChatParts_eq_ok {includeImage : Bool} {index : ℕ} {items : List Document}
    {state final : ChatParts} :
    parseChatParts quote includeImage index items state = .ok final ↔
      ∃ parts, List.Forall₂ ReadsPart items parts ∧ state.Room parts ∧
        final = state.after includeImage parts := by
  induction items generalizing index state with
  | nil =>
    rw [parseChatParts, Except.ok.injEq]
    constructor
    · rintro rfl
      exact ⟨[], .nil, .inl rfl, (ChatParts.after_nil _ _).symm⟩
    · rintro ⟨parts, hread, -, rfl⟩
      cases hread
      exact (ChatParts.after_nil _ _).symm
  | cons item rest ih =>
    rw [parseChatParts, bind_eq_ok]
    constructor
    · rintro ⟨next, hfirst, hrest⟩
      obtain ⟨p, hread, hadmits, rfl⟩ := parseChatPart_eq_ok.mp hfirst
      obtain ⟨parts, hparts, hroom, rfl⟩ := ih.mp hrest
      have hall := (ChatParts.room_cons includeImage).mpr ⟨hadmits, hroom⟩
      exact ⟨p :: parts, .cons hread hparts, hall, ChatParts.after_cons hall⟩
    · rintro ⟨parts, hread, hroom, rfl⟩
      cases hread with
      | cons hp hparts =>
        have hsplit := (ChatParts.room_cons includeImage).mp hroom
        refine ⟨_, parseChatPart_eq_ok.mpr ⟨_, hp, hsplit.1, rfl⟩, ih.mpr ⟨_, hparts, hsplit.2, ?_⟩⟩
        exact (ChatParts.after_cons hroom).symm

/-! ### Messages -/

/-- The JSON of the content of a message. -/
inductive ReadsContent : Document → List ChatPart → Prop
  | text {s : String} (hs : s ≠ "") : ReadsContent (.string s) [.text s]
  | parts {items : List Document} {parts : List ChatPart} (hitems : items ≠ [])
      (hread : List.Forall₂ ReadsPart items parts) (hone : (partImages parts).length ≤ 1) :
      ReadsContent (.array items) parts

theorem parseChatContent_eq_ok {includeImage : Bool} {content : Document}
    {input : String × Option SourceImage} :
    parseChatContent quote includeImage content = .ok input ↔
      ∃ parts, ReadsContent content parts ∧ input = ("\n".intercalate (partTexts parts),
        if includeImage then (partImages parts).head? else none) := by
  constructor
  · intro h
    cases content with
    | string value =>
      obtain ⟨hne, hinput⟩ := check_bind_eq_ok.mp h
      cases hinput
      refine ⟨[.text value], .text (of_decide_eq_true hne), ?_⟩
      rw [partTexts_text, partImages_text]
      cases includeImage <;> simp [partTexts, partImages]
    | array items =>
      obtain ⟨hne, h⟩ := check_bind_eq_ok.mp h
      obtain ⟨state, hloop, hinput⟩ := bind_eq_ok.mp h
      obtain ⟨parts, hread, hroom, rfl⟩ := parseChatParts_eq_ok.mp hloop
      cases hinput
      refine ⟨parts, .parts (of_decide_eq_true hne) hread ?_, ?_⟩
      · rcases hroom with hnone | hone
        · rw [hnone]
          decide
        · exact (Nat.zero_add _).symm.trans_le hone
      · simp [ChatParts.after]
    | _ => cases h
  · rintro ⟨parts, hread, rfl⟩
    cases hread with
    | text hs =>
      refine check_bind_eq_ok.mpr ⟨decide_eq_true hs, ?_⟩
      rw [partTexts_text, partImages_text]
      cases includeImage <;> simp [partTexts, partImages] <;> rfl
    | parts hitems hread hone =>
      refine check_bind_eq_ok.mpr ⟨decide_eq_true hitems, ?_⟩
      refine bind_eq_ok.mpr ⟨_, parseChatParts_eq_ok.mpr
        ⟨parts, hread, .inr ((Nat.zero_add _).trans_le hone), rfl⟩, ?_⟩
      simp [ChatParts.after]
      rfl

/-- A role of the three, and a content that can be read. -/
structure ChatMessage.Readable (message : ChatMessage) : Prop where
  role : message.role ∈ ["system", "user", "assistant"]
  content : ∃ parts, ReadsContent message.content parts

/-- The content of the last message of the user. -/
def userContent (messages : List ChatMessage) : Option Document :=
  (messages.reverse.find? fun message => message.role = "user").map ChatMessage.content

theorem userContent_cons (message : ChatMessage) (rest : List ChatMessage) :
    userContent (message :: rest) = (userContent rest).or
      (if message.role = "user" then some message.content else none) := by
  rw [userContent, List.reverse_cons, List.find?_append, userContent]
  cases hrest : rest.reverse.find? fun message => message.role = "user" with
  | some m => rfl
  | none => by_cases hrole : message.role = "user" <;> simp [hrole]

theorem roles_iff {role : String} : role ∈ ["system", "user", "assistant"] ↔
    (role = "system" || role = "user" || role = "assistant") = true := by
  simp [or_assoc]

theorem readable_iff (quote : String → String) {message : ChatMessage} :
    message.Readable ↔ message.role ∈ ["system", "user", "assistant"] ∧
      ∃ input, parseChatContent quote false message.content = .ok input := by
  constructor
  · rintro ⟨hrole, parts, hread⟩
    exact ⟨hrole, _, parseChatContent_eq_ok.mpr ⟨parts, hread, rfl⟩⟩
  · rintro ⟨hrole, input, hinput⟩
    obtain ⟨parts, hread, -⟩ := parseChatContent_eq_ok.mp hinput
    exact ⟨hrole, parts, hread⟩

theorem lastUserContent_eq_ok {index : ℕ} {messages : List ChatMessage}
    {lastUser final : Option Document} :
    lastUserContent quote index messages lastUser = .ok final ↔
      (∀ message ∈ messages, message.Readable) ∧
        final = (userContent messages).or lastUser := by
  induction messages generalizing index lastUser with
  | nil => simp [lastUserContent, userContent, eq_comm]
  | cons message rest ih =>
    rw [lastUserContent, check_bind_eq_ok, ← roles_iff, userContent_cons, List.forall_mem_cons,
      readable_iff quote]
    cases hcontent : parseChatContent quote false message.content with
    | error err => simp
    | ok input =>
      have hlast : (userContent rest).or (if message.role = "user" then some message.content
          else lastUser) = ((userContent rest).or (if message.role = "user" then
            some message.content else none)).or lastUser := by
        rw [Option.or_assoc]
        congr 1
        split_ifs <;> rfl
      rw [ih, hlast]
      simp [and_assoc]

theorem lastChatInput_eq_ok {messages : List ChatMessage} {input : String × Option SourceImage} :
    lastChatInput quote messages = .ok input ↔ (∀ message ∈ messages, message.Readable) ∧
      ∃ content parts, userContent messages = some content ∧ ReadsContent content parts ∧
        input = ("\n".intercalate (partTexts parts), (partImages parts).head?) := by
  rw [lastChatInput, bind_eq_ok]
  simp only [expect_bind_eq_ok, lastUserContent_eq_ok, Option.or_none, parseChatContent_eq_ok]
  constructor
  · rintro ⟨last, ⟨hall, rfl⟩, content, hcontent, parts, hread, hinput⟩
    exact ⟨hall, content, parts, hcontent, hread, hinput⟩
  · rintro ⟨hall, content, parts, hcontent, hread, hinput⟩
    exact ⟨_, ⟨hall, rfl⟩, content, hcontent, parts, hread, hinput⟩

theorem intercalate_ne_empty {sep t : String} {ts : List String} (h : t ≠ "") :
    sep.intercalate (t :: ts) ≠ "" := by
  cases ts with
  | nil =>
    rw [String.intercalate_singleton]
    exact h
  | cons t' rest =>
    rw [String.intercalate_cons_cons]
    simp [h]

/-- The texts of a message are not empty, so the prompt is empty only when there are none. -/
theorem ReadsContent.prompt_eq_empty {content : Document} {parts : List ChatPart}
    (h : ReadsContent content parts) :
    "\n".intercalate (partTexts parts) = "" ↔ partTexts parts = [] := by
  have hall : ∀ t ∈ partTexts parts, t ≠ "" := by
    cases h with
    | text hs => simp [partTexts, ChatPart.text?, hs]
    | parts hitems hread hone =>
      clear hitems hone
      induction hread with
      | nil => simp [partTexts]
      | cons hp _ ih =>
        cases hp with
        | text hs _ => simpa [hs] using ih
        | image _ _ _ => simpa using ih
  cases htexts : partTexts parts with
  | nil => simp
  | cons t rest =>
    rw [htexts, List.forall_mem_cons] at hall
    simp [intercalate_ne_empty hall.1]

/-- The image of a message decodes to the bytes that were sent. -/
theorem image_decodes {parts : List ChatPart} {image : SourceImage}
    (h : image ∈ partImages parts) : ∃ mediaType data, .image mediaType data ∈ parts ∧
      image = chatImage mediaType data ∧ Base64.decode true image.data.toList = some data := by
  obtain ⟨p, hp, hsome⟩ := List.mem_filterMap.mp h
  cases p with
  | text s => cases hsome
  | image mediaType data =>
    cases hsome
    refine ⟨mediaType, data, hp, rfl, ?_⟩
    rw [chatImage, String.toList_ofList (l := Base64.encode true data), Base64.decode_encode]

theorem userContent_eq_some {messages : List ChatMessage} {content : Document} :
    userContent messages = some content ↔ ∃ before message after,
      messages = before ++ message :: after ∧ message.role = "user" ∧
        (∀ m ∈ after, m.role ≠ "user") ∧ message.content = content := by
  rw [userContent, Option.map_eq_some_iff]
  constructor
  · rintro ⟨message, hfind, hcontent⟩
    obtain ⟨hrole, after, before, hsplit, hafter⟩ := List.find?_eq_some_iff_append.mp hfind
    refine ⟨before.reverse, message, after.reverse, ?_, of_decide_eq_true hrole, ?_, hcontent⟩
    · rw [← List.reverse_reverse messages, hsplit]
      simp
    · intro m hm
      simpa using hafter m (List.mem_reverse.mp hm)
  · rintro ⟨before, message, after, rfl, hrole, hafter, hcontent⟩
    refine ⟨message, List.find?_eq_some_iff_append.mpr
      ⟨decide_eq_true hrole, after.reverse, before.reverse, by simp, ?_⟩, hcontent⟩
    intro m hm
    simpa using hafter m (List.mem_reverse.mp hm)

end Loops

section Accepted

variable (quote : String → String)

/-- A chat request is accepted exactly when every message has one of the roles and a text, or a
list of texts and of one embedded image at most, and the last message of the user has a text. The
picture request is made of that message, and its image decodes to the bytes that were sent. -/
theorem chatInput_accepts (request : ChatRequest) (accepted : ImageRequest) :
    (chatInput quote request = .ok accepted ↔
      (∀ message ∈ request.messages, message.Readable) ∧
        ∃ before message after parts, request.messages = before ++ message :: after ∧
          message.role = "user" ∧ (∀ m ∈ after, m.role ≠ "user") ∧
          ReadsContent message.content parts ∧ partTexts parts ≠ [] ∧
          accepted = {
            model := if request.model = "" then "leonardo/gpt-image-2" else request.model
            prompt := "\n".intercalate (partTexts parts)
            responseFormat := "url"
            sourceImage := (partImages parts).head? }) ∧
    (chatInput quote request = .ok accepted →
      ∀ image, accepted.sourceImage = some image → ∃ message ∈ request.messages,
        ∃ parts mediaType data, ReadsContent message.content parts ∧
          .image mediaType data ∈ parts ∧ image = chatImage mediaType data ∧
          Base64.decode true image.data.toList = some data) := by
  have hiff : chatInput quote request = .ok accepted ↔
      (∀ message ∈ request.messages, message.Readable) ∧
        ∃ content parts, userContent request.messages = some content ∧
          ReadsContent content parts ∧ partTexts parts ≠ [] ∧
          accepted = {
            model := if request.model = "" then "leonardo/gpt-image-2" else request.model
            prompt := "\n".intercalate (partTexts parts)
            responseFormat := "url"
            sourceImage := (partImages parts).head? } := by
    rw [chatInput, bind_eq_ok]
    simp only [lastChatInput_eq_ok, check_bind_eq_ok, decide_eq_true_iff]
    constructor
    · rintro ⟨input, ⟨hall, content, parts, hcontent, hread, rfl⟩, hprompt, haccepted⟩
      cases haccepted
      exact ⟨hall, content, parts, hcontent, hread, mt hread.prompt_eq_empty.mpr hprompt, rfl⟩
    · rintro ⟨hall, content, parts, hcontent, hread, htexts, rfl⟩
      exact ⟨_, ⟨hall, content, parts, hcontent, hread, rfl⟩,
        mt hread.prompt_eq_empty.mp htexts, rfl⟩
  constructor
  · rw [hiff]
    simp only [userContent_eq_some]
    constructor
    · rintro ⟨hall, content, parts, ⟨before, message, after, hsplit, hrole, hafter, rfl⟩, hrest⟩
      exact ⟨hall, before, message, after, parts, hsplit, hrole, hafter, hrest⟩
    · rintro ⟨hall, before, message, after, parts, hsplit, hrole, hafter, hrest⟩
      exact ⟨hall, _, parts, ⟨before, message, after, hsplit, hrole, hafter, rfl⟩, hrest⟩
  · intro hok image himage
    obtain ⟨-, content, parts, hcontent, hread, -, rfl⟩ := hiff.mp hok
    obtain ⟨before, message, after, hsplit, -, -, rfl⟩ := userContent_eq_some.mp hcontent
    obtain ⟨mediaType, data, hpart, hform, hdecodes⟩ :=
      image_decodes (List.mem_of_mem_head? himage)
    refine ⟨message, ?_, parts, mediaType, data, hread, hpart, hform, hdecodes⟩
    rw [hsplit]
    exact List.mem_append_right _ List.mem_cons_self

end Accepted

end GenerationGateway

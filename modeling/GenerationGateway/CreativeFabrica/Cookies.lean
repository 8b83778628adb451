import GenerationGateway.Library.Checks
import GenerationGateway.Library.Document
import GenerationGateway.Library.Merging

/-!
# Cookie documents

The browser-exported cookies of an account. A refresh merges the cookies that the upstream
has set into the stored document, and the transport header is derived from the result.
-/

namespace GenerationGateway.CreativeFabrica

open Documents Text Checks

def maxCookieJSONBytes : ℕ := 512 * 1024

def maxCookies : ℕ := 256

/-- What the standard library makes of a text or a number. -/
structure Runtime where
  /-- `strings.ToLower`. -/
  toLower : String → String
  /-- `url.Parse` and `Hostname` of its result. -/
  hostname : String → Option String
  /-- The length of a number in JSON. -/
  numberLength : Number → ℕ

/-! ### Lengths of encodings -/

/-- The bytes of a character in a JSON string, with the escapes of `json.Marshal`. -/
def escapedLength (c : Char) : ℕ :=
  if c = '"' ∨ c = '\\' ∨ c.toNat ∈ [0x08, 0x09, 0x0A, 0x0C, 0x0D] then 2
  else if c.toNat < 0x20 ∨ c ∈ ['<', '>', '&'] ∨ c.toNat ∈ [0x2028, 0x2029] then 6
  else c.utf8Size

def stringLength (s : String) : ℕ := 2 + (s.toList.map escapedLength).sum

section Lengths

variable (rt : Runtime)

mutual

/-- The length of `json.Marshal`. Every item is followed by a comma or by the bracket. -/
def encodedLength : Document → ℕ
  | .null => 4
  | .bool b => if b then 4 else 5
  | .number n => rt.numberLength n
  | .string s => stringLength s
  | .array items => 1 + max 1 (itemsLength items)
  | .object fields => 1 + max 1 (fieldsLength fields)

def itemsLength : List Document → ℕ
  | [] => 0
  | item :: rest => encodedLength item + 1 + itemsLength rest

def fieldsLength : Fields → ℕ
  | [] => 0
  | (key, value) :: rest => stringLength key + 1 + encodedLength value + 1 + fieldsLength rest

end

end Lengths

/-- A `json.RawMessage`, known by its length and by what it decodes to. -/
structure CookieJSON where
  size : ℕ
  /-- As `[]map[string]any`. -/
  array : Option (List Fields)
  /-- As `cookieDocument`. -/
  wrapped : Option (List Fields)

def marshal (rt : Runtime) (cookies : List Fields) : CookieJSON where
  size := encodedLength rt (.array (cookies.map .object))
  array := some cookies
  wrapped := none

/-! ### Single cookies -/

def cookieName (cookie : Fields) : String := trimSpace (cookie.value "name").stringValue

def cookieValue (cookie : Fields) : String := (cookie.value "value").stringValue

def cookieDomain (cookie : Fields) : String := trimSpace (cookie.value "domain").stringValue

def isCookieMetadata (name : String) : Bool :=
  (trimSpace name).toList.map foldChar = "_user_agent".toList

def validCookieValue (name value : String) : Bool :=
  if isCookieMetadata name then !value.toList.any fun c => ['\r', '\n'].contains c
  else !value.toList.any fun c => [';', '\r', '\n'].contains c

def creativeFabricaHost (host : String) : Bool :=
  host = "creativefabrica.com" || ".creativefabrica.com".toList.isSuffixOf host.toList

def cookieScope (rt : Runtime) (domain rawURL : String) : Bool :=
  creativeFabricaHost (trimPrefix (rt.toLower (trimSpace domain)) ".") ||
    match rt.hostname (trimSpace rawURL) with
    | some host => creativeFabricaHost (rt.toLower host)
    | none => false

def inScope (rt : Runtime) (cookie : Fields) : Bool :=
  cookieScope rt (cookie.value "domain").stringValue (cookie.value "url").stringValue

/-- The key of `MergeCookieJSON`. -/
def cookieKey (rt : Runtime) (cookie : Fields) : String :=
  rt.toLower (cookieName cookie) ++ "\x00" ++
    rt.toLower (cookieDomain cookie) ++ "\x00" ++ (cookie.value "path").stringValue

/-! ### Documents -/

def checkCookie (rt : Runtime) (cookie : Fields) : Except String Unit := do
  check (cookieName cookie ≠ "") "every cookie_json entry must include a name"
  check (inScope rt cookie) "cookie_json may contain only Creative Fabrica cookies"
  check (validCookieValue (cookieName cookie) (cookieValue cookie))
    "cookie_json contains an invalid cookie value"

def checkCookies (rt : Runtime) : List Fields → Except String Unit
  | [] => .ok ()
  | cookie :: rest => do
    checkCookie rt cookie
    checkCookies rt rest

/-- A bare array, or the array of the wrapper. -/
def readCookies (raw : CookieJSON) : Except String (List Fields) :=
  match raw.array with
  | some cookies => .ok cookies
  | none =>
    match raw.wrapped with
    | some cookies => .ok cookies
    | none => .error "cookie_json must be a Chrome or Patchright cookie array"

def normalizeCookieJSON (rt : Runtime) (raw : CookieJSON) : Except String CookieJSON := do
  check (raw.size ≠ 0) "cookie_json is required"
  check (raw.size ≤ maxCookieJSONBytes) "cookie_json must not exceed 524288 bytes"
  let cookies ← readCookies raw
  check (1 ≤ cookies.length ∧ cookies.length ≤ maxCookies)
    "cookie_json must contain between 1 and 256 cookies"
  checkCookies rt cookies
  .ok (marshal rt cookies)

/-- One document's cookies into the merged ones. -/
def mergeCookies (rt : Runtime) (merged : Merging.Indexed Fields String) :
    List Fields → Except String (Merging.Indexed Fields String)
  | [] => .ok merged
  | cookie :: rest => do
    check (cookieName cookie ≠ "" ∧ inScope rt cookie)
      "cookie_json may contain only Creative Fabrica cookies"
    mergeCookies rt (merged.put (cookieKey rt) cookie) rest

def mergeDocuments (rt : Runtime) (merged : Merging.Indexed Fields String) :
    List CookieJSON → Except String (Merging.Indexed Fields String)
  | [] => .ok merged
  | raw :: rest =>
    if raw.size = 0 then mergeDocuments rt merged rest
    else match raw.array with
      | none => .error "cookie_json is invalid"
      | some cookies => do
        let merged ← mergeCookies rt merged cookies
        mergeDocuments rt merged rest

def mergeCookieJSON (rt : Runtime) (documents : List CookieJSON) :
    Except String (Option CookieJSON) := do
  let merged ← mergeDocuments rt ⟨[], []⟩ documents
  if merged.entries = [] then .ok none
  else
    let raw ← normalizeCookieJSON rt (marshal rt merged.entries)
    .ok (some raw)

/-- The names and values of the header; a name that was seen is passed over. -/
def headerParts (rt : Runtime) (seen : List String) :
    List Fields → Except String (List (String × String))
  | [] => .ok []
  | cookie :: rest => do
    check (cookieName cookie ≠ "" ∧ inScope rt cookie)
      "stored cookie_json contains an invalid Creative Fabrica cookie"
    if isCookieMetadata (cookieName cookie) then headerParts rt seen rest
    else
      check (validCookieValue (cookieName cookie) (cookieValue cookie))
        "stored cookie_json contains an invalid Creative Fabrica cookie"
      if cookieName cookie ∈ seen then headerParts rt seen rest
      else
        let parts ← headerParts rt (cookieName cookie :: seen) rest
        .ok ((cookieName cookie, cookieValue cookie) :: parts)

def renderHeader (parts : List (String × String)) : String :=
  String.intercalate "; " (parts.map fun part => part.1 ++ "=" ++ part.2)

def cookieHeaderFromJSON (rt : Runtime) (raw : CookieJSON) : Except String String :=
  match raw.array with
  | none => .error "stored cookie_json is invalid"
  | some cookies => do
    let parts ← headerParts rt [] cookies
    check (parts ≠ []) "stored cookie_json is empty"
    .ok (renderHeader parts)

/-- The merged document and its header. -/
def mergeCreativeFabricaCookies (rt : Runtime) (documents : List CookieJSON) :
    Except String (Option (CookieJSON × String)) := do
  match ← mergeCookieJSON rt documents with
  | none => .ok none
  | some merged =>
    let header ← cookieHeaderFromJSON rt merged
    .ok (some (merged, header))

end GenerationGateway.CreativeFabrica

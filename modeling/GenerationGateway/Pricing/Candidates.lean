import GenerationGateway.Domain.VideoSpecs
import GenerationGateway.Library.Choices
import GenerationGateway.Library.Document
import GenerationGateway.Pricing.Rules

/-!
# Pricing candidates

The option assignments of a catalogue model that the upstream is asked to price, and the
rules that are built of its quotes.
-/

namespace GenerationGateway.Pricing

open Documents Text Choices

def creativeFabricaMaxPricingComb : ℕ := 4096

/-! ### Option values -/

/-- A float that is no number, as it is formatted and as it converts to an `int`. -/
structure NonFinite where
  text : String
  truncated : ℤ

/-- What the standard library makes of a text or a value. -/
structure Formats where
  /-- `strings.ToLower`. -/
  toLower : String → String
  /-- `fmt.Sprint` of a decoded value. -/
  sprint : Document → String
  /-- `strconv.ParseFloat`; none is an error. -/
  parseFloat : String → Option (Number ⊕ NonFinite)

/-- A value of type `any` in the catalogue: decoded, or one that the gateway has made. -/
inductive Value
  | decoded (value : Document)
  | int (n : ℤ)
  | nonFinite (x : NonFinite)

/-- `scalarInt` of a normalised value. -/
def Value.plainInt : Value → ℤ
  | int n => n
  | decoded (.number n) => n.truncated
  | decoded (.string s) => parseInt64 (trimSpace s)
  | decoded _ => 0
  | nonFinite x => x.truncated

mutual

def normalizeOptionValue : Document → Value
  | .object fields =>
    match normalizedAt "value" fields with
    | some nested => nested
    | none =>
      match fields.lookup "stringValue" with
      | some scalar => .decoded scalar
      | none =>
        match normalizedAt "integerValue" fields with
        | some scalar => .int scalar.plainInt
        | none => .decoded (.object fields)
  | value => .decoded value

/-- The normalised entry of a key. -/
def normalizedAt (key : String) : Fields → Option Value
  | [] => none
  | (k, value) :: rest => if k = key then some (normalizeOptionValue value) else normalizedAt key rest

end

namespace Value

def normalize : Value → Value
  | decoded value => normalizeOptionValue value
  | value => value

def scalarInt (value : Value) : ℤ := value.normalize.plainInt

def scalarString (value : Value) : String :=
  match value.normalize with
  | int n => n.repr
  | decoded (.number n) => n.text
  | decoded (.string s) => trimSpace s
  | decoded _ => ""
  | nonFinite x => x.text

/-- The value that JSON encodes; a float that is no number has no encoding. -/
def encoded : Value → Option Document
  | decoded value => some value
  | int n => some (.number (Number.ofInt n))
  | nonFinite _ => none

end Value

inductive OptionType
  | stringType
  | integerType
  | numberType
  | booleanType

/-- The types in the order in which an option is searched for them, with their keys. -/
def optionTypes : List (OptionType × String) :=
  [(.stringType, "stringType"), (.integerType, "integerType"), (.numberType, "numberType"),
    (.booleanType, "booleanType")]

section Values

variable (fmt : Formats)

def sprint : Value → String
  | .decoded value => fmt.sprint value
  | .int n => n.repr
  | .nonFinite x => x.text

def normalizePricingOptionValue (typeName : OptionType) (value : Value) : Value :=
  match typeName, value.normalize with
  | .stringType, value => value
  | .integerType, value => .int value.scalarInt
  | .numberType, .decoded (.number n) => .decoded (.number n)
  | .numberType, .nonFinite x => .nonFinite x
  | .numberType, value =>
    match fmt.parseFloat (trimSpace (sprint fmt value)) with
    | some (.inl n) => .decoded (.number n)
    | some (.inr x) => .nonFinite x
    | none => value
  | .booleanType, .decoded (.bool b) => .decoded (.bool b)
  | .booleanType, value => .decoded (.bool (equalFold (trimSpace (sprint fmt value)) "true"))

/-- `scalarValues` of a decoded value. -/
def scalarValues (value : Document) : List Value := value.items.map normalizeOptionValue

/-- The integers of a range that is given and not too wide. -/
def integerDomain (typed : Fields) : List Value :=
  let minimum := (Value.decoded (typed.value "min")).scalarInt
  let maximum := (Value.decoded (typed.value "max")).scalarInt
  if (typed.lookup "min").isSome ∧ (typed.lookup "max").isSome ∧ 0 ≤ minimum ∧
      minimum ≤ maximum ∧ maximum - minimum < creativeFabricaMaxPricingComb then
    (List.range (maximum - minimum + 1).toNat).map fun i => .int (minimum + i)
  else []

/-- The values of an option of one type; none goes on to the next type. -/
def typedValues (typeName : OptionType) (typed : Fields) : Option (List Value) :=
  let values := scalarValues (typed.value "allowedValues")
  if values ≠ [] then some (values.map (normalizePricingOptionValue fmt typeName))
  else
    let range := match typeName with
      | .integerType => integerDomain typed
      | _ => []
    if range ≠ [] then some range
    else
      match typeName with
      | .booleanType => some [.decoded (.bool false), .decoded (.bool true)]
      | _ =>
        match typed.value "defaultValue" with
        | .null => none
        | value => some [normalizePricingOptionValue fmt typeName (.decoded value)]

def snakeCase (value : String) : String :=
  replaceChars (fmt.toLower (trimSpace value)) ['-', '.'] '_'

/-- The value of an option without metadata. -/
def defaultOptionValues (name kind : String) : List Value :=
  let key := fmt.toLower name
  if key = "duration_seconds" ∨ key = "duration" ∨ key = "video_duration" then [.int 5]
  else if key = "resolution" then [.decoded (.string "720p")]
  else if key = "aspect_ratio" then [.decoded (.string "16:9")]
  else if key = "mode" then [.decoded (.string "720p")]
  else if key = "quality" then [.decoded (.string "standard")]
  else if kind = "image" ∧ name = "size" then [.decoded (.string "1024x1024")]
  else []

/-- What the expansion reads of a catalogue model. -/
structure CatalogueModel where
  pricingInputs : List String
  pricingInputConfig : Fields
  inputOptions : Fields

def creativeFabricaOptionValues (model : CatalogueModel) (name kind : String) : List Value :=
  let name := trimSpace name
  let config := model.inputOptions.value name
  let config := if config.isNull then model.inputOptions.value (snakeCase fmt name) else config
  let typed := (config.asObject.getD []) |> fun option =>
    optionTypes.findSome? fun (typeName, key) =>
      (option.value key).asObject.bind (typedValues fmt typeName)
  typed.getD (defaultOptionValues fmt name kind)

/-! ### The expansion -/

/-- The trimmed values other than the empty one, each where it comes first. -/
def uniqueStrings (values : List String) : List String :=
  Merging.order ((values.map trimSpace).filter fun value => value ≠ "")

def pricingNames (model : CatalogueModel) : List String :=
  uniqueStrings (if model.pricingInputs = [] then
      ((model.pricingInputConfig.value "options").items.map fun option =>
        trimSpace (fmt.sprint option)).filter fun name => name ≠ ""
    else model.pricingInputs)

/-- The domains of the options, with the check that their product keeps to the limit. -/
def optionSets (model : CatalogueModel) (kind publicModel : String) :
    List String → ℕ → Except String (List (List Value))
  | [], _ => .ok []
  | name :: names, count =>
    let values := creativeFabricaOptionValues fmt model name kind
    if values.length = 0 then
      .error ("Creative Fabrica " ++ publicModel ++ ": missing pricing domain for " ++ name)
    else if count > creativeFabricaMaxPricingComb / values.length then
      .error ("Creative Fabrica " ++ publicModel ++
        ": pricing domain exceeds 4096 combinations; snapshot was not truncated")
    else do
      let sets ← optionSets model kind publicModel names (count * values.length)
      .ok (values :: sets)

def cartesianPricingOptions (names : List String) (sets : List (List Value)) (limit : ℕ) :
    List (Assignment String Value) :=
  if sets = [] then [] else (walk Value.normalize limit (names.zip sets) ([], [])).2

end Values

structure Candidate where
  options : Assignment String Value
  size : String
  quality : String
  resolution : String
  duration : ℤ

/-- `scalarString(options[key])`. -/
def optionString (options : Assignment String Value) (key : String) : String :=
  ((options.lookup key).getD (.decoded .null)).scalarString

/-- `scalarInt(options[key])`. -/
def optionInt (options : Assignment String Value) (key : String) : ℤ :=
  ((options.lookup key).getD (.decoded .null)).scalarInt

section Candidates

variable (fmt : Formats)

def imagePricingCandidateSize (options : Assignment String Value) : String :=
  let width := optionInt options "width"
  let height := optionInt options "height"
  if width > 0 ∧ height > 0 then width.repr ++ "x" ++ height.repr
  else
    match ["size", "dimensions", "resolution"].find? fun key =>
      contains (optionString options key) "x" with
    | some key => fmt.toLower (optionString options key)
    | none =>
      let aspect := String.ofList
        ((trimSpace (optionString options "aspect_ratio")).toList.filter fun c => c ≠ ' ')
      if aspect = "16:9" ∨ aspect = "3:2" ∨ aspect = "4:3" ∨ aspect = "21:9" then "1536x1024"
      else if aspect = "9:16" ∨ aspect = "2:3" ∨ aspect = "3:4" then "1024x1536"
      else "1024x1024"

def normalizePricingResolution (value : String) : String :=
  trimPrefix (fmt.toLower (trimSpace value)) "prompt_to_video_generator_content_resolution_"

def candidateResolution (options : Assignment String Value) : String :=
  let resolution := normalizePricingResolution fmt (optionString options "resolution")
  let resolution :=
    if resolution = "" then normalizePricingResolution fmt (optionString options "mode")
    else resolution
  if resolution = "" then "720p" else resolution

def candidateDuration (options : Assignment String Value) : ℤ :=
  let duration := optionInt options "duration_seconds"
  if duration = 0 then 5 else duration

/-- The dimensions of a video that the gateway exposes. -/
def admittedVideo (publicModel : String) (options : Assignment String Value) : Bool :=
  match VideoSpecs.getForProvider "creativefabrica" publicModel with
  | some spec =>
    spec.supportsResolution (candidateResolution fmt options) &&
      spec.supportsDuration (candidateDuration options)
  | none => false

/-- The candidate of a combination; none is passed over. -/
def candidateOf (kind publicModel : String) (options : Assignment String Value) :
    Option Candidate :=
  if kind = "image" then
    let size := imagePricingCandidateSize fmt options
    some {
      options := options
      size := if size = "" then "1024x1024" else size
      quality := optionString options "quality"
      resolution := ""
      duration := 0 }
  else if admittedVideo fmt publicModel options then
    some {
      options := options
      size := ""
      quality := ""
      resolution := candidateResolution fmt options
      duration := candidateDuration options }
  else none

end Candidates

/-- `json.Marshal` of the options. It sorts the names; here they stand in the one order
that all candidates of a model share. -/
def encodeOptions : Assignment String Value → Option Fields
  | [] => some []
  | (name, value) :: rest => do
    let value ← value.encoded
    let rest ← encodeOptions rest
    some ((name, value) :: rest)

/-- The order of the sort by the local price dimensions. -/
def Candidate.before (kind : String) (a b : Candidate) : Bool :=
  if kind = "image" then
    if a.size = b.size then a.quality < b.quality else a.size < b.size
  else if a.resolution = b.resolution then a.duration < b.duration
  else a.resolution < b.resolution

def dedupeCreativeFabricaCandidates (candidates : List Candidate) (kind : String) :
    List Candidate :=
  (firsts (fun c : Candidate => encodeOptions c.options) sameFields [] candidates).mergeSort
    fun a b => !(b.before kind a)

def creativeFabricaPricingCandidates (fmt : Formats) (model : CatalogueModel)
    (kind publicModel : String) : Except String (List Candidate) := do
  let names := pricingNames fmt model
  let sets ← optionSets fmt model kind publicModel names 1
  let combinations := cartesianPricingOptions names sets creativeFabricaMaxPricingComb
  let combinations := if combinations = [] then [[]] else combinations
  .ok (dedupeCreativeFabricaCandidates (combinations.filterMap (candidateOf fmt kind publicModel))
    kind)

/-! ### The rules -/

def appendUniqueCreativeFabricaRule (rules : List Definition) (rule : Definition) :
    Except String (List Definition) :=
  match rules.find? fun current => current.options = rule.options with
  | some current =>
    if current.unitTokens ≠ rule.unitTokens then
      .error ("Creative Fabrica " ++ rule.options.model ++
        ": different upstream quotes map to the same local price dimensions (" ++
        current.unitTokens.repr ++ " and " ++ rule.unitTokens.repr ++
        " Coins); snapshot not installed")
    else .ok rules
  | none => .ok (rules ++ [rule])

/-- The rules of the quotes, one after the other. -/
def buildRules (rules : List Definition) : List Definition → Except String (List Definition)
  | [] => .ok rules
  | quote :: rest => do
    let rules ← appendUniqueCreativeFabricaRule rules quote
    buildRules rules rest

end GenerationGateway.Pricing

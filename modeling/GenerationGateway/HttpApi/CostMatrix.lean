import GenerationGateway.HttpApi.Estimates
import GenerationGateway.Library.Answers
import Mathlib

/-!
# The cost matrix of an image model

The matrix prices every requested size in every quality. It asks the store for a model or a rule
only once, and the store may change meanwhile: the matrix is still that of one table of rules, and
each of its cells is what the estimate of the request under that table says.
-/

namespace GenerationGateway.Estimates

open Checks Effects Text Word ImageOptions Pricing

/-! ### Reads -/

inductive Lookup
  | model (id : String)
  | rule (kind model size quality resolution : String) (duration : ℤ)
  deriving DecidableEq

/-- `imageEstimateStore`. -/
abbrev lookups : Signature where
  Op := Lookup
  Res
    | .model _ => Except StoreError ModelConfig
    | .rule _ _ _ _ _ _ => Except StoreError ModelCostRule

instance : DecidableEq lookups.Op := inferInstanceAs (DecidableEq Lookup)

/-- `cachedImageEstimateStore` keeps what it read without an error. -/
def cached : ∀ op, lookups.Res op → Bool
  | .model _, .ok _ => true
  | .rule _ _ _ _ _ _, .ok _ => true
  | .model _, .error _ => false
  | .rule _ _ _ _ _ _, .error _ => false

abbrev Estimating := Asking lookups RequestError

def readModel : Except StoreError ModelConfig → Except RequestError ModelConfig
  | .ok model => .ok model
  | .error .notFound => invalidRequest "unknown model"
  | .error err => .error (.store err)

def askModel (id : String) : Estimating ModelConfig := Asking.ask (S := lookups) (.model id) readModel

def askRule (kind model size quality resolution : String) (duration : ℤ) :
    Estimating ModelCostRule :=
  Asking.ask (S := lookups) (.rule kind model size quality resolution duration) fun r =>
    priced (findRule r)

/-- `pricing.ImageForProvider` over reads. -/
def askImageForProvider (provider : String) (request : ImageRequest) : Estimating Estimate := do
  let provider := normalizedProvider provider
  let size ← liftM (priced (imagePricingSize provider request.model request.size))
  let rule ← askRule "image" request.model size (imagePricingQuality request) "" 0
  let quantity := if request.n < 1 then 1 else request.n
  let unitTokens ← liftM (priced (imageUnitTokens provider request rule))
  return ⟨int64 (unitTokens * quantity), unitTokens, rule.id, size, rule.priceVersion, rule.source⟩

/-- `estimateImageCost` over reads. -/
def askImageCost (req : ImageEstimateRequest) (allowedModels : List String)
    (enforceAPIKeyModels : Bool) : Estimating ImageEstimateResponse := do
  let normalized ← liftM (checked (normalizeImageEstimateRequest req))
  liftM (demand (!enforceAPIKeyModels ||
      allowed allowedModels (mediaModelPermission normalized.provider normalized.model))
    "model is not allowed for this API key")
  let model ← askModel normalized.model
  liftM (demand (allowed model.capabilities "text-to-image") "selected model is not an image model")
  liftM (checked (validateImageOptions normalized model))
  let estimate ← askImageForProvider normalized.provider normalized
  return describeImage normalized estimate {
    model := normalized.model
    size := normalized.size
    quality := normalized.quality
    quantity := normalized.n
    unitTokens := estimate.unitTokens
    estimatedTokens := estimate.tokens
    pricingAnchor := estimate.ruleSize
    priceVersion := estimate.priceVersion
    source := estimate.source }

/-! ### The matrix -/

structure CostMatrixRequest where
  provider : String
  model : String
  sizes : List String

structure CostMatrixRow where
  size : String
  costs : List (String × ℤ)
  pricingTier : String
  pricingAnchor : String
  deriving DecidableEq

structure CostMatrix where
  model : String
  qualities : List String
  rows : List CostMatrixRow
  priceVersions : List String
  sources : List String
  deriving DecidableEq

structure MatrixState where
  seen : List String
  rows : List CostMatrixRow
  versions : Finset String
  sources : Finset String

def matrixQualities (model : String) : List String :=
  if isGPTImage2 model then ["low", "medium", "high"] else ["fixed"]

/-- The estimate behind one cell. -/
def cellRequest (provider model size quality : String) : ImageEstimateRequest where
  provider := provider
  model := model
  size := size
  quality := if quality = "fixed" then "" else quality
  n := 1

def priceQuality (provider model : String) (acc : CostMatrixRow × MatrixState) (quality : String) :
    Estimating (CostMatrixRow × MatrixState) := do
  let estimate ← askImageCost (cellRequest provider model acc.1.size quality) [] false
  return ({ acc.1 with
      costs := acc.1.costs ++ [(quality, estimate.unitTokens)]
      pricingTier := estimate.pricingTier
      pricingAnchor := estimate.pricingAnchor },
    { acc.2 with
      versions := insert estimate.priceVersion acc.2.versions
      sources := insert estimate.source acc.2.sources })

def priceSize (provider model : String) (qualities : List String) (state : MatrixState)
    (rawSize : String) : Estimating MatrixState :=
  let size := toLower (trimSpace rawSize)
  if size = "" then liftM (invalidRequest (α := MatrixState) "sizes cannot contain an empty value")
  else if state.seen.contains size then return state
  else do
    let done ← qualities.foldlM (priceQuality provider model)
      (⟨size, [], "", ""⟩, { state with seen := state.seen ++ [size] })
    return { done.2 with rows := done.2.rows ++ [done.1] }

def estimateImageCostMatrix (req : CostMatrixRequest) : Estimating CostMatrix := do
  let model := trimSpace req.model
  liftM (demand (model ≠ "") "model is required")
  liftM (demand (1 ≤ req.sizes.length && req.sizes.length ≤ 100)
    "sizes must contain between 1 and 100 entries")
  let qualities := matrixQualities model
  let state ← req.sizes.foldlM (priceSize req.provider model qualities) ⟨[], [], ∅, ∅⟩
  return ⟨model, qualities, state.rows, state.versions.sort, state.sources.sort⟩

/-! ### Under one table of answers -/

def modelAnswer : Option ModelConfig → Except StoreError ModelConfig
  | some model => .ok model
  | none => .error .notFound

/-- The answers that a catalogue and its rules give. -/
def catalogAnswers (catalog : Catalog) (rules : RuleStore) : Oracle lookups
  | .model id => modelAnswer (catalog.getModel id)
  | .rule kind model size quality resolution duration =>
    rules kind model size quality resolution duration

def rulesOf (f : Oracle lookups) : RuleStore := fun kind model size quality resolution duration =>
  f (.rule kind model size quality resolution duration)

/-- The estimate that the answers give. -/
def imageCost (f : Oracle lookups) (req : ImageEstimateRequest) :
    Except RequestError ImageEstimateResponse := (askImageCost req [] false).under f

section Under

variable {f : Oracle lookups}

theorem priced_bind {α β : Type} (x : Except PricingError α) (k : α → Except PricingError β) :
    priced (x >>= k) = priced x >>= fun a => priced (k a) := by
  cases x with
  | error e => rfl
  | ok a => rfl

theorem under_askImageForProvider (provider : String) (request : ImageRequest) :
    (askImageForProvider provider request).under f =
      priced (imageForProvider (rulesOf f) provider request) := by
  unfold askImageForProvider imageForProvider askRule
  simp only [Asking.under_bind, Asking.under_liftExcept, priced_bind]
  rfl

/-- Over a catalogue these are the estimates of the endpoint. -/
theorem imageCost_catalog (catalog : Catalog) (rules : RuleStore) (req : ImageEstimateRequest) :
    imageCost (catalogAnswers catalog rules) req = estimateImageCost catalog rules req [] false := by
  have hmodel (id : String) : (askModel id).under (catalogAnswers catalog rules) =
      found "unknown model" (catalog.getModel id) := by
    change readModel (modelAnswer (catalog.getModel id)) = _
    cases catalog.getModel id with
    | none => rfl
    | some model => rfl
  unfold imageCost askImageCost estimateImageCost
  simp only [Asking.under_bind, Asking.under_liftExcept, hmodel, under_askImageForProvider]
  rfl

end Under

/-! ### What the matrix is for -/

/-- A size with the estimate in every quality. -/
abbrev SizeCells := String × List (String × ImageEstimateResponse)

section Plain

variable (cost : ImageEstimateRequest → Except RequestError ImageEstimateResponse)
  (provider model : String)

def qualityCell (size quality : String) : Except RequestError (String × ImageEstimateResponse) := do
  let estimate ← cost (cellRequest provider model size quality)
  return (quality, estimate)

def sizeCells (qualities : List String) (size : String) : Except RequestError SizeCells :=
  if size = "" then invalidRequest "sizes cannot contain an empty value"
  else do
    let cells ← qualities.mapM (qualityCell cost provider model size)
    return (size, cells)

end Plain

/-- The tier and the anchor are those of the last quality. -/
def matrixRow (cells : SizeCells) : CostMatrixRow where
  size := cells.1
  costs := cells.2.map fun cell => (cell.1, cell.2.unitTokens)
  pricingTier := (cells.2.getLast?.map fun cell => cell.2.pricingTier).getD ""
  pricingAnchor := (cells.2.getLast?.map fun cell => cell.2.pricingAnchor).getD ""

def textsOf (text : ImageEstimateResponse → String) (table : List SizeCells) : Finset String :=
  ((table.flatMap Prod.snd).map fun cell => text cell.2).toFinset

/-- Every requested size once, in the order of the request. -/
def requestedSizes (req : CostMatrixRequest) : List String :=
  (req.sizes.map fun rawSize => toLower (trimSpace rawSize)).eraseDups

/-- The estimates one by one. -/
def plainMatrix (cost : ImageEstimateRequest → Except RequestError ImageEstimateResponse)
    (req : CostMatrixRequest) : Except RequestError CostMatrix := do
  let model := trimSpace req.model
  demand (model ≠ "") "model is required"
  demand (1 ≤ req.sizes.length && req.sizes.length ≤ 100)
    "sizes must contain between 1 and 100 entries"
  let qualities := matrixQualities model
  let table ← (requestedSizes req).mapM (sizeCells cost req.provider model qualities)
  return ⟨model, qualities, table.map matrixRow,
    (textsOf ImageEstimateResponse.priceVersion table).sort,
    (textsOf ImageEstimateResponse.source table).sort⟩

/-! ### The loops -/

/-- The state after these sizes. -/
def stateOf (table : List SizeCells) : MatrixState :=
  ⟨table.map Prod.fst, table.map matrixRow, textsOf ImageEstimateResponse.priceVersion table,
    textsOf ImageEstimateResponse.source table⟩

/-- The row of a size and the state after some of its qualities. -/
def within (table : List SizeCells) (size : String) (done : List (String × ImageEstimateResponse)) :
    CostMatrixRow × MatrixState :=
  (matrixRow (size, done), { stateOf (table ++ [(size, done)]) with rows := table.map matrixRow })

section Loops

variable {f : Oracle lookups} {provider model : String} {table : List SizeCells} {size : String}
  {done : List (String × ImageEstimateResponse)}

theorem textsOf_concat (text : ImageEstimateResponse → String) (quality : String)
    (estimate : ImageEstimateResponse) :
    textsOf text (table ++ [(size, done ++ [(quality, estimate)])]) =
      insert (text estimate) (textsOf text (table ++ [(size, done)])) := by
  ext t
  simp only [textsOf, List.flatMap_append, List.flatMap_singleton, List.map_append, List.map_cons,
    List.map_nil, List.mem_toFinset, List.mem_append, List.mem_singleton, Finset.mem_insert]
  tauto

theorem within_concat (quality : String) (estimate : ImageEstimateResponse) :
    within table size (done ++ [(quality, estimate)]) =
      ({ (within table size done).1 with
          costs := (within table size done).1.costs ++ [(quality, estimate.unitTokens)]
          pricingTier := estimate.pricingTier
          pricingAnchor := estimate.pricingAnchor },
        { (within table size done).2 with
          versions := insert estimate.priceVersion (within table size done).2.versions
          sources := insert estimate.source (within table size done).2.sources }) := by
  simp only [within, stateOf, matrixRow, textsOf_concat]
  simp

theorem under_priceQuality (quality : String) :
    (priceQuality provider model (within table size done) quality).under f =
      (qualityCell (imageCost f) provider model size quality).map fun cell =>
        within table size (done ++ [cell]) := by
  unfold priceQuality qualityCell
  rw [Asking.under_bind]
  change imageCost f (cellRequest provider model size quality) >>= _ = _
  cases imageCost f (cellRequest provider model size quality) with
  | error e => rfl
  | ok estimate => exact congrArg Except.ok (within_concat quality estimate).symm

theorem foldlM_priceQuality (qualities : List String) :
    qualities.foldlM (fun acc quality => (priceQuality provider model acc quality).under f)
      (within table size done) =
      (qualities.mapM (qualityCell (imageCost f) provider model size)).map fun cells =>
        within table size (done ++ cells) := by
  induction qualities generalizing done with
  | nil => simp [Except.map, pure, Except.pure]
  | cons quality qualities ih =>
    rw [List.foldlM_cons, under_priceQuality, List.mapM_cons]
    cases qualityCell (imageCost f) provider model size quality with
    | error e => rfl
    | ok cell =>
      change qualities.foldlM _ (within table size (done ++ [cell])) = _
      rw [ih]
      cases qualities.mapM (qualityCell (imageCost f) provider model size) with
      | error e => rfl
      | ok cells => exact congrArg (fun cells => Except.ok (within table size cells)) (by simp)

theorem within_nil : (⟨size, [], "", ""⟩,
    { stateOf table with seen := table.map Prod.fst ++ [size] }) = within table size [] := by
  simp [within, stateOf, matrixRow, textsOf]

theorem within_done : { (within table size done).2 with
    rows := (within table size done).2.rows ++ [(within table size done).1] } =
      stateOf (table ++ [(size, done)]) := by
  simp [within, stateOf]

theorem under_priceSize (qualities : List String) (rawSize : String)
    (hsize : size = toLower (trimSpace rawSize)) :
    (priceSize provider model qualities (stateOf table) rawSize).under f =
      if size = "" then invalidRequest "sizes cannot contain an empty value"
      else if (table.map Prod.fst).contains size then .ok (stateOf table)
      else (sizeCells (imageCost f) provider model qualities size).map fun cells =>
        stateOf (table ++ [cells]) := by
  have hseen : (stateOf table).seen = table.map Prod.fst := rfl
  unfold priceSize
  rw [← hsize, hseen]
  dsimp only
  split_ifs with hempty
  · rfl
  · rfl
  · rw [within_nil, Asking.under_bind, Asking.under_foldlM, foldlM_priceQuality, sizeCells,
      if_neg hempty]
    cases qualities.mapM (qualityCell (imageCost f) provider model size) with
    | error e => rfl
    | ok cells => exact congrArg Except.ok within_done

theorem sizeCells_fst {cost : ImageEstimateRequest → Except RequestError ImageEstimateResponse}
    {qualities : List String} {cells : SizeCells}
    (h : sizeCells cost provider model qualities size = .ok cells) : cells.1 = size := by
  unfold sizeCells at h
  split_ifs at h
  obtain ⟨rows, -, hcells⟩ := bind_eq_ok.mp h
  injection hcells with hcells
  rw [← hcells]

/-- The loop over the sizes skips those that the table has already. -/
theorem foldlM_priceSize (qualities sizes : List String) (htable : "" ∉ table.map Prod.fst) :
    sizes.foldlM (fun state rawSize => (priceSize provider model qualities state rawSize).under f)
      (stateOf table) =
      (((sizes.map fun rawSize => toLower (trimSpace rawSize)).filter fun size =>
        !(table.map Prod.fst).contains size).eraseDups.mapM
          (sizeCells (imageCost f) provider model qualities)).map fun rest =>
            stateOf (table ++ rest) := by
  induction sizes generalizing table with
  | nil => simp [Except.map, pure, Except.pure]
  | cons rawSize sizes ih =>
    rw [List.foldlM_cons, under_priceSize qualities rawSize rfl, List.map_cons, List.filter_cons]
    generalize toLower (trimSpace rawSize) = size
    by_cases hempty : size = ""
    · rw [if_pos hempty, if_pos (by simpa [hempty] using htable), List.eraseDups_cons,
        List.mapM_cons, sizeCells, if_pos hempty]
      rfl
    · rw [if_neg hempty]
      by_cases hseen : (table.map Prod.fst).contains size = true
      · rw [if_pos hseen, if_neg (by simp only [hseen]; decide)]
        exact ih htable
      · rw [if_neg hseen, if_pos (by simpa using hseen), List.eraseDups_cons, List.mapM_cons]
        cases hcells : sizeCells (imageCost f) provider model qualities size with
        | error e => rfl
        | ok cells =>
          have hfst : cells.1 = size := sizeCells_fst hcells
          have hnew : "" ∉ (table ++ [cells]).map Prod.fst := by
            simpa [hfst, Ne.symm hempty] using htable
          have hfilter : ((sizes.map fun rawSize => toLower (trimSpace rawSize)).filter fun size =>
              !((table ++ [cells]).map Prod.fst).contains size) =
              (((sizes.map fun rawSize => toLower (trimSpace rawSize)).filter fun size =>
                !(table.map Prod.fst).contains size).filter fun other => !other == size) := by
            rw [List.filter_filter]
            apply List.filter_congr
            intro other _
            rw [List.map_append, List.map_singleton, hfst, Bool.eq_iff_iff]
            simp only [List.contains_eq_mem, List.mem_append, List.mem_singleton, Bool.and_eq_true,
              Bool.not_eq_true', decide_eq_false_iff_not, beq_eq_false_iff_ne]
            tauto
          change sizes.foldlM _ (stateOf (table ++ [cells])) = _
          rw [ih hnew, hfilter]
          cases (List.eraseDups _).mapM (sizeCells (imageCost f) provider model qualities) with
          | error e => rfl
          | ok rest => exact congrArg (fun table => Except.ok (stateOf table)) (by simp)

theorem under_estimateImageCostMatrix (req : CostMatrixRequest) :
    (estimateImageCostMatrix req).under f = plainMatrix (imageCost f) req := by
  have hloop : req.sizes.foldlM (fun state rawSize => (priceSize req.provider
      (trimSpace req.model) (matrixQualities (trimSpace req.model)) state rawSize).under f)
      (stateOf []) = ((requestedSizes req).mapM (sizeCells (imageCost f) req.provider
        (trimSpace req.model) (matrixQualities (trimSpace req.model)))).map stateOf := by
    rw [foldlM_priceSize _ _ (by simp)]
    simp [requestedSizes]
  unfold estimateImageCostMatrix plainMatrix
  simp only [Asking.under_bind, Asking.under_liftExcept]
  rw [Asking.under_foldlM]
  change (demand _ _ >>= fun _ => demand _ _ >>= fun _ => List.foldlM _ (stateOf []) req.sizes >>= _) = _
  rw [hloop]
  cases (requestedSizes req).mapM (sizeCells (imageCost f) req.provider (trimSpace req.model)
    (matrixQualities (trimSpace req.model))) with
  | error e => rfl
  | ok table => rfl

end Loops

/-! ### Over a store that changes -/

theorem askRule_givesUp (kind model size quality resolution : String) (duration : ℤ) :
    (askRule kind model size quality resolution duration).GivesUp cached := by
  apply Asking.GivesUp.ask
  intro r hr
  cases r with
  | ok rule => cases hr
  | error err => cases err <;> exact ⟨_, rfl⟩

theorem askModel_givesUp (id : String) : (askModel id).GivesUp cached := by
  apply Asking.GivesUp.ask
  intro r hr
  cases r with
  | ok model => cases hr
  | error err => cases err <;> exact ⟨_, rfl⟩

theorem askImageForProvider_givesUp (provider : String) (request : ImageRequest) :
    (askImageForProvider provider request).GivesUp cached := by
  apply (Asking.GivesUp.lift _).bind
  intro size
  apply (askRule_givesUp _ _ _ _ _ _).bind
  intro rule
  apply (Asking.GivesUp.lift _).bind
  intro unitTokens
  exact Asking.GivesUp.pure _

theorem askImageCost_givesUp (req : ImageEstimateRequest) (allowedModels : List String)
    (enforceAPIKeyModels : Bool) :
    (askImageCost req allowedModels enforceAPIKeyModels).GivesUp cached := by
  apply (Asking.GivesUp.lift _).bind
  intro normalized
  apply (Asking.GivesUp.lift _).bind
  intro _
  apply (askModel_givesUp _).bind
  intro model
  apply (Asking.GivesUp.lift _).bind
  intro _
  apply (Asking.GivesUp.lift _).bind
  intro _
  apply (askImageForProvider_givesUp _ _).bind
  intro estimate
  exact Asking.GivesUp.pure _

theorem priceQuality_givesUp (provider model : String) (acc : CostMatrixRow × MatrixState)
    (quality : String) : (priceQuality provider model acc quality).GivesUp cached := by
  apply (askImageCost_givesUp _ _ _).bind
  intro estimate
  exact Asking.GivesUp.pure _

theorem priceSize_givesUp (provider model : String) (qualities : List String)
    (state : MatrixState) (rawSize : String) :
    (priceSize provider model qualities state rawSize).GivesUp cached := by
  unfold priceSize
  generalize toLower (trimSpace rawSize) = size
  by_cases hempty : size = ""
  · rw [if_pos hempty]
    exact Asking.GivesUp.lift _
  rw [if_neg hempty]
  by_cases hseen : state.seen.contains size = true
  · rw [if_pos hseen]
    exact Asking.GivesUp.pure _
  rw [if_neg hseen]
  apply Asking.GivesUp.bind
  · apply Asking.GivesUp.foldlM
    intro acc quality
    exact priceQuality_givesUp provider model acc quality
  · intro done
    exact Asking.GivesUp.pure _

theorem estimateImageCostMatrix_givesUp (req : CostMatrixRequest) :
    (estimateImageCostMatrix req).GivesUp cached := by
  unfold estimateImageCostMatrix
  refine Asking.GivesUp.bind (Asking.GivesUp.lift _) fun _ => ?_
  refine Asking.GivesUp.bind (Asking.GivesUp.lift _) fun _ => ?_
  refine Asking.GivesUp.bind ?_ fun state => Asking.GivesUp.pure _
  apply Asking.GivesUp.foldlM
  exact priceSize_givesUp _ _ _

/-- The store may answer differently from one read to the next. The matrix is that of one table of
answers, each of which the store gives at some time: every requested size once, in every quality
the estimate under these answers, and the first error of an estimate if there is one. -/
theorem estimateImageCostMatrix_consistent {σ : Type} (source : Source lookups σ) (now : σ)
    (req : CostMatrixRequest) :
    ∃ f : Oracle lookups, (∀ op, ∃ s, f op = (source op s).1) ∧
      (estimateImageCostMatrix req).run.remembering cached source (fun _ => none) now =
        plainMatrix (imageCost f) req := by
  obtain ⟨f, hf, hresult⟩ := Prog.remembering_eq (estimateImageCostMatrix_givesUp req).run
    (fun _ => none) now
  refine ⟨f, fun op => hf.given op rfl, ?_⟩
  rw [hresult]
  exact under_estimateImageCostMatrix req

end GenerationGateway.Estimates

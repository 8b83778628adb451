import GenerationGateway.Store.Schema

/-!
# Model cost rules

The rules that price a request. The unique indexes and the CHECK constraints of the table
are a field of it, so a statement that would break one fails, and the operations of the
store are transactions: a failed one leaves the table as it was.
-/

namespace GenerationGateway.Pricing

open Relational

/-- The option tuple that a rule prices. -/
structure Options where
  providerID : String
  kind : String
  model : String
  size : String
  quality : String
  resolution : String
  duration : ℤ
  deriving DecidableEq, Repr

/-- What a rule says: the columns that identify a price and the price. -/
structure Definition where
  options : Options
  unitTokens : ℤ
  priceVersion : String
  source : String
  deriving DecidableEq, Repr

structure ModelCostRule extends Definition where
  id : ℤ
  enabled : Bool
  drifted : Bool
  updatedAt : Time
  deriving DecidableEq, Repr

instance : Keyed ℤ ModelCostRule := ⟨ModelCostRule.id⟩

@[simp] theorem key_modelCostRule (r : ModelCostRule) : Keyed.key r = r.id := rfl

namespace ModelCostRule

/-- `enabled=true AND drifted=false`. -/
def active (r : ModelCostRule) : Bool := r.enabled && !r.drifted

/-- The CHECK constraints of a row. -/
def checked (r : ModelCostRule) : Bool :=
  ["image", "video", "audio"].contains r.options.kind && decide (0 ≤ r.options.duration) &&
    decide (0 ≤ r.unitTokens)

/-- A rule without a provider is one of Leonardo. -/
def withProvider (r : ModelCostRule) : ModelCostRule :=
  if r.options.providerID = "" then { r with options.providerID := "leonardo" } else r

/-- `UPDATE … SET enabled=false,updated_at=now()`. -/
def disabledAt (now : Time) (r : ModelCostRule) : ModelCostRule :=
  { r with enabled := false, updatedAt := now }

end ModelCostRule

/-- Two rules are versions of one price. -/
def Definition.sameVersion (d e : Definition) : Bool :=
  d.options = e.options && d.priceVersion = e.priceVersion

/-- `model_cost_rules_provider_version_key`, `model_cost_rules_one_enabled_idx` and the
CHECK constraints. -/
structure Constraints (rows : List ModelCostRule) : Prop where
  checked : ∀ r ∈ rows, r.checked = true
  versions : ∀ r ∈ rows, ∀ s ∈ rows, r.sameVersion s.toDefinition = true → r = s
  oneEnabled : ∀ r ∈ rows, ∀ s ∈ rows,
    r.enabled = true → s.enabled = true → r.options = s.options → r = s

instance (rows : List ModelCostRule) : Decidable (Constraints rows) :=
  decidable_of_iff
    ((∀ r ∈ rows, r.checked = true) ∧
      (∀ r ∈ rows, ∀ s ∈ rows, r.sameVersion s.toDefinition = true → r = s) ∧
      ∀ r ∈ rows, ∀ s ∈ rows, r.enabled = true → s.enabled = true → r.options = s.options → r = s)
    ⟨fun ⟨h, h', h''⟩ => ⟨h, h', h''⟩, fun ⟨h, h', h''⟩ => ⟨h, h', h''⟩⟩

/-- The table with the sequence of its ids. -/
structure CostRules where
  rules : Table ModelCostRule
  nextID : ℤ
  issued : ∀ r ∈ rules.rows, r.id < nextID
  constraints : Constraints rules.rows

inductive StoreError
  | notFound
  /-- A unique violation or a failed CHECK. -/
  | refused
  /-- The connection or the context ended before the commit. -/
  | unreachable
  deriving DecidableEq, Repr

/-- The statements of one transaction. -/
abbrev Tx := StateT CostRules (Except StoreError)

/-- A transaction whose commit is reached or not; its writes stay only if it commits. -/
def transaction {α : Type} (body : Tx α) (reached : Bool) (db : CostRules) :
    Except StoreError α × CostRules :=
  match body.run db with
  | .ok (a, db') => if reached then (.ok a, db') else (.error .unreachable, db)
  | .error err => (.error err, db)

namespace CostRules

/-- `SELECT … WHERE enabled=true AND drifted=false`: the rules that admission can use. -/
def active (db : CostRules) : List ModelCostRule := db.rules.select ModelCostRule.active

/-- `UPDATE model_cost_rules SET f WHERE p`. -/
def update (p : ModelCostRule → Bool) (f : ModelCostRule → ModelCostRule)
    (hf : ∀ r, (f r).id = r.id) : Tx Unit := fun db =>
  if h : Constraints (db.rules.updateWhere p f hf).rows then
    .ok ((), {
      db with
      rules := db.rules.updateWhere p f hf
      constraints := h
      issued := by
        intro r hr
        obtain ⟨s, hs, rfl⟩ := List.mem_map.mp hr
        split_ifs
        · exact (hf s).symm ▸ db.issued s hs
        · exact db.issued s hs })
  else .error .refused

theorem nextID_fresh (db : CostRules) : db.rules.get? db.nextID = none := by
  rw [Table.get?_eq_none_iff]
  intro hmem
  obtain ⟨r, hr, hkey⟩ := List.mem_map.mp hmem
  exact absurd (db.issued r hr) (by rw [← hkey]; exact lt_irrefl _)

/-- `INSERT INTO model_cost_rules … RETURNING …`. -/
def insert (rule : Definition) (enabled : Bool) (now : Time) : Tx ModelCostRule := fun db =>
  let row : ModelCostRule :=
    { rule with id := db.nextID, enabled := enabled, drifted := false, updatedAt := now }
  if h : Constraints (db.rules.rows ++ [row]) then
    .ok (row, {
      rules := ⟨db.rules.rows ++ [row], by
        rw [List.map_append, List.nodup_append]
        refine ⟨db.rules.nodup, by simp, ?_⟩
        intro a ha b hb hab
        simp only [List.map_cons, List.map_nil, List.mem_singleton] at hb
        exact Table.get?_eq_none_iff.mp db.nextID_fresh (by rw [hab, hb] at ha; exact ha)⟩
      nextID := db.nextID + 1
      constraints := h
      issued := by
        intro r hr
        rcases List.mem_append.mp hr with hr | hr
        · exact (db.issued r hr).trans (lt_add_one _)
        · rw [List.mem_singleton.mp hr]
          exact lt_add_one _ })
  else .error .refused

end CostRules

open CostRules

/-- `UPDATE … SET enabled=false,updated_at=now() WHERE p`. -/
def disable (p : ModelCostRule → Bool) (now : Time) : Tx Unit :=
  update p (ModelCostRule.disabledAt now) fun _ => rfl

/-! ### The operations of the store -/

/-- `ORDER BY updated_at DESC,id DESC LIMIT 1`. -/
def latest (rows : List ModelCostRule) : Option ModelCostRule :=
  rows.foldl (fun best r =>
    match best with
    | none => some r
    | some b =>
      if b.updatedAt < r.updatedAt ∨ b.updatedAt = r.updatedAt ∧ b.id < r.id then some r else best)
    none

def findProviderModelCostRule (options : Options) (db : CostRules) :
    Except StoreError ModelCostRule :=
  match latest (db.active.filter fun r => r.options = options) with
  | some rule => .ok rule
  | none => .error .notFound

def createModelCostRule (rule : ModelCostRule) (now : Time) : Tx ModelCostRule := do
  let rule := rule.withProvider
  if rule.enabled then
    disable (fun r => r.enabled && r.options = rule.options) now
  insert rule.toDefinition rule.enabled now

/-- The provider and kind whose snapshot a rule belongs to. -/
def scope (rule : ModelCostRule) : String × String :=
  (rule.withProvider.options.providerID, rule.options.kind)

/-- `INSERT … ON CONFLICT(provider_id,…,price_version) DO UPDATE SET …`. -/
def upsert (rule : ModelCostRule) (now : Time) : Tx Unit := do
  let db ← get
  if db.rules.rows.any fun r => r.sameVersion rule.toDefinition then
    if rule.checked then
      update (fun r => r.sameVersion rule.toDefinition)
        (fun r => { r with
          unitTokens := rule.unitTokens
          enabled := rule.enabled
          source := rule.source
          drifted := false
          updatedAt := now }) fun _ => rfl
    else throw .refused
  else
    let _ ← insert rule.toDefinition rule.enabled now

def disableScopes (now : Time) : List (String × String) → Tx Unit
  | [] => pure ()
  | current :: rest => do
    disable (fun r => r.enabled && r.options.providerID = current.1 && r.options.kind = current.2)
      now
    disableScopes now rest

def upsertAll (now : Time) : List ModelCostRule → Tx Unit
  | [] => pure ()
  | rule :: rest => do
    upsert rule.withProvider now
    upsertAll now rest

/-- The old rules stay for the history of the tasks, only the supplied ones are enabled. -/
def replaceModelCostRules (rules : List ModelCostRule) (now : Time) : Tx ℕ := do
  if rules.isEmpty then
    return 0
  disableScopes now (rules.map scope).dedup
  upsertAll now rules
  return rules.length

def updateModelCostRule (rule : ModelCostRule) (now : Time) : Tx ModelCostRule := do
  let db ← get
  match db.rules.get? rule.id with
  | none => throw .notFound
  | some existing =>
    let rule := if rule.options.providerID = "" then
      { rule with options.providerID := existing.options.providerID } else rule
    if existing.toDefinition = rule.toDefinition then
      if rule.enabled then
        disable (fun r => r.id ≠ rule.id && r.enabled && r.options = rule.options) now
      update (fun r => r.id = rule.id)
        (fun r => { r with enabled := rule.enabled, drifted := false, updatedAt := now })
        fun _ => rfl
      return { existing with enabled := rule.enabled, drifted := false, updatedAt := now }
    else
      disable (fun r => r.id = rule.id) now
      if rule.enabled then
        disable (fun r => r.enabled && r.options = rule.options) now
      insert rule.toDefinition rule.enabled now

end GenerationGateway.Pricing

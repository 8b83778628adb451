import GenerationGateway.Library.Reachability
import GenerationGateway.Pricing.Rules

/-!
# Versions of cost rules

What a rule row says never changes, except through a provider snapshot that names the
price version of a row already there. The admissions keep the id of the rule that priced
the task, so the row has to go on saying what the task was charged.
-/

namespace GenerationGateway.Pricing

open Relational Transitions CostRules

/-! ### What a transaction does to the rows -/

/-- The definition of every row moves by `g`. -/
def Moves {α : Type} (g : Definition → Definition) (m : Tx α) : Prop :=
  ∀ db a db', m.run db = .ok (a, db') → ∀ id r, db.rules.get? id = some r →
    ∃ r', db'.rules.get? id = some r' ∧ r'.toDefinition = g r.toDefinition

section Moves

variable {α β : Type} {g g' : Definition → Definition}

theorem run_bind {m : Tx α} {f : α → Tx β} {db db' : CostRules} {b : β}
    (h : (m >>= f).run db = .ok (b, db')) :
    ∃ a db₁, m.run db = .ok (a, db₁) ∧ (f a).run db₁ = .ok (b, db') := by
  rw [StateT.run_bind] at h
  cases hm : m.run db with
  | error err => rw [hm] at h; cases h
  | ok r =>
    rw [hm] at h
    exact ⟨r.1, r.2, rfl, h⟩

theorem moves_pure (a : α) : Moves id (pure a : Tx α) := by
  rintro db a db' h id r hr
  cases h
  exact ⟨r, hr, rfl⟩

theorem moves_throw (err : StoreError) : Moves g (throw err : Tx α) := by
  rintro db a db' h
  cases h

theorem Moves.bind {m : Tx α} {f : α → Tx β} (h : Moves g m) (h' : ∀ a, Moves g' (f a)) :
    Moves (g' ∘ g) (m >>= f) := by
  intro db b db' hrun id r hr
  obtain ⟨a, db₁, hm, hf⟩ := run_bind hrun
  obtain ⟨r₁, hr₁, hd₁⟩ := h db a db₁ hm id r hr
  obtain ⟨r₂, hr₂, hd₂⟩ := h' a db₁ b db' hf id r₁ hr₁
  exact ⟨r₂, hr₂, by rw [hd₂, hd₁]; rfl⟩

theorem moves_ite {p : Prop} [Decidable p] {m m' : Tx α} (h : Moves g m) (h' : Moves g m') :
    Moves g (if p then m else m') := by
  split_ifs
  · exact h
  · exact h'

theorem run_update {p : ModelCostRule → Bool} {f : ModelCostRule → ModelCostRule}
    {hf : ∀ r, (f r).id = r.id} {db db' : CostRules} {a : Unit}
    (h : (update p f hf).run db = .ok (a, db')) : db'.rules = db.rules.updateWhere p f hf := by
  simp only [StateT.run, update] at h
  split_ifs at h
  cases h
  rfl

theorem run_insert {rule : Definition} {enabled : Bool} {now : Time} {db db' : CostRules}
    {row : ModelCostRule} (h : (insert rule enabled now).run db = .ok (row, db')) :
    db'.rules.rows = db.rules.rows ++ [row] ∧ row.toDefinition = rule := by
  simp only [StateT.run, CostRules.insert] at h
  split_ifs at h
  cases h
  exact ⟨rfl, rfl⟩

theorem moves_update {p : ModelCostRule → Bool} {f : ModelCostRule → ModelCostRule}
    {hf : ∀ r, (f r).id = r.id}
    (hg : ∀ r, (if p r then f r else r).toDefinition = g r.toDefinition) :
    Moves g (update p f hf) := by
  intro db a db' h id r hr
  refine ⟨if p r then f r else r, ?_, hg r⟩
  rw [run_update h, Table.get?_updateWhere, hr]
  rfl

theorem moves_insert (rule : Definition) (enabled : Bool) (now : Time) :
    Moves id (insert rule enabled now) := by
  intro db row db' h id r hr
  refine ⟨r, ?_, rfl⟩
  unfold Table.get? at hr ⊢
  rw [(run_insert h).1, List.find?_append, hr]
  rfl

theorem moves_disable (p : ModelCostRule → Bool) (now : Time) : Moves id (disable p now) := by
  refine moves_update fun r => ?_
  split_ifs <;> rfl

/-- Statements that say the same of every row, before the rest. -/
theorem Moves.after {m : Tx α} {f : α → Tx β} (h : Moves id m) (h' : ∀ a, Moves g (f a)) :
    Moves g (m >>= f) :=
  h.bind h'

theorem moves_get : Moves id (get : Tx CostRules) := by
  rintro db a db' h id r hr
  cases h
  exact ⟨r, hr, rfl⟩

end Moves

theorem moves_create (rule : ModelCostRule) (now : Time) :
    Moves id (createModelCostRule rule now) := by
  unfold createModelCostRule
  refine moves_ite ?_ (moves_insert _ _ _)
  exact (moves_disable _ _).after fun _ => moves_insert _ _ _

theorem moves_updateRule (rule : ModelCostRule) (now : Time) :
    Moves id (updateModelCostRule rule now) := by
  have hset : ∀ (rule existing : ModelCostRule), Moves id (do
      update (fun r => r.id = rule.id)
        (fun r => { r with enabled := rule.enabled, drifted := false, updatedAt := now })
        fun _ => rfl
      return { existing with enabled := rule.enabled, drifted := false, updatedAt := now }) := by
    intro rule existing
    refine (moves_update fun r => ?_).after fun _ => moves_pure _
    split_ifs <;> rfl
  unfold updateModelCostRule
  refine moves_get.after fun db => ?_
  split
  · exact moves_throw _
  · refine moves_ite (moves_ite ?_ (hset _ _)) ((moves_disable _ _).after fun _ => ?_)
    · exact (moves_disable _ _).after fun _ => hset _ _
    · refine moves_ite ?_ (moves_insert _ _ _)
      exact (moves_disable _ _).after fun _ => moves_insert _ _ _

/-! ### Provider snapshots -/

/-- What a definition says after the upsert of a rule. -/
def Definition.repriced (d rule : Definition) : Definition := if d.sameVersion rule then rule else d

/-- What it says after the upserts of a snapshot. -/
def Definition.repricedAll (d : Definition) (rules : List ModelCostRule) : Definition :=
  rules.foldl (fun d rule => d.repriced rule.withProvider.toDefinition) d

theorem Definition.sameVersion_iff {d e : Definition} :
    d.sameVersion e = true ↔ d.options = e.options ∧ d.priceVersion = e.priceVersion := by
  simp [sameVersion]

theorem moves_upsert (rule : ModelCostRule) (now : Time) :
    Moves (Definition.repriced · rule.toDefinition) (upsert rule now) := by
  intro db a db' h id r hr
  obtain ⟨db₀, db₁, hget, hrun⟩ := run_bind h
  cases hget
  split_ifs at hrun with hany hchecked
  · refine moves_update (g := fun d => d.repriced rule.toDefinition) (fun s => ?_)
      db a db' hrun id r hr
    unfold Definition.repriced
    by_cases hsame : s.sameVersion rule.toDefinition = true
    · obtain ⟨hoptions, hversion⟩ := Definition.sameVersion_iff.mp hsame
      rw [if_pos hsame, if_pos hsame, hoptions, hversion]
    · rw [if_neg hsame, if_neg hsame]
  · cases hrun
  · obtain ⟨r', hr', hd⟩ := (moves_insert _ _ _).after (fun _ => moves_pure ()) db a db' hrun id r hr
    refine ⟨r', hr', hd.trans ?_⟩
    have hne : ¬ r.sameVersion rule.toDefinition = true := fun hsame =>
      hany (List.any_eq_true.mpr ⟨r, Table.mem_of_get? hr, hsame⟩)
    exact (if_neg hne).symm

theorem moves_disableScopes (now : Time) (scopes : List (String × String)) :
    Moves id (disableScopes now scopes) := by
  induction scopes with
  | nil => exact moves_pure ()
  | cons current rest ih => exact (moves_disable _ _).after fun _ => ih

theorem moves_upsertAll (now : Time) (rules : List ModelCostRule) :
    Moves (Definition.repricedAll · rules) (upsertAll now rules) := by
  induction rules with
  | nil => exact moves_pure ()
  | cons rule rest ih => exact (moves_upsert _ _).bind fun _ => ih

theorem moves_replace (rules : List ModelCostRule) (now : Time) :
    Moves (Definition.repricedAll · rules) (replaceModelCostRules rules now) := by
  unfold replaceModelCostRules
  cases rules with
  | nil => exact moves_pure 0
  | cons rule rest =>
    refine (moves_disableScopes _ _).after fun _ => ?_
    exact (moves_upsertAll now (rule :: rest)).bind fun _ => moves_pure _

/-- The last rule of a snapshot that names the version of a row decides what it says. -/
def lastVersion (d : Definition) (rules : List ModelCostRule) : Option Definition :=
  (rules.map fun rule => rule.withProvider.toDefinition).reverse.find? fun rule => d.sameVersion rule

theorem Definition.repricedAll_eq (d : Definition) (rules : List ModelCostRule) :
    d.repricedAll rules = (lastVersion d rules).getD d := by
  induction rules using List.reverseRecOn with
  | nil => rfl
  | append_singleton rules rule ih =>
    have hkeeps : ((lastVersion d rules).getD d).sameVersion rule.withProvider.toDefinition =
        d.sameVersion rule.withProvider.toDefinition := by
      cases hlast : lastVersion d rules with
      | none => rfl
      | some e =>
        have hsame := List.find?_some hlast
        obtain ⟨hoptions, hversion⟩ := Definition.sameVersion_iff.mp hsame
        simp only [Option.getD_some, Definition.sameVersion, hoptions, hversion]
    unfold repricedAll at ih ⊢
    rw [List.foldl_concat, ih, repriced, hkeeps]
    unfold lastVersion
    rw [List.map_append, List.reverse_append, List.map_singleton, List.reverse_singleton,
      List.singleton_append, List.find?_cons]
    cases d.sameVersion rule.withProvider.toDefinition <;> rfl

/-! ### Operations and admissions -/

/-- What an admitted task keeps of its estimate. -/
structure Charge where
  taskID : UUID
  pricingRuleID : ℤ
  price : Definition
  deriving DecidableEq

/-- The rules, the rows that requests under way have been priced with, and the tasks. -/
structure Ledger where
  db : CostRules
  quotes : List ModelCostRule
  charges : List Charge

def Ledger.initial (db : CostRules) : Ledger := ⟨db, [], []⟩

inductive Op
  | create (rule : ModelCostRule) (now : Time) (reached : Bool)
  | update (rule : ModelCostRule) (now : Time) (reached : Bool)
  | replace (rules : List ModelCostRule) (now : Time) (reached : Bool)
  | price (options : Options)
  | admission (taskID : UUID) (quote : ModelCostRule)

namespace Ledger

/-- `SELECT 1 FROM model_cost_rules WHERE id=$1 AND provider_id=$2 AND enabled=true AND
drifted=false`. -/
def costRuleExists (s : Ledger) (quote : ModelCostRule) : Bool :=
  (s.db.rules.get? quote.id).any fun r =>
    r.options.providerID = quote.options.providerID && r.active

/-- A failed operation leaves the rules alone, a refused admission leaves no task. -/
def step (s : Ledger) : Op → Option Ledger
  | .create rule now reached =>
    some { s with db := (transaction (createModelCostRule rule now) reached s.db).2 }
  | .update rule now reached =>
    some { s with db := (transaction (updateModelCostRule rule now) reached s.db).2 }
  | .replace rules now reached =>
    some { s with db := (transaction (replaceModelCostRules rules now) reached s.db).2 }
  | .price options =>
    match findProviderModelCostRule options s.db with
    | .ok rule => some { s with quotes := rule :: s.quotes }
    | .error _ => some s
  | .admission taskID quote =>
    if quote ∈ s.quotes then
      if s.costRuleExists quote then
        some { s with charges := ⟨taskID, quote.id, quote.toDefinition⟩ :: s.charges }
      else some s
    else none

/-- A snapshot reprices no row: the last of its rules that names the version of a row says
what the row says. -/
def keepsPrices (s : Ledger) : Op → Bool
  | .replace rules _ _ =>
    s.db.rules.rows.all fun r => (lastVersion r.toDefinition rules).all fun rule =>
      rule.unitTokens = r.unitTokens && rule.source = r.source
  | _ => true

end Ledger

def pricing : LTS Ledger Op := LTS.ofStep Ledger.step

/-- The runs in which no snapshot reprices a row. -/
def keptPricing : LTS Ledger Op := pricing.restrict fun s op => s.keepsPrices op = true

/-- The row under this id says this. -/
def CostRules.Says (db : CostRules) (id : ℤ) (d : Definition) : Prop :=
  ∃ r, db.rules.get? id = some r ∧ r.toDefinition = d

instance (db : CostRules) (id : ℤ) (d : Definition) : Decidable (db.Says id d) :=
  decidable_of_iff ((db.rules.get? id).any fun r => r.toDefinition = d) (by
    simp [CostRules.Says, Option.any_eq_true])

/-- No row says anything else than before. -/
def CostRules.Keeps (db db' : CostRules) : Prop := ∀ id d, db.Says id d → db'.Says id d

theorem keeps_of_moves {α : Type} {g : Definition → Definition} {m : Tx α} (h : Moves g m)
    (reached : Bool) {db : CostRules} (hg : ∀ r ∈ db.rules.rows, g r.toDefinition = r.toDefinition) :
    db.Keeps (transaction m reached db).2 := by
  rintro id d ⟨r, hr, hd⟩
  unfold transaction
  split
  · next a db' hrun =>
    cases reached with
    | false => exact ⟨r, hr, hd⟩
    | true =>
      obtain ⟨r', hr', hd'⟩ := h db a db' hrun id r hr
      exact ⟨r', hr', by rw [hd', hg r (Table.mem_of_get? hr), hd]⟩
  · exact ⟨r, hr, hd⟩

theorem repricedAll_of_keepsPrices {s : Ledger} {rules : List ModelCostRule} {now : Time}
    {reached : Bool} (h : s.keepsPrices (.replace rules now reached) = true) :
    ∀ r ∈ s.db.rules.rows, r.repricedAll rules = r.toDefinition := by
  intro r hr
  rw [Definition.repricedAll_eq]
  cases hlast : lastVersion r.toDefinition rules with
  | none => rfl
  | some rule =>
    have hall := List.all_eq_true.mp h r hr
    rw [hlast, Option.all_some, Bool.and_eq_true] at hall
    obtain ⟨htokens, hsource⟩ := hall.imp of_decide_eq_true of_decide_eq_true
    have hsame := List.find?_some hlast
    obtain ⟨hoptions, hversion⟩ := Definition.sameVersion_iff.mp hsame
    rw [Option.getD_some]
    cases rule
    simp only at htokens hsource hoptions hversion
    subst htokens hsource
    rw [← hoptions, ← hversion]

/-- A transaction on the rules under the condition. -/
theorem step_keeps {s s' : Ledger} {op : Op} (h : s.step op = some s') (hop : s.keepsPrices op = true) :
    s.db.Keeps s'.db := by
  cases op with
  | create rule now reached =>
    cases h
    exact keeps_of_moves (moves_create rule now) reached fun _ _ => rfl
  | update rule now reached =>
    cases h
    exact keeps_of_moves (moves_updateRule rule now) reached fun _ _ => rfl
  | replace rules now reached =>
    cases h
    exact keeps_of_moves (moves_replace rules now) reached (repricedAll_of_keepsPrices hop)
  | price options =>
    simp only [Ledger.step] at h
    split at h <;> (cases h; exact fun _ _ h => h)
  | admission taskID quote =>
    simp only [Ledger.step] at h
    split_ifs at h <;> (cases h; exact fun _ _ h => h)

theorem mem_of_latest {rows : List ModelCostRule} {r : ModelCostRule} (h : latest rows = some r) :
    r ∈ rows := by
  induction rows using List.reverseRecOn generalizing r with
  | nil => cases h
  | append_singleton rows s ih =>
    unfold latest at h ih
    rw [List.foldl_concat] at h
    cases hbest : rows.foldl _ none with
    | none =>
      rw [hbest] at h
      cases h
      simp
    | some b =>
      rw [hbest] at h
      dsimp only at h
      split_ifs at h
      · cases h
        simp
      · exact List.mem_append_left _ (ih (hbest.trans h))

theorem quoted_of_find {options : Options} {db : CostRules} {rule : ModelCostRule}
    (h : findProviderModelCostRule options db = .ok rule) :
    db.Says rule.id rule.toDefinition := by
  unfold findProviderModelCostRule at h
  split at h
  · next r hr =>
    cases h
    have hmem := (List.mem_filter.mp (mem_of_latest hr)).1
    exact ⟨rule, Table.get?_of_mem (List.mem_filter.mp hmem).1, rfl⟩
  · cases h

/-- The rows still say what the requests and the tasks were priced with. -/
structure Ledger.Described (s : Ledger) : Prop where
  quotes : ∀ quote ∈ s.quotes, s.db.Says quote.id quote.toDefinition
  charges : ∀ charge ∈ s.charges, s.db.Says charge.pricingRuleID charge.price

theorem Ledger.Described.of_keeps {s s' : Ledger} (h : s.Described) (hkeeps : s.db.Keeps s'.db)
    (hquotes : s'.quotes = s.quotes) (hcharges : s'.charges = s.charges) : s'.Described where
  quotes := fun quote hquote => hkeeps _ _ (h.quotes quote (hquotes ▸ hquote))
  charges := fun charge hcharge => hkeeps _ _ (h.charges charge (hcharges ▸ hcharge))

theorem step_described {s s' : Ledger} {op : Op} (h : s.step op = some s')
    (hop : s.keepsPrices op = true) (hs : s.Described) : s'.Described := by
  have hkeeps := step_keeps h hop
  cases op with
  | create rule now reached =>
    cases h
    exact hs.of_keeps hkeeps rfl rfl
  | update rule now reached =>
    cases h
    exact hs.of_keeps hkeeps rfl rfl
  | replace rules now reached =>
    cases h
    exact hs.of_keeps hkeeps rfl rfl
  | price options =>
    simp only [Ledger.step] at h
    split at h
    · next rule hfind =>
      cases h
      exact ⟨List.forall_mem_cons.mpr ⟨quoted_of_find hfind, hs.quotes⟩, hs.charges⟩
    · cases h
      exact hs
  | admission taskID quote =>
    simp only [Ledger.step] at h
    split_ifs at h with hquote
    · cases h
      exact ⟨hs.quotes, List.forall_mem_cons.mpr ⟨hs.quotes quote hquote, hs.charges⟩⟩
    · cases h
      exact hs

theorem run_keeps {s s' : Ledger} {ops : List Op}
    (h : keptPricing.Run s ops s') : s.db.Keeps s'.db := by
  refine LTS.Run.invariant (I := fun t => s.db.Keeps t.db) ?_ h fun _ _ hd => hd
  intro t op t' hstep ht id d hd
  exact step_keeps hstep.1 hstep.2 id d (ht id d hd)

theorem run_described {db : CostRules} {s : Ledger} {ops : List Op}
    (h : keptPricing.Run (.initial db) ops s) : s.Described := by
  refine LTS.Run.invariant ?_ h ⟨List.forall_mem_nil _, List.forall_mem_nil _⟩
  intro t op t' hstep ht
  exact step_described hstep.1 hstep.2 ht

/-- The index leaves one enabled rule for each tuple. -/
theorem enabled_le_one (db : CostRules) (options : Options) :
    (db.rules.count fun r => r.enabled && r.options = options) ≤ 1 := by
  unfold Table.count
  rw [List.countP_eq_length_filter]
  have hnodup : (db.rules.rows.filter fun r => r.enabled && r.options = options).Nodup :=
    (List.Nodup.of_map _ db.rules.nodup).filter _
  have hmem : ∀ r ∈ db.rules.rows.filter fun r => r.enabled && r.options = options,
      r ∈ db.rules.rows ∧ r.enabled = true ∧ r.options = options := by
    intro r hr
    simpa using List.mem_filter.mp hr
  cases hrows : db.rules.rows.filter fun r => r.enabled && r.options = options with
  | nil => exact Nat.zero_le _
  | cons r rest =>
    cases rest with
    | nil => exact le_rfl
    | cons s rest =>
      rw [hrows] at hnodup hmem
      obtain ⟨hr, hre, hro⟩ := hmem r (by simp)
      obtain ⟨hs, hse, hso⟩ := hmem s (by simp)
      have hsame : r = s := db.constraints.oneEnabled r hr s hs hre hse (hro.trans hso.symm)
      simp [hsame] at hnodup

/-- Along every run of operations and admissions in which no snapshot reprices a row, a row
says what it said when it was created, the rule of a task says what the task was charged,
and one rule at most is enabled for a tuple. -/
theorem costRules_immutable {db : CostRules} {s s' : Ledger} {ops ops' : List Op}
    (hbefore : keptPricing.Run (.initial db) ops s)
    (hafter : keptPricing.Run s ops' s') :
    (∀ r ∈ s.db.rules.rows, s'.db.Says r.id r.toDefinition) ∧
    (∀ charge ∈ s'.charges, s'.db.Says charge.pricingRuleID charge.price) ∧
    ∀ options, (s'.db.rules.count fun r => r.enabled && r.options = options) ≤ 1 := by
  refine ⟨fun r hr => ?_, ?_, enabled_le_one s'.db⟩
  · exact run_keeps hafter r.id r.toDefinition ⟨r, Table.get?_of_mem hr, rfl⟩
  · have hall : keptPricing.Run (.initial db) (ops ++ ops') s' :=
      (LTS.run_append _).mpr ⟨s, hbefore, hafter⟩
    exact (run_described hall).charges

/-- A price of one video model. -/
def samplePrice (tokens : ℤ) (version : String) : ModelCostRule where
  options := ⟨"creativefabrica", "video", "pika_v2_5", "", "", "720p", 5⟩
  unitTokens := tokens
  priceVersion := version
  source := "creativefabrica-preset"
  id := 0
  enabled := true
  drifted := false
  updatedAt := 0

def noRules : CostRules := ⟨.empty, 1, by simp [Table.empty], ⟨by simp [Table.empty], by
  simp [Table.empty], by simp [Table.empty]⟩⟩

/-- A price is created, a task is admitted with it and a snapshot brings a price. -/
def snapshotRun (version : String) : List Op :=
  [.create (samplePrice 40 "v1") 10 true,
    .price (samplePrice 40 "v1").options,
    .admission 7 { samplePrice 40 "v1" with id := 1, updatedAt := 10 },
    .replace [samplePrice 60 version] 20 true]

theorem costRules_immutable_snapshot :
    ∃ s : Ledger, s.charges.map Charge.taskID = [7] ∧
      ∀ charge ∈ s.charges, s.db.Says charge.pricingRuleID charge.price := by
  have hrun : (LTS.follow Ledger.step Ledger.keepsPrices (.initial noRules)
      (snapshotRun "v2")).map (fun s => s.charges.map Charge.taskID) = some [7] := by
    decide +kernel
  obtain ⟨s, hs, hcharges⟩ := Option.map_eq_some_iff.mp hrun
  have hafter : keptPricing.Run s [] s := rfl
  exact ⟨s, hcharges, (costRules_immutable (LTS.run_of_follow hs) hafter).2.1⟩

/-- A snapshot under a version that is there already reprices the row of a charged task. -/
theorem costRules_repriced :
    ¬ ∀ s, pricing.Reachable (.initial noRules) s →
      ∀ charge ∈ s.charges, s.db.Says charge.pricingRuleID charge.price := by
  intro h
  have hrun : (LTS.follow Ledger.step (fun _ _ => true) (.initial noRules)
      (snapshotRun "v1")).map (fun s => s.charges.all fun charge =>
        decide (s.db.Says charge.pricingRuleID charge.price)) = some false := by
    decide +kernel
  obtain ⟨s, hs, hcharges⟩ := Option.map_eq_some_iff.mp hrun
  have hall : (s.charges.all fun charge =>
      decide (s.db.Says charge.pricingRuleID charge.price)) = true :=
    List.all_eq_true.mpr fun charge hcharge =>
      decide_eq_true (h s ⟨_, (LTS.run_of_follow hs).of_restrict⟩ charge hcharge)
  rw [hall] at hcharges
  cases hcharges

end GenerationGateway.Pricing

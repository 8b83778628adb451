import GenerationGateway.Library.Checks
import GenerationGateway.Pricing.Candidates

/-!
# The expansion is the product

Every assignment of the options becomes a candidate, or the expansion fails; quotes of one
local price become one rule, or the building fails.
-/

namespace GenerationGateway.Pricing

open Documents Text Choices

variable {fmt : Formats} {model : CatalogueModel} {kind publicModel : String}

/-- The domains of the options as they are sent. -/
def domains (fmt : Formats) (model : CatalogueModel) (kind : String) (names : List String) :
    List (String × List Value) :=
  names.map fun name =>
    (name, (creativeFabricaOptionValues fmt model name kind).map Value.normalize)

/-- The product of the sizes of the domains. -/
def combinationCount (fmt : Formats) (model : CatalogueModel) (kind : String)
    (names : List String) : ℕ :=
  (names.map fun name => (creativeFabricaOptionValues fmt model name kind).length).prod

/-- Every option has a value of its domain. -/
def IsAssignment (fmt : Formats) (model : CatalogueModel) (kind : String)
    (options : Assignment String Value) : Prop :=
  List.Forall₂ (fun entry name => entry.1 = name ∧
      ∃ value ∈ creativeFabricaOptionValues fmt model name kind, entry.2 = value.normalize)
    options (pricingNames fmt model)

/-- Two assignments are sent as the same JSON. -/
def SameOptions (a b : Assignment String Value) : Prop :=
  ∃ fields fields', encodeOptions a = some fields ∧ encodeOptions b = some fields' ∧
    sameFields fields fields' = true

/-! ### The domains -/

theorem one_le_combinationCount {names : List String}
    (h : ∀ name ∈ names, creativeFabricaOptionValues fmt model name kind ≠ []) :
    1 ≤ combinationCount fmt model kind names := by
  apply List.one_le_prod
  intro size hsize
  obtain ⟨name, hname, rfl⟩ := List.mem_map.mp hsize
  exact List.length_pos_iff.mpr (h name hname)

theorem optionSets_eq_ok {names : List String} {count : ℕ} {sets : List (List Value)}
    (hcount : count ≤ creativeFabricaMaxPricingComb) :
    optionSets fmt model kind publicModel names count = .ok sets ↔
      ((∀ name ∈ names, creativeFabricaOptionValues fmt model name kind ≠ []) ∧
        count * combinationCount fmt model kind names ≤ creativeFabricaMaxPricingComb) ∧
      sets = names.map fun name => creativeFabricaOptionValues fmt model name kind := by
  induction names generalizing count sets with
  | nil =>
    rw [optionSets, Except.ok.injEq, combinationCount, List.map_nil, List.map_nil, List.prod_nil,
      Nat.mul_one]
    constructor
    · rintro rfl
      exact ⟨⟨fun name hname => absurd hname List.not_mem_nil, hcount⟩, rfl⟩
    · rintro ⟨-, rfl⟩
      rfl
  | cons name names ih =>
    rw [optionSets]
    generalize hvalues : creativeFabricaOptionValues fmt model name kind = values
    have hprod : combinationCount fmt model kind (name :: names) =
        values.length * combinationCount fmt model kind names := by
      rw [combinationCount, List.map_cons, List.prod_cons, hvalues]
      rfl
    rw [hprod, ← Nat.mul_assoc, List.forall_mem_cons, hvalues, List.map_cons, hvalues]
    split_ifs with hempty hlimit
    · have hnil : values = [] := List.length_eq_zero_iff.mp hempty
      simp [hnil]
    · have hpos : 0 < values.length := Nat.pos_of_ne_zero hempty
      have hover : creativeFabricaMaxPricingComb < count * values.length := by
        by_contra hle
        exact not_le.mpr hlimit ((Nat.le_div_iff_mul_le hpos).mpr (not_lt.mp hle))
      constructor
      · intro h
        cases h
      · rintro ⟨⟨⟨-, hrest⟩, hle⟩, -⟩
        -- The other domains are not empty, so the product is at least this part of it.
        have hone := one_le_combinationCount hrest
        have hmul := Nat.mul_le_mul_left (count * values.length) hone
        omega
    · have hpos : 0 < values.length := Nat.pos_of_ne_zero hempty
      have hle : count * values.length ≤ creativeFabricaMaxPricingComb :=
        (Nat.le_div_iff_mul_le hpos).mp (not_lt.mp hlimit)
      have hne : values ≠ [] := List.length_pos_iff.mp hpos
      rw [Checks.bind_eq_ok]
      constructor
      · rintro ⟨rest, hrest, hsets⟩
        obtain ⟨hdomains, rfl⟩ := (ih hle).mp hrest
        exact ⟨⟨⟨hne, hdomains.1⟩, hdomains.2⟩, (Except.ok.inj hsets).symm⟩
      · rintro ⟨⟨⟨-, hrest⟩, hproduct⟩, rfl⟩
        exact ⟨_, (ih hle).mpr ⟨⟨hrest, hproduct⟩, rfl⟩, rfl⟩

/-! ### The combinations -/

theorem pricingNames_nodup (fmt : Formats) (model : CatalogueModel) :
    (pricingNames fmt model).Nodup :=
  Merging.order_nodup _

theorem product_domains_length (names : List String) :
    (product (domains fmt model kind names)).length = combinationCount fmt model kind names := by
  rw [length_product, domains, List.map_map, combinationCount]
  congr 2
  funext name
  exact List.length_map _

/-- Within the limit the combinations are the product of the domains. -/
theorem cartesianPricingOptions_eq {names : List String} (hnames : names.Nodup)
    (hne : ∀ name ∈ names, creativeFabricaOptionValues fmt model name kind ≠ [])
    (hlimit : combinationCount fmt model kind names ≤ creativeFabricaMaxPricingComb) :
    (if cartesianPricingOptions names
        (names.map fun name => creativeFabricaOptionValues fmt model name kind)
        creativeFabricaMaxPricingComb = [] then [[]]
      else cartesianPricingOptions names
        (names.map fun name => creativeFabricaOptionValues fmt model name kind)
        creativeFabricaMaxPricingComb) = product (domains fmt model kind names) := by
  cases names with
  | nil => rfl
  | cons name names =>
    have hmapped : mapped Value.normalize ((name :: names).map fun name =>
        (name, creativeFabricaOptionValues fmt model name kind)) =
        domains fmt model kind (name :: names) := by
      rw [mapped, domains, List.map_map]
      rfl
    have hlength : (product (domains fmt model kind (name :: names))).length =
        combinationCount fmt model kind (name :: names) := product_domains_length _
    have hwalk : walk Value.normalize creativeFabricaMaxPricingComb
        ((name :: names).map fun name =>
          (name, creativeFabricaOptionValues fmt model name kind)) ([], []) =
        ([], [] ++ (product (domains fmt model kind (name :: names))).map fun a => [] ++ a) := by
      rw [← hmapped]
      apply walk_eq
      · rw [List.map_map]
        simpa [Function.comp_def] using hnames
      · exact fun _ _ => List.not_mem_nil
      · rw [hmapped, hlength, List.length_nil, Nat.zero_add]
        exact hlimit
    have hcombinations : cartesianPricingOptions (name :: names)
        ((name :: names).map fun name => creativeFabricaOptionValues fmt model name kind)
        creativeFabricaMaxPricingComb = product (domains fmt model kind (name :: names)) := by
      rw [cartesianPricingOptions, if_neg (by simp), ← List.map_prod_left_eq_zip, hwalk]
      simp
    have hfull : product (domains fmt model kind (name :: names)) ≠ [] := by
      intro hempty
      have hone := one_le_combinationCount hne
      rw [← hlength, hempty] at hone
      exact absurd hone (by decide)
    rw [hcombinations, if_neg hfull]

theorem creativeFabricaPricingCandidates_eq_ok {candidates : List Candidate} :
    creativeFabricaPricingCandidates fmt model kind publicModel = .ok candidates ↔
      ((∀ name ∈ pricingNames fmt model, creativeFabricaOptionValues fmt model name kind ≠ []) ∧
        combinationCount fmt model kind (pricingNames fmt model) ≤
          creativeFabricaMaxPricingComb) ∧
      candidates = dedupeCreativeFabricaCandidates
        ((product (domains fmt model kind (pricingNames fmt model))).filterMap
          (candidateOf fmt kind publicModel)) kind := by
  have hnodup := pricingNames_nodup fmt model
  unfold creativeFabricaPricingCandidates
  dsimp only
  rw [Checks.bind_eq_ok]
  simp only [optionSets_eq_ok (show 1 ≤ creativeFabricaMaxPricingComb by decide), Nat.one_mul,
    Except.ok.injEq]
  constructor
  · rintro ⟨sets, ⟨⟨hne, hlimit⟩, rfl⟩, rfl⟩
    rw [cartesianPricingOptions_eq hnodup hne hlimit]
    exact ⟨⟨hne, hlimit⟩, rfl⟩
  · rintro ⟨⟨hne, hlimit⟩, rfl⟩
    refine ⟨_, ⟨⟨hne, hlimit⟩, rfl⟩, ?_⟩
    rw [cartesianPricingOptions_eq hnodup hne hlimit]

theorem mem_product_domains {options : Assignment String Value} :
    options ∈ product (domains fmt model kind (pricingNames fmt model)) ↔
      IsAssignment fmt model kind options := by
  rw [mem_product, domains, List.forall₂_map_right_iff, IsAssignment]
  simp only [List.mem_map, eq_comm]

/-! ### The candidates -/

theorem candidateOf_options {options : Assignment String Value} {c : Candidate}
    (h : candidateOf fmt kind publicModel options = some c) : c.options = options := by
  unfold candidateOf at h
  dsimp only at h
  split_ifs at h <;> cases h <;> rfl

theorem candidateOf_isSome (options : Assignment String Value) :
    (candidateOf fmt kind publicModel options).isSome ↔
      (kind = "image" ∨ admittedVideo fmt publicModel options = true) := by
  unfold candidateOf
  by_cases himage : kind = "image"
  · rw [if_pos himage]
    exact iff_of_true rfl (.inl himage)
  · by_cases hadmitted : admittedVideo fmt publicModel options = true
    · rw [if_neg himage, if_pos hadmitted]
      exact iff_of_true rfl (.inr hadmitted)
    · rw [if_neg himage, if_neg hadmitted]
      exact iff_of_false (by simp) (by simp [himage, hadmitted])

theorem sameOptions_symm {a b : Assignment String Value} (h : SameOptions a b) :
    SameOptions b a := by
  obtain ⟨fields, fields', ha, hb, hsame⟩ := h
  exact ⟨fields', fields, hb, ha, sameFields_comm fields fields' ▸ hsame⟩

/-- What the expansion returns: assignments only, each of them, and none twice. An
assignment without an encoding is kept as often as the domains list it. -/
structure Expanded (fmt : Formats) (model : CatalogueModel) (kind publicModel : String)
    (candidates : List Candidate) : Prop where
  sound : ∀ c ∈ candidates, IsAssignment fmt model kind c.options ∧
    candidateOf fmt kind publicModel c.options = some c
  complete : ∀ options, IsAssignment fmt model kind options →
    (kind = "image" ∨ admittedVideo fmt publicModel options = true) →
    ∃ c ∈ candidates, c.options = options ∨ SameOptions c.options options
  distinct : candidates.Pairwise fun a b => ¬ SameOptions a.options b.options
  retained : (candidates.filter fun c => (encodeOptions c.options).isNone).Perm
    (((product (domains fmt model kind (pricingNames fmt model))).filterMap
      (candidateOf fmt kind publicModel)).filter fun c => (encodeOptions c.options).isNone)

theorem expanded_dedupe : Expanded fmt model kind publicModel
    (dedupeCreativeFabricaCandidates
      ((product (domains fmt model kind (pricingNames fmt model))).filterMap
        (candidateOf fmt kind publicModel)) kind) := by
  generalize hall : (product (domains fmt model kind (pricingNames fmt model))).filterMap
    (candidateOf fmt kind publicModel) = all
  have hmem (c : Candidate) : c ∈ all ↔ IsAssignment fmt model kind c.options ∧
      candidateOf fmt kind publicModel c.options = some c := by
    rw [← hall, List.mem_filterMap]
    constructor
    · rintro ⟨options, hoptions, hc⟩
      obtain rfl := candidateOf_options hc
      exact ⟨mem_product_domains.mp hoptions, hc⟩
    · rintro ⟨hoptions, hc⟩
      exact ⟨c.options, mem_product_domains.mpr hoptions, hc⟩
  have hperm : (dedupeCreativeFabricaCandidates all kind).Perm
      (firsts (fun c : Candidate => encodeOptions c.options) sameFields [] all) :=
    List.mergeSort_perm _ _
  refine ⟨?_, ?_, ?_, ?_⟩
  · intro c hc
    exact (hmem c).mp ((firsts_sublist _ _ _ _).subset (hperm.mem_iff.mp hc))
  · intro options hoptions hadmitted
    obtain ⟨c, hc⟩ := Option.isSome_iff_exists.mp ((candidateOf_isSome options).mpr hadmitted)
    obtain rfl := candidateOf_options hc
    have hin : c ∈ all := (hmem c).mpr ⟨hoptions, hc⟩
    cases hkey : encodeOptions c.options with
    | none =>
      have hkept : c ∈ all.filter fun c => (encodeOptions c.options).isNone :=
        List.mem_filter.mpr ⟨hin, by simp [hkey]⟩
      rw [← firsts_unkeyed (fun c : Candidate => encodeOptions c.options) sameFields []] at hkept
      exact ⟨c, hperm.mem_iff.mpr (List.mem_filter.mp hkept).1, .inl rfl⟩
    | some fields =>
      rcases firsts_covers (fun c : Candidate => encodeOptions c.options) sameFields
        sameFields_refl [] hin hkey with ⟨s, hs, -⟩ | ⟨c', hc', fields', hkey', hsame⟩
      · cases hs
      · exact ⟨c', hperm.mem_iff.mpr hc', .inr ⟨fields', fields, hkey', hkey, hsame⟩⟩
  · rw [hperm.pairwise_iff fun hab hba => hab (sameOptions_symm hba)]
    apply (firsts_pairwise _ _ _ _).imp
    rintro a b hdifferent ⟨fields, fields', ha, hb, hsame⟩
    rw [hdifferent fields fields' ha hb] at hsame
    cases hsame
  · have hfiltered := hperm.filter fun c => (encodeOptions c.options).isNone
    rw [firsts_unkeyed] at hfiltered
    rw [hall]
    exact hfiltered

/-! ### The rules -/

/-- One rule for every tuple that was quoted, with the price of every quote of it. -/
structure Built (quotes rules : List Definition) : Prop where
  tuples : (rules.map Definition.options).Nodup
  quoted : ∀ rule ∈ rules, rule ∈ quotes
  priced : ∀ quote ∈ quotes, ∃ rule ∈ rules,
    rule.options = quote.options ∧ rule.unitTokens = quote.unitTokens

/-- Two quotes of one tuple name different prices. -/
def Conflicting (quotes : List Definition) : Prop :=
  ∃ a ∈ quotes, ∃ b ∈ quotes, a.options = b.options ∧ a.unitTokens ≠ b.unitTokens

theorem Built.not_conflicting {quotes rules : List Definition} (h : Built quotes rules) :
    ¬ Conflicting quotes := by
  rintro ⟨a, ha, b, hb, hoptions, htokens⟩
  obtain ⟨r, hr, hra, hta⟩ := h.priced a ha
  obtain ⟨r', hr', hrb, htb⟩ := h.priced b hb
  obtain rfl : r = r' :=
    List.inj_on_of_nodup_map h.tuples hr hr' (hra.trans (hoptions.trans hrb.symm))
  exact htokens (hta.symm.trans htb)

theorem appendUnique_ok {quotes rules rules' : List Definition} {rule : Definition}
    (h : Built quotes rules) (hok : appendUniqueCreativeFabricaRule rules rule = .ok rules') :
    Built (quotes ++ [rule]) rules' := by
  unfold appendUniqueCreativeFabricaRule at hok
  cases hfind : rules.find? fun current => current.options = rule.options with
  | some current =>
    rw [hfind] at hok
    dsimp only at hok
    split_ifs at hok with htokens
    obtain rfl := Except.ok.inj hok
    have hcurrent : current.options = rule.options := by simpa using List.find?_some hfind
    refine ⟨h.tuples, fun r hr => List.mem_append_left _ (h.quoted r hr), ?_⟩
    intro quote hquote
    rcases List.mem_append.mp hquote with hold | hnew
    · exact h.priced quote hold
    · rw [List.mem_singleton.mp hnew]
      exact ⟨current, List.mem_of_find?_eq_some hfind, hcurrent, not_not.mp htokens⟩
  | none =>
    rw [hfind] at hok
    obtain rfl := Except.ok.inj hok
    have hfresh : rule.options ∉ rules.map Definition.options := by
      intro hmem
      obtain ⟨r, hr, hoptions⟩ := List.mem_map.mp hmem
      have hnone := List.find?_eq_none.mp hfind r hr
      simp [hoptions] at hnone
    refine ⟨?_, ?_, ?_⟩
    · rw [List.map_append, List.map_singleton, List.nodup_append]
      refine ⟨h.tuples, List.nodup_singleton _, ?_⟩
      rintro options hmem options' hsingle rfl
      exact hfresh (List.mem_singleton.mp hsingle ▸ hmem)
    · intro r hr
      rcases List.mem_append.mp hr with hold | hnew
      · exact List.mem_append_left _ (h.quoted r hold)
      · exact List.mem_append_right _ hnew
    · intro quote hquote
      rcases List.mem_append.mp hquote with hold | hnew
      · obtain ⟨r, hr, hpriced⟩ := h.priced quote hold
        exact ⟨r, List.mem_append_left _ hr, hpriced⟩
      · exact ⟨quote, List.mem_append_right _ hnew, rfl, rfl⟩

theorem appendUnique_error {quotes rules : List Definition} {rule : Definition} {err : String}
    (h : Built quotes rules) (herr : appendUniqueCreativeFabricaRule rules rule = .error err) :
    Conflicting (quotes ++ [rule]) := by
  unfold appendUniqueCreativeFabricaRule at herr
  cases hfind : rules.find? fun current => current.options = rule.options with
  | some current =>
    rw [hfind] at herr
    dsimp only at herr
    split_ifs at herr with htokens
    have hcurrent : current.options = rule.options := by simpa using List.find?_some hfind
    have hquoted := h.quoted current (List.mem_of_find?_eq_some hfind)
    exact ⟨current, List.mem_append_left _ hquoted, rule,
      List.mem_append_right _ (List.mem_singleton_self rule), hcurrent, htokens⟩
  | none =>
    rw [hfind] at herr
    cases herr

/-- The quotes of a run are priced by one rule each, or two of them contradict. -/
theorem buildRules_spec {quotes rules : List Definition} (h : Built quotes rules)
    (quotes' : List Definition) :
    (∃ rules', buildRules rules quotes' = .ok rules' ∧ Built (quotes ++ quotes') rules') ∨
      (∃ err, buildRules rules quotes' = .error err) ∧ Conflicting (quotes ++ quotes') := by
  induction quotes' generalizing quotes rules with
  | nil => exact .inl ⟨rules, rfl, by rwa [List.append_nil]⟩
  | cons quote rest ih =>
    rw [buildRules]
    cases hstep : appendUniqueCreativeFabricaRule rules quote with
    | ok rules' =>
      have hbuilt := ih (appendUnique_ok h hstep)
      rwa [List.append_assoc] at hbuilt
    | error err =>
      obtain ⟨a, ha, b, hb, hconflict⟩ := appendUnique_error h hstep
      have hmore {x : Definition} (hx : x ∈ quotes ++ [quote]) : x ∈ quotes ++ quote :: rest := by
        rw [List.append_cons]
        exact List.mem_append_left rest hx
      exact .inr ⟨⟨err, rfl⟩, a, hmore ha, b, hmore hb, hconflict⟩

/-! ### The expansion and the rules -/

def infinite : NonFinite := ⟨"+Inf", minInt64⟩

/-- Texts with ASCII capitals only, and one text that is no finite number. -/
def plainFormats : Formats where
  toLower := Text.toLower
  sprint
    | .string s => s
    | _ => ""
  parseFloat s := if s = "Inf" then some (.inr infinite) else none

def infiniteModel : CatalogueModel where
  pricingInputs := ["strength"]
  pricingInputConfig := []
  inputOptions := [("strength", .object [("numberType",
    .object [("allowedValues", .array [.string "Inf", .string "Inf"])])])]

end GenerationGateway.Pricing

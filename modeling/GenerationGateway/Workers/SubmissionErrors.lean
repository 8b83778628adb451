import GenerationGateway.Workers.Errors
import Mathlib.Tactic.NormNum
import Mathlib.Tactic.Linarith

/-!
# What a failed submission proves

An error of a submission reports one item or several, and the credits go back to the user
when it is classified as a definite rejection. The classifier asks for one rejected item
where every item has to be one, and the carriers of a status disagree about some statuses.
-/

namespace GenerationGateway

open Text

/-- What one item of an error tells. -/
structure Report where
  status : Option ℚ
  /-- The code is a listed rejection or rate limit. -/
  listed : Bool

/-- A client error other than a request timeout. -/
def clientFault (status : ℚ) : Bool := 400 ≤ status && status < 500 && status ≠ 408

def Report.definite (r : Report) : Bool := r.status.any clientFault || r.listed

/-- The texts of an RPC error name a rate limit. -/
def namesLimit (code message : String) : Bool :=
  contains (toUpper (code ++ " " ++ message)) "RATE_LIMIT" ||
    contains (toUpper (code ++ " " ++ message)) "RESOURCE_EXHAUSTED"

def GraphQLErrorItem.report (item : GraphQLErrorItem) : Report := ⟨item.statusCode, item.listed⟩

def ErrorKind.reports : ErrorKind → List Report
  | http _ status => [⟨some status, false⟩]
  | graphQL statusCode code => [⟨statusCode, rejectedCodes.contains (toUpper code)⟩]
  | creativeFabricaGraphQL items => items.map GraphQLErrorItem.report
  | creativeFabricaRPC status code message =>
    [⟨if 0 < status then some (status : ℚ) else none, namesLimit code message⟩]
  | plain => [⟨none, false⟩]

/-- The errors that the provider's submit calls return. -/
def ProviderID.returns : ProviderID → ErrorKind → Bool
  | provider, .http from_ _ => provider = from_
  | .leonardo, .graphQL _ _ => true
  | .creativefabrica, .creativeFabricaGraphQL items => items ≠ []
  | .creativefabrica, .creativeFabricaRPC _ _ _ => true
  | _, .plain => true
  | _, _ => false

/-- The classification of an error is sound, and a status counts alike however it arrives. -/
structure Classified (provider : ProviderID) (err : GoError) : Prop where
  definite : provider.uncertain err = false → ∀ r ∈ err.kind.reports, r.definite = true
  mixed : (∃ r ∈ err.kind.reports, r.definite = true) →
    (∃ r ∈ err.kind.reports, r.definite = false) → provider.uncertain err = true
  alike : ∀ (status : ℤ) (other : ProviderID) (text : String),
    (∀ r ∈ err.kind.reports, r.status = some (status : ℚ)) →
    provider.uncertain err = other.uncertain ⟨.http other status, text⟩

/-- The errors about which the classifier is right: no success or redirection, no status
that contradicts the code beside it, and no rejected item beside one that is none. -/
def ErrorKind.Clear : ErrorKind → Prop
  | http _ status => 400 ≤ status
  | graphQL statusCode code => ∀ status : ℤ, statusCode = some (status : ℚ) →
      clientFault status = true ∨ (rejectedCodes.contains (toUpper code) = true ∧ status < 400) ∨
        (rejectedCodes.contains (toUpper code) = false ∧ 500 ≤ status)
  | creativeFabricaGraphQL items =>
    ((∃ item ∈ items, item.listed = true) → ∀ item ∈ items, item.report.definite = true) ∧
      ∀ status : ℤ, (∀ item ∈ items, item.statusCode = some (status : ℚ)) →
        ((∃ item ∈ items, item.listed = true) ↔ serverFault status = false)
  | creativeFabricaRPC status code message =>
    400 ≤ status ∨ status ≤ 0 ∨ namesLimit code message = true
  | plain => True

theorem clientFault_int (status : ℤ) :
    clientFault status = (decide (400 ≤ status) && !serverFault status) := by
  have h₁ : ((400 : ℚ) ≤ status) ↔ 400 ≤ status := by exact_mod_cast Iff.rfl
  have h₂ : ((status : ℚ) < 500) ↔ status < 500 := by exact_mod_cast Iff.rfl
  have h₃ : ((status : ℚ) ≠ 408) ↔ status ≠ 408 := by exact_mod_cast Iff.rfl
  rw [Bool.eq_iff_iff]
  simp only [clientFault, serverFault, Bool.and_eq_true, Bool.not_eq_true', Bool.or_eq_false_iff,
    decide_eq_true_eq, decide_eq_false_iff_not, h₁, h₂, h₃]
  omega

theorem uncertain_http (provider : ProviderID) (status : ℤ) (text : String) :
    provider.uncertain ⟨.http provider status, text⟩ = serverFault status := by
  cases provider <;> rfl

section Classification

variable {provider : ProviderID} {err : GoError}

/-- The three laws, with the HTTP error of the same status written out. -/
theorem classified_iff : Classified provider err ↔
    (provider.uncertain err = false → ∀ r ∈ err.kind.reports, r.definite = true) ∧
      ∀ status : ℤ, (∀ r ∈ err.kind.reports, r.status = some (status : ℚ)) →
        provider.uncertain err = serverFault status := by
  constructor
  · intro h
    refine ⟨h.definite, ?_⟩
    intro status hstatus
    rw [h.alike status provider "" hstatus, uncertain_http]
  · rintro ⟨hdefinite, halike⟩
    refine ⟨hdefinite, ?_, ?_⟩
    · rintro - ⟨r, hr, hnot⟩
      by_contra hcertain
      rw [hdefinite (Bool.eq_false_of_not_eq_true hcertain) r hr] at hnot
      cases hnot
    · intro status other text hstatus
      rw [halike status hstatus, uncertain_http]

/-- An error that reports one status and no code. -/
theorem classified_of_status (status : ℤ) (listed : Bool)
    (hreports : err.kind.reports = [⟨some (status : ℚ), listed⟩])
    (huncertain : provider.uncertain err = serverFault status) :
    Classified provider err ↔ 400 ≤ status ∨ listed = true := by
  rw [classified_iff, hreports, huncertain]
  simp only [List.mem_singleton, forall_eq, Option.some.injEq, Int.cast_inj, Report.definite,
    Option.any_some, clientFault_int]
  constructor
  · rintro ⟨hdefinite, -⟩
    cases hfault : serverFault status with
    | false => simpa [hfault] using hdefinite hfault
    | true =>
      left
      simp only [serverFault, Bool.or_eq_true, decide_eq_true_eq] at hfault
      omega
  · intro h
    refine ⟨?_, ?_⟩
    · intro hfault
      simpa [hfault] using h
    · rintro other rfl
      rfl

/-- An error without a status is uncertain unless its code is listed. -/
theorem classified_of_none (listed : Bool) (hreports : err.kind.reports = [⟨none, listed⟩])
    (huncertain : provider.uncertain err = !listed) : Classified provider err := by
  rw [classified_iff, hreports, huncertain]
  simp [Report.definite]

theorem uncertain_graphQL {statusCode : ℚ} {code text : String} :
    ProviderID.uncertain .leonardo ⟨.graphQL (some statusCode) code, text⟩ =
      (!(decide (400 ≤ statusCode) && decide (statusCode < 500)) &&
        !rejectedCodes.contains (toUpper code)) := rfl

theorem classified_graphQL {statusCode : Option ℚ} {code text : String} :
    Classified .leonardo ⟨.graphQL statusCode code, text⟩ ↔
      (ErrorKind.graphQL statusCode code).Clear := by
  cases statusCode with
  | none =>
    have hclassified : Classified .leonardo ⟨.graphQL none code, text⟩ :=
      classified_of_none (rejectedCodes.contains (toUpper code)) rfl rfl
    simp [hclassified, ErrorKind.Clear]
  | some s =>
    rw [classified_iff, uncertain_graphQL]
    simp only [ErrorKind.reports, ErrorKind.Clear, List.mem_singleton, forall_eq, Report.definite,
      Option.any_some, Option.some.injEq]
    generalize rejectedCodes.contains (toUpper code) = listed
    by_cases hint : ∃ n : ℤ, s = n
    · obtain ⟨n, rfl⟩ := hint
      have h₁ : ((400 : ℚ) ≤ n) ↔ 400 ≤ n := by exact_mod_cast Iff.rfl
      have h₂ : ((n : ℚ) < 500) ↔ n < 500 := by exact_mod_cast Iff.rfl
      simp only [Int.cast_inj, forall_eq', h₁, h₂, clientFault_int, serverFault]
      cases listed
      · by_cases hlow : 400 ≤ n <;> by_cases hhigh : n < 500 <;> simp [hlow, hhigh] <;> omega
      · simp
        omega
    · -- no HTTP status is like this one, so only soundness is asked for
      have hne : s ≠ 408 := fun h => hint ⟨408, by rw [h]; rfl⟩
      have hnone (n : ℤ) : s ≠ n := fun h => hint ⟨n, h⟩
      simp only [hnone, false_implies, implies_true, and_true, clientFault, iff_true]
      intro hcertain
      simp only [Bool.and_eq_false_iff, Bool.not_eq_false', Bool.and_eq_true] at hcertain
      simpa [hne] using hcertain

theorem classified_items {items : List GraphQLErrorItem} {text : String} :
    Classified .creativefabrica ⟨.creativeFabricaGraphQL items, text⟩ ↔
      (ErrorKind.creativeFabricaGraphQL items).Clear := by
  have huncertain : ProviderID.uncertain .creativefabrica ⟨.creativeFabricaGraphQL items, text⟩ =
      !items.any GraphQLErrorItem.listed := rfl
  have hlisted : items.any GraphQLErrorItem.listed = true ↔ ∃ item ∈ items, item.listed = true :=
    List.any_eq_true
  rw [classified_iff, huncertain]
  simp only [ErrorKind.reports, ErrorKind.Clear, List.forall_mem_map, GraphQLErrorItem.report,
    Bool.not_eq_eq_eq_not, Bool.not_false, hlisted]
  refine and_congr Iff.rfl (forall_congr' fun status => imp_congr_right fun _ => ?_)
  rw [← hlisted]
  cases items.any GraphQLErrorItem.listed <;> cases serverFault status <;> simp

theorem classified_rpc {status : ℤ} {code message text : String} :
    Classified .creativefabrica ⟨.creativeFabricaRPC status code message, text⟩ ↔
      (ErrorKind.creativeFabricaRPC status code message).Clear := by
  by_cases hpos : 0 < status
  · rw [classified_of_status status (namesLimit code message)
      (by simp [ErrorKind.reports, hpos])
      (by simp [ProviderID.uncertain, submissionUncertain, upstreamHTTPStatus, hpos])]
    simp only [ErrorKind.Clear, not_le.mpr hpos, false_or]
  · have hclassified : Classified .creativefabrica ⟨.creativeFabricaRPC status code message, text⟩ := by
      apply classified_of_none (namesLimit code message)
      · simp [ErrorKind.reports, hpos]
      · have hlow : ¬ 400 ≤ status := by omega
        simp [ProviderID.uncertain, submissionUncertain, upstreamHTTPStatus, hpos, hlow, namesLimit]
    simp [hclassified, ErrorKind.Clear, not_lt.mp hpos]

/-- The classifiers are right about exactly the clear errors. -/
theorem submission_classified_iff (hreturns : provider.returns err.kind = true) :
    Classified provider err ↔ err.kind.Clear := by
  obtain ⟨kind, text⟩ := err
  cases kind with
  | http from_ status =>
    obtain rfl : provider = from_ := of_decide_eq_true hreturns
    rw [classified_of_status status false rfl (uncertain_http _ _ _)]
    simp [ErrorKind.Clear]
  | plain =>
    have hclassified : Classified provider ⟨.plain, text⟩ := by
      apply classified_of_none false rfl
      cases provider <;> rfl
    simp [hclassified, ErrorKind.Clear]
  | graphQL statusCode code =>
    cases provider with
    | leonardo => exact classified_graphQL
    | adobe | creativefabrica => cases hreturns
  | creativeFabricaGraphQL items =>
    cases provider with
    | creativefabrica => exact classified_items
    | leonardo | adobe => cases hreturns
  | creativeFabricaRPC status code message =>
    cases provider with
    | creativefabrica => exact classified_rpc
    | leonardo | adobe => cases hreturns

end Classification

/-- A rejected item beside one that is none. -/
def mixedItems : GoError :=
  ⟨.creativeFabricaGraphQL [⟨none, "INTERNAL_SERVER_ERROR"⟩, ⟨none, "BAD_USER_INPUT"⟩], ""⟩

theorem mixedItems_rejected : ¬ ∀ (provider : ProviderID) (err : GoError),
    provider.returns err.kind = true → Classified provider err := by
  intro h
  have hmixed := (h .creativefabrica mixedItems rfl).definite (by decide +kernel)
    ⟨none, false⟩ (List.mem_cons_self ..)
  cases hmixed

/-- A rate limit, reported by its status and by its code. -/
theorem submission_classified_limit :
    Classified .leonardo ⟨.graphQL (some 429) "RATE_LIMIT_EXCEEDED", ""⟩ := by
  have hreturns : ProviderID.leonardo.returns (.graphQL (some 429) "RATE_LIMIT_EXCEEDED") = true :=
    rfl
  refine (submission_classified_iff hreturns).mpr ?_
  intro status hstatus
  have hvalue : (429 : ℚ) = status := Option.some.inj hstatus
  left
  rw [← hvalue]
  decide +kernel

end GenerationGateway

import GenerationGateway.Library.Merging

/-!
# Assignments of choices

The assignments that give every name a value of its domain, the walk that lists them with
one shared map and a limit, and the first entries of a list by a key.
-/

namespace Choices

open Merging

variable {κ β γ : Type}

abbrev Assignment (κ β : Type) := List (κ × β)

/-- All assignments, the values of the last name varying fastest. -/
def product : List (κ × List β) → List (Assignment κ β)
  | [] => [[]]
  | (name, values) :: rest => values.flatMap fun v => (product rest).map fun a => (name, v) :: a

/-- An assignment is listed exactly if it gives every name, in their order, a value of the
name's domain. -/
theorem mem_product {sets : List (κ × List β)} {a : Assignment κ β} :
    a ∈ product sets ↔
      List.Forall₂ (fun entry set => entry.1 = set.1 ∧ entry.2 ∈ set.2) a sets := by
  induction sets generalizing a with
  | nil =>
    rw [product, List.mem_singleton]
    constructor
    · rintro rfl
      exact .nil
    · intro h
      cases h
      rfl
  | cons set rest ih =>
    obtain ⟨name, values⟩ := set
    rw [product, List.mem_flatMap]
    constructor
    · rintro ⟨v, hv, hmem⟩
      obtain ⟨tail, htail, rfl⟩ := List.mem_map.mp hmem
      exact .cons ⟨rfl, hv⟩ (ih.mp htail)
    · intro h
      cases h with
      | @cons entry _ tail _ hentry htail =>
        obtain ⟨name', v⟩ := entry
        obtain ⟨rfl, hv⟩ : name' = name ∧ v ∈ values := hentry
        exact ⟨v, hv, List.mem_map.mpr ⟨tail, ih.mpr htail, rfl⟩⟩

theorem length_product (sets : List (κ × List β)) :
    (product sets).length = (sets.map fun set => set.2.length).prod := by
  induction sets with
  | nil => rfl
  | cons set rest ih =>
    rw [product, List.length_flatMap, List.map_cons, List.prod_cons, ← ih]
    simp

/-! ### The walk -/

variable [DecidableEq κ]

/-- The assignments below a shared map, which is restored at the end. -/
def walk (f : γ → β) (limit : ℕ) : List (κ × List γ) →
    Assignment κ β × List (Assignment κ β) → Assignment κ β × List (Assignment κ β)
  | [], (current, result) =>
    if limit ≤ result.length then (current, result) else (current, result ++ [current])
  | (name, values) :: rest, (current, result) =>
    if limit ≤ result.length then (current, result)
    else
      let (current, result) := values.foldl
        (fun s v => walk f limit rest (put Prod.fst (name, f v) s.1, s.2)) (current, result)
      (current.filter fun entry => entry.1 ≠ name, result)

/-- The domains after `f`. -/
def mapped (f : γ → β) (sets : List (κ × List γ)) : List (κ × List β) :=
  sets.map fun set => (set.1, set.2.map f)

theorem put_fresh {current : Assignment κ β} {name : κ} (h : name ∉ current.map Prod.fst)
    (v : β) : put Prod.fst (name, v) current = current ++ [(name, v)] := by
  induction current with
  | nil => rfl
  | cons entry rest ih =>
    rw [List.map_cons, List.mem_cons, not_or] at h
    rw [put, if_neg (Ne.symm h.1), ih h.2]
    rfl

theorem put_last {current : Assignment κ β} {name : κ} (h : name ∉ current.map Prod.fst)
    (v w : β) : put Prod.fst (name, v) (current ++ [(name, w)]) = current ++ [(name, v)] := by
  induction current with
  | nil => simp [put]
  | cons entry rest ih =>
    rw [List.map_cons, List.mem_cons, not_or] at h
    rw [List.cons_append, put, if_neg (Ne.symm h.1), ih h.2]
    rfl

theorem filter_fresh {current : Assignment κ β} {name : κ} (h : name ∉ current.map Prod.fst) :
    current.filter (fun entry => entry.1 ≠ name) = current := by
  rw [List.filter_eq_self]
  intro entry hentry
  exact decide_eq_true fun heq => h (heq ▸ List.mem_map_of_mem hentry)

/-- Within the limit the walk lists every assignment below the current one, and leaves the
current one as it was. -/
theorem walk_eq {f : γ → β} {limit : ℕ} {sets : List (κ × List γ)} {current : Assignment κ β}
    {result : List (Assignment κ β)} (hnames : (sets.map Prod.fst).Nodup)
    (hfresh : ∀ name ∈ sets.map Prod.fst, name ∉ current.map Prod.fst)
    (hlimit : result.length + (product (mapped f sets)).length ≤ limit) :
    walk f limit sets (current, result) =
      (current, result ++ (product (mapped f sets)).map fun a => current ++ a) := by
  induction sets generalizing current result with
  | nil =>
    have hroom : ¬ limit ≤ result.length := by
      change result.length + 1 ≤ limit at hlimit
      omega
    rw [walk, if_neg hroom]
    simp [mapped, product]
  | cons set rest ih =>
    obtain ⟨name, values⟩ := set
    rw [List.map_cons, List.nodup_cons] at hnames
    have hname : name ∉ current.map Prod.fst := hfresh name List.mem_cons_self
    have hproduct : product (mapped f ((name, values) :: rest)) =
        values.flatMap fun v => (product (mapped f rest)).map fun a => (name, f v) :: a := by
      rw [mapped, List.map_cons, product, List.flatMap_map]
      rfl
    -- The map that the loop passes on has at most the last value of the name added.
    have hloop (values : List γ) (s : Assignment κ β) (result : List (Assignment κ β))
        (hs : s = current ∨ ∃ w, s = current ++ [(name, w)])
        (hroom : result.length + values.length * (product (mapped f rest)).length ≤ limit) :
        ∃ s', (s' = current ∨ ∃ w, s' = current ++ [(name, w)]) ∧
          values.foldl (fun s v => walk f limit rest (put Prod.fst (name, f v) s.1, s.2))
              (s, result) =
            (s', result ++ values.flatMap fun v =>
              (product (mapped f rest)).map fun a => current ++ (name, f v) :: a) := by
      induction values generalizing s result with
      | nil => exact ⟨s, hs, by simp⟩
      | cons v values ihv =>
        have hput : put Prod.fst (name, f v) s = current ++ [(name, f v)] := by
          rcases hs with rfl | ⟨w, rfl⟩
          · exact put_fresh hname (f v)
          · exact put_last hname (f v) w
        have hbelow : ∀ n ∈ rest.map Prod.fst, n ∉ (current ++ [(name, f v)]).map Prod.fst := by
          intro n hn
          rw [List.map_append, List.mem_append, not_or]
          refine ⟨hfresh n (List.mem_cons_of_mem _ hn), ?_⟩
          intro hmem
          rw [List.map_singleton, List.mem_singleton] at hmem
          exact hnames.1 (hmem ▸ hn)
        rw [List.length_cons, Nat.succ_mul] at hroom
        have hstep : walk f limit rest (current ++ [(name, f v)], result) =
            (current ++ [(name, f v)], result ++
              (product (mapped f rest)).map fun a => current ++ [(name, f v)] ++ a) :=
          ih hnames.2 hbelow (by omega)
        have hlength : (result ++ (product (mapped f rest)).map fun a =>
            current ++ [(name, f v)] ++ a).length =
            result.length + (product (mapped f rest)).length := by
          rw [List.length_append, List.length_map]
        obtain ⟨s', hs', hfold⟩ := ihv (current ++ [(name, f v)])
          (result ++ (product (mapped f rest)).map fun a => current ++ [(name, f v)] ++ a)
          (.inr ⟨f v, rfl⟩) (by rw [hlength]; omega)
        refine ⟨s', hs', ?_⟩
        rw [List.foldl_cons, hput, hstep, hfold, List.flatMap_cons, List.append_assoc]
        simp
    rw [hproduct] at hlimit ⊢
    have hroom : result.length + values.length * (product (mapped f rest)).length ≤ limit := by
      simpa [List.length_flatMap] using hlimit
    rw [walk]
    split_ifs with hfull
    · -- A full list has room for an empty product only.
      have hempty : (values.flatMap fun v =>
          (product (mapped f rest)).map fun a => (name, f v) :: a) = [] := by
        rw [← List.length_eq_zero_iff]
        omega
      rw [hempty, List.map_nil, List.append_nil]
    · obtain ⟨s', hs', hfold⟩ := hloop values current result (.inl rfl) hroom
      rw [hfold]
      have hrestored : s'.filter (fun entry => entry.1 ≠ name) = current := by
        rcases hs' with rfl | ⟨w, rfl⟩
        · exact filter_fresh hname
        · rw [List.filter_append, filter_fresh hname]
          simp
      dsimp only
      rw [hrestored, List.map_flatMap]
      simp [List.map_map, Function.comp_def]

/-! ### First entries by a key -/

section Firsts

variable {α τ : Type} (key : α → Option τ) (same : τ → τ → Bool)

/-- The entries whose key was not seen before, and those without a key. -/
def firsts (seen : List τ) : List α → List α
  | [] => []
  | a :: rest =>
    match key a with
    | none => a :: firsts seen rest
    | some k => if seen.any fun s => same s k then firsts seen rest else a :: firsts (k :: seen) rest

theorem firsts_sublist (seen : List τ) (xs : List α) : (firsts key same seen xs).Sublist xs := by
  induction xs generalizing seen with
  | nil => exact .slnil
  | cons a rest ih =>
    rw [firsts]
    cases key a with
    | none => exact (ih seen).cons_cons a
    | some k =>
      dsimp only
      split_ifs
      · exact (ih seen).cons a
      · exact (ih (k :: seen)).cons_cons a

/-- The entries without a key are all kept. -/
theorem firsts_unkeyed (seen : List τ) (xs : List α) :
    (firsts key same seen xs).filter (fun a => (key a).isNone) =
      xs.filter fun a => (key a).isNone := by
  induction xs generalizing seen with
  | nil => rfl
  | cons a rest ih =>
    rw [firsts]
    cases hkey : key a with
    | none =>
      dsimp only
      rw [List.filter_cons_of_pos (by simp [hkey]), List.filter_cons_of_pos (by simp [hkey]), ih]
    | some k =>
      dsimp only
      rw [List.filter_cons_of_neg (by simp [hkey])]
      split_ifs
      · exact ih seen
      · rw [List.filter_cons_of_neg (by simp [hkey]), ih]

/-- A key is that of a kept entry or was seen. -/
theorem firsts_covers (hrefl : ∀ k, same k k = true) (seen : List τ) {xs : List α} {a : α}
    {k : τ} (hmem : a ∈ xs) (hkey : key a = some k) :
    (∃ s ∈ seen, same s k = true) ∨
      ∃ b ∈ firsts key same seen xs, ∃ k', key b = some k' ∧ same k' k = true := by
  induction xs generalizing seen with
  | nil => cases hmem
  | cons b rest ih =>
    rw [firsts]
    rcases List.mem_cons.mp hmem with rfl | hrest
    · rw [hkey]
      dsimp only
      split_ifs with hseen
      · exact .inl (by simpa using hseen)
      · exact .inr ⟨a, List.mem_cons_self, k, hkey, hrefl k⟩
    · cases hb : key b with
      | none =>
        dsimp only
        rcases ih seen hrest with hseen | ⟨c, hc, hsame⟩
        · exact .inl hseen
        · exact .inr ⟨c, List.mem_cons_of_mem _ hc, hsame⟩
      | some kb =>
        dsimp only
        split_ifs
        · exact ih seen hrest
        · rcases ih (kb :: seen) hrest with ⟨s, hs, hsame⟩ | ⟨c, hc, hsame⟩
          · rcases List.mem_cons.mp hs with rfl | hs
            · exact .inr ⟨b, List.mem_cons_self, s, hb, hsame⟩
            · exact .inl ⟨s, hs, hsame⟩
          · exact .inr ⟨c, List.mem_cons_of_mem _ hc, hsame⟩

/-- No kept entry has a key that was seen. -/
theorem firsts_unseen {seen : List τ} {xs : List α} {a : α} {k s : τ}
    (hmem : a ∈ firsts key same seen xs) (hkey : key a = some k) (hs : s ∈ seen) :
    same s k = false := by
  induction xs generalizing seen with
  | nil => cases hmem
  | cons b rest ih =>
    rw [firsts] at hmem
    cases hb : key b with
    | none =>
      rw [hb] at hmem
      rcases List.mem_cons.mp hmem with rfl | hrest
      · rw [hkey] at hb
        cases hb
      · exact ih hrest hs
    | some kb =>
      rw [hb] at hmem
      dsimp only at hmem
      split_ifs at hmem with hseen
      · exact ih hmem hs
      · rcases List.mem_cons.mp hmem with rfl | hrest
        · rw [hkey, Option.some.injEq] at hb
          subst hb
          by_contra hsame
          exact hseen (List.any_eq_true.mpr ⟨s, hs, by simpa using hsame⟩)
        · exact ih hrest (List.mem_cons_of_mem _ hs)

/-- The kept keys are different from each other. -/
theorem firsts_pairwise (seen : List τ) (xs : List α) :
    (firsts key same seen xs).Pairwise fun a b =>
      ∀ k k', key a = some k → key b = some k' → same k k' = false := by
  induction xs generalizing seen with
  | nil => exact .nil
  | cons a rest ih =>
    rw [firsts]
    cases ha : key a with
    | none =>
      dsimp only
      refine .cons ?_ (ih seen)
      intro b _ k k' hk
      rw [ha] at hk
      cases hk
    | some ka =>
      dsimp only
      split_ifs
      · exact ih seen
      · refine .cons ?_ (ih (ka :: seen))
        intro b hb k k' hk hk'
        rw [ha, Option.some.injEq] at hk
        exact firsts_unseen key same hb hk' (hk ▸ List.mem_cons_self)

end Firsts

end Choices

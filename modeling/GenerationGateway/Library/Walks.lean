import GenerationGateway.Library.Document
import Mathlib.Data.List.Perm.Basic

/-!
# Walks that collect

A walk takes values from the maps, the fields and the texts of a document. The branches of a
map are walked in any order: `Collects` relates a document to every list that can come out,
`collected` is the list for the order in which the maps are written.
-/

namespace Documents

/-- What a walk takes; `γ` is what it remembers of the path to a value. -/
structure Walk (γ α : Type) where
  /-- On entering a map. -/
  enter : γ → Fields → List α
  /-- Whether it goes on to the branches of the map. -/
  descends : γ → Fields → Bool
  /-- At a field, before what lies below it. -/
  field : γ → String → Document → List α
  under : γ → String → γ
  text : γ → String → List α

section Walks

variable {γ α : Type} (w : Walk γ α)

mutual

def collected : γ → Document → List α
  | c, .object fields =>
    w.enter c fields ++ if w.descends c fields then (branches c fields).flatten else []
  | c, .array items => collectedItems c items
  | c, .string s => w.text c s
  | _, _ => []

/-- What each branch of a map contributes. -/
def branches : γ → Fields → List (List α)
  | _, [] => []
  | c, (key, value) :: rest =>
    (w.field c key value ++ collected (w.under c key) value) :: branches c rest

def collectedItems : γ → List Document → List α
  | _, [] => []
  | c, item :: rest => collected c item ++ collectedItems c rest

end

mutual

/-- The walk may collect this list. -/
def Collects : γ → Document → List α → Prop
  | c, .object fields, out => ∃ order,
      (if w.descends c fields then ∃ parts, CollectsBranches c fields parts ∧ order.Perm parts
        else order = []) ∧
      out = w.enter c fields ++ order.flatten
  | c, .array items, out => CollectsItems c items out
  | c, .string s, out => out = w.text c s
  | _, _, out => out = []

def CollectsBranches : γ → Fields → List (List α) → Prop
  | _, [], parts => parts = []
  | c, (key, value) :: rest, parts => ∃ out parts', Collects (w.under c key) value out ∧
      CollectsBranches c rest parts' ∧ parts = (w.field c key value ++ out) :: parts'

def CollectsItems : γ → List Document → List α → Prop
  | _, [], out => out = []
  | c, item :: rest, out => ∃ first others, Collects c item first ∧ CollectsItems c rest others ∧
      out = first ++ others

end

mutual

/-- The order in which the maps are written is one of the orders. -/
theorem collects_collected : ∀ (c : γ) (value : Document),
    Collects w c value (collected w c value)
  | c, .object fields => by
    rw [Collects, collected]
    refine ⟨if w.descends c fields then branches w c fields else [], ?_, ?_⟩
    · split_ifs
      · exact ⟨_, collectsBranches_branches c fields, .refl _⟩
      · rfl
    · split_ifs <;> rfl
  | c, .array items => by
    rw [Collects, collected]
    exact collectsItems_collectedItems c items
  | _, .string _ => rfl
  | _, .null => rfl
  | _, .bool _ => rfl
  | _, .number _ => rfl

theorem collectsBranches_branches : ∀ (c : γ) (fields : Fields),
    CollectsBranches w c fields (branches w c fields)
  | _, [] => rfl
  | c, (key, value) :: rest =>
    ⟨_, _, collects_collected (w.under c key) value, collectsBranches_branches c rest, rfl⟩

theorem collectsItems_collectedItems : ∀ (c : γ) (items : List Document),
    CollectsItems w c items (collectedItems w c items)
  | _, [] => rfl
  | c, item :: rest =>
    ⟨_, _, collects_collected c item, collectsItems_collectedItems c rest, rfl⟩

end

variable {w}

mutual

/-- All orders collect the same values. -/
theorem Collects.perm : ∀ {c : γ} {value : Document} {out : List α},
    Collects w c value out → out.Perm (collected w c value)
  | c, .object fields, out, h => by
    rw [Collects] at h
    obtain ⟨order, horder, rfl⟩ := h
    rw [collected]
    apply List.Perm.append_left
    split_ifs at horder ⊢
    · obtain ⟨parts, hparts, hperm⟩ := horder
      exact hperm.flatten.trans (List.Perm.flatten_congr (CollectsBranches.forall₂ hparts))
    · rw [horder]
      exact .refl _
  | c, .array items, out, h => by
    rw [Collects] at h
    rw [collected]
    exact CollectsItems.perm h
  | _, .string _, _, h => List.Perm.of_eq h
  | _, .null, _, h => List.Perm.of_eq h
  | _, .bool _, _, h => List.Perm.of_eq h
  | _, .number _, _, h => List.Perm.of_eq h

theorem CollectsBranches.forall₂ : ∀ {c : γ} {fields : Fields} {parts : List (List α)},
    CollectsBranches w c fields parts → List.Forall₂ List.Perm parts (branches w c fields)
  | _, [], _, h => by
    rw [CollectsBranches] at h
    rw [h]
    exact .nil
  | c, (key, value) :: rest, _, h => by
    rw [CollectsBranches] at h
    obtain ⟨out, parts', hout, hparts, rfl⟩ := h
    rw [branches]
    exact .cons ((Collects.perm hout).append_left _) (CollectsBranches.forall₂ hparts)

theorem CollectsItems.perm : ∀ {c : γ} {items : List Document} {out : List α},
    CollectsItems w c items out → out.Perm (collectedItems w c items)
  | _, [], _, h => by
    rw [CollectsItems] at h
    rw [h]
    exact .refl _
  | c, item :: rest, _, h => by
    rw [CollectsItems] at h
    obtain ⟨first, others, hfirst, hothers, rfl⟩ := h
    rw [collectedItems]
    exact (Collects.perm hfirst).append (CollectsItems.perm hothers)

end

end Walks

/-! ### What becomes of the values -/

/-- How a result is made of the collected values, and when two branches that come after
`before` may change places in it. -/
structure Settles {α β : Type} (settle : List α → List β)
    (agree : List α → List α → List α → Prop) : Prop where
  append {xs ys : List α} (zs : List α) :
    settle xs = settle ys → settle (xs ++ zs) = settle (ys ++ zs)
  cancel {xs ys zs zs' : List α} :
    xs.Perm ys → settle (xs ++ zs) = settle (ys ++ zs') → settle xs = settle ys
  later {before xs ys : List α} (between : List α) :
    xs.Perm ys → settle (before ++ xs) = settle (before ++ ys) →
      settle (before ++ between ++ xs) = settle (before ++ between ++ ys)
  agrees {before xs ys : List α} :
    agree before xs ys ↔ settle (before ++ (xs ++ ys)) = settle (before ++ (ys ++ xs))

section Steady

variable {γ α β : Type} (w : Walk γ α) (agree : List α → List α → List α → Prop)

mutual

/-- Any two branches of a map agree, after what the walk has collected before the map. -/
def Steady : γ → List α → Document → Prop
  | c, before, .object fields => w.descends c fields = true →
      SteadyBranches c (before ++ w.enter c fields) fields ∧
        (branches w c fields).Pairwise (agree (before ++ w.enter c fields))
  | c, before, .array items => SteadyItems c before items
  | _, _, _ => True

def SteadyBranches : γ → List α → Fields → Prop
  | _, _, [] => True
  | c, before, (key, value) :: rest =>
    Steady (w.under c key) (before ++ w.field c key value) value ∧ SteadyBranches c before rest

def SteadyItems : γ → List α → List Document → Prop
  | _, _, [] => True
  | c, before, item :: rest =>
    Steady c before item ∧ SteadyItems c (before ++ collected w c item) rest

end

variable {w agree} {settle : List α → List β}

/-- Branches that are collected in other orders, one after the other. -/
theorem Settles.flatten (hs : Settles settle agree) {before : List α} {parts parts' : List (List α)}
    (h : List.Forall₂ (fun part part' => part.Perm part' ∧
      settle (before ++ part) = settle (before ++ part')) parts parts') (between : List α) :
    settle (before ++ between ++ parts.flatten) = settle (before ++ between ++ parts'.flatten) := by
  induction h generalizing between with
  | nil => rfl
  | @cons part part' rest rest' hpart _ ih =>
    obtain ⟨hperm, hsettled⟩ := hpart
    rw [List.flatten_cons, List.flatten_cons, ← List.append_assoc, ← List.append_assoc]
    calc settle (before ++ between ++ part ++ rest.flatten)
        = settle (before ++ between ++ part' ++ rest.flatten) :=
          hs.append _ (hs.later between hperm hsettled)
      _ = settle (before ++ between ++ part' ++ rest'.flatten) := by
          rw [List.append_assoc before]
          exact ih (between ++ part')

/-- Branches of which any two may change places can be collected in any order. -/
theorem Settles.order (hs : Settles settle agree) {before : List α} {parts order : List (List α)}
    (hpairs : parts.Pairwise (agree before)) (h : order.Perm parts) (between : List α) :
    settle (before ++ between ++ order.flatten) = settle (before ++ between ++ parts.flatten) := by
  induction h generalizing between with
  | nil => rfl
  | cons part _ ih =>
    rw [List.flatten_cons, List.flatten_cons, ← List.append_assoc, ← List.append_assoc,
      List.append_assoc before]
    exact ih (List.pairwise_cons.mp hpairs).2 (between ++ part)
  | swap first second rest =>
    have hagree := hs.agrees.mp ((List.pairwise_cons.mp hpairs).1 second List.mem_cons_self)
    have hswap := hs.append rest.flatten (hs.later between List.perm_append_comm hagree)
    simp only [List.flatten_cons, List.append_assoc] at hswap ⊢
    exact hswap.symm
  | trans _ hlast ih ih' =>
    have hsymm {xs ys : List α} (hxy : agree before xs ys) : agree before ys xs :=
      hs.agrees.mpr (hs.agrees.mp hxy).symm
    exact (ih ((hlast.pairwise_iff hsymm).mpr hpairs) between).trans (ih' hpairs between)

mutual

theorem Steady.settled (hs : Settles settle agree) : ∀ {c : γ} {before : List α}
    {value : Document} {out : List α}, Steady w agree c before value → Collects w c value out →
    settle (before ++ out) = settle (before ++ collected w c value)
  | c, before, .object fields, out, hsteady, h => by
    rw [Collects] at h
    obtain ⟨order, horder, rfl⟩ := h
    rw [Steady] at hsteady
    rw [collected, ← List.append_assoc, ← List.append_assoc]
    split_ifs at horder ⊢ with hdescends
    · obtain ⟨parts, hparts, hperm⟩ := horder
      obtain ⟨hbranches, hpairs⟩ := hsteady hdescends
      have hsettled := SteadyBranches.settled hs hbranches hparts
      obtain ⟨order', hforall, hperm'⟩ := List.perm_comp_forall₂ hperm hsettled
      have hparts := hs.flatten hforall []
      have horder := hs.order hpairs hperm' []
      rw [List.append_nil] at hparts horder
      exact hparts.trans horder
    · rw [horder]
      rfl
  | c, before, .array items, out, hsteady, h => by
    rw [Collects] at h
    rw [Steady] at hsteady
    rw [collected]
    exact SteadyItems.settled hs hsteady h
  | _, _, .string _, _, _, h => congrArg settle (congrArg _ h)
  | _, _, .null, _, _, h => congrArg settle (congrArg _ h)
  | _, _, .bool _, _, _, h => congrArg settle (congrArg _ h)
  | _, _, .number _, _, _, h => congrArg settle (congrArg _ h)

theorem SteadyBranches.settled (hs : Settles settle agree) : ∀ {c : γ} {before : List α}
    {fields : Fields} {parts : List (List α)}, SteadyBranches w agree c before fields →
    CollectsBranches w c fields parts → List.Forall₂ (fun part part' => part.Perm part' ∧
      settle (before ++ part) = settle (before ++ part')) parts (branches w c fields)
  | _, _, [], _, _, h => by
    rw [CollectsBranches] at h
    rw [h]
    exact .nil
  | c, before, (key, value) :: rest, _, hsteady, h => by
    rw [CollectsBranches] at h
    obtain ⟨out, parts', hout, hparts, rfl⟩ := h
    rw [SteadyBranches] at hsteady
    rw [branches]
    refine .cons ⟨(Collects.perm hout).append_left _, ?_⟩ (SteadyBranches.settled hs hsteady.2 hparts)
    rw [← List.append_assoc, ← List.append_assoc]
    exact Steady.settled hs hsteady.1 hout

theorem SteadyItems.settled (hs : Settles settle agree) : ∀ {c : γ} {before : List α}
    {items : List Document} {out : List α}, SteadyItems w agree c before items →
    CollectsItems w c items out → settle (before ++ out) = settle (before ++ collectedItems w c items)
  | _, _, [], _, _, h => congrArg settle (congrArg _ h)
  | c, before, item :: rest, _, hsteady, h => by
    rw [CollectsItems] at h
    obtain ⟨first, others, hfirst, hothers, rfl⟩ := h
    rw [SteadyItems] at hsteady
    rw [collectedItems, ← List.append_assoc, ← List.append_assoc]
    exact (hs.append others (Steady.settled hs hsteady.1 hfirst)).trans
      (SteadyItems.settled hs hsteady.2 hothers)

end

mutual

/-- A map that always gives the same result is steady: a branch, or two of them, are walked
first. -/
theorem steady_of_settled (hs : Settles settle agree) : ∀ {c : γ} {before : List α}
    {value : Document}, (∀ out, Collects w c value out →
      settle (before ++ out) = settle (before ++ collected w c value)) → Steady w agree c before value
  | c, before, .object fields, h => by
    rw [Steady]
    intro hdescends
    apply steadyBranches_of_settled hs
    intro parts order hparts hperm
    have hout : Collects w c (.object fields) (w.enter c fields ++ order.flatten) := by
      rw [Collects]
      refine ⟨order, ?_, rfl⟩
      rw [if_pos hdescends]
      exact ⟨parts, hparts, hperm⟩
    have hsettled := h _ hout
    rw [collected, if_pos hdescends, ← List.append_assoc, ← List.append_assoc] at hsettled
    exact hsettled
  | c, before, .array items, h => by
    rw [Steady]
    exact steadyItems_of_settled hs h
  | _, _, .string _, _ => trivial
  | _, _, .null, _ => trivial
  | _, _, .bool _, _ => trivial
  | _, _, .number _, _ => trivial

theorem steadyBranches_of_settled (hs : Settles settle agree) : ∀ {c : γ} {before : List α}
    {fields : Fields}, (∀ parts order : List (List α), CollectsBranches w c fields parts → order.Perm parts →
      settle (before ++ order.flatten) = settle (before ++ (branches w c fields).flatten)) →
    SteadyBranches w agree c before fields ∧ (branches w c fields).Pairwise (agree before)
  | _, _, [], _ => ⟨trivial, .nil⟩
  | c, before, (key, value) :: rest, h => by
    rw [SteadyBranches]
    simp only [branches] at h ⊢
    have hcollects := collects_collected w (w.under c key) value
    have hrest := collectsBranches_branches w c rest
    have hsteady : Steady w agree (w.under c key) (before ++ w.field c key value) value := by
      apply steady_of_settled hs
      intro out hout
      have hfirst := h _ _ ⟨out, _, hout, hrest, rfl⟩ (.refl _)
      simp only [List.flatten_cons, ← List.append_assoc] at hfirst
      exact hs.cancel ((Collects.perm hout).append_left _) hfirst
    generalize hbranch : w.field c key value ++ collected w (w.under c key) value = branch at h ⊢
    have hwhole (order : List (List α)) (horder : order.Perm (branch :: branches w c rest)) :
        settle (before ++ order.flatten) =
          settle (before ++ (branch :: branches w c rest).flatten) :=
      h _ order ⟨_, _, hcollects, hrest, by rw [hbranch]⟩ horder
    have hothers : SteadyBranches w agree c before rest ∧
        (branches w c rest).Pairwise (agree before) := by
      apply steadyBranches_of_settled hs
      intro parts order hparts hperm
      have hlast : (order ++ [branch]).Perm (branch :: parts) :=
        List.perm_append_comm.trans (hperm.cons branch)
      have hleft := h _ _ ⟨_, parts, hcollects, hparts, by rw [hbranch]⟩ hlast
      have hright := hwhole (branches w c rest ++ [branch]) List.perm_append_comm
      have hsame := hleft.trans hright.symm
      rw [List.flatten_append, List.flatten_append, ← List.append_assoc, ← List.append_assoc] at hsame
      refine hs.cancel (List.Perm.append_left _ ?_) hsame
      exact hperm.flatten.trans (List.Perm.flatten_congr (CollectsBranches.forall₂ hparts))
    refine ⟨⟨hsteady, hothers.1⟩, List.pairwise_cons.mpr ⟨?_, hothers.2⟩⟩
    intro other hother
    obtain ⟨front, back, hsplit⟩ := List.append_of_mem hother
    have hmiddle : (branches w c rest).Perm (other :: (front ++ back)) := by
      rw [hsplit]
      exact List.perm_middle
    have hpair := (hwhole (branch :: other :: (front ++ back)) (hmiddle.symm.cons _)).trans
      (hwhole (other :: branch :: (front ++ back))
        ((List.Perm.swap _ _ _).trans (hmiddle.symm.cons _))).symm
    simp only [List.flatten_cons, ← List.append_assoc] at hpair
    rw [List.append_assoc before branch, List.append_assoc before other] at hpair
    exact hs.agrees.mpr (hs.cancel (List.perm_append_comm.append_left _) hpair)

theorem steadyItems_of_settled (hs : Settles settle agree) : ∀ {c : γ} {before : List α}
    {items : List Document}, (∀ out, CollectsItems w c items out →
      settle (before ++ out) = settle (before ++ collectedItems w c items)) →
    SteadyItems w agree c before items
  | _, _, [], _ => trivial
  | c, before, item :: rest, h => by
    rw [SteadyItems]
    simp only [collectedItems, ← List.append_assoc] at h
    constructor
    · apply steady_of_settled hs
      intro first hfirst
      have hsettled := h _ ⟨first, _, hfirst, collectsItems_collectedItems w c rest, rfl⟩
      rw [← List.append_assoc] at hsettled
      exact hs.cancel ((Collects.perm hfirst).append_left _) hsettled
    · apply steadyItems_of_settled hs
      intro others hothers
      have hsettled := h _ ⟨_, others, collects_collected w c item, hothers, rfl⟩
      rw [← List.append_assoc] at hsettled
      exact hsettled

end

/-- The walk has one result in all orders just when the document is steady. -/
theorem settled_iff (hs : Settles settle agree) {c : γ} {before : List α} {value : Document} :
    (∀ out out', Collects w c value out → Collects w c value out' →
      settle (before ++ out) = settle (before ++ out')) ↔ Steady w agree c before value := by
  constructor
  · intro h
    apply steady_of_settled hs
    intro out hout
    exact h out _ hout (collects_collected w c value)
  · intro hsteady out out' hout hout'
    rw [hsteady.settled hs hout, hsteady.settled hs hout']

end Steady

/-! ### A list of all values, a list of the first ones -/

/-- Without a rule the branches must commute. -/
theorem settles_id {α : Type} :
    Settles (fun xs : List α => xs) fun _ xs ys => xs ++ ys = ys ++ xs where
  append zs h := congrArg (· ++ zs) h
  cancel hperm h := (List.append_inj h hperm.length_eq).1
  later between _ h := by
    rw [List.append_assoc, List.append_assoc, List.append_cancel_left h]
  agrees := ⟨fun h => congrArg _ h, List.append_cancel_left⟩

section Fresh

variable {α κ : Type} [DecidableEq κ] (key : α → κ)

/-- The values whose keys were not seen before. -/
def fresh : List κ → List α → List α
  | _, [] => []
  | seen, a :: rest =>
    if key a ∈ seen then fresh seen rest else a :: fresh (key a :: seen) rest

variable {key}

theorem fresh_congr {seen seen' : List κ} (h : ∀ k, k ∈ seen ↔ k ∈ seen') (xs : List α) :
    fresh key seen xs = fresh key seen' xs := by
  induction xs generalizing seen seen' with
  | nil => rfl
  | cons a rest ih =>
    have hcons : fresh key (key a :: seen) rest = fresh key (key a :: seen') rest := by
      apply ih
      intro k
      rw [List.mem_cons, List.mem_cons, h]
    rw [fresh, fresh, ih h, hcons]
    simp only [h]

theorem fresh_append (seen : List κ) (xs ys : List α) :
    fresh key seen (xs ++ ys) = fresh key seen xs ++ fresh key (xs.map key ++ seen) ys := by
  induction xs generalizing seen with
  | nil => rfl
  | cons a rest ih =>
    rw [List.cons_append, fresh, fresh, ih, ih]
    split_ifs with hseen
    · congr 1
      apply fresh_congr
      intro k
      simp only [List.map_cons, List.cons_append, List.mem_cons, List.mem_append]
      constructor
      · exact Or.inr
      · rintro (rfl | hk)
        · exact .inr hseen
        · exact hk
    · rw [List.cons_append]
      congr 2
      apply fresh_congr
      intro k
      simp only [List.map_cons, List.cons_append, List.mem_cons, List.mem_append]
      tauto

/-- Whatever is seen besides is left out. -/
theorem fresh_more (more seen : List κ) (xs : List α) :
    fresh key (more ++ seen) xs = (fresh key seen xs).filter fun a => key a ∉ more := by
  induction xs generalizing seen with
  | nil => rfl
  | cons a rest ih =>
    have hcons : fresh key (key a :: (more ++ seen)) rest =
        (fresh key (key a :: seen) rest).filter fun b => key b ∉ more := by
      rw [← ih]
      apply fresh_congr
      intro k
      simp only [List.mem_cons, List.mem_append]
      tauto
    rw [fresh, fresh]
    by_cases hseen : key a ∈ seen
    · rw [if_pos hseen, if_pos (List.mem_append_right _ hseen), ih]
    · rw [if_neg hseen]
      by_cases hmore : key a ∈ more
      · rw [if_pos (List.mem_append_left _ hmore), List.filter_cons_of_neg (by simpa using hmore),
          ← hcons]
        apply fresh_congr
        intro k
        simp only [List.mem_cons, List.mem_append]
        constructor
        · exact Or.inr
        · rintro (rfl | hk)
          · exact .inl hmore
          · exact hk
      · rw [if_neg (by simp [hseen, hmore]), List.filter_cons_of_pos (by simpa using hmore), hcons]

theorem mem_keys_fresh {seen : List κ} {xs : List α} {k : κ} :
    k ∈ (fresh key seen xs).map key ↔ k ∈ xs.map key ∧ k ∉ seen := by
  induction xs generalizing seen with
  | nil => simp [fresh]
  | cons a rest ih =>
    rw [fresh]
    split_ifs with hseen
    · rw [ih, List.map_cons, List.mem_cons]
      constructor
      · exact fun h => ⟨.inr h.1, h.2⟩
      · rintro ⟨rfl | hk, hnew⟩
        · exact absurd hseen hnew
        · exact ⟨hk, hnew⟩
    · rw [List.map_cons, List.mem_cons, ih, List.map_cons, List.mem_cons, List.mem_cons]
      by_cases hk : k = key a
      · simp [hk, hseen]
      · simp [hk]

theorem nodup_keys_fresh (seen : List κ) (xs : List α) : ((fresh key seen xs).map key).Nodup := by
  induction xs generalizing seen with
  | nil => exact List.nodup_nil
  | cons a rest ih =>
    rw [fresh]
    split_ifs with hseen
    · exact ih seen
    · rw [List.map_cons, List.nodup_cons]
      exact ⟨fun hk => (mem_keys_fresh.mp hk).2 List.mem_cons_self, ih _⟩

theorem length_fresh_of_perm {seen : List κ} {xs ys : List α} (h : xs.Perm ys) :
    (fresh key seen xs).length = (fresh key seen ys).length := by
  have hkeys : ((fresh key seen xs).map key).Perm ((fresh key seen ys).map key) := by
    rw [List.perm_ext_iff_of_nodup (nodup_keys_fresh seen xs) (nodup_keys_fresh seen ys)]
    intro k
    rw [mem_keys_fresh, mem_keys_fresh, (h.map key).mem_iff]
  simpa using hkeys.length_eq

/-- Of two branches one begins with the other, in what both of them add. -/
def Extends (key : α → κ) (before xs ys : List α) : Prop :=
  fresh key (before.map key) xs <+: fresh key (before.map key) ys ∨
    fresh key (before.map key) ys <+: fresh key (before.map key) xs

instance [DecidableEq α] (before xs ys : List α) : Decidable (Extends key before xs ys) :=
  inferInstanceAs (Decidable (_ ∨ _))

/-- What a branch adds to another one that begins it. -/
theorem fresh_rest {before xs ys : List α}
    (h : fresh key (before.map key) xs <+: fresh key (before.map key) ys) :
    fresh key (before.map key) xs ++ fresh key (xs.map key ++ before.map key) ys =
        fresh key (before.map key) ys ∧
      fresh key (ys.map key ++ before.map key) xs = [] := by
  obtain ⟨added, hadded⟩ := h
  have hnodup := @nodup_keys_fresh _ _ _ key (before.map key) ys
  rw [← hadded, List.map_append] at hnodup
  have hdisjoint := List.disjoint_of_nodup_append hnodup
  constructor
  · rw [fresh_more, ← hadded, List.filter_append]
    have hold : (fresh key (before.map key) xs).filter (fun a => key a ∉ xs.map key) = [] := by
      apply List.filter_eq_nil_iff.mpr
      intro a ha
      simpa using (mem_keys_fresh.mp (List.mem_map_of_mem ha)).1
    have hnew : added.filter (fun a => key a ∉ xs.map key) = added := by
      apply List.filter_eq_self.mpr
      intro a ha
      have hbefore : key a ∉ before.map key := by
        refine (mem_keys_fresh.mp (?_ : key a ∈ (fresh key (before.map key) ys).map key)).2
        rw [← hadded, List.map_append]
        exact List.mem_append_right _ (List.mem_map_of_mem ha)
      apply decide_eq_true
      intro hxs
      exact hdisjoint (mem_keys_fresh.mpr ⟨hxs, hbefore⟩) (List.mem_map_of_mem ha)
    rw [hold, hnew, List.nil_append]
  · rw [fresh_more]
    apply List.filter_eq_nil_iff.mpr
    intro a ha
    have hys : key a ∈ (fresh key (before.map key) ys).map key := by
      rw [← hadded, List.map_append]
      exact List.mem_append_left _ (List.mem_map_of_mem ha)
    simpa using (mem_keys_fresh.mp hys).1

/-- A list of the first values: one branch must begin with what the other adds. -/
theorem settles_fresh : Settles (fresh key []) (Extends key) where
  append {xs ys} zs h := by
    have hkeys (k : κ) : k ∈ xs.map key ++ [] ↔ k ∈ ys.map key ++ [] := by
      have hfresh (zs : List α) : k ∈ (fresh key [] zs).map key ↔ k ∈ zs.map key ++ [] := by
        simp [mem_keys_fresh]
      rw [← hfresh, ← hfresh, h]
    rw [fresh_append, fresh_append, h, fresh_congr hkeys]
  cancel hperm h := by
    rw [fresh_append, fresh_append] at h
    exact (List.append_inj h (length_fresh_of_perm hperm)).1
  later {before xs ys} between _ h := by
    rw [fresh_append, fresh_append, List.append_nil] at h
    have hsame := List.append_cancel_left h
    have hkeys (k : κ) : k ∈ (before ++ between).map key ++ [] ↔
        k ∈ between.map key ++ before.map key := by
      simp only [List.map_append, List.append_nil, List.mem_append]
      exact or_comm
    rw [fresh_append [] (before ++ between), fresh_append [] (before ++ between),
      fresh_congr hkeys, fresh_congr hkeys, fresh_more, fresh_more, hsame]
  agrees {before xs ys} := by
    simp only [fresh_append, List.append_nil, List.append_cancel_left_eq]
    constructor
    · rintro (h | h)
      · obtain ⟨hwhole, hnone⟩ := fresh_rest h
        rw [hwhole, hnone, List.append_nil]
      · obtain ⟨hwhole, hnone⟩ := fresh_rest h
        rw [hwhole, hnone, List.append_nil]
    · intro h
      have hfirst := List.prefix_append (fresh key (before.map key) xs)
        (fresh key (xs.map key ++ before.map key) ys)
      rw [h] at hfirst
      exact List.prefix_or_prefix_of_prefix hfirst (List.prefix_append _ _)

/-- A list without doubles loses what was seen before. -/
theorem fresh_of_nodup {xs : List α} (seen : List κ) (h : (xs.map key).Nodup) :
    fresh key seen xs = xs.filter fun a => key a ∉ seen := by
  have hall : fresh key [] xs = xs := by
    induction xs with
    | nil => rfl
    | cons a rest ih =>
      obtain ⟨ha, hrest⟩ := List.nodup_cons.mp h
      have hmore : fresh key [key a] rest =
          (fresh key [] rest).filter fun b => key b ∉ [key a] := fresh_more [key a] [] rest
      rw [fresh, if_neg List.not_mem_nil, hmore, ih hrest]
      congr 1
      apply List.filter_eq_self.mpr
      intro b hb
      apply decide_eq_true
      rw [List.mem_singleton]
      exact fun hkey => ha (hkey ▸ List.mem_map_of_mem hb)
  rw [← List.append_nil seen, fresh_more, hall, List.append_nil]

theorem fresh_fresh (seen : List κ) (xs : List α) :
    fresh key seen (fresh key [] xs) = fresh key seen xs := by
  rw [fresh_of_nodup seen (nodup_keys_fresh [] xs), ← fresh_more, List.append_nil]

end Fresh

/-- The first values of a walk are the same in all orders just when the document is steady. -/
theorem fresh_unique_iff {γ α κ : Type} [DecidableEq κ] {w : Walk γ α} {key : α → κ} {c : γ}
    {value : Document} :
    ParsedAlike (fun xs => ∃ out, Collects w c value out ∧ xs = fresh key [] out) ↔
      Steady w (Extends key) c [] value := by
  rw [← settled_iff settles_fresh]
  simp only [List.nil_append]
  constructor
  · intro h out out' hout hout'
    exact h _ _ ⟨out, hout, rfl⟩ ⟨out', hout', rfl⟩
  · rintro h _ _ ⟨out, hout, rfl⟩ ⟨out', hout', rfl⟩
    exact h out out' hout hout'

end Documents

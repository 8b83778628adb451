import Mathlib.Data.List.Nodup
import Mathlib.Tactic

/-!
# Merging by a key

Entries with one key replace each other: the last one given stays, at the place of the
first one. A merged list is known by the order of its keys and the entry of each.
-/

namespace Merging

variable {α κ : Type} [DecidableEq κ]

/-- The keys in the order in which they appear first. -/
def order (keys : List κ) : List κ :=
  keys.foldl (fun seen k => if k ∈ seen then seen else seen ++ [k]) []

theorem order_snoc (keys : List κ) (k : κ) :
    order (keys ++ [k]) = if k ∈ order keys then order keys else order keys ++ [k] := by
  rw [order, List.foldl_append]
  rfl

theorem mem_order {keys : List κ} {k : κ} : k ∈ order keys ↔ k ∈ keys := by
  induction keys using List.reverseRecOn with
  | nil => rfl
  | append_singleton keys j ih =>
    rw [order_snoc, List.mem_append, List.mem_singleton]
    split_ifs with hj
    · constructor
      · exact fun hk => .inl (ih.mp hk)
      · rintro (hk | rfl)
        · exact ih.mpr hk
        · exact hj
    · rw [List.mem_append, ih, List.mem_singleton]

theorem order_nodup (keys : List κ) : (order keys).Nodup := by
  induction keys using List.reverseRecOn with
  | nil => exact List.nodup_nil
  | append_singleton keys j ih =>
    rw [order_snoc]
    split_ifs with hj
    · exact ih
    · exact List.nodup_append.mpr ⟨ih, List.nodup_singleton j,
        fun a ha b hb hab => hj (List.mem_singleton.mp hb ▸ hab ▸ ha)⟩

theorem order_of_nodup {keys : List κ} (h : keys.Nodup) : order keys = keys := by
  induction keys using List.reverseRecOn with
  | nil => rfl
  | append_singleton keys j ih =>
    obtain ⟨hkeys, -, hdisjoint⟩ := List.nodup_append.mp h
    rw [order_snoc, ih hkeys, if_neg fun hj => hdisjoint j hj j (List.mem_singleton_self j) rfl]

theorem order_append (keys keys' : List κ) :
    order (keys ++ keys') =
      keys'.foldl (fun seen k => if k ∈ seen then seen else seen ++ [k]) (order keys) := by
  rw [order, List.foldl_append]
  rfl

theorem order_order_append (keys keys' : List κ) :
    order (order keys ++ keys') = order (keys ++ keys') := by
  rw [order_append, order_append, order_of_nodup (order_nodup keys)]

theorem order_append_order (keys keys' : List κ) :
    order (keys ++ order keys') = order (keys ++ keys') := by
  induction keys' using List.reverseRecOn with
  | nil => rfl
  | append_singleton keys' j ih =>
    rw [order_snoc, ← List.append_assoc, order_snoc]
    split_ifs with hj hin hin
    · exact ih
    · exact absurd (mem_order.mpr (List.mem_append_right _ (mem_order.mp hj))) hin
    · rw [← List.append_assoc, order_snoc, ih, if_pos hin]
    · rw [← List.append_assoc, order_snoc, ih, if_neg hin]

section Entries

variable (key : α → κ)

/-- The entry in the place of the one with its key, or at the end. -/
def put (a : α) : List α → List α
  | [] => [a]
  | b :: rest => if key b = key a then a :: rest else b :: put a rest

def merge (xs : List α) : List α := xs.foldl (fun merged a => put key a merged) []

/-- The last entry with the key. -/
def last (xs : List α) (k : κ) : Option α := xs.reverse.find? fun a => key a = k

theorem merge_snoc (xs : List α) (a : α) : merge key (xs ++ [a]) = put key a (merge key xs) := by
  rw [merge, List.foldl_append]
  rfl

theorem map_put (a : α) (xs : List α) :
    (put key a xs).map key =
      if key a ∈ xs.map key then xs.map key else xs.map key ++ [key a] := by
  induction xs with
  | nil => rfl
  | cons b rest ih =>
    rw [put]
    by_cases hb : key b = key a
    · rw [if_pos hb, if_pos (by simp [hb]), List.map_cons, List.map_cons, hb]
    · rw [if_neg hb, List.map_cons, ih, List.map_cons]
      by_cases hrest : key a ∈ rest.map key
      · rw [if_pos hrest, if_pos (List.mem_cons_of_mem _ hrest)]
      · have hnot : key a ∉ key b :: rest.map key := by
          rw [List.mem_cons, not_or]
          exact ⟨Ne.symm hb, hrest⟩
        rw [if_neg hrest, if_neg hnot]
        rfl

theorem find?_put (a : α) (xs : List α) (k : κ) :
    (put key a xs).find? (fun b => key b = k) =
      if key a = k then some a else xs.find? fun b => key b = k := by
  induction xs with
  | nil =>
    rw [put, List.find?_singleton]
    simp
  | cons b rest ih =>
    rw [put]
    by_cases hb : key b = key a
    · rw [if_pos hb, List.find?_cons, List.find?_cons, hb]
      by_cases hk : key a = k <;> simp [hk]
    · rw [if_neg hb, List.find?_cons, List.find?_cons, ih]
      by_cases hk : key a = k
      · have hbk : key b ≠ k := fun h => hb (h.trans hk.symm)
        simp [hk, hbk]
      · simp [hk]

theorem last_snoc (xs : List α) (a : α) (k : κ) :
    last key (xs ++ [a]) k = if key a = k then some a else last key xs k := by
  rw [last, List.reverse_append, List.reverse_singleton, List.singleton_append, List.find?_cons]
  by_cases hk : key a = k <;> simp [hk, last]

theorem last_append (xs ys : List α) (k : κ) :
    last key (xs ++ ys) k = (last key ys k).or (last key xs k) := by
  rw [last, List.reverse_append, List.find?_append]
  rfl

theorem map_merge (xs : List α) : (merge key xs).map key = order (xs.map key) := by
  induction xs using List.reverseRecOn with
  | nil => rfl
  | append_singleton xs a ih =>
    rw [merge_snoc, map_put, ih, List.map_append, List.map_singleton, order_snoc]

theorem find?_merge (xs : List α) (k : κ) :
    (merge key xs).find? (fun a => key a = k) = last key xs k := by
  induction xs using List.reverseRecOn with
  | nil => rfl
  | append_singleton xs a ih => rw [merge_snoc, find?_put, ih, last_snoc]

theorem merge_keys_nodup (xs : List α) : ((merge key xs).map key).Nodup := by
  rw [map_merge]
  exact order_nodup _

variable {key}

/-- A list with different keys is known by them and by the entry of each. -/
theorem eq_of_find? {xs ys : List α} (hkeys : xs.map key = ys.map key)
    (hnodup : (xs.map key).Nodup)
    (hfind : ∀ k, xs.find? (fun a => key a = k) = ys.find? fun a => key a = k) : xs = ys := by
  induction xs generalizing ys with
  | nil => exact (List.map_eq_nil_iff.mp hkeys.symm).symm
  | cons a rest ih =>
    cases ys with
    | nil => cases hkeys
    | cons b rest' =>
      obtain ⟨hab, hrest⟩ := List.cons.inj hkeys
      obtain ⟨hfresh, hnodup⟩ := List.nodup_cons.mp hnodup
      have hfirst := hfind (key a)
      rw [List.find?_cons_of_pos (by simp), List.find?_cons_of_pos (by simp [hab])] at hfirst
      obtain rfl := Option.some.inj hfirst
      congr 1
      refine ih hrest hnodup fun k => ?_
      by_cases hk : key a = k
      · have hnone (zs : List α) (hzs : key a ∉ zs.map key) :
            zs.find? (fun c => key c = k) = none := by
          rw [List.find?_eq_none]
          intro c hc hck
          exact hzs (List.mem_map.mpr ⟨c, hc, (of_decide_eq_true hck).trans hk.symm⟩)
        rw [hnone rest hfresh, hnone rest' (hrest ▸ hfresh)]
      · have hboth := hfind k
        rwa [List.find?_cons_of_neg (by simpa using hk),
          List.find?_cons_of_neg (by simpa using hk)] at hboth

theorem merge_eq_of {xs ys : List α} (hkeys : order (xs.map key) = order (ys.map key))
    (hlast : ∀ k, last key xs k = last key ys k) : merge key xs = merge key ys := by
  refine eq_of_find? ?_ (merge_keys_nodup key xs) fun k => ?_
  · rw [map_merge, map_merge, hkeys]
  · rw [find?_merge, find?_merge, hlast]

/-- Among different keys the first entry of a key is the last one. -/
theorem last_of_nodup {xs : List α} (h : (xs.map key).Nodup) (k : κ) :
    last key xs k = xs.find? fun a => key a = k := by
  induction xs with
  | nil => rfl
  | cons a rest ih =>
    obtain ⟨hfresh, hrest⟩ := List.nodup_cons.mp h
    rw [← List.singleton_append, last_append, ih hrest, List.singleton_append, List.find?_cons]
    by_cases hk : key a = k
    · have hnone : rest.find? (fun c => key c = k) = none := by
        rw [List.find?_eq_none]
        intro c hc hck
        exact hfresh (List.mem_map.mpr ⟨c, hc, (of_decide_eq_true hck).trans hk.symm⟩)
      simp [hnone, last, hk]
    · simp [last, hk]

theorem last_merge (xs : List α) (k : κ) : last key (merge key xs) k = last key xs k := by
  rw [last_of_nodup (merge_keys_nodup key xs), find?_merge]

theorem merge_of_nodup {xs : List α} (h : (xs.map key).Nodup) : merge key xs = xs := by
  refine eq_of_find? ?_ (merge_keys_nodup key xs) fun k => ?_
  · rw [map_merge, order_of_nodup h]
  · rw [find?_merge, last_of_nodup h]

/-- Merging in two steps is merging at once. -/
theorem merge_merge_append (xs ys : List α) :
    merge key (merge key xs ++ ys) = merge key (xs ++ ys) := by
  apply merge_eq_of
  · rw [List.map_append, map_merge, order_order_append, List.map_append]
  · intro k
    rw [last_append, last_append, last_merge]

theorem merge_append_merge (xs ys : List α) :
    merge key (xs ++ merge key ys) = merge key (xs ++ ys) := by
  apply merge_eq_of
  · rw [List.map_append, map_merge, order_append_order, List.map_append]
  · intro k
    rw [last_append, last_append, last_merge]

/-- What was merged last changes nothing when it is merged again. -/
theorem merge_append_self (xs ys : List α) : merge key (xs ++ ys ++ ys) = merge key (xs ++ ys) := by
  apply merge_eq_of
  · have hseen (keys : List κ) (more : List κ) (h : ∀ k ∈ more, k ∈ keys) :
        order (keys ++ more) = order keys := by
      induction more using List.reverseRecOn with
      | nil => rw [List.append_nil]
      | append_singleton more j ih =>
        have hj : j ∈ order (keys ++ more) :=
          mem_order.mpr (List.mem_append_left _ (h j (by simp)))
        rw [← List.append_assoc, order_snoc, if_pos hj, ih fun k hk => h k (by simp [hk])]
    rw [List.map_append, hseen]
    intro k hk
    rw [List.map_append]
    exact List.mem_append_right _ hk
  · intro k
    rw [last_append, last_append]
    cases last key ys k <;> simp

theorem merge_append_idem (xs : List α) : merge key (xs ++ xs) = merge key xs :=
  merge_append_self [] xs

theorem mem_of_last {xs : List α} {a : α} {k : κ} (h : last key xs k = some a) :
    a ∈ xs ∧ key a = k := by
  have hfound := List.find?_eq_some_iff_append.mp h
  exact ⟨List.mem_reverse.mp (List.mem_of_find?_eq_some h), of_decide_eq_true hfound.1⟩

theorem last_of_mem_merge {xs : List α} {a : α} (h : a ∈ merge key xs) :
    last key xs (key a) = some a := by
  rw [← find?_merge]
  have hnodup := merge_keys_nodup key xs
  generalize merge key xs = merged at h hnodup
  induction merged with
  | nil => cases h
  | cons b rest ih =>
    obtain ⟨hfresh, hrest⟩ := List.nodup_cons.mp hnodup
    rcases List.mem_cons.mp h with rfl | hmem
    · exact List.find?_cons_of_pos (by simp)
    · have hne : key b ≠ key a := fun hb => hfresh (hb ▸ List.mem_map_of_mem hmem)
      rw [List.find?_cons_of_neg (by simpa using hne)]
      exact ih hmem hrest

theorem mem_of_mem_merge {xs : List α} {a : α} (h : a ∈ merge key xs) : a ∈ xs :=
  (mem_of_last (last_of_mem_merge h)).1

/-! ### Positions by key -/

/-- Merged entries with the position of each key, as a program with a map keeps them. -/
structure Indexed (α κ : Type) where
  entries : List α
  positions : List (κ × ℕ)

variable (key)

def Indexed.put (m : Indexed α κ) (a : α) : Indexed α κ :=
  match m.positions.lookup (key a) with
  | some i => { m with entries := m.entries.set i a }
  | none =>
    { entries := m.entries ++ [a], positions := (key a, m.entries.length) :: m.positions }

/-- The positions are those of the keys. -/
def Indexed.Valid (m : Indexed α κ) : Prop :=
  ∀ k, m.positions.lookup k = (m.entries.map key).findIdx? fun j => j = k

theorem Indexed.valid_empty : (⟨[], []⟩ : Indexed α κ).Valid key := fun _ => rfl

theorem put_eq_match (a : α) (xs : List α) :
    put key a xs =
      match (xs.map key).findIdx? (fun j => j = key a) with
      | some i => xs.set i a
      | none => xs ++ [a] := by
  induction xs with
  | nil => rfl
  | cons b rest ih =>
    rw [put, List.map_cons, List.findIdx?_cons]
    by_cases hb : key b = key a
    · simp [hb]
    · rw [if_neg hb, ih]
      cases hfind : (rest.map key).findIdx? fun j => j = key a <;> simp [hb]

variable {key}

/-- The map leads to the entry that is replaced, and stays right. -/
theorem Indexed.put_spec {m : Indexed α κ} (hvalid : m.Valid key) (a : α) :
    (m.put key a).entries = Merging.put key a m.entries ∧ (m.put key a).Valid key := by
  have hposition := hvalid (key a)
  have hentries : (m.put key a).entries = Merging.put key a m.entries := by
    rw [put_eq_match, ← hposition, Indexed.put]
    cases m.positions.lookup (key a) <;> rfl
  constructor
  · exact hentries
  · intro k
    rw [hentries, map_put, Indexed.put]
    cases hlookup : m.positions.lookup (key a) with
    | some i =>
      have hmem : key a ∈ m.entries.map key := by
        by_contra hnot
        rw [hlookup, List.findIdx?_eq_none_iff.mpr] at hposition
        · cases hposition
        · intro j hj
          exact decide_eq_false fun heq => hnot (heq ▸ hj)
      rw [if_pos hmem]
      exact hvalid k
    | none =>
      have hnot : key a ∉ m.entries.map key := by
        intro hmem
        rw [hlookup] at hposition
        have hnone := List.findIdx?_eq_none_iff.mp hposition.symm (key a) hmem
        simp at hnone
      rw [if_neg hnot, List.findIdx?_append, ← hvalid k, List.lookup_cons]
      by_cases hk : k = key a
      · simp [hk, hlookup, List.findIdx?_cons]
      · have hbeq : (k == key a) = false := by simpa using hk
        have hne : ¬ key a = k := fun h => hk h.symm
        simp [hbeq, hne, List.findIdx?_cons]

end Entries

end Merging

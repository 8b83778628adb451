import Mathlib.Algebra.BigOperators.Group.Finset.Basic
import Mathlib.Algebra.Order.BigOperators.Group.Finset
import Mathlib.Data.List.Nodup
import Mathlib.Tactic

/-!
# Tables with a primary key

A table is a list of rows together with the proof that no two rows share a key,
so a lookup determines the row and an aggregate over the rows is a finite sum
over the keys. Statements that rewrite rows in place keep the keys; the only
operation that can fail is the insertion of a key that is already there.
-/

namespace Relational

/-- The primary key of a row. -/
class Keyed (κ : outParam Type) (ρ : Type) where
  key : ρ → κ

/-- Rows under a primary key, in insertion order. -/
structure Table (ρ : Type) {κ : Type} [Keyed κ ρ] where
  rows : List ρ
  nodup : (rows.map Keyed.key).Nodup

namespace Table

open Keyed

variable {ρ κ : Type} [Keyed κ ρ]

theorem ext_rows {t u : Table ρ} (h : t.rows = u.rows) : t = u := by
  cases t
  cases u
  cases h
  rfl

def empty : Table ρ := ⟨[], by simp⟩

instance : Inhabited (Table ρ) := ⟨empty⟩

/-- `UPDATE … SET f WHERE p`, for an `f` that leaves the key alone. -/
def updateWhere (t : Table ρ) (p : ρ → Bool) (f : ρ → ρ)
    (hf : ∀ r, key (f r) = key r) : Table ρ where
  rows := t.rows.map fun r => if p r then f r else r
  nodup := by
    have h : (key : ρ → κ) ∘ (fun r => if p r then f r else r) = key := by
      funext r
      by_cases hp : p r <;> simp [hp, hf]
    rw [List.map_map, h]
    exact t.nodup

/-- The rows in another form, under the same keys. -/
def mapRows {ρ' : Type} [Keyed κ ρ'] (t : Table ρ) (f : ρ → ρ') (hf : ∀ r, key (f r) = key r) :
    Table ρ' where
  rows := t.rows.map f
  nodup := by
    have h : (key : ρ' → κ) ∘ f = key := funext hf
    rw [List.map_map, h]
    exact t.nodup

/-- `DELETE … WHERE p`. -/
def deleteWhere (t : Table ρ) (p : ρ → Bool) : Table ρ where
  rows := t.rows.filter fun r => !p r
  nodup := (List.filter_sublist.map key).nodup t.nodup

/-- `SELECT count(*) … WHERE p`. -/
def count (t : Table ρ) (p : ρ → Bool) : ℕ := t.rows.countP p

/-- `SELECT … WHERE p`, in insertion order. -/
def select (t : Table ρ) (p : ρ → Bool) : List ρ := t.rows.filter p

/-- `SELECT sum(g) …`. -/
def total {M : Type} [AddCommMonoid M] (t : Table ρ) (g : ρ → M) : M := (t.rows.map g).sum

theorem count_eq_total (t : Table ρ) (p : ρ → Bool) :
    t.count p = t.total fun r => if p r then 1 else 0 := by
  unfold count total
  induction t.rows with
  | nil => rfl
  | cons r rs ih => by_cases hp : p r <;> simp [hp, ih, add_comm]

section Lookup

variable [DecidableEq κ]

def get? (t : Table ρ) (k : κ) : Option ρ := t.rows.find? fun r => key r = k

@[simp] theorem get?_empty (k : κ) : (empty : Table ρ).get? k = none := rfl

theorem key_of_get? {t : Table ρ} {k : κ} {r : ρ} (h : t.get? k = some r) : key r = k := by
  simpa using List.find?_some h

theorem mem_of_get? {t : Table ρ} {k : κ} {r : ρ} (h : t.get? k = some r) : r ∈ t.rows :=
  List.mem_of_find?_eq_some h

theorem find?_key_of_mem {rs : List ρ} (hn : (rs.map key).Nodup) {r : ρ} (hr : r ∈ rs) :
    (rs.find? fun s => key s = key r) = some r := by
  induction rs with
  | nil => simp at hr
  | cons s rs ih =>
    rw [List.map_cons, List.nodup_cons] at hn
    rcases List.mem_cons.mp hr with rfl | hr
    · simp
    · have hne : key s ≠ key r := by
        intro h
        exact hn.1 (h ▸ List.mem_map_of_mem hr)
      simpa [hne] using ih hn.2 hr

theorem get?_of_mem {t : Table ρ} {r : ρ} (hr : r ∈ t.rows) : t.get? (key r) = some r :=
  find?_key_of_mem t.nodup hr

theorem mem_rows_iff {t : Table ρ} {r : ρ} : r ∈ t.rows ↔ t.get? (key r) = some r :=
  ⟨get?_of_mem, mem_of_get?⟩

theorem get?_eq_none_iff {t : Table ρ} {k : κ} : t.get? k = none ↔ k ∉ t.rows.map key := by
  simp [get?]

/-- At most one row has the key `k`. -/
theorem select_key (t : Table ρ) (k : κ) : (t.select fun r => key r = k) = (t.get? k).toList := by
  obtain ⟨rs, hn⟩ := t
  simp only [select, get?]
  induction rs with
  | nil => rfl
  | cons r rs ih =>
    rw [List.map_cons, List.nodup_cons] at hn
    by_cases hr : key r = k
    · have hrest : rs.filter (fun s => decide (key s = k)) = [] := by
        rw [List.filter_eq_nil_iff]
        intro s hs hk
        exact hn.1 (hr ▸ of_decide_eq_true hk ▸ List.mem_map_of_mem hs)
      simp [hr, hrest]
    · simpa [hr] using ih hn.2

@[simp] theorem get?_updateWhere (t : Table ρ) (p : ρ → Bool) (f : ρ → ρ)
    (hf : ∀ r, key (f r) = key r) (k : κ) :
    (t.updateWhere p f hf).get? k = (t.get? k).map fun r => if p r then f r else r := by
  have h : ((fun r => decide (key r = k)) ∘ fun r => if p r then f r else r) =
      fun r => decide (key r = k) := by
    funext r
    by_cases hp : p r <;> simp [hp, hf]
  simp only [get?, updateWhere, List.find?_map, h]

theorem get?_of_deleteWhere {t : Table ρ} {p : ρ → Bool} {k : κ} {r : ρ}
    (h : (t.deleteWhere p).get? k = some r) : t.get? k = some r := by
  have hmem : r ∈ t.rows := List.mem_of_mem_filter (mem_of_get? h)
  rw [← key_of_get? h]
  exact get?_of_mem hmem

theorem get?_deleteKey (t : Table ρ) (k j : κ) :
    (t.deleteWhere fun r => key r = k).get? j = if j = k then none else t.get? j := by
  split_ifs with hj
  · rw [get?_eq_none_iff, List.mem_map]
    rintro ⟨r, hr, rfl⟩
    simp [deleteWhere, hj] at hr
  · cases h : t.get? j with
    | none =>
      rw [get?_eq_none_iff] at h ⊢
      exact fun hmem => h ((List.filter_sublist.map key).subset hmem)
    | some r =>
      have hkey : key r = j := key_of_get? h
      rw [← hkey]
      refine get?_of_mem (List.mem_filter.mpr ⟨mem_of_get? h, ?_⟩)
      simp [hkey, hj]

theorem get?_mapRows {ρ' : Type} [Keyed κ ρ'] (t : Table ρ) (f : ρ → ρ')
    (hf : ∀ r, key (f r) = key r) (k : κ) : (t.mapRows f hf).get? k = (t.get? k).map f := by
  have h : ((fun r => decide (key r = k)) ∘ f) = fun r => decide (key r = k) := by
    funext r
    simp [hf]
  simp only [get?, mapRows, List.find?_map, h]

/-- `UPDATE … SET f WHERE key = k`. -/
def modify (t : Table ρ) (k : κ) (f : ρ → ρ) (hf : ∀ r, key (f r) = key r) : Table ρ :=
  t.updateWhere (fun r => key r = k) f hf

theorem get?_modify (t : Table ρ) (k : κ) (f : ρ → ρ) (hf : ∀ r, key (f r) = key r) (j : κ) :
    (t.modify k f hf).get? j = if j = k then (t.get? j).map f else t.get? j := by
  rw [modify, get?_updateWhere]
  cases h : t.get? j with
  | none => simp
  | some r =>
    have hk : key r = j := key_of_get? h
    by_cases hj : j = k <;> simp [hk, hj]

@[simp] theorem get?_modify_self (t : Table ρ) (k : κ) (f : ρ → ρ)
    (hf : ∀ r, key (f r) = key r) : (t.modify k f hf).get? k = (t.get? k).map f := by
  simp [get?_modify]

theorem get?_modify_of_ne (t : Table ρ) {j k : κ} (h : j ≠ k) (f : ρ → ρ)
    (hf : ∀ r, key (f r) = key r) : (t.modify k f hf).get? j = t.get? j := by
  simp [get?_modify, h]

/-- `INSERT`; `none` is the unique violation on the primary key. -/
def insert? (t : Table ρ) (r : ρ) : Option (Table ρ) :=
  if h : key r ∈ t.rows.map key then none
  else some ⟨t.rows ++ [r], by
    rw [List.map_append, List.nodup_append]
    refine ⟨t.nodup, by simp, ?_⟩
    intro a ha b hb
    simp only [List.map_cons, List.map_nil, List.mem_singleton] at hb
    exact fun hab => h (hb ▸ hab ▸ ha)⟩

theorem insert?_eq_some {t u : Table ρ} {r : ρ} (h : t.insert? r = some u) :
    t.get? (key r) = none ∧ u.rows = t.rows ++ [r] := by
  unfold insert? at h
  split_ifs at h with hr
  cases h
  exact ⟨get?_eq_none_iff.mpr hr, rfl⟩

theorem get?_insert? {t u : Table ρ} {r : ρ} (h : t.insert? r = some u) (j : κ) :
    u.get? j = if j = key r then some r else t.get? j := by
  obtain ⟨hnone, hrows⟩ := insert?_eq_some h
  unfold get? at hnone ⊢
  rw [hrows, List.find?_append]
  by_cases hj : j = key r
  · subst hj
    simp [hnone]
  · simp [hj, Ne.symm hj]

theorem insert?_isSome {t : Table ρ} {r : ρ} (h : t.get? (key r) = none) :
    (t.insert? r).isSome := by
  unfold insert?
  rw [dif_neg (get?_eq_none_iff.mp h)]
  rfl

end Lookup

section Aggregate

variable [DecidableEq κ] {M : Type} [AddCommMonoid M]

def keys (t : Table ρ) : Finset κ := (t.rows.map key).toFinset

theorem mem_keys {t : Table ρ} {k : κ} : k ∈ t.keys ↔ t.get? k ≠ none := by
  rw [Ne, get?_eq_none_iff, not_not, keys, List.mem_toFinset]

/-- What the row under `k` adds to the aggregate `g`. -/
def contribution (t : Table ρ) (g : ρ → M) (k : κ) : M := ((t.get? k).map g).getD 0

theorem contribution_of_get? {t : Table ρ} {k : κ} {r : ρ} (h : t.get? k = some r) (g : ρ → M) :
    t.contribution g k = g r := by
  simp [contribution, h]

theorem contribution_of_none {t : Table ρ} {k : κ} (h : t.get? k = none) (g : ρ → M) :
    t.contribution g k = 0 := by
  simp [contribution, h]

theorem total_eq_sum (t : Table ρ) (g : ρ → M) : t.total g = ∑ k ∈ t.keys, t.contribution g k := by
  have h : t.rows.map g = (t.rows.map key).map (t.contribution g) := by
    rw [List.map_map]
    apply List.map_congr_left
    intro r hr
    exact (contribution_of_get? (get?_of_mem hr) g).symm
  rw [total, h, keys, List.sum_toFinset _ t.nodup]

theorem total_eq_sum_of_subset (t : Table ρ) (g : ρ → M) {s : Finset κ} (h : t.keys ⊆ s) :
    t.total g = ∑ k ∈ s, t.contribution g k := by
  rw [total_eq_sum]
  refine Finset.sum_subset h fun k _ hk => contribution_of_none ?_ g
  exact not_not.mp (mt mem_keys.mpr hk)

/-- Two aggregates agree when every key contributes the same to both. -/
theorem total_congr {t u : Table ρ} {g g' : ρ → M}
    (h : ∀ k, u.contribution g' k = t.contribution g k) : u.total g' = t.total g := by
  rw [total_eq_sum_of_subset u g' Finset.subset_union_left,
    total_eq_sum_of_subset t g (show t.keys ⊆ u.keys ∪ t.keys from Finset.subset_union_right)]
  exact Finset.sum_congr rfl fun k _ => h k

/-- An aggregate in which only the key `k` may differ moves by that key's contribution. -/
theorem total_add_contribution {t u : Table ρ} {g g' : ρ → M} (k : κ)
    (h : ∀ j, j ≠ k → u.contribution g' j = t.contribution g j) :
    u.total g' + t.contribution g k = t.total g + u.contribution g' k := by
  let s := insert k (u.keys ∪ t.keys)
  have hu : u.keys ⊆ s := Finset.subset_union_left.trans (Finset.subset_insert _ _)
  have ht : t.keys ⊆ s := Finset.subset_union_right.trans (Finset.subset_insert _ _)
  have hk : k ∈ s := Finset.mem_insert_self _ _
  rw [total_eq_sum_of_subset u g' hu, total_eq_sum_of_subset t g ht,
    ← Finset.add_sum_erase s _ hk, ← Finset.add_sum_erase s (t.contribution g) hk]
  have hrest : ∑ j ∈ s.erase k, u.contribution g' j = ∑ j ∈ s.erase k, t.contribution g j :=
    Finset.sum_congr rfl fun j hj => h j (Finset.ne_of_mem_erase hj)
  rw [hrest]
  abel

/-- A rewritten row moves an aggregate by what it contributes. -/
theorem total_modify {t : Table ρ} {k : κ} {r : ρ} (h : t.get? k = some r) (f : ρ → ρ)
    (hf : ∀ r, key (f r) = key r) (g : ρ → M) :
    (t.modify k f hf).total g + g r = t.total g + g (f r) := by
  have hothers (j : κ) (hj : j ≠ k) :
      (t.modify k f hf).contribution g j = t.contribution g j := by
    rw [contribution, get?_modify_of_ne t hj, contribution]
  have hmove := total_add_contribution k hothers
  rwa [contribution_of_get? h, contribution_of_get? (by rw [get?_modify_self, h]; rfl)] at hmove

theorem total_insert? {t u : Table ρ} {r : ρ} (h : t.insert? r = some u) (g : ρ → M) :
    u.total g = t.total g + g r := by
  rw [total, (insert?_eq_some h).2]
  simp [total]

/-- A deleted row takes its contribution with it. -/
theorem total_deleteKey {t : Table ρ} {k : κ} {r : ρ} (h : t.get? k = some r) (g : ρ → M) :
    (t.deleteWhere fun r => key r = k).total g + g r = t.total g := by
  have hothers (j : κ) (hj : j ≠ k) :
      (t.deleteWhere fun r => key r = k).contribution g j = t.contribution g j := by
    rw [contribution, get?_deleteKey, if_neg hj, contribution]
  have hmove := total_add_contribution k hothers
  rwa [contribution_of_get? h, contribution_of_none (by rw [get?_deleteKey, if_pos rfl]),
    add_zero] at hmove

variable [PartialOrder M] [IsOrderedAddMonoid M]

/-- An aggregate does not grow when no key contributes more. -/
theorem total_le_total {t u : Table ρ} {g g' : ρ → M}
    (h : ∀ k, u.contribution g' k ≤ t.contribution g k) : u.total g' ≤ t.total g := by
  rw [total_eq_sum_of_subset u g' Finset.subset_union_left,
    total_eq_sum_of_subset t g (show t.keys ⊆ u.keys ∪ t.keys from Finset.subset_union_right)]
  exact Finset.sum_le_sum fun k _ => h k

/-- When no key other than `k` contributes more, the aggregate grows by at most
what `k` gained. -/
theorem total_add_contribution_le {t u : Table ρ} {g g' : ρ → M} (k : κ)
    (h : ∀ j, j ≠ k → u.contribution g' j ≤ t.contribution g j) :
    u.total g' + t.contribution g k ≤ t.total g + u.contribution g' k := by
  let s := insert k (u.keys ∪ t.keys)
  have hu : u.keys ⊆ s := Finset.subset_union_left.trans (Finset.subset_insert _ _)
  have ht : t.keys ⊆ s := Finset.subset_union_right.trans (Finset.subset_insert _ _)
  have hk : k ∈ s := Finset.mem_insert_self _ _
  rw [total_eq_sum_of_subset u g' hu, total_eq_sum_of_subset t g ht,
    ← Finset.add_sum_erase s _ hk, ← Finset.add_sum_erase s (t.contribution g) hk]
  have hrest : ∑ j ∈ s.erase k, u.contribution g' j ≤ ∑ j ∈ s.erase k, t.contribution g j :=
    Finset.sum_le_sum fun j hj => h j (Finset.ne_of_mem_erase hj)
  calc
    _ = t.contribution g k + u.contribution g' k + ∑ j ∈ s.erase k, u.contribution g' j := by abel
    _ ≤ t.contribution g k + u.contribution g' k + ∑ j ∈ s.erase k, t.contribution g j :=
      add_le_add_right hrest _
    _ = _ := by abel

end Aggregate

end Table

end Relational

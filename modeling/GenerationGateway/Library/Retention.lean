import GenerationGateway.Library.Table
import Mathlib.Data.List.Sort

/-!
# Deletion in batches

A retention statement queues the rows that it may delete by their age and deletes the first of
them. What it may not delete stays, and repeated batches work the queue off from its front.
-/

namespace Relational.Table

open Keyed

variable {ρ κ : Type} [Keyed κ ρ]

/-- `SELECT … WHERE p ORDER BY le`. -/
def queue (t : Table ρ) (p : ρ → Bool) (le : ρ → ρ → Prop) [DecidableRel le] : List ρ :=
  (t.select p).insertionSort le

/-- `SELECT … WHERE p ORDER BY le LIMIT limit`. -/
def oldest (t : Table ρ) (p : ρ → Bool) (le : ρ → ρ → Prop) [DecidableRel le] (limit : ℕ) :
    List ρ := (t.queue p le).take limit

/-- By age, and by key among rows of one age. -/
def Older {τ : Type} [LinearOrder τ] [LinearOrder κ] (stamp : ρ → τ) (r s : ρ) : Prop :=
  stamp r < stamp s ∨ stamp r = stamp s ∧ key r ≤ key s

section Older

variable {τ : Type} [LinearOrder τ] [LinearOrder κ] {stamp : ρ → τ}

instance : DecidableRel (Older stamp) := fun _ _ => inferInstanceAs (Decidable (_ ∨ _))

instance : Std.Total (Older stamp) where
  total r s := by
    rcases lt_trichotomy (stamp r) (stamp s) with h | h | h
    · exact .inl (.inl h)
    · rcases le_total (key r) (key s) with hkey | hkey
      · exact .inl (.inr ⟨h, hkey⟩)
      · exact .inr (.inr ⟨h.symm, hkey⟩)
    · exact .inr (.inl h)

instance : IsTrans ρ (Older stamp) where
  trans r s u := by
    rintro (h | ⟨h, hkey⟩) (h' | ⟨h', hkey'⟩)
    · exact .inl (h.trans h')
    · exact .inl (h' ▸ h)
    · exact .inl (h ▸ h')
    · exact .inr ⟨h.trans h', hkey.trans hkey'⟩

theorem Older.key_eq {r s : ρ} (h : Older stamp r s) (h' : Older stamp s r) : key r = key s := by
  rcases h with h | ⟨h, hkey⟩ <;> rcases h' with h' | ⟨h', hkey'⟩
  · exact absurd h' h.asymm
  · exact absurd h h'.not_gt
  · exact absurd h' h.not_gt
  · exact le_antisymm hkey hkey'

end Older

section Queue

variable {t : Table ρ} {p : ρ → Bool} {le : ρ → ρ → Prop} [DecidableRel le] {limit : ℕ} {r s : ρ}

theorem mem_queue : r ∈ t.queue p le ↔ r ∈ t.rows ∧ p r = true := by
  rw [queue, List.mem_insertionSort, select, List.mem_filter]

theorem oldest_subset (h : r ∈ t.oldest p le limit) : r ∈ t.rows ∧ p r = true :=
  mem_queue.mp (List.mem_of_mem_take h)

theorem nodup_queue : (t.queue p le).Nodup := by
  have hrows : t.rows.Nodup := t.nodup.of_map
  exact ((List.perm_insertionSort le _).nodup_iff).mpr (hrows.filter _)

theorem sorted_queue [Std.Total le] [IsTrans ρ le] : (t.queue p le).Pairwise le :=
  List.pairwise_insertionSort le _

end Queue

section Sweep

variable [DecidableEq κ]

/-- `DELETE` of the rows that `oldest` selects. -/
def sweep (t : Table ρ) (p : ρ → Bool) (le : ρ → ρ → Prop) [DecidableRel le] (limit : ℕ) :
    Table ρ :=
  t.deleteWhere fun r => ((t.oldest p le limit).map key).contains (key r)

variable {t : Table ρ} {p : ρ → Bool} {le : ρ → ρ → Prop} [DecidableRel le] {limit : ℕ} {r s : ρ}

theorem eq_of_key (hr : r ∈ t.rows) (hs : s ∈ t.rows) (h : key r = key s) : r = s := by
  have hget := get?_of_mem hr
  rw [h, get?_of_mem hs] at hget
  exact (Option.some.inj hget).symm

theorem mem_sweep : r ∈ (t.sweep p le limit).rows ↔ r ∈ t.rows ∧ r ∉ t.oldest p le limit := by
  simp only [sweep, deleteWhere, List.mem_filter, Bool.not_eq_true', List.contains_eq_mem,
    decide_eq_false_iff_not, List.mem_map, not_exists, not_and]
  constructor
  · rintro ⟨hr, hkeys⟩
    exact ⟨hr, fun hold => hkeys r hold rfl⟩
  · rintro ⟨hr, hnot⟩
    refine ⟨hr, fun s hs hkey => hnot ?_⟩
    rwa [← eq_of_key (oldest_subset hs).1 hr hkey]

/-- A row that the statement may not delete is found as before. -/
theorem get?_sweep {k : κ} (h : t.get? k = some r) (hp : p r = false) :
    (t.sweep p le limit).get? k = some r := by
  have hmem : r ∈ (t.sweep p le limit).rows := by
    refine mem_sweep.mpr ⟨mem_of_get? h, fun hold => ?_⟩
    rw [(oldest_subset hold).2] at hp
    cases hp
  rw [← key_of_get? h]
  exact get?_of_mem hmem

theorem get?_of_sweep {k : κ} (h : (t.sweep p le limit).get? k = some r) : t.get? k = some r :=
  get?_of_deleteWhere h

/-- Other statements find the rows they look for, as far as this one may not delete them. -/
theorem select_sweep {q : ρ → Bool} (h : ∀ r, q r = true → p r = false) :
    (t.sweep p le limit).select q = t.select q := by
  simp only [select, sweep, deleteWhere, List.filter_filter]
  refine List.filter_congr fun r hr => ?_
  cases hq : q r with
  | false => rfl
  | true =>
    have hnot : key r ∉ (t.oldest p le limit).map key := by
      intro hkey
      obtain ⟨s, hs, hks⟩ := List.mem_map.mp hkey
      obtain ⟨hs, hps⟩ := oldest_subset hs
      rw [eq_of_key hs hr hks, h r hq] at hps
      cases hps
    simp [hnot]

/-- The batch is the front of the queue. -/
theorem queue_sweep [Std.Total le] [IsTrans ρ le]
    (hkey : ∀ r s, le r s → le s r → key r = key s) :
    (t.sweep p le limit).queue p le = (t.queue p le).drop limit := by
  have hperm : ((t.sweep p le limit).queue p le).Perm ((t.queue p le).drop limit) := by
    refine (List.perm_ext_iff_of_nodup nodup_queue (nodup_queue.sublist (List.drop_sublist _ _))).mpr
      fun r => ?_
    have hsplit : r ∈ t.queue p le ↔ r ∈ t.oldest p le limit ∨ r ∈ (t.queue p le).drop limit := by
      rw [oldest, ← List.mem_append, List.take_append_drop]
    have hdisjoint : r ∈ t.oldest p le limit → r ∉ (t.queue p le).drop limit := fun hold =>
      List.disjoint_take_drop nodup_queue le_rfl hold
    rw [mem_queue, mem_sweep]
    constructor
    · rintro ⟨⟨hr, hnot⟩, hp⟩
      exact (hsplit.mp (mem_queue.mpr ⟨hr, hp⟩)).resolve_left hnot
    · intro hrest
      obtain ⟨hr, hp⟩ := mem_queue.mp (hsplit.mpr (.inr hrest))
      exact ⟨⟨hr, fun hold => hdisjoint hold hrest⟩, hp⟩
  refine hperm.eq_of_pairwise ?_ sorted_queue (sorted_queue.sublist (List.drop_sublist _ _))
  intro r s hr hs hle hle'
  have hr' : r ∈ t.rows := (mem_sweep.mp (mem_queue.mp hr).1).1
  have hs' : s ∈ t.rows := (mem_queue.mp (List.mem_of_mem_drop hs)).1
  exact eq_of_key hr' hs' (hkey r s hle hle')

theorem map_queue_sweep {τ α : Type} [LinearOrder τ] [LinearOrder κ] (stamp : ρ → τ) (f : ρ → α) :
    ((t.sweep p (Older stamp) limit).queue p (Older stamp)).map f =
      ((t.queue p (Older stamp)).map f).drop limit := by
  rw [queue_sweep fun _ _ => Older.key_eq, List.map_drop]

/-- The statement leaves the rows alone that it may not delete. -/
theorem select_not_sweep : ((t.sweep p le limit).select fun r => !p r) = t.select fun r => !p r := by
  apply select_sweep
  intro r hr
  simpa using hr

end Sweep

end Relational.Table

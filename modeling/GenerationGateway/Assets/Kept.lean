import GenerationGateway.Assets.Files
import Mathlib.Data.List.Perm.Basic

/-!
# Uploads on the disk

A save that succeeds leaves exactly one new file, with the content of the upload and under a name
that only this upload has. So the disk after some saves is the disk before them with these files
added, and removing them leads back to it.
-/

namespace GenerationGateway.Assets

open Bytes Paths Relational

/-! ### The name of an upload -/

theorem tempName_eq {x y : Path} (h : '*' ∉ y) (n : ℕ) :
    tempName (x ++ '*' :: y) n = x ++ (toString n).toList ++ y := by
  have hy : ∀ c ∈ y.reverse, decide (c ≠ '*') = true := by
    intro c hc
    have hne : c ≠ '*' := fun heq => h (heq ▸ List.mem_reverse.mp hc)
    simp [hne]
  have hreverse : (x ++ '*' :: y).reverse = y.reverse ++ '*' :: x.reverse := by simp
  rw [tempName, List.rdropWhile, List.rtakeWhile, hreverse, List.dropWhile_append_of_pos hy,
    List.takeWhile_append_of_pos hy]
  simp

/-- The last star of a text. -/
theorem exists_last_star {p : Path} (h : '*' ∈ p) : ∃ x y, p = x ++ '*' :: y ∧ '*' ∉ y := by
  obtain ⟨x, y, hxy, hx⟩ := List.eq_append_cons_of_mem (List.mem_reverse.mpr h)
  refine ⟨y.reverse, x.reverse, ?_, by simpa using hx⟩
  rw [← List.reverse_reverse p, hxy]
  simp

theorem slash_not_mem_toString (n : ℕ) : '/' ∉ (toString n).toList := by
  change '/' ∉ n.repr.toList
  rw [Nat.repr, String.toList_ofList]
  intro h
  exact absurd (Nat.isDigit_of_mem_toDigits (by decide) (by decide) h) (by decide)

theorem slash_not_mem_toLower {e : Path} (h : '/' ∉ e) :
    '/' ∉ (Text.toLower (String.ofList e)).toList := by
  rw [Text.toLower, String.toList_ofList, String.toList_ofList, List.mem_map]
  rintro ⟨c, hc, hlower⟩
  have hslash : c = '/' := by
    unfold Text.lowerChar at hlower
    split_ifs at hlower with hkelvin hdotted
    · exact absurd hlower (by decide)
    · exact absurd hlower (by decide)
    · rcases Text.toLower_range c with hsame | hrange
      · exact hsame.symm.trans hlower
      · rw [hlower] at hrange
        exact absurd hrange.2.1 (by decide)
  exact h (hslash ▸ hc)

theorem FileHeader.isName_name (h : FileHeader) : IsName h.name := by
  have hext : '/' ∉ (Text.toLower (String.ofList (ext h.filename.toList))).toList :=
    slash_not_mem_toLower (ext_plain _)
  unfold FileHeader.name
  generalize (Text.toLower (String.ofList (ext h.filename.toList))).toList = e at hext
  obtain ⟨x, y, hxy, hy⟩ := exists_last_star (p := "asset-*".toList ++ e) (by simp)
  have hplain : '/' ∉ x ++ '*' :: y := by
    rw [← hxy]
    simp [hext]
  rw [hxy, tempName_eq hy]
  cases x with
  | nil =>
    rw [List.nil_append, show "asset-*".toList = 'a' :: "sset-*".toList by rfl] at hxy
    injection hxy with hhead
    exact absurd hhead (by decide)
  | cons c x =>
    have hc : c = 'a' := by
      rw [show "asset-*".toList = 'a' :: "sset-*".toList by rfl] at hxy
      injection hxy with hhead
      exact hhead.symm
    subst hc
    constructor
    · simp
    · have hdigits := slash_not_mem_toString h.random
      simp only [List.mem_append, List.mem_cons, not_or] at hplain ⊢
      tauto
    · simp [dot]
    · simp [dotDot]

/-! ### What a save leaves -/

/-- The reference that a task keeps of an upload. -/
def FileHeader.asset (formats : Formats) (h : FileHeader) : SourceMedia where
  filename := String.ofList (base h.filename.toList)
  mediaType := formats.detectContentType (h.content.take 512)
  path := String.ofList h.name
  size := h.content.length
  sha256 := formats.sha256 h.content

/-- The file of an upload. -/
def Store.fileOf (s : Store) (h : FileHeader) : File := ⟨s.file h.name, false, h.content, h.time⟩

/-- The disk is the one before with the files of these uploads added. -/
structure Kept (s : Store) (before : Disk) (uploads : List FileHeader) (disk : Disk) : Prop where
  nodup : (uploads.map FileHeader.name).Nodup
  fresh : ∀ h ∈ uploads, before.get? (s.file h.name) = none
  stored : ∀ h ∈ uploads, disk.get? (s.file h.name) = some (s.fileOf h)
  frame : ∀ p, (∀ h ∈ uploads, p ≠ s.file h.name) → disk.get? p = before.get? p

section Kept

variable {s : Store} {before disk : Disk} {uploads : List FileHeader} {h : FileHeader}
  {formats : Formats} {maxBytes : ℤ}

theorem Kept.nil (s : Store) (disk : Disk) : Kept s disk [] disk where
  nodup := List.nodup_nil
  fresh := by simp
  stored := by simp
  frame := fun _ _ => rfl

theorem Kept.congr {disk' : Disk} (hkept : Kept s before uploads disk)
    (hget : ∀ p, disk'.get? p = disk.get? p) : Kept s before uploads disk' where
  nodup := hkept.nodup
  fresh := hkept.fresh
  stored := fun h hh => (hget _).trans (hkept.stored h hh)
  frame := fun p hp => (hget p).trans (hkept.frame p hp)

theorem Kept.perm {uploads' : List FileHeader} (hkept : Kept s before uploads disk)
    (hperm : uploads'.Perm uploads) : Kept s before uploads' disk where
  nodup := (hperm.map FileHeader.name).nodup_iff.mpr hkept.nodup
  fresh := fun h hh => hkept.fresh h (hperm.subset hh)
  stored := fun h hh => hkept.stored h (hperm.subset hh)
  frame := fun p hp => hkept.frame p fun h hh => hp h (hperm.symm.subset hh)

/-- One more file, under a name that is free. -/
theorem Kept.cons {disk' : Disk} (hkept : Kept s before uploads disk)
    (hfree : disk.get? (s.file h.name) = none)
    (hget : ∀ p, disk'.get? p = if p = s.file h.name then some (s.fileOf h) else disk.get? p) :
    Kept s before (h :: uploads) disk' := by
  have hnew : ∀ g ∈ uploads, g.name ≠ h.name := by
    intro g hg heq
    rw [← heq, hkept.stored g hg] at hfree
    cases hfree
  constructor
  · rw [List.map_cons, List.nodup_cons]
    refine ⟨?_, hkept.nodup⟩
    rw [List.mem_map]
    rintro ⟨g, hg, heq⟩
    exact hnew g hg heq
  · intro g hg
    rcases List.mem_cons.mp hg with rfl | hg
    · rw [← hkept.frame (s.file g.name)]
      · exact hfree
      · intro g' hg' heq
        exact hnew g' hg' (file_injective g'.isName_name g.isName_name heq.symm)
    · exact hkept.fresh g hg
  · intro g hg
    rw [hget]
    rcases List.mem_cons.mp hg with rfl | hg
    · rw [if_pos rfl]
    · have hne : s.file g.name ≠ s.file h.name := fun heq =>
        hnew g hg (file_injective g.isName_name h.isName_name heq)
      rw [if_neg hne, hkept.stored g hg]
  · intro p hp
    rw [hget, if_neg (hp h List.mem_cons_self)]
    exact hkept.frame p fun g hg => hp g (List.mem_cons_of_mem h hg)

/-- A file less. -/
theorem Kept.tail {disk' : Disk} (hkept : Kept s before (h :: uploads) disk)
    (hget : ∀ p, disk'.get? p = if p = s.file h.name then none else disk.get? p) :
    Kept s before uploads disk' := by
  have hnodup := hkept.nodup
  rw [List.map_cons, List.nodup_cons] at hnodup
  constructor
  · exact hnodup.2
  · exact fun g hg => hkept.fresh g (List.mem_cons_of_mem h hg)
  · intro g hg
    have hne : s.file g.name ≠ s.file h.name := by
      intro heq
      exact hnodup.1 (file_injective g.isName_name h.isName_name heq ▸ List.mem_map_of_mem hg)
    rw [hget, if_neg hne]
    exact hkept.stored g (List.mem_cons_of_mem h hg)
  · intro p hp
    rw [hget]
    split_ifs with heq
    · rw [heq, hkept.fresh h List.mem_cons_self]
    · apply hkept.frame
      intro g hg
      rcases List.mem_cons.mp hg with rfl | hg
      · exact heq
      · exact hp g hg

theorem remove_asset (hf : disk.get? (s.file h.name) = some (s.fileOf h)) (p : Path) :
    (s.remove (h.asset formats) disk).2.get? p = if p = s.file h.name then none else disk.get? p := by
  have hpath : (h.asset formats).path.toList = h.name := String.toList_ofList
  rw [remove_file (hpath ▸ h.isName_name) (hpath ▸ hf) rfl, hpath]
  exact get?_erase disk (s.file h.name) p

theorem removeAll_cons (a : SourceMedia) (assets : List SourceMedia) (disk : Disk) :
    s.removeAll (a :: assets) disk = s.removeAll assets (s.remove a disk).2 := rfl

/-- Removing the uploads leads back to the disk before them. -/
theorem Kept.removeAll (hkept : Kept s before uploads disk) (p : Path) :
    (s.removeAll (uploads.map (FileHeader.asset formats)) disk).get? p = before.get? p := by
  induction uploads generalizing disk with
  | nil => exact hkept.frame p (by simp)
  | cons h rest ih =>
    have hrest : Kept s before rest (s.remove (h.asset formats) disk).2 :=
      hkept.tail (remove_asset (hkept.stored h List.mem_cons_self))
    rw [List.map_cons, removeAll_cons]
    exact ih hrest

/-- What was uploaded is what the worker opens. -/
theorem Kept.open (hkept : Kept s before uploads disk) (hh : h ∈ uploads) :
    s.open (h.asset formats) disk = .ok (s.fileOf h) := by
  have hpath : (h.asset formats).path.toList = h.name := String.toList_ofList
  rw [Store.open, resolve_name (hpath ▸ h.isName_name), hpath]
  simp [osOpen, hkept.stored h hh]

end Kept

/-! ### A save -/

section Save

variable {s : Store} {disk created : Disk} {h : FileHeader} {formats : Formats} {maxBytes : ℤ}

/-- The file that `os.CreateTemp` makes. -/
def Store.emptyFile (s : Store) (h : FileHeader) : File := ⟨s.file h.name, false, [], h.time⟩

theorem erase_created (hfree : disk.get? (s.file h.name) = none)
    (hcreated : ∀ p, p ≠ s.file h.name → created.get? p = disk.get? p) (p : Path) :
    (erase created (s.file h.name)).get? p = disk.get? p := by
  rw [get?_erase]
  split_ifs with heq
  · rw [heq, hfree]
  · exact hcreated p heq

theorem write_created {content : ByteString}
    (hcreated : created.get? (s.file h.name) = some (s.emptyFile h)) (p : Path) :
    (write created (s.file h.name) content).get? p =
      if p = s.file h.name then some ⟨s.file h.name, false, content, h.time⟩
      else created.get? p := by
  split_ifs with heq
  · rw [heq, write, Table.get?_modify_self, hcreated]
    rfl
  · exact get?_write created _ content heq

/-- What a save leaves: the file of the upload, or the disk as it was. -/
def Saved (s : Store) (formats : Formats) (h : FileHeader) (disk : Disk) :
    Except AssetError SourceMedia × Disk → Prop
  | (.ok asset, disk') => asset = h.asset formats ∧ disk.get? (s.file h.name) = none ∧
      ∀ p, disk'.get? p = if p = s.file h.name then some (s.fileOf h) else disk.get? p
  | (.error _, disk') => ∀ p, disk'.get? p = disk.get? p

theorem fill_saved (hfree : disk.get? (s.file h.name) = none)
    (hcreated : ∀ p, created.get? p =
      if p = s.file h.name then some (s.emptyFile h) else disk.get? p) :
    Saved s formats h disk (fill formats h maxBytes (s.file h.name) created) := by
  have hself : created.get? (s.file h.name) = some (s.emptyFile h) := by simp [hcreated]
  have hother : ∀ p, p ≠ s.file h.name → created.get? p = disk.get? p := by
    intro p hp
    rw [hcreated, if_neg hp]
  have hwritten : ∀ content p, p ≠ s.file h.name →
      (write created (s.file h.name) content).get? p = disk.get? p := by
    intro content p hp
    rw [write_created hself, if_neg hp, hother p hp]
  unfold fill
  simp only
  split_ifs with hprobe hcopy hsize hsync
  · exact erase_created hfree hother
  · exact erase_created hfree (hwritten _)
  · exact erase_created hfree (hwritten _)
  · exact erase_created hfree (hwritten _)
  · -- the copy is within the bound, so nothing was cut off
    have hwhole : h.content.take (maxBytes + 1).toNat = h.content := by
      rw [List.length_take] at hsize
      apply List.take_of_length_le
      omega
    have hbase : base (s.file h.name) = h.name := by
      rw [file_eq h.isName_name]
      exact s.root.base_child h.isName_name
    rw [hwhole]
    refine ⟨?_, hfree, fun p => ?_⟩
    · rw [FileHeader.asset, hbase]
    · rw [write_created hself]
      split_ifs with heq
      · rfl
      · exact hother p heq

theorem save_saved : Saved s formats h disk (s.save formats (some h) maxBytes disk) := by
  unfold Store.save
  simp only
  split_ifs
  · exact fun _ => rfl
  · exact fun _ => rfl
  · exact fun _ => rfl
  · cases hins : disk.insert? ⟨joinPath s.root.path h.name, false, [], h.time⟩ with
    | none => exact fun _ => rfl
    | some created =>
      exact fill_saved (Table.insert?_eq_some hins).1 (Table.get?_insert? hins)

end Save

end GenerationGateway.Assets

import GenerationGateway.Domain.Requests
import GenerationGateway.Library.Bytes
import GenerationGateway.Library.Paths
import GenerationGateway.Library.Table
import GenerationGateway.Library.Text

/-!
# The store of uploaded files

The references of a task are files in one directory, and a task names them by their names there.
The names come back from the task and from clients, so each is resolved before it is used: what it
leads to is a file of the directory or the directory itself.
-/

namespace GenerationGateway.Assets

open Bytes Paths Relational

/-- A file or a directory. -/
structure File where
  path : Path
  isDir : Bool
  content : ByteString
  modTime : ℤ
  deriving DecidableEq

instance : Keyed Path File := ⟨File.path⟩

@[simp] theorem key_file (f : File) : Keyed.key f = f.path := rfl

abbrev Disk := Table File

inductive OSError
  | notExist | exist | notEmpty | failed
  deriving DecidableEq

inductive AssetError
  | text (message : String)
  | os (e : OSError)
  deriving DecidableEq

/-! ### Calls of the system -/

/-- The directory has an entry. -/
def occupied (disk : Disk) (p : Path) : Bool :=
  disk.rows.any fun f => decide (f.path ≠ p) && (elements p).isPrefixOf (elements f.path)

def erase (disk : Disk) (p : Path) : Disk := disk.deleteWhere fun f => f.path = p

/-- `os.Remove`: a file, or a directory without entries. -/
def osRemove (p : Path) (disk : Disk) : Except OSError Unit × Disk :=
  match disk.get? p with
  | none => (.error .notExist, disk)
  | some f =>
    if f.isDir && occupied disk p then (.error .notEmpty, disk) else (.ok (), erase disk p)

def osOpen (p : Path) (disk : Disk) : Except OSError File :=
  match disk.get? p with
  | none => .error .notExist
  | some f => .ok f

/-- The random number replaces the last star of the pattern. -/
def tempName (pattern : Path) (random : ℕ) : Path :=
  (pattern.rdropWhile (· ≠ '*')).dropLast ++ (toString random).toList ++
    pattern.rtakeWhile (· ≠ '*')

/-! ### The store -/

/-- `filepath.Abs` in the working directory `wd`. -/
def abs (wd : Location) (p : Path) : Path := if isRooted p then clean p else join wd.path p

structure Store where
  root : Location

/-- `New`, with a directory that `os.MkdirAll` finds or makes. -/
def new (wd : Location) (root : String) : Except AssetError Store :=
  if Text.trimSpace root = "" then .error (.text "task asset directory is required")
  else .ok ⟨.ofPath (abs wd (Text.trimSpace root).toList)⟩

def resolve (s : Store) (name : String) : Except AssetError Path :=
  if name = "" ∨ base name.toList ≠ name.toList then .error (.text "invalid task asset path")
  else
    match rel s.root.path (join s.root.path name.toList) with
    | none => .error (.text "task asset path escapes configured root")
    | some way =>
      if way = dotDot ∨ (dotDot ++ ['/']).isPrefixOf way then
        .error (.text "task asset path escapes configured root")
      else .ok (join s.root.path name.toList)

/-- The call that fails while an upload is saved. -/
inductive SaveFault
  | openUpload | createTemp | probe | copy | sync | close
  deriving DecidableEq

/-- An upload, with what its one save meets: the random number of its file, the time and a call
that fails. -/
structure FileHeader where
  filename : String
  content : ByteString
  random : ℕ
  time : ℤ
  fault : Option SaveFault

def FileHeader.name (h : FileHeader) : Path :=
  tempName ("asset-*".toList ++ (Text.toLower (String.ofList (ext h.filename.toList))).toList)
    h.random

/-- `http.DetectContentType`, and SHA-256 in hexadecimal digits. -/
structure Formats where
  detectContentType : ByteString → String
  sha256 : ByteString → String

def write (disk : Disk) (target : Path) (content : ByteString) : Disk :=
  disk.modify target (fun f => { f with content := content }) fun _ => rfl

/-- What follows once the file is created. -/
def fill (formats : Formats) (h : FileHeader) (maxBytes : ℤ) (target : Path) (created : Disk) :
    Except AssetError SourceMedia × Disk :=
  let cleanup : Disk := erase created target
  if h.fault = some .probe then (.error (.os .failed), cleanup)
  else
    let copied := h.content.take (maxBytes + 1).toNat
    let written := write created target copied
    if h.fault = some .copy then (.error (.os .failed), erase written target)
    else if maxBytes < copied.length then
      (.error (.text (String.ofList (base h.filename.toList) ++ " exceeds configured size limit")),
        erase written target)
    else if h.fault = some .sync ∨ h.fault = some .close then
      (.error (.os .failed), erase written target)
    else
      (.ok { filename := String.ofList (base h.filename.toList)
             mediaType := formats.detectContentType (h.content.take 512)
             path := String.ofList (base target)
             size := copied.length
             sha256 := formats.sha256 copied }, written)

def Store.save (s : Store) (formats : Formats) (header : Option FileHeader) (maxBytes : ℤ)
    (disk : Disk) : Except AssetError SourceMedia × Disk :=
  match header with
  | none => (.error (.text "media file is required"), disk)
  | some h =>
    if maxBytes < 1 then (.error (.text "media size limit is invalid"), disk)
    else if h.fault = some .openUpload then (.error (.os .failed), disk)
    else if h.fault = some .createTemp ∨ (disk.get? s.root.path).all (fun f => !f.isDir) then
      (.error (.os .failed), disk)
    else
      match disk.insert? ⟨joinPath s.root.path h.name, false, [], h.time⟩ with
      | none => (.error (.os .exist), disk)
      | some created => fill formats h maxBytes (joinPath s.root.path h.name) created

def Store.open (s : Store) (asset : SourceMedia) (disk : Disk) : Except AssetError File :=
  match resolve s asset.path with
  | .error e => .error e
  | .ok p =>
    match osOpen p disk with
    | .error e => .error (.os e)
    | .ok f => .ok f

def Store.remove (s : Store) (asset : SourceMedia) (disk : Disk) : Except AssetError Unit × Disk :=
  if asset.path = "" then (.ok (), disk)
  else
    match resolve s asset.path with
    | .error e => (.error e, disk)
    | .ok p =>
      match osRemove p disk with
      | (.error .notExist, disk') => (.ok (), disk')
      | (.error e, disk') => (.error (.os e), disk')
      | (.ok (), disk') => (.ok (), disk')

/-- The removals one after the other; their errors are joined. -/
def Store.removeAll (s : Store) (assets : List SourceMedia) (disk : Disk) : Disk :=
  assets.foldl (fun disk asset => (s.remove asset disk).2) disk

def cleanupVideoAssets (request : VideoRequest) : List SourceMedia :=
  request.referenceImages ++ request.referenceVideos ++ request.startFrame.toList ++
    request.endFrame.toList ++ request.audioReferences

def Store.cleanupVideoRequest (s : Store) (request : VideoRequest) (disk : Disk) : Disk :=
  s.removeAll (cleanupVideoAssets request) disk

def Store.cleanupImageRequest (s : Store) (request : ImageRequest) (disk : Disk) : Disk :=
  s.removeAll request.referenceImages disk

/-- An entry of the directory that the sweep removes. -/
def Store.sweeps (s : Store) (cutoff : ℤ) (f : File) : Bool :=
  decide ((elements f.path).dropLast = s.root.names) && !f.isDir &&
    "asset-".toList.isPrefixOf (tail f.path) && decide (f.modTime < cutoff)

def Store.cleanupOlderThan (s : Store) (cutoff : ℤ) (disk : Disk) : Disk :=
  (disk.rows.filter (s.sweeps cutoff)).foldl (fun disk f => (osRemove f.path disk).2) disk

/-! ### What a name leads to -/

section Resolve

variable {s : Store} {name : String} {p : Path} {disk : Disk}

/-- The file of that name. -/
def Store.file (s : Store) (e : Path) : Path := joinPath s.root.path e

theorem file_eq {e : Path} (h : IsName e) : s.file e = (s.root.child e h).path :=
  s.root.joinPath_path h

theorem file_injective {e e' : Path} (h : IsName e) (h' : IsName e') (heq : s.file e = s.file e') :
    e = e' := by
  rw [file_eq h, file_eq h'] at heq
  simpa [Location.child] using Location.path_injective heq

theorem file_ne_root {e : Path} (h : IsName e) : s.file e ≠ s.root.path := by
  intro heq
  rw [file_eq h] at heq
  simpa [Location.child] using Location.path_injective heq

theorem resolve_name (h : IsName name.toList) : resolve s name = .ok (s.file name.toList) := by
  have hne : name ≠ "" := by
    rintro rfl
    exact h.nonempty rfl
  have hbase : base name.toList = name.toList := base_of_plain h.nonempty h.plain
  have hup : ¬ (name.toList = dotDot ∨ (dotDot ++ ['/']).isPrefixOf name.toList = true) := by
    rintro (hup | hup)
    · exact h.ne_dotDot hup
    · exact h.plain ((List.isPrefixOf_iff_prefix.mp hup).subset (by simp))
  have hroot : ¬ (name = "" ∨ base name.toList ≠ name.toList) := by simp [hne, hbase]
  rw [resolve, if_neg hroot, s.root.join_child h, s.root.rel_child h, file_eq h]
  simp only [if_neg hup]

theorem resolve_stays (hname : name ≠ "") (hbase : base name.toList = name.toList)
    (hjoin : join s.root.path name.toList = s.root.path) : resolve s name = .ok s.root.path := by
  have hbad : ¬ (name = "" ∨ base name.toList ≠ name.toList) := by simp [hname, hbase]
  have hway : ¬ (dot = dotDot ∨ (dotDot ++ ['/']).isPrefixOf dot = true) := by decide
  rw [resolve, if_neg hbad, hjoin, s.root.rel_self]
  simp only [if_neg hway]

/-- A name leads to its file, or to the directory itself. -/
theorem resolve_ok (h : resolve s name = .ok p) :
    IsName name.toList ∧ p = s.file name.toList ∨ ¬ IsName name.toList ∧ p = s.root.path := by
  by_cases hname : IsName name.toList
  · rw [resolve_name hname, Except.ok.injEq] at h
    exact .inl ⟨hname, h.symm⟩
  right
  by_cases hbad : name = "" ∨ base name.toList ≠ name.toList
  · rw [resolve, if_pos hbad] at h
    cases h
  simp only [not_or, not_not] at hbad
  have hne : name.toList ≠ [] := by simpa using hbad.1
  refine ⟨hname, ?_⟩
  rcases (base_eq_self hne).mp hbad.2 with hslash | hplain
  · rw [resolve_stays hbad.1 hbad.2 (by rw [hslash]; exact s.root.join_self (.inl rfl)),
      Except.ok.injEq] at h
    exact h.symm
  by_cases hdot : name.toList = dot
  · rw [resolve_stays hbad.1 hbad.2 (by rw [hdot]; exact s.root.join_self (.inr rfl)),
      Except.ok.injEq] at h
    exact h.symm
  have hup : name.toList = dotDot := by
    by_contra hup
    exact hname ⟨hne, hplain, hdot, hup⟩
  have hjoin : join s.root.path name.toList = s.root.parent.path := by
    rw [hup]
    exact s.root.join_dotDot
  by_cases hroot : s.root.names = []
  · -- above the root of the file system there is the root
    have hparent : s.root.parent.path = s.root.path := by
      rw [Location.path, Location.path, show s.root.parent.names = s.root.names.dropLast from rfl,
        hroot]
      rfl
    rw [resolve_stays hbad.1 hbad.2 (hjoin.trans hparent), Except.ok.injEq] at h
    exact h.symm
  · have hescape : resolve s name = .error (.text "task asset path escapes configured root") := by
      rw [resolve, if_neg (by simp [hbad]), hjoin, s.root.rel_parent hroot]
      simp only [true_or, if_true]
    rw [hescape] at h
    cases h

end Resolve

/-! ### What the calls leave alone -/

section Frame

variable {s : Store} {disk : Disk} {f : File} {p q : Path} {asset : SourceMedia}

theorem get?_erase (disk : Disk) (p q : Path) :
    (erase disk p).get? q = if q = p then none else disk.get? q := Table.get?_deleteKey disk p q

theorem osRemove_other (h : q ≠ p) : (osRemove p disk).2.get? q = disk.get? q := by
  unfold osRemove
  cases disk.get? p with
  | none => rfl
  | some f =>
    simp only
    split_ifs
    · rfl
    · rw [get?_erase, if_neg h]

theorem osRemove_file (hf : disk.get? p = some f) (hdir : f.isDir = false) :
    osRemove p disk = (.ok (), erase disk p) := by
  simp [osRemove, hf, hdir]

theorem remove_other (h : resolve s asset.path ≠ .ok q) :
    (s.remove asset disk).2.get? q = disk.get? q := by
  unfold Store.remove
  split_ifs
  · rfl
  cases hp : resolve s asset.path with
  | error e => rfl
  | ok p =>
    have hq : q ≠ p := fun heq => h (heq ▸ hp)
    have hother : (osRemove p disk).2.get? q = disk.get? q := osRemove_other hq
    simp only
    split <;> simp_all

theorem remove_file (hname : IsName asset.path.toList) (hf : disk.get? (s.file asset.path.toList) = some f)
    (hdir : f.isDir = false) :
    s.remove asset disk = (.ok (), erase disk (s.file asset.path.toList)) := by
  have hne : asset.path ≠ "" := by
    intro h
    exact hname.nonempty (by rw [h]; rfl)
  rw [Store.remove, if_neg hne, resolve_name hname]
  simp only [osRemove_file hf hdir]

theorem removeAll_other {assets : List SourceMedia}
    (h : ∀ a ∈ assets, resolve s a.path ≠ .ok q) :
    (s.removeAll assets disk).get? q = disk.get? q := by
  unfold Store.removeAll
  induction assets generalizing disk with
  | nil => rfl
  | cons a rest ih =>
    rw [List.foldl_cons, ih fun b hb => h b (List.mem_cons_of_mem a hb)]
    exact remove_other (h a List.mem_cons_self)

theorem get?_write (disk : Disk) (target : Path) (content : ByteString) (h : q ≠ target) :
    (write disk target content).get? q = disk.get? q := Table.get?_modify_of_ne disk h _ _

theorem fill_other {formats : Formats} {h : FileHeader} {maxBytes : ℤ} {target : Path}
    (hq : q ≠ target) : (fill formats h maxBytes target disk).2.get? q = disk.get? q := by
  unfold fill
  simp only
  split_ifs <;> simp [get?_erase, get?_write, hq]

/-- A save adds at most one file, and changes none. -/
theorem save_keeps {formats : Formats} {header : Option FileHeader} {maxBytes : ℤ}
    (hf : disk.get? q = some f) : (s.save formats header maxBytes disk).2.get? q = some f := by
  unfold Store.save
  cases header with
  | none => exact hf
  | some h =>
    simp only
    split_ifs
    · exact hf
    · exact hf
    · exact hf
    · cases hins : disk.insert? ⟨joinPath s.root.path h.name, false, [], h.time⟩ with
      | none => exact hf
      | some created =>
        have hq : q ≠ joinPath s.root.path h.name := by
          rintro rfl
          have hnone := (Table.insert?_eq_some hins).1
          rw [key_file, hf] at hnone
          cases hnone
        rw [fill_other hq, Table.get?_insert? hins, key_file, if_neg hq]
        exact hf

theorem cleanupOlderThan_keeps {cutoff : ℤ} (hf : disk.get? f.path = some f)
    (hyoung : s.sweeps cutoff f = false) :
    (s.cleanupOlderThan cutoff disk).get? f.path = some f := by
  unfold Store.cleanupOlderThan
  have hother : ∀ g ∈ disk.rows.filter (s.sweeps cutoff), g.path ≠ f.path := by
    intro g hg heq
    obtain ⟨hrow, hold⟩ := List.mem_filter.mp hg
    have hget : disk.get? g.path = some g := Table.get?_of_mem hrow
    rw [heq, hf, Option.some.injEq] at hget
    rw [← hget, hyoung] at hold
    cases hold
  have hfold : ∀ rows : List File, (∀ g ∈ rows, g.path ≠ f.path) → ∀ disk : Disk,
      disk.get? f.path = some f →
      (rows.foldl (fun disk g => (osRemove g.path disk).2) disk).get? f.path = some f := by
    intro rows hrows
    induction rows with
    | nil => exact fun disk h => h
    | cons g rest ih =>
      intro disk h
      rw [List.foldl_cons]
      apply ih fun g' hg' => hrows g' (List.mem_cons_of_mem g hg')
      rw [osRemove_other (hrows g List.mem_cons_self).symm]
      exact h
  exact hfold _ hother disk hf

end Frame

/-! ### Runs -/

inductive Operation
  | save (formats : Formats) (header : Option FileHeader) (maxBytes : ℤ)
  | open (asset : SourceMedia)
  | remove (asset : SourceMedia)
  | cleanupVideoRequest (request : VideoRequest)
  | cleanupImageRequest (request : ImageRequest)
  | cleanupOlderThan (cutoff : ℤ)

def Operation.apply (s : Store) : Operation → Disk → Disk
  | save formats header maxBytes, disk => (s.save formats header maxBytes disk).2
  | .open _, disk => disk
  | remove asset, disk => (s.remove asset disk).2
  | cleanupVideoRequest request, disk => s.cleanupVideoRequest request disk
  | cleanupImageRequest request, disk => s.cleanupImageRequest request disk
  | cleanupOlderThan cutoff, disk => s.cleanupOlderThan cutoff disk

/-- The files that an operation is asked to remove. -/
def Operation.assets : Operation → List SourceMedia
  | remove asset => [asset]
  | cleanupVideoRequest request => cleanupVideoAssets request
  | cleanupImageRequest request => request.referenceImages
  | _ => []

def Operation.sweeps (s : Store) (f : File) : Operation → Bool
  | cleanupOlderThan cutoff => s.sweeps cutoff f
  | _ => false

def run (s : Store) (ops : List Operation) (disk : Disk) : Disk :=
  ops.foldl (fun disk op => op.apply s disk) disk

section Runs

variable {s : Store} {disk : Disk} {f : File}

theorem apply_keeps {op : Operation} (hf : disk.get? f.path = some f)
    (hnamed : ∀ a ∈ op.assets, resolve s a.path ≠ .ok f.path) (hswept : op.sweeps s f = false) :
    (op.apply s disk).get? f.path = some f := by
  cases op with
  | save formats header maxBytes => exact save_keeps hf
  | «open» asset => exact hf
  | remove asset => exact (remove_other (hnamed asset (by simp [Operation.assets]))).trans hf
  | cleanupVideoRequest request => exact (removeAll_other hnamed).trans hf
  | cleanupImageRequest request => exact (removeAll_other hnamed).trans hf
  | cleanupOlderThan cutoff => exact cleanupOlderThan_keeps hf hswept

theorem run_keeps {ops : List Operation} (hf : disk.get? f.path = some f)
    (hnamed : ∀ op ∈ ops, ∀ a ∈ op.assets, resolve s a.path ≠ .ok f.path)
    (hswept : ∀ op ∈ ops, op.sweeps s f = false) : (run s ops disk).get? f.path = some f := by
  unfold run
  induction ops generalizing disk with
  | nil => exact hf
  | cons op rest ih =>
    rw [List.foldl_cons]
    apply ih
    · exact apply_keeps hf (hnamed op List.mem_cons_self) (hswept op List.mem_cons_self)
    · exact fun op' hop' => hnamed op' (List.mem_cons_of_mem op hop')
    · exact fun op' hop' => hswept op' (List.mem_cons_of_mem op hop')

/-- A swept file stands in the directory. -/
theorem sweeps_file {cutoff : ℤ} {L : Location} (hL : f.path = L.path)
    (h : s.sweeps cutoff f = true) : f.path = s.root.path ∨ ∃ e, IsName e ∧ f.path = s.file e := by
  simp only [Store.sweeps, Bool.and_eq_true, decide_eq_true_eq] at h
  obtain ⟨⟨⟨hdir, -⟩, -⟩, -⟩ := h
  rw [hL, Location.elements_path] at hdir
  rcases List.eq_nil_or_concat L.names with hnil | ⟨names, e, hnames⟩
  · left
    rw [hL, Location.path, Location.path, ← hdir, hnil]
    rfl
  · right
    rw [List.concat_eq_append] at hnames
    rw [hnames, List.dropLast_concat] at hdir
    have hname : IsName e := L.valid e (by simp [hnames])
    refine ⟨e, hname, ?_⟩
    rw [file_eq hname, hL, Location.path, hnames, hdir]
    rfl

/-- Whatever is asked of the store, it leaves the files outside its directory alone, and opens none
of them. A file of the directory stays as it was saved until it is named or swept. -/
theorem run_confined {L : Location} {ops : List Operation} (hf : disk.get? f.path = some f)
    (hL : f.path = L.path) :
    (f.path ≠ s.root.path → (∀ e, IsName e → f.path ≠ s.file e) →
      (run s ops disk).get? f.path = some f ∧
      ∀ asset, s.open asset (run s ops disk) ≠ .ok f) ∧
    ∀ e, IsName e → f.path = s.file e →
      (∀ op ∈ ops, ∀ a ∈ op.assets, a.path.toList ≠ e) → (∀ op ∈ ops, op.sweeps s f = false) →
      (run s ops disk).get? f.path = some f ∧
      ∀ asset : SourceMedia, asset.path.toList = e → s.open asset (run s ops disk) = .ok f := by
  constructor
  · intro hroot hfile
    have hnever : ∀ name, resolve s name ≠ .ok f.path := by
      intro name hres
      rcases resolve_ok hres with ⟨hname, hp⟩ | ⟨-, hp⟩
      · exact hfile _ hname hp
      · exact hroot hp
    have hkept : (run s ops disk).get? f.path = some f := by
      apply run_keeps hf (fun op _ a _ => hnever a.path)
      intro op _
      cases op with
      | cleanupOlderThan cutoff =>
        by_contra hold
        rcases sweeps_file hL (by simpa [Operation.sweeps] using hold) with h | ⟨e, hname, h⟩
        · exact hroot h
        · exact hfile e hname h
      | _ => rfl
    refine ⟨hkept, fun asset hopen => ?_⟩
    unfold Store.open at hopen
    cases hp : resolve s asset.path with
    | error e => simp [hp] at hopen
    | ok p =>
      cases hg : (run s ops disk).get? p with
      | none => simp [hp, osOpen, hg] at hopen
      | some g =>
        obtain rfl : g = f := by simpa [hp, osOpen, hg] using hopen
        have hpath : g.path = p := Table.key_of_get? hg
        exact hnever asset.path (hpath ▸ hp)
  · intro e hname hfile hnamed hswept
    have hkept : (run s ops disk).get? f.path = some f := by
      apply run_keeps hf _ hswept
      intro op hop a ha hres
      rcases resolve_ok hres with ⟨haname, hp⟩ | ⟨-, hp⟩
      · exact hnamed op hop a ha (file_injective haname hname (hp.symm.trans hfile))
      · exact file_ne_root hname (hfile.symm.trans hp)
    refine ⟨hkept, fun asset hasset => ?_⟩
    rw [Store.open, resolve_name (hasset ▸ hname), hasset, ← hfile]
    simp [osOpen, hkept]

theorem run_confined_secret :
    let s : Store := ⟨.ofPath "/srv/assets".toList⟩
    let secret : File := ⟨"/srv/secret".toList, false, [], 0⟩
    let disk : Disk := ⟨[secret], by decide⟩
    (run s [.remove ⟨"", "", "../secret", 0, ""⟩, .remove ⟨"", "", "..", 0, ""⟩,
      .cleanupOlderThan 10] disk).get? secret.path = some secret := by
  intro s secret disk
  have hfile : ∀ e, IsName e → secret.path ≠ s.file e := by
    intro e he heq
    have hsecret : secret.path = (Location.ofPath "/srv/secret".toList).path := by decide
    rw [file_eq he, hsecret] at heq
    have hlength : (Location.ofPath "/srv/secret".toList).names.length =
        (Location.ofPath "/srv/assets".toList).names.length + 1 := by
      rw [Location.path_injective heq, Location.child, List.length_append]
      rfl
    exact absurd hlength (by decide)
  exact ((run_confined (L := .ofPath "/srv/secret".toList) (by decide) (by decide)).1 (by decide)
    hfile).1

end Runs

end GenerationGateway.Assets

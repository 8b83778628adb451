import GenerationGateway.Assets.Kept
import GenerationGateway.Library.Attempts

/-!
# Uploads of a form

A multipart request saves its files one by one, and one that is refused removes what it has saved.
Here are the steps that the handlers share: a file of a field, a field of files, a number beside
them, and what each leaves on the disk and in the request.
-/

namespace GenerationGateway.Assets

open Attempts Bytes Paths Relational Text

/-! ### Forms -/

/-- A parsed multipart form: `FormValue` and the files of each field. -/
structure Form where
  value : String → String
  files : String → List FileHeader

/-- A request body. Decoding JSON fills in what it reads before it fails. -/
inductive Body (α : Type)
  | multipart (form : Except AssetError Form)
  | json (decoded : α) (err : Option AssetError)

structure UploadLimits where
  maxImageBytes : ℤ
  maxVideoBytes : ℤ
  maxAudioBytes : ℤ

/-- Saving, with the request so far. -/
abbrev Parsing (ρ : Type) := Attempt AssetError (ρ × Disk)

def isImageMedia (asset : SourceMedia) : Bool :=
  asset.mediaType = "image/png" || asset.mediaType = "image/jpeg" || asset.mediaType = "image/webp"

def isVideoMedia (asset : SourceMedia) : Bool :=
  let e := toLower (String.ofList (ext asset.filename.toList))
  (asset.mediaType = "video/mp4" || asset.mediaType = "video/quicktime" ||
    asset.mediaType = "video/webm" || asset.mediaType = "application/octet-stream") &&
    (e = ".mp4" || e = ".mov" || e = ".webm")

def isAudioMedia (asset : SourceMedia) : Bool :=
  let e := toLower (String.ofList (ext asset.filename.toList))
  (e = ".mp3" || e = ".wav" || e = ".m4a" || e = ".aac" || e = ".ogg") &&
    (hasPrefix asset.mediaType "audio/" || asset.mediaType = "application/ogg" ||
      asset.mediaType = "application/octet-stream")

section Parsing

variable {ρ : Type} (s : Store) (formats : Formats)

def saveAsset (maxBytes : ℤ) (header : FileHeader) : Parsing ρ SourceMedia := fun st =>
  let saved := s.save formats (some header) maxBytes st.2
  (saved.1, st.1, saved.2)

def removeAsset (asset : SourceMedia) : Parsing ρ Unit :=
  Attempt.change fun st => (st.1, (s.remove asset st.2).2)

/-- One file of a field: it is saved, looked at and added to the request. -/
def takeUpload (maxBytes : ℤ) (accepts : SourceMedia → Bool) (message : String)
    (add : SourceMedia → ρ → ρ) (header : FileHeader) : Parsing ρ Unit := do
  let asset ← saveAsset s formats maxBytes header
  if accepts asset then Attempt.change fun st => (add asset st.1, st.2)
  else do
    removeAsset s asset
    Attempt.fail (.text message)

/-- A field with at most one file. -/
def takeSingle (maxBytes : ℤ) (field message : String) (add : SourceMedia → ρ → ρ)
    (files : List FileHeader) : Parsing ρ Unit :=
  match files with
  | [] => pure ()
  | [header] => takeUpload s formats maxBytes isImageMedia message add header
  | _ => Attempt.fail (.text (field ++ " accepts only one file"))

/-! ### What the fields leave -/

/-- The uploads so far are on the disk, and the request holds them as `F` says. -/
def Taken (before : Disk) (uploads : List FileHeader) (F : ρ → Prop) (st : ρ × Disk) : Prop :=
  F st.1 ∧ Kept s before uploads st.2

/-- The clean-up of this request leads back to the disk before it. -/
def Tidy (assets : ρ → List SourceMedia) (before : Disk) (st : ρ × Disk) : Prop :=
  ∀ p, (s.removeAll (assets st.1) st.2).get? p = before.get? p

section Rules

variable {s formats} {before : Disk} {uploads : List FileHeader} {F G : ρ → Prop}
  {maxBytes : ℤ} {accepts : SourceMedia → Bool} {message : String} {add : SourceMedia → ρ → ρ}
  {h : FileHeader} {E : ρ × Disk → Prop}

theorem taken_pair {r : ρ} {disk : Disk} (hF : F r) (hkept : Kept s before uploads disk) :
    Taken s before uploads F (r, disk) := ⟨hF, hkept⟩

theorem saveAsset_meets (hfail : ∀ st, Taken s before uploads F st → E st) :
    Attempt.Meets (Taken s before uploads F) (saveAsset s formats maxBytes h)
      (fun asset st => asset = h.asset formats ∧ Taken s before (h :: uploads) F st) E := by
  intro st hst
  have hsaved : Saved s formats h st.2 (s.save formats (some h) maxBytes st.2) := save_saved
  unfold saveAsset
  cases hr : s.save formats (some h) maxBytes st.2 with
  | mk r disk' =>
    rw [hr] at hsaved
    cases r with
    | ok asset =>
      obtain ⟨hasset, hfree, hget⟩ := hsaved
      exact ⟨hasset, hst.1, hst.2.cons hfree hget⟩
    | error e => exact hfail _ ⟨hst.1, hst.2.congr hsaved⟩

theorem takeUpload_meets (hadd : ∀ r, F r → G (add (h.asset formats) r))
    (hfail : ∀ st, Taken s before uploads F st → E st) :
    Attempt.Meets (Taken s before uploads F)
      (takeUpload s formats maxBytes accepts message add h)
      (fun _ => Taken s before (h :: uploads) G) E := by
  unfold takeUpload
  apply (saveAsset_meets hfail).bind
  intro asset
  by_cases haccepts : accepts asset = true
  · rw [if_pos haccepts]
    apply Attempt.Meets.change
    rintro st ⟨rfl, hF, hkept⟩
    exact taken_pair (hadd st.1 hF) hkept
  · rw [if_neg haccepts]
    have hremove : Attempt.Meets
        (fun st => asset = h.asset formats ∧ Taken s before (h :: uploads) F st)
        (removeAsset s asset : Parsing ρ Unit) (fun _ => Taken s before uploads F) E := by
      apply Attempt.Meets.change
      rintro st ⟨rfl, hF, hkept⟩
      exact taken_pair hF (hkept.tail (remove_asset (hkept.stored h List.mem_cons_self)))
    apply hremove.bind
    intro _
    exact Attempt.Meets.fail _ hfail

/-- All the files of a field. -/
theorem takeUploads_meets {F : List FileHeader → ρ → Prop}
    (hadd : ∀ done h r, F done r → F (done ++ [h]) (add (h.asset formats) r))
    (hfail : ∀ done st, Taken s before (uploads ++ done) (F done) st → E st)
    (files : List FileHeader) :
    Attempt.Meets (Taken s before uploads (F []))
      (files.forM (takeUpload s formats maxBytes accepts message add))
      (fun _ => Taken s before (uploads ++ files) (F files)) E := by
  have hbody : ∀ done h, Attempt.Meets (Taken s before (uploads ++ done) (F done))
      (takeUpload s formats maxBytes accepts message add h)
      (fun _ => Taken s before (uploads ++ (done ++ [h])) (F (done ++ [h]))) E := by
    intro done h
    apply (takeUpload_meets (hadd done h) (hfail done)).weaken
    · exact fun _ hst => hst
    · rintro _ st ⟨hF, hkept⟩
      refine ⟨hF, hkept.perm ?_⟩
      rw [← List.append_assoc]
      exact List.perm_append_singleton h (uploads ++ done)
    · exact fun _ hst => hst
  simpa using Attempt.Meets.forM (I := fun done => Taken s before (uploads ++ done) (F done))
    hbody []

/-- A field with at most one file. -/
theorem takeSingle_meets {F : List FileHeader → ρ → Prop} {field : String}
    (hadd : ∀ h r, F [] r → F [h] (add (h.asset formats) r))
    (hfail : ∀ st, Taken s before uploads (F []) st → E st) (files : List FileHeader) :
    Attempt.Meets (Taken s before uploads (F []))
      (takeSingle s formats maxBytes field message add files)
      (fun _ => Taken s before (uploads ++ files) (F files)) E := by
  match files with
  | [] =>
    rw [List.append_nil]
    exact Attempt.Meets.pure () fun _ hst => hst
  | [h] =>
    apply (takeUpload_meets (hadd h) hfail).weaken
    · exact fun _ hst => hst
    · rintro _ st ⟨hF, hkept⟩
      exact ⟨hF, hkept.perm (List.perm_append_singleton h uploads)⟩
    · exact fun _ hst => hst
  | _ :: _ :: _ => exact Attempt.Meets.fail _ hfail

end Rules

end Parsing

/-- `strconv.ParseBool`. -/
def parseBool (text : String) : Option Bool :=
  if ["1", "t", "T", "TRUE", "true", "True"].contains text then some true
  else if ["0", "f", "F", "FALSE", "false", "False"].contains text then some false
  else none

/-- A number that the form may leave out; `scan` is `fmt.Sscanf` with "%d". -/
def takeNumber {ρ : Type} (scan : String → Option ℤ) (value message : String) (add : ℤ → ρ → ρ) :
    Parsing ρ Unit :=
  if value = "" then pure ()
  else
    match scan value with
    | none => Attempt.fail (.text message)
    | some n => Attempt.change fun st => (add n st.1, st.2)

theorem takeNumber_meets {ρ : Type} {s : Store} {before : Disk} {uploads : List FileHeader}
    {F : ρ → Prop} {E : ρ × Disk → Prop} {scan : String → Option ℤ} {value message : String}
    {add : ℤ → ρ → ρ} (hadd : value ≠ "" → ∀ n r, F r → F (add n r))
    (hfail : ∀ st, Taken s before uploads F st → E st) :
    Attempt.Meets (Taken s before uploads F) (takeNumber scan value message add)
      (fun _ => Taken s before uploads F) E := by
  unfold takeNumber
  split_ifs with hvalue
  · exact Attempt.Meets.pure () fun _ hst => hst
  · cases scan value with
    | none => exact Attempt.Meets.fail _ hfail
    | some n =>
      exact Attempt.Meets.change fun st hst => taken_pair (hadd hvalue n st.1 hst.1) hst.2

end GenerationGateway.Assets

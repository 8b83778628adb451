import GenerationGateway.CreativeFabrica.PollResults

/-!
# Completion of a flow

A flow is reported complete, with its finished images, if its documents agree with each
other: the loop over the images shows a link whatever the state of its image, and never
replaces the status that the search has found by the one of the images.
-/

namespace GenerationGateway.CreativeFabrica

open Documents Text

def generated (image : Fields) : Bool := decide (imageState image = "COMPLETE")
def generating (image : Fields) : Bool := decide (imageState image = "PENDING")
def failed (image : Fields) : Bool := decide (imageState image = "FAILED")

/-- The link to the image itself, not to a preview. -/
def finalURL (image : Fields) : Option String :=
  let url := firstString image ["imageUrl", "image_url"]
  if url ≠ "" ∧ hasPrefix url "http" then some url else none

/-- The final links of the generated images, in document order. -/
def finalURLs (flow : Fields) : List String :=
  (flowImages flow).filterMap fun image => if generated image then finalURL image else none

/-- The result tells the truth about the images of the flow. -/
structure PollResult.Sound (flow : Fields) (result : PollResult) : Prop where
  complete : result.status = "COMPLETE" → (∃ image ∈ flowImages flow, generated image) ∧
    ∀ image ∈ flowImages flow, ¬ generating image ∧ ¬ failed image
  failed : (∃ image ∈ flowImages flow, failed image) → result.status = "FAILED"
  once : (result.outputs.map Output.url).Nodup
  ordered : (result.outputs.map Output.url).Sublist (finalURLs flow)
  all : finalURLs flow ⊆ result.outputs.map Output.url

/-- The flow shows the links of generated images only, none twice and none to a preview,
and is not called complete, by itself or by the first status within, while an image is
generating or before one is generated. -/
structure Consistent (flow : Fields) : Prop where
  links : ∀ image ∈ flowImages flow, shown image → generated image ∧ (finalURL image).isSome
  once : (finalURLs flow).Nodup
  status : (∀ image ∈ flowImages flow, ¬ failed image) →
    (∃ s ∈ foundStrings flow flowStatusKeys, normalizeFlowStatus s = "COMPLETE") →
    (∃ image ∈ flowImages flow, generated image) ∧ ∀ image ∈ flowImages flow, ¬ generating image

/-- The links of the outputs. -/
def shownURLs (flow : Fields) : List String :=
  (flowImages flow).filterMap fun image => if shown image then some (imageURL image) else none

theorem parseFlow_urls (flow : Fields) (status error : String) :
    (parseFlow flow status error).outputs.map Output.url = shownURLs flow := by
  rw [parseFlow, finished_outputs, foldl_addImage_outputs, List.nil_append, List.map_map, shownURLs]
  induction flowImages flow with
  | nil => rfl
  | cons image rest ih =>
    by_cases h : shown image
    · simp only [h, List.filter_cons_of_pos, List.map_cons, List.filterMap_cons, if_true, ih]
      rfl
    · simpa [h] using ih

/-- A final link is the one that the loop shows. -/
theorem shown_of_finalURL {image : Fields} {url : String} (h : finalURL image = some url) :
    shown image = true ∧ imageURL image = url := by
  have hsplit := firstString_append image ["imageUrl", "image_url"] ["previewUrl", "preview_url"]
  unfold finalURL at h
  dsimp only at h
  split_ifs at h with hurl
  cases h
  have hsame : imageURL image = firstString image ["imageUrl", "image_url"] := by
    rw [imageURL]
    exact hsplit.trans (if_pos hurl.1)
  refine ⟨?_, hsame⟩
  rw [shown, hsame, hurl.2, decide_eq_true hurl.1]
  rfl

section Lists

variable {α β : Type} {f g : α → Option β} (h : ∀ a b, g a = some b → f a = some b)

include h in
theorem filterMap_sublist (as : List α) : (as.filterMap g).Sublist (as.filterMap f) := by
  induction as with
  | nil => exact List.Sublist.refl _
  | cons a rest ih =>
    cases hg : g a with
    | none =>
      rw [List.filterMap_cons_none hg]
      exact ih.trans (by
        cases hf : f a with
        | none => rw [List.filterMap_cons_none hf]
        | some b =>
          rw [List.filterMap_cons_some hf]
          exact List.sublist_cons_self _ _)
    | some b =>
      rw [List.filterMap_cons_some hg, List.filterMap_cons_some (h a b hg)]
      exact ih.cons_cons b

include h in
/-- Where the smaller map loses nothing, the two agree. -/
theorem eq_of_filterMap_length {as : List α}
    (hlength : (as.filterMap f).length ≤ (as.filterMap g).length) : ∀ a ∈ as, g a = f a := by
  induction as with
  | nil => nofun
  | cons a rest ih =>
    have hrest := (filterMap_sublist h rest).length_le
    cases hg : g a with
    | none =>
      rw [List.filterMap_cons_none hg] at hlength
      cases hf : f a with
      | none =>
        rw [List.filterMap_cons_none hf] at hlength
        rintro b (_ | ⟨_, hb⟩)
        · rw [hg, hf]
        · exact ih hlength b hb
      | some b =>
        rw [List.filterMap_cons_some hf, List.length_cons] at hlength
        omega
    | some b =>
      have hf := h a b hg
      rw [List.filterMap_cons_some hg, List.filterMap_cons_some hf, List.length_cons,
        List.length_cons] at hlength
      rintro c (_ | ⟨_, hc⟩)
      · rw [hg, hf]
      · exact ih (by omega) c hc

end Lists

theorem final_le_shown (image : Fields) (url : String)
    (h : (if generated image then finalURL image else none) = some url) :
    (if shown image then some (imageURL image) else none) = some url := by
  split_ifs at h
  obtain ⟨hshown, rfl⟩ := shown_of_finalURL h
  rw [if_pos hshown]

/-- The outputs are the final links exactly when every shown link is one, and once. -/
theorem urls_sound_iff {flow : Fields} :
    ((shownURLs flow).Nodup ∧ (shownURLs flow).Sublist (finalURLs flow) ∧
      finalURLs flow ⊆ shownURLs flow) ↔
    (∀ image ∈ flowImages flow, shown image → generated image ∧ (finalURL image).isSome) ∧
      (finalURLs flow).Nodup := by
  constructor
  · rintro ⟨hnodup, hsub, -⟩
    have hle := final_le_shown
    have heq := hsub.antisymm (filterMap_sublist hle (flowImages flow))
    refine ⟨fun image himage hshown => ?_, heq ▸ hnodup⟩
    have hsame := eq_of_filterMap_length hle hsub.length_le image himage
    rw [if_pos hshown] at hsame
    split_ifs at hsame with hgenerated
    exact ⟨hgenerated, by rw [hsame]; rfl⟩
  · rintro ⟨hlinks, hnodup⟩
    have heq : shownURLs flow = finalURLs flow := by
      unfold shownURLs finalURLs
      apply List.filterMap_congr
      intro image himage
      by_cases hshown : shown image
      · obtain ⟨hgenerated, hfinal⟩ := hlinks image himage hshown
        obtain ⟨url, hurl⟩ := Option.isSome_iff_exists.mp hfinal
        rw [if_pos hshown, if_pos hgenerated, hurl, (shown_of_finalURL hurl).2]
      · rw [if_neg hshown]
        split_ifs with hgenerated
        · cases hfinal : finalURL image with
          | none => rfl
          | some url => exact absurd (shown_of_finalURL hfinal).1 hshown
        · rfl
    rw [heq]
    exact ⟨hnodup, List.Sublist.refl _, List.Subset.refl _⟩

/-- A text that a search finds has a status of its own. -/
theorem normalizeFlowStatus_ne_empty {data : Fields} {keys : List String} {s : String}
    (h : s ∈ foundStrings data keys) : normalizeFlowStatus s ≠ "" := by
  obtain ⟨fields, hfirst, hne⟩ := firstString_of_mem_foundStrings h
  obtain ⟨c, hc, hspace⟩ := exists_of_firstString_ne (hfirst ▸ hne)
  rw [hfirst] at hc
  have hupper : toUpper (trimSpace s) ≠ "" := by
    intro hempty
    have hmem := List.mem_map_of_mem (f := upperChar) (mem_trimSpace hc hspace)
    rw [← String.toList_ofList (l := List.map _ _), show String.ofList _ = "" from hempty] at hmem
    cases hmem
  unfold normalizeFlowStatus normalizeStatus
  dsimp only
  split_ifs <;> first | decide | exact hupper

/-- An image with a state is in the reach of the search for the status. -/
theorem foundStrings_ne_nil {flow image : Fields} (himage : image ∈ flowImages flow)
    (hstate : firstString image ["state", "status"] ≠ "") :
    foundStrings flow flowStatusKeys ≠ [] := by
  intro hnil
  obtain ⟨iteration, hiteration, hmem⟩ := List.mem_flatMap.mp himage
  have hiterations := (search_value_eq_nil hnil).2 "iterations"
  have himages := (search_value_eq_nil (search_object_eq_nil hiterations hiteration)).2 "images"
  have hown := (search_value_eq_nil (search_object_eq_nil himages hmem)).1
  have hsplit := firstString_append image ["state", "status"] ["flowStatus"]
  rw [if_pos hstate] at hsplit
  rw [if_pos] at hown
  · cases hown
  · exact hsplit.trans_ne hstate

theorem parseFlow_status (flow : Fields) (status error : String) :
    (parseFlow flow status error).status =
      if ∃ image ∈ flowImages flow, imageState image = "FAILED" then "FAILED"
      else if normalizeFlowStatus status = "" ∧ shownURLs flow ≠ [] then "COMPLETE"
      else normalizeFlowStatus status := by
  have hurls := parseFlow_urls flow status error
  unfold parseFlow at hurls ⊢
  rw [finished_outputs] at hurls
  have hstatus := foldl_addImage_status (flowImages flow) ⟨normalizeFlowStatus status, 0, [], error⟩
  generalize (flowImages flow).foldl PollResult.addImage _ = result at hurls hstatus
  rw [← hurls, PollResult.finished, hstatus]
  split_ifs <;> simp_all

/-- A batch with one finished image and the preview of another. -/
def partialFlow : Fields :=
  [("flow", .object [("iterations", .array [.object [("images", .array [
    .object [("state", .string "IMAGE_STATE_GENERATED"), ("imageUrl", .string "https://a")],
    .object [("state", .string "IMAGE_STATE_GENERATING"), ("previewUrl", .string "https://b")]])]])])]

end GenerationGateway.CreativeFabrica

import GenerationGateway.Library.Document

/-!
# Documents in another order

Two documents that differ in the order of one list, at any depth. What reads a document by
its keys sees the same texts in both, and in every list counterparts of the same objects.
-/

namespace Documents

/-- One list of the document is in another order. -/
inductive Reordered : Document → Document → Prop
  | list {items items' : List Document} :
    items.Perm items' → Reordered (.array items) (.array items')
  | element {item item' : Document} (before after : List Document) :
    Reordered item item' →
      Reordered (.array (before ++ item :: after)) (.array (before ++ item' :: after))
  | field {value value' : Document} (before after : Fields) (key : String) :
    Reordered value value' →
      Reordered (.object (before ++ (key, value) :: after))
        (.object (before ++ (key, value') :: after))

/-- The same document, or one of its lists in another order. -/
def Similar (value value' : Document) : Prop := value = value' ∨ Reordered value value'

/-- Objects that are similar as documents. -/
def SimilarFields (fields fields' : Fields) : Prop := Similar (.object fields) (.object fields')

theorem Similar.refl (value : Document) : Similar value value := .inl rfl

theorem Reordered.symm {value value' : Document} (h : Reordered value value') :
    Reordered value' value := by
  induction h with
  | list hperm => exact .list hperm.symm
  | element before after _ ih => exact .element before after ih
  | field before after key _ ih => exact .field before after key ih

theorem Similar.symm {value value' : Document} (h : Similar value value') :
    Similar value' value := by
  rcases h with rfl | hreordered
  · exact .refl _
  · exact .inr hreordered.symm

theorem SimilarFields.symm {fields fields' : Fields} (h : SimilarFields fields fields') :
    SimilarFields fields' fields := Similar.symm h

theorem Similar.stringValue_eq {value value' : Document} (h : Similar value value') :
    value.stringValue = value'.stringValue := by
  rcases h with rfl | hreordered
  · rfl
  · cases hreordered <;> rfl

/-- Similar objects have the same keys, with similar values. -/
theorem SimilarFields.lookup {fields fields' : Fields} (h : SimilarFields fields fields')
    (key : String) : Option.Rel Similar (fields.lookup key) (fields'.lookup key) := by
  have hrefl : ∀ found : Option Document, Option.Rel Similar found found := by
    rintro (_ | value)
    · exact .none
    · exact .some (.refl value)
  rcases h with heq | hreordered
  · rw [Document.object.inj heq]
    exact hrefl _
  · cases hreordered with
    | field before after name hvalue =>
      rw [List.lookup_append, List.lookup_append, List.lookup_cons, List.lookup_cons]
      cases hbefore : before.lookup key with
      | some value => exact hrefl _
      | none =>
        cases hkey : key == name with
        | true => exact .some (.inr hvalue)
        | false => exact hrefl _

theorem SimilarFields.value {fields fields' : Fields} (h : SimilarFields fields fields')
    (key : String) : Similar (fields.value key) (fields'.value key) := by
  have hlookup := h.lookup key
  unfold Fields.value
  generalize fields.lookup key = found, fields'.lookup key = found' at hlookup ⊢
  cases hlookup with
  | none => exact .refl _
  | some hvalue => exact hvalue

theorem SimilarFields.firstString_eq {fields fields' : Fields} (h : SimilarFields fields fields')
    (keys : List String) : firstString fields keys = firstString fields' keys := by
  induction keys with
  | nil => rfl
  | cons key rest ih => rw [firstString, firstString, (h.value key).stringValue_eq, ih]

theorem Similar.asObject {value value' : Document} (h : Similar value value') :
    Option.Rel SimilarFields value.asObject value'.asObject := by
  rcases h with rfl | hreordered
  · cases value with
    | object fields => exact .some (.refl _)
    | _ => exact .none
  · have hkept := hreordered
    cases hreordered with
    | list _ => exact .none
    | element _ _ _ => exact .none
    | field _ _ _ _ => exact .some (.inr hkept)

/-- What one of two related options has, the other one has a counterpart of. -/
theorem exists_of_rel {α β : Type} {r : α → β → Prop} {found : Option α} {found' : Option β}
    {a : α} (h : Option.Rel r found found') (ha : found = some a) :
    ∃ b, found' = some b ∧ r a b := by
  cases h with
  | none => cases ha
  | some hab =>
    obtain rfl := Option.some.inj ha
    exact ⟨_, rfl, hab⟩

/-- Every element of a list has a counterpart in a similar list. -/
theorem Similar.mem_items {value value' item : Document} (h : Similar value value')
    (hitem : item ∈ value.items) : ∃ item' ∈ value'.items, Similar item item' := by
  rcases h with rfl | hreordered
  · exact ⟨item, hitem, .refl _⟩
  · cases hreordered with
    | list hperm => exact ⟨item, hperm.mem_iff.mp hitem, .refl _⟩
    | @element first first' before after hfirst =>
      have hcases : item ∈ before ∨ item = first ∨ item ∈ after := by
        simpa [Document.items] using hitem
      rcases hcases with hbefore | rfl | hafter
      · exact ⟨item, by simp [Document.items, hbefore], .refl _⟩
      · exact ⟨first', by simp [Document.items], .inr hfirst⟩
      · exact ⟨item, by simp [Document.items, hafter], .refl _⟩
    | field before after key hvalue => cases hitem

theorem Similar.mem_objects {value value' : Document} {fields : Fields} (h : Similar value value')
    (hfields : fields ∈ value.objects) :
    ∃ fields' ∈ value'.objects, SimilarFields fields fields' := by
  obtain ⟨item, hitem, hobject⟩ := List.mem_filterMap.mp hfields
  obtain ⟨item', hitem', hsimilar⟩ := h.mem_items hitem
  obtain ⟨fields', hobject', hfields'⟩ := exists_of_rel hsimilar.asObject hobject
  exact ⟨fields', List.mem_filterMap.mpr ⟨item', hitem', hobject'⟩, hfields'⟩

theorem SimilarFields.mapValue {fields fields' : Fields} (h : SimilarFields fields fields')
    (key : String) :
    Option.Rel SimilarFields (Documents.mapValue fields key) (Documents.mapValue fields' key) :=
  (h.value key).asObject

end Documents

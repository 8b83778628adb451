import GenerationGateway.Library.Text

/-!
# Decoded JSON documents

Documents as `json.Unmarshal` decodes them into `any`. A map is iterated in an order
that changes from one walk to the next, so a depth-first search for the first hit has
several possible results; `search` lists them.
-/

namespace Documents

/-- A decoded number, known by the text that `strconv` formats and by the integer that
it truncates to. -/
structure Number where
  text : String
  truncated : ℤ
  plain : text.toList.all fun c => c.isDigit || c = '-' || c = '.'

/-- What `strconv` formats an integer to. -/
theorem plain_natRepr (n : ℕ) :
    n.repr.toList.all fun c => c.isDigit || c = '-' || c = '.' := by
  rw [Nat.repr, String.toList_ofList, List.all_eq_true]
  intro c hc
  rw [Nat.isDigit_of_mem_toDigits (by decide) (by decide) hc]
  rfl

theorem plain_intRepr (n : ℤ) :
    n.repr.toList.all fun c => c.isDigit || c = '-' || c = '.' := by
  cases n with
  | ofNat n => exact plain_natRepr n
  | negSucc n =>
    change (("-" ++ n.succ.repr).toList.all _) = true
    rw [String.toList_append, List.all_append, plain_natRepr]
    rfl

/-- A value of type `int`. -/
def Number.ofInt (n : ℤ) : Number := ⟨n.repr, n, plain_intRepr n⟩

inductive Document
  | null
  | bool (b : Bool)
  | number (n : Number)
  | string (s : String)
  | array (items : List Document)
  | object (fields : List (String × Document))

abbrev Fields := List (String × Document)

/-- `data[key]`; a key that is not there reads as null. -/
def Fields.value (data : Fields) (key : String) : Document := (data.lookup key).getD .null

namespace Document

/-- `value.(map[string]any)`. -/
def asObject : Document → Option Fields
  | object fields => some fields
  | _ => none

/-- `items, _ := value.([]any)`. -/
def items : Document → List Document
  | array items => items
  | _ => []

/-- The objects in a list, in its order. -/
def objects (value : Document) : List Fields := value.items.filterMap asObject

def isNull : Document → Bool
  | null => true
  | _ => false

/-- `strings.TrimSpace` of a text, the formatted value of a number. -/
def stringValue : Document → String
  | string s => Text.trimSpace s
  | number n => n.text
  | _ => ""

def int64Value : Document → ℤ
  | number n => n.truncated
  | string s => Text.parseInt64 (Text.trimSpace s)
  | _ => 0

end Document

mutual

/-- Two documents have the same JSON encoding; a map lists its keys in their order. -/
def Document.same : Document → Document → Bool
  | .null, .null => true
  | .bool b, .bool b' => b = b'
  | .number n, .number n' => n.text = n'.text
  | .string s, .string s' => s = s'
  | .array items, .array items' => sameItems items items'
  | .object fields, .object fields' => sameFields fields fields'
  | _, _ => false

def sameItems : List Document → List Document → Bool
  | [], [] => true
  | item :: rest, item' :: rest' => item.same item' && sameItems rest rest'
  | _, _ => false

def sameFields : Fields → Fields → Bool
  | [], [] => true
  | (key, value) :: rest, (key', value') :: rest' =>
    key = key' && value.same value' && sameFields rest rest'
  | _, _ => false

end

mutual

theorem Document.same_refl : ∀ value : Document, value.same value = true
  | .null => rfl
  | .bool b => by simp [Document.same]
  | .number n => by simp [Document.same]
  | .string s => by simp [Document.same]
  | .array items => by rw [Document.same]; exact sameItems_refl items
  | .object fields => by rw [Document.same]; exact sameFields_refl fields

theorem sameItems_refl : ∀ items : List Document, sameItems items items = true
  | [] => rfl
  | item :: rest => by rw [sameItems, item.same_refl, sameItems_refl rest]; rfl

theorem sameFields_refl : ∀ fields : Fields, sameFields fields fields = true
  | [] => rfl
  | (key, value) :: rest => by
    rw [sameFields, value.same_refl, sameFields_refl rest]
    simp

end

mutual

theorem Document.same_comm : ∀ value value' : Document, value.same value' = value'.same value
  | .array items, .array items' => by
    rw [Document.same, Document.same, sameItems_comm items items']
  | .object fields, .object fields' => by
    rw [Document.same, Document.same, sameFields_comm fields fields']
  | .null, value' => by cases value' <;> rfl
  | .bool b, value' => by cases value' <;> simp [Document.same, eq_comm]
  | .number n, value' => by cases value' <;> simp [Document.same, eq_comm]
  | .string s, value' => by cases value' <;> simp [Document.same, eq_comm]
  | .array _, .null | .array _, .bool _ | .array _, .number _ | .array _, .string _
  | .array _, .object _ => rfl
  | .object _, .null | .object _, .bool _ | .object _, .number _ | .object _, .string _
  | .object _, .array _ => rfl

theorem sameItems_comm : ∀ items items' : List Document,
    sameItems items items' = sameItems items' items
  | [], [] => rfl
  | [], _ :: _ => rfl
  | _ :: _, [] => rfl
  | item :: rest, item' :: rest' => by
    rw [sameItems, sameItems, item.same_comm item', sameItems_comm rest rest']

theorem sameFields_comm : ∀ fields fields' : Fields,
    sameFields fields fields' = sameFields fields' fields
  | [], [] => rfl
  | [], _ :: _ => rfl
  | _ :: _, [] => rfl
  | (key, value) :: rest, (key', value') :: rest' => by
    rw [sameFields, sameFields, value.same_comm value', sameFields_comm rest rest']
    simp only [eq_comm]

end

/-- `mapValue` of one key. -/
def mapValue (data : Fields) (key : String) : Option Fields := (data.value key).asObject

/-- The first text under one of the keys, in the order of the keys. -/
def firstString (data : Fields) : List String → String
  | [] => ""
  | key :: keys =>
    if (data.value key).stringValue ≠ "" then (data.value key).stringValue
    else firstString data keys

def firstInt (data : Fields) : List String → ℤ
  | [] => 0
  | key :: keys =>
    if (data.value key).int64Value ≠ 0 then (data.value key).int64Value else firstInt data keys

/-- A text or a formatted number has a character that is no space. -/
theorem Document.exists_of_stringValue_ne {value : Document} (h : value.stringValue ≠ "") :
    ∃ c ∈ value.stringValue.toList, Text.isSpace c = false := by
  cases value with
  | string s => exact Text.exists_of_trimSpace_ne h
  | number n =>
    have hplain := List.all_eq_true.mp n.plain
    cases hchars : n.text.toList with
    | nil => exact absurd (String.toList_eq_nil_iff.mp hchars) h
    | cons c rest =>
      have hc : c ∈ n.text.toList := hchars ▸ List.mem_cons_self
      exact ⟨c, hc, Text.isSpace_of_plain (hplain c hc)⟩
  | _ => exact absurd rfl h

theorem exists_of_firstString_ne {data : Fields} {keys : List String}
    (h : firstString data keys ≠ "") :
    ∃ c ∈ (firstString data keys).toList, Text.isSpace c = false := by
  induction keys with
  | nil => exact absurd rfl h
  | cons key rest ih =>
    rw [firstString] at h ⊢
    split_ifs at h ⊢ with hkey
    · exact Document.exists_of_stringValue_ne hkey
    · exact ih h

theorem firstString_append (data : Fields) (keys keys' : List String) :
    firstString data (keys ++ keys') =
      if firstString data keys ≠ "" then firstString data keys else firstString data keys' := by
  induction keys with
  | nil => rfl
  | cons key rest ih =>
    rw [List.cons_append, firstString, firstString, ih]
    by_cases hkey : (data.value key).stringValue ≠ ""
    · rw [if_pos hkey, if_pos hkey, if_pos hkey]
    · rw [if_neg hkey, if_neg hkey]

section Search

variable {α : Type} (own : Fields → Option α)

mutual

/-- The possible results of a walk that stops at the first object with a hit: of the
branches of a map any may come first, a list is walked in its order. -/
def search : Document → List α
  | .object fields =>
    match own fields with
    | some a => [a]
    | none => searchFields fields
  | .array items => searchItems items
  | _ => []

def searchFields : Fields → List α
  | [] => []
  | (_, value) :: rest => search value ++ searchFields rest

def searchItems : List Document → List α
  | [] => []
  | item :: rest => if (search item).isEmpty then searchItems rest else search item

end

theorem search_of_own {own : Fields → Option α} {fields : Fields} {a : α}
    (h : own fields = some a) : search own (.object fields) = [a] := by
  rw [search, h]

/-- The walk finds nothing in a list just when it finds nothing in its elements. -/
theorem searchItems_eq_nil {own : Fields → Option α} {items : List Document} :
    searchItems own items = [] ↔ ∀ item ∈ items, search own item = [] := by
  induction items with
  | nil => simp [searchItems]
  | cons item rest ih =>
    rw [searchItems]
    by_cases h : search own item = []
    · simp [h, ih]
    · simp [h]

theorem searchFields_eq_nil {own : Fields → Option α} {fields : Fields} :
    searchFields own fields = [] ↔ ∀ field ∈ fields, search own field.2 = [] := by
  induction fields with
  | nil => simp [searchFields]
  | cons field rest ih => simp [searchFields, ih]

mutual

/-- Every result is a hit of some object. -/
theorem own_of_mem_search {own : Fields → Option α} {a : α} :
    ∀ value : Document, a ∈ search own value → ∃ fields, own fields = some a
  | .object fields, h => by
    rw [search] at h
    split at h
    · next b hb => exact ⟨fields, by rw [hb, List.mem_singleton.mp h]⟩
    · exact own_of_mem_searchFields fields h
  | .array items, h => own_of_mem_searchItems items h
  | .null, h | .bool _, h | .number _, h | .string _, h => by simp [search] at h

theorem own_of_mem_searchFields {own : Fields → Option α} {a : α} :
    ∀ fields : Fields, a ∈ searchFields own fields → ∃ fields, own fields = some a
  | [], h => by simp [searchFields] at h
  | (_, value) :: rest, h => by
    rw [searchFields, List.mem_append] at h
    exact h.elim (own_of_mem_search value) (own_of_mem_searchFields rest)

theorem own_of_mem_searchItems {own : Fields → Option α} {a : α} :
    ∀ items : List Document, a ∈ searchItems own items → ∃ fields, own fields = some a
  | [], h => by simp [searchItems] at h
  | item :: rest, h => by
    rw [searchItems] at h
    split_ifs at h
    · exact own_of_mem_searchItems rest h
    · exact own_of_mem_search item h

end

/-- A walk without a result found nothing under any key. -/
theorem search_value_eq_nil {own : Fields → Option α} {fields : Fields}
    (h : search own (.object fields) = []) : own fields = none ∧
      ∀ key, search own (fields.value key) = [] := by
  rw [search] at h
  split at h
  · cases h
  · next hown =>
    refine ⟨hown, fun key => ?_⟩
    unfold Fields.value
    cases hlookup : fields.lookup key with
    | none => rfl
    | some value =>
      obtain ⟨before, after, rfl, -⟩ := List.lookup_eq_some_iff.mp hlookup
      exact searchFields_eq_nil.mp h (key, value) (by simp)

/-- The same for the objects of a list. -/
theorem search_object_eq_nil {own : Fields → Option α} {value : Document} {fields : Fields}
    (h : search own value = []) (hmem : fields ∈ value.objects) :
    search own (.object fields) = [] := by
  cases value with
  | array items =>
    rw [search] at h
    obtain ⟨item, hitem, hobject⟩ := List.mem_filterMap.mp hmem
    cases item with
    | object fields' =>
      cases hobject
      exact searchItems_eq_nil.mp h _ hitem
    | _ => cases hobject
  | _ => cases hmem

/-- All orders have the same result. -/
def ParsedAlike (parses : α → Prop) : Prop := ∀ a b, parses a → parses b → a = b

/-- The walk may end with `a`; without a hit it ends with `default`. -/
def Ends (hits : List α) (default a : α) : Prop := a ∈ hits ∨ hits = [] ∧ a = default

/-- Any two of the hits are the same. -/
def Agree (hits : List α) : Prop := ∀ a ∈ hits, ∀ b ∈ hits, a = b

instance [DecidableEq α] (hits : List α) : Decidable (Agree hits) :=
  inferInstanceAs (Decidable (∀ a ∈ hits, ∀ b ∈ hits, a = b))

theorem ends_total (hits : List α) (default : α) : ∃ a, Ends hits default a := by
  cases hits with
  | nil => exact ⟨default, .inr ⟨rfl, rfl⟩⟩
  | cons a rest => exact ⟨a, .inl List.mem_cons_self⟩

/-- The walk always ends in the same way just when its hits agree. -/
theorem ends_unique_iff {hits : List α} {default : α} :
    ParsedAlike (Ends hits default) ↔ Agree hits := by
  constructor
  · intro h a ha b hb
    exact h a b (.inl ha) (.inl hb)
  · rintro h a b (ha | ⟨hnone, rfl⟩) (hb | ⟨hnone', rfl⟩)
    · exact h a ha b hb
    · rw [hnone'] at ha
      cases ha
    · rw [hnone] at hb
      cases hb
    · rfl

end Search

/-- The texts that `firstStringRecursive` may find. -/
def foundStrings (data : Fields) (keys : List String) : List String :=
  search (fun fields =>
    if firstString fields keys ≠ "" then some (firstString fields keys) else none) (.object data)

/-- `firstStringRecursive(data, keys...)` may return `s`. -/
def FirstStringRecursive (data : Fields) (keys : List String) (s : String) : Prop :=
  s ∈ foundStrings data keys ∨ foundStrings data keys = [] ∧ s = ""

theorem firstStringRecursive_total (data : Fields) (keys : List String) :
    ∃ s, FirstStringRecursive data keys s := by
  cases h : foundStrings data keys with
  | nil => exact ⟨"", .inr ⟨h, rfl⟩⟩
  | cons s rest => exact ⟨s, .inl (h ▸ List.mem_cons_self)⟩

theorem firstString_of_mem_foundStrings {data : Fields} {keys : List String} {s : String}
    (h : s ∈ foundStrings data keys) : ∃ fields, firstString fields keys = s ∧ s ≠ "" := by
  obtain ⟨fields, hown⟩ := own_of_mem_search _ h
  split_ifs at hown with hne
  cases hown
  exact ⟨fields, rfl, hne⟩

theorem firstStringRecursive_of_own {data : Fields} {keys : List String} {s : String}
    (hown : firstString data keys ≠ "") :
    FirstStringRecursive data keys s ↔ s = firstString data keys := by
  have hfound : foundStrings data keys = [firstString data keys] := by
    apply search_of_own
    rw [if_pos hown]
  simp [FirstStringRecursive, hfound]

/-! ### Maps with given keys -/

/-- The map has these entries and no others. -/
def Fields.Is (fields entries : Fields) : Prop := ∀ key, fields.lookup key = entries.lookup key

/-- A map that has as many keys as are listed, and each of these, has no others. -/
theorem keys_iff {fields : Fields} {keys : List String} (h : keys.Nodup) :
    ((fields.map Prod.fst).dedup.length = keys.length ∧
        ∀ key ∈ keys, key ∈ fields.map Prod.fst) ↔
      ∀ key, key ∈ fields.map Prod.fst ↔ key ∈ keys := by
  have hcard : (fields.map Prod.fst).toFinset.card = (fields.map Prod.fst).dedup.length :=
    List.card_toFinset _
  have hkeys : keys.toFinset.card = keys.length := List.toFinset_card_of_nodup h
  constructor
  · rintro ⟨hlength, hall⟩ key
    have hsub : keys.toFinset ⊆ (fields.map Prod.fst).toFinset := by
      intro k hk
      exact List.mem_toFinset.mpr (hall k (List.mem_toFinset.mp hk))
    have heq := Finset.eq_of_subset_of_card_le hsub (by omega)
    rw [← List.mem_toFinset, ← heq, List.mem_toFinset]
  · intro hall
    have heq : (fields.map Prod.fst).toFinset = keys.toFinset := by
      ext key
      rw [List.mem_toFinset, List.mem_toFinset, hall key]
    constructor
    · rw [← hcard, heq, hkeys]
    · intro key hkey
      exact (hall key).mpr hkey

theorem lookup_isSome {fields : Fields} {key : String} :
    (fields.lookup key).isSome = true ↔ key ∈ fields.map Prod.fst := by
  rw [List.lookup_isSome_iff, List.mem_map]
  constructor
  · rintro ⟨entry, hmem, hkey⟩
    exact ⟨entry, hmem, (eq_of_beq hkey).symm⟩
  · rintro ⟨entry, hmem, rfl⟩
    exact ⟨entry, hmem, beq_self_eq_true _⟩

theorem lookup_of_mem {entries : Fields} (h : (entries.map Prod.fst).Nodup)
    {entry : String × Document} (hmem : entry ∈ entries) :
    entries.lookup entry.1 = some entry.2 := by
  induction entries with
  | nil => cases hmem
  | cons head rest ih =>
    rw [List.map_cons, List.nodup_cons] at h
    rw [List.lookup_cons]
    cases hmem with
    | head => simp
    | tail _ hrest =>
      have hne : entry.1 ≠ head.1 := by
        intro heq
        exact h.1 (heq ▸ List.mem_map_of_mem hrest)
      rw [beq_eq_false_iff_ne.mpr hne]
      exact ih h.2 hrest

theorem Fields.is_iff {fields entries : Fields} (h : (entries.map Prod.fst).Nodup) :
    fields.Is entries ↔ (∀ key, key ∈ fields.map Prod.fst ↔ key ∈ entries.map Prod.fst) ∧
      ∀ entry ∈ entries, fields.lookup entry.1 = some entry.2 := by
  constructor
  · intro his
    constructor
    · intro key
      rw [← lookup_isSome, his key, lookup_isSome]
    · intro entry hentry
      rw [his entry.1, lookup_of_mem h hentry]
  · rintro ⟨hkeys, hentries⟩ key
    by_cases hmem : key ∈ entries.map Prod.fst
    · obtain ⟨entry, hentry, rfl⟩ := List.mem_map.mp hmem
      rw [hentries entry hentry, lookup_of_mem h hentry]
    · have hfields := mt (hkeys key).mp hmem
      rw [← lookup_isSome, Option.not_isSome_iff_eq_none] at hmem hfields
      rw [hmem, hfields]

end Documents

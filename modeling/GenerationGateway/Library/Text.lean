import Mathlib.Data.List.DropRight
import Mathlib.Data.List.TakeWhile
import Mathlib.Tactic

/-!
# Text operations

The operations of the `strings` and `strconv` packages on sequences of characters.
The case mappings cover the ASCII letters and the two characters outside ASCII whose
capital is an ASCII letter; no other character can turn into one.
-/

namespace Text

/-- Unicode `White_Space`. -/
def isSpace (c : Char) : Bool :=
  [0x09, 0x0A, 0x0B, 0x0C, 0x0D, 0x20, 0x85, 0xA0, 0x1680, 0x2028, 0x2029, 0x202F, 0x205F,
    0x3000].contains c.toNat || decide (0x2000 ≤ c.toNat ∧ c.toNat ≤ 0x200A)

/-- `strings.TrimSpace`. -/
def trimSpace (s : String) : String :=
  String.ofList (((s.toList.dropWhile isSpace).reverse.dropWhile isSpace).reverse)

/-- The simple folding of `strings.EqualFold` onto the small ASCII letters. -/
def foldChar (c : Char) : Char :=
  if c = '\u017F' then 's' else if c = '\u212A' then 'k' else c.toLower

theorem mem_dropWhile {p : Char → Bool} {c : Char} {cs : List Char} (hc : c ∈ cs)
    (hp : p c = false) : c ∈ cs.dropWhile p := by
  induction cs with
  | nil => cases hc
  | cons d rest ih =>
    rw [List.dropWhile_cons]
    split_ifs with hd
    · rcases List.mem_cons.mp hc with rfl | hrest
      · rw [hp] at hd
        cases hd
      · exact ih hrest
    · exact hc

theorem mem_trimSpace {s : String} {c : Char} (hc : c ∈ s.toList) (hspace : isSpace c = false) :
    c ∈ (trimSpace s).toList := by
  rw [trimSpace, String.toList_ofList, List.mem_reverse]
  exact mem_dropWhile (List.mem_reverse.mpr (mem_dropWhile hc hspace)) hspace

theorem mem_of_mem_trimSpace {s : String} {c : Char} (hc : c ∈ (trimSpace s).toList) :
    c ∈ s.toList := by
  rw [trimSpace, String.toList_ofList, List.mem_reverse] at hc
  have hmem := (List.dropWhile_suffix _).subset hc
  exact (List.dropWhile_suffix _).subset (List.mem_reverse.mp hmem)

/-- What is left of a text begins with a character that is no space. -/
theorem exists_of_trimSpace_ne {s : String} (h : trimSpace s ≠ "") :
    ∃ c ∈ (trimSpace s).toList, isSpace c = false := by
  have hsome : ∃ c ∈ s.toList, isSpace c = false := by
    by_contra hnone
    push Not at hnone
    have hempty : s.toList.dropWhile isSpace = [] :=
      List.dropWhile_eq_nil_iff.mpr fun c hc => by simpa using hnone c hc
    exact h (by rw [trimSpace, hempty]; rfl)
  obtain ⟨c, hc, hspace⟩ := hsome
  exact ⟨c, mem_trimSpace hc hspace, hspace⟩

theorem isSpace_of_range {c : Char} (hlow : 33 ≤ c.toNat) (hhigh : c.toNat ≤ 126) :
    isSpace c = false := by
  simp only [isSpace, List.contains_eq_mem, List.mem_cons, List.not_mem_nil, or_false,
    Bool.or_eq_false_iff, decide_eq_false_iff_not]
  omega

theorem isSpace_of_plain {c : Char} (h : (c.isDigit || c = '-' || c = '.') = true) :
    isSpace c = false := by
  simp only [Bool.or_eq_true, decide_eq_true_eq] at h
  rcases h with (hdigit | rfl) | rfl
  · have hrange : 48 ≤ c.toNat ∧ c.toNat ≤ 57 := by
      simpa [Char.isDigit, UInt32.le_iff_toNat_le] using hdigit
    exact isSpace_of_range (by omega) (by omega)
  · decide
  · decide

theorem trimSpace_of_forall {s : String} (h : ∀ c ∈ s.toList, isSpace c = false) :
    trimSpace s = s := by
  have hkept (cs : List Char) (hcs : ∀ c ∈ cs, isSpace c = false) :
      cs.dropWhile isSpace = cs := by
    rw [List.dropWhile_eq_self_iff]
    intro hlen
    simp [hcs _ (List.getElem_mem hlen)]
  rw [trimSpace, hkept _ h, hkept _ (fun c hc => h c (List.mem_reverse.mp hc)),
    List.reverse_reverse, String.ofList_toList]

theorem trimSpace_trimSpace (s : String) : trimSpace (trimSpace s) = trimSpace s := by
  have hkept : ((s.toList.dropWhile isSpace).rdropWhile isSpace).dropWhile isSpace =
      (s.toList.dropWhile isSpace).rdropWhile isSpace := by
    rw [List.dropWhile_eq_self_iff]
    intro hlen
    have hstart := List.rdropWhile_prefix isSpace (s.toList.dropWhile isSpace)
    rw [hstart.getElem hlen]
    exact List.dropWhile_get_zero_not _ _ (hlen.trans_le hstart.length_le)
  have htrim (t : String) :
      trimSpace t = String.ofList ((t.toList.dropWhile isSpace).rdropWhile isSpace) := rfl
  rw [htrim (trimSpace s), htrim s, String.toList_ofList, hkept, List.rdropWhile_idempotent]

/-- `unicode.ToUpper`: the long s and the dotless i have ASCII capitals. -/
def upperChar (c : Char) : Char :=
  if c = '\u017F' then 'S' else if c = '\u0131' then 'I' else c.toUpper

/-- `strings.ToUpper`. -/
def toUpper (s : String) : String := String.ofList (s.toList.map upperChar)

/-- `unicode.ToLower`: the Kelvin sign and the dotted capital I have ASCII small letters. -/
def lowerChar (c : Char) : Char :=
  if c = '\u212A' then 'k' else if c = '\u0130' then 'i' else c.toLower

/-- `strings.ToLower`. -/
def toLower (s : String) : String := String.ofList (s.toList.map lowerChar)

/-- `strings.EqualFold` with a text `t` of small ASCII letters other than k and s. -/
def equalFold (s t : String) : Bool := s.toList.map Char.toLower = t.toList

/-- `strings.Contains`. -/
def contains (s part : String) : Bool := decide (part.toList <:+: s.toList)

/-- `strings.HasPrefix`. -/
def hasPrefix (s start : String) : Bool := start.toList.isPrefixOf s.toList

/-- `strings.TrimPrefix`. -/
def trimPrefix (s start : String) : String :=
  if hasPrefix s start then String.ofList (s.toList.drop start.length) else s

/-- `strings.Split` at a character. -/
def split (s : String) (sep : Char) : List String := (s.toList.splitOn sep).map String.ofList

/-- `strings.NewReplacer` of single characters by one other. -/
def replaceChars (s : String) (old : List Char) (new : Char) : String :=
  String.ofList (s.toList.map fun c => if old.contains c then new else c)

def maxInt64 : ℤ := 2 ^ 63 - 1
def minInt64 : ℤ := -2 ^ 63

def digits? (cs : List Char) : Option ℕ :=
  if cs.isEmpty || !cs.all Char.isDigit then none
  else some (cs.foldl (fun n c => 10 * n + (c.toNat - '0'.toNat)) 0)

/-- A text of decimal digits with an optional sign. -/
def integer? (s : String) : Option ℤ :=
  match s.toList with
  | '-' :: cs => (digits? cs).map fun n => -n
  | '+' :: cs => (digits? cs).map fun n => n
  | cs => (digits? cs).map fun n => n

/-- `strconv.Atoi`: a syntax error or a range error is none. -/
def atoi (s : String) : Option ℤ :=
  (integer? s).filter fun n => decide (minInt64 ≤ n ∧ n ≤ maxInt64)

/-- `n, _ := strconv.ParseInt(s, 10, 64)`: zero after a syntax error, the nearest bound
after a range error. -/
def parseInt64 (s : String) : ℤ :=
  let value : Option ℤ :=
    match s.toList with
    | '-' :: cs => (digits? cs).map fun n => -n
    | '+' :: cs => (digits? cs).map fun n => n
    | cs => (digits? cs).map fun n => n
  max minInt64 (min maxInt64 (value.getD 0))

/-! ### Trimmed texts in small letters -/

theorem toLower_of_forall {s : String} (h : ∀ c ∈ s.toList, lowerChar c = c) : toLower s = s := by
  have hmap : s.toList.map lowerChar = s.toList.map id := List.map_congr_left fun c hc => h c hc
  rw [toLower, hmap, List.map_id, String.ofList_toList]

/-- A text that neither `TrimSpace` nor `ToLower` changes. -/
def isCanonical (s : String) : Bool :=
  s.toList.all fun c => !isSpace c && decide (lowerChar c = c)

theorem toLower_trimSpace {s : String} (h : isCanonical s = true) : toLower (trimSpace s) = s := by
  simp only [isCanonical, List.all_eq_true, Bool.and_eq_true, Bool.not_eq_true',
    decide_eq_true_eq] at h
  rw [trimSpace_of_forall fun c hc => (h c hc).1]
  exact toLower_of_forall fun c hc => (h c hc).2

/-- A letter that changes is one of the capitals and becomes one of the small letters. -/
theorem toLower_range (c : Char) : c.toLower = c ∨
    ((65 ≤ c.toNat ∧ c.toNat ≤ 90) ∧ 97 ≤ c.toLower.toNat ∧ c.toLower.toNat ≤ 122) := by
  unfold Char.toLower
  split_ifs with hupper
  · right
    have hrange : 65 ≤ c.toNat ∧ c.toNat ≤ 90 := by
      simpa [UInt32.le_iff_toNat_le] using hupper
    refine ⟨hrange, ?_⟩
    have hval : (c.val + ('a'.val - 'A'.val)).toNat = c.toNat + 32 := by
      rw [UInt32.toNat_add]
      have hdiff : ('a'.val - 'A'.val).toNat = 32 := by decide
      rw [hdiff]
      exact Nat.mod_eq_of_lt (by have := hrange.2; change c.toNat + 32 < _; omega)
    change 97 ≤ (c.val + ('a'.val - 'A'.val)).toNat ∧ (c.val + ('a'.val - 'A'.val)).toNat ≤ 122
    omega
  · exact .inl rfl

theorem toLower_of_small {c : Char} (h : 97 ≤ c.toNat) : c.toLower = c := by
  rcases toLower_range c with heq | hrange
  · exact heq
  · omega

theorem isSpace_lowerChar (c : Char) : isSpace (lowerChar c) = isSpace c := by
  unfold lowerChar
  split_ifs with hkelvin hdotted
  · rw [hkelvin]
    decide
  · rw [hdotted]
    decide
  · rcases toLower_range c with heq | hrange
    · rw [heq]
    · rw [isSpace_of_range (by omega) (by omega), isSpace_of_range (by omega) (by omega)]

theorem lowerChar_lowerChar (c : Char) : lowerChar (lowerChar c) = lowerChar c := by
  have hk : lowerChar 'k' = 'k' := by decide
  have hi : lowerChar 'i' = 'i' := by decide
  have hascii (d : Char) (hd : d.toNat ≤ 126) : lowerChar d = d.toLower := by
    have hkelvin : d ≠ '\u212A' := by
      rintro rfl
      exact absurd hd (by decide)
    have hdotted : d ≠ '\u0130' := by
      rintro rfl
      exact absurd hd (by decide)
    rw [lowerChar, if_neg hkelvin, if_neg hdotted]
  by_cases hkelvin : c = '\u212A'
  · rw [hkelvin]
    exact hk
  by_cases hdotted : c = '\u0130'
  · rw [hdotted]
    exact hi
  have hlower : lowerChar c = c.toLower := by rw [lowerChar, if_neg hkelvin, if_neg hdotted]
  rw [hlower]
  rcases toLower_range c with heq | hrange
  · rw [heq, hlower, heq]
  · rw [hascii _ (by omega), toLower_of_small (by omega)]

/-- Trimming and a mapping that keeps the spaces: doing both again changes nothing. -/
theorem map_trimSpace_idem {f : Char → Char} (hspace : ∀ c, isSpace (f c) = isSpace c)
    (hidem : ∀ c, f (f c) = f c) (s : String) :
    String.ofList ((trimSpace (String.ofList ((trimSpace s).toList.map f))).toList.map f) =
      String.ofList ((trimSpace s).toList.map f) := by
  have hcomm (t : String) : trimSpace (String.ofList (t.toList.map f)) =
      String.ofList ((trimSpace t).toList.map f) := by
    have hkept : isSpace ∘ f = isSpace := funext hspace
    simp only [trimSpace, String.toList_ofList, List.dropWhile_map, hkept, ← List.map_reverse]
  rw [hcomm, trimSpace_trimSpace, String.toList_ofList, List.map_map]
  congr 1
  exact List.map_congr_left fun c _ => hidem c

/-- Trimmed and in small letters: doing it again changes nothing. -/
theorem toLower_trimSpace_idem (s : String) :
    toLower (trimSpace (toLower (trimSpace s))) = toLower (trimSpace s) :=
  map_trimSpace_idem isSpace_lowerChar lowerChar_lowerChar s

/-- A letter that changes is one of the small letters and becomes one of the capitals. -/
theorem toUpper_range (c : Char) : c.toUpper = c ∨
    ((97 ≤ c.toNat ∧ c.toNat ≤ 122) ∧ c.toUpper.toNat + 32 = c.toNat) := by
  unfold Char.toUpper
  split_ifs with hlower
  · right
    have hrange : 97 ≤ c.toNat ∧ c.toNat ≤ 122 := by
      simpa [UInt32.le_iff_toNat_le] using hlower
    refine ⟨hrange, ?_⟩
    have hval : (c.val + ('A'.val - 'a'.val)).toNat + 32 = c.toNat := by
      rw [UInt32.toNat_add]
      have hdiff : ('A'.val - 'a'.val).toNat = 2 ^ 32 - 32 := by decide
      rw [hdiff]
      change (c.toNat + (2 ^ 32 - 32)) % 2 ^ 32 + 32 = c.toNat
      omega
    exact hval
  · exact .inl rfl

theorem isSpace_upperChar (c : Char) : isSpace (upperChar c) = isSpace c := by
  unfold upperChar
  split_ifs with hlong hdotless
  · rw [hlong]
    decide
  · rw [hdotless]
    decide
  · rcases toUpper_range c with heq | hrange
    · rw [heq]
    · rw [isSpace_of_range (by omega) (by omega), isSpace_of_range (by omega) (by omega)]

theorem upperChar_upperChar (c : Char) : upperChar (upperChar c) = upperChar c := by
  have hS : upperChar 'S' = 'S' := by decide
  have hI : upperChar 'I' = 'I' := by decide
  by_cases hlong : c = '\u017F'
  · rw [hlong]
    exact hS
  by_cases hdotless : c = '\u0131'
  · rw [hdotless]
    exact hI
  have hupper : upperChar c = c.toUpper := by rw [upperChar, if_neg hlong, if_neg hdotless]
  rw [hupper]
  rcases toUpper_range c with heq | hrange
  · rw [heq, hupper, heq]
  · have hascii : c.toUpper ≠ '\u017F' ∧ c.toUpper ≠ '\u0131' := by
      constructor
      all_goals
        intro h
        rw [h] at hrange
        exact absurd hrange.2 (by have := hrange.1; simp; omega)
    rw [upperChar, if_neg hascii.1, if_neg hascii.2]
    rcases toUpper_range c.toUpper with hkept | hagain
    · exact hkept
    · omega

/-- Trimmed and in capitals: doing it again changes nothing. -/
theorem toUpper_trimSpace_idem (s : String) :
    toUpper (trimSpace (toUpper (trimSpace s))) = toUpper (trimSpace s) :=
  map_trimSpace_idem isSpace_upperChar upperChar_upperChar s

theorem mem_splitOn (sep : Char) {c : Char} {cs : List Char} (hc : c ∈ cs) :
    c = sep ∨ ∃ part ∈ cs.splitOn sep, c ∈ part := by
  induction cs with
  | nil => cases hc
  | cons d rest ih =>
    rw [List.splitOn_cons_eq_if_modifyHead]
    obtain ⟨first, others, hparts⟩ := List.exists_cons_of_ne_nil (List.splitOn_ne_nil sep rest)
    rw [hparts] at ih ⊢
    by_cases hsep : d = sep
    · rw [if_pos (by simpa using hsep)]
      rcases List.mem_cons.mp hc with rfl | hrest
      · exact .inl hsep
      · rcases ih hrest with h | ⟨part, hpart, hmem⟩
        · exact .inl h
        · exact .inr ⟨part, List.mem_cons_of_mem _ hpart, hmem⟩
    · rw [if_neg (by simpa using hsep), List.modifyHead_cons]
      rcases List.mem_cons.mp hc with rfl | hrest
      · exact .inr ⟨c :: first, List.mem_cons_self, List.mem_cons_self⟩
      · rcases ih hrest with h | ⟨part, hpart, hmem⟩
        · exact .inl h
        · rcases List.mem_cons.mp hpart with rfl | hothers
          · exact .inr ⟨d :: part, List.mem_cons_self, List.mem_cons_of_mem _ hmem⟩
          · exact .inr ⟨part, List.mem_cons_of_mem _ hothers, hmem⟩

theorem isDigit_of_digits? {cs : List Char} {n : ℕ} (h : digits? cs = some n) :
    ∀ c ∈ cs, c.isDigit = true := by
  unfold digits? at h
  split_ifs at h with hplain
  simp only [Bool.or_eq_true, Bool.not_eq_true', not_or, Bool.not_eq_false,
    List.all_eq_true] at hplain
  exact hplain.2

/-- The characters of a number. -/
theorem mem_of_atoi {s : String} {n : ℤ} {c : Char} (h : atoi s = some n) (hc : c ∈ s.toList) :
    c.isDigit = true ∨ c = '-' ∨ c = '+' := by
  have hinteger : integer? s = some n := (Option.filter_eq_some_iff.mp h).1
  unfold integer? at hinteger
  split at hinteger
  all_goals
    obtain ⟨m, hnumber, -⟩ := Option.map_eq_some_iff.mp hinteger
    obtain ⟨k, hdigits, -⟩ := Option.bind_eq_some_iff.mp hnumber
  · rename_i cs hcs
    rw [hcs] at hc
    rcases List.mem_cons.mp hc with rfl | hrest
    · exact .inr (.inl rfl)
    · exact .inl (isDigit_of_digits? hdigits c hrest)
  · rename_i cs hcs
    rw [hcs] at hc
    rcases List.mem_cons.mp hc with rfl | hrest
    · exact .inr (.inr rfl)
    · exact .inl (isDigit_of_digits? hdigits c hrest)
  · exact .inl (isDigit_of_digits? hdigits c hc)

theorem lowerChar_of_small {c : Char} (h : c.isDigit = true ∨ c = '-' ∨ c = '+' ∨ c = 'x') :
    isSpace c = false ∧ lowerChar c = c := by
  rcases h with hdigit | rfl | rfl | rfl
  · have hrange : 48 ≤ c.toNat ∧ c.toNat ≤ 57 := by
      simpa [Char.isDigit, UInt32.le_iff_toNat_le] using hdigit
    refine ⟨isSpace_of_range (by omega) (by omega), ?_⟩
    have hkelvin : c ≠ '\u212A' := by
      rintro rfl
      exact absurd hrange.2 (by decide)
    have hdotted : c ≠ '\u0130' := by
      rintro rfl
      exact absurd hrange.2 (by decide)
    rw [lowerChar, if_neg hkelvin, if_neg hdotted]
    rcases toLower_range c with heq | hupper
    · exact heq
    · omega
  all_goals decide

/-- Two numbers with an `x` between them. -/
theorem isCanonical_of_numbers {s w h : String} {m n : ℤ} (hsplit : split s 'x' = [w, h])
    (hw : atoi w = some m) (hh : atoi h = some n) : isCanonical s = true := by
  rw [isCanonical, List.all_eq_true]
  intro c hc
  have hplain : c.isDigit = true ∨ c = '-' ∨ c = '+' ∨ c = 'x' := by
    rcases mem_splitOn 'x' hc with rfl | ⟨part, hpart, hmem⟩
    · simp
    · have hnumber : String.ofList part ∈ split s 'x' := List.mem_map_of_mem hpart
      rw [hsplit] at hnumber
      have hmem' : c ∈ (String.ofList part).toList := by rwa [String.toList_ofList]
      rcases List.mem_pair.mp hnumber with heq | heq
      · rcases mem_of_atoi hw (heq ▸ hmem') with h | h | h <;> simp [h]
      · rcases mem_of_atoi hh (heq ▸ hmem') with h | h | h <;> simp [h]
  simpa using lowerChar_of_small hplain

/-! ### Joined texts -/

/-- Lists that end at the first separator are known from what they are joined to. -/
theorem append_cons_inj {α : Type} {c : α} {xs xs' ys ys' : List α} (h : c ∉ xs) (h' : c ∉ xs') :
    xs ++ c :: ys = xs' ++ c :: ys' ↔ xs = xs' ∧ ys = ys' := by
  induction xs generalizing xs' with
  | nil =>
    cases xs' with
    | nil => simp
    | cons d rest' =>
      have hne : c ≠ d := fun heq => h' (heq ▸ List.mem_cons_self)
      simp [hne]
  | cons a rest ih =>
    cases xs' with
    | nil =>
      have hne : a ≠ c := fun heq => h (heq ▸ List.mem_cons_self)
      simp [hne]
    | cons d rest' =>
      rw [List.mem_cons, not_or] at h h'
      rw [List.cons_append, List.cons_append, List.cons.injEq, List.cons.injEq, ih h.2 h'.2,
        and_assoc]

theorem append_cancel_left {s t u : String} (h : s ++ t = s ++ u) : t = u := by
  have hlist := congrArg String.toList h
  rw [String.toList_append, String.toList_append] at hlist
  exact String.toList_inj.mp (List.append_cancel_left hlist)

theorem append_cancel_right {s t u : String} (h : t ++ s = u ++ s) : t = u := by
  have hlist := congrArg String.toList h
  rw [String.toList_append, String.toList_append] at hlist
  exact String.toList_inj.mp (List.append_cancel_right hlist)

/-- Texts with ends of one length have equal beginnings and equal ends. -/
theorem append_inj_of_length {s s' t t' : String} (h : s ++ t = s' ++ t')
    (hlen : t.length = t'.length) : s = s' ∧ t = t' := by
  have hlist := congrArg String.toList h
  rw [String.toList_append, String.toList_append] at hlist
  obtain ⟨hs, ht⟩ := List.append_inj' hlist (by rwa [String.length_toList, String.length_toList])
  exact ⟨String.toList_inj.mp hs, String.toList_inj.mp ht⟩

/-- Texts that differ in a character of their beginnings. -/
theorem append_ne_of_char {s s' : String} (i : ℕ) (hs : i < s.toList.length)
    (hs' : i < s'.toList.length) (hne : s.toList[i]? ≠ s'.toList[i]?) (t t' : String) :
    s ++ t ≠ s' ++ t' := by
  intro h
  have hlist := congrArg (fun text : String => text.toList[i]?) h
  simp only [String.toList_append, List.getElem?_append_left hs,
    List.getElem?_append_left hs'] at hlist
  exact hne hlist

/-- Texts that differ in their last character. -/
theorem append_ne_of_last {t t' : String} (ht : t.toList ≠ []) (ht' : t'.toList ≠ [])
    (hne : t.toList.getLast? ≠ t'.toList.getLast?) (s s' : String) : s ++ t ≠ s' ++ t' := by
  intro h
  have hlist := congrArg (fun text : String => text.toList.getLast?) h
  simp only [String.toList_append, List.getLast?_append_of_ne_nil _ ht,
    List.getLast?_append_of_ne_nil _ ht'] at hlist
  exact hne hlist

end Text

import GenerationGateway.Library.Bytes
import GenerationGateway.Library.Text

/-!
# UTF-8

Byte strings that are texts. A cut of a text is a text again exactly between two
characters, and a byte string is cut into a text exactly if the characters that begin
before the cut are well formed and end before it.
-/

namespace Utf8

open Bytes

def encode (cs : List Char) : ByteString := cs.flatMap String.utf8EncodeChar

def Valid (b : ByteString) : Prop := ∃ cs, b = encode cs

/-- The character that begins the bytes. -/
def decode (b : ByteString) : Option Char := b.toByteArray.utf8DecodeChar? 0

@[simp] theorem encode_nil : encode [] = [] := rfl

theorem encode_cons (c : Char) (cs : List Char) :
    encode (c :: cs) = String.utf8EncodeChar c ++ encode cs := rfl

theorem encode_append (cs cs' : List Char) : encode (cs ++ cs') = encode cs ++ encode cs' :=
  List.flatMap_append

theorem encodeChar_length (c : Char) : (String.utf8EncodeChar c).length = c.utf8Size :=
  String.length_utf8EncodeChar c

theorem decode_encodeChar_append (c : Char) (b : ByteString) :
    decode (String.utf8EncodeChar c ++ b) = some c := by
  rw [decode, List.toByteArray_append]
  exact ByteArray.utf8DecodeChar?_utf8EncodeChar_append

theorem decode_eq_some {b : ByteString} {c : Char} :
    decode b = some c ↔ ∃ rest, b = String.utf8EncodeChar c ++ rest := by
  constructor
  · intro h
    obtain ⟨rest, hrest⟩ := ByteArray.exists_of_utf8DecodeChar?_eq_some h
    refine ⟨rest.data.toList, ?_⟩
    rw [← List.toByteArray_inj, hrest, List.toByteArray_append]
    congr 1
    ext1
    simp
  · rintro ⟨rest, rfl⟩
    exact decode_encodeChar_append c rest

theorem decode_nil : decode [] = none := rfl

theorem encodeChar_prefix_unique {c d : Char} {b b' : ByteString}
    (h : String.utf8EncodeChar c ++ b = String.utf8EncodeChar d ++ b') : c = d ∧ b = b' := by
  have hdecode := congrArg decode h
  rw [decode_encodeChar_append, decode_encodeChar_append, Option.some.injEq] at hdecode
  subst hdecode
  exact ⟨rfl, List.append_cancel_left h⟩

theorem encode_injective : Function.Injective encode := by
  intro cs
  induction cs with
  | nil =>
    intro ds h
    cases ds with
    | nil => rfl
    | cons d rest =>
      have hlen := congrArg List.length h
      rw [encode_cons, List.length_append, encodeChar_length] at hlen
      have hpos := d.utf8Size_pos
      simp at hlen
      omega
  | cons c rest ih =>
    intro ds h
    cases ds with
    | nil =>
      have hlen := congrArg List.length h
      rw [encode_cons, List.length_append, encodeChar_length] at hlen
      have hpos := c.utf8Size_pos
      simp at hlen
      omega
    | cons d rest' =>
      rw [encode_cons, encode_cons] at h
      obtain ⟨rfl, hrest⟩ := encodeChar_prefix_unique h
      rw [ih hrest]

theorem valid_encode (cs : List Char) : Valid (encode cs) := ⟨cs, rfl⟩

theorem valid_nil : Valid [] := ⟨[], rfl⟩

theorem Valid.append {b b' : ByteString} (h : Valid b) (h' : Valid b') : Valid (b ++ b') := by
  obtain ⟨cs, rfl⟩ := h
  obtain ⟨cs', rfl⟩ := h'
  exact ⟨cs ++ cs', (encode_append cs cs').symm⟩

theorem valid_encodeChar_append {c : Char} {b : ByteString} :
    Valid (String.utf8EncodeChar c ++ b) ↔ Valid b := by
  constructor
  · rintro ⟨cs, h⟩
    cases cs with
    | nil => simp at h
    | cons d rest => exact ⟨rest, (encodeChar_prefix_unique h).2⟩
  · rintro ⟨cs, rfl⟩
    exact ⟨c :: cs, rfl⟩

theorem valid_encode_append {cs : List Char} {b : ByteString} :
    Valid (encode cs ++ b) ↔ Valid b := by
  induction cs with
  | nil => rfl
  | cons c rest ih => rw [encode_cons, List.append_assoc, valid_encodeChar_append, ih]

/-- What begins with a whole text is a text exactly if the rest is one. -/
theorem Valid.append_iff {b b' : ByteString} (h : Valid b) : Valid (b ++ b') ↔ Valid b' := by
  obtain ⟨cs, rfl⟩ := h
  exact valid_encode_append

/-- A byte that no character continues with. -/
abbrev FirstByte (byte : UInt8) : Prop := byte.IsUTF8FirstByte

/-- A text can be cut exactly where a character begins. -/
theorem valid_take_encode {cs : List Char} {i : ℕ} (h : i < (encode cs).length) :
    Valid ((encode cs).take i) ↔ FirstByte (encode cs)[i] := by
  induction cs generalizing i with
  | nil => simp at h
  | cons c rest ih =>
    have hlen := encodeChar_length c
    have hpos := c.utf8Size_pos
    simp only [encode_cons] at h ⊢
    by_cases hinside : i < (String.utf8EncodeChar c).length
    · rw [List.getElem_append_left hinside, FirstByte, UInt8.isUTF8FirstByte_getElem_utf8EncodeChar,
        List.take_append_of_le_length hinside.le]
      constructor
      · rintro ⟨ds, hds⟩
        cases ds with
        | nil =>
          have hzero := congrArg List.length hds
          rw [List.length_take, encode_nil, List.length_nil] at hzero
          omega
        | cons d tail =>
          have hsplit : String.utf8EncodeChar c ++ [] =
              String.utf8EncodeChar d ++ (encode tail ++ (String.utf8EncodeChar c).drop i) := by
            rw [← List.append_assoc, ← encode_cons, ← hds, List.take_append_drop, List.append_nil]
          have hempty := (encodeChar_prefix_unique hsplit).2
          have hdrop := congrArg List.length hempty
          rw [List.length_append, List.length_drop, List.length_nil] at hdrop
          omega
      · rintro rfl
        exact valid_nil
    · have hle : (String.utf8EncodeChar c).length ≤ i := not_lt.mp hinside
      rw [List.length_append] at h
      rw [List.getElem_append_right hle, List.take_append, List.take_of_length_le hle,
        valid_encodeChar_append]
      exact ih (by omega)

theorem valid_take {b : ByteString} {i : ℕ} (hvalid : Valid b) (h : i < b.length) :
    Valid (b.take i) ↔ FirstByte b[i] := by
  obtain ⟨cs, rfl⟩ := hvalid
  exact valid_take_encode h

/-- A text begins with a byte that begins a character. -/
theorem Valid.firstByte {byte : UInt8} {b : ByteString} (h : Valid (byte :: b)) :
    FirstByte byte :=
  (valid_take h (i := 0) (by simp)).mp valid_nil

/-- Bytes that are joined where a character begins are a text exactly if both parts are. -/
theorem valid_append_iff {b b' : ByteString} {byte : UInt8} (h : FirstByte byte) :
    Valid (b ++ byte :: b') ↔ Valid b ∧ Valid (byte :: b') := by
  constructor
  · intro hvalid
    have hcut : Valid b := by
      have htake := (valid_take hvalid (i := b.length) (by simp)).mpr (by simpa using h)
      rwa [List.take_left] at htake
    exact ⟨hcut, hcut.append_iff.mp hvalid⟩
  · rintro ⟨hb, hb'⟩
    exact hb.append hb'

/-! ### Texts that can be stored -/

/-- UTF-8 without the byte 0. -/
structure Storable (b : ByteString) : Prop where
  valid : Valid b
  noNul : (0 : UInt8) ∉ b

theorem zero_mem_encodeChar {c : Char} : (0 : UInt8) ∈ String.utf8EncodeChar c ↔ c = '\x00' := by
  constructor
  · intro h
    rw [String.utf8EncodeChar_eq_utf8EncodeCharFast] at h
    unfold String.utf8EncodeCharFast at h
    dsimp only at h
    split_ifs at h with hone htwo hthree
    · rw [List.mem_singleton] at h
      have hzero : c.val.toNat % 256 = 0 := by
        rw [← UInt32.toNat_toUInt8, ← h]
        rfl
      have hsmall : c.val.toNat ≤ 127 := UInt32.le_iff_toNat_le.mp hone
      apply Char.ext
      apply UInt32.toNat_inj.mp
      change c.val.toNat = 0
      omega
    -- The other forms have a marker bit in every byte.
    all_goals simp [@eq_comm _ (0 : UInt8), UInt8.or_eq_zero_iff] at h
  · rintro rfl
    decide

theorem storable_nil : Storable [] := ⟨valid_nil, List.not_mem_nil⟩

theorem storable_encodeChar_append {c : Char} {b : ByteString} :
    Storable (String.utf8EncodeChar c ++ b) ↔ c ≠ '\x00' ∧ Storable b := by
  constructor
  · rintro ⟨hvalid, hnul⟩
    rw [List.mem_append, not_or, zero_mem_encodeChar] at hnul
    exact ⟨hnul.1, valid_encodeChar_append.mp hvalid, hnul.2⟩
  · rintro ⟨hc, hvalid, hnul⟩
    refine ⟨valid_encodeChar_append.mpr hvalid, ?_⟩
    rw [List.mem_append, not_or, zero_mem_encodeChar]
    exact ⟨hc, hnul⟩

theorem Storable.append_iff {b b' : ByteString} (h : Storable b) :
    Storable (b ++ b') ↔ Storable b' := by
  constructor
  · rintro ⟨hvalid, hnul⟩
    exact ⟨h.valid.append_iff.mp hvalid, fun hmem => hnul (List.mem_append_right _ hmem)⟩
  · rintro ⟨hvalid, hnul⟩
    refine ⟨h.valid.append_iff.mpr hvalid, ?_⟩
    rw [List.mem_append, not_or]
    exact ⟨h.noNul, hnul⟩

theorem storable_append_iff {b b' : ByteString} {byte : UInt8} (h : FirstByte byte) :
    Storable (b ++ byte :: b') ↔ Storable b ∧ Storable (byte :: b') := by
  constructor
  · rintro ⟨hvalid, hnul⟩
    obtain ⟨hb, hb'⟩ := (valid_append_iff h).mp hvalid
    rw [List.mem_append, not_or] at hnul
    exact ⟨⟨hb, hnul.1⟩, hb', hnul.2⟩
  · rintro ⟨hb, hb'⟩
    exact hb.append_iff.mpr hb'

theorem storable_encode {cs : List Char} : Storable (encode cs) ↔ '\x00' ∉ cs := by
  induction cs with
  | nil => exact ⟨fun _ => List.not_mem_nil, fun _ => storable_nil⟩
  | cons c rest ih =>
    rw [encode_cons, storable_encodeChar_append, ih, List.mem_cons, not_or, ne_comm]

/-- Bytes before a whole text are a text exactly if the joined bytes are. -/
theorem storable_append_encode {b b' : ByteString} {cs : List Char} (hne : cs ≠ [])
    (hcs : Storable (encode cs)) :
    Storable (b ++ (encode cs ++ b')) ↔ Storable b ∧ Storable b' := by
  obtain ⟨c, rest, rfl⟩ := List.exists_cons_of_ne_nil hne
  cases hbytes : encode (c :: rest) with
  | nil => exact absurd (encode_injective hbytes) hne
  | cons byte tail =>
    rw [hbytes] at hcs
    rw [List.cons_append, storable_append_iff hcs.valid.firstByte, ← List.cons_append,
      hcs.append_iff]

/-- Every character that begins within the limit is well formed, not NUL, and ends within
the limit. -/
def keeps (limit : ℕ) (b : ByteString) : Bool :=
  if limit = 0 ∨ b = [] then true
  else
    match decode b with
    | none => false
    | some c =>
      if c = '\x00' ∨ limit < c.utf8Size then false
      else keeps (limit - c.utf8Size) (b.drop c.utf8Size)
termination_by limit
decreasing_by
  have hpos := c.utf8Size_pos
  omega

/-- A text is cut into one that can be stored exactly if every character that begins before
the cut can be kept. -/
theorem storable_take_iff (limit : ℕ) (b : ByteString) :
    Storable (b.take limit) ↔ keeps limit b = true := by
  fun_induction keeps limit b with
  | case1 limit b hend =>
    have hempty : b.take limit = [] := by
      rcases hend with rfl | rfl <;> simp
    rw [hempty]
    exact ⟨fun _ => rfl, fun _ => storable_nil⟩
  | case2 limit b hmore hdecode =>
    simp only [Bool.false_eq_true, iff_false]
    rintro ⟨⟨cs, hcs⟩, -⟩
    rw [not_or] at hmore
    cases cs with
    | nil =>
      rw [encode_nil, List.take_eq_nil_iff] at hcs
      exact hcs.elim hmore.1 hmore.2
    | cons c rest =>
      have hb : b = String.utf8EncodeChar c ++ (encode rest ++ b.drop limit) := by
        rw [← List.append_assoc, ← encode_cons, ← hcs, List.take_append_drop]
      rw [hb, decode_encodeChar_append] at hdecode
      cases hdecode
  | case3 limit b hmore c hdecode hbad =>
    obtain ⟨rest, rfl⟩ := decode_eq_some.mp hdecode
    simp only [Bool.false_eq_true, iff_false]
    intro hstored
    rw [not_or] at hmore
    rcases hbad with rfl | hlong
    · cases limit with
      | zero => exact hmore.1 rfl
      | succ limit => exact hstored.noNul List.mem_cons_self
    · have hlen := encodeChar_length c
      have hinside : limit < (encode [c]).length := by
        rw [encode_cons, encode_nil, List.append_nil, hlen]
        exact hlong
      have hcut := hstored.valid
      rw [List.take_append_of_le_length (by omega), ← List.append_nil (String.utf8EncodeChar c),
        ← encode_nil, ← encode_cons, valid_take_encode hinside] at hcut
      have hinChar : limit < (String.utf8EncodeChar c).length := by omega
      have hchar : FirstByte (String.utf8EncodeChar c)[limit] := by
        simpa [encode_cons] using hcut
      exact hmore.1 (UInt8.isUTF8FirstByte_getElem_utf8EncodeChar.mp hchar)
  | case4 limit b hmore c hdecode hgood ih =>
    obtain ⟨rest, rfl⟩ := decode_eq_some.mp hdecode
    rw [not_or, not_lt] at hgood
    have hlen := encodeChar_length c
    rw [List.drop_left' hlen] at ih ⊢
    rw [List.take_append, List.take_of_length_le (hlen.trans_le hgood.2), hlen,
      storable_encodeChar_append, ← ih]
    exact and_iff_right hgood.1

instance (b : ByteString) : Decidable (Storable b) :=
  decidable_of_iff (keeps b.length b = true) (by rw [← storable_take_iff, List.take_length])

/-- A text is cut into one that can be stored exactly where a character begins. -/
theorem keeps_iff_of_storable {b : ByteString} (h : Storable b) (limit : ℕ) :
    keeps limit b = true ↔ ∀ hlt : limit < b.length, FirstByte b[limit] := by
  rw [← storable_take_iff]
  by_cases hlt : limit < b.length
  · have hcut := valid_take h.valid hlt
    constructor
    · intro hstored _
      exact hcut.mp hstored.valid
    · intro hfirst
      exact ⟨hcut.mpr (hfirst hlt), fun hmem => h.noNul (List.mem_of_mem_take hmem)⟩
  · rw [List.take_of_length_le (not_lt.mp hlt)]
    exact iff_of_true h fun hlt' => absurd hlt' hlt

theorem encode_replicate (n : ℕ) (c : Char) (hc : c.utf8Size = 1) :
    (encode (List.replicate n c)).length = n := by
  induction n with
  | zero => rfl
  | succ n ih =>
    rw [List.replicate_succ, encode_cons, List.length_append, encodeChar_length, hc, ih, add_comm]

/-- A text of one-byte characters can be cut anywhere. -/
theorem take_encode_of_ascii {cs : List Char} (h : ∀ c ∈ cs, c.utf8Size = 1) (limit : ℕ) :
    (encode cs).take limit = encode (cs.take limit) := by
  induction cs generalizing limit with
  | nil => simp
  | cons c rest ih =>
    obtain ⟨hc, hrest⟩ := List.forall_mem_cons.mp h
    have hlen := encodeChar_length c
    cases limit with
    | zero => rfl
    | succ limit =>
      rw [encode_cons, List.take_append, hlen, hc, List.take_of_length_le (by omega),
        List.take_succ_cons, encode_cons, Nat.add_sub_cancel, ih hrest]

/-! ### Trimming -/

theorem decode_ne_nil {b : ByteString} {c : Char} (h : decode b = some c) : b ≠ [] := by
  rintro rfl
  cases h

/-- `strings.TrimLeftFunc` with `unicode.IsSpace`; malformed bytes are no space. -/
def trimLeft (b : ByteString) : ByteString :=
  match _h : decode b with
  | none => b
  | some c => if Text.isSpace c then trimLeft (b.drop c.utf8Size) else b
termination_by b.length
decreasing_by
  have hpos := c.utf8Size_pos
  have hlen := List.length_pos_iff.mpr (decode_ne_nil _h)
  rw [List.length_drop]
  omega

/-- The character that ends the bytes. -/
def decodeLast (b : ByteString) : Option Char :=
  [1, 2, 3, 4].findSome? fun k =>
    if k ≤ b.length then (decode (b.drop (b.length - k))).filter fun c => c.utf8Size = k
    else none

/-- No encoding ends another one: its first byte would be inside it. -/
theorem eq_of_encodeChar_suffix {c d : Char} {b : ByteString}
    (h : String.utf8EncodeChar d = b ++ String.utf8EncodeChar c) : c = d := by
  have hc := encodeChar_length c
  have hpos := c.utf8Size_pos
  have htotal := congrArg List.length h
  rw [List.length_append] at htotal
  have hinside : b.length < (String.utf8EncodeChar d).length := by omega
  have hbyte : FirstByte (String.utf8EncodeChar d)[b.length] := by
    simp only [h, List.getElem_append_right (Nat.le_refl b.length), Nat.sub_self]
    exact UInt8.isUTF8FirstByte_getElem_zero_utf8EncodeChar
  have hempty : b = [] :=
    List.length_eq_zero_iff.mp (UInt8.isUTF8FirstByte_getElem_utf8EncodeChar.mp hbyte)
  rw [hempty, List.nil_append, ← List.append_nil (String.utf8EncodeChar d),
    ← List.append_nil (String.utf8EncodeChar c)] at h
  exact (encodeChar_prefix_unique h).1.symm

theorem encodeChar_suffix_unique {c d : Char} {b b' : ByteString}
    (h : b ++ String.utf8EncodeChar c = b' ++ String.utf8EncodeChar d) : c = d := by
  rcases List.append_eq_append_iff.mp h with ⟨mid, -, hmid⟩ | ⟨mid, -, hmid⟩
  · exact (eq_of_encodeChar_suffix hmid).symm
  · exact eq_of_encodeChar_suffix hmid

theorem decodeLast_eq_some {b : ByteString} {c : Char} :
    decodeLast b = some c ↔ ∃ start, b = start ++ String.utf8EncodeChar c := by
  have hcandidate (k : ℕ) (d : Char) :
      (if k ≤ b.length then (decode (b.drop (b.length - k))).filter fun c => c.utf8Size = k
        else none) = some d ↔ d.utf8Size = k ∧ ∃ start, b = start ++ String.utf8EncodeChar d := by
    have hlen := encodeChar_length d
    constructor
    · intro h
      split_ifs at h with hk
      rw [Option.filter_eq_some_iff, decode_eq_some, decide_eq_true_eq] at h
      obtain ⟨⟨rest, hrest⟩, hsize⟩ := h
      have htotal := congrArg List.length hrest
      rw [List.length_drop, List.length_append] at htotal
      have hempty : rest = [] := List.length_eq_zero_iff.mp (by omega)
      rw [hempty, List.append_nil] at hrest
      exact ⟨hsize, b.take (b.length - k), by rw [← hrest, List.take_append_drop]⟩
    · rintro ⟨hsize, start, rfl⟩
      have htotal : (start ++ String.utf8EncodeChar d).length = start.length + k := by
        rw [List.length_append, hlen, hsize]
      rw [htotal, if_pos (Nat.le_add_left _ _), Nat.add_sub_cancel, List.drop_left,
        Option.filter_eq_some_iff, decide_eq_true_eq]
      exact ⟨decode_eq_some.mpr ⟨[], (List.append_nil _).symm⟩, hsize⟩
  have hfound (d : Char) (h : decodeLast b = some d) :
      ∃ start, b = start ++ String.utf8EncodeChar d := by
    obtain ⟨k, -, hk⟩ := List.exists_of_findSome?_eq_some h
    exact ((hcandidate k d).mp hk).2
  constructor
  · exact hfound c
  · intro hends
    cases hlast : decodeLast b with
    | none =>
      have hsize : c.utf8Size ∈ [1, 2, 3, 4] := by
        have hcases := c.utf8Size_eq
        simpa using hcases
      have hnone := List.findSome?_eq_none_iff.mp hlast _ hsize
      rw [(hcandidate _ c).mpr ⟨rfl, hends⟩] at hnone
      cases hnone
    | some d =>
      obtain ⟨start, hstart⟩ := hends
      obtain ⟨start', hstart'⟩ := hfound d hlast
      rw [encodeChar_suffix_unique (hstart.symm.trans hstart')]

/-- `strings.TrimRightFunc` with `unicode.IsSpace`. -/
def trimRight (b : ByteString) : ByteString :=
  match _h : decodeLast b with
  | none => b
  | some c => if Text.isSpace c then trimRight (b.take (b.length - c.utf8Size)) else b
termination_by b.length
decreasing_by
  obtain ⟨start, hstart⟩ := decodeLast_eq_some.mp _h
  have hpos := c.utf8Size_pos
  have hlen := congrArg List.length hstart
  rw [List.length_append, encodeChar_length] at hlen
  rw [List.length_take]
  omega

/-- `strings.TrimSpace`. -/
def trimSpace (b : ByteString) : ByteString := trimRight (trimLeft b)

theorem trimLeft_space {c : Char} (h : Text.isSpace c = true) (b : ByteString) :
    trimLeft (String.utf8EncodeChar c ++ b) = trimLeft b := by
  rw [trimLeft]
  split
  · next hdecode =>
    rw [decode_encodeChar_append] at hdecode
    cases hdecode
  · next d hdecode =>
    rw [decode_encodeChar_append, Option.some.injEq] at hdecode
    subst hdecode
    rw [if_pos h, List.drop_left' (encodeChar_length c)]

theorem trimLeft_of {b : ByteString} (h : ∀ c, decode b = some c → Text.isSpace c = false) :
    trimLeft b = b := by
  rw [trimLeft]
  split
  · rfl
  · next c hdecode =>
    rw [h c hdecode]
    rfl

theorem trimRight_space {c : Char} (h : Text.isSpace c = true) (b : ByteString) :
    trimRight (b ++ String.utf8EncodeChar c) = trimRight b := by
  have hlast : decodeLast (b ++ String.utf8EncodeChar c) = some c :=
    decodeLast_eq_some.mpr ⟨b, rfl⟩
  rw [trimRight]
  split
  · next hdecode =>
    rw [hlast] at hdecode
    cases hdecode
  · next d hdecode =>
    rw [hlast, Option.some.injEq] at hdecode
    subst hdecode
    rw [if_pos h, List.length_append, encodeChar_length, Nat.add_sub_cancel, List.take_left]

theorem trimRight_of {b : ByteString} (h : ∀ c, decodeLast b = some c → Text.isSpace c = false) :
    trimRight b = b := by
  rw [trimRight]
  split
  · rfl
  · next c hdecode =>
    rw [h c hdecode]
    rfl

/-- A text is trimmed like its characters. -/
theorem trimLeft_encode (cs : List Char) :
    trimLeft (encode cs) = encode (cs.dropWhile Text.isSpace) := by
  induction cs with
  | nil => exact trimLeft_of fun c h => by cases h
  | cons c rest ih =>
    rw [encode_cons, List.dropWhile_cons]
    by_cases hc : Text.isSpace c = true
    · rw [trimLeft_space hc, ih, if_pos hc]
    · rw [if_neg hc, encode_cons]
      apply trimLeft_of
      intro d hd
      rw [decode_encodeChar_append, Option.some.injEq] at hd
      rw [← hd]
      exact Bool.eq_false_iff.mpr hc

theorem trimRight_encode (cs : List Char) :
    trimRight (encode cs) = encode (cs.rdropWhile Text.isSpace) := by
  induction cs using List.reverseRecOn with
  | nil => exact trimRight_of fun c h => by cases h
  | append_singleton rest c ih =>
    have hlast : encode (rest ++ [c]) = encode rest ++ String.utf8EncodeChar c := by
      rw [encode_append, encode_cons, encode_nil, List.append_nil]
    rw [List.rdropWhile_concat]
    by_cases hc : Text.isSpace c = true
    · rw [if_pos hc, hlast, trimRight_space hc, ih]
    · rw [if_neg hc]
      apply trimRight_of
      intro d hd
      rw [hlast] at hd
      obtain ⟨start, hstart⟩ := decodeLast_eq_some.mp hd
      rw [← encodeChar_suffix_unique hstart]
      exact Bool.eq_false_iff.mpr hc

theorem trimSpace_encode (cs : List Char) :
    trimSpace (encode cs) = encode (Text.trimSpace (String.ofList cs)).toList := by
  rw [trimSpace, trimLeft_encode, trimRight_encode, Text.trimSpace, String.toList_ofList,
    String.toList_ofList]
  rfl

theorem not_space_trimLeft {b : ByteString} {c : Char} (h : decode (trimLeft b) = some c) :
    Text.isSpace c = false := by
  fun_induction trimLeft b with
  | case1 b hnone =>
    rw [hnone] at h
    cases h
  | case2 b d hdecode hspace ih => exact ih h
  | case3 b d hdecode hspace =>
    rw [hdecode, Option.some.injEq] at h
    exact h ▸ Bool.eq_false_iff.mpr hspace

theorem not_space_trimRight {b : ByteString} {c : Char} (h : decodeLast (trimRight b) = some c) :
    Text.isSpace c = false := by
  fun_induction trimRight b with
  | case1 b hnone =>
    rw [hnone] at h
    cases h
  | case2 b d hdecode hspace ih => exact ih h
  | case3 b d hdecode hspace =>
    rw [hdecode, Option.some.injEq] at h
    exact h ▸ Bool.eq_false_iff.mpr hspace

theorem trimRight_prefix (b : ByteString) : trimRight b <+: b := by
  fun_induction trimRight b with
  | case1 b hnone => exact List.prefix_refl b
  | case2 b d hdecode hspace ih => exact ih.trans (List.take_prefix _ b)
  | case3 b d hdecode hspace => exact List.prefix_refl b

theorem trimSpace_trimSpace (b : ByteString) : trimSpace (trimSpace b) = trimSpace b := by
  have hleft : trimLeft (trimSpace b) = trimSpace b := by
    apply trimLeft_of
    intro c hc
    obtain ⟨rest, hrest⟩ := decode_eq_some.mp hc
    obtain ⟨tail, htail⟩ := trimRight_prefix (trimLeft b)
    apply not_space_trimLeft (b := b)
    rw [← htail, ← trimSpace, hrest, List.append_assoc]
    exact decode_encodeChar_append c _
  rw [trimSpace, hleft]
  exact trimRight_of fun c hc => not_space_trimRight hc

end Utf8

import GenerationGateway.Library.Bytes

/-!
# Base64

The standard alphabet, with padding or without. A decoder skips line breaks and does not look at
the bits that a padding stands for, so several texts may decode to the same bytes; the encoder
makes one of them.
-/

namespace Base64

open Bytes

def alphabet : List Char :=
  "ABCDEFGHIJKLMNOPQRSTUVWXYZabcdefghijklmnopqrstuvwxyz0123456789+/".toList

def symbol (n : ℕ) : Char := alphabet.getD n 'A'

def value (c : Char) : Option ℕ := alphabet.idxOf? c

def padding (padded : Bool) (n : ℕ) : List Char := if padded then List.replicate n '=' else []

def encode (padded : Bool) : ByteString → List Char
  | [] => []
  | [a] => symbol (a.toNat / 4) :: symbol (a.toNat % 4 * 16) :: padding padded 2
  | [a, b] =>
    symbol (a.toNat / 4) :: symbol (a.toNat % 4 * 16 + b.toNat / 16) ::
      symbol (b.toNat % 16 * 4) :: padding padded 1
  | a :: b :: c :: rest =>
    symbol (a.toNat / 4) :: symbol (a.toNat % 4 * 16 + b.toNat / 16) ::
      symbol (b.toNat % 16 * 4 + c.toNat / 64) :: symbol (c.toNat % 64) :: encode padded rest

def first (x y : ℕ) : UInt8 := UInt8.ofNat (x * 4 + y / 16)
def second (y z : ℕ) : UInt8 := UInt8.ofNat (y % 16 * 16 + z / 4)
def third (z w : ℕ) : UInt8 := UInt8.ofNat (z % 4 * 64 + w)

def decodeQuanta (padded : Bool) : List Char → Option ByteString
  | [] => some []
  | [_] => none
  | [a, b] =>
    if padded then none
    else do
      let x ← value a
      let y ← value b
      return [first x y]
  | [a, b, c] =>
    if padded then none
    else do
      let x ← value a
      let y ← value b
      let z ← value c
      return [first x y, second y z]
  | a :: b :: c :: d :: rest => do
    let x ← value a
    let y ← value b
    if padded && d = '=' then
      if rest ≠ [] then none
      else if c = '=' then return [first x y]
      else do
        let z ← value c
        return [first x y, second y z]
    else do
      let z ← value c
      let w ← value d
      let tail ← decodeQuanta padded rest
      return first x y :: second y z :: third z w :: tail

def isBreak (c : Char) : Bool := c = '\n' || c = '\r'

def decode (padded : Bool) (text : List Char) : Option ByteString :=
  decodeQuanta padded (text.filter fun c => !isBreak c)

/-! ### The round trip -/

theorem value_symbol {n : ℕ} (h : n < 64) : value (symbol n) = some n := by
  have hall : ∀ n < 64, value (symbol n) = some n := by decide +kernel
  exact hall n h

theorem symbol_plain {n : ℕ} (h : n < 64) : isBreak (symbol n) = false ∧ symbol n ≠ '=' := by
  have hall : ∀ n < 64, isBreak (symbol n) = false ∧ symbol n ≠ '=' := by decide +kernel
  exact hall n h

theorem toNat_lt (a : UInt8) : a.toNat < 256 := a.toNat_lt

theorem first_eq {a : UInt8} {n : ℕ} (h : n < 16) : first (a.toNat / 4) (a.toNat % 4 * 16 + n) = a := by
  have ha := toNat_lt a
  have hval : a.toNat / 4 * 4 + (a.toNat % 4 * 16 + n) / 16 = a.toNat := by omega
  rw [first, hval, UInt8.ofNat_toNat]

theorem second_eq {b : UInt8} {m n : ℕ} (hn : n < 4) :
    second (m * 16 + b.toNat / 16) (b.toNat % 16 * 4 + n) = b := by
  have hb := toNat_lt b
  have hval : (m * 16 + b.toNat / 16) % 16 * 16 + (b.toNat % 16 * 4 + n) / 4 = b.toNat := by omega
  rw [second, hval, UInt8.ofNat_toNat]

theorem third_eq {c : UInt8} {m : ℕ} : third (m * 4 + c.toNat / 64) (c.toNat % 64) = c := by
  have hc := toNat_lt c
  have hval : (m * 4 + c.toNat / 64) % 4 * 64 + c.toNat % 64 = c.toNat := by omega
  rw [third, hval, UInt8.ofNat_toNat]

theorem padding_plain {padded : Bool} {n : ℕ} : ∀ c ∈ padding padded n, isBreak c = false := by
  intro c hc
  unfold padding at hc
  split_ifs at hc
  · rw [List.eq_of_mem_replicate hc]
    rfl
  · cases hc

theorem encode_plain (padded : Bool) (b : ByteString) : ∀ c ∈ encode padded b, isBreak c = false := by
  fun_induction encode padded b with
  | case1 => simp
  | case2 a =>
    have ha := toNat_lt a
    have hx := symbol_plain (show a.toNat / 4 < 64 by omega)
    have hy := symbol_plain (show a.toNat % 4 * 16 < 64 by omega)
    simp only [List.forall_mem_cons]
    exact ⟨hx.1, hy.1, padding_plain⟩
  | case3 a b =>
    have ha := toNat_lt a
    have hb := toNat_lt b
    have hx := symbol_plain (show a.toNat / 4 < 64 by omega)
    have hy := symbol_plain (show a.toNat % 4 * 16 + b.toNat / 16 < 64 by omega)
    have hz := symbol_plain (show b.toNat % 16 * 4 < 64 by omega)
    simp only [List.forall_mem_cons]
    exact ⟨hx.1, hy.1, hz.1, padding_plain⟩
  | case4 a b c rest ih =>
    have ha := toNat_lt a
    have hb := toNat_lt b
    have hc := toNat_lt c
    have hx := symbol_plain (show a.toNat / 4 < 64 by omega)
    have hy := symbol_plain (show a.toNat % 4 * 16 + b.toNat / 16 < 64 by omega)
    have hz := symbol_plain (show b.toNat % 16 * 4 + c.toNat / 64 < 64 by omega)
    have hw := symbol_plain (show c.toNat % 64 < 64 by omega)
    simp only [List.forall_mem_cons]
    exact ⟨hx.1, hy.1, hz.1, hw.1, ih⟩

theorem decodeQuanta_encode (padded : Bool) (b : ByteString) :
    decodeQuanta padded (encode padded b) = some b := by
  fun_induction encode padded b with
  | case1 => rfl
  | case2 a =>
    have ha := toNat_lt a
    have hx := value_symbol (show a.toNat / 4 < 64 by omega)
    have hy := value_symbol (show a.toNat % 4 * 16 < 64 by omega)
    have hfirst : first (a.toNat / 4) (a.toNat % 4 * 16) = a := first_eq (show 0 < 16 by decide)
    cases padded <;> simp [padding, decodeQuanta, hx, hy, hfirst, List.replicate]
  | case3 a b =>
    have ha := toNat_lt a
    have hb := toNat_lt b
    have hx := value_symbol (show a.toNat / 4 < 64 by omega)
    have hy := value_symbol (show a.toNat % 4 * 16 + b.toNat / 16 < 64 by omega)
    have hz := value_symbol (show b.toNat % 16 * 4 < 64 by omega)
    have hpad := (symbol_plain (show b.toNat % 16 * 4 < 64 by omega)).2
    have hfirst : first (a.toNat / 4) (a.toNat % 4 * 16 + b.toNat / 16) = a := first_eq (by omega)
    have hsecond : second (a.toNat % 4 * 16 + b.toNat / 16) (b.toNat % 16 * 4) = b :=
      second_eq (show 0 < 4 by decide)
    cases padded <;> simp [padding, decodeQuanta, hx, hy, hz, hpad, hfirst, hsecond]
  | case4 a b c rest ih =>
    have ha := toNat_lt a
    have hb := toNat_lt b
    have hc := toNat_lt c
    have hx := value_symbol (show a.toNat / 4 < 64 by omega)
    have hy := value_symbol (show a.toNat % 4 * 16 + b.toNat / 16 < 64 by omega)
    have hz := value_symbol (show b.toNat % 16 * 4 + c.toNat / 64 < 64 by omega)
    have hw := value_symbol (show c.toNat % 64 < 64 by omega)
    have hpad := (symbol_plain (show c.toNat % 64 < 64 by omega)).2
    have hfirst : first (a.toNat / 4) (a.toNat % 4 * 16 + b.toNat / 16) = a := first_eq (by omega)
    have hsecond : second (a.toNat % 4 * 16 + b.toNat / 16) (b.toNat % 16 * 4 + c.toNat / 64) = b :=
      second_eq (by omega)
    have hthird : third (b.toNat % 16 * 4 + c.toNat / 64) (c.toNat % 64) = c := third_eq
    simp [decodeQuanta, hx, hy, hz, hw, hpad, hfirst, hsecond, hthird, ih]

/-- Decoding undoes encoding. -/
theorem decode_encode (padded : Bool) (b : ByteString) : decode padded (encode padded b) = some b := by
  have hplain : (encode padded b).filter (fun c => !isBreak c) = encode padded b := by
    apply List.filter_eq_self.mpr
    intro c hc
    rw [encode_plain padded b c hc]
    rfl
  rw [decode, hplain, decodeQuanta_encode]

end Base64

import Mathlib.Data.Nat.Bitwise
import Mathlib.Tactic

/-!
# Byte strings

Reads of a byte string that may be out of range, and numbers as their bytes, the least
significant byte first.
-/

namespace Bytes

abbrev ByteString := List UInt8

/-- `b[i]`; none is a run-time panic. -/
def byteAt (b : ByteString) (i : ℕ) : Option ℕ := b[i]?.map UInt8.toNat

/-- `b[low:high]`; none is a run-time panic. -/
def slice (b : ByteString) (low high : ℕ) : Option ByteString :=
  if low ≤ high ∧ high ≤ b.length then some ((b.drop low).take (high - low)) else none

/-- The bytes of a text of ASCII characters. -/
def ascii (s : String) : ByteString := s.toList.map fun c => c.toNat.toUInt8

def littleEndian : ByteString → ℕ
  | [] => 0
  | byte :: rest => byte.toNat + 256 * littleEndian rest

/-- The `k` bytes of a number below `256 ^ k`. -/
def toLittleEndian : ℕ → ℕ → ByteString
  | 0, _ => []
  | k + 1, n => (n % 256).toUInt8 :: toLittleEndian k (n / 256)

@[simp] theorem length_toLittleEndian (k n : ℕ) : (toLittleEndian k n).length = k := by
  induction k generalizing n with
  | zero => rfl
  | succ k ih => simp [toLittleEndian, ih]

theorem littleEndian_lt (b : ByteString) : littleEndian b < 256 ^ b.length := by
  induction b with
  | nil => decide
  | cons byte rest ih =>
    have hbyte := byte.toNat_lt
    rw [littleEndian, List.length_cons, pow_succ]
    omega

theorem littleEndian_toLittleEndian {k n : ℕ} (h : n < 256 ^ k) :
    littleEndian (toLittleEndian k n) = n := by
  induction k generalizing n with
  | zero =>
    rw [pow_zero] at h
    rw [toLittleEndian, littleEndian]
    omega
  | succ k ih =>
    rw [pow_succ] at h
    have hbyte : (n % 256).toUInt8.toNat = n % 256 := by
      simp
    rw [toLittleEndian, littleEndian, hbyte, ih (by omega)]
    omega

theorem toLittleEndian_littleEndian (b : ByteString) :
    toLittleEndian b.length (littleEndian b) = b := by
  induction b with
  | nil => rfl
  | cons byte rest ih =>
    have hbyte := byte.toNat_lt
    have hlow : (byte.toNat + 256 * littleEndian rest) % 256 = byte.toNat := by omega
    have hhigh : (byte.toNat + 256 * littleEndian rest) / 256 = littleEndian rest := by omega
    rw [List.length_cons, toLittleEndian, littleEndian, hlow, hhigh, ih]
    simp

theorem toLittleEndian_of_length {b : ByteString} {k : ℕ} (h : b.length = k) :
    toLittleEndian k (littleEndian b) = b := by
  rw [← h]
  exact toLittleEndian_littleEndian b

theorem exists_split {b : ByteString} {i : ℕ} (h : i ≤ b.length) :
    ∃ head rest, b = head ++ rest ∧ head.length = i ∧ rest.length = b.length - i := by
  refine ⟨b.take i, b.drop i, (List.take_append_drop i b).symm, ?_, List.length_drop⟩
  rw [List.length_take]
  omega

/-- The bitwise or of two shifted bytes. -/
theorem or_shiftLeft_eq {low high i : ℕ} (h : low < 2 ^ i) :
    low ||| high <<< i = low + 2 ^ i * high := by
  rw [Nat.or_comm, ← Nat.shiftLeft_add_eq_or_of_lt h, Nat.shiftLeft_eq]
  ring

theorem slice_append {before middle after : ByteString} {low high : ℕ}
    (hlow : low = before.length) (hhigh : high = before.length + middle.length) :
    slice (before ++ middle ++ after) low high = some middle := by
  subst hlow hhigh
  have hinside : before.length + middle.length ≤ (before ++ middle ++ after).length := by
    simp
  rw [slice, if_pos ⟨by omega, hinside⟩]
  simp

/-- A slice within the bounds is a part of the byte string at its place. -/
theorem slice_eq_some {b : ByteString} {low high : ℕ} (hle : low ≤ high) (hhigh : high ≤ b.length) :
    ∃ before middle after, b = before ++ middle ++ after ∧ before.length = low ∧
      middle.length = high - low ∧ slice b low high = some middle := by
  refine ⟨b.take low, (b.drop low).take (high - low), b.drop high, ?_, ?_, ?_, ?_⟩
  · have hrest : b.drop high = (b.drop low).drop (high - low) := by
      rw [List.drop_drop]
      congr 1
      omega
    rw [List.append_assoc, hrest, List.take_append_drop, List.take_append_drop]
  · rw [List.length_take]
    omega
  · rw [List.length_take, List.length_drop]
    omega
  · rw [slice, if_pos ⟨hle, hhigh⟩]

theorem byteAt_append {before after : ByteString} {byte : UInt8} {i : ℕ} (h : i = before.length) :
    byteAt (before ++ byte :: after) i = some byte.toNat := by
  subst h
  simp [byteAt]

end Bytes

import GenerationGateway.Library.Bytes

/-!
# Dimensions of WebP images

The parser of the canvas size of a WebP container, where a read outside of the input is a
panic, against the chunks of the container.
-/

namespace GenerationGateway.Worker

open Bytes

/-! ### The parser -/

/-- `binary.LittleEndian.Uint16`. -/
def uint16 (b : ByteString) : Option ℕ := (slice b 0 2).map littleEndian

/-- `binary.LittleEndian.Uint32`. -/
def uint32 (b : ByteString) : Option ℕ := (slice b 0 4).map littleEndian

/-- The canvas of an extended container. -/
def vp8xSize (chunk : ByteString) : Option (Option (ℕ × ℕ)) :=
  if 10 ≤ chunk.length then do
    let width := 1 + ((← byteAt chunk 4) ||| (← byteAt chunk 5) <<< 8 ||| (← byteAt chunk 6) <<< 16)
    let height := 1 + ((← byteAt chunk 7) ||| (← byteAt chunk 8) <<< 8 ||| (← byteAt chunk 9) <<< 16)
    return some (width, height)
  else return none

/-- The size of a lossless bitstream. -/
def vp8lSize (chunk : ByteString) : Option (Option (ℕ × ℕ)) :=
  if 5 ≤ chunk.length then do
    if (← byteAt chunk 0) = 0x2f then
      let bits := (← byteAt chunk 1) ||| (← byteAt chunk 2) <<< 8 ||| (← byteAt chunk 3) <<< 16 |||
        (← byteAt chunk 4) <<< 24
      let width := 1 + (bits &&& 0x3fff)
      let height := 1 + (bits >>> 14 &&& 0x3fff)
      return some (width, height)
    else return none
  else return none

/-- The size of a lossy bitstream. -/
def vp8Size (chunk : ByteString) : Option (Option (ℕ × ℕ)) :=
  if 10 ≤ chunk.length then do
    if (← byteAt chunk 3) = 0x9d ∧ (← byteAt chunk 4) = 0x01 ∧ (← byteAt chunk 5) = 0x2a then
      let width := (← uint16 (← slice chunk 6 8)) &&& 0x3fff
      let height := (← uint16 (← slice chunk 8 10)) &&& 0x3fff
      return some (width, height)
    else return none
  else return none

/-- The size in a chunk of one of the three types. -/
def chunkSize (chunkType chunk : ByteString) : Option (Option (ℕ × ℕ)) :=
  if chunkType = ascii "VP8X" then vp8xSize chunk
  else if chunkType = ascii "VP8L" then vp8lSize chunk
  else if chunkType = ascii "VP8 " then vp8Size chunk
  else return none

/-- The loop over the chunks. A length of 32 bits is never negative as an `int`. -/
def webPChunks (raw : ByteString) (offset : ℕ) : Option (ℕ × ℕ) :=
  if offset + 8 ≤ raw.length then do
    let chunkType ← slice raw offset (offset + 4)
    let size ← uint32 (← slice raw (offset + 4) (offset + 8))
    let payload := offset + 8
    if raw.length < payload ∨ raw.length - payload < size then return (0, 0)
    let chunk ← slice raw payload (payload + size)
    match ← chunkSize chunkType chunk with
    | some dimensions => return dimensions
    | none => webPChunks raw (payload + size + size % 2)
  else return (0, 0)
termination_by raw.length - offset

/-- `creativeFabricaWebPDimensions`; none is a panic. -/
def creativeFabricaWebPDimensions (raw : ByteString) : Option (ℕ × ℕ) :=
  if raw.length < 16 then return (0, 0)
  else do
    if (← slice raw 0 4) ≠ ascii "RIFF" then return (0, 0)
    if (← slice raw 8 12) ≠ ascii "WEBP" then return (0, 0)
    webPChunks raw 12

/-! ### Containers -/

/-- A chunk of a RIFF container; its length is a number of 32 bits. -/
structure Chunk where
  kind : ByteString
  payload : ByteString
  kind_length : kind.length = 4
  payload_length : payload.length < 2 ^ 32

namespace Chunk

def header (c : Chunk) : ByteString := c.kind ++ toLittleEndian 4 c.payload.length

/-- A payload of odd length has a byte of padding. -/
def encode (c : Chunk) : ByteString :=
  c.header ++ c.payload ++ List.replicate (c.payload.length % 2) 0

/-- The chunk lies at the offset, fully inside the input. -/
def At (c : Chunk) (raw : ByteString) (offset : ℕ) : Prop :=
  ∃ before after, raw = before ++ (c.header ++ c.payload) ++ after ∧ before.length = offset

/-- The offset after the chunk and its padding. -/
def next (c : Chunk) (offset : ℕ) : ℕ := offset + 8 + c.payload.length + c.payload.length % 2

/-- One of the three types that hold a size. -/
def IsImage (c : Chunk) : Prop :=
  c.kind = ascii "VP8X" ∨ c.kind = ascii "VP8L" ∨ c.kind = ascii "VP8 "

theorem length_header (c : Chunk) : c.header.length = 8 := by
  simp [header, c.kind_length]

end Chunk

/-- The offsets of a walk over whole chunks. -/
inductive Reached (raw : ByteString) : ℕ → Prop
  | first : Reached raw 12
  | next {offset : ℕ} (c : Chunk) : Reached raw offset → c.At raw offset → Reached raw (c.next offset)

/-- What the format says of a size: the canvas of 24 bits a side, the 14 bits of a lossless
bitstream, both less one, and the 14 bits of a lossy one beside two bits of scale. -/
inductive Canvas : ByteString → ByteString → ℕ → ℕ → Prop
  | vp8x {w h : ℕ} (flags rest : ByteString) : flags.length = 4 → w < 2 ^ 24 → h < 2 ^ 24 →
    Canvas (ascii "VP8X") (flags ++ toLittleEndian 3 w ++ toLittleEndian 3 h ++ rest) (w + 1) (h + 1)
  | vp8l {w h v : ℕ} (rest : ByteString) : w < 2 ^ 14 → h < 2 ^ 14 → v < 2 ^ 4 →
    Canvas (ascii "VP8L") (0x2f :: toLittleEndian 4 (w + 2 ^ 14 * h + 2 ^ 28 * v) ++ rest)
      (w + 1) (h + 1)
  | vp8 {w h s t : ℕ} (tag rest : ByteString) : tag.length = 3 → w < 2 ^ 14 → h < 2 ^ 14 →
    s < 4 → t < 4 →
    Canvas (ascii "VP8 ") (tag ++ [0x9d, 0x01, 0x2a] ++ toLittleEndian 2 (w + 2 ^ 14 * s) ++
      toLittleEndian 2 (h + 2 ^ 14 * t) ++ rest) w h

/-! ### Sizes of chunks -/

theorem or_eq_littleEndian_three (a b c : UInt8) :
    a.toNat ||| b.toNat <<< 8 ||| c.toNat <<< 16 = littleEndian [a, b, c] := by
  have ha := a.toNat_lt
  have hb := b.toNat_lt
  have hlow : a.toNat ||| b.toNat <<< 8 = a.toNat + 2 ^ 8 * b.toNat := or_shiftLeft_eq (by omega)
  rw [hlow, or_shiftLeft_eq (by omega)]
  simp only [littleEndian]
  ring

theorem or_eq_littleEndian_four (a b c d : UInt8) :
    a.toNat ||| b.toNat <<< 8 ||| c.toNat <<< 16 ||| d.toNat <<< 24 =
      littleEndian [a, b, c, d] := by
  have hlow : littleEndian [a, b, c] < 2 ^ 24 :=
    (littleEndian_lt [a, b, c]).trans_eq (by norm_num)
  rw [or_eq_littleEndian_three, or_shiftLeft_eq hlow]
  simp only [littleEndian]
  ring

theorem and_mask_eq (n : ℕ) : n &&& 0x3fff = n % 2 ^ 14 := Nat.and_two_pow_sub_one_eq_mod n 14

theorem vp8xSize_append {flags width height : ByteString} (rest : ByteString)
    (hflags : flags.length = 4) (hwidth : width.length = 3) (hheight : height.length = 3) :
    vp8xSize (flags ++ width ++ height ++ rest) =
      some (some (littleEndian width + 1, littleEndian height + 1)) := by
  match flags, width, height, hflags, hwidth, hheight with
  | [_, _, _, _], [a, b, c], [d, e, f], _, _, _ =>
    simp [vp8xSize, byteAt, or_eq_littleEndian_three, Nat.add_comm 1]

theorem vp8lSize_append {bits : ByteString} (rest : ByteString) (hbits : bits.length = 4) :
    vp8lSize (0x2f :: bits ++ rest) =
      some (some (littleEndian bits % 2 ^ 14 + 1, littleEndian bits / 2 ^ 14 % 2 ^ 14 + 1)) := by
  match bits, hbits with
  | [a, b, c, d], _ =>
    simp [vp8lSize, byteAt, or_eq_littleEndian_four, and_mask_eq, Nat.shiftRight_eq_div_pow,
      Nat.add_comm 1]

theorem vp8Size_append {tag width height : ByteString} (rest : ByteString)
    (htag : tag.length = 3) (hwidth : width.length = 2) (hheight : height.length = 2) :
    vp8Size (tag ++ [0x9d, 0x01, 0x2a] ++ width ++ height ++ rest) =
      some (some (littleEndian width % 2 ^ 14, littleEndian height % 2 ^ 14)) := by
  match tag, width, height, htag, hwidth, hheight with
  | [_, _, _], [a, b], [c, d], _, _, _ =>
    simp [vp8Size, byteAt, slice, uint16, and_mask_eq]

theorem vp8lSize_other {first : UInt8} {bits : ByteString} (rest : ByteString)
    (hbits : bits.length = 4) (hfirst : first ≠ 0x2f) :
    vp8lSize ([first] ++ bits ++ rest) = some none := by
  have hne : ¬first.toNat = 47 := fun h => hfirst (UInt8.toNat_inj.mp h)
  match bits, hbits with
  | [a, b, c, d], _ => simp [vp8lSize, byteAt, hne]

theorem vp8Size_other {tag mark dimensions : ByteString} (rest : ByteString) (htag : tag.length = 3)
    (hmark : mark.length = 3) (hdimensions : dimensions.length = 4) (hne : mark ≠ [0x9d, 0x01, 0x2a]) :
    vp8Size (tag ++ mark ++ dimensions ++ rest) = some none := by
  match tag, mark, dimensions, htag, hmark, hdimensions with
  | [_, _, _], [a, b, c], [_, _, _, _], _, _, _ =>
    have hbytes : ¬(a.toNat = 157 ∧ b.toNat = 1 ∧ c.toNat = 42) := by
      rintro ⟨ha, hb, hc⟩
      have ha' : a = 0x9d := UInt8.toNat_inj.mp ha
      have hb' : b = 0x01 := UInt8.toNat_inj.mp hb
      have hc' : c = 0x2a := UInt8.toNat_inj.mp hc
      exact hne (by rw [ha', hb', hc'])
    simp [vp8Size, byteAt, hbytes]

/-- The read of a chunk never panics, and a size is the one that the format says. -/
def Reads (kind payload : ByteString) (read : Option (Option (ℕ × ℕ))) : Prop :=
  read = some none ∨ ∃ w h, read = some (some (w, h)) ∧ Canvas kind payload w h

theorem vp8xSize_reads (payload : ByteString) :
    Reads (ascii "VP8X") payload (vp8xSize payload) := by
  by_cases hlen : 10 ≤ payload.length
  · obtain ⟨flags, tail, rfl, hflags, -⟩ := exists_split (b := payload) (i := 4) (by omega)
    rw [List.length_append] at hlen
    obtain ⟨width, tail, rfl, hwidth, -⟩ := exists_split (b := tail) (i := 3) (by omega)
    rw [List.length_append] at hlen
    obtain ⟨height, rest, rfl, hheight, -⟩ := exists_split (b := tail) (i := 3) (by omega)
    have hw := littleEndian_lt width
    have hh := littleEndian_lt height
    rw [hwidth] at hw
    rw [hheight] at hh
    have hcanvas := Canvas.vp8x (w := littleEndian width) (h := littleEndian height) flags rest
      hflags (by omega) (by omega)
    rw [toLittleEndian_of_length hwidth, toLittleEndian_of_length hheight] at hcanvas
    rw [← List.append_assoc, ← List.append_assoc]
    exact .inr ⟨_, _, vp8xSize_append rest hflags hwidth hheight, hcanvas⟩
  · left
    rw [vp8xSize, if_neg hlen]
    rfl

theorem vp8lSize_reads (payload : ByteString) :
    Reads (ascii "VP8L") payload (vp8lSize payload) := by
  by_cases hlen : 5 ≤ payload.length
  · obtain ⟨first, tail, rfl, hfirst, -⟩ := exists_split (b := payload) (i := 1) (by omega)
    rw [List.length_append] at hlen
    obtain ⟨bits, rest, rfl, hbits, -⟩ := exists_split (b := tail) (i := 4) (by omega)
    obtain ⟨byte, rfl⟩ := List.length_eq_one_iff.mp hfirst
    rw [← List.append_assoc]
    by_cases hsignature : byte = 0x2f
    · subst hsignature
      have hb := littleEndian_lt bits
      rw [hbits] at hb
      have hcanvas := Canvas.vp8l (w := littleEndian bits % 2 ^ 14)
        (h := littleEndian bits / 2 ^ 14 % 2 ^ 14) (v := littleEndian bits / 2 ^ 28) rest
        (by omega) (by omega) (by omega)
      have hparts : littleEndian bits % 2 ^ 14 + 2 ^ 14 * (littleEndian bits / 2 ^ 14 % 2 ^ 14) +
          2 ^ 28 * (littleEndian bits / 2 ^ 28) = littleEndian bits := by
        omega
      rw [hparts, toLittleEndian_of_length hbits] at hcanvas
      exact .inr ⟨_, _, vp8lSize_append rest hbits, hcanvas⟩
    · exact .inl (vp8lSize_other rest hbits hsignature)
  · left
    rw [vp8lSize, if_neg hlen]
    rfl

theorem vp8Size_reads (payload : ByteString) :
    Reads (ascii "VP8 ") payload (vp8Size payload) := by
  by_cases hlen : 10 ≤ payload.length
  · obtain ⟨tag, tail, rfl, htag, -⟩ := exists_split (b := payload) (i := 3) (by omega)
    rw [List.length_append] at hlen
    obtain ⟨mark, tail, rfl, hmark, -⟩ := exists_split (b := tail) (i := 3) (by omega)
    rw [List.length_append] at hlen
    by_cases hsignature : mark = [0x9d, 0x01, 0x2a]
    · subst hsignature
      obtain ⟨width, tail, rfl, hwidth, -⟩ := exists_split (b := tail) (i := 2) (by omega)
      rw [List.length_append] at hlen
      obtain ⟨height, rest, rfl, hheight, -⟩ := exists_split (b := tail) (i := 2) (by omega)
      have hw := littleEndian_lt width
      have hh := littleEndian_lt height
      rw [hwidth] at hw
      rw [hheight] at hh
      have hcanvas := Canvas.vp8 (w := littleEndian width % 2 ^ 14)
        (h := littleEndian height % 2 ^ 14) (s := littleEndian width / 2 ^ 14)
        (t := littleEndian height / 2 ^ 14) tag rest htag (by omega) (by omega) (by omega)
        (by omega)
      rw [Nat.mod_add_div, Nat.mod_add_div, toLittleEndian_of_length hwidth,
        toLittleEndian_of_length hheight] at hcanvas
      rw [← List.append_assoc, ← List.append_assoc, ← List.append_assoc]
      exact .inr ⟨_, _, vp8Size_append rest htag hwidth hheight, hcanvas⟩
    · obtain ⟨dimensions, rest, rfl, hdimensions, -⟩ := exists_split (b := tail) (i := 4) (by omega)
      rw [← List.append_assoc, ← List.append_assoc]
      exact .inl (vp8Size_other rest htag hmark hdimensions hsignature)
  · left
    rw [vp8Size, if_neg hlen]
    rfl

theorem chunkSize_reads (kind payload : ByteString) :
    Reads kind payload (chunkSize kind payload) := by
  unfold chunkSize
  split_ifs with hx hl hlossy
  · rw [hx]
    exact vp8xSize_reads payload
  · rw [hl]
    exact vp8lSize_reads payload
  · rw [hlossy]
    exact vp8Size_reads payload
  · exact .inl rfl

/-- Every size that the format allows is read as it was written. -/
theorem chunkSize_canvas {kind payload : ByteString} {w h : ℕ} (hcanvas : Canvas kind payload w h) :
    chunkSize kind payload = some (some (w, h)) := by
  cases hcanvas with
  | @vp8x w h flags rest hflags hw hh =>
    rw [chunkSize, if_pos rfl, vp8xSize_append rest hflags (length_toLittleEndian 3 w)
      (length_toLittleEndian 3 h), littleEndian_toLittleEndian (by omega),
      littleEndian_toLittleEndian (by omega)]
  | @vp8l w h v rest hw hh hv =>
    rw [chunkSize, if_neg (by decide), if_pos rfl,
      vp8lSize_append rest (length_toLittleEndian 4 _), littleEndian_toLittleEndian (by omega)]
    have hwidth : (w + 2 ^ 14 * h + 2 ^ 28 * v) % 2 ^ 14 = w := by omega
    have hheight : (w + 2 ^ 14 * h + 2 ^ 28 * v) / 2 ^ 14 % 2 ^ 14 = h := by omega
    rw [hwidth, hheight]
  | @vp8 w h s t tag rest htag hw hh hs ht =>
    rw [chunkSize, if_neg (by decide), if_neg (by decide), if_pos rfl,
      vp8Size_append rest htag (length_toLittleEndian 2 _) (length_toLittleEndian 2 _),
      littleEndian_toLittleEndian (by omega), littleEndian_toLittleEndian (by omega)]
    have hwidth : (w + 2 ^ 14 * s) % 2 ^ 14 = w := by omega
    have hheight : (h + 2 ^ 14 * t) % 2 ^ 14 = h := by omega
    rw [hwidth, hheight]

theorem chunkSize_other {c : Chunk} (h : ¬c.IsImage) : chunkSize c.kind c.payload = some none := by
  rw [Chunk.IsImage, not_or, not_or] at h
  rw [chunkSize, if_neg h.1, if_neg h.2.1, if_neg h.2.2]
  rfl

/-! ### The walk over the chunks -/

theorem uint32_of_length {b : ByteString} (h : b.length = 4) : uint32 b = some (littleEndian b) := by
  rw [uint32, slice, if_pos ⟨by omega, by omega⟩, List.drop_zero, Nat.sub_zero,
    List.take_of_length_le (by omega)]
  rfl

theorem Chunk.At.length_le {c : Chunk} {raw : ByteString} {offset : ℕ} (h : c.At raw offset) :
    offset + 8 + c.payload.length ≤ raw.length := by
  obtain ⟨before, after, rfl, hbefore⟩ := h
  simp only [List.length_append, c.length_header]
  omega

/-- One turn of the loop, on the chunk that lies at the offset. -/
theorem webPChunks_at {c : Chunk} {raw : ByteString} {offset : ℕ} (h : c.At raw offset) :
    webPChunks raw offset =
      (chunkSize c.kind c.payload).bind fun found =>
        found.elim (webPChunks raw (c.next offset)) some := by
  have hlen := h.length_le
  obtain ⟨before, after, hraw, hbefore⟩ := h
  have hkind : slice raw offset (offset + 4) = some c.kind := by
    have hparts : raw = before ++ c.kind ++
        (toLittleEndian 4 c.payload.length ++ c.payload ++ after) := by
      rw [hraw, Chunk.header]
      simp only [List.append_assoc]
    rw [hparts]
    exact slice_append hbefore.symm (by rw [c.kind_length, hbefore])
  have hsize : slice raw (offset + 4) (offset + 8) =
      some (toLittleEndian 4 c.payload.length) := by
    have hparts : raw = (before ++ c.kind) ++ toLittleEndian 4 c.payload.length ++
        (c.payload ++ after) := by
      rw [hraw, Chunk.header]
      simp only [List.append_assoc]
    rw [hparts]
    apply slice_append
    · rw [List.length_append, c.kind_length, hbefore]
    · rw [List.length_append, c.kind_length, hbefore, length_toLittleEndian]
  have hpayload : slice raw (offset + 8) (offset + 8 + c.payload.length) = some c.payload := by
    have hparts : raw = (before ++ c.header) ++ c.payload ++ after := by
      rw [hraw]
      simp only [List.append_assoc]
    rw [hparts]
    apply slice_append
    · rw [List.length_append, c.length_header, hbefore]
    · rw [List.length_append, c.length_header, hbefore]
  have hlength := c.payload_length
  rw [webPChunks, if_pos (by omega), hkind, hsize]
  simp only [Option.bind_eq_bind, Option.bind_some, uint32_of_length (length_toLittleEndian 4 _),
    littleEndian_toLittleEndian (k := 4) (n := c.payload.length) (by omega)]
  rw [if_neg (by omega)]
  simp only [hpayload, Option.bind_some, Chunk.next]
  cases chunkSize c.kind c.payload with
  | none => rfl
  | some found => cases found <;> rfl

/-- The loop ends without a size, or there is a whole chunk at the offset. -/
theorem webPChunks_cases (raw : ByteString) (offset : ℕ) :
    webPChunks raw offset = some (0, 0) ∨ ∃ c : Chunk, c.At raw offset := by
  by_cases hroom : offset + 8 ≤ raw.length
  · obtain ⟨before, tail, hraw, hbefore, -⟩ := exists_split (b := raw) (i := offset) (by omega)
    rw [hraw, List.length_append] at hroom
    obtain ⟨kind, tail, rfl, hkind, -⟩ := exists_split (b := tail) (i := 4) (by omega)
    rw [List.length_append] at hroom
    obtain ⟨size, tail, rfl, hsize, -⟩ := exists_split (b := tail) (i := 4) (by omega)
    have hbound := littleEndian_lt size
    rw [hsize] at hbound
    by_cases hfits : littleEndian size ≤ tail.length
    · obtain ⟨payload, after, rfl, hpayload, -⟩ := exists_split hfits
      refine .inr ⟨⟨kind, payload, hkind, by omega⟩, before, after, ?_, hbefore⟩
      simp only [Chunk.header]
      rw [hraw, hpayload, toLittleEndian_of_length hsize]
      simp only [List.append_assoc]
    · left
      have hslice : slice raw (offset + 4) (offset + 8) = some size := by
        have hparts : raw = (before ++ kind) ++ size ++ tail := by
          rw [hraw]
          simp only [List.append_assoc]
        rw [hparts]
        apply slice_append
        · rw [List.length_append, hkind, hbefore]
        · rw [List.length_append, hkind, hbefore, hsize]
      have hslice' : slice raw offset (offset + 4) = some kind := by
        have hparts : raw = before ++ kind ++ (size ++ tail) := by
          rw [hraw]
          simp only [List.append_assoc]
        rw [hparts]
        exact slice_append hbefore.symm (by rw [hkind, hbefore])
      have hlen : raw.length = offset + 8 + tail.length := by
        rw [hraw]
        simp only [List.length_append, hbefore, hkind, hsize]
        omega
      rw [webPChunks, if_pos (by omega), hslice', hslice]
      simp only [Option.bind_eq_bind, Option.bind_some, uint32_of_length hsize]
      rw [if_pos (by omega)]
      rfl
  · left
    rw [webPChunks, if_neg hroom]
    rfl

/-- The size that a walk finds is that of a chunk which it reaches. -/
def Sound (raw : ByteString) (size : ℕ × ℕ) : Prop :=
  size ≠ (0, 0) → ∃ offset, ∃ c : Chunk, Reached raw offset ∧ c.At raw offset ∧
    Canvas c.kind c.payload size.1 size.2

theorem webPChunks_sound {raw : ByteString} {offset : ℕ} (hreached : Reached raw offset) :
    ∃ size, webPChunks raw offset = some size ∧ Sound raw size := by
  have hzero : Sound raw (0, 0) := fun h => absurd rfl h
  -- by induction on the bytes that are left
  induction hleft : raw.length - offset using Nat.strong_induction_on generalizing offset with
  | _ left ih =>
    rcases webPChunks_cases raw offset with hnone | ⟨c, hat⟩
    · exact ⟨(0, 0), hnone, hzero⟩
    · rw [webPChunks_at hat]
      rcases chunkSize_reads c.kind c.payload with hskip | ⟨w, h, hsize, hcanvas⟩
      · rw [hskip]
        have hlen := hat.length_le
        have hless : raw.length - c.next offset < left := by
          rw [Chunk.next]
          omega
        exact ih _ hless (hreached.next c hat) rfl
      · rw [hsize]
        exact ⟨(w, h), rfl, fun _ => ⟨offset, c, hreached, hat, hcanvas⟩⟩

/-- The walk passes the chunks of other types and reads the first of the three. -/
theorem webPChunks_encode {c : Chunk} {w h : ℕ} (hcanvas : Canvas c.kind c.payload w h)
    (others : List Chunk) (hothers : ∀ o ∈ others, ¬o.IsImage) (before after : ByteString) :
    webPChunks (before ++ others.flatMap Chunk.encode ++ (c.encode ++ after)) before.length =
      some (w, h) := by
  induction others generalizing before with
  | nil =>
    have hat : c.At (before ++ [].flatMap Chunk.encode ++ (c.encode ++ after)) before.length := by
      refine ⟨before, List.replicate (c.payload.length % 2) 0 ++ after, ?_, rfl⟩
      simp [Chunk.encode]
    rw [webPChunks_at hat, chunkSize_canvas hcanvas]
    rfl
  | cons o rest ih =>
    have hraw : before ++ (o :: rest).flatMap Chunk.encode ++ (c.encode ++ after) =
        (before ++ o.encode) ++ rest.flatMap Chunk.encode ++ (c.encode ++ after) := by
      simp
    have hat : o.At (before ++ (o :: rest).flatMap Chunk.encode ++ (c.encode ++ after))
        before.length := by
      refine ⟨before, List.replicate (o.payload.length % 2) 0 ++
        (rest.flatMap Chunk.encode ++ (c.encode ++ after)), ?_, rfl⟩
      simp [Chunk.encode]
    have hnext : o.next before.length = (before ++ o.encode).length := by
      simp only [Chunk.next, Chunk.encode, List.length_append, o.length_header,
        List.length_replicate]
      omega
    rw [webPChunks_at hat, chunkSize_other (hothers o List.mem_cons_self)]
    simp only [Option.bind_some, Option.elim_none]
    rw [hnext, hraw]
    exact ih (fun o ho => hothers o (List.mem_cons_of_mem _ ho)) (before ++ o.encode)

/-! ### The dimensions -/

/-- A container with a chunk of a size, the chunks before it and what follows. -/
structure Container where
  size : ByteString
  before : List Chunk
  image : Chunk
  after : ByteString
  size_length : size.length = 4
  before_other : ∀ c ∈ before, ¬c.IsImage

def Container.encode (f : Container) : ByteString :=
  ascii "RIFF" ++ f.size ++ ascii "WEBP" ++ f.before.flatMap Chunk.encode ++
    (f.image.encode ++ f.after)

theorem canvas_length {kind payload : ByteString} {w h : ℕ} (hcanvas : Canvas kind payload w h) :
    5 ≤ payload.length := by
  cases hcanvas with
  | vp8x flags rest hflags hw hh =>
    simp only [List.length_append, length_toLittleEndian]
    omega
  | vp8l rest hw hh hv =>
    simp only [List.length_append, List.length_cons, length_toLittleEndian]
    omega
  | vp8 tag rest htag hw hh hs ht =>
    simp only [List.length_append, length_toLittleEndian]
    omega

theorem dimensions_container (f : Container) {w h : ℕ}
    (hcanvas : Canvas f.image.kind f.image.payload w h) :
    creativeFabricaWebPDimensions f.encode = some (w, h) := by
  have hpayload := canvas_length hcanvas
  have hheader : (ascii "RIFF" ++ f.size ++ ascii "WEBP").length = 12 := by
    simp only [List.length_append, f.size_length]
    rfl
  have hlen : 16 ≤ f.encode.length := by
    rw [Container.encode]
    simp only [List.append_assoc, List.length_append, Chunk.encode, f.image.length_header] at hheader ⊢
    omega
  have hriff : slice f.encode 0 4 = some (ascii "RIFF") := by
    have hparts : f.encode = [] ++ ascii "RIFF" ++ (f.size ++ ascii "WEBP" ++
        f.before.flatMap Chunk.encode ++ (f.image.encode ++ f.after)) := by
      simp [Container.encode]
    rw [hparts]
    exact slice_append rfl rfl
  have hwebp : slice f.encode 8 12 = some (ascii "WEBP") := by
    have hparts : f.encode = (ascii "RIFF" ++ f.size) ++ ascii "WEBP" ++
        (f.before.flatMap Chunk.encode ++ (f.image.encode ++ f.after)) := by
      simp [Container.encode]
    have hpast : (ascii "RIFF" ++ f.size).length = 8 := by
      rw [List.length_append, f.size_length]
      rfl
    rw [hparts]
    exact slice_append hpast.symm (by rw [hpast]; rfl)
  have hwalk := webPChunks_encode hcanvas f.before f.before_other
    (ascii "RIFF" ++ f.size ++ ascii "WEBP") f.after
  rw [hheader] at hwalk
  rw [creativeFabricaWebPDimensions, if_neg (by omega), hriff, hwebp]
  exact hwalk

/-- For every input there is no panic, and a size is that of a whole chunk on the walk from
offset 12; for every container it is that of the first chunk of the three types. -/
theorem webPDimensions_spec :
    (∀ raw : ByteString, ∃ size, creativeFabricaWebPDimensions raw = some size ∧ Sound raw size) ∧
    ∀ (f : Container) (w h : ℕ), Canvas f.image.kind f.image.payload w h →
      creativeFabricaWebPDimensions f.encode = some (w, h) := by
  refine ⟨?_, fun f w h hcanvas => dimensions_container f hcanvas⟩
  intro raw
  have hzero : Sound raw (0, 0) := fun h => absurd rfl h
  by_cases hshort : raw.length < 16
  · refine ⟨(0, 0), ?_, hzero⟩
    rw [creativeFabricaWebPDimensions, if_pos hshort]
    rfl
  · obtain ⟨-, riff, -, -, -, -, hriff⟩ := slice_eq_some (b := raw) (Nat.zero_le 4) (by omega)
    obtain ⟨-, webp, -, -, -, -, hwebp⟩ := slice_eq_some (b := raw) (show 8 ≤ 12 by omega) (by omega)
    rw [creativeFabricaWebPDimensions, if_neg hshort, hriff, hwebp]
    simp only [Option.bind_eq_bind, Option.bind_some]
    by_cases hmagic : riff ≠ ascii "RIFF"
    · rw [if_pos hmagic]
      exact ⟨(0, 0), rfl, hzero⟩
    · rw [if_neg hmagic]
      by_cases hkind : webp ≠ ascii "WEBP"
      · rw [if_pos hkind]
        exact ⟨(0, 0), rfl, hzero⟩
      · rw [if_neg hkind]
        exact webPChunks_sound .first

/-- A canvas of 1920 by 1080 behind a profile of odd length. -/
def profiledContainer : Container where
  size := toLittleEndian 4 40
  before := [⟨ascii "ICCP", [1, 2, 3], rfl, by decide⟩]
  image := ⟨ascii "VP8X", [0, 0, 0, 0] ++ toLittleEndian 3 1919 ++ toLittleEndian 3 1079 ++ [],
    rfl, by decide⟩
  after := []
  size_length := rfl
  before_other := by
    intro c hc
    obtain rfl := List.mem_singleton.mp hc
    rw [Chunk.IsImage]
    decide

theorem webPDimensions_profiled :
    creativeFabricaWebPDimensions profiledContainer.encode = some (1920, 1080) :=
  webPDimensions_spec.2 profiledContainer 1920 1080
    (.vp8x [0, 0, 0, 0] [] rfl (by norm_num) (by norm_num))

end GenerationGateway.Worker

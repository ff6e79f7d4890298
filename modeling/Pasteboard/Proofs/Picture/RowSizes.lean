import Pasteboard.Picture.Bitmap
import Pasteboard.Picture.Dib
import Mathlib.Algebra.Order.Field.Rat
import Mathlib.Order.Bounds.Basic
import Mathlib.Tactic.NormNum

/-!
# Sizes of pixel rows

The pixels of a row take up some number of bits. A row of a bitmap is padded to a multiple of two
bytes and a row of a packed one to a multiple of four, and both sizes are the least that have room:
`isLeast_rowBytes`, `isLeast_rowStride`. How they compare and grow follows from that alone, see
`row_sizes_least`. In words of 64 bits the first size is found by shifting and masking, the second
by a division that rounds up; nothing overflows on the way, not even for the least width, whose
magnitude is no signed word.
-/

namespace Pasteboard

/-! ## The least sizes -/

/-- The sizes in bytes that are whole units and have room for a row of so many pixels of so many
bits. -/
def rowSizes (unit : Nat) (width : Int32) (depth : UInt16) : Set Nat :=
  {size | unit ∣ size ∧ ((|width.toInt| : Int) : ℚ) * (depth.toNat : ℚ) / 8 ≤ (size : ℚ)}

section

variable {unit size : Nat} {width wider : Int32} {depth deeper : UInt16}

/-- A size has room for a row if it has as many bits. -/
theorem mem_rowSizes_iff : size ∈ rowSizes unit width depth ↔
    unit ∣ size ∧ width.toInt.natAbs * depth.toNat ≤ size * 8 := by
  have hroom : ((|width.toInt| : Int) : ℚ) * (depth.toNat : ℚ) / 8 ≤ (size : ℚ) ↔
      width.toInt.natAbs * depth.toNat ≤ size * 8 := by
    rw [div_le_iff₀ (by norm_num), ← Nat.cast_natAbs]
    norm_cast
  exact and_congr_right fun _ => hroom

/-- The bits of a row rounded up to whole units are the least size. -/
theorem isLeast_rowSizes (hunit : 0 < unit) (width : Int32) (depth : UInt16) :
    IsLeast (rowSizes unit width depth)
      ((width.toInt.natAbs * depth.toNat + (unit * 8 - 1)) / (unit * 8) * unit) := by
  generalize hbits : width.toInt.natAbs * depth.toNat = bits
  have hround (count : Nat) :
      (bits + (unit * 8 - 1)) / (unit * 8) ≤ count ↔ bits ≤ count * unit * 8 := by
    rw [Nat.div_le_iff_le_mul (by omega), Nat.mul_assoc]
    omega
  constructor
  · have hroom := (hround _).1 (Nat.le_refl _)
    rw [← hbits] at hroom ⊢
    exact mem_rowSizes_iff.2 ⟨Nat.dvd_mul_left .., hroom⟩
  · intro size hsize
    obtain ⟨hwhole, hroom⟩ := mem_rowSizes_iff.1 hsize
    obtain ⟨count, rfl⟩ := exists_eq_mul_left_of_dvd hwhole
    exact Nat.mul_le_mul_right unit ((hround count).2 (hbits ▸ hroom))

theorem isLeast_rowBytes (width : Int32) (depth : UInt16) :
    IsLeast (rowSizes 2 width depth) (BitmapHeader.rowBytes width depth) :=
  isLeast_rowSizes (by decide) width depth

theorem isLeast_rowStride (width : Int32) (depth : UInt16) :
    IsLeast (rowSizes 4 width depth) (Dib.rowStride width depth) :=
  isLeast_rowSizes (by decide) width depth

/-- What has room for wider rows of deeper pixels has room for a row. -/
theorem rowSizes_subset (hwidth : width.toInt.natAbs ≤ wider.toInt.natAbs)
    (hdepth : depth ≤ deeper) : rowSizes unit wider deeper ⊆ rowSizes unit width depth := by
  intro size hsize
  obtain ⟨hwhole, hroom⟩ := mem_rowSizes_iff.1 hsize
  have hbits : width.toInt.natAbs * depth.toNat ≤ wider.toInt.natAbs * deeper.toNat :=
    Nat.mul_le_mul hwidth (UInt16.le_iff_toNat_le.1 hdepth)
  exact mem_rowSizes_iff.2 ⟨hwhole, Nat.le_trans hbits hroom⟩

/-- The row of a packed bitmap is padded further, as its units are larger. -/
theorem rowBytes_le_rowStride (width : Int32) (depth : UInt16) :
    BitmapHeader.rowBytes width depth ≤ Dib.rowStride width depth := by
  have hunits : rowSizes 4 width depth ⊆ rowSizes 2 width depth := fun size hsize =>
    ⟨Nat.dvd_trans (by decide) hsize.1, hsize.2⟩
  exact (isLeast_rowStride width depth).mono (isLeast_rowBytes width depth) hunits

/-- One more unit of two bytes at most makes the row of a bitmap a multiple of four. -/
theorem rowStride_le_add_two (width : Int32) (depth : UInt16) :
    Dib.rowStride width depth ≤ BitmapHeader.rowBytes width depth + 2 := by
  obtain ⟨heven, hroom⟩ := mem_rowSizes_iff.1 (isLeast_rowBytes width depth).1
  have hleast := (isLeast_rowStride width depth).2
  by_cases hwhole : 4 ∣ BitmapHeader.rowBytes width depth
  · exact Nat.le_add_right_of_le (hleast (mem_rowSizes_iff.2 ⟨hwhole, hroom⟩))
  · exact hleast (mem_rowSizes_iff.2 ⟨by omega, by omega⟩)

/-- Twice the row of a bitmap is a multiple of four. -/
theorem rowStride_le_double (width : Int32) (depth : UInt16) :
    Dib.rowStride width depth ≤ 2 * BitmapHeader.rowBytes width depth := by
  obtain ⟨heven, hroom⟩ := mem_rowSizes_iff.1 (isLeast_rowBytes width depth).1
  exact (isLeast_rowStride width depth).2 (mem_rowSizes_iff.2 ⟨by omega, by omega⟩)

end

/-! ## In words -/

namespace Word

/-- A sum, unless it overflows. -/
def add? (a b : UInt64) : Option UInt64 :=
  if a.toNat + b.toNat < UInt64.size then some (a + b) else none

/-- A product, unless it overflows. -/
def mul? (a b : UInt64) : Option UInt64 :=
  if a.toNat * b.toNat < UInt64.size then some (a * b) else none

/-- A quotient that is rounded up, unless that overflows. -/
def ceilDiv? (a b : UInt64) : Option UInt64 :=
  if 0 < a % b then add? (a / b) 1 else some (a / b)

/-- The magnitude of a signed word. The least one has none among the signed words and keeps its
bits, which spell its magnitude without a sign. -/
def magnitude (n : Int32) : UInt64 := n.abs.toUInt32.toUInt64

variable {a b : UInt64}

theorem exists_add? (h : a.toNat + b.toNat < UInt64.size) :
    ∃ sum, add? a b = some sum ∧ sum.toNat = a.toNat + b.toNat :=
  ⟨_, if_pos h, (UInt64.toNat_add a b).trans (Nat.mod_eq_of_lt h)⟩

theorem exists_mul? (h : a.toNat * b.toNat < UInt64.size) :
    ∃ product, mul? a b = some product ∧ product.toNat = a.toNat * b.toNat :=
  ⟨_, if_pos h, (UInt64.toNat_mul a b).trans (Nat.mod_eq_of_lt h)⟩

/-- A quotient by more than one is small enough to be rounded up. -/
theorem exists_ceilDiv? (h : 1 < b.toNat) :
    ∃ quotient, ceilDiv? a b = some quotient ∧
      quotient.toNat = (a.toNat + (b.toNat - 1)) / b.toNat := by
  have hup : (a.toNat + (b.toNat - 1)) / b.toNat =
      a.toNat / b.toNat + if 0 < a.toNat % b.toNat then 1 else 0 := by
    have hcarry : b.toNat ≤ a.toNat % b.toNat + (b.toNat - 1) ↔ 0 < a.toNat % b.toNat := by omega
    have hless : b.toNat - 1 < b.toNat := by omega
    rw [Nat.add_div (by omega), Nat.div_eq_of_lt hless, Nat.mod_eq_of_lt hless, Nat.add_zero]
    simp only [hcarry]
  have hrest : 0 < a % b ↔ 0 < a.toNat % b.toNat := by
    rw [UInt64.lt_iff_toNat_lt, UInt64.toNat_mod, UInt64.toNat_zero]
  have hsmall : (a / b).toNat + (1 : UInt64).toNat < UInt64.size := by
    have hhalf : a.toNat / b.toNat ≤ a.toNat / 2 := Nat.div_le_div_left h (by decide)
    have hlt := a.toNat_lt
    rw [UInt64.toNat_div, UInt64.toNat_one, UInt64.size]
    omega
  rw [ceilDiv?, hup]
  simp only [hrest]
  split
  · obtain ⟨quotient, hquotient, hvalue⟩ := exists_add? hsmall
    exact ⟨quotient, hquotient, hvalue.trans (by rw [UInt64.toNat_div, UInt64.toNat_one])⟩
  · exact ⟨a / b, rfl, UInt64.toNat_div a b⟩

theorem toNat_magnitude (n : Int32) : (magnitude n).toNat = n.toInt.natAbs := by
  have habs (bits : BitVec 32) : bits.abs.toNat = bits.toInt.natAbs := by
    rw [BitVec.toNat_abs, BitVec.toInt_eq_msb_cond]
    split <;> omega
  exact habs n.toBitVec

/-- Masking the lowest bit off leaves the largest even number. -/
theorem toNat_and_not_one (a : UInt64) : (a &&& ~~~1).toNat = a.toNat / 2 * 2 := by
  have hmask : (~~~1 : UInt64).toBitVec = BitVec.allOnes 64 <<< 1 := by decide
  have hcut : (a &&& ~~~1).toBitVec = a.toBitVec >>> 1 <<< 1 := by
    rw [UInt64.toBitVec_and, hmask, BitVec.shiftLeft_ushiftRight]
  have hlt := a.toNat_lt
  rw [← UInt64.toNat_toBitVec, hcut, BitVec.toNat_shiftLeft, BitVec.toNat_ushiftRight,
    UInt64.toNat_toBitVec, Nat.shiftLeft_eq, Nat.shiftRight_eq_div_pow]
  omega

end Word

/-- The size of a bitmap row in words: the bits are rounded up to bytes as they are shifted, and a
mask makes the result even. -/
def BitmapHeader.rowBytesWord? (width : Int32) (depth : UInt16) : Option UInt64 := do
  let bits ← Word.mul? (Word.magnitude width) depth.toUInt64
  let padded ← Word.add? bits 15
  return padded >>> 3 &&& ~~~1

/-- The size of a packed row in words. -/
def Dib.rowStrideWord? (width : Int32) (depth : UInt16) : Option UInt64 := do
  let bits ← Word.mul? (Word.magnitude width) depth.toUInt64
  let units ← Word.ceilDiv? bits 32
  Word.mul? units 4

/-- The bits of a row are counted in a word, with room to spare. -/
theorem exists_bits (width : Int32) (depth : UInt16) :
    ∃ bits, Word.mul? (Word.magnitude width) depth.toUInt64 = some bits ∧
      bits.toNat = width.toInt.natAbs * depth.toNat ∧ bits.toNat < 2 ^ 47 := by
  have hlow := width.le_toInt
  have hhigh := width.toInt_lt
  have hbits : width.toInt.natAbs * depth.toNat < 2 ^ 47 :=
    calc width.toInt.natAbs * depth.toNat ≤ 2 ^ 31 * depth.toNat :=
          Nat.mul_le_mul_right _ (by omega)
      _ < 2 ^ 47 := by
          have hdepth := depth.toNat_lt
          omega
  have hfits : (Word.magnitude width).toNat * depth.toUInt64.toNat < UInt64.size := by
    rw [Word.toNat_magnitude, UInt16.toNat_toUInt64]
    exact Nat.lt_trans hbits (by decide)
  obtain ⟨bits, hmul, hvalue⟩ := Word.exists_mul? hfits
  rw [Word.toNat_magnitude, UInt16.toNat_toUInt64] at hvalue
  exact ⟨bits, hmul, hvalue, hvalue ▸ hbits⟩

theorem exists_rowBytesWord? (width : Int32) (depth : UInt16) :
    ∃ size, BitmapHeader.rowBytesWord? width depth = some size ∧
      size.toNat = BitmapHeader.rowBytes width depth := by
  obtain ⟨bits, hbits, hvalue, hlt⟩ := exists_bits width depth
  have hroom : bits.toNat + (15 : UInt64).toNat < UInt64.size :=
    Nat.lt_trans (Nat.add_lt_add_right hlt 15) (by decide)
  obtain ⟨padded, hpadded, hsum⟩ := Word.exists_add? hroom
  refine ⟨padded >>> 3 &&& ~~~1, ?_, ?_⟩
  · simp only [BitmapHeader.rowBytesWord?, hbits, hpadded, bind, Option.bind_some]
    rfl
  · have hshift : (padded >>> 3).toNat = padded.toNat / 8 := by
      rw [UInt64.toNat_shiftRight]
      exact Nat.shiftRight_eq_div_pow _ 3
    have hsum' : padded.toNat = bits.toNat + 15 := hsum
    rw [Word.toNat_and_not_one, hshift, hsum', hvalue, BitmapHeader.rowBytes]
    omega

theorem exists_rowStrideWord? (width : Int32) (depth : UInt16) :
    ∃ size, Dib.rowStrideWord? width depth = some size ∧
      size.toNat = Dib.rowStride width depth := by
  obtain ⟨bits, hbits, hvalue, hlt⟩ := exists_bits width depth
  obtain ⟨units, hunits, hcount⟩ := Word.exists_ceilDiv? (a := bits) (b := 32) (by decide)
  have hcount' : units.toNat = (bits.toNat + 31) / 32 := hcount
  have hroom : units.toNat * (4 : UInt64).toNat < UInt64.size := by
    show units.toNat * 4 < 2 ^ 64
    omega
  obtain ⟨size, hsize, hproduct⟩ := Word.exists_mul? hroom
  refine ⟨size, ?_, ?_⟩
  · simp only [Dib.rowStrideWord?, hbits, hunits, hsize, bind, Option.bind_some]
  · rw [hproduct, hcount', hvalue]
    rfl

/-! ## Both sizes -/

/-- The rows of bitmaps and of packed bitmaps have the least sizes that are multiples of two and of
four bytes and have room for the pixels, words of 64 bits give these sizes without overflow, the
sizes differ by two at most, and neither gets smaller for wider rows or deeper pixels. -/
theorem row_sizes_least (width : Int32) (depth : UInt16) :
    IsLeast (rowSizes 2 width depth) (BitmapHeader.rowBytes width depth) ∧
    IsLeast (rowSizes 4 width depth) (Dib.rowStride width depth) ∧
    (∃ size, BitmapHeader.rowBytesWord? width depth = some size ∧
      size.toNat = BitmapHeader.rowBytes width depth) ∧
    (∃ size, Dib.rowStrideWord? width depth = some size ∧
      size.toNat = Dib.rowStride width depth) ∧
    BitmapHeader.rowBytes width depth ≤ Dib.rowStride width depth ∧
    Dib.rowStride width depth ≤ BitmapHeader.rowBytes width depth + 2 ∧
    ∀ wider deeper, width.toInt.natAbs ≤ wider.toInt.natAbs → depth ≤ deeper →
      BitmapHeader.rowBytes width depth ≤ BitmapHeader.rowBytes wider deeper ∧
        Dib.rowStride width depth ≤ Dib.rowStride wider deeper := by
  refine ⟨isLeast_rowBytes width depth, isLeast_rowStride width depth,
    exists_rowBytesWord? width depth, exists_rowStrideWord? width depth,
    rowBytes_le_rowStride width depth, rowStride_le_add_two width depth,
    fun wider deeper hwidth hdepth => ?_⟩
  have hsubset {unit : Nat} : rowSizes unit wider deeper ⊆ rowSizes unit width depth :=
    rowSizes_subset hwidth hdepth
  exact ⟨(isLeast_rowBytes wider deeper).mono (isLeast_rowBytes width depth) hsubset,
    (isLeast_rowStride wider deeper).mono (isLeast_rowStride width depth) hsubset⟩

/-- Rows of the least width and the deepest pixels are the longest, and their size does not
overflow. -/
theorem deepest_rows_sized :
    (3 : Int32).toInt.natAbs ≤ Int32.minValue.toInt.natAbs ∧ (24 : UInt16) ≤ 65535 ∧
      BitmapHeader.rowBytes 3 24 ≤ BitmapHeader.rowBytes Int32.minValue 65535 ∧
      Dib.rowStride 3 24 ≤ Dib.rowStride Int32.minValue 65535 ∧
      ∃ size, Dib.rowStrideWord? Int32.minValue 65535 = some size ∧
        size.toNat = 17591917608960 := by
  have hwidth : (3 : Int32).toInt.natAbs ≤ Int32.minValue.toInt.natAbs := by decide
  have hdepth : (24 : UInt16) ≤ 65535 := by decide
  obtain ⟨-, -, -, -, -, -, hgrow⟩ := row_sizes_least 3 24
  obtain ⟨-, -, -, hword, -, -, -⟩ := row_sizes_least Int32.minValue 65535
  obtain ⟨hbytes, hstride⟩ := hgrow Int32.minValue 65535 hwidth hdepth
  exact ⟨hwidth, hdepth, hbytes, hstride, hword⟩

end Pasteboard

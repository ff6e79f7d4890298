import Pasteboard.Picture.Bitmap
import Pasteboard.Proofs.Picture.Layouts

/-!
# Headers written and read

Packed bitmaps, bitmaps and metafile pictures start with headers of fixed sizes. A header that was
written is read from the front of any byte string, and what a header was read from is written again,
but for what no field keeps: the size that a packed bitmap claims, and the padding in the header of
a bitmap. See `headers_read_and_written`.
-/

namespace Pasteboard

namespace Bytes

variable {bytes rest : Bytes}

/-- Two bytes are enough for a half word. -/
theorem exists_u16?_of_le (h : 2 ≤ bytes.length) :
    ∃ word rest, u16? bytes = some (word, rest) ∧ rest.length = bytes.length - 2 := by
  match bytes, h with
  | _ :: _ :: rest, _ => exact ⟨_, rest, rfl, rfl⟩

/-- Four bytes are enough for a word. -/
theorem exists_u32?_of_le (h : 4 ≤ bytes.length) :
    ∃ word rest, u32? bytes = some (word, rest) ∧ rest.length = bytes.length - 4 := by
  match bytes, h with
  | _ :: _ :: _ :: _ :: rest, _ => exact ⟨_, rest, rfl, rfl⟩

/-- So they are for a signed one. -/
theorem exists_i32?_of_le (h : 4 ≤ bytes.length) :
    ∃ word rest, i32? bytes = some (word, rest) ∧ rest.length = bytes.length - 4 := by
  obtain ⟨word, rest, hread, hlength⟩ := exists_u32?_of_le h
  exact ⟨word.toInt32, rest, by rw [i32?, hread]; rfl, hlength⟩

/-- Eight bytes are enough for a double word. -/
theorem exists_u64?_of_le (h : 8 ≤ bytes.length) :
    ∃ word rest, u64? bytes = some (word, rest) ∧ rest.length = bytes.length - 8 := by
  match bytes, h with
  | _ :: _ :: _ :: _ :: _ :: _ :: _ :: _ :: rest, _ => exact ⟨_, rest, rfl, rfl⟩

/-- A 64-bit word that was read stands at the front. -/
theorem eq_of_u64? {word : UInt64} (h : u64? bytes = some (word, rest)) :
    bytes = ofU64 word ++ rest := by
  match bytes with
  | [] | [_] | [_, _] | [_, _, _] | [_, _, _, _] | [_, _, _, _, _] | [_, _, _, _, _, _]
  | [_, _, _, _, _, _, _] => simp [u64?] at h
  | a :: b :: c :: d :: e :: f :: g :: k :: tail =>
    simp only [u64?, Option.some.injEq, Prod.mk.injEq] at h
    obtain ⟨rfl, rfl⟩ := h
    have hlt := toNat_lt [a, b, c, d, e, f, g, k]
    have key := ofNat_toNat [a, b, c, d, e, f, g, k]
    simp only [List.length_cons, List.length_nil] at hlt key
    rw [ofU64, UInt64.toNat_ofNat', Nat.mod_eq_of_lt (by omega), key]
    rfl

/-- Other bytes in place of as many from a place on. -/
def overwrite (first : Nat) (word bytes : Bytes) : Bytes :=
  bytes.take first ++ (word ++ bytes.drop (first + word.length))

/-- What is in front of the place and behind the bytes stays. -/
theorem overwrite_take {old word : Bytes} (hword : word.length = old.length)
    (front back rest : Bytes) :
    overwrite front.length word
        ((front ++ (old ++ (back ++ rest))).take (front.length + (old.length + back.length))) =
      front ++ (word ++ back) := by
  have htake : (front ++ (old ++ (back ++ rest))).take
      (front.length + (old.length + back.length)) = front ++ (old ++ back) := by
    rw [List.take_length_add_append, List.take_length_add_append, List.take_left]
  rw [htake, overwrite, List.take_left, hword, List.drop_length_add_append, List.drop_left]

end Bytes

namespace DibHeader

variable (header : DibHeader) (layout : DibLayout)

/-- A header is as long as its layout says. -/
theorem length_write : (header.write layout).length = layout.size := by
  cases layout <;> simp [write, writeShared, longTail, DibLayout.size, Dib.shortSize, Dib.longSize]

/-- A header that was written is read again, with the size of the layout. -/
theorem parse?_write (rest : Bytes) :
    parse? (header.write layout ++ rest) = some (header.moved layout) := by
  have hsize : Dib.shortSize ≤ layout.size := by cases layout <;> decide
  have hlength := header.length_write layout
  refine parse?_eq_some_iff.2 ⟨?_, ?_, ?_⟩
  · cases layout with
    | short => exact ⟨_, read?_writeShared⟩
    | long =>
        rw [write, List.append_assoc]
        exact ⟨_, read?_writeShared⟩
  · rwa [toNat_size_moved]
  · rw [toNat_size_moved, List.length_append, hlength]
    exact Nat.le_add_right _ _

variable {header}

/-- The bytes that a header was read from are written in the short layout, with its size. -/
theorem write_of_parse? {bytes : Bytes} (h : parse? bytes = some header) :
    header.write .short =
      Bytes.overwrite 0 (Bytes.ofU32 (UInt32.ofNat Dib.shortSize)) (bytes.take Dib.shortSize) := by
  obtain ⟨⟨rest, hread⟩, -, -⟩ := parse?_eq_some_iff.1 h
  have hsize : (Bytes.ofU32 (UInt32.ofNat Dib.shortSize)).length =
      (Bytes.ofU32 header.size).length := by
    rw [Bytes.length_ofU32, Bytes.length_ofU32]
  have hwritten := Bytes.overwrite_take hsize [] header.fields rest
  rw [List.nil_append, ← eq_of_read? hread, List.length_nil, Bytes.length_ofU32,
    length_fields] at hwritten
  exact writeShared_eq.trans hwritten.symm

end DibHeader

namespace BitmapHeader

variable {header : BitmapHeader} {bytes rest : Bytes}

/-- The header of a bitmap has a fixed size. -/
theorem length_write (header : BitmapHeader) : header.write.length = headerSize := by
  simp [write, headerSize]

/-- A bitmap's header is read as it was written, whatever follows it. -/
@[simp] theorem parse?_write (header : BitmapHeader) (rest : Bytes) :
    parse? (header.write ++ rest) = some header := by
  simp [parse?, read?, write]

/-- The fields in front of the padding. -/
def front (header : BitmapHeader) : Bytes :=
  Bytes.ofI32 header.bmType ++ (Bytes.ofI32 header.width ++ (Bytes.ofI32 header.height
    ++ (Bytes.ofI32 header.widthBytes ++ (Bytes.ofU16 header.planes
    ++ Bytes.ofU16 header.bitsPixel))))

/-- The fields in front of the last ones take twenty bytes. -/
theorem length_front (header : BitmapHeader) : header.front.length = 20 := by
  simp [front]

/-- Behind them stand a gap of one word and the place of the bits. -/
theorem write_eq (header : BitmapHeader) :
    header.write = header.front ++ (Bytes.ofU32 0 ++ Bytes.ofU64 header.bits) := by
  simp only [write, front, List.append_assoc]

/-- Fields that were read stand at the front, with any padding between them. -/
theorem exists_of_read? (h : read? bytes = some (header, rest)) :
    ∃ padding, bytes =
      header.front ++ (Bytes.ofU32 padding ++ (Bytes.ofU64 header.bits ++ rest)) := by
  simp only [read?, bind, Option.bind_eq_some_iff, Prod.exists] at h
  obtain ⟨bmType, _, h₁, width, _, h₂, height, _, h₃, widthBytes, _, h₄, planes, _, h₅, bitsPixel,
    _, h₆, padding, _, h₇, bits, _, h₈, h⟩ := h
  cases h
  refine ⟨padding, ?_⟩
  rw [Bytes.eq_of_i32? h₁, Bytes.eq_of_i32? h₂, Bytes.eq_of_i32? h₃, Bytes.eq_of_i32? h₄,
    Bytes.eq_of_u16? h₅, Bytes.eq_of_u16? h₆, Bytes.eq_of_u32? h₇, Bytes.eq_of_u64? h₈]
  simp only [front, List.append_assoc]

/-- Whatever has the size of a header can be read as one. -/
theorem exists_parse?_of_le (h : headerSize ≤ bytes.length) :
    ∃ header, parse? bytes = some header := by
  rw [headerSize] at h
  obtain ⟨bmType, rest₁, h₁, hl₁⟩ := Bytes.exists_i32?_of_le (show 4 ≤ bytes.length by omega)
  obtain ⟨width, rest₂, h₂, hl₂⟩ := Bytes.exists_i32?_of_le (show 4 ≤ rest₁.length by omega)
  obtain ⟨height, rest₃, h₃, hl₃⟩ := Bytes.exists_i32?_of_le (show 4 ≤ rest₂.length by omega)
  obtain ⟨widthBytes, rest₄, h₄, hl₄⟩ := Bytes.exists_i32?_of_le (show 4 ≤ rest₃.length by omega)
  obtain ⟨planes, rest₅, h₅, hl₅⟩ := Bytes.exists_u16?_of_le (show 2 ≤ rest₄.length by omega)
  obtain ⟨bitsPixel, rest₆, h₆, hl₆⟩ := Bytes.exists_u16?_of_le (show 2 ≤ rest₅.length by omega)
  obtain ⟨padding, rest₇, h₇, hl₇⟩ := Bytes.exists_u32?_of_le (show 4 ≤ rest₆.length by omega)
  obtain ⟨bits, rest₈, h₈, -⟩ := Bytes.exists_u64?_of_le (show 8 ≤ rest₇.length by omega)
  refine ⟨⟨bmType, width, height, widthBytes, planes, bitsPixel, bits⟩, ?_⟩
  simp only [parse?, read?, h₁, h₂, h₃, h₄, h₅, h₆, h₇, h₈, bind, Option.bind_some]
  rfl

/-- The bytes that a header was read from are written again, with zeros for the padding. -/
theorem write_of_parse? (h : parse? bytes = some header) :
    header.write = Bytes.overwrite 20 (List.replicate 4 0) (bytes.take headerSize) := by
  obtain ⟨⟨found, rest⟩, hread, rfl⟩ := Option.map_eq_some_iff.1 h
  obtain ⟨padding, hbytes⟩ := exists_of_read? hread
  have hzeros : (Bytes.ofU32 0).length = (Bytes.ofU32 padding).length := by
    rw [Bytes.length_ofU32, Bytes.length_ofU32]
  have hwritten := Bytes.overwrite_take hzeros found.front (Bytes.ofU64 found.bits) rest
  rw [← hbytes, found.length_front, Bytes.length_ofU32, Bytes.length_ofU64] at hwritten
  exact found.write_eq.trans hwritten.symm

end BitmapHeader

namespace MetafilePict

variable {pict : MetafilePict} {bytes : Bytes}

/-- The header of a picture has a fixed size. -/
theorem length_write (pict : MetafilePict) : pict.write.length = headerSize := by
  simp [write, headerSize]

/-- A picture's header is read as it was written, whatever follows it. -/
@[simp] theorem parse?_write (pict : MetafilePict) (rest : Bytes) :
    parse? (pict.write ++ rest) = some pict := by
  simp [parse?, write]

/-- Whatever has the size of a header can be read as one. -/
theorem exists_parse?_of_le (h : headerSize ≤ bytes.length) :
    ∃ pict, parse? bytes = some pict := by
  rw [headerSize] at h
  obtain ⟨mode, rest₁, h₁, hl₁⟩ := Bytes.exists_i32?_of_le (show 4 ≤ bytes.length by omega)
  obtain ⟨xExt, rest₂, h₂, hl₂⟩ := Bytes.exists_i32?_of_le (show 4 ≤ rest₁.length by omega)
  obtain ⟨yExt, rest₃, h₃, hl₃⟩ := Bytes.exists_i32?_of_le (show 4 ≤ rest₂.length by omega)
  obtain ⟨raw, rest₄, h₄, -⟩ := Bytes.exists_u32?_of_le (show 4 ≤ rest₃.length by omega)
  refine ⟨⟨mode, xExt, yExt, Handle.ofRaw? raw⟩, ?_⟩
  simp only [parse?, h₁, h₂, h₃, h₄, bind, Option.bind_some]
  rfl

/-- A picture that was read stands at the front; zero is read as no metafile and written again. -/
theorem exists_of_parse? (h : parse? bytes = some pict) : ∃ rest, bytes = pict.write ++ rest := by
  simp only [parse?, bind, Option.bind_eq_some_iff, Prod.exists] at h
  obtain ⟨mode, _, h₁, xExt, _, h₂, yExt, _, h₃, raw, rest, h₄, h⟩ := h
  cases h
  refine ⟨rest, ?_⟩
  rw [Bytes.eq_of_i32? h₁, Bytes.eq_of_i32? h₂, Bytes.eq_of_i32? h₃, Bytes.eq_of_u32? h₄]
  simp only [write, Handle.rawOf_ofRaw?, List.append_assoc]

/-- The bytes that a picture was read from are written again. -/
theorem write_of_parse? (h : parse? bytes = some pict) : pict.write = bytes.take headerSize := by
  obtain ⟨rest, rfl⟩ := exists_of_parse? h
  exact (List.take_left' pict.length_write).symm

end MetafilePict

/-- A header that was written is read from the front of any bytes, a packed bitmap's with the size
of its layout. Bytes that are long enough are read as a header, and are what that header is written
as, but for the size that a packed bitmap claims and the padding in the header of a bitmap. -/
theorem headers_read_and_written :
    (∀ (header : DibHeader) (layout : DibLayout) (rest : Bytes),
      DibHeader.parse? (header.write layout ++ rest) =
        some { header with size := UInt32.ofNat layout.size }) ∧
    (∀ bytes header, DibHeader.parse? bytes = some header →
      header.write .short = Bytes.overwrite 0 (Bytes.ofU32 40) (bytes.take 40)) ∧
    (∀ (header : BitmapHeader) (rest : Bytes),
      BitmapHeader.parse? (header.write ++ rest) = some header) ∧
    (∀ bytes : Bytes, 32 ≤ bytes.length → ∃ header, BitmapHeader.parse? bytes = some header ∧
      header.write = Bytes.overwrite 20 (List.replicate 4 0) (bytes.take 32)) ∧
    (∀ (pict : MetafilePict) (rest : Bytes),
      MetafilePict.parse? (pict.write ++ rest) = some pict) ∧
    ∀ bytes : Bytes, 16 ≤ bytes.length → ∃ pict, MetafilePict.parse? bytes = some pict ∧
      pict.write = bytes.take 16 := by
  refine ⟨DibHeader.parse?_write, fun bytes header => DibHeader.write_of_parse?,
    BitmapHeader.parse?_write, fun bytes hlength => ?_, MetafilePict.parse?_write,
    fun bytes hlength => ?_⟩
  · obtain ⟨header, hparse⟩ := BitmapHeader.exists_parse?_of_le hlength
    exact ⟨header, hparse, BitmapHeader.write_of_parse? hparse⟩
  · obtain ⟨pict, hparse⟩ := MetafilePict.exists_parse?_of_le hlength
    exact ⟨pict, hparse, MetafilePict.write_of_parse? hparse⟩

/-- The header of a bitmap of minus three by two pixels, with something in the padding and a byte of
pixels behind. -/
def BitmapHeader.padded : Bytes :=
  [0, 0, 0, 0, 0xfd, 0xff, 0xff, 0xff, 2, 0, 0, 0, 10, 0, 0, 0, 1, 0, 24, 0]
    ++ [0xde, 0xad, 0xbe, 0xef] ++ [0, 0, 0, 0, 0, 0, 0, 0x80] ++ [7]

/-- The padding is not written again, nor is the size that a masked pixel claims; a picture without
a metafile and with a negative extent is. -/
theorem padding_cleared :
    (∃ header, DibHeader.parse? Dib.maskedPixel = some header ∧
      header.write .short = 40 :: (Dib.maskedPixel.take 40).drop 1) ∧
    (∃ header, BitmapHeader.parse? BitmapHeader.padded = some header ∧
      header.write = BitmapHeader.padded.take 20 ++ [0, 0, 0, 0] ++
        [0, 0, 0, 0, 0, 0, 0, 0x80]) ∧
    ∃ pict, MetafilePict.parse? [8, 0, 0, 0, 0xff, 0xff, 0xff, 0xff, 2, 0, 0, 0, 0, 0, 0, 0, 1] =
        some pict ∧
      pict.write = [8, 0, 0, 0, 0xff, 0xff, 0xff, 0xff, 2, 0, 0, 0, 0, 0, 0, 0] := by
  obtain ⟨-, hpacked, -, hbitmap, -, hpict⟩ := headers_read_and_written
  exact ⟨⟨_, rfl, hpacked Dib.maskedPixel _ rfl⟩, hbitmap BitmapHeader.padded (by decide),
    hpict _ (by decide)⟩

end Pasteboard

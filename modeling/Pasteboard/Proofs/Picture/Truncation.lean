import Pasteboard.Proofs.Payload.Copies

/-!
# Bitmaps with too few rows

The size of the rows stands in a bitmap payload twice: width and depth give it, and so does the row
field of the header. Values are flattened by the first and payloads are checked by the second, so a
decoder finds out which payloads lack rows if and only if both are the same:
see `Data.decode_bitmap_detects_truncation`.
-/

namespace Pasteboard

namespace BitmapHeader

/-- The size of the rows by the row field, unless that is negative. -/
def announced? (header : BitmapHeader) : Option Nat :=
  if header.widthBytes < 0 then none
  else some (header.widthBytes.toInt.toNat * header.height.toInt.natAbs)

end BitmapHeader

namespace Data

variable {graphics sender : Graphics} {format : Format} {payload : Bytes} {header : BitmapHeader}
  {handle : Handle}

/-- The payload is not one of the format, whatever is wrong with it. -/
def Malformed (format : Format) (result : Except PayloadError (Data × Graphics)) : Prop :=
  ∃ fault, result = .error (.malformed format fault)

/-- The payload came to the graphics table, which took or refused it. -/
def HandedOver (format : Format) (result : Except PayloadError (Data × Graphics)) : Prop :=
  (∃ answer, result = .ok answer) ∨ result = .error (.reconstruct format)

theorem HandedOver.not_malformed {result : Except PayloadError (Data × Graphics)}
    (h : HandedOver format result) : ¬ Malformed format result := by
  rintro ⟨fault, rfl⟩
  rcases h with ⟨answer, h⟩ | h <;> cases h

theorem rebuild_handedOver {kind : BitsKind} (value : Handle → Data) :
    HandedOver format (do
      let (handle, graphics) ← rebuild graphics format kind payload
      return (value handle, graphics)) := by
  unfold rebuild
  cases graphics.reconstruct? kind payload with
  | none => exact .inr rfl
  | some result => exact .inl ⟨_, rfl⟩

/-- The row field decides whether there are rows enough, as long as it is not negative. -/
theorem malformed_iff (graphics : Graphics)
    (hparse : BitmapHeader.parse? payload = some header) :
    Malformed Format.bitmap (decode graphics Format.bitmap payload) ↔
      ∀ size, header.announced? = some size →
        payload.length - BitmapHeader.headerSize < size := by
  have hdecode : decode graphics Format.bitmap payload
      = decodeBitmap graphics Format.bitmap payload := rfl
  rw [hdecode, decodeBitmap, hparse, BitmapHeader.announced?]
  dsimp only
  generalize header.widthBytes.toInt.toNat * header.height.toInt.natAbs = announced
  by_cases hnegative : header.widthBytes < 0
  · simp [hnegative, Malformed]
  · by_cases hshort : payload.length - BitmapHeader.headerSize < announced
    · simp [hnegative, hshort, Malformed]
    · have hnever : ¬ Malformed Format.bitmap (if header.bits ≠ 0 then
          .error (.unsupportedCrossProcess Format.bitmap)
        else do
          let (handle, graphics) ← rebuild graphics Format.bitmap .bitmapBits payload
          return (bitmap handle, graphics)) := by
        split
        · rintro ⟨fault, ⟨⟩⟩
        · exact (rebuild_handedOver bitmap).not_malformed
      simpa [hnegative, hshort] using hnever

/-- A bitmap is flattened to its header and as many bytes of rows as width and depth give, also by a
table that misreports. -/
theorem exists_rows_of_encode
    (h : (bitmap handle).encode sender Format.bitmap = .ok payload) :
    ∃ (header : BitmapHeader) (rows : Bytes),
      payload = header.write ++ rows ∧ rows.length = header.bitsSize := by
  have hflat : encodeBitmap sender handle = .ok payload := flatten_of_encode h
  unfold encodeBitmap at hflat
  cases hfetch : sender.fetch .bitmapHeader handle with
  | error => simp [hfetch, bind, Except.bind] at hflat
  | ok flat =>
      simp only [hfetch, bind, Except.bind] at hflat
      split at hflat
      · cases hflat
      · rename_i header _
        split at hflat
        · cases hflat
        · rename_i rows hrows
          cases hflat
          have hlength := (Option.filter_eq_some_iff.1 hrows).2
          exact ⟨header, rows, rfl, by simpa using hlength⟩

/-- Payloads with a header lack rows if and only if they are malformed: what comes to a graphics
table has them all, and what was flattened is never malformed. -/
structure DetectsTruncation (header : BitmapHeader) : Prop where
  malformed_iff : ∀ graphics payload, BitmapHeader.parse? payload = some header →
    (Malformed Format.bitmap (decode graphics Format.bitmap payload) ↔
      payload.length - BitmapHeader.headerSize < header.bitsSize)
  handed_over : ∀ graphics payload, BitmapHeader.parse? payload = some header →
    HandedOver Format.bitmap (decode graphics Format.bitmap payload) →
      header.bitsSize ≤ payload.length - BitmapHeader.headerSize
  flattened : ∀ sender handle payload,
    (bitmap handle).encode sender Format.bitmap = .ok payload →
      BitmapHeader.parse? payload = some header →
        ∀ graphics, ¬ Malformed Format.bitmap (decode graphics Format.bitmap payload)

theorem detectsTruncation_of_announced (h : header.announced? = some header.bitsSize) :
    DetectsTruncation header := by
  have hmalformed : ∀ graphics payload, BitmapHeader.parse? payload = some header →
      (Malformed Format.bitmap (decode graphics Format.bitmap payload) ↔
        payload.length - BitmapHeader.headerSize < header.bitsSize) := by
    intro graphics payload hparse
    simp [malformed_iff graphics hparse, h]
  refine ⟨hmalformed, ?_, ?_⟩
  · intro graphics payload hparse hhanded
    exact Nat.not_lt.1 fun hshort =>
      hhanded.not_malformed ((hmalformed graphics payload hparse).2 hshort)
  · intro sender handle payload hencode hparse graphics
    obtain ⟨written, rows, rfl, hlength⟩ := exists_rows_of_encode hencode
    rw [BitmapHeader.parse?_write] at hparse
    cases hparse
    rw [hmalformed graphics _ (BitmapHeader.parse?_write ..), List.length_append,
      header.length_write, Nat.add_sub_cancel_left, hlength]
    exact Nat.lt_irrefl _

/-- Rows of just the size that width and depth give are enough, and those with a byte less are not,
only if the row field says the same. -/
theorem announced_of_detectsTruncation (h : DetectsTruncation header) :
    header.announced? = some header.bitsSize := by
  have hrows : ∀ count, (∀ size, header.announced? = some size → count < size) ↔
      count < header.bitsSize := by
    intro count
    have hparse := header.parse?_write (List.replicate count 0)
    have hlength : (header.write ++ List.replicate count 0).length - BitmapHeader.headerSize
        = count := by
      rw [List.length_append, header.length_write, List.length_replicate, Nat.add_sub_cancel_left]
    have hboth := (malformed_iff .empty hparse).symm.trans
      (h.malformed_iff .empty _ hparse)
    rwa [hlength] at hboth
  cases hannounced : header.announced? with
  | none =>
      have hnever := (hrows header.bitsSize).1 (by simp [hannounced])
      exact absurd hnever (Nat.lt_irrefl _)
  | some size =>
      simp only [hannounced, Option.some.injEq, forall_eq'] at hrows
      have hle := hrows header.bitsSize
      have hge := hrows size
      rw [Option.some.injEq]
      omega

/-- Every payload with a whole header is checked against the row field of the header, so missing
rows are detected behind the header if and only if the row field gives the size that width and depth
give. -/
theorem decode_bitmap_detects_truncation (hlength : BitmapHeader.headerSize ≤ payload.length) :
    ∃ header, BitmapHeader.parse? payload = some header ∧
      (∀ graphics, Malformed Format.bitmap (decode graphics Format.bitmap payload) ↔
        ∀ size, header.announced? = some size →
          payload.length - BitmapHeader.headerSize < size) ∧
      (DetectsTruncation header ↔ header.announced? = some header.bitsSize) := by
  obtain ⟨header, hparse⟩ := BitmapHeader.exists_parse?_of_le hlength
  exact ⟨header, hparse, fun graphics => malformed_iff graphics hparse,
    announced_of_detectsTruncation, detectsTruncation_of_announced⟩

/-- The row field that goes with width and depth does. -/
theorem pixel_truncation_detected :
    BitmapHeader.headerSize ≤ (BitmapHeader.ofSize 1 1 24).write.length ∧
      DetectsTruncation (BitmapHeader.ofSize 1 1 24) := by
  have hlength : BitmapHeader.headerSize ≤ (BitmapHeader.ofSize 1 1 24).write.length := by decide
  obtain ⟨header, hparse, -, hdetects⟩ := decode_bitmap_detects_truncation hlength
  have hwritten : BitmapHeader.parse? (BitmapHeader.ofSize 1 1 24).write =
      some (BitmapHeader.ofSize 1 1 24) := rfl
  obtain rfl := Option.some.inj (hwritten.symm.trans hparse)
  exact ⟨hlength, hdetects.2 rfl⟩

/-- One pixel of eight bits, the row field counting rows padded to four bytes. -/
def widelyPadded : BitmapHeader := ⟨0, 1, 1, 4, 1, 8, 0⟩

/-- One pixel of 24 bits, the row field counting no bytes. -/
def rowless : BitmapHeader := ⟨0, 1, 1, 0, 1, 24, 0⟩

/-- A bitmap is flattened to a payload that is malformed, and a header without rows comes to the
graphics table. -/
theorem truncation_missed :
    (∃ payload, (bitmap ⟨1, by decide⟩).encode ⟨[.bitmap widelyPadded [0xaa, 0xbb]], [], []⟩
        Format.bitmap = .ok payload ∧
      decode .empty Format.bitmap payload = .error (.malformed Format.bitmap .truncatedBits)) ∧
    rowless.bitsSize = 4 ∧
      decode .empty Format.bitmap rowless.write = .error (.reconstruct Format.bitmap) ∧
    ¬ DetectsTruncation widelyPadded ∧ ¬ DetectsTruncation rowless := by
  refine ⟨⟨_, rfl, rfl⟩, rfl, rfl, ?_, ?_⟩
  · intro h
    have hflattened := h.flattened ⟨[.bitmap widelyPadded [0xaa, 0xbb]], [], []⟩ ⟨1, by decide⟩ _
      rfl rfl .empty
    exact hflattened ⟨.truncatedBits, rfl⟩
  · intro h
    exact absurd (h.handed_over .empty rowless.write rfl (.inr rfl)) (by decide)

end Data

end Pasteboard

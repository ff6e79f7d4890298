import Pasteboard.Exchange.Frame

/-!
# Reading frames

However a stream is cut into reads, a frame that was written is read as its body, and what follows
it stays: `Frame.read_write`.
-/

namespace Pasteboard

/-- If enough bytes are there, the turns that the reads take do not matter. -/
theorem Source.fillAfter_of_le (ending : Ending) (got : Bytes) {want : Nat} {bytes : Bytes}
    (hwant : want ≤ bytes.length) (turns : List Turn) :
    ∃ left, fillAfter ending got want bytes turns =
      (.full (got.reverse ++ bytes.take want), ⟨bytes.drop want, left, ending⟩) := by
  induction turns generalizing got want bytes with
  | nil => exact ⟨[], by rw [fillAfter, if_pos hwant]⟩
  | cons turn turns ih =>
      by_cases hnothing : want = 0
      · subst hnothing
        refine ⟨turn :: turns, ?_⟩
        cases turn <;> simp [fillAfter]
      · cases turn with
        | interrupted =>
            obtain ⟨left, hleft⟩ := ih got hwant
            exact ⟨left, by rw [fillAfter, if_neg hnothing, hleft]⟩
        | upTo limit =>
            have hbytes : bytes.isEmpty = false := by
              cases bytes with
              | nil => exact False.elim (hnothing (Nat.le_zero.1 hwant))
              | cons => rfl
            -- The read gives at least one byte, and no more than are wanted.
            have hgiven : (bytes.take (min want (max limit 1))).length =
                min want (max limit 1) := by
              rw [List.length_take]
              omega
            have hrest : want - min want (max limit 1) ≤
                (bytes.drop (min want (max limit 1))).length := by
              rw [List.length_drop]
              omega
            obtain ⟨left, hleft⟩ := ih ((bytes.take (min want (max limit 1))).reverse ++ got) hrest
            have hsplit : min want (max limit 1) + (want - min want (max limit 1)) = want := by
              omega
            refine ⟨left, ?_⟩
            rw [fillAfter, if_neg hnothing, hbytes, if_neg Bool.false_ne_true]
            simp only [hgiven, hleft, List.reverse_append, List.reverse_reverse, List.append_assoc,
              List.drop_drop, hsplit]
            rw [← List.take_add, hsplit]

/-- If too few bytes are there, all of them are read, whatever turns the reads take. -/
theorem Source.fillAfter_of_lt (ending : Ending) (got : Bytes) {want : Nat} {bytes : Bytes}
    (hwant : bytes.length < want) (turns : List Turn) :
    ∃ left, fillAfter ending got want bytes turns =
      (.ended (got.reverse ++ bytes), ⟨[], left, ending⟩) := by
  have hsomething : want ≠ 0 := Nat.ne_zero_of_lt hwant
  induction turns generalizing got want bytes with
  | nil => exact ⟨[], by rw [fillAfter, if_neg (Nat.not_le.2 hwant)]⟩
  | cons turn turns ih =>
      cases turn with
      | interrupted =>
          obtain ⟨left, hleft⟩ := ih got hwant hsomething
          exact ⟨left, by rw [fillAfter, if_neg hsomething, hleft]⟩
      | upTo limit =>
          cases bytes with
          | nil => exact ⟨turns, by simp [fillAfter, hsomething]⟩
          | cons b bytes =>
              -- What a read gives is not all that is wanted.
              have hrest : ((b :: bytes).drop
                  ((b :: bytes).take (min want (max limit 1))).length).length <
                  want - ((b :: bytes).take (min want (max limit 1))).length := by
                rw [List.length_drop, List.length_take]
                omega
              obtain ⟨left, hleft⟩ := ih
                (((b :: bytes).take (min want (max limit 1))).reverse ++ got) hrest
                (Nat.ne_zero_of_lt hrest)
              refine ⟨left, ?_⟩
              have hall := List.prefix_iff_eq_append.1
                (List.take_prefix (min want (max limit 1)) (b :: bytes))
              simp only [fillAfter, if_neg hsomething, List.isEmpty_cons, Bool.false_eq_true,
                if_false, hleft, List.reverse_append, List.reverse_reverse, List.append_assoc, hall]

/-- Bytes that are there are read as a whole, and what follows them stays. -/
theorem Source.fill_append (front rest : Bytes) (turns : List Turn) (ending : Ending) :
    ∃ left, (⟨front ++ rest, turns, ending⟩ : Source).fill front.length =
      (.full front, ⟨rest, left, ending⟩) := by
  have hroom : front.length ≤ (front ++ rest).length := by
    rw [List.length_append]
    omega
  obtain ⟨left, hfill⟩ := fillAfter_of_le ending [] hroom turns
  rw [List.take_left, List.drop_left] at hfill
  exact ⟨left, hfill⟩

/-- A stream with too few bytes is read to its end. -/
theorem Source.fill_of_lt {source : Source} {want : Nat} (hwant : source.bytes.length < want) :
    ∃ left, source.fill want = (.ended source.bytes, ⟨[], left, source.ending⟩) :=
  fillAfter_of_lt source.ending [] hwant source.turns

namespace Frame

theorem write_of_le {body : Bytes} (h : body.length ≤ limit) :
    write body = .ok (Bytes.ofU32 (UInt32.ofNat body.length) ++ body) :=
  if_neg (Nat.not_lt.2 h)

theorem le_of_write {body frame : Bytes} (h : write body = .ok frame) : body.length ≤ limit := by
  unfold write at h
  split at h
  · cases h
  · omega

/-- A length within the limit fits into the word in front of a body. -/
theorem lt_of_le {length : Nat} (h : length ≤ limit) : length < 4294967296 := by
  rw [limit] at h
  omega

/-- The length in front of a body is read back. -/
theorem toNat_header (length : UInt32) : Bytes.toNat (Bytes.ofU32 length) = length.toNat := by
  have hspelled : Bytes.toNat (Bytes.ofNat 4 length.toNat) = length.toNat % 4294967296 :=
    Bytes.toNat_ofNat 4 length.toNat
  rw [Bytes.ofU32, hspelled, Nat.mod_eq_of_lt length.toNat_lt]

/-- The length is read first, whatever turns the reads take. -/
theorem fill_header (length : UInt32) (rest : Bytes) (turns : List Turn) (ending : Ending) :
    ∃ left, (⟨Bytes.ofU32 length ++ rest, turns, ending⟩ : Source).fill 4 =
      (.full (Bytes.ofU32 length), ⟨rest, left, ending⟩) := by
  have hfill := Source.fill_append (Bytes.ofU32 length) rest turns ending
  rwa [Bytes.length_ofU32] at hfill

/-- A frame is read as its body, whatever turns the reads take, and what follows it stays. -/
theorem read_frame {length : UInt32} {body : Bytes} (hlength : length.toNat = body.length)
    (hlimit : length.toNat ≤ limit) (rest : Bytes) (turns : List Turn) (ending : Ending) :
    ∃ left, read ⟨Bytes.ofU32 length ++ (body ++ rest), turns, ending⟩ =
      (.ok (some body), ⟨rest, left, ending⟩) := by
  obtain ⟨between, hfirst⟩ := fill_header length (body ++ rest) turns ending
  obtain ⟨left, hsecond⟩ := Source.fill_append body rest between ending
  rw [← hlength] at hsecond
  exact ⟨left, by simp only [read, hfirst, toNat_header, if_neg (Nat.not_lt.2 hlimit), hsecond]⟩

/-- A frame that was written is read as its body, whatever turns the reads take, and what follows it
stays. -/
theorem read_write {body frame : Bytes} (hframe : write body = .ok frame) (rest : Bytes)
    (turns : List Turn) (ending : Ending) :
    ∃ left, read ⟨frame ++ rest, turns, ending⟩ = (.ok (some body), ⟨rest, left, ending⟩) := by
  have hlimit := le_of_write hframe
  rw [write_of_le hlimit, Except.ok.injEq] at hframe
  have hlength : (UInt32.ofNat body.length).toNat = body.length :=
    UInt32.toNat_ofNat_of_lt' (lt_of_le hlimit)
  rw [← hframe, List.append_assoc]
  exact read_frame hlength (by rw [hlength]; exact hlimit) rest turns ending

end Frame

end Pasteboard

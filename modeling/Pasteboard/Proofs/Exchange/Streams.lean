import Pasteboard.Proofs.Exchange.Frames

/-!
# Streams of frames

`Frame.Cuts` is the grammar of streams: frame after frame, each a length and as many bytes, up to
the end of the stream or to a length over the limit. Reading frame by frame cuts every stream by
this grammar, however its bytes arrive: see `Frame.reading_cuts_streams`.
-/

namespace Pasteboard.Frame

/-- What comes out of a stream with these bytes, if it ends in this way: bodies in order, and last
the end of the stream or an error. -/
inductive Cuts (ending : Ending) : Bytes → List (Except StreamError (Option Bytes)) → Prop where
  | frame {length : UInt32} {body rest : Bytes}
      {outcomes : List (Except StreamError (Option Bytes))} :
      length.toNat = body.length → length.toNat ≤ limit → Cuts ending rest outcomes →
      Cuts ending (Bytes.ofU32 length ++ (body ++ rest)) (.ok (some body) :: outcomes)
  /-- The stream was closed between two frames. -/
  | finished : ending = .closed → Cuts ending [] [.ok none]
  /-- The stream breaks off between two frames or within a length. -/
  | cutInLength {part : Bytes} : part.length < 4 → (part = [] → ending ≠ .closed) →
      Cuts ending part [.error (cutOff ending)]
  | cutInBody {length : UInt32} {part : Bytes} : length.toNat ≤ limit →
      part.length < length.toNat →
      Cuts ending (Bytes.ofU32 length ++ part) [.error (cutOff ending)]
  | overLimit {length : UInt32} {rest : Bytes} : limit < length.toNat →
      Cuts ending (Bytes.ofU32 length ++ rest) [.error (.frameOverLimit length.toNat)]

/-- There is nothing else that can stand in a stream. -/
theorem exists_cuts (ending : Ending) (bytes : Bytes) : ∃ outcomes, Cuts ending bytes outcomes := by
  -- A frame takes its length at least, so what follows it is shorter.
  induction hsize : bytes.length using Nat.strongRecOn generalizing bytes with
  | _ size ih =>
      subst hsize
      cases hread : Bytes.u32? bytes with
      | none =>
          have hshort := Bytes.u32?_eq_none_iff.1 hread
          by_cases hfinished : bytes = [] ∧ ending = .closed
          · rw [hfinished.1]
            exact ⟨_, .finished hfinished.2⟩
          · exact ⟨_, .cutInLength hshort fun hnil hclosed => hfinished ⟨hnil, hclosed⟩⟩
      | some header =>
          obtain ⟨length, rest⟩ := header
          have hbytes := Bytes.eq_of_u32? hread
          by_cases hlimit : length.toNat ≤ limit
          · by_cases hroom : length.toNat ≤ rest.length
            · have hrest : (rest.drop length.toNat).length < bytes.length := by
                rw [hbytes, List.length_drop, List.length_append, Bytes.length_ofU32]
                omega
              obtain ⟨outcomes, houtcomes⟩ := ih _ hrest _ rfl
              have hlength : length.toNat = (rest.take length.toNat).length := by
                rw [List.length_take, Nat.min_eq_left hroom]
              have hframe := Cuts.frame hlength hlimit houtcomes
              rw [List.take_append_drop, ← hbytes] at hframe
              exact ⟨_, hframe⟩
            · rw [hbytes]
              exact ⟨_, .cutInBody hlimit (Nat.not_le.1 hroom)⟩
          · rw [hbytes]
            exact ⟨_, .overLimit (Nat.not_le.1 hlimit)⟩

section

variable {ending : Ending} {bytes part : Bytes} {length : UInt32}

/-- A stream that ends before a length is complete ends between two frames or is cut off. -/
theorem read_cutInLength (hpart : part.length < 4) (turns : List Turn) :
    (read ⟨part, turns, ending⟩).1 =
      if part.isEmpty ∧ ending = .closed then .ok none else .error (cutOff ending) := by
  have hshort : (⟨part, turns, ending⟩ : Source).bytes.length < 4 := hpart
  obtain ⟨left, hfill⟩ := Source.fill_of_lt hshort
  simp only [read, hfill]

theorem read_cutInBody (hlimit : length.toNat ≤ limit) (hpart : part.length < length.toNat)
    (turns : List Turn) :
    (read ⟨Bytes.ofU32 length ++ part, turns, ending⟩).1 = .error (cutOff ending) := by
  obtain ⟨between, hfirst⟩ := fill_header length part turns ending
  have hshort : (⟨part, between, ending⟩ : Source).bytes.length < length.toNat := hpart
  obtain ⟨left, hsecond⟩ := Source.fill_of_lt hshort
  simp only [read, hfirst, toNat_header, if_neg (Nat.not_lt.2 hlimit), hsecond]

theorem read_overLimit (hlimit : limit < length.toNat) (rest : Bytes) (turns : List Turn) :
    (read ⟨Bytes.ofU32 length ++ rest, turns, ending⟩).1 =
      .error (.frameOverLimit length.toNat) := by
  obtain ⟨between, hfirst⟩ := fill_header length rest turns ending
  simp only [read, hfirst, toNat_header, if_pos hlimit]

theorem readMany_of_body {source later : Source} {body : Bytes}
    (h : read source = (.ok (some body), later)) (count : Nat) :
    readMany (count + 1) source = .ok (some body) :: readMany count later := by
  rw [readMany, h]

/-- Reading goes on only behind a body. -/
theorem readMany_of_last {source : Source} {outcome : Except StreamError (Option Bytes)}
    (h : (read source).1 = outcome) (hlast : ∀ body, outcome ≠ .ok (some body)) (count : Nat) :
    readMany (count + 1) source = [outcome] := by
  rw [readMany]
  cases hread : read source with
  | mk first later =>
      rw [hread] at h
      subst h
      split
      · rename_i hbody
        cases hbody
        exact False.elim (hlast _ rfl)
      · rename_i hbody
        cases hbody
        rfl

/-- What the grammar says comes out, if the stream is read often enough. -/
theorem readMany_of_cuts {outcomes : List (Except StreamError (Option Bytes))}
    (h : Cuts ending bytes outcomes) (turns : List Turn) {count : Nat}
    (hcount : bytes.length < count) : readMany count ⟨bytes, turns, ending⟩ = outcomes := by
  induction h generalizing turns count with
  | frame hlength hlimit _ ih =>
      -- A frame has a length in front, so each read leaves fewer bytes and one read less is enough.
      obtain ⟨count, rfl⟩ := Nat.exists_eq_add_one_of_ne_zero (Nat.ne_zero_of_lt hcount)
      obtain ⟨left, hread⟩ := read_frame hlength hlimit _ turns ending
      rw [List.length_append, List.length_append, Bytes.length_ofU32] at hcount
      rw [readMany_of_body hread, ih left (by omega)]
  | finished hclosed =>
      obtain ⟨count, rfl⟩ := Nat.exists_eq_add_one_of_ne_zero (Nat.ne_zero_of_lt hcount)
      refine readMany_of_last ?_ (fun _ h => by cases h) count
      rw [read_cutInLength (by decide), if_pos ⟨rfl, hclosed⟩]
  | cutInLength hpart hopen =>
      obtain ⟨count, rfl⟩ := Nat.exists_eq_add_one_of_ne_zero (Nat.ne_zero_of_lt hcount)
      refine readMany_of_last ?_ (fun _ h => by cases h) count
      rw [read_cutInLength hpart, if_neg fun h => hopen (List.isEmpty_iff.1 h.1) h.2]
  | cutInBody hlimit hpart =>
      obtain ⟨count, rfl⟩ := Nat.exists_eq_add_one_of_ne_zero (Nat.ne_zero_of_lt hcount)
      exact readMany_of_last (read_cutInBody hlimit hpart turns) (fun _ h => by cases h) count
  | overLimit hlimit =>
      obtain ⟨count, rfl⟩ := Nat.exists_eq_add_one_of_ne_zero (Nat.ne_zero_of_lt hcount)
      exact readMany_of_last (read_overLimit hlimit _ turns) (fun _ h => by cases h) count

/-- A stream is cut in one way. -/
theorem Cuts.unique {outcomes others : List (Except StreamError (Option Bytes))}
    (h : Cuts ending bytes outcomes) (hother : Cuts ending bytes others) : outcomes = others :=
  (readMany_of_cuts h [] (Nat.lt_succ_self _)).symm.trans
    (readMany_of_cuts hother [] (Nat.lt_succ_self _))

end

/-- The frames of bodies within the limit are cut into these bodies. -/
theorem exists_frames {bodies : List Bytes} (h : ∀ body ∈ bodies, body.length ≤ limit) :
    ∃ frames, bodies.mapM write = .ok frames ∧
      Cuts .closed frames.flatten (bodies.map (fun body => .ok (some body)) ++ [.ok none]) := by
  induction bodies with
  | nil => exact ⟨[], rfl, .finished rfl⟩
  | cons body bodies ih =>
      obtain ⟨frames, hframes, hcuts⟩ := ih fun other hmem => h other (List.mem_cons_of_mem _ hmem)
      have hlimit := h body List.mem_cons_self
      have hlength : (UInt32.ofNat body.length).toNat = body.length :=
        UInt32.toNat_ofNat_of_lt' (lt_of_le hlimit)
      refine ⟨(Bytes.ofU32 (UInt32.ofNat body.length) ++ body) :: frames, ?_, ?_⟩
      · rw [List.mapM_cons, write_of_le hlimit, hframes]
        rfl
      · rw [List.flatten_cons, List.append_assoc]
        exact .frame hlength (by rw [hlength]; exact hlimit) hcuts

/-- However the bytes of a stream arrive, reading it frame by frame gives what the grammar cuts it
into, and reading on gives no more. In particular the frames of any bodies within the limit are read
as these bodies. -/
theorem reading_cuts_streams :
    (∀ source outcomes,
      readAll source = outcomes ↔ Cuts source.ending source.bytes outcomes) ∧
    (∀ source count, source.bytes.length < count → readMany count source = readAll source) ∧
    ∀ bodies : List Bytes, (∀ body ∈ bodies, body.length ≤ limit) →
      ∃ frames, bodies.mapM write = .ok frames ∧ ∀ turns, readAll ⟨frames.flatten, turns, .closed⟩ =
        bodies.map (fun body => .ok (some body)) ++ [.ok none] := by
  have hcuts : ∀ source, Cuts source.ending source.bytes (readAll source) := by
    intro source
    obtain ⟨outcomes, houtcomes⟩ := exists_cuts source.ending source.bytes
    have hread : readAll source = outcomes :=
      readMany_of_cuts houtcomes source.turns (Nat.lt_succ_self _)
    rwa [hread]
  refine ⟨fun source outcomes => ⟨fun h => h ▸ hcuts source, (hcuts source).unique⟩,
    fun source count hcount => readMany_of_cuts (hcuts source) source.turns hcount, ?_⟩
  intro bodies hbodies
  obtain ⟨frames, hframes, hframed⟩ := exists_frames hbodies
  exact ⟨frames, hframes, fun turns => readMany_of_cuts hframed turns (Nat.lt_succ_self _)⟩

/-- A body of two bytes and an empty one are read back, and a stream that is reset within a body
ends in an error, also if reading is interrupted and goes on too long. -/
theorem reset_stream_cut_off :
    let bodies : List Bytes := [[1, 2], []]
    (∀ body ∈ bodies, body.length ≤ limit) ∧
      (∃ frames, bodies.mapM write = .ok frames ∧
        ∀ turns, readAll ⟨frames.flatten, turns, .closed⟩ =
          [.ok (some [1, 2]), .ok (some []), .ok none]) ∧
      let source : Source := ⟨[2, 0, 0, 0, 1], [.upTo 3, .interrupted], .reset⟩
      source.bytes.length < 9 ∧ readMany 9 source = [.error .connectionReset] := by
  intro bodies
  obtain ⟨hcut, hmany, hframes⟩ := reading_cuts_streams
  have hlimit : ∀ body ∈ bodies, body.length ≤ limit := by decide
  refine ⟨hlimit, hframes _ hlimit, ?_⟩
  intro source
  have hlong : source.bytes.length < 9 := by decide
  have hcuts : Cuts .reset source.bytes [.error .connectionReset] :=
    @Cuts.cutInBody .reset 2 [1] (by decide) (by decide)
  exact ⟨hlong, (hmany source 9 hlong).trans ((hcut source _).2 hcuts)⟩

end Pasteboard.Frame

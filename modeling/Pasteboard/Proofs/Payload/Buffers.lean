import Pasteboard.Proofs.Payload.Encoding

/-!
# Flat forms extracted into buffers

A flat form is extracted into a buffer of the size that was reported for it, or that a header gives,
and whatever a failed extraction leaves in the buffer is there to be used. `Data.encodeInto` works
with such buffers, and keeps account of what it asks for. It gives what `Data.encode` gives,
whatever failed extractions leave behind, and that is an error as soon as a buffer is not filled:
`Data.gives_encode`.
-/

namespace Pasteboard

/-- Work on a state that is changed in place, also by work that fails in the end. -/
abbrev Work (σ ε : Type) := ExceptT ε (StateM σ)

namespace Work

variable {σ ε α β : Type}

/-- How the work ends, and the state after it. -/
def runOn (work : Work σ ε α) (state : σ) : Except ε α × σ := work.run.run state

/-- Work goes on with the state that the first part left. -/
theorem runOn_bind (first : Work σ ε α) (next : α → Work σ ε β) (state : σ) :
    (first >>= next).runOn state =
      match first.runOn state with
      | (.ok value, later) => (next value).runOn later
      | (.error error, later) => (.error error, later) := by
  unfold runOn
  rw [ExceptT.run_bind, StateT.run_bind]
  rcases first.run.run state with ⟨_ | _, _⟩ <;> rfl

end Work

namespace Graphics

variable {graphics : Graphics} {kind : BitsKind} {handle : Handle}

/-- What failed extractions leave in their buffers. -/
abbrev Remains := BitsKind → Handle → Bytes → Bytes

/-- What a table gives as a flat form, right or wrong. -/
def given? (graphics : Graphics) (kind : BitsKind) (handle : Handle) : Option Bytes :=
  ((graphics.misreport? kind handle).bind (·.bits)) <|> graphics.bits? kind handle

/-- Extracts a flat form into a buffer of its size. Says whether that was done, and what is in the
buffer. -/
def fill (graphics : Graphics) (remains : Remains) (kind : BitsKind) (handle : Handle)
    (buffer : Bytes) : Bool × Bytes :=
  match graphics.extract? kind handle buffer.length with
  | some bits => (true, bits)
  | none => (false, remains kind handle buffer)

/-- What is made of a buffer that was filled is made of the flat form. -/
theorem if_fill (remains : Remains) (buffer : Bytes) (make : Bytes → Bytes) :
    (if (graphics.fill remains kind handle buffer).1 then
      some (make (graphics.fill remains kind handle buffer).2) else none) =
      (graphics.extract? kind handle buffer.length).map make := by
  unfold fill
  cases graphics.extract? kind handle buffer.length <;> rfl

/-- Asks for the size of a flat form and extracts it into a buffer of that size. -/
def fetchInto? (graphics : Graphics) (remains : Remains) (kind : BitsKind) (handle : Handle) :
    Option Bytes :=
  let size := graphics.querySize kind handle
  if size = 0 then none
  else
    let (filled, buffer) := graphics.fill remains kind handle (List.replicate size 0)
    if filled then some buffer else none

/-- A flat form is fetched whole or not at all. -/
theorem fetchInto?_eq (remains : Remains) :
    graphics.fetchInto? remains kind handle = graphics.fetch? kind handle := by
  simp only [fetchInto?, fetch?, if_fill remains _ fun buffer => buffer, List.length_replicate,
    Option.map_id']

/-- A flat form that is asked for in some size: the reported one, or that of a header. -/
structure Draw where
  kind : BitsKind
  handle : Handle
  size : Nat
deriving DecidableEq

/-- What was found, or the error that it is missing. -/
def Draw.answer (draw : Draw) : Option Bytes → Except PayloadError Bytes
  | some bits => .ok bits
  | none => .error (.objectUnavailable draw.handle draw.kind)

/-- The flat form that the table gives has the size that it is asked for in. -/
def Fills (graphics : Graphics) (draw : Draw) : Prop :=
  (graphics.given? draw.kind draw.handle).map List.length = some draw.size

instance (draw : Draw) : Decidable (graphics.Fills draw) :=
  inferInstanceAs (Decidable (_ = _))

/-- Nothing is extracted unless it is of the size of the buffer. -/
theorem extract?_eq_none {draw : Draw} (h : ¬graphics.Fills draw) :
    graphics.extract? draw.kind draw.handle draw.size = none := by
  refine Option.filter_eq_none_iff.2 fun bits hbits hsize => h ?_
  have hgiven : graphics.given? draw.kind draw.handle = some bits := hbits
  rw [Fills, hgiven, Option.map_some, beq_iff_eq.1 hsize]

/-- A flat form that cannot fill the buffer of its own size is not fetched. -/
theorem fetch?_eq_none (h : ¬graphics.Fills ⟨kind, handle, graphics.querySize kind handle⟩) :
    graphics.fetch? kind handle = none := by
  simp only [fetch?, extract?_eq_none h, ite_self]

/-! ## Work with buffers -/

/-- Work with buffers, which keeps account of what it asks for. -/
abbrev Filling := Work (List Draw) PayloadError

namespace Filling

variable {α β : Type}

/-- Notes what is asked for, and goes on with what is found. -/
def ask (draw : Draw) (found : Option Bytes) : Filling Bytes := do
  modify (· ++ [draw])
  ExceptT.mk (pure (draw.answer found))

/-- The work gives a result. If it asked for something that it was not given in the size that it
asked for, the result is the error that says so. -/
def Gives (graphics : Graphics) (work : Filling α) (result : Except PayloadError α) : Prop :=
  ∀ asked, ∃ more, work.runOn asked = (result, asked ++ more) ∧
    ∀ draw ∈ more, ¬graphics.Fills draw →
      result = .error (.objectUnavailable draw.handle draw.kind)

/-- A value is given without asking for anything. -/
theorem gives_pure (value : α) : Gives graphics (pure value) (.ok value) := fun asked =>
  ⟨[], by rw [List.append_nil]; rfl, by simp⟩

theorem gives_throw (error : PayloadError) :
    Gives graphics (throw error : Filling α) (.error error) := fun asked =>
  ⟨[], by rw [List.append_nil]; rfl, by simp⟩

/-- A choice gives what the chosen part does. -/
theorem gives_ite {condition : Prop} [Decidable condition] {work other : Filling α}
    {result alternative : Except PayloadError α} (hwork : Gives graphics work result)
    (hother : Gives graphics other alternative) :
    Gives graphics (if condition then work else other)
      (if condition then result else alternative) := by
  by_cases hcondition : condition
  · rw [if_pos hcondition, if_pos hcondition]
    exact hwork
  · rw [if_neg hcondition, if_neg hcondition]
    exact hother

/-- What is asked for must not be found unless it is given in the size that it is asked for in. -/
theorem gives_ask {draw : Draw} {found : Option Bytes} {result : Except PayloadError Bytes}
    (hfound : ¬graphics.Fills draw → found = none) (hresult : result = draw.answer found) :
    Gives graphics (ask draw found) result := fun asked => by
  subst hresult
  refine ⟨[draw], rfl, fun other hother hfills => ?_⟩
  obtain rfl := List.mem_singleton.1 hother
  rw [hfound hfills]
  rfl

/-- Everything that was asked for before the work went on had been given. -/
theorem Gives.bind {first : Filling α} {next : α → Filling β} {found : Except PayloadError α}
    {rest : α → Except PayloadError β} (hfirst : Gives graphics first found)
    (hnext : ∀ value, Gives graphics (next value) (rest value)) :
    Gives graphics (first >>= next) (found >>= rest) := fun asked => by
  obtain ⟨more, hrun, hmore⟩ := hfirst asked
  rw [Work.runOn_bind, hrun]
  cases found with
  | error error =>
      refine ⟨more, rfl, fun draw hdraw hfills => ?_⟩
      rw [Except.error.inj (hmore draw hdraw hfills)]
      rfl
  | ok value =>
      obtain ⟨others, hothers, hrest⟩ := hnext value (asked ++ more)
      refine ⟨more ++ others, by rw [← List.append_assoc]; exact hothers,
        fun draw hdraw hfills => ?_⟩
      rcases List.mem_append.1 hdraw with hdraw | hdraw
      · cases hmore draw hdraw hfills
      · exact hrest draw hdraw hfills

/-- Asks for the size of a flat form and fetches it in that size. -/
def fetch (graphics : Graphics) (remains : Remains) (kind : BitsKind) (handle : Handle) :
    Filling Bytes :=
  ask ⟨kind, handle, graphics.querySize kind handle⟩ (graphics.fetchInto? remains kind handle)

/-- A buffer is filled with the flat form, or nothing is given. -/
theorem gives_fetch (remains : Remains) (kind : BitsKind) (handle : Handle) :
    Gives graphics (fetch graphics remains kind handle) (graphics.fetch kind handle) := by
  rw [fetch, fetchInto?_eq, Graphics.fetch]
  refine gives_ask fetch?_eq_none ?_
  cases graphics.fetch? kind handle <;> rfl

end Filling

end Graphics

namespace Data

open Graphics (Filling Remains)

variable {graphics : Graphics} (remains : Remains)

/-- The header of a bitmap with its pixel rows, extracted into the space behind it. -/
def encodeBitmapInto (graphics : Graphics) (remains : Remains) (handle : Handle) :
    Filling Bytes := do
  let flat ← Filling.fetch graphics remains .bitmapHeader handle
  match BitmapHeader.parse? flat with
  | none => throw (.objectUnavailable handle .bitmapHeader)
  | some header =>
    let out := header.write ++ List.replicate header.bitsSize 0
    let (filled, rows) :=
      graphics.fill remains .bitmapBits handle (out.drop BitmapHeader.headerSize)
    Filling.ask ⟨.bitmapBits, handle, header.bitsSize⟩
      (if filled then some (out.take BitmapHeader.headerSize ++ rows) else none)

/-- The entries of a palette, extracted into a buffer, behind a header. -/
def encodePaletteInto (graphics : Graphics) (remains : Remains) (handle : Handle) :
    Filling Bytes := do
  let entries ← Filling.fetch graphics remains .palette handle
  let count := entries.length / 4
  if count < 65536 then
    return Bytes.ofU16 0x300 ++ Bytes.ofU16 (UInt16.ofNat count) ++ entries.take (count * 4)
  else throw (.tooLarge entries.length)

/-- A metafile, extracted into a buffer, behind the header of its picture. -/
def encodePictInto (graphics : Graphics) (remains : Remains) (format : Format)
    (pict : MetafilePict) : Filling Bytes :=
  match pict.metafile with
  | none => throw (.malformed format .noMetafile)
  | some handle => do
    let bits ← Filling.fetch graphics remains .metafile handle
    return pict.write ++ bits

/-- The payload before its size is checked, made with buffers. -/
def flattenInto (graphics : Graphics) (remains : Remains) (format : Format) (data : Data) :
    Filling Bytes :=
  match format.shape, data with
  | .bitmap, bitmap handle => encodeBitmapInto graphics remains handle
  | .palette, palette handle => encodePaletteInto graphics remains handle
  | .enhMetafile, enhMetafile handle => Filling.fetch graphics remains .enhMetafile handle
  | .metafilePict, metafilePict pict => encodePictInto graphics remains format pict
  | .memory, bytes data => if data.isEmpty then throw .empty else return data
  | shape, _ => throw (.mismatch format shape)

/-- The payload of a value, made with buffers. -/
def encodeInto (graphics : Graphics) (remains : Remains) (format : Format) (data : Data) :
    Filling Bytes := do
  let payload ← flattenInto graphics remains format data
  if payload.length < 4294967296 then return payload else throw (.tooLarge payload.length)

/-- A bitmap is encoded by two buffers, for its header and its rows. -/
theorem gives_encodeBitmap (handle : Handle) :
    Filling.Gives graphics (encodeBitmapInto graphics remains handle)
      (encodeBitmap graphics handle) := by
  unfold encodeBitmapInto encodeBitmap
  refine (Filling.gives_fetch remains .bitmapHeader handle).bind fun flat => ?_
  cases BitmapHeader.parse? flat with
  | none => exact Filling.gives_throw _
  | some header =>
      have hspace : (header.write ++ List.replicate header.bitsSize 0).drop
          BitmapHeader.headerSize = List.replicate header.bitsSize 0 :=
        List.drop_left' header.length_write
      have hfront : (header.write ++ List.replicate header.bitsSize 0).take
          BitmapHeader.headerSize = header.write := List.take_left' header.length_write
      simp only [hspace, hfront, Graphics.if_fill remains _ (header.write ++ ·),
        List.length_replicate]
      refine Filling.gives_ask (fun h => ?_) ?_
      · rw [Graphics.extract?_eq_none h, Option.map_none]
      · cases graphics.extract? .bitmapBits handle header.bitsSize <;> rfl

/-- A palette is encoded by one. -/
theorem gives_encodePalette (handle : Handle) :
    Filling.Gives graphics (encodePaletteInto graphics remains handle)
      (encodePalette graphics handle) := by
  unfold encodePaletteInto encodePalette
  refine (Filling.gives_fetch remains .palette handle).bind fun entries => ?_
  exact Filling.gives_ite (Filling.gives_pure _) (Filling.gives_throw _)

/-- A picture is encoded by one buffer, if it names a metafile. -/
theorem gives_encodePict (format : Format) (pict : MetafilePict) :
    Filling.Gives graphics (encodePictInto graphics remains format pict)
      (encodePict graphics format pict) := by
  unfold encodePictInto encodePict
  cases pict.metafile with
  | none => exact Filling.gives_throw _
  | some handle =>
      exact (Filling.gives_fetch remains .metafile handle).bind fun bits => Filling.gives_pure _

/-- Every value is flattened through buffers to what it is flattened to. -/
theorem gives_flatten (format : Format) (data : Data) :
    Filling.Gives graphics (flattenInto graphics remains format data)
      (flatten graphics format data) := by
  unfold flattenInto flatten
  cases format.shape <;> cases data
  case bitmap.bitmap handle => exact gives_encodeBitmap remains handle
  case palette.palette handle => exact gives_encodePalette remains handle
  case enhMetafile.enhMetafile handle => exact Filling.gives_fetch remains .enhMetafile handle
  case metafilePict.metafilePict pict => exact gives_encodePict remains format pict
  case memory.bytes flat =>
    exact Filling.gives_ite (Filling.gives_throw _) (Filling.gives_pure _)
  all_goals exact Filling.gives_throw _

/-- A payload that is made with buffers is the payload of the value, whatever failed extractions
leave in their buffers; it is refused if anything is not given in the size that it is asked for
in. -/
theorem gives_encode (format : Format) (data : Data) :
    Filling.Gives graphics (encodeInto graphics remains format data)
      (encode graphics format data) := by
  unfold encodeInto encode
  refine (gives_flatten remains format data).bind fun payload => ?_
  exact Filling.gives_ite (Filling.gives_pure _) (Filling.gives_throw _)

end Data

end Pasteboard

import Pasteboard.Proofs.Payload.Copies

/-!
# Values without the numbers of their handles

Handles count up, so the same payload decoded twice gives values with different handles. What can be
seen of a value without them is its `Sight`: the value itself, with the first handle in place of its
own, and its object. What decoding gives, and whether encoding succeeds, is seen to depend on no
more than that, as long as tables are honest and have handles left.
-/

namespace Pasteboard

/-- The first handle that a table gives out. -/
def Handle.first : Handle := ⟨1, by decide⟩

/-- A value with the first handle in place of its own, and its object. -/
abbrev Sight := Data × Option Object

namespace Data

/-- The value with the first handle in place of its own. -/
def nameless : Data → Data
  | bytes data => bytes data
  | bitmap _ => bitmap .first
  | palette _ => palette .first
  | enhMetafile _ => enhMetafile .first
  | metafilePict pict => metafilePict { pict with metafile := pict.metafile.map fun _ => .first }

/-- What is seen of a value. -/
def sight (graphics : Graphics) (data : Data) : Sight :=
  (data.nameless, data.handle?.bind graphics.object?)

end Data

/-- The error with the first handle in place of its own. -/
def PayloadError.nameless : PayloadError → PayloadError
  | objectUnavailable _ kind => objectUnavailable .first kind
  | error => error

namespace Graphics

/-- A table with at most one object. -/
def solo (object : Option Object) : Graphics := ⟨object.toList, [], []⟩

/-- The table took some objects, so many at most. -/
structure Grows (graphics : Graphics) (count : Nat) (later : Graphics) : Prop where
  objects : ∃ more, later.objects = graphics.objects ++ more ∧ more.length ≤ count
  misreports : later.misreports = graphics.misreports
  refused : later.refused = graphics.refused

variable {graphics now later : Graphics} {count more : Nat}

/-- A table that is not changed has grown by nothing. -/
theorem Grows.refl (graphics : Graphics) (count : Nat) : graphics.Grows count graphics :=
  ⟨⟨[], by simp⟩, rfl, rfl⟩

/-- A table may be said to have grown by more than it did. -/
theorem Grows.mono (h : graphics.Grows count later) (hle : count ≤ more) :
    graphics.Grows more later where
  objects := by
    obtain ⟨objects, hobjects, hlength⟩ := h.objects
    exact ⟨objects, hobjects, Nat.le_trans hlength hle⟩
  misreports := h.misreports
  refused := h.refused

/-- What is added by two changes is counted together. -/
theorem Grows.trans (h : graphics.Grows count now) (hlater : now.Grows more later) :
    graphics.Grows (count + more) later where
  objects := by
    obtain ⟨first, hfirst, hcount⟩ := h.objects
    obtain ⟨second, hsecond, hmore⟩ := hlater.objects
    refine ⟨first ++ second, by rw [hsecond, hfirst, List.append_assoc], ?_⟩
    rw [List.length_append]
    omega
  misreports := hlater.misreports.trans h.misreports
  refused := hlater.refused.trans h.refused

/-- A table that grows stays honest. -/
theorem Grows.honest (h : graphics.Grows count later) (hhonest : graphics.Honest) : later.Honest :=
  ⟨h.misreports.trans hhonest.misreports, h.refused.trans hhonest.refused⟩

/-- A table that grows has fewer handles to spare. -/
theorem Grows.spares (h : graphics.Grows count later) (hroom : graphics.Spares (count + more)) :
    later.Spares more := by
  obtain ⟨objects, hobjects, hlength⟩ := h.objects
  unfold Spares at hroom ⊢
  rw [hobjects, List.length_append]
  omega

theorem honest_solo (object : Option Object) : (solo object).Honest := ⟨rfl, rfl⟩

theorem spares_solo (object : Option Object) : (solo object).Spares 1 := by
  unfold Spares
  cases object <;> simp [solo]

/-- The single object is the first one. -/
@[simp] theorem object?_solo (object : Option Object) :
    (solo object).object? .first = object := by
  cases object <;> rfl

end Graphics

section

variable {graphics later : Graphics} {kind : BitsKind} {bytes : Bytes} {object : Object}
  {handle : Handle}

/-- An object that is taken is one more. -/
theorem Graphics.Gains.grows (h : graphics.Gains object handle later) : graphics.Grows 1 later :=
  ⟨⟨[object], h.objects, Nat.le_refl 1⟩, h.misreports, h.refused⟩

namespace Graphics.Honest

variable {α : Type} (h : graphics.Honest) (hroom : graphics.Spares 1)

include h

/-- Flat forms depend on the object alone. -/
theorem fetch?_solo :
    (Graphics.solo (graphics.object? handle)).fetch? kind .first =
      graphics.fetch? kind handle := by
  rw [h.fetch?_eq, (Graphics.honest_solo _).fetch?_eq, Graphics.bits?, Graphics.object?_solo,
    Graphics.bits?]

theorem extract?_solo (size : Nat) :
    (Graphics.solo (graphics.object? handle)).extract? kind .first size =
      graphics.extract? kind handle size := by
  rw [h.extract?_eq, (Graphics.honest_solo _).extract?_eq, Graphics.bits?, Graphics.object?_solo,
    Graphics.bits?]

include hroom

/-- What is done with a rebuilt object depends on the flat form alone, if it does not depend on the
handle. -/
theorem rebuild_bind (format : Format) {next : Handle × Graphics → Except PayloadError α}
    {seen : Object → Except PayloadError α}
    (hnext : ∀ object handle later, graphics.Gains object handle later →
      next (handle, later) = seen object) :
    Data.rebuild graphics format kind bytes >>= next =
      match Object.ofBits? kind bytes with
      | some object => seen object
      | none => .error (.reconstruct format) := by
  cases hobject : Object.ofBits? kind bytes with
  | none =>
      rw [Data.rebuild, h.reconstruct?_eq, hobject]
      rfl
  | some object =>
      obtain ⟨handle, later, hrebuild, hgains⟩ := h.exists_rebuild hroom format hobject
      rw [hrebuild]
      exact hnext object handle later hgains

end Graphics.Honest

end

namespace Data

variable {graphics later : Graphics} {format : Format} {payload : Bytes}
  {data : Data}

/-- What is seen of a result and the table that comes with it. -/
def seen (result : Data × Graphics) : Sight := result.1.sight result.2

/-! ## Decoding -/

/-- What is seen of the value of a payload. -/
def decoded (format : Format) (payload : Bytes) : Except PayloadError Sight :=
  seen <$> decode .empty format payload

section

variable {other : Graphics} (h : graphics.Honest) (hroom : graphics.Spares 1)
  (hother : other.Honest) (hspare : other.Spares 1)

include h hroom hother hspare

/-- A rebuilt object is seen to be that of the flat form, whatever table it is rebuilt in. -/
theorem seen_rebuild (format : Format) (kind : BitsKind) (flat : Bytes) (wrap : Handle → Data)
    (hhandle : ∀ handle, (wrap handle).handle? = some handle)
    (hname : ∀ handle, (wrap handle).nameless = (wrap .first).nameless) :
    (seen <$> do
      let (handle, later) ← rebuild graphics format kind flat
      return (wrap handle, later)) =
    (seen <$> do
      let (handle, later) ← rebuild other format kind flat
      return (wrap handle, later)) := by
  have hgained {table : Graphics} (object : Object) (handle : Handle) (later : Graphics)
      (hgains : table.Gains object handle later) :
      seen <$> (pure (wrap handle, later) : Except PayloadError _) =
        .ok ((wrap .first).nameless, some object) := by
    show Except.ok (sight later (wrap handle)) = _
    rw [sight, hname, hhandle, Option.bind_some, hgains.found]
  rw [map_bind, map_bind]
  exact (h.rebuild_bind hroom format hgained).trans (hother.rebuild_bind hspare format hgained).symm

/-- A decoded bitmap looks the same in any two honest tables with room for it. -/
theorem seen_decodeBitmap (format : Format) (payload : Bytes) :
    seen <$> decodeBitmap graphics format payload = seen <$> decodeBitmap other format payload := by
  unfold decodeBitmap
  split
  · rfl
  · split
    · rfl
    · split
      · rfl
      · split
        · rfl
        · exact seen_rebuild h hroom hother hspare _ _ _ bitmap (fun _ => rfl) fun _ => rfl

theorem seen_decodePalette (format : Format) (payload : Bytes) :
    seen <$> decodePalette graphics format payload =
      seen <$> decodePalette other format payload := by
  unfold decodePalette
  split
  · rfl
  · dsimp only
    split
    · rfl
    · exact seen_rebuild h hroom hother hspare _ _ _ palette (fun _ => rfl) fun _ => rfl

theorem seen_decodePict (format : Format) (payload : Bytes) :
    seen <$> decodePict graphics format payload = seen <$> decodePict other format payload := by
  unfold decodePict
  split
  · rfl
  · split
    · rfl
    · rename_i pict _
      exact seen_rebuild h hroom hother hspare _ _ _
        (fun handle => metafilePict { pict with metafile := some handle }) (fun _ => rfl)
        fun _ => rfl

end

/-- What is seen of a decoded value depends on the payload alone. -/
theorem seen_decode (h : graphics.Honest) (hroom : graphics.Spares 1) (format : Format)
    (payload : Bytes) : seen <$> decode graphics format payload = decoded format payload := by
  have hempty : Graphics.Spares .empty 1 := Graphics.spares_solo none
  unfold decoded decode
  cases format.shape with
  | memory => rfl
  | bitmap =>
      dsimp only
      split
      · rfl
      · exact seen_decodeBitmap h hroom Graphics.honest_empty hempty _ _
  | palette => exact seen_decodePalette h hroom Graphics.honest_empty hempty _ _
  | enhMetafile =>
      exact seen_rebuild h hroom Graphics.honest_empty hempty _ _ _ enhMetafile (fun _ => rfl)
        fun _ => rfl
  | metafilePict => exact seen_decodePict h hroom Graphics.honest_empty hempty _ _

/-- Where two computations succeed one after the other, each does. -/
theorem exists_of_bind {ε α β : Type} {first : Except ε α} {next : α → Except ε β} {value : β}
    (h : first >>= next = .ok value) : ∃ middle, first = .ok middle ∧ next middle = .ok value := by
  cases first with
  | error error => cases h
  | ok middle => exact ⟨middle, rfl, h⟩

/-- A value with a rebuilt object names the object of the flat form. -/
theorem exists_of_rebuild {kind : BitsKind} {flat : Bytes} (wrap : Handle → Data)
    (h : (do
      let (handle, later) ← rebuild graphics format kind flat
      return (wrap handle, later)) = Except.ok (data, later)) :
    ∃ handle object, data = wrap handle ∧ Object.ofBits? kind flat = some object ∧
      graphics.Gains object handle later := by
  obtain ⟨⟨handle, grown⟩, hrebuild, h⟩ := exists_of_bind h
  cases h
  unfold rebuild at hrebuild
  split at hrebuild
  · rename_i rebuilt hrebuilt
    cases hrebuild
    obtain ⟨object, hobject, hgains⟩ := Graphics.exists_of_reconstruct? hrebuilt
    exact ⟨handle, object, rfl, hobject, hgains⟩
  · cases hrebuild

/-- A value with a rebuilt object names an object that the table took. -/
theorem gains_of_rebuild {kind : BitsKind} {flat : Bytes} (wrap : Handle → Data)
    (hwrap : ∀ handle, (wrap handle).handle? = some handle)
    (h : (do
      let (handle, later) ← rebuild graphics format kind flat
      return (wrap handle, later)) = Except.ok (data, later)) :
    ∃ handle object, data.handle? = some handle ∧ graphics.Gains object handle later := by
  obtain ⟨handle, object, rfl, -, hgains⟩ := exists_of_rebuild wrap h
  exact ⟨handle, object, hwrap handle, hgains⟩

/-- A decoded value is the payload itself, or it names an object that the table took. -/
theorem exists_of_decode (h : decode graphics format payload = .ok (data, later)) :
    (data = bytes payload ∧ later = graphics) ∨
      ∃ handle object, data.handle? = some handle ∧ graphics.Gains object handle later := by
  unfold decode at h
  cases hshape : format.shape with
  | memory =>
      simp only [hshape, Except.ok.injEq, Prod.mk.injEq] at h
      exact .inl ⟨h.1.symm, h.2.symm⟩
  | bitmap =>
      simp only [hshape, decodeBitmap] at h
      iterate 5 (split at h; · cases h)
      exact .inr (gains_of_rebuild bitmap (fun _ => rfl) h)
  | palette =>
      simp only [hshape, decodePalette] at h
      split at h
      · cases h
      · split at h
        · cases h
        · exact .inr (gains_of_rebuild palette (fun _ => rfl) h)
  | enhMetafile =>
      simp only [hshape] at h
      exact .inr (gains_of_rebuild enhMetafile (fun _ => rfl) h)
  | metafilePict =>
      simp only [hshape, decodePict] at h
      split at h
      · cases h
      · split at h
        · cases h
        · rename_i pict _
          exact .inr (gains_of_rebuild (fun handle =>
            metafilePict { pict with metafile := some handle }) (fun _ => rfl) h)

/-- A decoded value adds one object at most. -/
theorem grows_of_decode (h : decode graphics format payload = .ok (data, later)) :
    graphics.Grows 1 later := by
  rcases exists_of_decode h with ⟨-, rfl⟩ | ⟨handle, object, -, hgains⟩
  · exact .refl _ _
  · exact hgains.grows

/-! ## Encoding -/

/-- Whether a value can be encoded as far as is seen of it, or why not. -/
def encodable (format : Format) (sight : Sight) : Except PayloadError Unit :=
  ((fun _ => ()) <$> sight.1.encode (.solo sight.2) format).mapError PayloadError.nameless

section

variable (h : graphics.Honest)

include h

/-- How large the payload of a bitmap is, or why there is none, depends on the object alone. -/
theorem length_encodeBitmap (handle : Handle) :
    (List.length <$> encodeBitmap graphics handle).mapError PayloadError.nameless =
      (List.length <$> encodeBitmap (.solo (graphics.object? handle)) .first).mapError
        PayloadError.nameless := by
  simp only [encodeBitmap, Graphics.fetch, h.fetch?_solo]
  cases graphics.fetch? .bitmapHeader handle with
  | none => rfl
  | some flat =>
      simp only [bind, Except.bind]
      cases BitmapHeader.parse? flat with
      | none => rfl
      | some header =>
          simp only [h.extract?_solo]
          cases graphics.extract? .bitmapBits handle header.bitsSize <;> rfl

/-- The same holds of a palette. -/
theorem length_encodePalette (handle : Handle) :
    (List.length <$> encodePalette graphics handle).mapError PayloadError.nameless =
      (List.length <$> encodePalette (.solo (graphics.object? handle)) .first).mapError
        PayloadError.nameless := by
  simp only [encodePalette, Graphics.fetch, h.fetch?_solo]
  cases graphics.fetch? .palette handle <;> rfl

/-- The same holds of a picture, whose header has the same size whatever metafile it names. -/
theorem length_encodePict (format : Format) (pict : MetafilePict) :
    (List.length <$> encodePict graphics format pict).mapError PayloadError.nameless =
      (List.length <$> encodePict (.solo (pict.metafile.bind graphics.object?)) format
        { pict with metafile := pict.metafile.map fun _ => .first }).mapError
        PayloadError.nameless := by
  cases hmetafile : pict.metafile with
  | none => simp only [encodePict, hmetafile, Option.map_none]
  | some handle =>
      simp only [encodePict, hmetafile, Option.bind_some, Option.map_some, Graphics.fetch,
        h.fetch?_solo]
      cases graphics.fetch? .metafile handle with
      | none => rfl
      | some bits =>
          simp only [bind, Except.bind, Functor.map, Except.map, pure, Except.pure,
            List.length_append, MetafilePict.length_write]

/-- How large the flat form of a value is, or why there is none, without regard to the handle. -/
theorem length_flatten (format : Format) (data : Data) :
    (List.length <$> data.flatten graphics format).mapError PayloadError.nameless =
      (List.length <$> data.nameless.flatten (.solo (data.sight graphics).2) format).mapError
        PayloadError.nameless := by
  unfold flatten
  cases data with
  | bytes data => cases format.shape <;> rfl
  | bitmap handle =>
      cases format.shape with
      | bitmap => exact length_encodeBitmap h handle
      | memory | palette | enhMetafile | metafilePict => rfl
  | palette handle =>
      cases format.shape with
      | palette => exact length_encodePalette h handle
      | memory | bitmap | enhMetafile | metafilePict => rfl
  | enhMetafile handle =>
      cases format.shape with
      | enhMetafile =>
          simp only [nameless, sight, handle?, Option.bind_some, Graphics.fetch, h.fetch?_solo]
          cases graphics.fetch? .enhMetafile handle <;> rfl
      | memory | bitmap | palette | metafilePict => rfl
  | metafilePict pict =>
      cases format.shape with
      | metafilePict => exact length_encodePict h format pict
      | memory | bitmap | palette | enhMetafile => rfl

end

/-- Only the size of the flat form counts. -/
theorem encode_of_length (graphics : Graphics) (format : Format) (data : Data) :
    ((fun _ => ()) <$> data.encode graphics format).mapError PayloadError.nameless =
      ((List.length <$> data.flatten graphics format).mapError PayloadError.nameless >>= fun size =>
        if size < 4294967296 then .ok () else .error (.tooLarge size)) := by
  unfold encode
  cases data.flatten graphics format with
  | error error => rfl
  | ok payload =>
      show ((fun _ => ()) <$> if payload.length < 4294967296 then
          (pure payload : Except PayloadError Bytes) else throw (.tooLarge payload.length)).mapError
        PayloadError.nameless =
        if payload.length < 4294967296 then .ok () else .error (.tooLarge payload.length)
      split <;> rfl

/-- Whether a value can be encoded shows in what is seen of it. -/
theorem encodable_sight (h : graphics.Honest) (format : Format) (data : Data) :
    ((fun _ => ()) <$> data.encode graphics format).mapError PayloadError.nameless =
      encodable format (data.sight graphics) := by
  rw [encode_of_length, length_flatten h, encodable, encode_of_length]
  rfl

/-- A copy is seen to be what it is a copy of, unless it is a palette. -/
theorem Copies.sight_eq {sender receiver : Graphics} {copy : Data}
    (h : Copies sender receiver later data copy) (hpalette : ∀ handle, data ≠ .palette handle) :
    copy.sight later = data.sight sender := by
  cases h with
  | bytes => rfl
  | bitmap hobject hgains | enhMetafile hobject hgains =>
      simp only [sight, nameless, handle?, Option.bind_some, hgains.found, hobject]
  | palette => exact False.elim (hpalette _ rfl)
  | metafilePict hmetafile hobject hgains =>
      simp only [sight, nameless, handle?, Option.bind_some, hgains.found, hobject, hmetafile,
        Option.map_some]

/-- A payload made of a sound value, unless it is a palette, is seen to hold that value. -/
theorem decoded_of_encode (h : graphics.Honest) (hformat : format ≠ Format.dspBitmap)
    (hshape : format.shape ≠ .palette)
    (hsound : ∀ handle object, data.handle? = some handle →
      graphics.object? handle = some object → object.Sound)
    (hencode : data.encode graphics format = .ok payload) :
    decoded format payload = .ok (data.sight graphics) := by
  obtain ⟨copy, later, hdecode, hcopies⟩ := exists_copy_of_encode h Graphics.honest_empty
    (Graphics.spares_solo none) hformat hsound hencode
  have hpalette : ∀ handle, data ≠ palette handle := by
    rintro handle rfl
    have hflat := flatten_of_encode hencode
    unfold flatten at hflat
    cases hcase : format.shape with
    | palette => exact hshape hcase
    | memory | bitmap | enhMetafile | metafilePict => simp [hcase] at hflat
  have hdecode' : decode .empty format payload = .ok (copy, later) := hdecode
  rw [decoded, hdecode']
  exact congrArg Except.ok (hcopies.sight_eq hpalette)

end Data

end Pasteboard

import Pasteboard.Payload
import Pasteboard.Proofs.Picture.Headers

/-!
# Payloads of values

A value never has an empty payload: `Data.encode_ne_nil`. So an entry that a client put as a value
is no placeholder. `Format.Accepts` says which byte strings can be put under a format.
-/

namespace Pasteboard

variable {graphics : Graphics} {format : Format} {payload : Bytes}

/-- A form of an object is fetched only if it has a size. -/
theorem Graphics.fetch_ne_nil {kind : BitsKind} {handle : Handle}
    (h : graphics.fetch kind handle = .ok payload) : payload ≠ [] := by
  unfold Graphics.fetch at h
  cases hfetch : graphics.fetch? kind handle with
  | none => simp [hfetch] at h
  | some bits =>
      simp only [hfetch, Except.ok.injEq] at h
      subst h
      simp only [Graphics.fetch?] at hfetch
      split at hfetch
      · cases hfetch
      · rename_i hsize
        simp only [Graphics.extract?, Option.filter_eq_some_iff] at hfetch
        have hlength : bits.length = graphics.querySize kind handle := by simpa using hfetch.2
        intro hnil
        rw [hnil] at hlength
        exact hsize hlength.symm

/-- A byte string that can be put under a format: it is not empty, and its size can be sent. -/
structure Format.Accepts (format : Format) (data : Bytes) : Prop where
  ne_null : format ≠ Format.null
  ne_nil : data ≠ []
  length_lt : data.length < 4294967296

namespace Data

theorem encodeBitmap_ne_nil {handle : Handle} (h : encodeBitmap graphics handle = .ok payload) :
    payload ≠ [] := by
  unfold encodeBitmap at h
  cases hfetch : graphics.fetch .bitmapHeader handle with
  | error => simp [hfetch, bind, Except.bind] at h
  | ok flat =>
      simp only [hfetch, bind, Except.bind] at h
      split at h
      · cases h
      · rename_i header _
        split at h
        · cases h
        · cases h
          have hlength := header.length_write
          intro hnil
          rw [(List.append_eq_nil_iff.1 hnil).1] at hlength
          cases hlength

theorem encodePalette_ne_nil {handle : Handle} (h : encodePalette graphics handle = .ok payload) :
    payload ≠ [] := by
  unfold encodePalette at h
  cases hfetch : graphics.fetch .palette handle with
  | error => simp [hfetch, bind, Except.bind] at h
  | ok entries =>
      simp only [hfetch, bind, Except.bind] at h
      split at h
      · cases h
        exact List.cons_ne_nil _ _
      · cases h

theorem encodePict_ne_nil {pict : MetafilePict}
    (h : encodePict graphics format pict = .ok payload) : payload ≠ [] := by
  unfold encodePict at h
  split at h
  · cases h
  · rename_i handle _
    cases hfetch : graphics.fetch .metafile handle with
    | error => simp [hfetch, bind, Except.bind] at h
    | ok bits =>
        simp only [hfetch, bind, Except.bind] at h
        cases h
        have hlength := pict.length_write
        intro hnil
        rw [(List.append_eq_nil_iff.1 hnil).1] at hlength
        cases hlength

theorem flatten_ne_nil {data : Data} (h : data.flatten graphics format = .ok payload) :
    payload ≠ [] := by
  unfold flatten at h
  split at h
  · exact encodeBitmap_ne_nil h
  · exact encodePalette_ne_nil h
  · exact Graphics.fetch_ne_nil h
  · exact encodePict_ne_nil h
  · split at h
    · cases h
    · rename_i hfull
      cases h
      simpa using hfull
  · cases h

theorem flatten_of_encode {data : Data} (h : data.encode graphics format = .ok payload) :
    data.flatten graphics format = .ok payload := by
  unfold encode at h
  cases hflat : data.flatten graphics format with
  | error => simp [hflat, bind, Except.bind] at h
  | ok flat =>
      simp only [hflat, bind, Except.bind] at h
      split at h
      · cases h
        rfl
      · cases h

/-- No value has an empty payload. -/
theorem encode_ne_nil {data : Data} (h : data.encode graphics format = .ok payload) :
    payload ≠ [] :=
  flatten_ne_nil (flatten_of_encode h)

/-- Only a memory format takes a byte string, which is its own payload. -/
theorem encode_bytes {data : Bytes} (h : (bytes data).encode graphics format = .ok payload) :
    format.shape = .memory ∧ payload = data := by
  have hflat := flatten_of_encode h
  unfold flatten at hflat
  cases hshape : format.shape with
  | memory =>
      simp only [hshape] at hflat
      split at hflat
      · cases hflat
      · cases hflat
        exact ⟨rfl, rfl⟩
  | bitmap | palette | enhMetafile | metafilePict => simp [hshape] at hflat

/-- A byte string that is accepted is its own payload. -/
theorem encode_of_accepts {data : Bytes} (graphics : Graphics) (hmemory : format.shape = .memory)
    (haccepts : format.Accepts data) : (bytes data).encode graphics format = .ok data := by
  have hflat : (bytes data).flatten graphics format = .ok data := by
    simp [flatten, hmemory, haccepts.ne_nil]
  rw [encode, hflat]
  exact if_pos haccepts.length_lt

/-- A byte string whose size does not fit its field has no payload. -/
theorem encode_of_le_length {data : Bytes} (graphics : Graphics) (hmemory : format.shape = .memory)
    (hne : data ≠ []) (hlong : 4294967296 ≤ data.length) :
    (bytes data).encode graphics format = .error (.tooLarge data.length) := by
  have hflat : (bytes data).flatten graphics format = .ok data := by
    simp [flatten, hmemory, hne]
  rw [encode, hflat]
  exact if_neg (Nat.not_lt.2 hlong)

/-- A byte string that has a payload is accepted under the format. -/
theorem accepts_of_encode {data : Bytes} (hformat : format ≠ Format.null)
    (h : (bytes data).encode graphics format = .ok payload) : format.Accepts data := by
  obtain rfl := (encode_bytes h).2
  refine ⟨hformat, encode_ne_nil h, Decidable.byContradiction fun hlong => ?_⟩
  rw [encode, flatten_of_encode h] at h
  exact absurd (h.symm.trans (if_neg hlong)) (by simp)

end Data

end Pasteboard

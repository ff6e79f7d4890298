/-!
# Bytes and little-endian words

Headers and messages are laid out as little-endian words of 16, 32 or 64 bits. `Bytes.ofNat`
writes the lowest bytes of a number and `Bytes.toNat` reads them back; the readers take one word
off the front of a byte string and return what follows it, so layouts are read field by field.
The lemmas say that each reader inverts its writer in both directions.
-/

namespace Pasteboard

/-- A byte string. -/
abbrev Bytes := List UInt8

namespace Bytes

/-- The lowest `count` bytes of a number, lowest first. -/
def ofNat : Nat → Nat → Bytes
  | 0, _ => []
  | count + 1, n => UInt8.ofNat n :: ofNat count (n / 256)

/-- The number that a byte string spells, lowest byte first. -/
def toNat : Bytes → Nat
  | [] => 0
  | b :: rest => b.toNat + 256 * toNat rest

/-- A number is written in as many bytes as are asked for. -/
@[simp] theorem length_ofNat (count n : Nat) : (ofNat count n).length = count := by
  induction count generalizing n with
  | zero => rfl
  | succ count ih => simp [ofNat, ih]

/-- Writing keeps the number modulo the width written. -/
theorem toNat_ofNat (count n : Nat) : toNat (ofNat count n) = n % Nat.pow 256 count := by
  induction count generalizing n with
  | zero => simp [ofNat, toNat, Nat.mod_one]
  | succ count ih =>
    have hbyte : n % 2 ^ 8 = n % 256 := rfl
    rw [ofNat, toNat, ih, UInt8.toNat_ofNat', hbyte, Nat.pow_eq, Nat.pow_eq, Nat.pow_succ',
      Nat.mod_mul]

/-- Every byte string is written by its own number. -/
theorem ofNat_toNat (bytes : Bytes) : ofNat bytes.length (toNat bytes) = bytes := by
  induction bytes with
  | nil => rfl
  | cons b rest ih =>
    have hb : b.toNat < 256 := b.toNat_lt
    have hmod : UInt8.ofNat (b.toNat + 256 * toNat rest) = b := by
      apply UInt8.toNat_inj.1
      rw [UInt8.toNat_ofNat']
      omega
    have hdiv : (b.toNat + 256 * toNat rest) / 256 = toNat rest := by omega
    rw [List.length_cons, ofNat, toNat, hmod, hdiv, ih]

/-- Bytes stand for a number that fits as many of them. -/
theorem toNat_lt (bytes : Bytes) : toNat bytes < Nat.pow 256 bytes.length := by
  induction bytes with
  | nil => simp [toNat]
  | cons b rest ih =>
    have hb : b.toNat < 256 := b.toNat_lt
    rw [Nat.pow_eq] at ih
    rw [toNat, List.length_cons, Nat.pow_eq, Nat.pow_succ']
    omega

/-- A 16-bit word. -/
def ofU16 (word : UInt16) : Bytes := ofNat 2 word.toNat

/-- A 32-bit word. -/
def ofU32 (word : UInt32) : Bytes := ofNat 4 word.toNat

/-- A 64-bit word. -/
def ofU64 (word : UInt64) : Bytes := ofNat 8 word.toNat

/-- A signed 32-bit word, in two's complement. -/
def ofI32 (word : Int32) : Bytes := ofU32 word.toUInt32

/-- Reads one 16-bit word. -/
def u16? : Bytes → Option (UInt16 × Bytes)
  | a :: b :: rest => some (UInt16.ofNat (toNat [a, b]), rest)
  | _ => none

/-- Reads one 32-bit word. -/
def u32? : Bytes → Option (UInt32 × Bytes)
  | a :: b :: c :: d :: rest => some (UInt32.ofNat (toNat [a, b, c, d]), rest)
  | _ => none

/-- Reads one 64-bit word. -/
def u64? : Bytes → Option (UInt64 × Bytes)
  | a :: b :: c :: d :: e :: f :: g :: h :: rest =>
    some (UInt64.ofNat (toNat [a, b, c, d, e, f, g, h]), rest)
  | _ => none

/-- Reads one signed 32-bit word. -/
def i32? (bytes : Bytes) : Option (Int32 × Bytes) :=
  (u32? bytes).map fun (word, rest) => (word.toInt32, rest)

@[simp] theorem length_ofU16 (word : UInt16) : (ofU16 word).length = 2 := length_ofNat ..

@[simp] theorem length_ofU32 (word : UInt32) : (ofU32 word).length = 4 := length_ofNat ..

@[simp] theorem length_ofU64 (word : UInt64) : (ofU64 word).length = 8 := length_ofNat ..

@[simp] theorem length_ofI32 (word : Int32) : (ofI32 word).length = 4 := length_ofNat ..

@[simp] theorem u16?_ofU16 (word : UInt16) (rest : Bytes) :
    u16? (ofU16 word ++ rest) = some (word, rest) := by
  have h : toNat (ofNat 2 word.toNat) = word.toNat % 65536 := toNat_ofNat 2 word.toNat
  have hw : word.toNat < 65536 := word.toNat_lt
  rw [Nat.mod_eq_of_lt (by omega)] at h
  simp only [ofNat] at h
  simp only [ofU16, ofNat, List.cons_append, List.nil_append, u16?, h, UInt16.ofNat_toNat]

@[simp] theorem u32?_ofU32 (word : UInt32) (rest : Bytes) :
    u32? (ofU32 word ++ rest) = some (word, rest) := by
  have h : toNat (ofNat 4 word.toNat) = word.toNat % 4294967296 := toNat_ofNat 4 word.toNat
  have hw : word.toNat < 4294967296 := word.toNat_lt
  rw [Nat.mod_eq_of_lt (by omega)] at h
  simp only [ofNat] at h
  simp only [ofU32, ofNat, List.cons_append, List.nil_append, u32?, h, UInt32.ofNat_toNat]

@[simp] theorem u64?_ofU64 (word : UInt64) (rest : Bytes) :
    u64? (ofU64 word ++ rest) = some (word, rest) := by
  have h : toNat (ofNat 8 word.toNat) = word.toNat % 18446744073709551616 :=
    toNat_ofNat 8 word.toNat
  have hw : word.toNat < 18446744073709551616 := word.toNat_lt
  rw [Nat.mod_eq_of_lt (by omega)] at h
  simp only [ofNat] at h
  simp only [ofU64, ofNat, List.cons_append, List.nil_append, u64?, h, UInt64.ofNat_toNat]

@[simp] theorem i32?_ofI32 (word : Int32) (rest : Bytes) :
    i32? (ofI32 word ++ rest) = some (word, rest) := by
  simp [i32?, ofI32]

/-- A 16-bit word that was read stands at the front. -/
theorem eq_of_u16? {bytes rest : Bytes} {word : UInt16} (h : u16? bytes = some (word, rest)) :
    bytes = ofU16 word ++ rest := by
  match bytes with
  | [] | [_] => simp [u16?] at h
  | a :: b :: tail =>
    simp only [u16?, Option.some.injEq, Prod.mk.injEq] at h
    obtain ⟨rfl, rfl⟩ := h
    have hlt := toNat_lt [a, b]
    have key := ofNat_toNat [a, b]
    simp only [List.length_cons, List.length_nil] at hlt key
    rw [ofU16, UInt16.toNat_ofNat', Nat.mod_eq_of_lt (by omega), key]
    rfl

/-- A 32-bit word that was read stands at the front. -/
theorem eq_of_u32? {bytes rest : Bytes} {word : UInt32} (h : u32? bytes = some (word, rest)) :
    bytes = ofU32 word ++ rest := by
  match bytes with
  | [] | [_] | [_, _] | [_, _, _] => simp [u32?] at h
  | a :: b :: c :: d :: tail =>
    simp only [u32?, Option.some.injEq, Prod.mk.injEq] at h
    obtain ⟨rfl, rfl⟩ := h
    have hlt := toNat_lt [a, b, c, d]
    have key := ofNat_toNat [a, b, c, d]
    simp only [List.length_cons, List.length_nil] at hlt key
    rw [ofU32, UInt32.toNat_ofNat', Nat.mod_eq_of_lt (by omega), key]
    rfl

/-- A 32-bit word can be read if and only if four bytes are there. -/
theorem u32?_eq_none_iff {bytes : Bytes} : u32? bytes = none ↔ bytes.length < 4 := by
  match bytes with
  | [] | [_] | [_, _] | [_, _, _] => simp [u32?]
  | _ :: _ :: _ :: _ :: _ => simp [u32?]

/-- Cuts a byte string into rows of `size` bytes; the last row may be shorter. A size of zero counts
as one here, so that every byte string can be cut. A program stops when it is to cut rows of no
bytes: what depends on that, such as a packed bitmap of the width zero that is to become a bitmap,
has no result there. -/
def rows (size : Nat) : Bytes → List Bytes
  | [] => []
  | b :: rest => (b :: rest.take (size - 1)) :: rows size (rest.drop (size - 1))
termination_by bytes => bytes.length
decreasing_by
  simp only [List.length_drop, List.length_cons]
  omega

/-- Cuts or fills up with zeros to exactly `size` bytes. -/
def resize (size : Nat) (bytes : Bytes) : Bytes :=
  bytes.take size ++ List.replicate (size - bytes.length) 0

end Bytes

end Pasteboard

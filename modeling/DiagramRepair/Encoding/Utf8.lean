import DiagramRepair.Text.Basic

/-! UTF-8. Any bytes can be read: as characters, as surrogates in the three-byte form that
well-formed UTF-8 excludes, and as stray bytes that belong to neither.
-/

namespace DiagramRepair.Encoding

abbrev Bytes := List UInt8

/-- What a position in a sequence of bytes holds. -/
inductive Utf8Unit where
  | character (c : Char)
  | surrogate (code : Nat)
  | stray (byte : UInt8)

/-- The six low bits of a continuation byte. -/
def continuation? (byte : UInt8) : Option Nat :=
  if 0x80 ≤ byte && byte ≤ 0xBF then some (byte.toNat - 0x80) else none

/-- The continuation bytes at the start of a sequence, `count` of them, added to the bits
before them, and what follows. -/
def continuations? : (count code : Nat) → Bytes → Option (Nat × Bytes)
  | 0, code, rest => some (code, rest)
  | _ + 1, _, [] => none
  | count + 1, code, byte :: rest =>
      (continuation? byte).bind fun bits => continuations? count (64 * code + bits) rest

/-- The length of the sequence that a byte leads, counted without it, its own bits, and the
least code point that needs the length. -/
def leadByte? (byte : UInt8) : Option (Nat × Nat × Nat) :=
  if byte < 0x80 then some (0, byte.toNat, 0)
  else if 0xC0 ≤ byte && byte < 0xE0 then some (1, byte.toNat - 0xC0, 0x80)
  else if 0xE0 ≤ byte && byte < 0xF0 then some (2, byte.toNat - 0xE0, 0x800)
  else if 0xF0 ≤ byte && byte < 0xF8 then some (3, byte.toNat - 0xF0, 0x10000)
  else none

def isSurrogate (code : Nat) : Bool :=
  0xD800 ≤ code && code ≤ 0xDFFF

/-- The unit that starts with a byte, and what follows it. -/
def utf8Unit (byte : UInt8) (rest : Bytes) : Utf8Unit × Bytes :=
  match leadByte? byte with
  | none => (.stray byte, rest)
  | some (count, bits, least) =>
      match continuations? count bits rest with
      | none => (.stray byte, rest)
      | some (code, behind) =>
          if code < least || 0x110000 ≤ code then (.stray byte, rest)
          else if isSurrogate code then (.surrogate code, behind)
          else (.character (Char.ofNat code), behind)

theorem length_le_of_continuations? {count code result : Nat} {bytes rest : Bytes}
    (h : continuations? count code bytes = some (result, rest))
    : rest.length ≤ bytes.length := by
  induction count generalizing code bytes with
  | zero =>
      obtain ⟨rfl, rfl⟩ := Prod.mk.inj (Option.some.inj h)
      exact Nat.le_refl _
  | succ count ih =>
      cases bytes with
      | nil => simp [continuations?] at h
      | cons byte bytes =>
          obtain ⟨bits, _, hrest⟩ := Option.bind_eq_some_iff.1 h
          have := ih hrest
          simp only [List.length_cons]
          omega

theorem length_utf8Unit_le (byte : UInt8) (rest : Bytes)
    : (utf8Unit byte rest).2.length ≤ rest.length := by
  unfold utf8Unit
  split
  · exact Nat.le_refl _
  · split
    · exact Nat.le_refl _
    · rename_i hrest
      have := length_le_of_continuations? hrest
      split
      · exact Nat.le_refl _
      · split <;> exact this

def utf8Units : Bytes → List Utf8Unit
  | [] => []
  | byte :: rest =>
      let unit := utf8Unit byte rest
      unit.1 :: utf8Units unit.2
termination_by bytes => bytes.length
decreasing_by
  have := length_utf8Unit_le byte rest
  simp only [List.length_cons]
  omega

def encodeUtf8 (text : Text) : Bytes :=
  text.flatMap String.utf8EncodeChar

end DiagramRepair.Encoding

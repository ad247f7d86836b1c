import DiagramRepair.Encoding.StandIn

/-! Finding out how a text is encoded that starts with an ASCII character: by its byte order
mark, or else by where zero bytes stand among its first four bytes. A text may hold halves of
surrogate pairs; it can be read as far as there are characters that stand in for them.
-/

namespace DiagramRepair.Encoding

inductive ByteOrder where
  | bigEndian
  | littleEndian
  deriving DecidableEq

inductive UnicodeForm where
  | utf8
  | utf16 (order : ByteOrder)
  | utf32 (order : ByteOrder)
  deriving DecidableEq

/-- The form of the bytes, and the bytes without a byte order mark. -/
def detect : Bytes → UnicodeForm × Bytes
  | 0x00 :: 0x00 :: 0xFE :: 0xFF :: rest => (.utf32 .bigEndian, rest)
  | 0xFF :: 0xFE :: 0x00 :: 0x00 :: rest => (.utf32 .littleEndian, rest)
  | 0xFE :: 0xFF :: rest => (.utf16 .bigEndian, rest)
  | 0xFF :: 0xFE :: rest => (.utf16 .littleEndian, rest)
  | 0xEF :: 0xBB :: 0xBF :: rest => (.utf8, rest)
  | a :: b :: c :: d :: rest =>
      let form :=
        if a = 0 then
          if b = 0 then .utf32 .bigEndian else .utf16 .bigEndian
        else if b = 0 then
          if c = 0 ∧ d = 0 then .utf32 .littleEndian else .utf16 .littleEndian
        else .utf8
      (form, a :: b :: c :: d :: rest)
  | [a, b] =>
      let form :=
        if a = 0 then .utf16 .bigEndian
        else if b = 0 then .utf16 .littleEndian
        else .utf8
      (form, [a, b])
  | bytes => (.utf8, bytes)

/-- Two bytes as a number. -/
def ByteOrder.unit16 : ByteOrder → UInt8 → UInt8 → Nat
  | .bigEndian, a, b => 256 * a.toNat + b.toNat
  | .littleEndian, a, b => a.toNat + 256 * b.toNat

/-- Four bytes as a number. -/
def ByteOrder.unit32 : ByteOrder → UInt8 → UInt8 → UInt8 → UInt8 → Nat
  | .bigEndian, a, b, c, d =>
      65536 * ByteOrder.bigEndian.unit16 a b + ByteOrder.bigEndian.unit16 c d
  | .littleEndian, a, b, c, d =>
      ByteOrder.littleEndian.unit16 a b + 65536 * ByteOrder.littleEndian.unit16 c d

/-- The sixteen-bit units of an even number of bytes. -/
def units16? (order : ByteOrder) : Bytes → Option (List Nat)
  | [] => some []
  | [_] => none
  | a :: b :: rest => (units16? order rest).map (order.unit16 a b :: ·)

def isHighSurrogate (unit : Nat) : Bool :=
  0xD800 ≤ unit && unit ≤ 0xDBFF

def isLowSurrogate (unit : Nat) : Bool :=
  0xDC00 ≤ unit && unit ≤ 0xDFFF

/-- The character of a surrogate pair. -/
def pairChar (high low : Nat) : Char :=
  Char.ofNat (0x10000 + 1024 * (high - 0xD800) + (low - 0xDC00))

/-- The character of a code, or the one that stands in for a half. -/
def charOfCode? (standIns : StandIns) (code : Nat) : Option Char :=
  match Half.ofCode? code with
  | some half => standIns.char? half
  | none => some (Char.ofNat code)

/-- The text of sixteen-bit units. -/
def textOfUnits16? (standIns : StandIns) : List Nat → Option Text
  | [] => some []
  | [unit] => (charOfCode? standIns unit).map fun c => [c]
  | unit :: next :: rest =>
      if isHighSurrogate unit && isLowSurrogate next then
        (textOfUnits16? standIns rest).map (pairChar unit next :: ·)
      else
        (charOfCode? standIns unit).bind fun c =>
          (textOfUnits16? standIns (next :: rest)).map (c :: ·)

/-- The text of a multiple of four bytes. -/
def decodeUtf32? (standIns : StandIns) (order : ByteOrder) : Bytes → Option Text
  | [] => some []
  | a :: b :: c :: d :: rest =>
      let code := order.unit32 a b c d
      if 0x110000 ≤ code then none
      else
        (charOfCode? standIns code).bind fun c =>
          (decodeUtf32? standIns order rest).map (c :: ·)
  | _ => none

/-- A unit of UTF-8 as a character; a stray byte is none. -/
def Utf8Unit.tolerated? (standIns : StandIns) : Utf8Unit → Option Char
  | .character c => some c
  | .surrogate code => charOfCode? standIns code
  | .stray _ => none

/-- The text of bytes in whichever form they are. -/
def decodeUnicode? (standIns : StandIns) (bytes : Bytes) : Option Text :=
  match detect bytes with
  | (.utf8, rest) => (utf8Units rest).mapM (Utf8Unit.tolerated? standIns)
  | (.utf16 order, rest) => (units16? order rest).bind (textOfUnits16? standIns)
  | (.utf32 order, rest) => decodeUtf32? standIns order rest

end DiagramRepair.Encoding

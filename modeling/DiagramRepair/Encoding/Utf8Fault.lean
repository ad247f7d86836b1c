import DiagramRepair.Encoding.Utf8
import DiagramRepair.Text.Integer

/-! What is wrong with bytes that are not UTF-8: where the first sequence stands that is no
character, how many bytes of it belong together, and at what it fails.
-/

namespace DiagramRepair.Encoding

/-- What a sequence of bytes fails at: its first byte, the byte behind those that belong together,
or the end of all bytes. -/
inductive Utf8Failure where
  | start
  | continuation
  | ending

structure Utf8Fault where
  position : Nat
  first : UInt8
  length : Nat
  failure : Utf8Failure

/-- How many continuation bytes a first byte calls for. -/
def continuationCount? (first : UInt8) : Option Nat :=
  if first < 0x80 then some 0
  else if 0xC2 ≤ first && first < 0xE0 then some 1
  else if 0xE0 ≤ first && first < 0xF0 then some 2
  else if 0xF0 ≤ first && first < 0xF5 then some 3
  else none

/-- Whether a byte may stand behind a first byte. Four first bytes leave out the continuations
that make code points which are too small for their length, too large, or surrogates. -/
def mayFollow (first next : UInt8) : Bool :=
  (continuation? next).isSome
  && (
    if first = 0xE0 then 0xA0 ≤ next
    else if first = 0xED then next < 0xA0
    else if first = 0xF0 then 0x90 ≤ next
    else if first = 0xF4 then next < 0x90
    else true
  )

/-- How many of the bytes behind a first byte belong to it. -/
def followerCount (first : UInt8) (count : Nat) : Bytes → Nat
  | [] => 0
  | next :: rest =>
      if mayFollow first next then
        1 + ((rest.take (count - 1)).takeWhile fun byte => (continuation? byte).isSome).length
      else 0

namespace Utf8Fault

/-- The fault of a sequence that is no character. -/
def ofSequence (position : Nat) (first : UInt8) (rest : Bytes) : Utf8Fault :=
  match continuationCount? first with
  | none => ⟨position, first, 1, .start⟩
  | some count =>
      let followers := followerCount first count rest
      ⟨position, first, 1 + followers,
        if rest.length ≤ followers then .ending else .continuation⟩

def reason : Utf8Failure → Text
  | .start => "invalid start byte".toList
  | .continuation => "invalid continuation byte".toList
  | .ending => "unexpected end of data".toList

/-- The sequence, by its byte if it has only one. -/
def place (fault : Utf8Fault) : Text :=
  if fault.length = 1 then
    "byte 0x".toList ++ Text.hexDigits 2 fault.first.toNat ++ " in position ".toList
      ++ Text.ofNat fault.position
  else
    "bytes in position ".toList ++ Text.ofNat fault.position ++ ['-']
      ++ Text.ofNat (fault.position + fault.length - 1)

def message (fault : Utf8Fault) : Text :=
  "'utf-8' codec can't decode ".toList ++ fault.place ++ ": ".toList ++ reason fault.failure

end Utf8Fault

/-- The text of bytes that stand at a position. -/
def decodeUtf8From (position : Nat) : Bytes → Except Utf8Fault Text
  | [] => .ok []
  | byte :: rest =>
      let unit := utf8Unit byte rest
      match unit.1 with
      | .character c =>
          (decodeUtf8From (position + 1 + rest.length - unit.2.length) unit.2).map (c :: ·)
      | _ => .error (.ofSequence position byte rest)
termination_by bytes => bytes.length
decreasing_by
  have := length_utf8Unit_le byte rest
  simp only [List.length_cons]
  omega

/-- The text of bytes in UTF-8, or the first fault in them. -/
def decodeUtf8 (bytes : Bytes) : Except Utf8Fault Text :=
  decodeUtf8From 0 bytes

end DiagramRepair.Encoding

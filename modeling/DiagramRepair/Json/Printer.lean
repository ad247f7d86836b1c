import DiagramRepair.Json.Basic
import DiagramRepair.Text.Integer

/-! Writing JSON: compactly, or over several lines with an indentation of two spaces. In ASCII
other characters are written by their codes; which code a character has is up to the caller, as it
may stand in for another code point.
-/

namespace DiagramRepair.Json

/-- Which characters of a string are escaped beyond those that have to be. -/
inductive Charset where
  | ascii
  | unicode
  deriving DecidableEq

def escapeUnit (unit : Nat) : Text :=
  ['\\', 'u'] ++ Text.hexDigits 4 unit

/-- A code by its sixteen-bit units. -/
def escapeCode (code : Nat) : Text :=
  if code < 0x10000 then escapeUnit code
  else
    escapeUnit (0xD800 + (code - 0x10000) / 1024) ++ escapeUnit (0xDC00 + (code - 0x10000) % 1024)

def stringChar (charset : Charset) (codeOf : Char → Nat) (c : Char) : Text :=
  if c = '"' then ['\\', '"']
  else if c = '\\' then ['\\', '\\']
  else if c = '\n' then ['\\', 'n']
  else if c = '\r' then ['\\', 'r']
  else if c = '\t' then ['\\', 't']
  else if c.toNat = 0x0C then ['\\', 'f']
  else if c.toNat = 0x08 then ['\\', 'b']
  else if c.toNat < 0x20 then escapeCode (codeOf c)
  else if charset = .ascii ∧ 0x7F ≤ c.toNat then escapeCode (codeOf c)
  else [c]

def quoted (charset : Charset) (codeOf : Char → Nat) (text : Text) : Text :=
  '"' :: text.flatMap (stringChar charset codeOf) ++ ['"']

/-- A decimal as its digits and exponent. -/
def realText : RealNumber → Text
  | .decimal negative digits exponent =>
      (if negative then ['-'] else []) ++ Text.ofNat digits ++ 'e' :: Text.ofInt exponent
  | .infinite negative => (if negative then ['-'] else []) ++ "Infinity".toList
  | .notANumber => "NaN".toList

mutual

/-- A value without any spaces. -/
def compact (charset : Charset) : Json → Text
  | .null => "null".toList
  | .bool value => if value then "true".toList else "false".toList
  | .int value => Text.ofInt value
  | .real value => realText value
  | .string text => quoted charset Char.toNat text
  | .array items => '[' :: Text.joinWith [','] (compactItems charset items) ++ [']']
  | .object fields => '{' :: Text.joinWith [','] (compactFields charset fields) ++ ['}']

def compactItems (charset : Charset) : List Json → List Text
  | [] => []
  | item :: rest => compact charset item :: compactItems charset rest

def compactFields (charset : Charset) : List (Text × Json) → List Text
  | [] => []
  | (name, value) :: rest =>
      (quoted charset Char.toNat name ++ ':' :: compact charset value) :: compactFields charset rest

end

/-- A line break and the indentation of a nesting depth. -/
def newLine (depth : Nat) : Text :=
  '\n' :: List.replicate (2 * depth) ' '

/-- Parts between brackets, each on a line of its own. -/
def block (opener closer : Char) (depth : Nat) : List Text → Text
  | [] => [opener, closer]
  | parts =>
      opener :: newLine (depth + 1) ++ Text.joinWith (',' :: newLine (depth + 1)) parts
        ++ newLine depth ++ [closer]

mutual

/-- A value over several lines, in ASCII, at a nesting depth. -/
def indented (codeOf : Char → Nat) (depth : Nat) : Json → Text
  | .array items => block '[' ']' depth (indentedItems codeOf (depth + 1) items)
  | .object fields => block '{' '}' depth (indentedFields codeOf (depth + 1) fields)
  | .null => "null".toList
  | .bool value => if value then "true".toList else "false".toList
  | .int value => Text.ofInt value
  | .real value => realText value
  | .string text => quoted .ascii codeOf text

def indentedItems (codeOf : Char → Nat) (depth : Nat) : List Json → List Text
  | [] => []
  | item :: rest => indented codeOf depth item :: indentedItems codeOf depth rest

def indentedFields (codeOf : Char → Nat) (depth : Nat) : List (Text × Json) → List Text
  | [] => []
  | (name, value) :: rest =>
      (quoted .ascii codeOf name ++ ": ".toList ++ indented codeOf depth value)
        :: indentedFields codeOf depth rest

end

/-- A value over several lines. -/
def pretty (codeOf : Char → Nat) (value : Json) : Text :=
  indented codeOf 0 value

end DiagramRepair.Json

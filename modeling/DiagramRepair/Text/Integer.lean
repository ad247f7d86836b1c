import DiagramRepair.Text.Blank
import DiagramRepair.Text.Literal

/-! Integers in decimal: writing them, and reading them from settings.
-/

namespace DiagramRepair.Text

def ofNat (n : Nat) : Text :=
  Nat.toDigits 10 n

def ofInt : Int → Text
  | .ofNat n => ofNat n
  | .negSucc n => '-' :: ofNat (n + 1)

/-- Why a text is no integer. -/
inductive IntegerError where
  | notAnInteger (text : Text)
  | tooManyDigits (count : Nat)

/-- Integers of more digits than this are refused. -/
def maxIntegerDigits : Nat := 4300

def IntegerError.message : IntegerError → Text
  | .notAnInteger text =>
      "invalid literal for int() with base 10: ".toList ++ (literal text).take 200
  | .tooManyDigits count =>
      "Exceeds the limit (".toList ++ ofNat maxIntegerDigits
        ++ " digits) for integer string conversion: value has ".toList ++ ofNat count
        ++ " digits; use sys.set_int_max_str_digits() to increase the limit".toList

/-- The values of digits that may be separated by single underscores. -/
def digitValues? : Text → Option (List Nat)
  | [] => none
  | [c] => (digitValue? c).map ([·])
  | c :: '_' :: rest => do
      let value ← digitValue? c
      return value :: (← digitValues? rest)
  | c :: d :: rest => do
      let value ← digitValue? c
      return value :: (← digitValues? (d :: rest))

def digitsValue (digits : List Nat) : Nat :=
  digits.foldl (fun total digit => 10 * total + digit) 0

/-- The text without the white space at its two ends. -/
def trimWhiteSpace (text : Text) : Text :=
  ((text.dropWhile isWhiteSpace).reverse.dropWhile isWhiteSpace).reverse

def isNumeralChar (c : Char) : Bool :=
  isDigit c || c == '_'

/-- White space around, one sign, then decimal digits of any script, with single underscores
between digits. -/
def readInteger (text : Text) : Except IntegerError Int :=
  let (negative, unsigned) :=
    match trimWhiteSpace text with
    | '-' :: rest => (true, rest)
    | '+' :: rest => (false, rest)
    | rest => (false, rest)
  match digitValues? (unsigned.takeWhile isNumeralChar) with
  | none => .error (.notAnInteger text)
  | some digits =>
      -- Too long a number is refused before it is seen whether anything follows it.
      if digits.length > maxIntegerDigits then .error (.tooManyDigits digits.length)
      else if !(unsigned.dropWhile isNumeralChar).isEmpty then .error (.notAnInteger text)
      else if negative then .ok (-(digitsValue digits : Int))
      else .ok (digitsValue digits : Int)

end DiagramRepair.Text

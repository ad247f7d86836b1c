import DiagramRepair.Text.Basic

/-! JSON values. An object keeps its fields in the order they are written in.
-/

namespace DiagramRepair

/-- A number that is written with a fraction or an exponent, or that is not finite. -/
inductive RealNumber where
  | decimal (negative : Bool) (digits : Nat) (exponent : Int)
  | infinite (negative : Bool)
  | notANumber

inductive Json where
  | null
  | bool (value : Bool)
  | int (value : Int)
  | real (value : RealNumber)
  | string (text : Text)
  | array (items : List Json)
  | object (fields : List (Text × Json))

/-- Whether digits times a power of ten are at most half the least positive number of double
precision, which is 2 to the power of -1074, so that they are rounded to zero. -/
def roundsToZero (digits : Nat) (exponent : Int) : Bool :=
  if digits = 0 then true
  else if 0 ≤ exponent then false
  else
    let places := (-exponent).toNat
    if (Nat.toDigits 10 digits).length + 400 < places then true
    else digits * Nat.pow 2 1075 ≤ Nat.pow 10 places

def RealNumber.isZero : RealNumber → Bool
  | .decimal _ digits exponent => roundsToZero digits exponent
  | _ => false

namespace Json

/-- The last field of a name. -/
def field? (fields : List (Text × Json)) (name : Text) : Option Json :=
  fields.reverse.lookup name

/-- Everything but null, false, zero and empty values counts as true. -/
def isTruthy : Json → Bool
  | .null => false
  | .bool value => value
  | .int value => value != 0
  | .real value => !value.isZero
  | .string text => !text.isEmpty
  | .array items => !items.isEmpty
  | .object fields => !fields.isEmpty

def ofNat (n : Nat) : Json :=
  .int n

def ofOption (toJson : α → Json) : Option α → Json
  | none => .null
  | some value => toJson value

def ofTexts (texts : List Text) : Json :=
  .array (texts.map .string)

end Json

end DiagramRepair

import DiagramRepair.Attribute.Field
import DiagramRepair.Text.Literal

/-! The keys that the constraints of an attribute name.
-/

namespace DiagramRepair.Attribute

inductive Key where
  | primary
  | foreign
  | unique
  deriving DecidableEq

namespace Key

/-- All keys in the order of their names. -/
def all : List Key :=
  [.foreign, .primary, .unique]

def name : Key → Text
  | .primary => ['P', 'K']
  | .foreign => ['F', 'K']
  | .unique => ['U', 'K']

/-- The key that a part of a constraint names in upper or lower case, or the part in upper
case when there is no such key. -/
def ofPart (part : Text) : Except Text Key :=
  let word := Text.upper part
  match all.find? fun key => key.name == word with
  | some key => .ok key
  | none => .error word

/-- The keys named in constraint tokens, parts being separated by commas. The first part that
names no key is the error. -/
def ofConstraints (constraints : List Text) : Except Text (List Key) :=
  (constraints.flatMap fun token =>
      (token.splitOn ',').filter fun part => !part.isEmpty).mapM ofPart

/-- The message for a part that names no key. -/
def refusal (part : Text) : Text :=
  Text.literal part ++ " is not a valid Constraint".toList

end Key

/-- The distinct keys of an attribute in the order of their names. -/
def Field.keys (field : Field) : Except Text (List Key) :=
  (Key.ofConstraints field.constraints).map fun found =>
    Key.all.filter fun key => found.contains key

end DiagramRepair.Attribute

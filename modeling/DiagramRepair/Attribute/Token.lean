import DiagramRepair.Text.Blank
import DiagramRepair.Text.Case

/-! The tokens of an attribute line and the three classes a token may belong to. A token that
is neither a constraint nor a comment is a word, and a word may be a known type.
-/

namespace DiagramRepair.Attribute

/-- Cuts a line at blanks. A token that starts with a double quote runs to the next double
quote, or to the end of the line when there is none. -/
def tokens : Text → List Text
  | [] => []
  | c :: rest =>
      if Text.isBlank c then tokens rest
      else if c = '"' then
        match _h : Text.cutAt? '"' rest with
        | some (inside, behind) => ('"' :: inside ++ ['"']) :: tokens behind
        | none => ['"' :: rest]
      else (c :: rest.takeWhile Text.isNotBlank) :: tokens (rest.dropWhile Text.isNotBlank)
termination_by line => line.length
decreasing_by
  · simp
  · have := Text.length_lt_of_cutAt? _h
    simp only [List.length_cons]
    omega
  · have := Text.length_dropWhile_le Text.isNotBlank rest
    simp only [List.length_cons]
    omega

def typeNames : List Text :=
  [
    "int".toList, "integer".toList, "bigint".toList, "smallint".toList, "tinyint".toList,
    "float".toList, "double".toList, "decimal".toList, "numeric".toList, "number".toList,
    "real".toList, "serial".toList, "money".toList,
    "string".toList, "text".toList, "varchar".toList, "char".toList, "nvarchar".toList,
    "bool".toList, "boolean".toList,
    "date".toList, "datetime".toList, "timestamp".toList, "timestamptz".toList, "time".toList,
    "interval".toList,
    "json".toList, "jsonb".toList, "array".toList, "enum".toList, "object".toList, "xml".toList,
    "uuid".toList, "guid".toList, "bytea".toList, "blob".toList, "binary".toList
  ]

def isIdentifierChar (c : Char) : Bool :=
  Text.isAsciiLetter c || Text.isAsciiDigit c || c == '_'

/-- What may follow the name of a type: nothing, square brackets, or digits, commas and blanks
in parentheses. -/
def isTypeSuffix : Text → Bool
  | [] => true
  | ['[', ']'] => true
  | '(' :: size =>
      match Text.cutAt? ')' size with
      | some (inside, behind) =>
          behind.isEmpty
          && inside.all fun c => Text.isDigit c || Text.isBlank c || c == ','
      | none => false
  | _ => false

/-- A known type name in upper or lower case, with a size or as an array. -/
def isTypeToken (token : Text) : Bool :=
  typeNames.contains (Text.lower (token.takeWhile isIdentifierChar))
  && isTypeSuffix (token.dropWhile isIdentifierChar)

/-- What follows one of the keys PK, FK and UK, in upper or lower case; the Kelvin sign is
taken for a K. -/
def afterKey? : Text → Option Text
  | first :: second :: rest =>
      if ['P', 'p', 'F', 'f', 'U', 'u'].contains first
          && ['K', 'k', '\u212a'].contains second then some rest
      else none
  | _ => none

theorem length_lt_of_afterKey? {text rest : Text} (h : afterKey? text = some rest)
    : rest.length < text.length := by
  match text with
  | [] => simp [afterKey?] at h
  | [_] => simp [afterKey?] at h
  | first :: second :: tail =>
      simp only [afterKey?] at h
      split at h
      · obtain rfl := Option.some.inj h
        simp only [List.length_cons]
        omega
      · simp at h

/-- One or more keys, each with a comma behind it or not. -/
def isKeyRun (text : Text) : Bool :=
  match _h : afterKey? text with
  | none => false
  | some [] => true
  | some (',' :: rest) => rest.isEmpty || isKeyRun rest
  | some rest => isKeyRun rest
termination_by text.length
decreasing_by
  · have := length_lt_of_afterKey? _h
    simp only [List.length_cons] at this
    omega
  · exact length_lt_of_afterKey? _h

/-- A comma, or a run of keys with a comma before it or not. -/
def isConstraintToken (token : Text) : Bool :=
  match token with
  | [','] => true
  | ',' :: rest => isKeyRun rest
  | _ => isKeyRun token

def isCommentToken (token : Text) : Bool :=
  Text.startsWith ['"'] token

/-- Words name attributes and their types. -/
def isWordToken (token : Text) : Bool :=
  !isConstraintToken token && !isCommentToken token

/-- Two words, then constraints, then at most one comment. -/
def isWellFormed : List Text → Bool
  | first :: second :: rest =>
      isWordToken first && isWordToken second
      && ((rest.dropWhile isConstraintToken).isEmpty
        || match rest.dropWhile isConstraintToken with
          | [last] => isCommentToken last
          | _ => false)
  | _ => false

end DiagramRepair.Attribute

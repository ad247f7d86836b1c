import DiagramRepair.Attribute.Token

/-! An attribute of an entity, and reading an attribute line as a sequence of attributes.
-/

namespace DiagramRepair.Attribute

/-- The type of an attribute that names none. -/
def defaultType : Text :=
  "string".toList

/-- One attribute. It has a type of its own or takes the default type. -/
structure Field where
  ownType : Option Text
  name : Text
  constraints : List Text
  comment : Option Text

namespace Field

def type (field : Field) : Text :=
  field.ownType.getD defaultType

/-- The type is not written on the line. -/
def isDefaulted (field : Field) : Bool :=
  field.ownType.isNone

/-- The tokens that the attribute was read from. -/
def sourceTokens (field : Field) : List Text :=
  field.ownType.toList ++ field.name :: field.constraints ++ field.comment.toList

/-- The tokens that the attribute is written with. -/
def writtenTokens (field : Field) : List Text :=
  field.type :: field.name :: field.constraints ++ field.comment.toList

/-- Type, name, constraints and comment with one space between them. -/
def render (field : Field) : Text :=
  Text.joinWith [' '] field.writtenTokens

end Field

/-- Whether a word is the type of an attribute rather than its name. A known type always is;
another word is when a name follows it, that is a word that is no known type. -/
def takesTypeSlot (token : Text) (following : Option Text) : Bool :=
  isTypeToken token
  || match following with
    | some next => isWordToken next && !isTypeToken next
    | none => false

/-- An attribute whose type and name are read takes the constraints that follow and a comment
behind them. -/
def finishField (ownType : Option Text) (name : Text) (rest : List Text) : Field × List Text :=
  let constraints := rest.takeWhile isConstraintToken
  match rest.dropWhile isConstraintToken with
  | [] => (⟨ownType, name, constraints, none⟩, [])
  | next :: behind =>
      if isCommentToken next then (⟨ownType, name, constraints, some next⟩, behind)
      else (⟨ownType, name, constraints, none⟩, next :: behind)

/-- Reads one attribute off the front of a line, which must start with a word; a type must be
followed by a name. -/
def readField? : List Text → Option (Field × List Text)
  | [] => none
  | token :: rest =>
      if !isWordToken token then none
      else if takesTypeSlot token rest.head? then
        match rest with
        | name :: behind =>
            if isWordToken name then some (finishField (some token) name behind) else none
        | [] => none
      else some (finishField none token rest)

theorem length_finishField_le (ownType : Option Text) (name : Text) (rest : List Text)
    : (finishField ownType name rest).2.length ≤ rest.length := by
  have h := (List.dropWhile_suffix (l := rest) isConstraintToken).length_le
  unfold finishField
  split
  · simp
  · rename_i heq
    rw [heq, List.length_cons] at h
    split <;> simp only [List.length_cons] <;> omega

theorem length_lt_of_readField? {tokens rest : List Text} {field : Field}
    (h : readField? tokens = some (field, rest))
    : rest.length < tokens.length := by
  match tokens with
  | [] => simp [readField?] at h
  | token :: behind =>
      simp only [readField?] at h
      split at h
      · simp at h
      · split at h
        · match behind with
          | [] => simp at h
          | name :: behind =>
              simp only at h
              split at h
              · have hl := length_finishField_le (some token) name behind
                rw [Option.some.inj h] at hl
                simp only [List.length_cons] at hl ⊢
                omega
              · simp at h
        · have hl := length_finishField_le none token behind
          rw [Option.some.inj h] at hl
          simp only [List.length_cons] at hl ⊢
          omega

/-- Reads attributes until no token is left; none when a token belongs to no attribute. -/
def fieldsOfTokens? : List Text → Option (List Field)
  | [] => some []
  | token :: rest =>
      match _h : readField? (token :: rest) with
      | none => none
      | some (field, behind) => (fieldsOfTokens? behind).map (field :: ·)
termination_by tokens => tokens.length
decreasing_by exact length_lt_of_readField? _h

/-- The attributes of a line; a line without tokens has none to give. -/
def fields? (line : Text) : Option (List Field) :=
  match tokens line with
  | [] => none
  | token :: rest => fieldsOfTokens? (token :: rest)

/-- The attributes to write in place of a line, unless the line is well formed already or
cannot be read. -/
def replacement? (line : Text) : Option (List Field) :=
  let line := Text.trim line
  -- A single attribute with a type of its own is well formed, so something always changes.
  if isWellFormed (tokens line) then none else fields? line

end DiagramRepair.Attribute

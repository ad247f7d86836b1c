import DiagramRepair.Text.Blank

/-! The connectors that a text ends in. A connector is recognised by its last characters, so
the texts here are read backwards.
-/

namespace DiagramRepair.Edge

/-- Two dashes, two equals signs, or a dash behind a dot. -/
def isShaft : (backwards : Text) → Bool
  | '-' :: '-' :: _ => true
  | '=' :: '=' :: _ => true
  | '-' :: '.' :: _ => true
  | _ => false

/-- A shaft without a head or with one of the heads `x` and `o`, or an arrow head behind a
dash or an equals sign. -/
def isConnector : (backwards : Text) → Bool
  | '>' :: '-' :: _ => true
  | '>' :: '=' :: _ => true
  | 'x' :: shaft => isShaft shaft
  | 'o' :: shaft => isShaft shaft
  | backwards => isShaft backwards

/-- An arrow head behind a dot. -/
def isDottedArrow : (backwards : Text) → Bool
  | '>' :: '.' :: _ => true
  | _ => false

/-- A pipe here opens an edge label: a connector stands before it, with blanks between them or
not. -/
def opensLabel (backwards : Text) : Bool :=
  isConnector (backwards.dropWhile Text.isBlank)

end DiagramRepair.Edge

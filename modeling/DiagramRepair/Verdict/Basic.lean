import DiagramRepair.Diagram.Balance
import DiagramRepair.Repair.Diagram

/-! The verdict on a diagram. A diagram is rejected for the first of the reasons below that
applies, and then left as it is; else it is accepted and repaired.
-/

namespace DiagramRepair

inductive ErrorKind where
  | emptyInput
  | unknownType
  | unsupportedType
  | typeMismatch
  | structural
  deriving DecidableEq

namespace ErrorKind

def all : List ErrorKind :=
  [.emptyInput, .unknownType, .unsupportedType, .typeMismatch, .structural]

def name : ErrorKind → Text
  | .emptyInput => "empty_input".toList
  | .unknownType => "unknown_diagram_type".toList
  | .unsupportedType => "unsupported_diagram_type".toList
  | .typeMismatch => "type_mismatch".toList
  | .structural => "structural_error".toList

def ofName? (name : Text) : Option ErrorKind :=
  all.find? fun kind => kind.name == name

/-- The message for a name that no kind has. -/
def refusal (name : Text) : Text :=
  Text.literal name ++ " is not a valid ErrorKind".toList

end ErrorKind

/-- Why a diagram is rejected. -/
inductive Rejection where
  | empty
  | disabledType (type : DiagramType)
  | unknownType (found : Text)
  | typeMismatch (expected : Text) (actual : DiagramType)
  | unbalanced (type : DiagramType) (found : List Imbalance)

namespace Rejection

def kind : Rejection → ErrorKind
  | .empty => .emptyInput
  | .disabledType _ => .unsupportedType
  | .unknownType _ => .unknownType
  | .typeMismatch .. => .typeMismatch
  | .unbalanced .. => .structural

def message : Rejection → Text
  | .empty => "Diagram code is empty".toList
  | .disabledType type =>
      "Diagram type '".toList ++ type.name
        ++ "' is disabled due to frequent rendering errors. Supported types: ".toList
        ++ DiagramType.supportedNames
  | .unknownType found =>
      "Diagram must start with a valid type (".toList ++ DiagramType.supportedNames
        ++ "); found '".toList ++ found ++ ['\x27']
  | .typeMismatch expected actual =>
      "Expected ".toList ++ expected ++ " but got ".toList ++ actual.name
  | .unbalanced _ found => imbalanceSummary found

/-- The declared type, where the header declares one. -/
def type? : Rejection → Option DiagramType
  | .empty => none
  | .disabledType type => some type
  | .unknownType _ => none
  | .typeMismatch _ actual => some actual
  | .unbalanced type _ => some type

end Rejection

/-- What is said about an accepted diagram. -/
structure Acceptance where
  type : DiagramType
  repaired : RepairedText
  isBare : Bool
  corrected : Option Text

inductive Verdict where
  | rejected (reason : Rejection)
  | accepted (acceptance : Acceptance)

namespace Verdict

def bareWarning : Text :=
  "Diagram has no content (only a type declaration)".toList

def isValid : Verdict → Bool
  | .rejected _ => false
  | .accepted _ => true

def rejection? : Verdict → Option Rejection
  | .rejected reason => some reason
  | .accepted _ => none

def type? : Verdict → Option DiagramType
  | .rejected reason => reason.type?
  | .accepted acceptance => some acceptance.type

def repairs : Verdict → List Repair
  | .rejected _ => []
  | .accepted acceptance => acceptance.repaired.repairs

/-- The repairs that users are warned of, and whether the diagram has nothing in it. -/
def warnings : Verdict → List Text
  | .rejected _ => []
  | .accepted acceptance =>
      acceptance.repaired.warnings ++ if acceptance.isBare then [bareWarning] else []

/-- The repaired text, if it is another one. -/
def corrected? : Verdict → Option Text
  | .rejected _ => none
  | .accepted acceptance => acceptance.corrected

/-- The text to go on with: the repaired one, or the input if it did not change. -/
def resolve (verdict : Verdict) (input : Text) : Text :=
  verdict.corrected?.getD input

/-- What a log records of the repairs. -/
def log (verdict : Verdict) : List Text :=
  verdict.repairs.map Repair.notice

end Verdict

/-- The types that may be asked for. -/
def expectableTypes : List Text :=
  DiagramType.supported.map DiagramType.name

/-- Whether a type is one of those asked for. The two names of flowcharts stand for each
other. -/
def DiagramType.meets (expected : Text) (type : DiagramType) : Bool :=
  let flowcharts := [DiagramType.flowchart, DiagramType.graph]
  if (flowcharts.map DiagramType.name).contains expected then flowcharts.contains type
  else type.name == expected

/-- A line that makes a diagram more than a declaration. -/
def Line.isContent (line : Line) : Bool :=
  match line.kind with
  | .declaration =>
      (Declaration.ofLine? line.text).any fun declaration => !declaration.body.isEmpty
  | .comment => false
  | .blank => false
  | _ => true

/-- How much of a first line is shown when it declares no type. -/
def shownLength : Nat := 60

/-- The start of the first line, for the message that it declares no type. -/
def firstWords (text : Text) : Text :=
  (Text.trim (Text.before '\n' (Text.trim text))).take shownLength

/-- The acceptance of a diagram of a supported type. -/
def Acceptance.ofText (type : DiagramType) (text : Text) : Acceptance :=
  let repaired := repair text
  { type
    repaired
    isBare := !(classify (Text.lines text)).any Line.isContent
    corrected := if repaired.text = text then none else some repaired.text }

/-- Judges a diagram, which must be of the expected type if one is given. -/
def validate (expected : Option Text) (text : Text) : Verdict :=
  if Text.isAllBlank text then .rejected .empty
  else
    match declaredType? (Text.lines text) with
    | none => .rejected (.unknownType (firstWords text))
    | some type =>
        if !type.isSupported then .rejected (.disabledType type)
        else
          match expected.filter fun name => !type.meets name with
          | some name => .rejected (.typeMismatch name type)
          | none =>
              match imbalances text with
              | [] => .accepted (.ofText type text)
              | found => .rejected (.unbalanced type found)

end DiagramRepair

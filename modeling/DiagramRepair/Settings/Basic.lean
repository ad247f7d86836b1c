import DiagramRepair.Settings.Variables
import DiagramRepair.Text.Integer

/-! The settings of the service: how long texts may be, and where it listens. The variables that
they are read from stand for those of the environment once the `dotenv` package has added the ones
of a file, which does not change any that is there.
-/

namespace DiagramRepair

structure Settings where
  maxDiagramLength : Int := 50000
  maxMarkdownLength : Int := 500000
  host : Text := "0.0.0.0".toList
  portNumber : Int := 8000

/-- Why there are no settings. -/
inductive SettingsError where
  | unreadableFile (reason : Settings.VariablesError)
  | unreadableInteger (reason : Text.IntegerError)

namespace Settings

/-- An integer that a variable may set. -/
def integerOr (default : Int) (given : Variables) (name : String)
    : Except Text.IntegerError Int :=
  match valueOf? given name.toList with
  | some value => Text.readInteger value
  | none => .ok default

/-- The settings that variables ask for. The first integer that cannot be read is the error. -/
def ofVariables (given : Variables) : Except Text.IntegerError Settings := do
  let defaults : Settings := {}
  let maxDiagramLength ← integerOr defaults.maxDiagramLength given "MAX_DIAGRAM_CHARS"
  let maxMarkdownLength ← integerOr defaults.maxMarkdownLength given "MAX_MARKDOWN_CHARS"
  let portNumber ← integerOr defaults.portNumber given "SANITIZER_PORT"
  let host := (valueOf? given "SANITIZER_HOST".toList).getD defaults.host
  return { maxDiagramLength, maxMarkdownLength, host, portNumber }

/-- The settings that hold in an environment and a file tree. -/
def load (environment : Variables) (tree : FileTree) : Except SettingsError Settings :=
  match allVariables environment tree with
  | .error reason => .error (.unreadableFile reason)
  | .ok given => (ofVariables given).mapError .unreadableInteger

end Settings

end DiagramRepair

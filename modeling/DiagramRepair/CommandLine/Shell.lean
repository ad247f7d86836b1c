import DiagramRepair.CommandLine.Report
import DiagramRepair.Files.Path
import DiagramRepair.Files.Tree

/-! A run of the command line, step by step. Reports in words and reports in JSON take ways of their
own from the text to the exit code. What the steps do to the world around them is left open: they
are the same for the program itself and for a run that is only worked out.
-/

namespace DiagramRepair.CommandLine

/-- What breaks a run off. -/
inductive RunError where
  | file (reason : FileError)
  | unprintable
  | namelessExpectation
  deriving DecidableEq

/-- What a run needs of the world around it. -/
class Shell (m : Type → Type) where
  /-- Whether something stands at a path. -/
  isThere : Path → m Bool
  /-- The text of a file, with one kind of line end. -/
  readFile : Path → m Text
  /-- All of the standard input. -/
  readInput : m Text
  /-- Writes a text to a file and makes the directories it needs. -/
  writeFile : Path → Text → m Unit
  /-- Writes to the standard output. -/
  print : Text → m Unit
  /-- Writes to the standard error output. -/
  warn : Text → m Unit
  breakOff {α : Type} : RunError → m α

section

variable {m : Type → Type} [Monad m] [Shell m]

def tell (line : Text) : m Unit :=
  Shell.warn (line ++ ['\n'])

-----------------------------------------------------------------------------------------
-- Results
-----------------------------------------------------------------------------------------

def writtenNotice (path : Path) : Text :=
  "Written to ".toList ++ path.text

def writeTo (path : Path) (text : Text) : m Unit := do
  Shell.writeFile path text
  tell (writtenNotice path)

/-- Writes a result where the options want it, or else prints it. -/
def handOver (text : Text) : (output : Option Text) → m Unit
  | some name => writeTo (Path.ofText name) text
  | none => Shell.print (endLine text)

/-- Writes a result where the options want it, or else nowhere. -/
def handOverToFile (text : Text) : (output : Option Text) → m Unit
  | some name => writeTo (Path.ofText name) text
  | none => pure ()

-----------------------------------------------------------------------------------------
-- Reports
-----------------------------------------------------------------------------------------

section

variable (codeOf : Char → Nat) (options : Options)

def printJson (value : Json) : m Unit :=
  Shell.print (Json.pretty codeOf value ++ ['\n'])

def record (log : List Text) : m Unit :=
  if options.verbose then log.forM fun notice => tell (logNotice notice) else pure ()

/-- Reports on a document in JSON, which is printed in place of the document. -/
def documentInJson (text : Text) (repaired : Markdown.RepairedDocument) : m Nat := do
  printJson codeOf (documentJson text repaired)
  handOverToFile repaired.text options.output
  return if (invalidBlocks repaired).isEmpty then 0 else 1

/-- Reports on a document in words, block by block. -/
def documentInWords (repaired : Markdown.RepairedDocument) : m Nat := do
  repaired.reports.forM fun report => tell (blockNotice report)
  tell (documentNotice repaired)
  handOver repaired.text options.output
  return if (invalidBlocks repaired).isEmpty then 0 else 1

def runOnDocument (text : Text) : m Nat := do
  let repaired := Markdown.repairDocument text
  record options repaired.log
  if options.json then documentInJson codeOf options text repaired
  else documentInWords options repaired

/-- Reports on a diagram in JSON, which is printed in place of the diagram. -/
def diagramInJson (text : Text) (verdict : Verdict) : m Nat := do
  printJson codeOf (diagramJson text verdict)
  if verdict.isValid then
    handOverToFile (verdict.resolve text) options.output
    return 0
  else return 1

/-- Reports on a diagram in words. -/
def diagramInWords (text : Text) (verdict : Verdict) : m Nat :=
  match verdict.rejection? with
  | some reason => do
      tell (rejectionNotice reason)
      reason.hints.forM fun hint => tell (hintNotice hint)
      return 1
  | none => do
      verdict.warnings.forM fun warning => tell (warningNotice warning)
      tell (acceptanceNotice text verdict)
      handOver (verdict.resolve text) options.output
      return 0

def runOnDiagram (text : Text) : m Nat :=
  match options.expected.judge? text with
  | none => Shell.breakOff .namelessExpectation
  | some verdict => do
      record options verdict.log
      if options.json then diagramInJson codeOf options text verdict
      else diagramInWords options text verdict

-----------------------------------------------------------------------------------------
-- Runs
-----------------------------------------------------------------------------------------

def missingNotice (path : Path) : Text :=
  "Error: File not found: ".toList ++ path.text

/-- The text of an input file, unless nothing is there. -/
def readFileIfThere (path : Path) : m (Option Text) := do
  if ← Shell.isThere path then return some (← Shell.readFile path)
  else
    tell (missingNotice path)
    return none

/-- The text to judge: of the input file, else the code on the command line, else of the
standard input. -/
def source : m (Option Text) :=
  match options.input, options.code with
  | some name, _ => readFileIfThere (Path.ofText name)
  | none, some code => pure (some code)
  | none, none => do return some (← Shell.readInput)

/-- Judges a text as the options ask for: as a document, as a reply that holds a diagram
somewhere, or as a diagram. -/
def judge (text : Text) : m Nat :=
  if options.markdown then runOnDocument codeOf options text
  else if options.extract then
    match Markdown.extractDiagram? text with
    | none => do
        tell nothingNotice
        return 2
    | some found => runOnDiagram codeOf options found
  else runOnDiagram codeOf options text

/-- A run with given options. -/
def performWith : m Nat := do
  match ← source options with
  | none => return 2
  | some text => judge codeOf options text

end

/-- A run on the words of a command line. -/
def perform (codeOf : Char → Nat) (words : List Text) : m Nat :=
  match Options.ofTexts words with
  | .error .help => do
      Shell.print help
      return 0
  | .error (.refused reason) => do
      Shell.warn (refusalNotice codeOf reason)
      return 2
  | .ok options => performWith codeOf options

end

end DiagramRepair.CommandLine

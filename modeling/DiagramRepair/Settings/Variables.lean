import DiagramRepair.Encoding.Utf8Fault
import DiagramRepair.Files.Disk
import DiagramRepair.Settings.Assignment
import DiagramRepair.Settings.Reference
import DiagramRepair.Text.Lines

/-! Variables that settings are read from: those of the environment, and those of a file named
`.env`, which count where the environment has none. What such a file may hold follows the documented
format of the `dotenv` package.
-/

namespace DiagramRepair.Settings

/-- Names, each with its value if it has one. Of several entries for a name the last one
counts. -/
abbrev Variables := List Assignment

/-- The value of a variable. -/
def valueOf? (given : Variables) (name : Text) : Option Text :=
  (given.reverse.lookup name).join

/-- The text that a reference stands for. That of a variable without a value is empty. -/
def Reference.resolve (given : Variables) (reference : Reference) : Text :=
  match given.reverse.lookup reference.name with
  | some value => value.getD []
  | none => reference.fallback

/-- Assignments with the references in their values replaced. A reference is to the environment,
or else to an assignment above. -/
def resolveAll (environment : Variables) (assignments : List Assignment) : Variables :=
  assignments.foldl
    (fun known (name, value) =>
      known ++ [(name, value.map (Reference.expand (Reference.resolve (known ++ environment))))])
    []

def dropByteOrderMark : Text → Text
  | '\uFEFF' :: rest => rest
  | text => text

/-- The variables that the text of a file sets. -/
def variablesOf (environment : Variables) (text : Text) : Variables :=
  resolveAll environment
    (Assignment.readAll (Text.unifyLineEnds (dropByteOrderMark text)))

/-- A directory and those above it, up to the top. -/
def upward (location : Location) : List Location :=
  (List.range (location.length + 1)).map fun count => location.take (location.length - count)

/-- The path of the file of variables in a directory. -/
def fileIn (directory : Location) : Route :=
  ⟨1, directory ++ [Encoding.encodeUtf8 ".env".toList]⟩

/-- The first of some paths at which something stands. -/
def firstThere? (tree : FileTree) : List Route → Except FileError (Option Route)
  | [] => .ok none
  | route :: rest => do
      if ← tree.isThere (.ok route) then return some route
      else firstThere? tree rest

/-- Why there are no variables. -/
inductive VariablesError where
  | refused (reason : FileError)
  | notUtf8 (fault : Encoding.Utf8Fault)

/-- The variables of a file, which has to be in UTF-8. What is no file sets none. -/
def variablesAt (environment : Variables) (tree : FileTree) (route : Route)
    : Except VariablesError Variables :=
  match tree.entry route with
  | .ok (.file _) => do
      let content ← (tree.readBytes route).mapError .refused
      let text ← (Encoding.decodeUtf8 content).mapError .notUtf8
      return variablesOf environment text
  | _ => .ok []

/-- The variables of the file in the working directory, or else in the nearest directory above it
that has one. -/
def fileVariables (environment : Variables) (tree : FileTree)
    : Except VariablesError Variables := do
  let found ← (firstThere? tree ((upward tree.workingDirectory).map fileIn)).mapError .refused
  match found with
  | some route => variablesAt environment tree route
  | none => return []

/-- All variables. Those of the environment come last, since the last value counts. -/
def allVariables (environment : Variables) (tree : FileTree)
    : Except VariablesError Variables :=
  (fileVariables environment tree).map (· ++ environment)

end DiagramRepair.Settings

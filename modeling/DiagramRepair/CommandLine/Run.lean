import DiagramRepair.CommandLine.Shell
import DiagramRepair.Encoding.Utf8Fault
import DiagramRepair.Files.Disk
import DiagramRepair.Text.Lines

/-! Runs that are worked out: on a file tree, with the words of a command line and the standard
input as they come from outside, and with a standard output that need not be able to take every code
point. The standard error output takes every text, as it escapes halves.
-/

namespace DiagramRepair.CommandLine

open Encoding (Bytes CodePoint RawText StandIns)

/-- The code points that can be written to an output. Those of ASCII always can. -/
structure Repertoire where
  has : CodePoint → Bool
  ascii : ∀ c : Char, c.toNat < 0x80 → has (.character c) = true

/-- The code points that have a form in UTF-8. -/
def Repertoire.utf8 : Repertoire where
  has point := !point.isHalf
  ascii _ _ := rfl

/-- What the standard input reads as, if it can be read, and what the standard output can take. -/
structure Streams where
  input : Except FileError RawText := .ok []
  output : Repertoire := .utf8

/-- The text of bytes in UTF-8, with one kind of line end. -/
def decodeInput (bytes : Bytes) : Except FileError Text :=
  match Encoding.decodeUtf8 bytes with
  | .ok text => .ok (Text.unifyLineEnds text)
  | .error _ => .error .notUtf8

-----------------------------------------------------------------------------------------
-- Steps
-----------------------------------------------------------------------------------------

/-- What a run has printed, told and written so far. -/
structure Console where
  output : RawText
  notices : Text
  tree : FileTree

/-- What a run finds around it. -/
structure Surroundings where
  standIns : StandIns
  output : Repertoire
  input : Except FileError Text

/-- Steps of a run. Where one of them breaks the run off, what was done before stays. -/
abbrev Steps := ReaderT Surroundings (ExceptT RunError (StateM Console))

namespace Steps

def ofExcept {α : Type} : Except FileError α → Steps α
  | .ok found => pure found
  | .error reason => throw (.file reason)

/-- Looks at the tree of the console. -/
def look {α : Type} (find : StandIns → FileTree → Except FileError α) : Steps α := do
  ofExcept (find (← read).standIns (← get).tree)

/-- Does something to the tree of the console. -/
def onDisk {α : Type} (action : StandIns → Disk α) : Steps α := do
  let (result, tree) := (action (← read).standIns).run.run (← get).tree
  modify fun console => { console with tree }
  ofExcept result

/-- A text is printed as a whole or not at all. -/
def print (text : Text) : Steps Unit := do
  let around ← read
  let raw := around.standIns.raw text
  if raw.all around.output.has then
    modify fun console => { console with output := console.output ++ raw }
  else throw .unprintable

def warn (text : Text) : Steps Unit := do
  let around ← read
  modify fun console =>
    { console with notices := console.notices ++ around.standIns.shown text }

instance : Shell Steps where
  isThere path := look fun standIns tree => tree.isThere (path.route standIns)
  readFile path := look fun standIns tree => do
    decodeInput (← (path.route standIns).bind tree.readBytes)
  readInput := do ofExcept (← read).input
  writeFile path text := onDisk fun standIns =>
    Disk.writeFile standIns path (standIns.raw text).fileBytes
  print := print
  warn := warn
  breakOff := throw

end Steps

-----------------------------------------------------------------------------------------
-- Runs
-----------------------------------------------------------------------------------------

/-- What a run leaves behind. A run that is broken off has no exit code. -/
structure Outcome where
  exitCode : Except RunError Nat
  output : RawText
  notices : Text
  tree : FileTree

/-- What steps come to from an empty console. -/
def outcomeOf (action : Steps Nat) (around : Surroundings) (tree : FileTree) : Outcome :=
  let (exitCode, console) := ((action.run around).run).run ⟨[], [], tree⟩
  ⟨exitCode, console.output, console.notices, console.tree⟩

/-- Stand-ins for the halves in the words of a command line and in the standard input. -/
def standInsFor (words : List RawText) (streams : Streams) : StandIns :=
  .ofRaw (words.flatten ++ streams.input.toOption.getD [])

def surroundings (standIns : StandIns) (streams : Streams) : Surroundings :=
  ⟨standIns, streams.output, streams.input.map standIns.text⟩

/-- A run on the words of a command line. -/
def run (words : List RawText) (streams : Streams) (tree : FileTree) : Outcome :=
  let standIns := standInsFor words streams
  outcomeOf (perform standIns.codeOf (words.map standIns.text)) (surroundings standIns streams)
    tree

end DiagramRepair.CommandLine

import DiagramRepair.Encoding.StandIn
import DiagramRepair.Files.Path
import DiagramRepair.Files.Tree

/-! What a program does with the paths it has names for: it looks, and it writes a file with the
directories above it. Each step is done on the tree that the steps before it left, and where one
fails, what was done before stays done.
-/

namespace DiagramRepair

open Encoding (Bytes CodePoint RawText StandIns)

/-- The bytes of a code point in a name. Some of the halves stand for bytes that are not UTF-8. -/
def Encoding.CodePoint.nameBytes? : CodePoint → Option Bytes
  | .character c => some (String.utf8EncodeChar c)
  | .half part =>
      if 0xDC80 ≤ part.code ∧ part.code ≤ 0xDCFF then some [(part.code - 0xDC00).toUInt8]
      else none

def Encoding.RawText.nameBytes? (raw : RawText) : Option Bytes :=
  (raw.mapM CodePoint.nameBytes?).map List.flatten

/-- The bytes of a text in UTF-8, if it holds no half. -/
def Encoding.RawText.fileBytes (raw : RawText) : Except FileError Bytes :=
  match raw.encodeUtf8? with
  | some bytes => .ok bytes
  | none => .error .notEncodable

/-- A path in bytes. -/
def Path.route (standIns : StandIns) (path : Path) : Except FileError Route :=
  match path.names.mapM fun name => (standIns.raw name).nameBytes? with
  | none => .error .notEncodable
  | some names =>
      if names.any (·.contains 0) then .error .nulInPath else .ok ⟨path.root.length, names⟩

/-- Whether a path that fails so counts as one where nothing is. -/
def FileError.isMissing : FileError → Bool
  | .notFound => true
  | .notADirectory => true
  | .tooManyLinks => true
  | .nulInPath => true
  | .notEncodable => true
  | _ => false

namespace FileTree

/-- What a path leads to, if anything. -/
def find? (tree : FileTree) (route : Except FileError Route) : Except FileError (Option Entry) :=
  match route.bind tree.entry with
  | .ok entry => .ok (some entry)
  | .error reason => if reason.isMissing then .ok none else .error reason

def isThere (tree : FileTree) (route : Except FileError Route) : Except FileError Bool :=
  (tree.find? route).map Option.isSome

def isDirectory (tree : FileTree) (route : Except FileError Route) : Except FileError Bool :=
  (tree.find? route).map fun
    | some .directory => true
    | _ => false

end FileTree

/-- What is done to a tree. -/
abbrev Disk := ExceptT FileError (StateM FileTree)

namespace Disk

def ofExcept {α : Type} : Except FileError α → Disk α
  | .ok found => pure found
  | .error reason => throw reason

/-- Looks at the tree as it is. -/
def look {α : Type} (find : FileTree → Except FileError α) : Disk α := do
  ofExcept (find (← get))

section

variable (standIns : StandIns)

def makeDirectory (path : Path) : Disk Unit := do
  set (← look fun tree => do tree.makeDirectory (← path.route standIns))

/-- It does not matter that a directory could not be made which is there already. -/
def forgive (path : Path) (reason : FileError) : Disk Unit := do
  if reason = .notFound then throw reason
  else if ← look (·.isDirectory (path.route standIns)) then return
  else throw reason

/-- As `makeDirectory`, and a directory that is there already will do. -/
def ensureDirectory (path : Path) : Disk Unit :=
  tryCatch (makeDirectory standIns path) (forgive standIns path)

/-- A directory and those above it that are missing; the names are the last one first. -/
def ensureDirectories (root : Text) : List Text → Disk Unit
  | [] => ensureDirectory standIns ⟨root, []⟩
  | name :: above =>
      let path : Path := ⟨root, (name :: above).reverse⟩
      tryCatch (makeDirectory standIns path) fun reason => do
        if reason = .notFound then
          ensureDirectories root above
          ensureDirectory standIns path
        else forgive standIns path reason

def openForWriting (path : Path) : Disk FileTree.Target := do
  let (target, tree) ← look fun tree => do tree.openForWriting (← path.route standIns)
  set tree
  return target

def write (target : FileTree.Target) (content : Bytes) : Disk Unit := do
  let (result, tree) := (← get).write target content
  set tree
  ofExcept result

/-- Writes a file and makes the directories it needs. The file is open already when it turns out
that there is no content to write. -/
def writeFile (path : Path) (content : Except FileError Bytes) : Disk Unit := do
  ensureDirectories standIns path.root path.parent.names.reverse
  let target ← openForWriting standIns path
  write target (← ofExcept content)

end

end Disk

end DiagramRepair

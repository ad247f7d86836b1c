import DiagramRepair.Encoding.Utf8

/-! A tree of files and directories, and what can be done in it. Names are bytes. Two locations may
hold one file, a link leads on to another location, and a device is read and written without being
a file. Any access may be refused, and a file may run out of room while it is written.
-/

namespace DiagramRepair

open Encoding (Bytes)

/-- The names from the top of a tree down to an entry; no double points are among them. -/
abbrev Location := List Bytes

/-- Why a path cannot be used. -/
inductive FileError where
  | notFound
  | notADirectory
  | isADirectory
  | alreadyExists
  | nameTooLong
  | tooManyLinks
  | permissionDenied
  | noSpace
  | inputOutput
  | nulInPath
  | notUtf8
  | notEncodable
  deriving DecidableEq

/-- A path as a tree reads it: from the top of the tree if slashes lead it, and else from some
directory. -/
structure Route where
  slashes : Nat
  names : List Bytes

namespace Route

/-- The number of bytes that a route is written with. -/
def length (route : Route) : Nat :=
  route.slashes + route.names.flatten.length + (route.names.length - 1)

/-- Where a route starts that is read in a directory. -/
def start (route : Route) (directory : Location) : Location :=
  if route.slashes = 0 then directory else []

end Route

/-- A file is told by its number, and a device by what reading it gives and what becomes of
writing to it. -/
inductive Entry where
  | file (number : Nat)
  | directory
  | link (target : Route)
  | device (source : Except FileError Bytes) (sink : Except FileError Unit)

/-- What may be refused at a location: to go on from the directory there, to read or to write what
is there, and to add an entry there. -/
inductive Access where
  | pass
  | read
  | write
  | add

/-- The entries below the top, which is a directory, the directory that relative paths start from,
and the content of the files. A file may have room for so many bytes only. -/
structure FileTree where
  entries : List (Location × Entry)
  workingDirectory : Location
  content : Nat → Bytes := fun _ => []
  refusal? : Access → Location → Option FileError := fun _ _ => none
  room? : Nat → Option Nat := fun _ => none

namespace FileTree

def entryAt? (tree : FileTree) (location : Location) : Option Entry :=
  if location = [] then some .directory else tree.entries.lookup location

/-- The number of the regular file at a location. -/
def fileAt? (tree : FileTree) (location : Location) : Option Nat :=
  match tree.entryAt? location with
  | some (.file number) => some number
  | _ => none

def linkAt? (tree : FileTree) (location : Location) : Option Route :=
  match tree.entryAt? location with
  | some (.link target) => some target
  | _ => none

def allow (tree : FileTree) (access : Access) (location : Location) : Except FileError Unit :=
  match tree.refusal? access location with
  | some reason => .error reason
  | none => .ok ()

/-- The tree with an entry where none was. -/
def add (tree : FileTree) (location : Location) (entry : Entry) : FileTree :=
  { tree with entries := tree.entries ++ [(location, entry)] }

def setContent (tree : FileTree) (number : Nat) (content : Bytes) : FileTree :=
  { tree with content := fun other => if other = number then content else tree.content other }

/-- A number that no file has. -/
def freshNumber (tree : FileTree) : Nat :=
  (tree.entries.map fun known =>
    match known.2 with
    | .file number => number + 1
    | _ => 0).foldr max 0

-----------------------------------------------------------------------------------------
-- Where paths lead
-----------------------------------------------------------------------------------------

/-- The most bytes that a name may have. -/
def maxNameLength : Nat := 255

/-- The most bytes that a path may have. -/
def maxPathLength : Nat := 4095

/-- The most links that a path may lead over. -/
def maxLinks : Nat := 40

/-- The name that leads up to the directory above. -/
def doublePoint : Bytes := [0x2E, 0x2E]

/-- How far a walk comes: to the location that the names lead to, or to a link in a directory. -/
inductive Stage where
  | arrived (location : Location)
  | linked (directory : Location) (target : Route) (behind : List Bytes)

/-- Goes on from a location by names. Every name but the last leads on from a directory, and
nothing has to be there under the last. A link under the last name is taken only if the walk
`follows` it. -/
def walk (tree : FileTree) (follows : Bool) : Location → List Bytes → Except FileError Stage
  | location, [] => .ok (.arrived location)
  | location, name :: names =>
      match tree.entryAt? location with
      | none => .error .notFound
      | some .directory => do
          tree.allow .pass location
          if maxNameLength < name.length then .error .nameTooLong
          else if name = doublePoint then tree.walk follows location.dropLast names
          else
            match tree.linkAt? (location ++ [name]) with
            | some target =>
                if names.isEmpty && !follows then .ok (.arrived (location ++ [name]))
                else .ok (.linked location target names)
            | none => tree.walk follows (location ++ [name]) names
      | some _ => .error .notADirectory

/-- Goes on from a location by names, over so many links at most. -/
def locateFrom (tree : FileTree) (follows : Bool)
    : (links : Nat) → Location → List Bytes → Except FileError Location
  | links, location, names =>
      match tree.walk follows location names with
      | .error reason => .error reason
      | .ok (.arrived found) => .ok found
      | .ok (.linked directory target behind) =>
          match links with
          | 0 => .error .tooManyLinks
          | links + 1 =>
              tree.locateFrom follows links (target.start directory) (target.names ++ behind)

def locate (tree : FileTree) (follows : Bool) (route : Route) : Except FileError Location :=
  if maxPathLength < route.length then .error .nameTooLong
  else tree.locateFrom follows maxLinks (route.start tree.workingDirectory) route.names

-----------------------------------------------------------------------------------------
-- What is done with paths
-----------------------------------------------------------------------------------------

/-- What a path leads to. -/
def entry (tree : FileTree) (route : Route) : Except FileError Entry := do
  match tree.entryAt? (← tree.locate true route) with
  | some entry => return entry
  | none => throw .notFound

def readBytes (tree : FileTree) (route : Route) : Except FileError Bytes := do
  let location ← tree.locate true route
  match tree.entryAt? location with
  | none => throw .notFound
  | some entry =>
      tree.allow .read location
      match entry with
      | .file number => return tree.content number
      | .directory => throw .isADirectory
      | .link _ => throw .tooManyLinks
      | .device source _ => source

/-- A new directory in one that is there. -/
def makeDirectory (tree : FileTree) (route : Route) : Except FileError FileTree := do
  let location ← tree.locate false route
  match tree.entryAt? location with
  | some _ => throw .alreadyExists
  | none =>
      tree.allow .add location
      return tree.add location .directory

/-- What is open to be written. -/
inductive Target where
  | file (number : Nat)
  | device (sink : Except FileError Unit)

/-- Opens what a path leads to. A file loses its content, and where nothing is a new one is made. -/
def openForWriting (tree : FileTree) (route : Route) : Except FileError (Target × FileTree) := do
  let location ← tree.locate true route
  match tree.entryAt? location with
  | some (.file number) =>
      tree.allow .write location
      return (.file number, tree.setContent number [])
  | some .directory => throw .isADirectory
  | some (.link _) => throw .tooManyLinks
  | some (.device _ sink) =>
      tree.allow .write location
      return (.device sink, tree)
  | none =>
      tree.allow .add location
      let number := tree.freshNumber
      return (.file number, (tree.add location (.file number)).setContent number [])

/-- Writes to what is open. What a file has no room for is lost. -/
def write (tree : FileTree) (target : Target) (content : Bytes)
    : Except FileError Unit × FileTree :=
  match target with
  | .device sink => (sink, tree)
  | .file number =>
      match (tree.room? number).filter (· < content.length) with
      | some room => (.error .noSpace, tree.setContent number (content.take room))
      | none => (.ok (), tree.setContent number content)

end FileTree

end DiagramRepair

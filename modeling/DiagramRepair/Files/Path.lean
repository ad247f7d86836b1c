import DiagramRepair.Text.Basic

/-! Paths. A path is a root, which is empty for a relative one, and the names that lead on from
it. Empty names and single points are dropped; a double point is a name like others.
-/

namespace DiagramRepair

structure Path where
  root : Text
  names : List Text
  deriving DecidableEq

namespace Path

/-- The slashes a path starts with, as far as they count: two are a root of their own, and any
other number stands for one. -/
def rootOf (text : Text) : Text :=
  match text.takeWhile (· = '/') with
  | [] => []
  | ['/', '/'] => ['/', '/']
  | _ => ['/']

def ofText (text : Text) : Path :=
  { root := rootOf text
    names := (text.splitOn '/').filter fun name => name ≠ [] ∧ name ≠ ['.'] }

/-- A path in its shortest spelling. -/
def text (path : Path) : Text :=
  match path.root ++ Text.joinWith ['/'] path.names with
  | [] => ['.']
  | spelled => spelled

/-- The path without its last name. -/
def parent (path : Path) : Path :=
  { path with names := path.names.dropLast }

end Path

end DiagramRepair

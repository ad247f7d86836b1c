import DiagramRepair.Diagram.Declaration
import DiagramRepair.Edge.Connector

/-! Dangling edges: lines that end in a connector, or in a connector and its label, so that
the edge has no target.
-/

namespace DiagramRepair.Edge

def lacksTarget (backwards : Text) : Bool :=
  isConnector backwards || isDottedArrow backwards

/-- The line ends in a connector, or in a label between two pipes behind a connector. -/
def isDangling (line : Text) : Bool :=
  let backwards := (Text.trim line).reverse
  lacksTarget backwards
  || match backwards with
    | '|' :: rest =>
        match Text.cutAt? '|' rest with
        | some (_, front) => lacksTarget (front.dropWhile Text.isBlank)
        | none => false
    | _ => false

def removedMarker : Text :=
  "(incomplete edge removed)".toList

/-- The line as a comment that keeps its text and its indentation. -/
def commentOut (line : Text) : Text :=
  Text.indent line ++ commentMarker ++ ' ' :: Text.trim line ++ ' ' :: commentMarker
    ++ ' ' :: removedMarker

end DiagramRepair.Edge

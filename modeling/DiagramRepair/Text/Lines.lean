import DiagramRepair.Text.Basic

/-! Lines of a text. A line ends at a line feed, with or without a carriage return before it;
a carriage return alone is an ordinary character.
-/

namespace DiagramRepair.Text

/-- Every carriage return before a line feed is dropped. -/
def dropReturns : Text → Text
  | '\r' :: '\n' :: rest => '\n' :: dropReturns rest
  | c :: rest => c :: dropReturns rest
  | [] => []

/-- The lines of a text; a text that ends in a line feed has an empty last line. -/
def lines (text : Text) : List Text :=
  (dropReturns text).splitOn '\n'

def joinLines (lines : List Text) : Text :=
  joinWith ['\n'] lines

/-- All three line ends become a line feed. -/
def unifyLineEnds : Text → Text
  | '\r' :: '\n' :: rest => '\n' :: unifyLineEnds rest
  | '\r' :: rest => '\n' :: unifyLineEnds rest
  | c :: rest => c :: unifyLineEnds rest
  | [] => []

end DiagramRepair.Text

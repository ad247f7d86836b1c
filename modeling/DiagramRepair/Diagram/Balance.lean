import DiagramRepair.Diagram.Declaration
import DiagramRepair.Diagram.Relationship
import DiagramRepair.Text.Integer

/-! The bracket balance of a diagram, counted over the whole text since labels may run over
several lines. In ER diagrams the cardinality symbols of relationships do not count.
-/

namespace DiagramRepair

inductive Bracket where
  | square
  | round
  | curly
  deriving DecidableEq

namespace Bracket

def all : List Bracket :=
  [.square, .round, .curly]

def name : Bracket → Text
  | .square => "square brackets".toList
  | .round => "parentheses".toList
  | .curly => "curly braces".toList

def opener : Bracket → Char
  | .square => '['
  | .round => '('
  | .curly => '{'

def closer : Bracket → Char
  | .square => ']'
  | .round => ')'
  | .curly => '}'

end Bracket

/-- A bracket pair whose two sides occur unequally often. -/
structure Imbalance where
  bracket : Bracket
  opening : Nat
  closing : Nat

def Imbalance.message (imbalance : Imbalance) : Text :=
  "Mismatched ".toList ++ imbalance.bracket.name ++ ": ".toList
    ++ Text.ofNat imbalance.opening ++ " opening '".toList ++ [imbalance.bracket.opener]
    ++ "', ".toList ++ Text.ofNat imbalance.closing ++ " closing '".toList
    ++ [imbalance.bracket.closer] ++ "'".toList

/-- Blanks out the first cardinality symbol that stands between two blanks. The flag tells
whether a blank stands before the text. -/
def maskSymbolFrom (afterBlank : Bool) : Text → Text
  | [] => []
  | c :: rest =>
      -- A symbol between two blanks is all that stands between them.
      let token := (c :: rest).takeWhile Text.isNotBlank
      let behind := (c :: rest).dropWhile Text.isNotBlank
      if afterBlank && !behind.isEmpty && isCardinality token then ' ' :: behind
      else c :: maskSymbolFrom (Text.isBlank c) rest

/-- A line of an ER diagram as its brackets are counted. -/
def maskedLine (line : Text) : Text :=
  if (relationship? line).isSome then maskSymbolFrom false line else line

/-- The text whose brackets count. -/
def countedText (text : Text) : Text :=
  let lines := Text.lines text
  if isErDiagram lines then Text.joinLines (lines.map maskedLine) else text

/-- The bracket pairs that do not balance. -/
def imbalances (text : Text) : List Imbalance :=
  let counted := countedText text
  (Bracket.all.map fun bracket =>
      ⟨bracket, counted.count bracket.opener, counted.count bracket.closer⟩).filter
    fun imbalance => imbalance.opening != imbalance.closing

def imbalanceSummary (found : List Imbalance) : Text :=
  Text.joinWith "; ".toList (found.map Imbalance.message)

end DiagramRepair

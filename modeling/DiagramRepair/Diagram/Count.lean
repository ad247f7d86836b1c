import DiagramRepair.Diagram.Line

/-! What a diagram consists of, counted: nodes, edges and subgraphs of a flowchart, or
entities, relationships and attributes of an ER diagram.
-/

namespace DiagramRepair

inductive Counts where
  | flowchart (nodes edges subgraphs : Nat)
  | er (entities relationships attributes : Nat)
  deriving DecidableEq

namespace Counts

/-- The connectors that join two nodes; one that starts another comes after it. -/
def connectors : List Text :=
  [
    ['<', '-', '-', '>'], ['-', '-', '>'], ['<', '-', '.', '-', '>'], ['-', '.', '-', '>'],
    ['<', '=', '=', '>'], ['=', '=', '>'], ['-', '-', '-'], ['-', '.', '-'], ['=', '=', '=']
  ]

/-- What follows a connector at the start of a text. -/
def afterConnector? (text : Text) : Option Text :=
  connectors.findSome? fun connector => Text.afterLead? connector text

theorem length_lt_of_afterConnector? {text behind : Text}
    (h : afterConnector? text = some behind)
    : behind.length < text.length := by
  obtain ⟨connector, hmem, hafter⟩ := List.exists_of_findSome?_eq_some h
  have hpos : 0 < connector.length := by
    revert connector
    simp [connectors]
  rw [Text.afterLead?_eq_some_iff.1 hafter, List.length_append]
  omega

/-- The parts of a statement between its connectors. -/
def connectedParts : Text → List Text
  | [] => [[]]
  | c :: rest =>
      match _h : afterConnector? (c :: rest) with
      | some behind => [] :: connectedParts behind
      | none =>
          match connectedParts rest with
          | [] => [[c]]
          | part :: parts => (c :: part) :: parts
termination_by text => text.length
decreasing_by
  · exact length_lt_of_afterConnector? _h
  · simp

/-- The word that a part starts with, behind an edge label if there is one. -/
def nodeOfPart? (part : Text) : Option Text :=
  let part := Text.trim part
  let part :=
    match part with
    | '|' :: rest =>
        match Text.cutAt? '|' rest with
        | some (_, behind) => Text.trim behind
        | none => part
    | _ => part
  let word := part.takeWhile Text.isWordChar
  if word.isEmpty then none else some word

/-- The node that a statement without connectors defines. -/
def nodeOfStatement? (statement : Text) : Option Text :=
  let (word, rest) := statement.span Text.isWordChar
  match word, rest.dropWhile Text.isBlank with
  | _ :: _, c :: _ => if c = '[' ∨ c = '(' ∨ c = '{' then some word else none
  | _, _ => none

/-- The statement starts with one of these words and goes on behind it. -/
def startsWithWord (words : List Text) (statement : Text) : Bool :=
  let (word, rest) := statement.span Text.isNotBlank
  words.contains word && !rest.isEmpty

def directives : List Text :=
  [
    "classDef".toList, "style".toList, "linkStyle".toList, "class".toList, "click".toList,
    "direction".toList
  ]

/-- What one statement of a flowchart adds: its nodes, edges and subgraphs. -/
structure Tally where
  nodes : List Text
  edges : Nat
  subgraphs : Nat

def Tally.ofStatement (statement : Text) : Tally :=
  if statement.isEmpty || startsWithWord directives statement || statement == "end".toList then
    ⟨[], 0, 0⟩
  else if startsWithWord ["subgraph".toList] statement then ⟨[], 0, 1⟩
  else
    let parts := connectedParts statement
    if parts.length > 1 then ⟨parts.filterMap nodeOfPart?, parts.length - 1, 0⟩
    else ⟨(nodeOfStatement? statement).toList, 0, 0⟩

/-- The statement on a line of a flowchart. -/
def statementOf? (line : Line) : Option Text :=
  match line.kind with
  | .declaration => (Declaration.ofLine? line.text).map Declaration.body
  | .content => some line.trimmed
  | _ => none

def countDistinct (names : List Text) : Nat :=
  names.eraseDups.length

def total (numbers : List Nat) : Nat :=
  numbers.foldr Nat.add 0

def ofFlowchart (lines : List Line) : Counts :=
  let tallies := (lines.filterMap statementOf?).map Tally.ofStatement
  .flowchart (countDistinct (tallies.flatMap Tally.nodes)) (total (tallies.map Tally.edges))
    (total (tallies.map Tally.subgraphs))

/-- The entities that a line names. -/
def entitiesOf (line : Line) : List Text :=
  match line.kind with
  | .entityStart => [entityName line.text]
  | .relationship =>
      match relationship? line.text with
      | some relationship => [relationship.left, relationship.right]
      | none => []
  | _ => []

def ofErDiagram (lines : List Line) : Counts :=
  .er (countDistinct (lines.flatMap entitiesOf))
    (lines.countP fun line => line.kind == .relationship)
    (lines.countP fun line => line.kind == .attribute)

end Counts

/-- The counts of a diagram; a text of no known type is counted as a flowchart. -/
def countElements (text : Text) : Counts :=
  let lines := Text.lines text
  if isErDiagram lines then .ofErDiagram (classify lines) else .ofFlowchart (classify lines)

end DiagramRepair

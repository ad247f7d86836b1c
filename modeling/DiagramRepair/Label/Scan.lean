import DiagramRepair.Edge.Connector
import DiagramRepair.Label.Quoting
import DiagramRepair.Label.Shape
import DiagramRepair.Text.Word

/-! The labels of a flowchart line. A line is cut without loss into labels and the plain text
around them; quoting then replaces labels and leaves the plain text as it is.
-/

namespace DiagramRepair.Label

/-- A part of a line: a label, or text that is none. -/
inductive Piece where
  | plain (text : Text)
  | label (content : Text)

namespace Piece

def text : Piece → Text
  | .plain text => text
  | .label content => content

/-- The piece as it is written after quoting. -/
def written (reserved : List Char) : Piece → Text
  | .plain text => text
  | .label content => Label.written reserved content

/-- The label, if it changes by quoting. -/
def changed? (reserved : List Char) : Piece → Option Text
  | .plain _ => none
  | .label content => if (quote? reserved content).isSome then some content else none

end Piece

def textOf (pieces : List Piece) : Text :=
  pieces.flatMap Piece.text

/-- The edge label that follows an opening pipe and what follows its closing pipe. A double
quote at its start keeps the pipes up to the next double quote inside the label. -/
def edgeLabel? (text : Text) : Option (Text × Text) :=
  match text.dropWhile Text.isBlank with
  | '"' :: rest =>
      match Text.cutAt? '"' rest with
      | some (inside, behind) =>
          -- Pipes between the quotes belong to the label, so the search goes on behind them.
          (Text.cutAt? '|' behind).map fun sides =>
            (text.takeWhile Text.isBlank ++ '"' :: inside ++ '"' :: sides.1, sides.2)
      | none => Text.cutAt? '|' text
  | _ => Text.cutAt? '|' text

/-- The pieces behind a double quote: all up to the next one, or the rest of the text. -/
def runPieces (rest : Text) : List Piece × Text :=
  match Text.cutAt? '"' rest with
  | some (inside, behind) => ([.plain ('"' :: inside ++ ['"'])], behind)
  | none => ([.plain ('"' :: rest)], [])

/-- The pieces behind a pipe that opens an edge label. -/
def edgePieces (rest : Text) : List Piece × Text :=
  match edgeLabel? rest with
  | some (content, behind) => ([.plain ['|'], .label content, .plain ['|']], behind)
  | none => ([.plain ['|']], rest)

/-- The pieces of a word and of the node label behind it. -/
def nodePieces (word behind : Text) : List Piece × Text :=
  match shapeLabel? behind with
  | some (opener, closing) =>
      ([.plain (word ++ opener), .label closing.content, .plain closing.closer],
        closing.behind)
  | none => ([.plain word], behind)

/-- The pieces at the start of a text, and the rest of it: a quoted run, an edge label, a word
with the label of a node or without one, or a single character. -/
def nextPieces (backwards : Text) (c : Char) (rest : Text) : List Piece × Text :=
  if c = '"' then runPieces rest
  else if c = '|' ∧ Edge.opensLabel backwards then edgePieces rest
  else if Text.isWordChar c then
    nodePieces (c :: rest.takeWhile Text.isWordChar) (rest.dropWhile Text.isWordChar)
  else ([.plain [c]], rest)

theorem edgeLabel?_eq_some {text content behind : Text}
    (h : edgeLabel? text = some (content, behind))
    : text = content ++ '|' :: behind := by
  unfold edgeLabel? at h
  split at h
  · rename_i rest hrest
    split at h
    · rename_i inside tail hcut
      obtain ⟨⟨middle, back⟩, hpipe, heq⟩ := Option.map_eq_some_iff.1 h
      obtain ⟨rfl, rfl⟩ := Prod.mk.inj heq
      have htext := List.takeWhile_append_dropWhile (p := Text.isBlank) (l := text)
      rw [hrest, (Text.cutAt?_eq_some hcut).1, (Text.cutAt?_eq_some hpipe).1] at htext
      simpa using htext.symm
    · exact (Text.cutAt?_eq_some h).1
  · exact (Text.cutAt?_eq_some h).1

theorem textOf_runPieces (rest : Text)
    : textOf (runPieces rest).1 ++ (runPieces rest).2 = '"' :: rest := by
  unfold runPieces
  split
  · rename_i inside behind hcut
    simp [textOf, Piece.text, (Text.cutAt?_eq_some hcut).1]
  · simp [textOf, Piece.text]

theorem textOf_edgePieces (rest : Text)
    : textOf (edgePieces rest).1 ++ (edgePieces rest).2 = '|' :: rest := by
  unfold edgePieces
  split
  · rename_i content behind hlabel
    simp [textOf, Piece.text, edgeLabel?_eq_some hlabel]
  · simp [textOf, Piece.text]

theorem textOf_nodePieces (word behind : Text)
    : textOf (nodePieces word behind).1 ++ (nodePieces word behind).2 = word ++ behind := by
  unfold nodePieces
  split
  · rename_i opener closing hlabel
    simp [textOf, Piece.text, shapeLabel?_eq_some hlabel]
  · simp [textOf, Piece.text]

/-- The pieces and the rest make up the text. -/
theorem textOf_nextPieces (backwards : Text) (c : Char) (rest : Text)
    : textOf (nextPieces backwards c rest).1 ++ (nextPieces backwards c rest).2 = c :: rest := by
  unfold nextPieces
  split
  · rename_i hc
    rw [textOf_runPieces, hc]
  · split
    · rename_i hc
      rw [textOf_edgePieces, hc.1]
    · split
      · rw [textOf_nodePieces, List.cons_append, List.takeWhile_append_dropWhile]
      · simp [textOf, Piece.text]

/-- Every step reads at least one character. -/
theorem textOf_nextPieces_ne_nil (backwards : Text) (c : Char) (rest : Text)
    : textOf (nextPieces backwards c rest).1 ≠ [] := by
  unfold nextPieces runPieces edgePieces nodePieces
  repeat' split
  all_goals simp [textOf, Piece.text]

theorem length_nextPieces_lt (backwards : Text) (c : Char) (rest : Text)
    : (nextPieces backwards c rest).2.length < (c :: rest).length := by
  have h := congrArg List.length (textOf_nextPieces backwards c rest)
  have hpos := List.length_pos_iff.2 (textOf_nextPieces_ne_nil backwards c rest)
  rw [List.length_append] at h
  omega

/-- The pieces of a text, given what stands before it, backwards. -/
def piecesFrom (backwards : Text) : Text → List Piece
  | [] => []
  | c :: rest =>
      let next := nextPieces backwards c rest
      next.1 ++ piecesFrom ((textOf next.1).reverse ++ backwards) next.2
termination_by text => text.length
decreasing_by exact length_nextPieces_lt backwards c rest

/-- The pieces of a line. -/
def pieces (line : Text) : List Piece :=
  piecesFrom [] line

/-- A line with its labels quoted, and the labels that changed. -/
structure QuotedLine where
  text : Text
  changed : List Text

/-- Quotes the node and edge labels of a flowchart line. -/
def quoteLine (reserved : List Char) (line : Text) : QuotedLine where
  text := (pieces line).flatMap (Piece.written reserved)
  changed := (pieces line).filterMap (Piece.changed? reserved)

end DiagramRepair.Label

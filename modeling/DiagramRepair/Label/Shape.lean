import DiagramRepair.Text.Basic

/-! Node shapes and the delimiters around their labels. The closer of a label is the first
that stands outside every bracket and every quoted run of the label.
-/

namespace DiagramRepair.Label

inductive Shape where
  | doubleCircle
  | subroutine
  | circle
  | hexagon
  | cylinder
  | stadium
  | parallelogram
  | trapezoid
  | rectangle
  | rounded
  | rhombus
  deriving DecidableEq

namespace Shape

/-- The shapes in order of precedence, longer openers before shorter ones. -/
def all : List Shape :=
  [
    .doubleCircle, .subroutine, .circle, .hexagon, .cylinder, .stadium, .parallelogram,
    .trapezoid, .rectangle, .rounded, .rhombus
  ]

def opener : Shape → Text
  | .doubleCircle => ['(', '(', '(']
  | .subroutine => ['[', '[']
  | .circle => ['(', '(']
  | .hexagon => ['{', '{']
  | .cylinder => ['[', '(']
  | .stadium => ['(', '[']
  | .parallelogram => ['[', '/']
  | .trapezoid => ['[', '\\']
  | .rectangle => ['[']
  | .rounded => ['(']
  | .rhombus => ['{']

/-- The closers of a shape, the preferred one first. -/
def closers : Shape → List Text
  | .doubleCircle => [[')', ')', ')']]
  | .subroutine => [[']', ']']]
  | .circle => [[')', ')']]
  | .hexagon => [['}', '}']]
  | .cylinder => [[')', ']']]
  | .stadium => [[']', ')']]
  | .parallelogram => [['/', ']'], ['\\', ']']]
  | .trapezoid => [['\\', ']'], ['/', ']']]
  | .rectangle => [[']']]
  | .rounded => [[')']]
  | .rhombus => [['}']]

end Shape

def isOpeningBracket (c : Char) : Bool :=
  c == '[' || c == '(' || c == '{'

def isClosingBracket (c : Char) : Bool :=
  c == ']' || c == ')' || c == '}'

/-- A text cut at the closer of a label. -/
structure Closing where
  content : Text
  closer : Text
  behind : Text

def Closing.extend (lead : Text) (closing : Closing) : Closing :=
  { closing with content := lead ++ closing.content }

/-- The first of the closers that the text starts with, and what follows it. -/
def closerAt? (closers : List Text) (text : Text) : Option (Text × Text) :=
  closers.findSome? fun closer => (Text.afterLead? closer text).map fun behind => (closer, behind)

/-- The closers that count at a bracket depth: all of them outside brackets, else none. -/
def closersAt : (depth : Nat) → (closers : List Text) → List Text
  | 0, closers => closers
  | _ + 1, _ => []

/-- Finds the first closer at bracket depth zero. Brackets of all kinds count alike; a double
quote with another one behind it starts a run in which nothing counts; a closing bracket too
many ends the search. -/
def close? (closers : List Text) (depth : Nat) : Text → Option Closing
  | [] => none
  | c :: rest =>
      match closerAt? (closersAt depth closers) (c :: rest) with
      | some (closer, behind) => some ⟨[], closer, behind⟩
      | none =>
          if c = '"' then
            match _h : Text.cutAt? '"' rest with
            | some (inside, behind) =>
                (close? closers depth behind).map (.extend ('"' :: inside ++ ['"']))
            -- A quote without a partner is an ordinary character.
            | none => (close? closers depth rest).map (.extend [c])
          else if isOpeningBracket c then
            (close? closers (depth + 1) rest).map (.extend [c])
          else if isClosingBracket c then
            match depth with
            | 0 => none
            | depth + 1 => (close? closers depth rest).map (.extend [c])
          else (close? closers depth rest).map (.extend [c])
termination_by text => text.length
decreasing_by
  · have := Text.length_lt_of_cutAt? _h
    simp only [List.length_cons]
    omega
  all_goals simp

/-- A label with its opener, at the start of a text. -/
def shapeLabel? (text : Text) : Option (Text × Closing) :=
  Shape.all.findSome? fun shape =>
    (Text.afterLead? shape.opener text).bind fun inside =>
      (close? shape.closers 0 inside).map fun closing => (shape.opener, closing)

theorem closerAt?_eq_some {closers : List Text} {text closer behind : Text}
    (h : closerAt? closers text = some (closer, behind))
    : closer ∈ closers ∧ text = closer ++ behind := by
  obtain ⟨found, hmem, hfound⟩ := List.exists_of_findSome?_eq_some h
  obtain ⟨rest, hrest, heq⟩ := Option.map_eq_some_iff.1 hfound
  obtain ⟨rfl, rfl⟩ := Prod.mk.inj heq
  exact ⟨hmem, Text.afterLead?_eq_some_iff.1 hrest⟩

/-- A closing loses nothing of the text. -/
theorem close?_eq_some {closers : List Text} {depth : Nat} {text : Text} {closing : Closing}
    (h : close? closers depth text = some closing)
    : text = closing.content ++ closing.closer ++ closing.behind := by
  fun_induction close? closers depth text generalizing closing with
  | case1 => simp at h
  | case2 depth c rest closer behind hclose =>
      obtain rfl := Option.some.inj h
      simp [(closerAt?_eq_some hclose).2]
  | case3 depth rest inside behind hcut _ ih =>
      obtain ⟨inner, hinner, rfl⟩ := Option.map_eq_some_iff.1 h
      rw [(Text.cutAt?_eq_some hcut).1, ih hinner]
      simp [Closing.extend]
  | case6 => simp at h
  | case4 depth rest _ _ ih =>
      obtain ⟨inner, hinner, rfl⟩ := Option.map_eq_some_iff.1 h
      rw [ih hinner]
      simp [Closing.extend]
  | case5 depth c rest _ _ _ ih =>
      obtain ⟨inner, hinner, rfl⟩ := Option.map_eq_some_iff.1 h
      rw [ih hinner]
      simp [Closing.extend]
  | case7 c rest _ _ _ depth _ ih =>
      obtain ⟨inner, hinner, rfl⟩ := Option.map_eq_some_iff.1 h
      rw [ih hinner]
      simp [Closing.extend]
  | case8 depth c rest _ _ _ _ ih =>
      obtain ⟨inner, hinner, rfl⟩ := Option.map_eq_some_iff.1 h
      rw [ih hinner]
      simp [Closing.extend]

/-- A label found at the start of a text loses nothing of it. -/
theorem shapeLabel?_eq_some {text opener : Text} {closing : Closing}
    (h : shapeLabel? text = some (opener, closing))
    : text = opener ++ closing.content ++ closing.closer ++ closing.behind := by
  obtain ⟨shape, _, hshape⟩ := List.exists_of_findSome?_eq_some h
  obtain ⟨inside, hinside, hmap⟩ := Option.bind_eq_some_iff.1 hshape
  obtain ⟨found, hfound, heq⟩ := Option.map_eq_some_iff.1 hmap
  obtain ⟨rfl, rfl⟩ := Prod.mk.inj heq
  rw [Text.afterLead?_eq_some_iff.1 hinside, close?_eq_some hfound]
  simp

end DiagramRepair.Label

import DiagramRepair.Text.Case

/-! Fenced blocks of a markdown text. A text is cut without loss into blocks and the prose
around them; a block runs from its opening line to the next three backticks.
-/

namespace DiagramRepair.Markdown

def fence : Text :=
  ['\x60', '\x60', '\x60']

/-- A part of a document. The opening of a block includes its line feed. -/
inductive Segment where
  | prose (text : Text)
  | block (opening body : Text)

namespace Segment

def text : Segment → Text
  | .prose text => text
  | .block opening body => opening ++ body ++ fence

def body? : Segment → Option Text
  | .prose _ => none
  | .block _ body => some body

end Segment

/-- The two sides of the first three backticks. -/
def cutAtFence? : Text → Option (Text × Text)
  | [] => none
  | c :: rest =>
      match Text.afterLead? fence (c :: rest) with
      | some behind => some ([], behind)
      | none => (cutAtFence? rest).map fun sides => (c :: sides.1, sides.2)

/-- The opening line at the start of a text and what follows it, if its info text, which is
what stands behind the backticks, is of the wanted kind. -/
def opening? (isWanted : Text → Bool) (text : Text) : Option (Text × Text) :=
  (Text.afterLead? fence text).bind fun rest =>
    (Text.cutAt? '\n' rest).bind fun sides =>
      if isWanted sides.1 then some (fence ++ sides.1 ++ ['\n'], sides.2) else none

/-- Whether a character is the given small letter in lower or upper case. The dotted and the
dotless i count as i. -/
def isLetter (letter c : Char) : Bool :=
  Text.lowerChar c == [letter] || (letter == 'i' && (c == '\u0130' || c == '\u0131'))

/-- The info text starts with the word mermaid in any case. -/
def isMermaidInfo (info : Text) : Bool :=
  let word := "mermaid".toList
  word.length ≤ info.length && (word.zipWith isLetter info).all id

/-- The info text of any fenced block holds no backtick. -/
def isPlainInfo (info : Text) : Bool :=
  !info.contains '\x60'

/-- A block at the start of a text: its opening, its body, and what follows it. -/
def block? (isWanted : Text → Bool) (text : Text) : Option (Text × Text × Text) :=
  (opening? isWanted text).bind fun (opening, inside) =>
    (cutAtFence? inside).map fun (body, behind) => (opening, body, behind)

theorem cutAtFence?_eq_some {text body behind : Text}
    (h : cutAtFence? text = some (body, behind))
    : text = body ++ fence ++ behind := by
  induction text generalizing body with
  | nil => simp [cutAtFence?] at h
  | cons c text ih =>
      unfold cutAtFence? at h
      split at h
      · rename_i rest hrest
        obtain ⟨rfl, rfl⟩ := Prod.mk.inj (Option.some.inj h)
        simpa using Text.afterLead?_eq_some_iff.1 hrest
      · obtain ⟨⟨front, back⟩, hcut, heq⟩ := Option.map_eq_some_iff.1 h
        obtain ⟨rfl, rfl⟩ := Prod.mk.inj heq
        rw [ih hcut]
        simp

theorem opening?_eq_some {isWanted : Text → Bool} {text opening inside : Text}
    (h : opening? isWanted text = some (opening, inside))
    : text = opening ++ inside ∧ opening ≠ [] := by
  obtain ⟨rest, hrest, hbind⟩ := Option.bind_eq_some_iff.1 h
  obtain ⟨⟨info, back⟩, hcut, hif⟩ := Option.bind_eq_some_iff.1 hbind
  split at hif
  · obtain ⟨rfl, rfl⟩ := Prod.mk.inj (Option.some.inj hif)
    rw [Text.afterLead?_eq_some_iff.1 hrest, (Text.cutAt?_eq_some hcut).1]
    simp
  · simp at hif

/-- A block loses nothing of the text, and its opening is not empty. -/
theorem block?_eq_some {isWanted : Text → Bool} {text opening body behind : Text}
    (h : block? isWanted text = some (opening, body, behind))
    : text = opening ++ body ++ fence ++ behind ∧ opening ≠ [] := by
  obtain ⟨⟨first, inside⟩, hopening, hmap⟩ := Option.bind_eq_some_iff.1 h
  obtain ⟨⟨middle, back⟩, hcut, heq⟩ := Option.map_eq_some_iff.1 hmap
  obtain ⟨rfl, rfl, rfl⟩ := by simpa using heq
  obtain ⟨rfl, hne⟩ := opening?_eq_some hopening
  rw [cutAtFence?_eq_some hcut]
  exact ⟨by simp, hne⟩

theorem length_lt_of_block? {isWanted : Text → Bool} {text opening body behind : Text}
    (h : block? isWanted text = some (opening, body, behind))
    : behind.length < text.length := by
  obtain ⟨rfl, hne⟩ := block?_eq_some h
  have := List.length_pos_iff.2 hne
  simp only [List.length_append]
  omega

/-- A character of prose before the segments that follow it. -/
def Segment.consProse (c : Char) : List Segment → List Segment
  | .prose text :: segments => .prose (c :: text) :: segments
  | segments => .prose [c] :: segments

/-- The segments of a text, blocks being those with a wanted info text. -/
def segments (isWanted : Text → Bool) : Text → List Segment
  | [] => []
  | c :: rest =>
      match _h : block? isWanted (c :: rest) with
      | some (opening, body, behind) => .block opening body :: segments isWanted behind
      | none => Segment.consProse c (segments isWanted rest)
termination_by text => text.length
decreasing_by
  · exact length_lt_of_block? _h
  · simp

end DiagramRepair.Markdown

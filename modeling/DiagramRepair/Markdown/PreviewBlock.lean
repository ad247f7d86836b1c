import DiagramRepair.Markdown.Fence
import DiagramRepair.Text.Blank
import DiagramRepair.Text.Lines

/-! Blocks of a markdown text as a preview shows them: headings, fenced code, and paragraphs
between blank lines. They are the part of what the `markdown` package tells apart that is needed for
documents of diagrams and plain words.
-/

namespace DiagramRepair.Markdown

/-- Tabs become spaces up to the next column that is a multiple of four. -/
def expandTabs (column : Nat) : Text → Text
  | [] => []
  | '\t' :: rest =>
      let width := 4 - column % 4
      List.replicate width ' ' ++ expandTabs (column + width) rest
  | '\n' :: rest => '\n' :: expandTabs 0 rest
  | c :: rest => c :: expandTabs (column + 1) rest

/-- A line of nothing but spaces counts as empty. -/
def emptySpaces (line : Text) : Text :=
  if line.all (· = ' ') then [] else line

/-- The lines of a document as a preview sees them. -/
def previewLines (text : Text) : List Text :=
  ((expandTabs 0 (Text.unifyLineEnds text)).splitOn '\n').map emptySpaces

inductive PreviewBlock where
  | heading (level : Nat) (text : Text)
  | code (language : Text) (lines : List Text)
  | paragraph (lines : List Text)

/-- A heading has one to six number signs before it, and may have more behind it. -/
def heading? (line : Text) : Option PreviewBlock :=
  let level := min 6 (line.takeWhile (· = '#')).length
  if level = 0 then none
  else
    let text := ((line.drop level).reverse.dropWhile (· = '#')).reverse
    some (.heading level (Text.trim text))

/-- The language that an opening fence names. -/
def fenceLanguage? (line : Text) : Option Text :=
  match Text.afterLead? fence line with
  | some info =>
      let language := Text.trim info
      if language.any fun c => Text.isBlank c || c = '\x60' then none else some language
  | none => none

def isClosingFence (line : Text) : Bool :=
  Text.trimRight line == fence

/-- The lines inside a fenced block and those behind it. -/
def cutAtClosingFence? : List Text → Option (List Text × List Text)
  | [] => none
  | line :: rest =>
      if isClosingFence line then some ([], rest)
      else (cutAtClosingFence? rest).map fun sides => (line :: sides.1, sides.2)

theorem length_lt_of_cutAtClosingFence? {lines inside behind : List Text}
    (h : cutAtClosingFence? lines = some (inside, behind))
    : behind.length < lines.length := by
  induction lines generalizing inside with
  | nil => simp [cutAtClosingFence?] at h
  | cons line rest ih =>
      unfold cutAtClosingFence? at h
      split at h
      · obtain ⟨-, rfl⟩ := Prod.mk.inj (Option.some.inj h)
        simp
      · obtain ⟨⟨front, back⟩, hcut, heq⟩ := Option.map_eq_some_iff.1 h
        obtain ⟨-, rfl⟩ := Prod.mk.inj heq
        simpa using Nat.lt_succ_of_lt (ih hcut)

/-- A fenced block that starts with a line, and the lines behind it. -/
def codeBlock? (line : Text) (rest : List Text) : Option (PreviewBlock × List Text) :=
  (fenceLanguage? line).bind fun language =>
    (cutAtClosingFence? rest).map fun (inside, behind) => (.code language inside, behind)

theorem length_lt_of_codeBlock? {line : Text} {rest behind : List Text} {block : PreviewBlock}
    (h : codeBlock? line rest = some (block, behind))
    : behind.length < rest.length := by
  obtain ⟨_, _, hmap⟩ := Option.bind_eq_some_iff.1 h
  obtain ⟨⟨inside, back⟩, hcut, heq⟩ := Option.map_eq_some_iff.1 hmap
  obtain ⟨-, rfl⟩ := Prod.mk.inj heq
  exact length_lt_of_cutAtClosingFence? hcut

/-- The paragraph of the lines read so far, which come in reverse. -/
def paragraphOf : List Text → List PreviewBlock
  | [] => []
  | lines => [.paragraph lines.reverse]

/-- The blocks of a document behind the lines of a paragraph, which come in reverse. -/
def previewBlocksAfter (paragraph : List Text) : List Text → List PreviewBlock
  | [] => paragraphOf paragraph
  | line :: rest =>
      match _h : codeBlock? line rest with
      | some (block, behind) => paragraphOf paragraph ++ block :: previewBlocksAfter [] behind
      | none =>
          match heading? line with
          | some block => paragraphOf paragraph ++ block :: previewBlocksAfter [] rest
          | none =>
              if Text.isAllBlank line then paragraphOf paragraph ++ previewBlocksAfter [] rest
              else previewBlocksAfter (line :: paragraph) rest
termination_by lines => lines.length
decreasing_by
  · have := length_lt_of_codeBlock? _h
    simp only [List.length_cons]
    omega
  all_goals simp

def previewBlocks (text : Text) : List PreviewBlock :=
  previewBlocksAfter [] (previewLines text)

end DiagramRepair.Markdown

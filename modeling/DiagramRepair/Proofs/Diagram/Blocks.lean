import DiagramRepair.Proofs.Diagram.Classification
import Mathlib

/-! Entity blocks in a classified diagram. The kinds of its lines are a word of a regular language:
blocks are opened and closed in turn, and only the last one may stay open. The first line that is
neither blank nor a comment is the one that declares the type.
-/

namespace DiagramRepair

open Text
open scoped Computability

-----------------------------------------------------------------------------------------
-- The language of line kinds
-----------------------------------------------------------------------------------------

namespace LineKind

/-- The kinds of the lines that stand outside entity blocks. -/
def outsideKinds : List LineKind :=
  [.declaration, .comment, .blank, .relationship, .content]

/-- The kinds of the lines that stand inside entity blocks. -/
def insideKinds : List LineKind :=
  [.attribute, .comment, .blank]

/-- The kinds that lines of ER diagrams alone may have. -/
def erKinds : List LineKind :=
  [.entityStart, .entityEnd, .attribute, .relationship]

/-- The words that are one of some kinds. -/
def oneOf (kinds : List LineKind) : Language LineKind :=
  {word | ∃ kind ∈ kinds, word = [kind]}

/-- A whole entity block and the lines in front of it. -/
def closedBlock : Language LineKind :=
  (oneOf outsideKinds)∗ * oneOf [.entityStart] * (oneOf insideKinds)∗ * oneOf [.entityEnd]

/-- Whole blocks, lines outside blocks, and at the end perhaps a block that stays open. -/
def blockWords : Language LineKind :=
  closedBlock∗ * (oneOf outsideKinds)∗ * (1 + oneOf [.entityStart] * (oneOf insideKinds)∗)

/-- What may follow inside an open block. -/
def openBlockWords : Language LineKind :=
  (oneOf insideKinds)∗ * (1 + oneOf [.entityEnd] * blockWords)

/-- What may follow in a state of the classifier. -/
def wordsFrom : (inBlock : Bool) → Language LineKind
  | false => blockWords
  | true => openBlockWords

theorem cons_mem_of_mul_le {kinds : List LineKind} {words more : Language LineKind}
    (hle : oneOf kinds * words ≤ more) {kind : LineKind} (hk : kind ∈ kinds)
    {word : List LineKind} (hw : word ∈ words)
    : kind :: word ∈ more :=
  hle (Language.append_mem_mul (show [kind] ∈ oneOf kinds from ⟨kind, hk, rfl⟩) hw)

theorem one_le_one_add {words : Language LineKind} : 1 ≤ 1 + words :=
  le_sup_left

theorem le_one_add {words : Language LineKind} : words ≤ 1 + words :=
  le_sup_right

theorem nil_mem_blockWords : [] ∈ blockWords :=
  Language.append_mem_mul
    (Language.append_mem_mul (Language.nil_mem_kstar _) (Language.nil_mem_kstar _))
    (one_le_one_add Language.nil_mem_one)

theorem nil_mem_wordsFrom (inBlock : Bool) : [] ∈ wordsFrom inBlock := by
  cases inBlock with
  | false => exact nil_mem_blockWords
  | true =>
      exact Language.append_mem_mul (Language.nil_mem_kstar _)
        (one_le_one_add Language.nil_mem_one)

/-- A line outside blocks may stand in front, whether a closed block comes next or none. -/
theorem outside_mul_blockWords_le : oneOf outsideKinds * blockWords ≤ blockWords := by
  have hblock : oneOf outsideKinds * closedBlock ≤ closedBlock := by
    simp only [closedBlock, ← mul_assoc]
    gcongr
    exact mul_kstar_le_kstar
  have htail : oneOf outsideKinds * (oneOf outsideKinds)∗ ≤ closedBlock∗ * (oneOf outsideKinds)∗ :=
    calc oneOf outsideKinds * (oneOf outsideKinds)∗
        ≤ 1 * (oneOf outsideKinds)∗ := by rw [one_mul]; exact mul_kstar_le_kstar
      _ ≤ closedBlock∗ * (oneOf outsideKinds)∗ := by gcongr; exact one_le_kstar
  have hblocks : oneOf outsideKinds * (closedBlock * closedBlock∗) ≤ closedBlock∗ :=
    calc oneOf outsideKinds * (closedBlock * closedBlock∗)
        = oneOf outsideKinds * closedBlock * closedBlock∗ := by rw [mul_assoc]
      _ ≤ closedBlock * closedBlock∗ := by gcongr
      _ ≤ closedBlock∗ := mul_kstar_le_kstar
  have hstar : oneOf outsideKinds * (closedBlock∗ * (oneOf outsideKinds)∗)
      ≤ closedBlock∗ * (oneOf outsideKinds)∗ := by
    conv => lhs; rw [← one_add_mul_kstar (a := closedBlock)]
    rw [add_mul, one_mul, mul_add, ← mul_assoc (oneOf outsideKinds) (closedBlock * _)]
    refine add_le htail ?_
    gcongr
  rw [blockWords, ← mul_assoc]
  gcongr

/-- A whole block may stand in front. -/
theorem closedBlock_mul_blockWords_le : closedBlock * blockWords ≤ blockWords := by
  rw [blockWords, ← mul_assoc, ← mul_assoc]
  gcongr
  exact mul_kstar_le_kstar

/-- A line that opens a block may stand in front of what follows inside it: the block stays open, or
it is closed and more follows. -/
theorem start_mul_openBlockWords_le : oneOf [.entityStart] * openBlockWords ≤ blockWords := by
  have hopen : oneOf [.entityStart] * (oneOf insideKinds)∗ ≤ blockWords :=
    calc oneOf [.entityStart] * (oneOf insideKinds)∗
        ≤ 1 + oneOf [.entityStart] * (oneOf insideKinds)∗ := le_one_add
      _ = 1 * 1 * (1 + oneOf [.entityStart] * (oneOf insideKinds)∗) := by rw [one_mul, one_mul]
      _ ≤ blockWords := by rw [blockWords]; gcongr <;> exact one_le_kstar
  have hclosed
      : oneOf [.entityStart] * (oneOf insideKinds)∗ * (oneOf [.entityEnd] * blockWords)
        ≤ blockWords :=
    calc oneOf [.entityStart] * (oneOf insideKinds)∗ * (oneOf [.entityEnd] * blockWords)
        = 1 * oneOf [.entityStart] * (oneOf insideKinds)∗ * oneOf [.entityEnd] * blockWords := by
          rw [one_mul, mul_assoc _ (oneOf [.entityEnd])]
      _ ≤ closedBlock * blockWords := by rw [closedBlock]; gcongr; exact one_le_kstar
      _ ≤ blockWords := closedBlock_mul_blockWords_le
  rw [openBlockWords, ← mul_assoc, mul_add, mul_one]
  exact add_le hopen hclosed

theorem inside_mul_openBlockWords_le
    : oneOf insideKinds * openBlockWords ≤ openBlockWords := by
  rw [openBlockWords, ← mul_assoc]
  gcongr
  exact mul_kstar_le_kstar

theorem end_mul_blockWords_le : oneOf [.entityEnd] * blockWords ≤ openBlockWords :=
  calc oneOf [.entityEnd] * blockWords
      ≤ 1 + oneOf [.entityEnd] * blockWords := le_one_add
    _ = 1 * (1 + oneOf [.entityEnd] * blockWords) := (one_mul _).symm
    _ ≤ openBlockWords := by rw [openBlockWords]; gcongr; exact one_le_kstar

/-- The kind of a line is one that may stand in its state, and leads to the state that what follows
it is read in. -/
theorem cons_mem_wordsFrom {er inBlock : Bool} {text : Text} {kind : LineKind}
    (h : IsOf er inBlock text kind) {word : List LineKind}
    (hw : word ∈ wordsFrom (kind.inBlockAfter inBlock))
    : kind :: word ∈ wordsFrom inBlock := by
  cases inBlock with
  | false =>
      cases h with
      | entityStart =>
          exact cons_mem_of_mul_le start_mul_openBlockWords_le (by decide) hw
      | entityEnd _ inside => cases inside
      | attributes inside => cases inside
      | _ => exact cons_mem_of_mul_le outside_mul_blockWords_le (by decide) hw
  | true =>
      cases h with
      | entityEnd => exact cons_mem_of_mul_le end_mul_blockWords_le (by decide) hw
      | declaration outside => cases outside
      | entityStart _ outside => cases outside
      | relationship _ outside => cases outside
      | content outside => cases outside
      | _ => exact cons_mem_of_mul_le inside_mul_openBlockWords_le (by decide) hw

/-- Lines of these kinds are found in ER diagrams only, since no block is open anywhere else. -/
theorem IsOf.er_of_mem {er inBlock : Bool} {text : Text} {kind : LineKind}
    (h : IsOf er inBlock text kind) (hstate : er = false → inBlock = false)
    (hk : kind ∈ erKinds)
    : er = true := by
  cases er with
  | true => rfl
  | false =>
      cases h with
      | entityStart isEr => cases isEr
      | entityEnd isEr => cases isEr
      | relationship isEr => cases isEr
      | attributes inside =>
          rw [hstate rfl] at inside
          cases inside
      | _ => exact absurd hk (by decide)

end LineKind

-----------------------------------------------------------------------------------------
-- Classified diagrams
-----------------------------------------------------------------------------------------

/-- The kinds of lines are a word of the language from the state on that they are read in, by
induction on the lines. -/
theorem kinds_classifyFrom_mem (er inBlock : Bool) (index : Nat) (texts : List Text)
    : (classifyFrom er inBlock index texts).map Line.kind ∈ LineKind.wordsFrom inBlock := by
  induction texts generalizing inBlock index with
  | nil => exact LineKind.nil_mem_wordsFrom inBlock
  | cons text rest ih =>
      rw [classifyFrom, List.map_cons]
      exact LineKind.cons_mem_wordsFrom (LineKind.isOf_ofLine er inBlock text) (ih _ _)

/-- Blank or a comment. -/
def Line.isAside (line : Line) : Bool :=
  line.kind == .comment || line.kind == .blank

/-- Outside blocks, a line is blank or a comment exactly when it has no meaning. -/
theorem Line.isAside_ofLine {er : Bool} {index : Nat} {text : Text}
    : Line.isAside ⟨index, text, LineKind.ofLine er false text⟩ = !isMeaningful text := by
  cases hm : isMeaningful text with
  | false =>
      rcases LineKind.ofLine_of_not_meaningful er false hm with hk | hk <;> simp [Line.isAside, hk]
  | true =>
      rw [isMeaningful, Bool.and_eq_true, Bool.not_eq_true', Bool.not_eq_true'] at hm
      have hkind := LineKind.isOf_ofLine er false text
      generalize LineKind.ofLine er false text = kind at hkind ⊢
      cases hkind with
      | comment _ comment =>
          rw [comment] at hm
          cases hm.2
      | blank _ blank =>
          rw [trim_eq_nil_iff, ← isAllBlank_iff] at blank
          rw [blank] at hm
          cases hm.1
      | _ => rfl

/-- The type of a diagram is declared by its first line that is neither blank nor a comment, by
induction on the lines up to that one. -/
theorem declaredType?_eq_some_iff {er : Bool} {index : Nat} {texts : List Text}
    {type : DiagramType}
    : declaredType? texts = some type
      ↔ ∃ line,
          (classifyFrom er false index texts).find? (fun line => !line.isAside) = some line
          ∧ line.kind = .declaration
          ∧ (Declaration.ofLine? line.text).map Declaration.type = some type := by
  induction texts generalizing index with
  | nil => simp [declaredType?, header?, classifyFrom]
  | cons text rest ih =>
      have haside : Line.isAside ⟨index, text, LineKind.ofLine er false text⟩
          = !isMeaningful text := Line.isAside_ofLine
      rw [classifyFrom]
      cases hm : isMeaningful text with
      | false =>
          rw [hm, Bool.not_false] at haside
          rw [declaredType?_cons_of_not_meaningful hm, List.find?_cons_of_neg (by simp [haside]),
            LineKind.inBlockAfter_of_not_meaningful er false hm, ih]
      | true =>
          rw [hm, Bool.not_true] at haside
          rw [declaredType?_cons_of_meaningful hm, List.find?_cons_of_pos (by simp [haside])]
          constructor
          · intro h
            obtain ⟨declaration, hd, -⟩ := Option.map_eq_some_iff.1 h
            refine ⟨⟨index, text, LineKind.ofLine er false text⟩, rfl, ?_, h⟩
            dsimp only
            rw [LineKind.ofLine_eq_declaration_iff, hd, Option.isSome_some]
          · rintro ⟨line, hline, -, htype⟩
            obtain rfl := Option.some.inj hline
            exact htype

theorem map_text_index_classifyFrom (er inBlock : Bool) (index : Nat) (texts : List Text)
    : (classifyFrom er inBlock index texts).map (fun line => (line.text, line.index))
      = texts.zipIdx index := by
  induction texts generalizing inBlock index with
  | nil => rfl
  | cons text rest ih => rw [classifyFrom, List.map_cons, ih, List.zipIdx_cons]

/-- What is true of the lines of every diagram once they are classified. -/
structure Disciplined (texts : List Text) : Prop where
  /-- There is one classified line for each line, with its text and position. -/
  lines : (classify texts).map (fun line => (line.text, line.index)) = texts.zipIdx
  kinds : (classify texts).map Line.kind ∈ LineKind.blockWords
  er
    : ∀ line ∈ classify texts,
        line.kind ∈ LineKind.erKinds → declaredType? texts = some .erDiagram
  /-- The diagram has a type exactly when its first line of interest is the declaration of it. -/
  declared
    : ∀ type : DiagramType,
        declaredType? texts = some type
        ↔ ∃ line,
            (classify texts).find? (fun line => !line.isAside) = some line
            ∧ line.kind = .declaration
            ∧ (Declaration.ofLine? line.text).map Declaration.type = some type

/-- Every diagram is classified with its blocks in order and its header as the one declaration that
counts. -/
theorem classify_disciplined (texts : List Text) : Disciplined texts where
  lines := map_text_index_classifyFrom _ _ _ _
  kinds := kinds_classifyFrom_mem (isErDiagram texts) false 0 texts
  er := by
    intro line hm hkind
    obtain ⟨inBlock, hline, hstate⟩ := exists_kind_of_mem_classify hm
    have her := (LineKind.isOf hline.symm).er_of_mem hstate hkind
    simpa [isErDiagram] using her
  declared := fun _ => declaredType?_eq_some_iff

end DiagramRepair

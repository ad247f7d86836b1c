import DiagramRepair.Diagram.Line
import DiagramRepair.Proofs.Text.Character

/-! Classification goes line by line with one bit of state. It looks at trimmed lines only, and
outside ER diagrams no block ever opens.
-/

namespace DiagramRepair

open Text

-----------------------------------------------------------------------------------------
-- Lines of one kind
-----------------------------------------------------------------------------------------

/-- Blanks around a line do not change its kind. -/
theorem LineKind.ofLine_congr {er inBlock : Bool} {first second : Text}
    (h : trim first = trim second)
    : LineKind.ofLine er inBlock first = LineKind.ofLine er inBlock second := by
  simp only [LineKind.ofLine, h]

theorem Declaration.ofLine?_congr {first second : Text} (h : trim first = trim second)
    : Declaration.ofLine? first = Declaration.ofLine? second := by
  simp only [Declaration.ofLine?, h]

theorem Declaration.ofLine?_trim (line : Text)
    : Declaration.ofLine? (trim line) = Declaration.ofLine? line :=
  ofLine?_congr (trim_trim line)

theorem isComment_congr {first second : Text} (h : trim first = trim second)
    : isComment first = isComment second := by
  simp only [isComment, h]

theorem isComment_trim (line : Text) : isComment (trim line) = isComment line :=
  isComment_congr (trim_trim line)

theorem isMeaningful_congr {first second : Text} (h : trim first = trim second)
    : isMeaningful first = isMeaningful second := by
  have hb : isAllBlank first = isAllBlank second := by
    rw [Bool.eq_iff_iff, isAllBlank_iff, isAllBlank_iff, ← trim_eq_nil_iff, ← trim_eq_nil_iff, h]
  rw [isMeaningful, isMeaningful, hb, isComment_congr h]

/-- The first word of a line that declares a type is a keyword. -/
theorem Declaration.exists_word_of_ofLine? {line : Text} {declaration : Declaration}
    (h : Declaration.ofLine? line = some declaration)
    : DiagramType.ofWord? (before ' ' (trim (before ';' (trim line)))) = some declaration.type
      ∧ looksLikeStatement (behind ' ' (trim (before ';' (trim line)))) = false
      ∧ declaration.body = trim (behind ';' (trim line)) := by
  unfold Declaration.ofLine? at h
  dsimp only at h
  split at h
  · contradiction
  · rename_i type hword
    split at h
    · contradiction
    · rename_i hlooks
      obtain rfl := Option.some.inj h
      exact ⟨hword, by simpa using hlooks, rfl⟩

/-- A line that declares a type starts with a character of its keyword. -/
theorem Declaration.exists_cons_of_ofLine? {line : Text} {declaration : Declaration}
    (h : Declaration.ofLine? line = some declaration)
    : ∃ c rest, trim line = c :: rest ∧ isNameChar c = true := by
  obtain ⟨hword, -, -⟩ := exists_word_of_ofLine? h
  have hne := DiagramType.ne_nil_of_ofWord? hword
  have hname := fun c => DiagramType.isNameChar_of_ofWord? (c := c) hword
  cases hline : trim line with
  | nil =>
      rw [hline] at hne
      exact absurd rfl hne
  | cons c rest =>
      have hhead : (trim line).head? = some c := by simp [hline]
      have hblank := isBlank_head?_trim hhead
      have hspace : c ≠ ' ' := by
        rintro rfl
        exact absurd hblank (by decide)
      have hsemicolon : c ≠ ';' := by
        rintro rfl
        rw [hline] at hne
        exact absurd rfl hne
      refine ⟨c, rest, rfl, hname c ?_⟩
      rw [hline, before, before, List.takeWhile_cons_of_pos (by simpa using hsemicolon),
        trim_cons _ hblank, List.takeWhile_cons_of_pos (by simpa using hspace)]
      exact List.mem_cons_self

theorem isComment_of_trim_cons {line rest : Text} {c : Char} (h : trim line = c :: rest)
    (hc : c ≠ '%')
    : isComment line = false := by
  simp [isComment, h, commentMarker, startsWith, afterLead?, hc]

/-- A line that declares a type is neither blank nor a comment. -/
theorem isMeaningful_of_ofLine? {line : Text} {declaration : Declaration}
    (h : Declaration.ofLine? line = some declaration)
    : isMeaningful line = true := by
  obtain ⟨c, rest, hline, hname⟩ := Declaration.exists_cons_of_ofLine? h
  have hpercent : c ≠ '%' := by
    rintro rfl
    exact absurd hname (by decide)
  have hblank : isAllBlank line = false := by
    rw [Bool.eq_false_iff, ne_eq, isAllBlank_iff, ← trim_eq_nil_iff, hline]
    simp
  simp [isMeaningful, hblank, isComment_of_trim_cons hline hpercent]

/-- A line without meaning is a blank or a comment wherever it stands. -/
theorem LineKind.ofLine_of_not_meaningful (er inBlock : Bool) {text : Text}
    (h : isMeaningful text = false)
    : LineKind.ofLine er inBlock text = .comment ∨ LineKind.ofLine er inBlock text = .blank := by
  have hnone : Declaration.ofLine? text = none := by
    cases hd : Declaration.ofLine? text with
    | none => rfl
    | some declaration => simp [isMeaningful_of_ofLine? hd] at h
  cases hcomment : isComment text with
  | true => left; simp [LineKind.ofLine, Declaration.ofLine?_trim, isComment_trim, hnone, hcomment]
  | false =>
      have hblank : trim text = [] := by
        rw [trim_eq_nil_iff, ← isAllBlank_iff]
        simpa [isMeaningful, hcomment] using h
      right
      simp only [LineKind.ofLine, Declaration.ofLine?_trim, isComment_trim, hnone, hcomment]
      simp [hblank]

/-- A line without meaning opens and closes no block. -/
theorem LineKind.inBlockAfter_of_not_meaningful (er inBlock : Bool) {text : Text}
    (h : isMeaningful text = false)
    : (LineKind.ofLine er inBlock text).inBlockAfter inBlock = inBlock := by
  rcases ofLine_of_not_meaningful er inBlock h with hk | hk <;> rw [hk] <;> rfl

/-- What lines of each kind look like, in an ER diagram or not, inside an entity block or not. -/
inductive LineKind.IsOf (er inBlock : Bool) (text : Text) : LineKind → Prop
  | declaration
      (outside : inBlock = false)
      (declares : (Declaration.ofLine? text).isSome = true)
    : IsOf er inBlock text .declaration
  | comment
      (declares : inBlock = false → Declaration.ofLine? text = none)
      (comment : isComment text = true)
    : IsOf er inBlock text .comment
  | blank (comment : isComment text = false) (blank : trim text = []) : IsOf er inBlock text .blank
  | entityStart
      (isEr : er = true)
      (outside : inBlock = false)
      (starts : isEntityStart (trim text) = true)
    : IsOf er inBlock text .entityStart
  | entityEnd (isEr : er = true) (inside : inBlock = true) (ends : trim text = ['}'])
    : IsOf er inBlock text .entityEnd
  | relationship
      (isEr : er = true)
      (outside : inBlock = false)
      (relates : (relationship? text).isSome = true)
    : IsOf er inBlock text .relationship
  | attributes (inside : inBlock = true) (comment : isComment text = false)
    : IsOf er inBlock text .attribute
  | content
      (outside : inBlock = false)
      (declares : Declaration.ofLine? text = none)
      (comment : isComment text = false)
      (written : trim text ≠ [])
    : IsOf er inBlock text .content

theorem relationship?_trim (line : Text) : relationship? (trim line) = relationship? line := by
  rw [relationship?, relationship?, trim_trim]

/-- A line is of its kind, by cases on the questions of the classifier. -/
theorem LineKind.isOf_ofLine (er inBlock : Bool) (text : Text)
    : IsOf er inBlock text (LineKind.ofLine er inBlock text) := by
  simp only [LineKind.ofLine, Declaration.ofLine?_trim, isComment_trim, relationship?_trim]
  split
  case isTrue h =>
    rw [Bool.and_eq_true, Bool.not_eq_true'] at h
    exact .declaration h.1 h.2
  case isFalse hdeclares =>
    have hnone : inBlock = false → Declaration.ofLine? text = none := by
      rintro rfl
      simpa using hdeclares
    split
    case isTrue hcomment => exact .comment hnone hcomment
    case isFalse hcomment =>
      rw [Bool.not_eq_true] at hcomment
      split
      case isTrue hblank => exact .blank hcomment (List.isEmpty_iff.1 hblank)
      case isFalse hwritten =>
        cases inBlock with
        | true =>
            simp only [Bool.not_true, Bool.and_false, Bool.false_and, Bool.false_eq_true, if_false,
              Bool.and_true, if_true]
            split
            case isTrue hends =>
              rw [Bool.and_eq_true, beq_iff_eq] at hends
              exact .entityEnd hends.1 rfl hends.2
            case isFalse => exact .attributes rfl hcomment
        | false =>
            simp only [Bool.not_false, Bool.and_true, Bool.and_false, Bool.false_and,
              Bool.false_eq_true, if_false]
            split
            case isTrue hstarts =>
              rw [Bool.and_eq_true] at hstarts
              exact .entityStart hstarts.1 rfl hstarts.2
            case isFalse =>
              split
              case isTrue hrelates =>
                rw [Bool.and_eq_true] at hrelates
                exact .relationship hrelates.1 rfl hrelates.2
              case isFalse =>
                exact .content rfl (hnone rfl) hcomment fun hnil =>
                  hwritten (List.isEmpty_iff.2 hnil)

theorem LineKind.isOf {er inBlock : Bool} {text : Text} {kind : LineKind}
    (h : LineKind.ofLine er inBlock text = kind)
    : IsOf er inBlock text kind :=
  h ▸ isOf_ofLine er inBlock text

theorem LineKind.inBlock_of_attribute {er inBlock : Bool} {text : Text}
    (h : LineKind.ofLine er inBlock text = .attribute)
    : inBlock = true := by
  cases LineKind.isOf h with
  | attributes inside => exact inside

theorem LineKind.relates_of_relationship {er inBlock : Bool} {text : Text}
    (h : LineKind.ofLine er inBlock text = .relationship)
    : inBlock = false ∧ (relationship? text).isSome = true := by
  cases LineKind.isOf h with
  | relationship _ outside relates => exact ⟨outside, relates⟩

/-- Outside entity blocks, declarations are the lines that declare a type. -/
theorem LineKind.ofLine_eq_declaration_iff {er : Bool} {text : Text}
    : LineKind.ofLine er false text = .declaration
      ↔ (Declaration.ofLine? text).isSome = true := by
  constructor
  · intro h
    cases LineKind.isOf h with
    | declaration _ declares => exact declares
  · intro h
    simp [LineKind.ofLine, Declaration.ofLine?_trim, h]

-----------------------------------------------------------------------------------------
-- Lines in sequence
-----------------------------------------------------------------------------------------

/-- Whether a block is open behind some lines. -/
def blockAfter (er inBlock : Bool) (texts : List Text) : Bool :=
  texts.foldl (fun inside text => (LineKind.ofLine er inside text).inBlockAfter inside) inBlock

theorem blockAfter_cons (er inBlock : Bool) (text : Text) (rest : List Text)
    : blockAfter er inBlock (text :: rest)
      = blockAfter er ((LineKind.ofLine er inBlock text).inBlockAfter inBlock) rest :=
  rfl

theorem map_text_classifyFrom (er inBlock : Bool) (index : Nat) (texts : List Text)
    : (classifyFrom er inBlock index texts).map Line.text = texts := by
  induction texts generalizing inBlock index with
  | nil => rfl
  | cons text rest ih => simp only [classifyFrom, List.map_cons, ih]

theorem length_classifyFrom (er inBlock : Bool) (index : Nat) (texts : List Text)
    : (classifyFrom er inBlock index texts).length = texts.length := by
  rw [← List.length_map (f := Line.text), map_text_classifyFrom]

/-- Classification goes on where it stopped, with the state it had there. -/
theorem classifyFrom_append (er inBlock : Bool) (index : Nat) (first second : List Text)
    : classifyFrom er inBlock index (first ++ second)
      = classifyFrom er inBlock index first
        ++ classifyFrom er (blockAfter er inBlock first) (index + first.length) second := by
  induction first generalizing inBlock index with
  | nil => rfl
  | cons text rest ih =>
      simp only [List.cons_append, classifyFrom, blockAfter_cons, ih, List.length_cons]
      rw [Nat.add_assoc, Nat.add_comm 1]

/-- Every classified line has the kind that its text has in some state. -/
theorem exists_kind_of_mem_classifyFrom {er inBlock : Bool} {index : Nat} {texts : List Text}
    {line : Line} (h : line ∈ classifyFrom er inBlock index texts)
    : ∃ inside, line.kind = LineKind.ofLine er inside line.text := by
  induction texts generalizing inBlock index with
  | nil => simp [classifyFrom] at h
  | cons text rest ih =>
      rcases List.mem_cons.1 h with rfl | h
      · exact ⟨inBlock, rfl⟩
      · exact ih h

/-- No block opens outside ER diagrams. -/
theorem LineKind.inBlockAfter_of_not_er (text : Text)
    : (LineKind.ofLine false false text).inBlockAfter false = false := by
  have hkind := LineKind.isOf_ofLine false false text
  generalize LineKind.ofLine false false text = kind at hkind ⊢
  cases hkind with
  | entityStart isEr => cases isEr
  | _ => rfl

theorem LineKind.inBlockAfter_of_state {er inBlock : Bool}
    (hstate : er = false → inBlock = false) (text : Text)
    : er = false → (LineKind.ofLine er inBlock text).inBlockAfter inBlock = false := by
  rintro rfl
  obtain rfl := hstate rfl
  exact inBlockAfter_of_not_er text

theorem blockAfter_of_not_er (texts : List Text) : blockAfter false false texts = false := by
  induction texts with
  | nil => rfl
  | cons text rest ih => rw [blockAfter_cons, LineKind.inBlockAfter_of_not_er, ih]

theorem kind_of_mem_classifyFrom_of_not_er {index : Nat} {texts : List Text} {line : Line}
    (h : line ∈ classifyFrom false false index texts)
    : line.kind = LineKind.ofLine false false line.text := by
  induction texts generalizing index with
  | nil => simp [classifyFrom] at h
  | cons text rest ih =>
      rcases List.mem_cons.1 h with rfl | h
      · dsimp only
      · rw [LineKind.inBlockAfter_of_not_er] at h
        exact ih h

/-- Every classified line of a diagram has the kind that its text has in a state that the diagram
can be in. -/
theorem exists_kind_of_mem_classify {texts : List Text} {line : Line} (h : line ∈ classify texts)
    : ∃ inBlock,
        line.kind = LineKind.ofLine (isErDiagram texts) inBlock line.text
        ∧ (isErDiagram texts = false → inBlock = false) := by
  rw [classify] at h
  cases her : isErDiagram texts with
  | true =>
      rw [her] at h
      obtain ⟨inBlock, hkind⟩ := exists_kind_of_mem_classifyFrom h
      exact ⟨inBlock, hkind, fun hno => absurd hno (by simp)⟩
  | false =>
      rw [her] at h
      exact ⟨false, kind_of_mem_classifyFrom_of_not_er h, fun _ => rfl⟩

theorem isErDiagram_of_attribute {texts : List Text} {line : Line} (h : line ∈ classify texts)
    (hk : line.kind = .attribute)
    : isErDiagram texts = true := by
  obtain ⟨inBlock, hkind, hstate⟩ := exists_kind_of_mem_classify h
  obtain rfl := LineKind.inBlock_of_attribute (hkind.symm.trans hk)
  by_contra hno
  exact Bool.noConfusion (hstate (Bool.eq_false_iff.2 hno))

-----------------------------------------------------------------------------------------
-- The header
-----------------------------------------------------------------------------------------

theorem declaredType?_cons_of_not_meaningful {text : Text} {rest : List Text}
    (h : isMeaningful text = false)
    : declaredType? (text :: rest) = declaredType? rest := by
  simp [declaredType?, header?, h]

theorem declaredType?_cons_of_meaningful {text : Text} {rest : List Text}
    (h : isMeaningful text = true)
    : declaredType? (text :: rest) = (Declaration.ofLine? text).map Declaration.type := by
  simp [declaredType?, header?, h]

theorem declaredType?_cons_of_declared {text : Text} {rest : List Text} {type : DiagramType}
    (h : (Declaration.ofLine? text).map Declaration.type = some type)
    : declaredType? (text :: rest) = some type := by
  obtain ⟨declaration, hd, -⟩ := Option.map_eq_some_iff.1 h
  rw [declaredType?_cons_of_meaningful (isMeaningful_of_ofLine? hd), h]

end DiagramRepair

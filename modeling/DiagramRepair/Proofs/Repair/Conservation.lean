import DiagramRepair.Proofs.Diagram.Balance
import DiagramRepair.Proofs.Repair.Written

/-! What passes conserve, on whatever lines and in whatever order they are run. Splitting and
quoting keep every bracket, a removed edge costs one pair of parentheses, and no line is lost
or moved: each goes on as one or more lines with its number.
-/

namespace DiagramRepair

open Text Label

-----------------------------------------------------------------------------------------
-- Brackets
-----------------------------------------------------------------------------------------

/-- The characters that are counted for a bracket pair. -/
def bracketChars : List Char :=
  ['[', ']', '(', ')', '{', '}']

theorem isBlank_of_mem_bracketChars {c : Char} (h : c ∈ bracketChars) : isBlank c = false := by
  have hall : ∀ c ∈ bracketChars, isBlank c = false := List.all_iff_forall_prop.1 (by decide)
  exact hall c h

theorem not_mem_quoteMarks_of_mem_bracketChars {c : Char} (h : c ∈ bracketChars)
    : c ∉ quoteMarks := by
  have hall : ∀ c ∈ bracketChars, c ∉ quoteMarks := List.all_iff_forall_prop.1 (by decide)
  exact hall c h

theorem not_mem_commentMarker_of_mem_bracketChars {c : Char} (h : c ∈ bracketChars)
    : c ∉ commentMarker := by
  have hall : ∀ c ∈ bracketChars, c ∉ commentMarker := List.all_iff_forall_prop.1 (by decide)
  exact hall c h

theorem not_mem_defaultType_of_mem_bracketChars {c : Char} (h : c ∈ bracketChars)
    : c ∉ Attribute.defaultType := by
  have hall : ∀ c ∈ bracketChars, c ∉ Attribute.defaultType :=
    List.all_iff_forall_prop.1 (by decide)
  exact hall c h

namespace Bracket

theorem opener_mem (bracket : Bracket) : bracket.opener ∈ bracketChars := by
  cases bracket <;> decide

theorem closer_mem (bracket : Bracket) : bracket.closer ∈ bracketChars := by
  cases bracket <;> decide

/-- The marker of a removed edge is balanced. -/
theorem count_removedMarker (bracket : Bracket)
    : Edge.removedMarker.count bracket.opener = Edge.removedMarker.count bracket.closer := by
  cases bracket <;> decide

/-- The marker of a removed edge stands in parentheses and holds no other bracket. -/
theorem count_opener_removedMarker (bracket : Bracket)
    : Edge.removedMarker.count bracket.opener = if bracket = .round then 1 else 0 := by
  cases bracket <;> decide

end Bracket

theorem count_commentOut {c : Char} (hc : isBlank c = false) (hm : c ∉ commentMarker)
    (line : Text)
    : (Edge.commentOut line).count c = line.count c + Edge.removedMarker.count c := by
  have hspace : c ≠ ' ' := by
    rintro rfl
    exact absurd hc (by decide)
  have hmarker : commentMarker.count c = 0 := List.count_eq_zero.2 hm
  simp only [Edge.commentOut, List.count_append, List.count_cons_of_ne (Ne.symm hspace),
    count_blank hc (allBlank_indent line), hmarker, count_trim hc]
  omega

-----------------------------------------------------------------------------------------
-- One line
-----------------------------------------------------------------------------------------

def Fix.isRemoval (fix : Fix) : Bool :=
  fix.kind == .incompleteEdge

/-- How often a character stands on some texts. -/
def textsCount (c : Char) (texts : List Text) : Nat :=
  (texts.map (List.count c)).sum

/-- The edit loses no line and no bracket, and puts a marker on the line for each edge that it
removes. -/
structure Edit.Conserves (edit : Edit) (line : Line) : Prop where
  written : edit.texts ≠ []
  count
    : ∀ c ∈ bracketChars,
        textsCount c edit.texts
          = line.text.count c + edit.fixes.countP Fix.isRemoval * Edge.removedMarker.count c

theorem Fix.isRemoval_ofFields (fields : List Attribute.Field)
    : (Fix.ofFields fields).isRemoval = false := by
  unfold Fix.ofFields
  split <;> rfl

/-- Attributes written anew hold every bracket of their line. -/
theorem conserves_attributeEdit? {line : Line} {edit : Edit} (h : attributeEdit? line = some edit)
    : edit.Conserves line := by
  obtain ⟨-, fields, hfields, rfl⟩ := attributeEdit?_eq_some h
  obtain ⟨-, hne, -⟩ := Attribute.replacement?_eq_some hfields
  refine ⟨by simpa using hne, fun c hc => ?_⟩
  have hblank := isBlank_of_mem_bracketChars hc
  have hindented : ∀ field : Attribute.Field,
      (line.indent ++ field.render).count c = field.render.count c := fun field => by
    rw [List.count_append, count_blank hblank (Line.allBlank_indent line), Nat.zero_add]
  have hsum := Attribute.sum_count_render hfields hblank
    (not_mem_defaultType_of_mem_bracketChars hc)
  have hnone : [Fix.ofFields fields].countP Fix.isRemoval = 0 := by
    simp [Fix.isRemoval_ofFields]
  rw [textsCount, List.map_map, Function.comp_def]
  simp only [hindented, hsum, count_trim hblank, hnone, Nat.zero_mul, Nat.add_zero]

/-- A removed edge keeps its line in the comment, in front of the marker. -/
theorem conserves_edgeEdit? {line : Line} {edit : Edit} (h : edgeEdit? line = some edit)
    : edit.Conserves line := by
  obtain ⟨-, -, rfl⟩ := edgeEdit?_eq_some h
  refine ⟨List.cons_ne_nil _ _, fun c hc => ?_⟩
  have hcomment := count_commentOut (isBlank_of_mem_bracketChars hc)
    (not_mem_commentMarker_of_mem_bracketChars hc) line.text
  have hone : [Fix.edgeRemoved line.trimmed].countP Fix.isRemoval = 1 := rfl
  rw [hone, Nat.one_mul, ← hcomment]
  simp [textsCount]

/-- The label pass writes a line as one line that is requoted, and reports labels only. -/
theorem labelEdit?_eq_some {er : Bool} {line : Line} {edit : Edit}
    (h : labelEdit? er line = some edit)
    : ∃ (text : Text) (changed : List Text),
        edit = ⟨[text], changed.map fun label => .labelQuoted (trim label)⟩
        ∧ Requoted line.text text := by
  unfold labelEdit? at h
  split at h
  · obtain rfl := Option.some.inj h
    exact ⟨_, _, rfl, requoted_quoteRelationship line.text⟩
  · obtain rfl := Option.some.inj h
    exact ⟨_, _, rfl, requoted_quoteLine flowchartReserved line.text⟩
  · obtain ⟨sides, hcut, rfl⟩ := Option.map_eq_some_iff.1 h
    exact ⟨_, _, rfl, requoted_declaration hcut flowchartReserved⟩
  · contradiction

theorem conserves_labelEdit? {er : Bool} {line : Line} {edit : Edit}
    (h : labelEdit? er line = some edit)
    : edit.Conserves line := by
  obtain ⟨text, changed, rfl, hrequoted⟩ := labelEdit?_eq_some h
  refine ⟨List.cons_ne_nil _ _, fun c hc => ?_⟩
  have hnone
      : (changed.map fun label => Fix.labelQuoted (trim label)).countP Fix.isRemoval = 0 := by
    simp [Fix.isRemoval, Fix.kind]
  rw [hnone, Nat.zero_mul, Nat.add_zero,
    ← hrequoted.count (not_mem_quoteMarks_of_mem_bracketChars hc)]
  simp [textsCount]

-----------------------------------------------------------------------------------------
-- One pass
-----------------------------------------------------------------------------------------

/-- The second numbers are the first ones in their order, each of them once or several times. -/
inductive Repeats : List Int → List Int → Prop
  | nil : Repeats [] []
  | keep (number : Int) {first second : List Int} (rest : Repeats first second)
    : Repeats (number :: first) (number :: second)
  | again (number : Int) {first second : List Int} (rest : Repeats (number :: first) second)
    : Repeats (number :: first) (number :: second)

theorem Repeats.refl (numbers : List Int) : Repeats numbers numbers := by
  induction numbers with
  | nil => exact .nil
  | cons number rest ih => exact .keep number ih

/-- Repeating composes, by induction on the second step: where that repeats a number again, the
first step begins with it, too. -/
theorem Repeats.trans {first middle last : List Int} (hf : Repeats first middle)
    (hs : Repeats middle last)
    : Repeats first last := by
  induction hs generalizing first with
  | nil => exact hf
  | keep number _ ih =>
      cases hf with
      | keep _ rest => exact .keep number (ih rest)
      | again _ rest => exact .again number (ih rest)
  | again number _ ih =>
      have hrest := ih hf
      cases hf with
      | keep _ _ => exact .again number hrest
      | again _ _ => exact .again number hrest

/-- How often each number stands in the second list, less one. -/
theorem Repeats.exists_extra {first second : List Int} (h : Repeats first second)
    : ∃ extra : List Nat,
        extra.length = first.length
        ∧ second
          = (first.zipWith (fun number count => List.replicate (count + 1) number)
              extra).flatten := by
  induction h with
  | nil => exact ⟨[], rfl, rfl⟩
  | keep number _ ih =>
      obtain ⟨extra, hlength, hsecond⟩ := ih
      exact ⟨0 :: extra, by simp [hlength], by simp [hsecond]⟩
  | again number _ ih =>
      obtain ⟨extra, hlength, hsecond⟩ := ih
      cases extra with
      | nil => simp at hlength
      | cons count extra =>
          refine ⟨(count + 1) :: extra, hlength, ?_⟩
          rw [hsecond, List.zipWith_cons_cons, List.zipWith_cons_cons, List.flatten_cons,
            List.flatten_cons, List.replicate_succ (n := count + 1), List.cons_append]

theorem Repeats.replicate_append (number : Int) (count : Nat) {first second : List Int}
    (h : Repeats first second)
    : Repeats (number :: first) (List.replicate (count + 1) number ++ second) := by
  induction count with
  | zero => exact .keep number h
  | succ count ih => exact .again number ih

/-- How many repairs removed an edge. -/
def removals (repairs : List Repair) : Nat :=
  repairs.countP fun repair => repair.kind == .incompleteEdge

def SourceLine.numbers (lines : List SourceLine) : List Int :=
  lines.map SourceLine.number

/-- A pass or a run of passes keeps all lines and brackets, and puts a marker in for each edge that
it removes. -/
structure PassResult.Conserves (result : PassResult) (sources : List SourceLine) : Prop where
  numbers : Repeats (SourceLine.numbers sources) (SourceLine.numbers result.lines)
  count
    : ∀ c ∈ bracketChars,
        textsCount c (SourceLine.texts result.lines)
          = textsCount c (SourceLine.texts sources)
            + removals result.repairs * Edge.removedMarker.count c

theorem removals_append (first second : List Repair)
    : removals (first ++ second) = removals first + removals second :=
  List.countP_append

theorem textsCount_append (c : Char) (first second : List Text)
    : textsCount c (first ++ second) = textsCount c first + textsCount c second := by
  simp [textsCount]

theorem textsCount_cons (c : Char) (text : Text) (rest : List Text)
    : textsCount c (text :: rest) = text.count c + textsCount c rest := by
  simp [textsCount]

theorem numbers_apply (source : SourceLine) (edit : Option Edit)
    : SourceLine.numbers (source.apply edit)
      = List.replicate (edit.elim 1 fun edit => edit.texts.length) source.number := by
  cases edit <;> simp [SourceLine.apply, SourceLine.numbers, Function.comp_def]

theorem removals_repairs (source : SourceLine) (edit : Option Edit)
    : removals (source.repairs edit) = edit.elim 0 fun edit => edit.fixes.countP Fix.isRemoval := by
  cases edit with
  | none => rfl
  | some edit =>
      rw [SourceLine.repairs, removals, List.countP_map]
      rfl

/-- One line of a pass: what it goes on as, and what is counted on it. -/
theorem conserves_apply {source : SourceLine} {line : Line} (ht : line.text = source.text)
    {edit : Option Edit} (h : ∀ found ∈ edit, found.Conserves line)
    : (∃ extra, SourceLine.numbers (source.apply edit)
          = List.replicate (extra + 1) source.number)
      ∧ ∀ c ∈ bracketChars,
          textsCount c (SourceLine.texts (source.apply edit))
            = source.text.count c
              + removals (source.repairs edit) * Edge.removedMarker.count c := by
  simp only [numbers_apply, removals_repairs, texts_apply]
  cases edit with
  | none => exact ⟨⟨0, rfl⟩, fun c _ => by simp [textsCount]⟩
  | some edit =>
      obtain ⟨hne, hcount⟩ := h edit rfl
      obtain ⟨first, rest, htexts⟩ := List.exists_cons_of_ne_nil hne
      refine ⟨⟨rest.length, ?_⟩, fun c hc => ht ▸ hcount c hc⟩
      rw [Option.elim_some, htexts, List.length_cons]

/-- A pass conserves what its edits conserve, by induction on the lines. -/
theorem conserves_runFrom {edit? : Line → Option Edit}
    (h : ∀ line edit, edit? line = some edit → edit.Conserves line) (er inBlock : Bool)
    (index : Nat) (sources : List SourceLine)
    : (runFrom edit? er inBlock index sources).Conserves sources := by
  induction sources generalizing inBlock index with
  | nil => exact ⟨.nil, fun c _ => by simp [runFrom, textsCount, SourceLine.texts, removals]⟩
  | cons source rest ih =>
      obtain ⟨hnumbers, hcount⟩ :=
        ih ((LineKind.ofLine er inBlock source.text).inBlockAfter inBlock) (index + 1)
      have htext : (Line.read er inBlock index source.text).text = source.text :=
        Line.text_read er inBlock index source.text
      obtain ⟨⟨extra, hextra⟩, hline⟩ := conserves_apply htext fun edit hedit => h _ edit hedit
      rw [runFrom]
      constructor
      · simp only [PassResult.append, SourceLine.numbers, List.map_append, List.map_cons]
        simp only [SourceLine.numbers] at hextra hnumbers
        rw [hextra]
        exact hnumbers.replicate_append source.number extra
      · intro c hc
        simp only [PassResult.append, SourceLine.texts, List.map_append, List.map_cons,
          textsCount_append, textsCount_cons, removals_append, Nat.add_mul, Line.kind_read]
        have hfirst := hline c hc
        have hrest := hcount c hc
        simp only [SourceLine.texts] at hfirst hrest
        omega

-----------------------------------------------------------------------------------------
-- Runs of passes
-----------------------------------------------------------------------------------------

/-- The passes that may be run on numbered lines, each of them on lines of any kind. -/
inductive Pass where
  | attributes
  | edges
  | labels (er : Bool)

namespace Pass

def run (lines : List SourceLine) : Pass → PassResult
  | .attributes => attributePass lines
  | .edges => edgePass lines
  | .labels er => labelPass er lines

/-- The passes one after another, with the repairs of all of them. -/
def runAll (lines : List SourceLine) : List Pass → PassResult
  | [] => ⟨lines, []⟩
  | pass :: passes =>
      let result := run lines pass
      let later := runAll result.lines passes
      ⟨later.lines, result.repairs ++ later.repairs⟩

theorem conserves_run (lines : List SourceLine) (pass : Pass)
    : (pass.run lines).Conserves lines := by
  cases pass with
  | attributes =>
      rw [run, attributePass, runPass_eq_runFrom]
      exact conserves_runFrom (fun _ _ => conserves_attributeEdit?) _ _ _ _
  | edges =>
      rw [run, edgePass, runPass_eq_runFrom]
      exact conserves_runFrom (fun _ _ => conserves_edgeEdit?) _ _ _ _
  | labels er =>
      rw [run, labelPass, runPass_eq_runFrom]
      exact conserves_runFrom (fun _ _ => conserves_labelEdit?) _ _ _ _

/-- What every pass conserves, a run of passes conserves, by induction on the passes. -/
theorem conserves_runAll (lines : List SourceLine) (passes : List Pass)
    : (runAll lines passes).Conserves lines := by
  induction passes generalizing lines with
  | nil => exact ⟨.refl _, fun c _ => by simp [runAll, removals]⟩
  | cons pass passes ih =>
      obtain ⟨hnumbers, hcount⟩ := conserves_run lines pass
      obtain ⟨hlater, hlaterCount⟩ := ih (pass.run lines).lines
      rw [runAll]
      refine ⟨hnumbers.trans hlater, fun c hc => ?_⟩
      rw [hlaterCount c hc, hcount c hc, removals_append, Nat.add_mul, Nat.add_assoc]

/-- Over any run of passes, square brackets and braces stay as many as they were, each removed edge
adds one opening and one closing parenthesis, and the lines go on in their order, each as one
or more lines with its number. -/
theorem runAll_conserves (lines : List SourceLine) (passes : List Pass)
    : let result := runAll lines passes
      (∀ bracket : Bracket,
        let added := if bracket = .round then removals result.repairs else 0
        textsCount bracket.opener (SourceLine.texts result.lines)
            = textsCount bracket.opener (SourceLine.texts lines) + added
        ∧ textsCount bracket.closer (SourceLine.texts result.lines)
            = textsCount bracket.closer (SourceLine.texts lines) + added)
      ∧ ∃ extra : List Nat,
          extra.length = lines.length
          ∧ SourceLine.numbers result.lines
            = (lines.zipWith (fun line count => List.replicate (count + 1) line.number)
                extra).flatten := by
  obtain ⟨hnumbers, hcount⟩ := conserves_runAll lines passes
  constructor
  · intro bracket
    have hopener := hcount bracket.opener bracket.opener_mem
    have hcloser := hcount bracket.closer bracket.closer_mem
    rw [← bracket.count_removedMarker] at hcloser
    rw [bracket.count_opener_removedMarker] at hopener hcloser
    rw [hopener, hcloser]
    split
    · simp
    · simp
  · obtain ⟨extra, hlength, hextra⟩ := hnumbers.exists_extra
    refine ⟨extra, by simpa [SourceLine.numbers] using hlength, ?_⟩
    rw [hextra, SourceLine.numbers, List.zipWith_map_left]

end Pass

end DiagramRepair

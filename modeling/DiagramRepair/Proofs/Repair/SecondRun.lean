import DiagramRepair.Proofs.Edge.NoDangling
import DiagramRepair.Proofs.Repair.Written

/-! Reading the lines that a repair wrote. They are read in the states that their source lines
were read in, the first pass finds nothing more to do on them, and the label pass writes each of
them as one line with as many carriage returns.
-/

namespace DiagramRepair

open Text Label

-----------------------------------------------------------------------------------------
-- The first pass on written lines
-----------------------------------------------------------------------------------------

theorem Attribute.replacement?_congr {first second : Text} (h : trim first = trim second)
    : Attribute.replacement? first = Attribute.replacement? second := by
  simp only [Attribute.replacement?, h]

/-- Blanks around a line do not matter for whether the first pass edits it. -/
theorem firstEdit?_congr {er inBlock : Bool} {index : Nat} (other : Nat) {first second : Text}
    (h : trim first = trim second)
    (hn : firstEdit? er (Line.read er inBlock index first) = none)
    : firstEdit? er (Line.read er inBlock other second) = none := by
  have hkind : LineKind.ofLine er inBlock first = LineKind.ofLine er inBlock second :=
    LineKind.ofLine_congr h
  cases er with
  | true =>
      rw [firstEdit?_er, attributeEdit?_eq_none_iff, Line.kind_read, Line.text_read] at hn ⊢
      rwa [← hkind, ← Attribute.replacement?_congr h]
  | false =>
      rw [firstEdit?_flowchart, edgeEdit?_eq_none_iff, Line.kind_read, Line.text_read] at hn ⊢
      rwa [← hkind, ← Edge.isDangling_congr h]

/-- The first pass has nothing more to do on a line that a line is written as. -/
theorem firstEdit?_of_mem_written {er inBlock : Bool} (hstate : er = false → inBlock = false)
    {index : Nat} (other : Nat) {text written : Text}
    (hw : written ∈ (Line.read er inBlock index text).written er)
    : firstEdit? er (Line.read er inBlock other written) = none := by
  cases er with
  | false =>
      obtain rfl := hstate rfl
      rw [firstEdit?_flowchart, edgeEdit?_eq_none_iff, Line.kind_read, Line.text_read]
      exact Line.isDangling_of_mem_written (Line.kind_read _ _ _ _) hw
  | true =>
      have hedit := isEdit_repairEdit? true (Line.read true inBlock index text)
      rw [Line.written] at hw
      generalize repairEdit? true (Line.read true inBlock index text) = edit at hedit hw
      cases hedit with
      | untouched first label =>
          rw [Option.elim_none, List.mem_singleton, Line.text_read] at hw
          rw [hw]
          exact firstEdit?_congr other rfl first
      | attributes isEr kind reads =>
          obtain ⟨field, hf, rfl⟩ := List.mem_map.1 hw
          have hprintable := Attribute.isPrintable_of_replacement? reads hf
          rw [firstEdit?_er, attributeEdit?_eq_none_iff]
          exact fun _ => hprintable.replacement?_eq_none (Line.allBlank_indent _)
      | edge isFlowchart => cases isFlowchart
      | relationship isEr kind =>
          rw [Line.kind_read] at kind
          obtain ⟨rfl, -⟩ := LineKind.relates_of_relationship kind
          rw [firstEdit?_er, attributeEdit?_eq_none_iff]
          intro hattribute
          rw [Line.kind_read] at hattribute
          cases LineKind.inBlock_of_attribute hattribute
      | content isFlowchart => cases isFlowchart
      | declaration isFlowchart => cases isFlowchart

/-- Where the first pass has nothing to do, a line is written as one line, with as many carriage
returns, and with one at its end if the line has one there. -/
theorem Line.exists_written_of_firstEdit? {er : Bool} {line : Line}
    (h : firstEdit? er line = none)
    : ∃ text, line.written er = [text]
        ∧ text.count '\r' = line.text.count '\r'
        ∧ (text.getLast? = some '\r' ↔ line.text.getLast? = some '\r') := by
  have hreturn : '\r' ∉ quoteMarks := by decide
  have hedit := isEdit_repairEdit? er line
  rw [Line.written]
  generalize repairEdit? er line = edit at hedit ⊢
  cases hedit with
  | untouched first label => exact ⟨line.text, rfl, rfl, Iff.rfl⟩
  | attributes isEr kind reads =>
      subst isEr
      rw [firstEdit?_er, attributeEdit?_eq_none_iff] at h
      rw [h kind] at reads
      cases reads
  | edge isFlowchart kind dangles =>
      subst isFlowchart
      rw [firstEdit?_flowchart, edgeEdit?_eq_none_iff] at h
      rw [h kind] at dangles
      cases dangles
  | relationship isEr kind =>
      rw [Option.elim_some, Edit.ofQuoted, List.nil_append]
      refine ⟨_, rfl, (requoted_quoteRelationship line.text).count hreturn, ?_⟩
      exact getLast?_quoteRelationship (by decide)
  | content isFlowchart kind joined =>
      rw [Option.elim_some, Edit.ofQuoted, List.nil_append]
      refine ⟨_, rfl, (requoted_quoteLine flowchartReserved line.text).count hreturn, ?_⟩
      rw [text_quoteLine, getLast?_quotedFrom]
  | @declaration head body isFlowchart kind cut =>
      rw [Option.elim_some, Edit.ofQuoted]
      refine ⟨_, rfl, (requoted_declaration cut _).count hreturn, ?_⟩
      rw [(cutAt?_eq_some cut).1, List.append_cons _ _ body, text_quoteLine,
        List.getLast?_append, getLast?_quotedFrom, ← List.getLast?_append]

/-- No line that the first pass writes ends in a carriage return. -/
theorem getLast?_of_firstEdit? {er : Bool} {line : Line} {edit : Edit}
    (h : firstEdit? er line = some edit)
    : ∀ text ∈ edit.texts, text.getLast? ≠ some '\r' := by
  intro text ht he
  cases er with
  | true =>
      obtain ⟨-, fields, hfields, rfl⟩ := attributeEdit?_eq_some h
      obtain ⟨field, hf, rfl⟩ := List.mem_map.1 ht
      have hprintable := Attribute.isPrintable_of_replacement? hfields hf
      obtain ⟨rest, hrender⟩ := field.render_eq
      have hne : field.render ≠ [] := by simp [hrender]
      rw [List.getLast?_append_of_ne_nil _ hne] at he
      exact absurd (hprintable.isBlank_getLast? he) (by decide)
  | false =>
      obtain ⟨-, -, rfl⟩ := edgeEdit?_eq_some h
      rw [List.mem_singleton] at ht
      rw [ht, Edge.commentOut, List.getLast?_append_of_ne_nil _ (by simp)] at he
      revert he
      decide

-----------------------------------------------------------------------------------------
-- The state on written lines
-----------------------------------------------------------------------------------------

theorem blockAfter_congr (er inBlock : Bool) {first second : List Text}
    (h : SameTrimmed first second)
    : blockAfter er inBlock first = blockAfter er inBlock second := by
  induction h generalizing inBlock with
  | nil => rfl
  | cons hline _ ih => rw [blockAfter_cons, blockAfter_cons, LineKind.ofLine_congr hline, ih]

/-- A relationship line opens no entity block. -/
theorem LineKind.inBlockAfter_of_relationship? {er : Bool} {text : Text}
    (h : (relationship? text).isSome = true)
    : (LineKind.ofLine er false text).inBlockAfter false = false := by
  have hkind := LineKind.isOf_ofLine er false text
  generalize LineKind.ofLine er false text = kind at hkind ⊢
  cases hkind with
  | entityStart isEr outside starts =>
      rw [isEntityStart_of_relationship? h] at starts
      cases starts
  | _ => rfl

/-- A line is written as one line, or as lines that keep the state. -/
theorem Line.written_cases (er inBlock : Bool) (index : Nat) (text : Text)
    : (∃ written, (Line.read er inBlock index text).written er = [written])
      ∨ ∀ written ∈ (Line.read er inBlock index text).written er, IsInert er inBlock written := by
  cases hfirst : firstEdit? er (Line.read er inBlock index text) with
  | none =>
      obtain ⟨written, hw, -, -⟩ := Line.exists_written_of_firstEdit? hfirst
      exact Or.inl ⟨written, hw⟩
  | some edit =>
      right
      rw [Line.written, repairEdit?, hfirst, Option.some_or, Option.elim_some]
      exact (isInert_of_firstEdit? hfirst).1

/-- The state behind what a line is written as is the state behind the line. -/
theorem Line.blockAfter_written {er inBlock : Bool} (hstate : er = false → inBlock = false)
    (index : Nat) (text : Text)
    : blockAfter er inBlock ((Line.read er inBlock index text).written er)
      = (LineKind.ofLine er inBlock text).inBlockAfter inBlock := by
  cases er with
  | false =>
      obtain rfl := hstate rfl
      rw [blockAfter_of_not_er, LineKind.inBlockAfter_of_not_er]
  | true =>
      cases hfirst : firstEdit? true (Line.read true inBlock index text) with
      | some edit =>
          obtain ⟨hinert, hkept⟩ := isInert_of_firstEdit? hfirst
          rw [Line.written, repairEdit?, hfirst, Option.some_or, Option.elim_some, hkept]
          exact blockAfter_of_kept fun written hw => (hinert written hw).inBlockAfter
      | none =>
          have hedit := isEdit_repairEdit? true (Line.read true inBlock index text)
          rw [Line.written]
          generalize repairEdit? true (Line.read true inBlock index text) = edit at hedit ⊢
          cases hedit with
          | untouched first label => rfl
          | attributes isEr kind reads =>
              rw [firstEdit?_er, attributeEdit?_eq_none_iff] at hfirst
              rw [hfirst kind] at reads
              cases reads
          | edge isFlowchart => cases isFlowchart
          | relationship isEr kind =>
              rw [Line.kind_read] at kind
              obtain ⟨rfl, hrelates⟩ := LineKind.relates_of_relationship kind
              have hsome := isSome_relationship?_quoted hrelates
              rw [Option.elim_some, Edit.ofQuoted, List.nil_append, blockAfter_cons, kind,
                Line.text_read, LineKind.inBlockAfter_of_relationship? hsome]
              rfl
          | content isFlowchart => cases isFlowchart
          | declaration isFlowchart => cases isFlowchart

-----------------------------------------------------------------------------------------
-- What lines are written as, line by line
-----------------------------------------------------------------------------------------

/-- What lines are written as, from a state on. -/
def writtenFrom (er inBlock : Bool) : List Text → List Text
  | [] => []
  | text :: rest =>
      (Line.read er inBlock 0 text).written er
        ++ writtenFrom er ((LineKind.ofLine er inBlock text).inBlockAfter inBlock) rest

theorem flatMap_written_classifyFrom (er inBlock : Bool) (index : Nat) (texts : List Text)
    : (classifyFrom er inBlock index texts).flatMap (Line.written er)
      = writtenFrom er inBlock texts := by
  induction texts generalizing inBlock index with
  | nil => rfl
  | cons text rest ih =>
      rw [classifyFrom, List.flatMap_cons, ih, writtenFrom]
      rfl

theorem writtenFrom_append (er inBlock : Bool) (first second : List Text)
    : writtenFrom er inBlock (first ++ second)
      = writtenFrom er inBlock first
        ++ writtenFrom er (blockAfter er inBlock first) second := by
  induction first generalizing inBlock with
  | nil => rfl
  | cons text rest ih =>
      rw [List.cons_append, writtenFrom, writtenFrom, ih, blockAfter_cons, List.append_assoc]

/-- Lines that keep the state are written one by one in that state. -/
theorem writtenFrom_of_kept {er inBlock : Bool} {texts : List Text}
    (h : ∀ text ∈ texts, (LineKind.ofLine er inBlock text).inBlockAfter inBlock = inBlock)
    : writtenFrom er inBlock texts
      = texts.flatMap fun text => (Line.read er inBlock 0 text).written er := by
  induction texts with
  | nil => rfl
  | cons text rest ih =>
      rw [writtenFrom, h text List.mem_cons_self, List.flatMap_cons,
        ih fun other ho => h other (List.mem_cons_of_mem _ ho)]

/-- The lines that one line is written as, read with or without blanks around them, are written
one by one in the state of that line. -/
theorem writtenFrom_block {er inBlock : Bool} {text : Text} {reads : List Text}
    (h : SameTrimmed ((Line.read er inBlock 0 text).written er) reads)
    : writtenFrom er inBlock reads
      = reads.flatMap fun read => (Line.read er inBlock 0 read).written er := by
  rcases Line.written_cases er inBlock 0 text with ⟨written, hw⟩ | hinert
  · rw [hw] at h
    cases h with
    | cons hline hrest =>
        cases hrest with
        | nil => rw [writtenFrom, writtenFrom, List.flatMap_cons, List.flatMap_nil]
  · refine writtenFrom_of_kept fun read hr => ?_
    obtain ⟨written, hw, hsame⟩ := h.exists_of_mem hr
    rw [← LineKind.ofLine_congr hsame]
    exact (hinert written hw).inBlockAfter

theorem forall₂_flatMap {relation : Text → Text → Prop} {write : Text → List Text}
    {texts : List Text}
    (h : ∀ text ∈ texts, ∃ written, write text = [written] ∧ relation text written)
    : List.Forall₂ relation texts (texts.flatMap write) := by
  induction texts with
  | nil => exact .nil
  | cons text rest ih =>
      obtain ⟨written, hw, hr⟩ := h text List.mem_cons_self
      rw [List.flatMap_cons, hw, List.singleton_append]
      exact .cons hr (ih fun other ho => h other (List.mem_cons_of_mem _ ho))

/-- A second run writes every line as one line, with as many carriage returns. By induction on the
lines of the first run. -/
theorem forall₂_writtenFrom {er inBlock : Bool} (hstate : er = false → inBlock = false)
    {texts reads : List Text} (h : SameTrimmed (writtenFrom er inBlock texts) reads)
    : List.Forall₂ (fun read written => written.count '\r' = read.count '\r') reads
        (writtenFrom er inBlock reads) := by
  induction texts generalizing inBlock reads with
  | nil =>
      cases h with
      | nil => exact .nil
  | cons text rest ih =>
      rw [writtenFrom] at h
      obtain ⟨block, behind, rfl, hblock, hbehind⟩ := h.exists_append
      have hafter := blockAfter_congr er inBlock hblock
      rw [Line.blockAfter_written hstate] at hafter
      rw [writtenFrom_append, ← hafter, writtenFrom_block hblock]
      have hlater := LineKind.inBlockAfter_of_state hstate text
      refine List.rel_append (forall₂_flatMap fun read hr => ?_) (ih hlater hbehind)
      obtain ⟨written, hw, hsame⟩ := hblock.exists_of_mem hr
      have hfirst := firstEdit?_congr 0 hsame (firstEdit?_of_mem_written hstate 0 hw)
      obtain ⟨again, hagain, hcount, -⟩ := Line.exists_written_of_firstEdit? hfirst
      exact ⟨again, hagain, hcount⟩

end DiagramRepair

import DiagramRepair.Proofs.Repair.Idempotence
import DiagramRepair.Proofs.Repair.Reporting

/-! The two passes for ER diagrams on numbered lines of any kind. On the lines that they wrote they
write the same lines with the same numbers, and have nothing to report.
-/

namespace DiagramRepair

open Text Label

-----------------------------------------------------------------------------------------
-- Passes that leave all lines as they are
-----------------------------------------------------------------------------------------

/-- A pass whose edits write every line as it is, by induction on the lines. -/
theorem runFrom_of_unchanged {edit? : Line → Option Edit} {er inBlock : Bool} {index : Nat}
    {sources : List SourceLine}
    (h : ∀ line ∈ classifyFrom er inBlock index (SourceLine.texts sources),
      ∀ edit ∈ edit? line, edit.texts = [line.text] ∧ edit.fixes = [])
    : runFrom edit? er inBlock index sources = ⟨sources, []⟩ := by
  induction sources generalizing inBlock index with
  | nil => rfl
  | cons source rest ih =>
      simp only [SourceLine.texts, List.map_cons, classifyFrom, List.forall_mem_cons] at h
      obtain ⟨hline, hothers⟩ := h
      rw [runFrom, Line.kind_read, ih hothers]
      cases hedit : edit? (Line.read er inBlock index source.text) with
      | none => rfl
      | some edit =>
          obtain ⟨htexts, hfixes⟩ := hline edit hedit
          simp [SourceLine.apply, SourceLine.repairs, PassResult.append, htexts, hfixes]

/-- Outside ER diagrams no line is an attribute or a relationship. -/
theorem kind_of_mem_classify_of_not_er {texts : List Text} (her : isErDiagram texts = false)
    {line : Line} (hm : line ∈ classify texts)
    : line.kind ≠ .attribute ∧ line.kind ≠ .relationship := by
  rw [classify, her] at hm
  have hkind := LineKind.isOf_ofLine false false line.text
  rw [← kind_of_mem_classifyFrom_of_not_er hm] at hkind
  constructor
  · intro hattribute
    rw [hattribute] at hkind
    cases hkind with
    | attributes inside => cases inside
  · intro hrelationship
    rw [hrelationship] at hkind
    cases hkind with
    | relationship isEr => cases isEr

/-- The attribute pass does nothing to lines of any other diagram. -/
theorem attributePass_of_not_er {sources : List SourceLine}
    (her : isErDiagram (SourceLine.texts sources) = false)
    : attributePass sources = ⟨sources, []⟩ := by
  rw [attributePass, runPass_eq_runFrom]
  refine runFrom_of_unchanged fun line hm edit hedit => ?_
  exact absurd (attributeEdit?_eq_some hedit).1 (kind_of_mem_classify_of_not_er her hm).1

/-- The passes for ER diagrams do nothing to any other lines. -/
theorem repairLines_er_of_not_er {sources : List SourceLine}
    (her : isErDiagram (SourceLine.texts sources) = false)
    : repairLines true sources = ⟨sources, []⟩ := by
  have hlabels : labelPass true sources = ⟨sources, []⟩ := by
    rw [labelPass, runPass_eq_runFrom]
    refine runFrom_of_unchanged fun line hm edit hedit => ?_
    exact absurd (labelEdit?_er_eq_some hedit).1 (kind_of_mem_classify_of_not_er her hm).2
  rw [repairLines, if_pos rfl, attributePass_of_not_er her, hlabels]
  rfl

/-- The edit of a line that is written as it is. -/
theorem Line.edit_of_written_eq_self {er : Bool} {line : Line}
    (h : line.written er = [line.text])
    : ∀ edit ∈ repairEdit? er line, edit.texts = [line.text] ∧ edit.fixes = [] := by
  intro edit hedit
  rw [Option.mem_def] at hedit
  have hrepairs := Line.written_eq_self_iff.1 h
  rw [Line.written, hedit] at h
  rw [Line.repairs, hedit, Option.elim_some, List.map_eq_nil_iff] at hrepairs
  exact ⟨h, hrepairs⟩

theorem PassResult.eq_of_parts {result : PassResult} {lines : List SourceLine}
    (hl : result.lines = lines) (hr : result.repairs = [])
    : result = ⟨lines, []⟩ := by
  cases result
  subst hl hr
  rfl

theorem repairLines_of_written_eq_self {sources : List SourceLine} {type : DiagramType}
    (hd : declaredType? (SourceLine.texts sources) = some type)
    (h : ∀ line ∈ classify (SourceLine.texts sources),
      line.written (isErDiagram (SourceLine.texts sources)) = [line.text])
    : repairLines (isErDiagram (SourceLine.texts sources)) sources = ⟨sources, []⟩ := by
  obtain ⟨hlines, hrepairs⟩ := repairLines_eq_runFrom hd
  have hrun := runFrom_of_unchanged fun line hm => Line.edit_of_written_eq_self (h line hm)
  rw [hrun] at hlines hrepairs
  exact PassResult.eq_of_parts hlines hrepairs.eq_nil

-----------------------------------------------------------------------------------------
-- The second run
-----------------------------------------------------------------------------------------

/-- All lines that an ER diagram is written as are written as they are. -/
theorem written_of_mem_classifyFrom_writtenFrom {inBlock : Bool} {texts : List Text} {line : Line}
    (hm : line ∈ classifyFrom true inBlock 0 (writtenFrom true inBlock texts))
    : line.written true = [line.text] := by
  have hagain : writtenFrom true inBlock (writtenFrom true inBlock texts)
      = writtenFrom true inBlock texts :=
    (writtenFrom_writtenFrom_iff (by simp) 0 texts).2 fun _ _ => by simp [Line.IsSettled]
  have hne : ∀ other ∈ classifyFrom true inBlock 0 (writtenFrom true inBlock texts),
      other.written true ≠ [] := fun other _ => Line.written_ne_nil true other
  have hself := flatMap_eq_map_iff Line.text hne
  rw [flatMap_written_classifyFrom, map_text_classifyFrom] at hself
  exact hself.1 hagain line hm

/-- The passes for ER diagrams change nothing on the lines that they wrote, whatever the lines were,
and report nothing there. -/
theorem repairLines_repairLines_er (sources : List SourceLine)
    : let once := repairLines true sources
      repairLines true once.lines = ⟨once.lines, []⟩ := by
  intro once
  cases her : isErDiagram (SourceLine.texts sources) with
  | false =>
      have honce : once = ⟨sources, []⟩ := repairLines_er_of_not_er her
      rw [honce]
      exact repairLines_er_of_not_er her
  | true =>
      have htype : declaredType? (SourceLine.texts sources) = some .erDiagram := by
        simpa [isErDiagram] using her
      have hfirst := repairLines_eq_runFrom htype
      rw [her] at hfirst
      have hlines : once.lines = (runFrom (repairEdit? true) true false 0 sources).lines :=
        hfirst.1
      have htexts : SourceLine.texts once.lines
          = writtenFrom true false (SourceLine.texts sources) := by
        rw [hlines, texts_runFrom, ← flatMap_written_classifyFrom true false 0]
        rfl
      have hagain : declaredType? (SourceLine.texts once.lines) = some .erDiagram := by
        rw [hlines]
        exact (keepsHeader_repairEdit? true).declaredType? htype
      have herAgain : isErDiagram (SourceLine.texts once.lines) = true := by
        simp [isErDiagram, hagain]
      have hself := repairLines_of_written_eq_self hagain
      rw [herAgain] at hself
      refine hself fun line hm => ?_
      rw [classify, herAgain, htexts] at hm
      exact written_of_mem_classifyFrom_writtenFrom hm

end DiagramRepair

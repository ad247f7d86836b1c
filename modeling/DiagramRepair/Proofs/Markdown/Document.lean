import DiagramRepair.Markdown.Document
import DiagramRepair.Proofs.Markdown.Matching

/-! Repairing the diagrams of a markdown document in their places. The document is cut into blocks
and prose, the bodies of blocks are replaced by what they resolve to, and nothing else is written or
reported; what is said about one block does not depend on the bodies of the others.
-/

namespace DiagramRepair.Markdown

open Text

/-- The text of a part with its body, if it is a block, changed. -/
def Segment.textWith (change : Text → Text) : Segment → Text
  | .prose text => text
  | .block opening body => opening ++ change body ++ fence

/-- The text that a body resolves to. -/
def resolvedBody (body : Text) : Text :=
  (validate none body).resolve body

/-- The result of a repair of a text that is cut into these parts and no others. -/
structure RepairsInPlace (text : Text) (parts : List Segment) (result : RepairedDocument)
    : Prop where
  cut : IsCut isMermaidInfo text parts
  unique : ∀ others, IsCut isMermaidInfo text others → others = parts
  source : text = parts.flatMap (Segment.textWith id)
  output : result.text = parts.flatMap (Segment.textWith resolvedBody)
  indexes
    : result.reports.map BlockReport.index
      = List.range (parts.filterMap Segment.body?).length
  verdicts
    : result.reports.map BlockReport.verdict
      = (parts.filterMap Segment.body?).map (validate none)
  /-- Blocks with invalid bodies stay as they are. -/
  invalid
    : ∀ body ∈ parts.filterMap Segment.body?,
        (validate none body).isValid = false → resolvedBody body = body
  /-- With another closed body in one block, the output and the reports change for that block
  only. -/
  independent
    : ∀ (front back : List Segment) (opening body other : Text),
        parts = front ++ .block opening body :: back
        → IsClosed other
        → let before := front.flatMap (Segment.textWith id)
          let after := back.flatMap (Segment.textWith id)
          let index := (front.filterMap Segment.body?).length
          let otherText := before ++ (opening ++ other ++ fence) ++ after
          let otherResult := repairDocument otherText
          text = before ++ (opening ++ body ++ fence) ++ after
          ∧ IsCut isMermaidInfo otherText (front ++ .block opening other :: back)
          ∧ result.text
            = front.flatMap (Segment.textWith resolvedBody)
              ++ (opening ++ resolvedBody body ++ fence)
              ++ back.flatMap (Segment.textWith resolvedBody)
          ∧ otherResult.text
            = front.flatMap (Segment.textWith resolvedBody)
              ++ (opening ++ resolvedBody other ++ fence)
              ++ back.flatMap (Segment.textWith resolvedBody)
          ∧ otherResult.reports = result.reports.set index ⟨index, validate none other⟩

theorem textWith_id : Segment.textWith id = Segment.text := by
  funext part
  cases part with
  | prose => rfl
  | block => rfl

theorem flatMap_textWith_block (change : Text → Text) (front back : List Segment)
    (opening body : Text)
    : (front ++ .block opening body :: back).flatMap (Segment.textWith change)
      = front.flatMap (Segment.textWith change)
        ++ (opening ++ change body ++ fence)
        ++ back.flatMap (Segment.textWith change) := by
  simp only [List.flatMap_append, List.flatMap_cons, Segment.textWith, List.append_assoc]

/-- A document is repaired part by part. -/
theorem repairDocument_of_isCut {text : Text} {parts : List Segment}
    (h : IsCut isMermaidInfo text parts)
    : repairDocument text
      = {
          text := parts.flatMap (Segment.textWith resolvedBody)
          reports :=
            (parts.filterMap Segment.body?).mapIdx fun index body => ⟨index, validate none body⟩
        } := by
  have hpart : (fun part : Segment => part.repaired.text) = Segment.textWith resolvedBody := by
    funext part
    cases part with
    | prose => rfl
    | block => rfl
  rw [repairDocument, segments_eq_iff.2 h, hpart]

theorem resolve_of_not_valid {verdict : Verdict} (h : verdict.isValid = false) (input : Text)
    : verdict.resolve input = input := by
  cases verdict with
  | rejected => rfl
  | accepted => cases h

/-- The parts of a cut with another closed body in one block are a cut. -/
theorem IsCut.exchange_one {text opening body other : Text} {front back : List Segment}
    (h : IsCut isMermaidInfo text (front ++ .block opening body :: back)) (hc : IsClosed other)
    : IsCut isMermaidInfo ((front ++ .block opening other :: back).flatMap Segment.text)
        (front ++ .block opening other :: back) := by
  have hself : ∀ part ∈ front ++ .block opening body :: back, Segment.SameFrame part part := by
    intro part hm
    cases part with
    | prose text => exact .prose text
    | block first inside => exact .block first inside (h.of_mem hm).2
  rw [List.forall_mem_append, List.forall_mem_cons] at hself
  refine h.exchange (List.rel_append (List.forall₂_same.2 hself.1) ?_)
  exact .cons (.block opening body hc) (List.forall₂_same.2 hself.2.2)

/-- A document is repaired in its blocks and nowhere else, one block apart from the others. -/
theorem repairDocument_in_place (text : Text)
    : ∃ parts, RepairsInPlace text parts (repairDocument text) := by
  have hcut : IsCut isMermaidInfo text (segments isMermaidInfo text) := isCut_segments text
  refine ⟨segments isMermaidInfo text, ?_⟩
  generalize segments isMermaidInfo text = parts at hcut
  have hresult := repairDocument_of_isCut hcut
  exact {
    cut := hcut
    unique := fun others ho => (segments_eq_iff.2 ho).symm.trans (segments_eq_iff.2 hcut)
    source := by rw [textWith_id, hcut.flatMap_text]
    output := by rw [hresult]
    indexes := by
      rw [hresult]
      exact List.ext_getElem (by simp) (by simp)
    verdicts := by
      rw [hresult]
      exact List.ext_getElem (by simp) (by simp)
    invalid := fun body _ h => resolve_of_not_valid h body
    independent := by
      rintro front back opening body other rfl hc
      have hcutOther := hcut.exchange_one hc
      have hother := repairDocument_of_isCut hcutOther
      have hbodies : (front ++ .block opening other :: back).filterMap Segment.body?
          = ((front ++ .block opening body :: back).filterMap Segment.body?).set
              (front.filterMap Segment.body?).length other := by
        simp [List.filterMap_append, Segment.body?]
      rw [← textWith_id, flatMap_textWith_block, flatMap_textWith_block, hbodies,
        List.mapIdx_set, id_eq] at hother
      rw [← textWith_id, flatMap_textWith_block, id_eq] at hcutOther
      dsimp only
      rw [hresult, hother]
      refine ⟨?_, hcutOther, flatMap_textWith_block resolvedBody front back opening body, rfl, rfl⟩
      rw [← hcut.flatMap_text, ← textWith_id, flatMap_textWith_block, id_eq]
  }

end DiagramRepair.Markdown

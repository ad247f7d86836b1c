import DiagramRepair.Proofs.Edge.Ending
import DiagramRepair.Proofs.Repair.Written

/-! Repaired flowcharts have no dangling edges. Lines with one become comments, and quoting the
labels of the other lines gives none of them a connector at its end.
-/

namespace DiagramRepair

open Text Label

theorem Edge.isDangling_congr {first second : Text} (h : trim first = trim second)
    : Edge.isDangling first = Edge.isDangling second := by
  simp only [Edge.isDangling, h]

/-- No line that a line of a flowchart is written as is a content line with a dangling edge, by
cases on the edit. -/
theorem Line.isDangling_of_mem_written {line : Line}
    (hkind : line.kind = LineKind.ofLine false false line.text) {text : Text}
    (hw : text ∈ line.written false) (hc : LineKind.ofLine false false text = .content)
    : Edge.isDangling text = false := by
  have hedit := isEdit_repairEdit? false line
  rw [Line.written] at hw
  generalize repairEdit? false line = edit at hedit hw
  cases hedit with
  | untouched first label =>
      rw [Option.elim_none, List.mem_singleton] at hw
      rw [hw, ← hkind] at hc
      simp [labelEdit?, hc] at label
  | attributes isEr => cases isEr
  | edge isFlowchart kind dangles =>
      rw [Option.elim_some, List.mem_singleton] at hw
      rw [hw, LineKind.ofLine_of_isComment (isComment_commentOut _)] at hc
      cases hc
  | relationship isEr => cases isEr
  | content isFlowchart kind joined =>
      rw [Option.elim_some, Edit.ofQuoted, List.mem_singleton, List.nil_append] at hw
      cases hd : Edge.isDangling text with
      | false => rfl
      | true =>
          rw [hw] at hd
          have hold := Edge.isDangling_of_requoted (requoted_quoteLine _ line.text) hd
          exact absurd hold (by simp [joined])
  | @declaration head body isFlowchart kind cut =>
      rw [Option.elim_some, Edit.ofQuoted, List.mem_singleton] at hw
      obtain ⟨htext, hhead⟩ := cutAt?_eq_some cut
      rw [hkind, htext] at kind
      rw [hw, ← List.append_cons, LineKind.ofLine_declaration_congr hhead kind _] at hc
      cases hc

/-- No dangling edge survives the repair of a flowchart. -/
theorem isDangling_of_mem_classify_sanitize {text : Text}
    (h : declaredType? (lines text) = some .flowchart ∨ declaredType? (lines text) = some .graph)
    : ∀ line ∈ classify (lines (sanitize text)),
        line.kind = .content → Edge.isDangling line.text = false := by
  have her : isErDiagram (lines text) = false := by
    rcases h with h | h <;> simp [isErDiagram, h]
  have hsupported : (declaredType? (lines text)).any DiagramType.isSupported = true := by
    rcases h with h | h <;> simp [h, DiagramType.isSupported]
  have hagain : isErDiagram (lines (sanitize text)) = false := by
    rw [isErDiagram_congr (declaredType?_sanitize text), her]
  intro line hm hkind
  have hmem := mem_classify_text hm
  rw [lines_sanitize hsupported, her] at hmem
  obtain ⟨written, hw, htrim⟩ := (sameTrimmed_chopInit _).exists_of_mem hmem
  obtain ⟨source, hsource, hw⟩ := List.mem_flatMap.1 hw
  rw [classify, her] at hsource
  rw [classify, hagain] at hm
  have hkindOf := kind_of_mem_classifyFrom_of_not_er hm
  rw [← Edge.isDangling_congr htrim]
  apply Line.isDangling_of_mem_written (kind_of_mem_classifyFrom_of_not_er hsource) hw
  rw [LineKind.ofLine_congr htrim, ← hkindOf, hkind]

theorem isDangling_of_mem_classify_sanitize_labelled
    : (declaredType? (lines "graph TD\nA -->|(x)|\nB[(y)] --> C".toList) = some .flowchart
        ∨ declaredType? (lines "graph TD\nA -->|(x)|\nB[(y)] --> C".toList) = some .graph)
      ∧ ∀ line ∈ classify (lines (sanitize "graph TD\nA -->|(x)|\nB[(y)] --> C".toList)),
          line.kind = .content → Edge.isDangling line.text = false :=
  have h : declaredType? (lines "graph TD\nA -->|(x)|\nB[(y)] --> C".toList) = some .graph := by
    decide +kernel
  ⟨Or.inr h, isDangling_of_mem_classify_sanitize (Or.inr h)⟩

end DiagramRepair

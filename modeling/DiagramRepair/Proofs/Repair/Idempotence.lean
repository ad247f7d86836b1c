import DiagramRepair.Proofs.Label.Settled
import DiagramRepair.Proofs.Repair.SecondRun

/-! Repairing a repaired diagram. A second run reads the lines of the first one back, and then it
can only quote labels that are read differently once the labels behind them are quoted. So the
text changes again for two reasons: a line keeps a carriage return that reading takes away, or
the labels of a line are not settled.
-/

namespace DiagramRepair

open Text Label

-----------------------------------------------------------------------------------------
-- Lines that are settled
-----------------------------------------------------------------------------------------

/-- The text of a flowchart line that is read for node and edge labels. -/
def scannedText? (line : Line) : Option Text :=
  match line.kind with
  | .content => if Edge.isDangling line.text then none else some line.text
  | .declaration => (cutAt? ';' line.text).map Prod.snd
  | _ => none

/-- The labels of the line, if it is a flowchart line, are settled once they are quoted. -/
def Line.IsSettled (er : Bool) (line : Line) : Prop :=
  er = false → ∀ scanned ∈ scannedText? line, Settled flowchartReserved [] scanned

theorem Line.written_of_firstEdit? {er : Bool} {line : Line} (h : firstEdit? er line = none)
    : line.written er = (labelEdit? er line).elim [line.text] Edit.texts := by
  rw [Line.written, repairEdit?, h, Option.none_or]

theorem labelEdit?_er_eq_some {line : Line} {edit : Edit} (h : labelEdit? true line = some edit)
    : line.kind = .relationship ∧ edit = .ofQuoted [] (quoteRelationship line.text) := by
  unfold labelEdit? at h
  split at h
  · rename_i hkind
    exact ⟨hkind, (Option.some.inj h).symm⟩
  · rename_i her _
    cases her
  · rename_i her _
    cases her
  · contradiction

/-- What a line of an ER diagram is written as is written again as it is. -/
theorem Line.written_written_er {inBlock : Bool} {text written : Text}
    (hw : written ∈ (Line.read true inBlock 0 text).written true)
    : (Line.read true inBlock 0 written).written true = [written] := by
  have hfirst := firstEdit?_of_mem_written (by simp) 0 hw
  rw [Line.written_of_firstEdit? hfirst]
  cases hlabel : labelEdit? true (Line.read true inBlock 0 written) with
  | none => rfl
  | some edit =>
      obtain ⟨hkind, rfl⟩ := labelEdit?_er_eq_some hlabel
      rw [Line.kind_read] at hkind
      obtain ⟨rfl, -⟩ := LineKind.relates_of_relationship hkind
      have hedit := isEdit_repairEdit? true (Line.read true false 0 text)
      rw [Line.written] at hw
      generalize repairEdit? true (Line.read true false 0 text) = edit at hedit hw
      cases hedit with
      | untouched first label =>
          rw [Option.elim_none, List.mem_singleton, Line.text_read] at hw
          rw [hw, label] at hlabel
          cases hlabel
      | attributes isEr kind reads =>
          rw [Line.kind_read] at kind
          cases LineKind.inBlock_of_attribute kind
      | edge isFlowchart => cases isFlowchart
      | relationship isEr kind =>
          rw [Option.elim_some, Edit.ofQuoted, List.mem_singleton, List.nil_append,
            Line.text_read] at hw
          rw [Option.elim_some, Edit.ofQuoted, List.nil_append, Line.text_read, hw,
            quoteRelationship_quoted]
      | content isFlowchart => cases isFlowchart
      | declaration isFlowchart => cases isFlowchart

theorem Line.written_of_content {index : Nat} {text : Text}
    (hkind : LineKind.ofLine false false text = .content)
    (hfirst : firstEdit? false (Line.read false false index text) = none)
    : (Line.read false false index text).written false
      = [(quoteLine flowchartReserved text).text] := by
  rw [Line.written_of_firstEdit? hfirst]
  simp only [labelEdit?, Line.kind_read, hkind, Line.text_read]
  rfl

theorem Line.written_of_declaration {index : Nat} {text head body : Text}
    (hkind : LineKind.ofLine false false text = .declaration)
    (hcut : cutAt? ';' text = some (head, body))
    : (Line.read false false index text).written false
      = [head ++ [';'] ++ (quoteLine flowchartReserved body).text] := by
  have hfirst : firstEdit? false (Line.read false false index text) = none :=
    firstEdit?_of_kind (by simp [Line.kind_read, hkind]) (by simp [Line.kind_read, hkind])
  rw [Line.written_of_firstEdit? hfirst]
  simp only [labelEdit?, Line.kind_read, hkind, Line.text_read, hcut]
  rfl

/-- What a line of a flowchart is written as is written again as it is exactly when the line is
settled. By cases on the edit. -/
theorem Line.written_written_flowchart (index : Nat) (text : Text)
    : (∀ written ∈ (Line.read false false 0 text).written false,
        (Line.read false false 0 written).written false = [written])
      ↔ (Line.read false false index text).IsSettled false := by
  have hquote : '"' ∈ flowchartReserved := by decide
  have hagain : ∀ written ∈ (Line.read false false 0 text).written false,
      firstEdit? false (Line.read false false 0 written) = none :=
    fun written hw => firstEdit?_of_mem_written (fun _ => rfl) 0 hw
  have hedit := isEdit_repairEdit? false (Line.read false false 0 text)
  rw [Line.written, Line.text_read] at hagain ⊢
  rw [Line.IsSettled, scannedText?, Line.kind_read, Line.text_read]
  generalize repairEdit? false (Line.read false false 0 text) = edit at hedit hagain ⊢
  cases hedit with
  | untouched first label =>
      rw [Option.elim_none] at hagain ⊢
      simp only [List.mem_singleton, forall_eq] at hagain ⊢
      have hleft : (Line.read false false 0 text).written false = [text] := by
        rw [Line.written_of_firstEdit? first, label, Option.elim_none, Line.text_read]
      refine iff_of_true hleft fun _ => ?_
      unfold labelEdit? at label
      rw [Line.kind_read, Line.text_read] at label
      cases hkind : LineKind.ofLine false false text with
      | content =>
          rw [hkind] at label
          cases label
      | declaration =>
          rw [hkind] at label
          simp [Option.map_eq_none_iff.1 label]
      | _ => simp
  | attributes isEr => cases isEr
  | edge isFlowchart kind dangles =>
      rw [Line.kind_read] at kind
      rw [Line.text_read] at dangles
      rw [Option.elim_some, Line.text_read] at hagain ⊢
      simp only [List.mem_singleton, forall_eq] at hagain ⊢
      have hcomment : (Line.read false false 0 (Edge.commentOut text)).kind = .comment := by
        rw [Line.kind_read, LineKind.ofLine_of_isComment (isComment_commentOut text)]
      have hlabel : labelEdit? false (Line.read false false 0 (Edge.commentOut text)) = none :=
        labelEdit?_of_kind (Or.inl hcomment)
      refine iff_of_true ?_ fun _ => by simp [kind, dangles]
      rw [Line.written_of_firstEdit? hagain, hlabel, Option.elim_none, Line.text_read]
  | relationship isEr => cases isEr
  | content isFlowchart kind joined =>
      rw [Line.kind_read] at kind
      rw [Line.text_read] at joined
      rw [Option.elim_some, Edit.ofQuoted, List.nil_append, Line.text_read] at hagain ⊢
      simp only [List.mem_singleton, forall_eq] at hagain ⊢
      rw [Line.written_of_content (LineKind.ofLine_quoted kind) hagain, kind]
      simpa [joined] using quoteLine_quoteLine_iff hquote text
  | @declaration head body isFlowchart kind cut =>
      rw [Line.kind_read] at kind
      rw [Line.text_read] at cut
      obtain ⟨rfl, hhead⟩ := cutAt?_eq_some cut
      rw [Option.elim_some, Edit.ofQuoted, ← List.append_cons]
      simp only [List.mem_singleton, forall_eq]
      have hcut := cutAt?_append hhead (quoteLine flowchartReserved body).text
      have hquoted := LineKind.ofLine_declaration_congr hhead kind
        (quoteLine flowchartReserved body).text
      rw [Line.written_of_declaration hquoted hcut, kind, cut, ← List.append_cons]
      simpa using quoteLine_quoteLine_iff hquote body

-----------------------------------------------------------------------------------------
-- The second run
-----------------------------------------------------------------------------------------

/-- What a line is written as is written again as it is exactly when the line is settled. -/
theorem Line.written_written_iff {er inBlock : Bool} (hstate : er = false → inBlock = false)
    (index : Nat) (text : Text)
    : (∀ written ∈ (Line.read er inBlock 0 text).written er,
        (Line.read er inBlock 0 written).written er = [written])
      ↔ (Line.read er inBlock index text).IsSettled er := by
  cases er with
  | true => exact iff_of_true (fun written hw => Line.written_written_er hw) (by simp [IsSettled])
  | false =>
      obtain rfl := hstate rfl
      exact Line.written_written_flowchart index text

/-- A second run leaves what the first one wrote as it is exactly when every line is settled. By
induction on the lines. -/
theorem writtenFrom_writtenFrom_iff {er inBlock : Bool} (hstate : er = false → inBlock = false)
    (index : Nat) (texts : List Text)
    : writtenFrom er inBlock (writtenFrom er inBlock texts) = writtenFrom er inBlock texts
      ↔ ∀ line ∈ classifyFrom er inBlock index texts, line.IsSettled er := by
  induction texts generalizing inBlock index with
  | nil => simp [writtenFrom, classifyFrom]
  | cons text rest ih =>
      have hlater := LineKind.inBlockAfter_of_state hstate text
      have hagain : ∀ written ∈ (Line.read er inBlock 0 text).written er,
          ∃ again, (Line.read er inBlock 0 written).written er = [again]
            ∧ again.count '\r' = written.count '\r' := by
        intro written hw
        obtain ⟨again, hone, hcount, -⟩ :=
          Line.exists_written_of_firstEdit? (firstEdit?_of_mem_written hstate 0 hw)
        exact ⟨again, hone, hcount⟩
      have hlength := (forall₂_flatMap hagain).length_eq
      have hself := flatMap_eq_map_iff id
        (fun written (_ : written ∈ (Line.read er inBlock 0 text).written er) =>
          Line.written_ne_nil er (Line.read er inBlock 0 written))
      rw [List.map_id] at hself
      rw [writtenFrom, writtenFrom_append, Line.blockAfter_written hstate,
        writtenFrom_block (SameTrimmed.refl ((Line.read er inBlock 0 text).written er)),
        List.append_eq_append_iff_of_size_eq_left hlength.symm, hself]
      simp only [id_eq]
      rw [Line.written_written_iff hstate index, ih hlater (index + 1), classifyFrom,
        List.forall_mem_cons]
      rfl

-----------------------------------------------------------------------------------------
-- Carriage returns
-----------------------------------------------------------------------------------------

/-- What a line is written as ends in no carriage return exactly when the line ends in none or is
edited by the first pass. -/
theorem Line.getLast?_written_iff {er : Bool} {line : Line}
    : (∀ text ∈ line.written er, text.getLast? ≠ some '\r')
      ↔ (line.text.getLast? = some '\r' → (firstEdit? er line).isSome = true) := by
  cases hfirst : firstEdit? er line with
  | none =>
      obtain ⟨text, hw, -, hlast⟩ := Line.exists_written_of_firstEdit? hfirst
      simp [hw, hlast]
  | some edit =>
      refine iff_of_true ?_ fun _ => rfl
      rw [Line.written, repairEdit?, hfirst, Option.some_or, Option.elim_some]
      exact getLast?_of_firstEdit? hfirst

/-- Of the lines that a line is written as, only the last one may end in a carriage return. -/
theorem Line.getLast?_dropLast_written (er : Bool) (line : Line)
    : ∀ text ∈ (line.written er).dropLast, text.getLast? ≠ some '\r' := by
  intro text ht
  cases hfirst : firstEdit? er line with
  | none =>
      obtain ⟨written, hw, -, -⟩ := Line.exists_written_of_firstEdit? hfirst
      simp [hw] at ht
  | some edit =>
      have hall := Line.getLast?_written_iff.2 fun _ => by rw [hfirst]; rfl
      exact hall text (List.dropLast_subset _ ht)

/-- The lines before the last written one are those that the lines before the last one are
written as, and those before the last one of its own. -/
theorem dropLast_flatMap {write : Line → List Text} {line : Line} (h : write line ≠ [])
    (front : List Line)
    : ((front ++ [line]).flatMap write).dropLast
      = front.flatMap write ++ (write line).dropLast := by
  rw [List.flatMap_append, List.flatMap_cons, List.flatMap_nil, List.append_nil,
    List.dropLast_append_of_ne_nil h]

/-- Reading the written lines back loses nothing exactly when no line before the last one keeps a
carriage return at its end. -/
theorem chopInit_written_iff (er : Bool) (classified : List Line)
    : chopInit (classified.flatMap (Line.written er)) = classified.flatMap (Line.written er)
      ↔ ∀ line ∈ classified.dropLast,
          line.text.getLast? = some '\r' → (firstEdit? er line).isSome = true := by
  rw [chopInit_eq_self_iff]
  rcases List.eq_nil_or_concat classified with rfl | ⟨front, last, rfl⟩
  · simp
  · rw [List.concat_eq_append, dropLast_flatMap (Line.written_ne_nil er last),
      List.dropLast_concat, List.forall_mem_append,
      and_iff_left (Line.getLast?_dropLast_written er last), List.forall_mem_flatMap]
    exact forall₂_congr fun _ _ => Line.getLast?_written_iff

-----------------------------------------------------------------------------------------
-- Two runs
-----------------------------------------------------------------------------------------

/-- What it takes for the repaired text to be repaired to itself. -/
structure Stable (text : Text) : Prop where
  returns
    : ∀ line ∈ (classify (lines text)).dropLast,
        line.text.getLast? = some '\r'
        → (firstEdit? (isErDiagram (lines text)) line).isSome = true
  labels : ∀ line ∈ classify (lines text), line.IsSettled (isErDiagram (lines text))

/-- Two runs write the same text exactly when they write the same lines. -/
theorem sanitize_sanitize_iff_lines {text : Text}
    (h : (declaredType? (lines text)).any DiagramType.isSupported = true)
    : sanitize (sanitize text) = sanitize text
      ↔ writtenFrom (isErDiagram (lines text)) false
            (chopInit (writtenFrom (isErDiagram (lines text)) false (lines text)))
          = writtenFrom (isErDiagram (lines text)) false (lines text) := by
  have htype := declaredType?_sanitize text
  have her := isErDiagram_congr htype
  have hfirst : (classify (lines text)).flatMap (Line.written (isErDiagram (lines text)))
      = writtenFrom (isErDiagram (lines text)) false (lines text) := by
    rw [classify, flatMap_written_classifyFrom]
  have hsecond : (classify (lines (sanitize text))).flatMap
        (Line.written (isErDiagram (lines (sanitize text))))
      = writtenFrom (isErDiagram (lines text)) false
          (chopInit (writtenFrom (isErDiagram (lines text)) false (lines text))) := by
    rw [classify, her, flatMap_written_classifyFrom, lines_sanitize h, hfirst]
  have hagain := sanitize_of_supported (htype ▸ h)
  rw [hagain]
  conv => lhs; rhs; rw [sanitize_of_supported h]
  rw [← hsecond, ← hfirst]
  constructor
  · intro hsame
    exact joinLines_inj (fun _ hw => isLine_of_mem_flatMap_written hw)
      (fun _ hw => isLine_of_mem_flatMap_written hw) (flatMap_written_ne_nil _ _)
      (flatMap_written_ne_nil _ _) hsame
  · exact congrArg joinLines

/-- Repairing a repaired text changes nothing exactly when the text declares no supported type, or
no line but the last one keeps a carriage return and the labels of every line are settled. -/
theorem sanitize_sanitize_iff (text : Text)
    : sanitize (sanitize text) = sanitize text
      ↔ ((declaredType? (lines text)).any DiagramType.isSupported = true → Stable text) := by
  cases h : (declaredType? (lines text)).any DiagramType.isSupported with
  | false =>
      have hsame : sanitize text = text := by rw [sanitize, repair_of_not_supported h]
      exact iff_of_true (by rw [hsame, hsame]) (by simp)
  | true =>
      rw [sanitize_sanitize_iff_lines h, forall_prop_of_true rfl]
      have hreturns := chopInit_written_iff (isErDiagram (lines text)) (classify (lines text))
      rw [classify, flatMap_written_classifyFrom, ← classify] at hreturns
      have hstate : isErDiagram (lines text) = false → false = false := fun _ => rfl
      have hlabels := writtenFrom_writtenFrom_iff hstate 0 (lines text)
      constructor
      · intro hsame
        have hread := sameTrimmed_chopInit
          (writtenFrom (isErDiagram (lines text)) false (lines text))
        have hcount := forall₂_writtenFrom hstate hread
        rw [hsame] at hcount
        have hkept := chopInit_eq_self_of_count hcount
        rw [hkept] at hsame
        exact ⟨hreturns.1 hkept, hlabels.1 hsame⟩
      · rintro ⟨returns, labels⟩
        rw [hreturns.2 returns, hlabels.2 labels]

/-- A line feed behind two carriage returns keeps one of them, and the second run takes it away;
a node label that no bracket closed is closed once the edge label behind it stands in quotes. -/
theorem sanitize_sanitize_ne
    : sanitize (sanitize "graph TD\r\r\nA".toList) ≠ sanitize "graph TD\r\r\nA".toList
      ∧ sanitize (sanitize "graph\nA(-->|(|)".toList) ≠ sanitize "graph\nA(-->|(|)".toList := by
  decide +kernel

end DiagramRepair

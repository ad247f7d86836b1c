import DiagramRepair.Proofs.Repair.Written

/-! Passes over lines among which a blank line or a comment was put. No pass reads the number of a
line, and none edits the line put in, so each does to the other lines what it does without it.
-/

namespace DiagramRepair

open Text

-----------------------------------------------------------------------------------------
-- Lines and repairs under other numbers
-----------------------------------------------------------------------------------------

def SourceLine.renumber (number : Int → Int) (line : SourceLine) : SourceLine :=
  { line with number := number line.number }

def Repair.renumber (number : Int → Int) (repair : Repair) : Repair :=
  { repair with line := number repair.line }

def PassResult.renumber (number : Int → Int) (result : PassResult) : PassResult :=
  ⟨result.lines.map (SourceLine.renumber number), result.repairs.map (Repair.renumber number)⟩

/-- The number of a line behind which, or in front of which, another line is put. -/
def shiftNumber (position : Nat) (number : Int) : Int :=
  if number ≤ position then number else number + 1

theorem shiftNumber_le_iff (position : Nat) (first second : Int)
    : shiftNumber position first ≤ shiftNumber position second ↔ first ≤ second := by
  unfold shiftNumber
  split <;> split <;> omega

theorem texts_renumber (number : Int → Int) (sources : List SourceLine)
    : SourceLine.texts (sources.map (SourceLine.renumber number)) = SourceLine.texts sources := by
  rw [SourceLine.texts, SourceLine.texts, List.map_map]
  rfl

theorem apply_renumber (number : Int → Int) (source : SourceLine) (edit : Option Edit)
    : (source.renumber number).apply edit
      = (source.apply edit).map (SourceLine.renumber number) := by
  cases edit with
  | none => rfl
  | some edit =>
      rw [SourceLine.apply, SourceLine.apply, List.map_map]
      rfl

theorem repairs_renumber (number : Int → Int) (source : SourceLine) (edit : Option Edit)
    : (source.renumber number).repairs edit
      = (source.repairs edit).map (Repair.renumber number) := by
  cases edit with
  | none => rfl
  | some edit =>
      rw [SourceLine.repairs, SourceLine.repairs, List.map_map]
      rfl

/-- A pass that edits a line in the same way wherever it stands, and no blank line or comment. -/
structure IsLocal (edit? : Line → Option Edit) : Prop where
  index : ∀ (line : Line) (index : Nat), edit? { line with index } = edit? line
  inert : ∀ line : Line, line.kind = .comment ∨ line.kind = .blank → edit? line = none

theorem isLocal_attributeEdit? : IsLocal attributeEdit? where
  index _ _ := rfl
  inert line h := by simpa only [firstEdit?_er] using (keepsHeader_firstEdit? true).inert line h

theorem isLocal_edgeEdit? : IsLocal edgeEdit? where
  index _ _ := rfl
  inert line h := by
    simpa only [firstEdit?_flowchart] using (keepsHeader_firstEdit? false).inert line h

theorem isLocal_labelEdit? (er : Bool) : IsLocal (labelEdit? er) where
  index line index := labelEdit?_index er line index
  inert := (keepsHeader_labelEdit? er).inert

/-- Other numbers on the lines are other numbers on what is written and reported, by induction on
the lines. -/
theorem IsLocal.runFrom_renumber {edit? : Line → Option Edit} (h : IsLocal edit?)
    (number : Int → Int) (er inBlock : Bool) (index other : Nat) (sources : List SourceLine)
    : runFrom edit? er inBlock other (sources.map (SourceLine.renumber number))
      = (runFrom edit? er inBlock index sources).renumber number := by
  induction sources generalizing inBlock index other with
  | nil => rfl
  | cons source rest ih =>
      have hedit : edit? (Line.read er inBlock other source.text)
          = edit? (Line.read er inBlock index source.text) :=
        h.index (Line.read er inBlock index source.text) other
      have htext : (source.renumber number).text = source.text := rfl
      rw [List.map_cons, runFrom, runFrom, htext, hedit, apply_renumber, repairs_renumber,
        Line.kind_read, Line.kind_read, ih _ (index + 1)]
      simp only [PassResult.append, PassResult.renumber, List.map_append]

/-- A line without meaning goes through a pass as it is. -/
theorem IsLocal.runFrom_cons_of_not_meaningful {edit? : Line → Option Edit} (h : IsLocal edit?)
    {added : SourceLine} (ha : isMeaningful added.text = false) (er inBlock : Bool) (index : Nat)
    (sources : List SourceLine)
    : runFrom edit? er inBlock index (added :: sources)
      = PassResult.append ⟨[added], []⟩ (runFrom edit? er inBlock (index + 1) sources) := by
  have hnone : edit? (Line.read er inBlock index added.text) = none :=
    h.inert _ (LineKind.ofLine_of_not_meaningful er inBlock ha)
  rw [runFrom, hnone, Line.kind_read, LineKind.inBlockAfter_of_not_meaningful er inBlock ha]
  rfl

-----------------------------------------------------------------------------------------
-- A line put in
-----------------------------------------------------------------------------------------

/-- The second lines are the first ones with a line put in behind those numbered up to a position,
and with the others numbered on. -/
inductive Inserts (position : Nat) (added : Text) : List SourceLine → List SourceLine → Prop
  | intro (number : Int) {front back : List SourceLine}
      (inFront : ∀ line ∈ front, line.number ≤ position)
      (behind : ∀ line ∈ back, position < line.number)
    : Inserts position added (front ++ back)
        (front.map (SourceLine.renumber (shiftNumber position))
          ++ ⟨number, added⟩ :: back.map (SourceLine.renumber (shiftNumber position)))

theorem declaredType?_insert {added : Text} (ha : isMeaningful added = false)
    (front back : List Text)
    : declaredType? (front ++ added :: back) = declaredType? (front ++ back) := by
  have hheader : header? (front ++ added :: back) = header? (front ++ back) := by
    rw [header?, header?, List.find?_append, List.find?_append, List.find?_cons, ha]
  rw [declaredType?, declaredType?, hheader]

theorem Inserts.exists_texts {position : Nat} {added : Text} {old new : List SourceLine}
    (h : Inserts position added old new)
    : ∃ front back,
        old = front ++ back
        ∧ (∀ line ∈ front, line.number ≤ position)
        ∧ (∀ line ∈ back, position < line.number)
        ∧ SourceLine.texts new = SourceLine.texts front ++ added :: SourceLine.texts back := by
  cases h with
  | @intro number front back inFront behind =>
      refine ⟨front, back, rfl, inFront, behind, ?_⟩
      rw [SourceLine.texts, List.map_append, List.map_cons, ← SourceLine.texts,
        ← SourceLine.texts, texts_renumber, texts_renumber]

theorem Inserts.declaredType? {position : Nat} {added : Text} {old new : List SourceLine}
    (h : Inserts position added old new) (ha : isMeaningful added = false)
    : DiagramRepair.declaredType? (SourceLine.texts new)
      = DiagramRepair.declaredType? (SourceLine.texts old) := by
  obtain ⟨front, back, rfl, -, -, hnew⟩ := h.exists_texts
  rw [hnew, declaredType?_insert ha, SourceLine.texts, SourceLine.texts, ← List.map_append]
  rfl

/-- What a pass writes keeps the numbers of the lines that it is made of. -/
theorem exists_source_of_mem_runFrom {edit? : Line → Option Edit} {er inBlock : Bool} {index : Nat}
    {sources : List SourceLine} {line : SourceLine}
    (h : line ∈ (runFrom edit? er inBlock index sources).lines)
    : ∃ source ∈ sources, source.number = line.number := by
  induction sources generalizing inBlock index with
  | nil => simp [runFrom] at h
  | cons source rest ih =>
      rw [runFrom, PassResult.append, List.mem_append] at h
      rcases h with h | h
      · refine ⟨source, List.mem_cons_self, ?_⟩
        cases hedit : edit? (Line.read er inBlock index source.text) with
        | none =>
            rw [hedit, SourceLine.apply, List.mem_singleton] at h
            rw [h]
        | some edit =>
            rw [hedit, SourceLine.apply] at h
            obtain ⟨text, -, rfl⟩ := List.mem_map.1 h
            rfl
      · obtain ⟨found, hf, hnumber⟩ := ih h
        exact ⟨found, List.mem_cons_of_mem _ hf, hnumber⟩

/-- A pass keeps the line where it was put and writes the others as it does without it. -/
theorem Inserts.runFrom {position : Nat} {added : Text} {old new : List SourceLine}
    (h : Inserts position added old new) (ha : isMeaningful added = false)
    {edit? : Line → Option Edit} (hl : IsLocal edit?) (er inBlock : Bool) (index : Nat)
    : let once := DiagramRepair.runFrom edit? er inBlock index old
      let again := DiagramRepair.runFrom edit? er inBlock index new
      Inserts position added once.lines again.lines
      ∧ again.repairs = once.repairs.map (Repair.renumber (shiftNumber position)) := by
  cases h with
  | @intro number front back inFront behind =>
      dsimp only
      rw [runFrom_append, runFrom_append, hl.runFrom_cons_of_not_meaningful ha,
        hl.runFrom_renumber _ er inBlock index, hl.runFrom_renumber _ er _ (index + front.length),
        texts_renumber]
      constructor
      · refine .intro number (fun line hm => ?_) (fun line hm => ?_)
        · obtain ⟨source, hs, hnumber⟩ := exists_source_of_mem_runFrom hm
          exact hnumber ▸ inFront source hs
        · obtain ⟨source, hs, hnumber⟩ := exists_source_of_mem_runFrom hm
          exact hnumber ▸ behind source hs
      · simp only [PassResult.append, PassResult.renumber, List.nil_append, List.map_append]

theorem Inserts.runPass {position : Nat} {added : Text} {old new : List SourceLine}
    (h : Inserts position added old new) (ha : isMeaningful added = false)
    {edit? : Line → Option Edit} (hl : IsLocal edit?)
    : let once := DiagramRepair.runPass edit? old
      let again := DiagramRepair.runPass edit? new
      Inserts position added once.lines again.lines
      ∧ again.repairs = once.repairs.map (Repair.renumber (shiftNumber position)) := by
  rw [runPass_eq_runFrom, runPass_eq_runFrom, isErDiagram_congr (h.declaredType? ha)]
  exact h.runFrom ha hl _ false 0

/-- Both passes together keep the line, too. -/
theorem Inserts.repairLines {position : Nat} {added : Text} {old new : List SourceLine}
    (h : Inserts position added old new) (ha : isMeaningful added = false) (er : Bool)
    : let once := DiagramRepair.repairLines er old
      let again := DiagramRepair.repairLines er new
      Inserts position added once.lines again.lines
      ∧ again.repairs = once.repairs.map (Repair.renumber (shiftNumber position)) := by
  have hfirst
      : let once := if er then attributePass old else edgePass old
        let again := if er then attributePass new else edgePass new
        Inserts position added once.lines again.lines
        ∧ again.repairs = once.repairs.map (Repair.renumber (shiftNumber position)) := by
    cases er with
    | true => exact h.runPass ha isLocal_attributeEdit?
    | false => exact h.runPass ha isLocal_edgeEdit?
  obtain ⟨hlines, hrepairs⟩ := hfirst
  obtain ⟨hlabelled, hlabels⟩ := hlines.runPass ha (isLocal_labelEdit? er)
  refine ⟨hlabelled, ?_⟩
  rw [DiagramRepair.repairLines, DiagramRepair.repairLines, List.map_append, hrepairs, labelPass,
    labelPass, hlabels]

-----------------------------------------------------------------------------------------
-- A line put in among numbered texts
-----------------------------------------------------------------------------------------

theorem numberedFrom_append (index : Nat) (front back : List Text)
    : numberedFrom index (front ++ back)
      = numberedFrom index front ++ numberedFrom (index + front.length) back := by
  induction front generalizing index with
  | nil => rfl
  | cons text rest ih =>
      rw [List.cons_append, numberedFrom_cons, numberedFrom_cons, ih, List.length_cons,
        List.cons_append, Nat.add_assoc, Nat.add_comm 1]

theorem number_of_mem_numberedFrom {index : Nat} {texts : List Text} {line : SourceLine}
    (h : line ∈ numberedFrom index texts)
    : (index : Int) < line.number ∧ line.number ≤ index + texts.length := by
  induction texts generalizing index with
  | nil => simp [numberedFrom] at h
  | cons text rest ih =>
      rw [numberedFrom_cons, List.mem_cons] at h
      rcases h with rfl | h
      · constructor
        · exact Int.lt_add_one_of_le (Int.le_refl _)
        · rw [List.length_cons]
          dsimp only
          omega
      · have hrest := ih h
        rw [List.length_cons]
        omega

theorem renumber_numberedFrom_inFront {position : Nat} {texts : List Text}
    (h : texts.length ≤ position)
    : (numberedFrom 0 texts).map (SourceLine.renumber (shiftNumber position))
      = numberedFrom 0 texts := by
  have hsame : ∀ line ∈ numberedFrom 0 texts, line.renumber (shiftNumber position) = line := by
    intro line hm
    have hnumber : line.number ≤ position := by
      have := (number_of_mem_numberedFrom hm).2
      omega
    rw [SourceLine.renumber, shiftNumber, if_pos hnumber]
  rw [List.map_congr_left hsame, List.map_id']

theorem renumber_numberedFrom_behind {position index : Nat} (h : position ≤ index)
    (texts : List Text)
    : (numberedFrom index texts).map (SourceLine.renumber (shiftNumber position))
      = numberedFrom (index + 1) texts := by
  induction texts generalizing index with
  | nil => rfl
  | cons text rest ih =>
      have hnumber : ¬(index : Int) + 1 ≤ position := by omega
      rw [numberedFrom_cons, numberedFrom_cons, List.map_cons, ih (Nat.le_succ_of_le h),
        SourceLine.renumber, shiftNumber, if_neg hnumber, Int.natCast_succ]

theorem inserts_ofTexts {position : Nat} {texts : List Text} (hp : position ≤ texts.length)
    (added : Text)
    : Inserts position added (SourceLine.ofTexts texts)
        (SourceLine.ofTexts (texts.take position ++ added :: texts.drop position)) := by
  have hlength : (texts.take position).length = position := by
    rw [List.length_take, Nat.min_eq_left hp]
  have hold : SourceLine.ofTexts texts
      = numberedFrom 0 (texts.take position) ++ numberedFrom position (texts.drop position) := by
    conv => lhs; rw [← List.take_append_drop position texts]
    rw [ofTexts_eq_numberedFrom, numberedFrom_append, hlength, Nat.zero_add]
  have hnew : SourceLine.ofTexts (texts.take position ++ added :: texts.drop position)
      = (numberedFrom 0 (texts.take position)).map (SourceLine.renumber (shiftNumber position))
        ++ ⟨(position : Int) + 1, added⟩
          :: (numberedFrom position (texts.drop position)).map
            (SourceLine.renumber (shiftNumber position)) := by
    rw [renumber_numberedFrom_inFront (Nat.le_of_eq hlength),
      renumber_numberedFrom_behind (Nat.le_refl position), ofTexts_eq_numberedFrom,
      numberedFrom_append, numberedFrom_cons, hlength, Nat.zero_add]
  rw [hold, hnew]
  refine .intro _ (fun line hm => ?_) (fun line hm => (number_of_mem_numberedFrom hm).1)
  have hnumber := (number_of_mem_numberedFrom hm).2
  omega

end DiagramRepair

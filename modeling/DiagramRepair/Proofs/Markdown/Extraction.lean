import DiagramRepair.Markdown.Document
import DiagramRepair.Proofs.Markdown.Matching
import DiagramRepair.Proofs.Verdict.Decision

/-! The diagram in a reply. It comes from the body of a block, which holds no fence, or from the
whole reply, in which blanks at the ends are of no matter for its blocks. So a diagram that is found
is found again in itself, if it declares a type.
-/

namespace DiagramRepair.Markdown

open Text

-----------------------------------------------------------------------------------------
-- Bodies of blocks
-----------------------------------------------------------------------------------------

variable {isWanted : Text → Bool}

/-- The bodies of the blocks of a text in their order. -/
def bodies (isWanted : Text → Bool) (text : Text) : List Text :=
  (segments isWanted text).filterMap Segment.body?

theorem bodies_of_isCut {text : Text} {parts : List Segment} (h : IsCut isWanted text parts)
    : bodies isWanted text = parts.filterMap Segment.body? := by
  rw [bodies, segments_eq_iff.2 h]

theorem filterMap_body?_ofProse (prose : Text)
    : (Segment.ofProse prose).filterMap Segment.body? = [] := by
  cases prose with
  | nil => rfl
  | cons c prose => rfl

/-- A body stands in the text, and is closed. -/
theorem of_mem_bodies {text body : Text} (h : body ∈ bodies isWanted text)
    : body <:+: text ∧ IsClosed body := by
  have hcut : IsCut isWanted text (segments isWanted text) := isCut_segments text
  obtain ⟨part, hm, hpart⟩ := List.mem_filterMap.1 h
  cases part with
  | prose => cases hpart
  | block opening inside =>
      obtain rfl := Option.some.inj hpart
      obtain ⟨front, back, hparts⟩ := List.append_of_mem hm
      refine ⟨?_, (hcut.of_mem hm).2⟩
      rw [← hcut.flatMap_text, hparts, List.flatMap_append, List.flatMap_cons, Segment.text]
      exact ⟨front.flatMap Segment.text ++ opening, fence ++ back.flatMap Segment.text, by simp⟩

/-- A block ends with a fence. -/
theorem StartsBlock.fence_infix {text : Text} (h : StartsBlock isWanted text)
    : fence <:+: text := by
  obtain ⟨opening, body, behind, rfl, -⟩ := h
  exact ⟨opening ++ body, behind, rfl⟩

theorem bodies_of_not_fence {text : Text} (h : ¬fence <:+: text) : bodies isWanted text = [] := by
  have hcut : IsCut isWanted text (Segment.ofProse text) :=
    .last fun back hb hstarts => h (hstarts.fence_infix.trans hb.isInfix)
  rw [bodies_of_isCut hcut, filterMap_body?_ofProse]

/-- The leftmost block of the text has this body. -/
def HasFirstBlock (isWanted : Text → Bool) (text body : Text) : Prop :=
  ∃ prose opening behind,
    text = prose ++ (opening ++ body ++ fence ++ behind)
    ∧ IsBlock isWanted opening body behind
    ∧ ∀ back,
        back <:+ prose
        → back ≠ []
        → ¬StartsBlock isWanted (back ++ (opening ++ body ++ fence ++ behind))

theorem head?_bodies_iff {text body : Text}
    : (bodies isWanted text).head? = some body ↔ HasFirstBlock isWanted text body := by
  constructor
  · intro h
    have hcut : IsCut isWanted text (segments isWanted text) := isCut_segments text
    rw [bodies] at h
    generalize segments isWanted text = parts at h hcut
    cases hcut with
    | last => simp [filterMap_body?_ofProse] at h
    | @block prose opening inside behind parts first block more =>
        rw [List.filterMap_append, filterMap_body?_ofProse, List.nil_append] at h
        obtain rfl := Option.some.inj h
        exact ⟨prose, opening, behind, rfl, block, first⟩
  · rintro ⟨prose, opening, behind, rfl, block, first⟩
    have hcut := IsCut.block first block (isCut_segments behind)
    rw [bodies_of_isCut hcut, List.filterMap_append, filterMap_body?_ofProse]
    rfl

-----------------------------------------------------------------------------------------
-- Blanks around a text
-----------------------------------------------------------------------------------------

theorem isBlank_backtick : isBlank '\x60' = false := by
  decide

/-- Blanks behind a text do not belong to a block in it, which ends with a fence. -/
theorem startsBlock_append_blank_iff {text gap : Text} (hg : AllBlank gap)
    : StartsBlock isWanted (text ++ gap) ↔ StartsBlock isWanted text := by
  constructor
  · rintro ⟨opening, body, behind, htext, hblock⟩
    have hopening := isBlock_iff.1 hblock
    rcases List.append_eq_append_iff.1 htext with ⟨front, hfront, hgap⟩ | ⟨rest, rfl, -⟩
    · cases hlast : front.getLast? with
      | none =>
          obtain rfl := List.getLast?_eq_none_iff.1 hlast
          rw [List.append_nil] at hfront
          exact ⟨opening, body, [], by rw [List.append_nil, hfront], isBlock_iff.2 hopening⟩
      | some last =>
          -- The last backtick of the block would be one of the blanks.
          have hend : (text ++ front).getLast? = some '\x60' := by
            rw [← hfront, List.getLast?_append]
            rfl
          rw [List.getLast?_append, hlast, Option.some_or] at hend
          obtain rfl := Option.some.inj hend
          have hmem : '\x60' ∈ gap := by
            rw [hgap]
            exact List.mem_append_left _ (List.mem_of_getLast? hlast)
          exact absurd hmem (hg.not_mem isBlank_backtick)
    · exact ⟨opening, body, rest, rfl, isBlock_iff.2 hopening⟩
  · rintro ⟨opening, body, behind, rfl, hblock⟩
    exact ⟨opening, body, behind ++ gap, by simp, isBlock_iff.2 (isBlock_iff.1 hblock)⟩

theorem not_startsBlock_blank {gap : Text} (hg : AllBlank gap) : ¬StartsBlock isWanted gap := by
  have hnil : StartsBlock isWanted ([] ++ gap) ↔ StartsBlock isWanted [] :=
    startsBlock_append_blank_iff hg
  rw [List.nil_append] at hnil
  exact hnil.not.2 not_startsBlock_nil

/-- Blanks behind a text go to its last prose, by induction on its cut. -/
theorem IsCut.exists_append_blank {text gap : Text} {parts : List Segment}
    (h : IsCut isWanted text parts) (hg : AllBlank gap)
    : ∃ others,
        IsCut isWanted (text ++ gap) others
        ∧ others.filterMap Segment.body? = parts.filterMap Segment.body? := by
  induction h with
  | @last prose first =>
      refine ⟨Segment.ofProse (prose ++ gap), .last fun back hb => ?_, ?_⟩
      · obtain ⟨front, hfront⟩ := hb
        rcases List.append_eq_append_iff.1 hfront with ⟨rest, rfl, rfl⟩ | ⟨rest, rfl, rfl⟩
        · rw [startsBlock_append_blank_iff hg]
          exact first rest (List.suffix_append front rest)
        · exact not_startsBlock_blank fun c hc => hg c (List.mem_append_right rest hc)
      · rw [filterMap_body?_ofProse, filterMap_body?_ofProse]
  | @block prose opening body behind parts first block more ih =>
      obtain ⟨others, hcut, hbodies⟩ := ih
      have hassoc : ∀ front : Text,
          front ++ (opening ++ body ++ fence ++ (behind ++ gap))
            = front ++ (opening ++ body ++ fence ++ behind) ++ gap := by simp
      refine ⟨Segment.ofProse prose ++ .block opening body :: others, ?_, ?_⟩
      · rw [← hassoc]
        refine .block (fun back hb hne => ?_) (isBlock_iff.2 (isBlock_iff.1 block)) hcut
        rw [hassoc, startsBlock_append_blank_iff hg]
        exact first back hb hne
      · simp only [List.filterMap_append, List.filterMap_cons, Segment.body?, hbodies]

theorem bodies_append_blank {gap : Text} (hg : AllBlank gap) (text : Text)
    : bodies isWanted (text ++ gap) = bodies isWanted text := by
  have hsegments : IsCut isWanted text (segments isWanted text) := isCut_segments text
  obtain ⟨others, hcut, hbodies⟩ := hsegments.exists_append_blank hg
  rw [bodies_of_isCut hcut, hbodies, bodies]

/-- No block starts at a blank, by induction on the blanks. -/
theorem bodies_blank_append {gap : Text} (hg : AllBlank gap) (text : Text)
    : bodies isWanted (gap ++ text) = bodies isWanted text := by
  induction gap with
  | nil => rfl
  | cons c gap ih =>
      rw [AllBlank, List.forall_mem_cons] at hg
      have hstarts : ¬StartsBlock isWanted (c :: (gap ++ text)) := by
        rintro ⟨opening, body, behind, htext, hblock⟩
        obtain ⟨info, -, -, rfl⟩ := hblock.opening
        obtain rfl : c = '\x60' := (List.cons.inj htext).1
        exact absurd hg.1 (by simp [isBlank_backtick])
      rw [← ih hg.2, List.cons_append, bodies, segments_cons_of_not_startsBlock hstarts, bodies]
      cases segments isWanted (gap ++ text) with
      | nil => rfl
      | cons first others =>
          cases first with
          | prose prose => rfl
          | block opening body => rfl

theorem bodies_trim (text : Text) : bodies isWanted (trim text) = bodies isWanted text := by
  obtain ⟨back, hback, htext⟩ := exists_eq_trim_append text
  conv => rhs; rw [htext]
  rw [bodies_append_blank hback, bodies_blank_append (allBlank_indent text)]

-----------------------------------------------------------------------------------------
-- Sources of a diagram
-----------------------------------------------------------------------------------------

/-- The header of the text is a declaration. -/
def Declares (text : Text) : Prop :=
  ∃ header declaration,
    header? (lines text) = some header ∧ Declaration.ofLine? header = some declaration

theorem looksLikeDiagram_iff {text : Text} : looksLikeDiagram text = true ↔ Declares text := by
  rw [looksLikeDiagram, declaredType?, Option.isSome_map, Option.isSome_iff_exists]
  simp only [Option.bind_eq_some_iff]
  exact exists_comm

/-- No diagram block stands in front that has something in it. -/
def LacksFirstBody (reply : Text) : Prop :=
  ∀ body, HasFirstBlock isMermaidInfo reply body → AllBlank body

/-- Where a diagram that is found in a reply comes from. -/
inductive Extracts (reply : Text) : Text → Prop
  | fenced {body : Text}
      (first : HasFirstBlock isMermaidInfo reply body)
      (full : ¬AllBlank body)
    : Extracts reply (trim body)
  | declared {body : Text}
      (lacks : LacksFirstBody reply)
      (mem : body ∈ bodies isPlainInfo reply)
      (declares : Declares (trim body))
    : Extracts reply (trim body)
  | whole (lacks : LacksFirstBody reply) (declares : Declares (trim reply))
    : Extracts reply (trim reply)

theorem extractDiagram?_eq (reply : Text)
    : extractDiagram? reply
      = match ((bodies isMermaidInfo reply).map trim).head?.filter fun body => !body.isEmpty with
        | some body => some body
        | none =>
            ((bodies isPlainInfo reply).map trim ++ [trim reply]).find? looksLikeDiagram :=
  rfl

/-- By cases on what is looked for in turn. -/
theorem extracts_of_extractDiagram? {reply found : Text} (h : extractDiagram? reply = some found)
    : Extracts reply found := by
  rw [extractDiagram?_eq, List.head?_map] at h
  split at h
  · rename_i body hbody
    obtain rfl := Option.some.inj h
    obtain ⟨hmap, hfull⟩ := Option.filter_eq_some_iff.1 hbody
    obtain ⟨inside, hhead, rfl⟩ := Option.map_eq_some_iff.1 hmap
    refine .fenced (head?_bodies_iff.1 hhead) fun hblank => ?_
    simp [trim_eq_nil_iff.2 hblank] at hfull
  · rename_i hnone
    have hlacks : LacksFirstBody reply := by
      intro body hfirst
      rw [head?_bodies_iff.2 hfirst, Option.map_some] at hnone
      simpa [trim_eq_nil_iff] using hnone
    have hdeclares := looksLikeDiagram_iff.1 (List.find?_some h)
    rcases List.mem_append.1 (List.mem_of_find?_eq_some h) with hm | hm
    · obtain ⟨body, hbody, rfl⟩ := List.mem_map.1 hm
      exact .declared hlacks hbody hdeclares
    · obtain rfl := List.mem_singleton.1 hm
      exact .whole hlacks hdeclares

theorem extractDiagram?_trim (reply : Text)
    : extractDiagram? (trim reply) = extractDiagram? reply := by
  rw [extractDiagram?_eq, extractDiagram?_eq, bodies_trim, bodies_trim, trim_trim]

/-- In a text without a fence nothing but the whole can be found. -/
theorem extractDiagram?_of_not_fence {text : Text} (h : ¬fence <:+: text)
    : extractDiagram? text = if looksLikeDiagram (trim text) then some (trim text) else none := by
  rw [extractDiagram?_eq, bodies_of_not_fence h, bodies_of_not_fence h, List.map_nil,
    List.head?_nil, Option.filter_none, List.nil_append, List.find?_singleton]

-----------------------------------------------------------------------------------------
-- What is found
-----------------------------------------------------------------------------------------

/-- What is promised of a diagram that is found in a reply. -/
structure IsExtracted (reply found : Text) : Prop where
  ne_nil : found ≠ []
  isInfix : found <:+: reply
  head : ∀ c, found.head? = some c → isBlank c = false
  last : ∀ c, found.getLast? = some c → isBlank c = false
  notEmpty
    : ∀ expected,
        (validate expected found).rejection?.map Rejection.kind ≠ some .emptyInput
  /-- It is found again in itself exactly when its header is a declaration. -/
  stable : extractDiagram? found = some found ↔ Declares found
  declares : LacksFirstBody reply → Declares found

theorem Declares.ne_nil {text : Text} (h : Declares text) : text ≠ [] := by
  rintro rfl
  exact absurd (looksLikeDiagram_iff.2 h) (by decide +kernel)

theorem Extracts.ne_nil {reply found : Text} (h : Extracts reply found) : found ≠ [] := by
  cases h with
  | fenced first full => exact trim_eq_nil_iff.not.2 full
  | declared lacks mem declares => exact declares.ne_nil
  | whole lacks declares => exact declares.ne_nil

theorem Extracts.exists_trim {reply found : Text} (h : Extracts reply found)
    : ∃ text, found = trim text ∧ text <:+: reply := by
  cases h with
  | fenced first full =>
      exact ⟨_, rfl, (of_mem_bodies (List.mem_of_mem_head? (head?_bodies_iff.2 first))).1⟩
  | declared lacks mem declares => exact ⟨_, rfl, (of_mem_bodies mem).1⟩
  | whole lacks declares => exact ⟨_, rfl, List.infix_refl reply⟩

/-- The body of a block has no fence in it. -/
theorem extractDiagram?_trim_body {text body : Text} (h : body ∈ bodies isWanted text)
    : extractDiagram? (trim body) = some (trim body) ↔ Declares (trim body) := by
  have hfence : ¬fence <:+: trim body := fun hi =>
    (of_mem_bodies h).2.1 (hi.trans (trim_isInfix body))
  rw [extractDiagram?_of_not_fence hfence, trim_trim, ← looksLikeDiagram_iff]
  split
  · simp [*]
  · simp [*]

theorem not_emptyInput {text : Text} (h : trim text ≠ []) (expected : Option Text)
    : (validate expected text).rejection?.map Rejection.kind ≠ some .emptyInput := by
  intro hkind
  cases (rejection?_kind_iff.1 hkind).fails with
  | emptyInput blank => exact h (trim_eq_nil_iff.2 (isAllBlank_iff.1 blank))

/-- A diagram that is found in a reply is a part of it without blanks at its ends. If it declares a
type, which it does unless it comes from a diagram block, then it is found again in itself. -/
theorem isExtracted_of_eq_some {reply found : Text} (h : extractDiagram? reply = some found)
    : IsExtracted reply found := by
  have hextracts := extracts_of_extractDiagram? h
  obtain ⟨text, htrim, hinfix⟩ := hextracts.exists_trim
  exact {
    ne_nil := hextracts.ne_nil
    isInfix := htrim ▸ (trim_isInfix text).trans hinfix
    head := fun c hc => isBlank_head?_trim (htrim ▸ hc)
    last := fun c hc => isBlank_getLast?_trim (htrim ▸ hc)
    notEmpty := fun expected => by
      apply not_emptyInput
      rw [htrim, trim_trim, ← htrim]
      exact hextracts.ne_nil
    stable := by
      cases hextracts with
      | fenced first full =>
          exact extractDiagram?_trim_body (List.mem_of_mem_head? (head?_bodies_iff.2 first))
      | declared lacks mem declares => exact extractDiagram?_trim_body mem
      | whole lacks declares => exact iff_of_true (by rw [extractDiagram?_trim, h]) declares
    declares := by
      intro hlacks
      cases hextracts with
      | fenced first full => exact absurd (hlacks _ first) full
      | declared lacks mem declares => exact declares
      | whole lacks declares => exact declares
  }

/-- The first diagram block of this reply is blank, and so the diagram is the whole reply. -/
theorem isExtracted_of_blank_block
    : let reply := "\n graph TD\nA-->B\n\x60\x60\x60mermaid\n \n\x60\x60\x60 \n".toList
      let found := "graph TD\nA-->B\n\x60\x60\x60mermaid\n \n\x60\x60\x60".toList
      extractDiagram? reply = some found ∧ IsExtracted reply found := by
  have hfound
      : extractDiagram? "\n graph TD\nA-->B\n\x60\x60\x60mermaid\n \n\x60\x60\x60 \n".toList
        = some "graph TD\nA-->B\n\x60\x60\x60mermaid\n \n\x60\x60\x60".toList := by
    decide +kernel
  exact ⟨hfound, isExtracted_of_eq_some hfound⟩

end DiagramRepair.Markdown

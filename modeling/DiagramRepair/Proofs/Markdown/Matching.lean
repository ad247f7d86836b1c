import DiagramRepair.Markdown.Fence
import DiagramRepair.Proofs.Text.Cut
import Mathlib.Data.List.Forall2

/-! The blocks that a scan of a markdown text finds, told apart from how it finds them: the leftmost
ones that do not overlap, each with the shortest body. Whether a block starts at a place depends on
its opening line alone once there are three backticks behind, so bodies can be exchanged.
-/

namespace DiagramRepair.Markdown

open Text

-----------------------------------------------------------------------------------------
-- The first fence
-----------------------------------------------------------------------------------------

/-- A body that three backticks behind it close: it holds none itself and ends in no backtick that
could be taken for one of them. -/
def IsClosed (body : Text) : Prop :=
  ¬fence <:+: body ∧ body.getLast? ≠ some '\x60'

theorem cutAtFence?_of_fence {text : Text} (h : fence <+: text)
    : ∃ behind, cutAtFence? text = some ([], behind) := by
  obtain ⟨behind, rfl⟩ := h
  exact ⟨behind, rfl⟩

theorem cutAtFence?_cons {c : Char} {rest : Text} (h : ¬fence <+: c :: rest)
    : cutAtFence? (c :: rest) = (cutAtFence? rest).map fun sides => (c :: sides.1, sides.2) := by
  have hnone : afterLead? fence (c :: rest) = none := by
    rwa [← afterLead?_isSome_iff, Bool.not_eq_true, Option.isSome_eq_false_iff,
      Option.isNone_iff_eq_none] at h
  rw [cutAtFence?, hnone]

theorem cutAtFence?_eq_none_iff {text : Text}
    : cutAtFence? text = none ↔ ¬fence <:+: text := by
  induction text with
  | nil => simp [cutAtFence?, fence]
  | cons c rest ih =>
      rw [List.infix_cons_iff]
      by_cases h : fence <+: c :: rest
      · obtain ⟨behind, hcut⟩ := cutAtFence?_of_fence h
        simp [hcut, h]
      · rw [cutAtFence?_cons h, Option.map_eq_none_iff, ih]
        simp [h]

/-- Where a fence stands in front of a body and the fence behind it, the body is not closed. -/
theorem not_isClosed_of_fence {c : Char} {rest behind : Text}
    (h : fence <+: c :: rest ++ fence ++ behind)
    : ¬IsClosed (c :: rest) := by
  rintro ⟨hfence, hlast⟩
  match rest with
  | [] =>
      obtain rfl : '\x60' = c := by simpa [fence] using h
      exact hlast rfl
  | [d] =>
      obtain ⟨-, rfl⟩ : '\x60' = c ∧ '\x60' = d := by simpa [fence] using h
      exact hlast rfl
  | d :: e :: rest =>
      have hprefix : fence <+: c :: d :: e :: rest := by simpa [fence] using h
      exact hfence hprefix.isInfix

theorem isClosed_cons_iff {c : Char} {rest behind : Text}
    (h : ¬fence <+: c :: rest ++ fence ++ behind)
    : IsClosed (c :: rest) ↔ IsClosed rest := by
  have hprefix : ¬fence <+: c :: rest := fun hp => by
    apply h
    rw [List.append_assoc]
    exact hp.trans (List.prefix_append _ _)
  rw [IsClosed, IsClosed, List.infix_cons_iff, or_iff_right hprefix]
  cases rest with
  | nil =>
      have hc : c ≠ '\x60' := by
        rintro rfl
        exact h ⟨'\x60' :: behind, rfl⟩
      simp [hc]
  | cons d rest => rw [List.getLast?_cons_cons]

/-- The first fence is the one behind the body exactly when the body is closed, by induction on the
body. -/
theorem cutAtFence?_append_iff {body behind : Text}
    : cutAtFence? (body ++ fence ++ behind) = some (body, behind) ↔ IsClosed body := by
  induction body with
  | nil => exact iff_of_true rfl ⟨by decide, by simp⟩
  | cons c rest ih =>
      by_cases h : fence <+: c :: rest ++ fence ++ behind
      · obtain ⟨other, hcut⟩ := cutAtFence?_of_fence h
        rw [hcut]
        exact iff_of_false (by simp) (not_isClosed_of_fence h)
      · rw [isClosed_cons_iff h, ← ih, List.cons_append, List.cons_append,
          cutAtFence?_cons (by simpa using h), Option.map_eq_some_iff]
        constructor
        · rintro ⟨⟨front, back⟩, hcut, heq⟩
          obtain ⟨hfront, rfl⟩ := Prod.mk.inj heq
          obtain rfl : front = rest := (List.cons.inj hfront).2
          exact hcut
        · exact fun hcut => ⟨_, hcut, rfl⟩

theorem cutAtFence?_eq_some_iff {text body behind : Text}
    : cutAtFence? text = some (body, behind)
      ↔ text = body ++ fence ++ behind ∧ IsClosed body := by
  constructor
  · intro h
    obtain rfl := cutAtFence?_eq_some h
    exact ⟨rfl, cutAtFence?_append_iff.1 h⟩
  · rintro ⟨rfl, h⟩
    exact cutAtFence?_append_iff.2 h

/-- No fence stands in front of the first one, by induction on the text. -/
theorem length_le_of_cutAtFence? {text body behind : Text}
    (h : cutAtFence? text = some (body, behind)) {other rest : Text}
    (ho : text = other ++ fence ++ rest)
    : body.length ≤ other.length := by
  induction text generalizing body other with
  | nil => simp [fence] at ho
  | cons c text ih =>
      by_cases hp : fence <+: c :: text
      · obtain ⟨found, hcut⟩ := cutAtFence?_of_fence hp
        obtain ⟨rfl, -⟩ := Prod.mk.inj (Option.some.inj (hcut.symm.trans h))
        exact Nat.zero_le _
      · rw [cutAtFence?_cons hp] at h
        obtain ⟨⟨front, back⟩, hcut, heq⟩ := Option.map_eq_some_iff.1 h
        obtain ⟨rfl, rfl⟩ := Prod.mk.inj heq
        cases other with
        | nil => exact absurd ⟨rest, ho.symm⟩ hp
        | cons d other =>
            exact Nat.succ_le_succ (ih hcut (List.cons.inj ho).2)

/-- A body is closed exactly when none shorter could stand in its place. -/
theorem isClosed_iff_shortest {body behind : Text}
    : IsClosed body
      ↔ ∀ other rest,
          body ++ fence ++ behind = other ++ fence ++ rest → body.length ≤ other.length := by
  constructor
  · exact fun h other rest ho => length_le_of_cutAtFence? (cutAtFence?_append_iff.2 h) ho
  · intro h
    cases hcut : cutAtFence? (body ++ fence ++ behind) with
    | none => exact absurd ⟨body, behind, rfl⟩ (cutAtFence?_eq_none_iff.1 hcut)
    | some sides =>
        obtain ⟨htext, hclosed⟩ := cutAtFence?_eq_some_iff.1 hcut
        have hle := length_le_of_cutAtFence? hcut rfl
        have hge := h _ _ htext
        rw [List.append_assoc, List.append_assoc] at htext
        obtain ⟨rfl, -⟩ := List.append_inj htext (Nat.le_antisymm hge hle)
        exact hclosed

-----------------------------------------------------------------------------------------
-- Blocks
-----------------------------------------------------------------------------------------

/-- A fence and an info text of the wanted kind, up to the end of the line. -/
def IsOpening (isWanted : Text → Bool) (opening : Text) : Prop :=
  ∃ info, '\n' ∉ info ∧ isWanted info = true ∧ opening = fence ++ info ++ ['\n']

/-- An opening line, and the shortest body that has a fence behind it. -/
structure IsBlock (isWanted : Text → Bool) (opening body behind : Text) : Prop where
  opening : IsOpening isWanted opening
  shortest
    : ∀ other rest,
        body ++ fence ++ behind = other ++ fence ++ rest → body.length ≤ other.length

/-- A block stands at the start of the text. -/
def StartsBlock (isWanted : Text → Bool) (text : Text) : Prop :=
  ∃ opening body behind,
    text = opening ++ body ++ fence ++ behind ∧ IsBlock isWanted opening body behind

variable {isWanted : Text → Bool}

theorem isBlock_iff {opening body behind : Text}
    : IsBlock isWanted opening body behind ↔ IsOpening isWanted opening ∧ IsClosed body :=
  ⟨fun h => ⟨h.opening, isClosed_iff_shortest.2 h.shortest⟩,
    fun h => ⟨h.1, isClosed_iff_shortest.1 h.2⟩⟩

theorem opening?_eq_some_iff {text opening inside : Text}
    : opening? isWanted text = some (opening, inside)
      ↔ text = opening ++ inside ∧ IsOpening isWanted opening := by
  constructor
  · intro h
    refine ⟨(opening?_eq_some h).1, ?_⟩
    obtain ⟨rest, -, hbind⟩ := Option.bind_eq_some_iff.1 h
    obtain ⟨⟨info, back⟩, hcut, hif⟩ := Option.bind_eq_some_iff.1 hbind
    split at hif
    · rename_i hwanted
      obtain ⟨rfl, -⟩ := Prod.mk.inj (Option.some.inj hif)
      exact ⟨info, (cutAt?_eq_some hcut).2, hwanted, rfl⟩
    · contradiction
  · rintro ⟨rfl, info, hline, hwanted, rfl⟩
    have hafter : afterLead? fence (fence ++ info ++ ['\n'] ++ inside)
        = some (info ++ '\n' :: inside) :=
      afterLead?_eq_some_iff.2 (by simp)
    rw [opening?, hafter, Option.bind_some, cutAt?_append hline, Option.bind_some, if_pos hwanted]

theorem block?_eq_some_iff {text opening body behind : Text}
    : block? isWanted text = some (opening, body, behind)
      ↔ text = opening ++ body ++ fence ++ behind ∧ IsBlock isWanted opening body behind := by
  rw [isBlock_iff, block?, Option.bind_eq_some_iff]
  constructor
  · rintro ⟨⟨first, inside⟩, hopening, hmap⟩
    obtain ⟨⟨middle, back⟩, hcut, heq⟩ := Option.map_eq_some_iff.1 hmap
    obtain ⟨rfl, rfl, rfl⟩ : first = opening ∧ middle = body ∧ back = behind := by
      simpa using heq
    obtain ⟨rfl, hfirst⟩ := opening?_eq_some_iff.1 hopening
    obtain ⟨rfl, hclosed⟩ := cutAtFence?_eq_some_iff.1 hcut
    exact ⟨by simp, hfirst, hclosed⟩
  · rintro ⟨rfl, hfirst, hclosed⟩
    refine ⟨(opening, body ++ fence ++ behind), opening?_eq_some_iff.2 ⟨by simp, hfirst⟩, ?_⟩
    exact Option.map_eq_some_iff.2 ⟨_, cutAtFence?_append_iff.2 hclosed, rfl⟩

theorem block?_eq_none_iff {text : Text}
    : block? isWanted text = none ↔ ¬StartsBlock isWanted text := by
  rw [Option.eq_none_iff_forall_ne_some]
  constructor
  · rintro h ⟨opening, body, behind, hblock⟩
    exact h _ (block?_eq_some_iff.2 hblock)
  · rintro h ⟨opening, body, behind⟩ hblock
    exact h ⟨opening, body, behind, block?_eq_some_iff.1 hblock⟩

theorem not_startsBlock_nil : ¬StartsBlock isWanted [] := by
  rintro ⟨opening, body, behind, htext, -⟩
  simp [fence] at htext

/-- An opening line at the start of a text is read before what is behind a line feed. -/
theorem IsOpening.prefix_of_append {opening front back more : Text} (h : IsOpening isWanted opening)
    (hf : '\n' ∈ front) (ht : front ++ back = opening ++ more)
    : opening <+: front := by
  obtain ⟨info, hline, -, rfl⟩ := h
  have hfront : front <+: fence ++ info ++ ['\n'] ++ more := ⟨back, ht⟩
  rcases List.prefix_or_prefix_of_prefix hfront (List.prefix_append _ more) with hp | hp
  · rcases List.prefix_concat_iff.1 hp with rfl | hp
    · exact List.prefix_refl _
    · have hfence : '\n' ∉ fence := by decide
      rcases List.mem_append.1 (hp.subset hf) with hm | hm
      · exact absurd hm hfence
      · exact absurd hm hline
  · exact hp

/-- Where a line ends and a fence follows, what is behind the line does not matter for whether a
block starts in front of it. -/
theorem startsBlock_append_iff {front more : Text} (hf : '\n' ∈ front) (hm : fence <:+: more)
    : StartsBlock isWanted (front ++ more)
      ↔ ∃ opening, IsOpening isWanted opening ∧ opening <+: front := by
  constructor
  · rintro ⟨opening, body, behind, htext, hblock⟩
    rw [List.append_assoc, List.append_assoc] at htext
    exact ⟨opening, hblock.opening, hblock.opening.prefix_of_append hf htext⟩
  · rintro ⟨opening, hopening, inside, rfl⟩
    cases hcut : cutAtFence? (inside ++ more) with
    | none =>
        exact absurd (hm.trans (List.suffix_append inside more).isInfix)
          (cutAtFence?_eq_none_iff.1 hcut)
    | some sides =>
        obtain ⟨htext, hclosed⟩ := cutAtFence?_eq_some_iff.1 hcut
        refine ⟨opening, sides.1, sides.2, ?_, isBlock_iff.2 ⟨hopening, hclosed⟩⟩
        rw [List.append_assoc, htext]
        simp only [List.append_assoc]

-----------------------------------------------------------------------------------------
-- Segments
-----------------------------------------------------------------------------------------

/-- Prose as a part of a document, which it is not when there is none. -/
def Segment.ofProse (text : Text) : List Segment :=
  if text = [] then [] else [.prose text]

/-- The leftmost blocks of a text that do not overlap, and the prose around them: no block starts in
the prose in front of a block, and none in that behind the last one. -/
inductive IsCut (isWanted : Text → Bool) : Text → List Segment → Prop
  | last {prose : Text}
      (first : ∀ back, back <:+ prose → ¬StartsBlock isWanted back)
    : IsCut isWanted prose (Segment.ofProse prose)
  | block {prose opening body behind : Text} {parts : List Segment}
      (first
        : ∀ back,
            back <:+ prose
            → back ≠ []
            → ¬StartsBlock isWanted (back ++ (opening ++ body ++ fence ++ behind)))
      (block : IsBlock isWanted opening body behind)
      (more : IsCut isWanted behind parts)
    : IsCut isWanted (prose ++ (opening ++ body ++ fence ++ behind))
        (Segment.ofProse prose ++ .block opening body :: parts)

theorem segments_nil : segments isWanted [] = [] := by
  rw [segments.eq_def]

theorem segments_of_isBlock {opening body behind : Text}
    (h : IsBlock isWanted opening body behind)
    : segments isWanted (opening ++ body ++ fence ++ behind)
      = .block opening body :: segments isWanted behind := by
  have hblock := block?_eq_some_iff.2 ⟨rfl, h⟩
  cases htext : opening ++ body ++ fence ++ behind with
  | nil => simp [fence] at htext
  | cons c rest =>
      rw [htext] at hblock
      rw [segments.eq_def]
      dsimp only
      split
      · rename_i hfound
        rw [hblock] at hfound
        obtain ⟨rfl, rfl, rfl⟩ := by simpa using hfound
        rfl
      · rename_i hfound
        rw [hblock] at hfound
        contradiction

theorem segments_cons_of_not_startsBlock {c : Char} {rest : Text}
    (h : ¬StartsBlock isWanted (c :: rest))
    : segments isWanted (c :: rest) = Segment.consProse c (segments isWanted rest) := by
  have hblock := block?_eq_none_iff.2 h
  rw [segments.eq_def]
  dsimp only
  split
  · rename_i hfound
    rw [hblock] at hfound
    contradiction
  · rfl

/-- Parts that start with no prose. -/
def StartsWithBlock (parts : List Segment) : Prop :=
  ∀ text, parts.head? ≠ some (.prose text)

theorem consProse_append {parts : List Segment} (h : StartsWithBlock parts) (c : Char)
    (prose : Text)
    : Segment.consProse c (Segment.ofProse prose ++ parts)
      = Segment.ofProse (c :: prose) ++ parts := by
  cases prose with
  | nil =>
      match parts with
      | [] => rfl
      | .prose text :: _ => exact absurd rfl (h text)
      | .block _ _ :: _ => rfl
  | cons d prose => rfl

/-- Prose in which no block starts is scanned up to its end, by induction on it. -/
theorem segments_prose_append {prose more : Text}
    (h : ∀ back, back <:+ prose → back ≠ [] → ¬StartsBlock isWanted (back ++ more))
    (hm : StartsWithBlock (segments isWanted more))
    : segments isWanted (prose ++ more) = Segment.ofProse prose ++ segments isWanted more := by
  induction prose with
  | nil => rfl
  | cons c prose ih =>
      have hrest := ih fun back hb => h back (hb.trans (List.suffix_cons c prose))
      have hc : ¬StartsBlock isWanted (c :: (prose ++ more)) :=
        h (c :: prose) (List.suffix_refl _) (List.cons_ne_nil c prose)
      rw [List.cons_append, segments_cons_of_not_startsBlock hc, hrest, consProse_append hm]

/-- A character at which no block starts goes in front of a cut. -/
theorem IsCut.cons {c : Char} {rest : Text} {parts : List Segment}
    (hc : ¬StartsBlock isWanted (c :: rest)) (h : IsCut isWanted rest parts)
    : IsCut isWanted (c :: rest) (Segment.consProse c parts) := by
  cases h with
  | last first =>
      have hprose : Segment.consProse c (Segment.ofProse rest ++ [])
          = Segment.ofProse (c :: rest) ++ [] :=
        consProse_append (by simp [StartsWithBlock]) c rest
      rw [List.append_nil, List.append_nil] at hprose
      rw [hprose]
      refine .last fun back hb => ?_
      rcases List.suffix_cons_iff.1 hb with rfl | hb
      · exact hc
      · exact first back hb
  | @block prose opening body behind parts first block more =>
      have hmore
          : IsCut isWanted (c :: prose ++ (opening ++ body ++ fence ++ behind))
              (Segment.ofProse (c :: prose) ++ .block opening body :: parts) := by
        refine .block (fun back hb hne => ?_) block more
        rcases List.suffix_cons_iff.1 hb with rfl | hb
        · exact hc
        · exact first back hb hne
      rwa [consProse_append (by simp [StartsWithBlock])]

/-- What a scan finds is a cut, by induction on the scan. -/
theorem isCut_segments (text : Text) : IsCut isWanted text (segments isWanted text) := by
  fun_induction segments isWanted text with
  | case1 =>
      have hnil : IsCut isWanted [] (Segment.ofProse []) := by
        refine .last fun back hb => ?_
        rw [List.suffix_nil.1 hb]
        exact not_startsBlock_nil
      exact hnil
  | case2 c rest opening body behind hblock ih =>
      obtain ⟨htext, hisBlock⟩ := block?_eq_some_iff.1 hblock
      have hcut
          : IsCut isWanted ([] ++ (opening ++ body ++ fence ++ behind))
              (Segment.ofProse [] ++ .block opening body :: segments isWanted behind) :=
        .block (fun back hb hne => absurd (List.suffix_nil.1 hb) hne) hisBlock ih
      rw [htext]
      exact hcut
  | case3 c rest hblock ih => exact ih.cons (block?_eq_none_iff.1 hblock)

/-- There is no other cut, by induction on the cut. -/
theorem segments_eq_iff {text : Text} {parts : List Segment}
    : segments isWanted text = parts ↔ IsCut isWanted text parts := by
  constructor
  · rintro rfl
    exact isCut_segments text
  · intro h
    induction h with
    | @last prose first =>
        have hprose : segments isWanted (prose ++ [])
            = Segment.ofProse prose ++ segments isWanted [] := by
          refine segments_prose_append (fun back hb _ => ?_)
            (by simp [StartsWithBlock, segments_nil])
          rw [List.append_nil]
          exact first back hb
        simpa [segments_nil] using hprose
    | @block prose opening body behind parts first block more ih =>
        have hblock := segments_of_isBlock block
        have hfirst : StartsWithBlock
            (segments isWanted (opening ++ body ++ fence ++ behind)) := by
          rw [hblock]
          simp [StartsWithBlock]
        rw [segments_prose_append first hfirst, hblock, ih]

-----------------------------------------------------------------------------------------
-- The parts of a cut
-----------------------------------------------------------------------------------------

theorem flatMap_text_ofProse (prose : Text)
    : (Segment.ofProse prose).flatMap Segment.text = prose := by
  cases prose with
  | nil => rfl
  | cons c prose => exact List.flatMap_singleton _ _

/-- A cut loses nothing of the text. -/
theorem IsCut.flatMap_text {text : Text} {parts : List Segment} (h : IsCut isWanted text parts)
    : parts.flatMap Segment.text = text := by
  induction h with
  | last first => exact flatMap_text_ofProse _
  | @block prose opening body behind parts first block more ih =>
      rw [List.flatMap_append, flatMap_text_ofProse, List.flatMap_cons, ih, Segment.text]

theorem not_block_mem_ofProse {prose opening body : Text}
    : Segment.block opening body ∉ Segment.ofProse prose := by
  cases prose with
  | nil => simp [Segment.ofProse]
  | cons c prose => simp [Segment.ofProse]

/-- The blocks of a cut have opening lines of the wanted kind, and closed bodies. -/
theorem IsCut.of_mem {text opening body : Text} {parts : List Segment}
    (h : IsCut isWanted text parts) (hm : Segment.block opening body ∈ parts)
    : IsOpening isWanted opening ∧ IsClosed body := by
  induction h with
  | last first => exact absurd hm not_block_mem_ofProse
  | block first block more ih =>
      rcases List.mem_append.1 hm with hm | hm
      · exact absurd hm not_block_mem_ofProse
      · rcases List.mem_cons.1 hm with heq | hm
        · obtain ⟨rfl, rfl⟩ := Segment.block.inj heq
          exact isBlock_iff.1 block
        · exact ih hm

-----------------------------------------------------------------------------------------
-- Other bodies in the same places
-----------------------------------------------------------------------------------------

/-- The second part is the first one, or the same block with another closed body. -/
inductive Segment.SameFrame : Segment → Segment → Prop
  | prose (text : Text) : SameFrame (.prose text) (.prose text)
  | block (opening body : Text) {other : Text} (closed : IsClosed other)
    : SameFrame (.block opening body) (.block opening other)

theorem exists_ofProse_append {prose : Text} {parts others : List Segment}
    (h : List.Forall₂ Segment.SameFrame (Segment.ofProse prose ++ parts) others)
    : ∃ rest,
        others = Segment.ofProse prose ++ rest
        ∧ List.Forall₂ Segment.SameFrame parts rest := by
  cases prose with
  | nil => exact ⟨others, rfl, h⟩
  | cons c prose =>
      cases h with
      | cons hprose hrest =>
          cases hprose with
          | prose => exact ⟨_, rfl, hrest⟩

theorem IsOpening.feed_mem {opening : Text} (h : IsOpening isWanted opening) : '\n' ∈ opening := by
  obtain ⟨info, -, -, rfl⟩ := h
  simp

/-- Text with other bodies in the same places is cut in the same places, by induction on the cut:
the prose in front of a block and the opening line tell alone that no block starts in the prose. -/
theorem IsCut.exchange {text : Text} {parts others : List Segment} (h : IsCut isWanted text parts)
    (hs : List.Forall₂ Segment.SameFrame parts others)
    : IsCut isWanted (others.flatMap Segment.text) others := by
  induction h generalizing others with
  | @last prose first =>
      rw [← List.append_nil (Segment.ofProse prose)] at hs
      obtain ⟨rest, rfl, hrest⟩ := exists_ofProse_append hs
      obtain rfl := List.forall₂_nil_left_iff.1 hrest
      rw [List.append_nil, flatMap_text_ofProse]
      exact .last first
  | @block prose opening body behind parts first block more ih =>
      obtain ⟨rest, rfl, hrest⟩ := exists_ofProse_append hs
      cases hrest with
      | cons hblock hmore =>
          cases hblock with
          | @block _ _ other closed =>
              rw [List.flatMap_append, flatMap_text_ofProse, List.flatMap_cons, Segment.text]
              refine .block (fun back hb hne hstarts => ?_)
                (isBlock_iff.2 ⟨block.opening, closed⟩) (ih hmore)
              have hfeed : '\n' ∈ back ++ opening :=
                List.mem_append_right back block.opening.feed_mem
              have hfence : ∀ body behind : Text, fence <:+: body ++ fence ++ behind :=
                fun body behind => ⟨body, behind, rfl⟩
              have hassoc : ∀ body behind : Text,
                  back ++ (opening ++ body ++ fence ++ behind)
                    = back ++ opening ++ (body ++ fence ++ behind) := by simp
              rw [hassoc, startsBlock_append_iff hfeed (hfence _ _)] at hstarts
              apply first back hb hne
              rwa [hassoc, startsBlock_append_iff hfeed (hfence _ _)]

end DiagramRepair.Markdown

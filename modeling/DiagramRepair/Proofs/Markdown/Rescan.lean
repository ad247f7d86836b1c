import DiagramRepair.Proofs.Markdown.Document
import DiagramRepair.Proofs.Repair.Parts
import DiagramRepair.Proofs.Verdict.Resolution

/-! Scanning a repaired document. No repair brings three backticks together, so the blocks are found
again with the bodies that they were given. The exception is a body whose last line is written as
attributes: blanks behind it go away, and a backtick in front of them comes to stand at the fence.
-/

namespace DiagramRepair.Markdown

open Text

theorem isOriginal_backtick : IsOriginal '\x60' :=
  ⟨by decide, by decide⟩

theorem isOriginalPart_fence : IsOriginalPart fence where
  ne_nil := List.cons_ne_nil _ _
  original := by
    intro c hc
    obtain rfl : c = '\x60' := by simpa [fence] using hc
    exact isOriginal_backtick

/-- A valid body whose last line is written as attributes of which the last ends in a backtick. -/
structure GluesFence (body : Text) : Prop where
  valid : (validate none body).isValid = true
  bares : BaresEnd '\x60' body

/-- What a closed body resolves to is closed, too, but for a backtick that comes to its end. -/
theorem isClosed_resolvedBody_iff {body : Text} (h : IsClosed body)
    : IsClosed (resolvedBody body) ↔ ¬GluesFence body := by
  cases hvalid : (validate none body).isValid with
  | false =>
      rw [resolvedBody, resolve_of_not_valid hvalid]
      exact iff_of_true h fun hglues => Bool.noConfusion (hvalid.symm.trans hglues.valid)
  | true =>
      obtain ⟨type, haccepts⟩ := isValid_validate_iff.1 hvalid
      have hfence : ¬fence <:+: sanitize body := fun hi =>
        h.1 (isOriginalPart_fence.infix_of_sanitize hi)
      have hend := getLast?_sanitize_iff haccepts.any_supported isOriginal_backtick h.2
      rw [resolvedBody, haccepts.resolve, IsClosed, and_iff_right hfence, ne_eq, hend]
      exact not_congr ⟨fun hbares => ⟨hvalid, hbares⟩, fun hglues => hglues.bares⟩

def Segment.block? : Segment → Option (Text × Text)
  | .prose _ => none
  | .block opening body => some (opening, body)

/-- The opening lines of the diagram blocks of a document, with their bodies. -/
def blocks (text : Text) : List (Text × Text) :=
  (segments isMermaidInfo text).filterMap Segment.block?

theorem mem_blocks_iff {text opening body : Text}
    : (opening, body) ∈ blocks text ↔ .block opening body ∈ segments isMermaidInfo text := by
  rw [blocks, List.mem_filterMap]
  constructor
  · rintro ⟨part, hm, hpart⟩
    cases part with
    | prose => cases hpart
    | block =>
        obtain ⟨rfl, rfl⟩ := Prod.mk.inj (Option.some.inj hpart)
        exact hm
  · exact fun hm => ⟨_, hm, rfl⟩

theorem isClosed_of_mem_blocks {text opening body : Text} (h : (opening, body) ∈ blocks text)
    : IsClosed body :=
  ((isCut_segments text).of_mem (mem_blocks_iff.1 h)).2

theorem blocks_of_isCut {text : Text} {parts : List Segment} (h : IsCut isMermaidInfo text parts)
    : blocks text = parts.filterMap Segment.block? := by
  rw [blocks, segments_eq_iff.2 h]

/-- With closed bodies, the repaired document is cut into the repaired parts. -/
theorem isCut_repairDocument {text : Text} {parts : List Segment}
    (h : IsCut isMermaidInfo text parts)
    (hc : ∀ opening body, .block opening body ∈ parts → IsClosed (resolvedBody body))
    : IsCut isMermaidInfo (repairDocument text).text (parts.map Segment.repaired) := by
  have hframe : List.Forall₂ Segment.SameFrame parts (parts.map Segment.repaired) := by
    refine List.forall₂_map_right_iff.2 (List.forall₂_same.2 fun part hm => ?_)
    cases part with
    | prose text => exact .prose text
    | block opening body => exact .block opening body (hc opening body hm)
  have hcut := h.exchange hframe
  rw [List.flatMap_map] at hcut
  rwa [repairDocument, segments_eq_iff.2 h]

/-- A repaired document has the blocks of the document, with the bodies that they resolve to,
exactly when no body brings a backtick to its fence. -/
theorem blocks_repairDocument_iff (text : Text)
    : blocks (repairDocument text).text
        = (blocks text).map (fun block => (block.1, resolvedBody block.2))
      ↔ ∀ block ∈ blocks text, ¬GluesFence block.2 := by
  have hcut : IsCut isMermaidInfo text (segments isMermaidInfo text) := isCut_segments text
  constructor
  · rintro hblocks ⟨opening, body⟩ hm
    have hagain : (opening, resolvedBody body) ∈ blocks (repairDocument text).text := by
      rw [hblocks]
      exact List.mem_map.2 ⟨(opening, body), hm, rfl⟩
    exact (isClosed_resolvedBody_iff (isClosed_of_mem_blocks hm)).1 (isClosed_of_mem_blocks hagain)
  · intro hglues
    have hclosed : ∀ opening body, .block opening body ∈ segments isMermaidInfo text
        → IsClosed (resolvedBody body) := by
      intro opening body hm
      have hblock := mem_blocks_iff.2 hm
      exact (isClosed_resolvedBody_iff (isClosed_of_mem_blocks hblock)).2 (hglues _ hblock)
    have hpart : ∀ part : Segment, part.repaired.block?
        = part.block?.map fun block => (block.1, resolvedBody block.2) := by
      intro part
      cases part with
      | prose => rfl
      | block => rfl
    rw [blocks_of_isCut (isCut_repairDocument hcut hclosed), blocks, List.filterMap_map,
      List.map_filterMap]
    exact congrArg (List.filterMap · _) (funext hpart)

/-- The blanks in front of the fence go away, and the fence takes in the backtick in front of them:
the block is found with a shorter body, which a second repair writes anew. -/
theorem blocks_repairDocument_ne
    : let text
        := "\x60\x60\x60mermaid\nerDiagram\n%% \x7d\nE \x7b\na b c PK\x60  \x60\x60\x60".toList
      blocks (repairDocument text).text
        ≠ (blocks text).map (fun block => (block.1, resolvedBody block.2))
      ∧ (repairDocument (repairDocument text).text).text ≠ (repairDocument text).text := by
  decide +kernel

end DiagramRepair.Markdown

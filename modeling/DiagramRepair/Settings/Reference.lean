import DiagramRepair.Text.Basic

/-! References to variables inside a value: a name in braces behind a dollar sign, with or
without a text that stands in for a variable that is not there.
-/

namespace DiagramRepair.Settings

structure Reference where
  name : Text
  fallback : Text

namespace Reference

/-- The reference that a text starts with, and what follows it. -/
def read? : Text → Option (Reference × Text)
  | '$' :: '{' :: rest =>
      let isName := fun c : Char => c ≠ '}' && c ≠ ':'
      match rest.dropWhile isName with
      | '}' :: behind => some (⟨rest.takeWhile isName, []⟩, behind)
      | ':' :: '-' :: back =>
          (Text.cutAt? '}' back).map fun sides => (⟨rest.takeWhile isName, sides.1⟩, sides.2)
      | _ => none
  | _ => none

theorem length_lt_of_read? {text behind : Text} {reference : Reference}
    (h : read? text = some (reference, behind))
    : behind.length < text.length := by
  unfold read? at h
  split at h
  · rename_i rest
    have hrest := Text.length_dropWhile_le (fun c => c ≠ '}' && c ≠ ':') rest
    dsimp only at h
    split at h
    · rename_i hdrop
      obtain ⟨_, rfl⟩ := Prod.mk.inj (Option.some.inj h)
      rw [hdrop] at hrest
      simp only [List.length_cons] at hrest ⊢
      omega
    · rename_i hdrop
      obtain ⟨sides, hcut, heq⟩ := Option.map_eq_some_iff.1 h
      obtain ⟨_, rfl⟩ := Prod.mk.inj heq
      have := Text.length_lt_of_cutAt? hcut
      rw [hdrop] at hrest
      simp only [List.length_cons] at hrest ⊢
      omega
    · simp at h
  · simp at h

/-- A text with its references replaced by their values. -/
def expand (valueOf : Reference → Text) : Text → Text
  | [] => []
  | c :: rest =>
      match _h : read? (c :: rest) with
      | some (reference, behind) => valueOf reference ++ expand valueOf behind
      | none => c :: expand valueOf rest
termination_by text => text.length
decreasing_by
  · exact length_lt_of_read? _h
  · simp

end Reference

end DiagramRepair.Settings

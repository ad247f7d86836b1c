import DiagramRepair.Diagram.Line
import DiagramRepair.Proofs.Attribute.Tokens
import DiagramRepair.Proofs.Text.Character

/-! Relationship lines and their pieces. A line is cut into the pieces of a relationship exactly
when it consists of them, so its label can be replaced by another one. What stands in front of
the label tells such a line from all other kinds of lines.
-/

namespace DiagramRepair

open Text

-----------------------------------------------------------------------------------------
-- Pieces
-----------------------------------------------------------------------------------------

/-- What the recogniser asks of the pieces of a relationship. -/
structure Relationship.IsFormed (r : Relationship) : Prop where
  indent : AllBlank r.indent
  left_ne_nil : r.left ≠ []
  left : ∀ c ∈ r.left, isNameChar c = true
  leftGap_ne_nil : r.leftGap ≠ []
  leftGap : AllBlank r.leftGap
  symbol : isCardinality r.symbol = true
  solid : ∀ c ∈ r.symbol, isBlank c = false
  rightGap_ne_nil : r.rightGap ≠ []
  rightGap : AllBlank r.rightGap
  right_ne_nil : r.right ≠ []
  right : ∀ c ∈ r.right, isNameChar c = true
  colonGap : AllBlank r.colonGap
  labelGap : AllBlank r.labelGap
  label_head : ∀ c, r.label.head? = some c → isBlank c = false
  label_last : ∀ c, r.label.getLast? = some c → isBlank c = false
  isLine : '\n' ∉ r.label
  trailing : AllBlank r.trailing
  trailing_eq_nil : r.label = [] → r.trailing = []

theorem head?_append_of_ne_nil {first : Text} (h : first ≠ []) (rest : Text)
    : (first ++ rest).head? = first.head? := by
  cases first with
  | nil => exact absurd rfl h
  | cons c first => rfl

theorem Relationship.toText_eq (r : Relationship)
    : r.toText
      = r.indent ++ (r.left ++ (r.leftGap ++ (r.symbol ++ (r.rightGap ++ (r.right
          ++ (r.colonGap ++ ':' :: (r.labelGap ++ (r.label ++ r.trailing)))))))) := by
  simp [toText, lead]

/-- A cut loses nothing of the line, and its pieces are formed. -/
theorem Relationship.ofLine?_spec {line : Text} {r : Relationship}
    (h : Relationship.ofLine? line = some r)
    : r.toText = line ∧ r.IsFormed := by
  unfold Relationship.ofLine? at h
  obtain ⟨indent, rest, hs, rfl, hindent, -⟩ := span_spec isBlank line
  rw [hs] at h
  clear hs
  dsimp only at h
  obtain ⟨left, rest, hs, rfl, hleft, -⟩ := span_spec isNameChar rest
  rw [hs] at h
  clear hs
  dsimp only at h
  obtain ⟨leftGap, rest, hs, rfl, hleftGap, -⟩ := span_spec isBlank rest
  rw [hs] at h
  clear hs
  dsimp only at h
  obtain ⟨symbol, rest, hs, rfl, hsymbol, -⟩ := span_spec isNotBlank rest
  rw [hs] at h
  clear hs
  dsimp only at h
  obtain ⟨rightGap, rest, hs, rfl, hrightGap, -⟩ := span_spec isBlank rest
  rw [hs] at h
  clear hs
  dsimp only at h
  obtain ⟨right, rest, hs, rfl, hright, -⟩ := span_spec isNameChar rest
  rw [hs] at h
  clear hs
  dsimp only at h
  obtain ⟨colonGap, rest, hs, rfl, hcolonGap, -⟩ := span_spec isBlank rest
  rw [hs] at h
  clear hs
  dsimp only at h
  split at h
  · rename_i rest
    obtain ⟨labelGap, rest, hs, rfl, hlabelGap, hhead⟩ := span_spec isBlank rest
    rw [hs] at h
    dsimp only at h
    split at h
    · contradiction
    · rename_i hpieces
      obtain rfl := Option.some.inj h
      obtain ⟨back, hback, hrest⟩ := exists_eq_trimRight_append rest
      have htrailing : rest.drop (trimRight rest).length = back := by
        conv => lhs; rw [hrest]
        rw [trimRight_append_blank _ hback, trimRight_trimRight, List.drop_left]
      simp only [Bool.or_eq_true, not_or, List.isEmpty_iff, Bool.not_eq_true,
        Bool.not_eq_false', List.contains_eq_mem, decide_eq_false_iff_not] at hpieces
      obtain ⟨⟨⟨⟨⟨hleftNe, hleftGapNe⟩, hcard⟩, hrightGapNe⟩, hrightNe⟩, hline⟩ := hpieces
      refine ⟨?_, hindent, hleftNe, hleft, hleftGapNe, hleftGap, hcard, ?_, hrightGapNe, hrightGap,
        hrightNe, hright, hcolonGap, hlabelGap, ?_, fun c hc => isBlank_getLast?_trimRight hc,
        hline, by rw [htrailing]; exact hback, ?_⟩
      · rw [Relationship.toText_eq]
        simp only [htrailing]
        rw [← hrest]
      · intro c hc
        simpa [isNotBlank] using hsymbol c hc
      · intro c hc
        apply hhead c
        rw [hrest, List.head?_append, hc, Option.some_or]
      · intro hnil
        -- Nothing but blanks is left behind the colon, and the gap has all of them.
        dsimp only at hnil ⊢
        rw [htrailing]
        rw [hnil, List.nil_append] at hrest
        cases back with
        | nil => rfl
        | cons c back =>
            have hc := hhead c (by rw [hrest]; rfl)
            rw [hback c List.mem_cons_self] at hc
            contradiction
  · contradiction

theorem isCardinality_exists_cons {symbol : Text} (h : isCardinality symbol = true)
    : ∃ mark second rest, symbol = mark :: second :: rest ∧ isCardinalityMark mark = true := by
  cases symbol with
  | nil => contradiction
  | cons mark rest =>
      cases hm : isCardinalityMark mark with
      | true =>
          cases rest with
          | nil => simp [isCardinality, hm] at h
          | cons second rest => exact ⟨mark, second, rest, rfl, hm⟩
      | false =>
          simp only [isCardinality, List.takeWhile_cons, List.dropWhile_cons, hm] at h
          simp at h
          split at h <;> contradiction

theorem isBlank_of_isCardinalityMark {c : Char} (h : isCardinalityMark c = true)
    : isBlank c = false := by
  have hmarks : c = '|' ∨ c = '}' ∨ c = '{' ∨ c = 'o' := by
    simpa [isCardinalityMark, or_assoc] using h
  rcases hmarks with rfl | rfl | rfl | rfl <;> decide

theorem head?_blank {gap : Text} (h : AllBlank gap) {c : Char} (hc : gap.head? = some c)
    : isBlank c = true :=
  h c (List.mem_of_mem_head? hc)

namespace Relationship.IsFormed

/-- No name goes on at the colon or at the blanks in front of it. -/
theorem isNameChar_head?_colon {r : Relationship} (h : r.IsFormed) {rest : Text} {c : Char}
    (hc : (r.colonGap ++ ':' :: rest).head? = some c)
    : isNameChar c = false := by
  by_cases hnil : r.colonGap = []
  · rw [hnil] at hc
    obtain rfl := Option.some.inj hc
    decide
  · rw [head?_append_of_ne_nil hnil] at hc
    exact isNameChar_of_isBlank (head?_blank h.colonGap hc)

/-- The gap behind the colon ends at the label. -/
theorem isBlank_head?_label {r : Relationship} (h : r.IsFormed) {c : Char}
    (hc : (r.label ++ r.trailing).head? = some c)
    : isBlank c = false := by
  by_cases hnil : r.label = []
  · rw [hnil, h.trailing_eq_nil hnil] at hc
    cases hc
  · rw [head?_append_of_ne_nil hnil] at hc
    exact h.label_head c hc

theorem trimRight_label {r : Relationship} (h : r.IsFormed)
    : trimRight (r.label ++ r.trailing) = r.label := by
  rw [trimRight_append_blank _ h.trailing, trimRight_eq_self h.label_last]

end Relationship.IsFormed

/-- A text made of formed pieces is cut into them again. -/
theorem Relationship.IsFormed.ofLine?_toText {r : Relationship} (h : r.IsFormed)
    : Relationship.ofLine? r.toText = some r := by
  obtain ⟨mark, second, more, hsymbol, hmark⟩ := isCardinality_exists_cons h.symbol
  have hsymbolNe : r.symbol ≠ [] := by simp [hsymbol]
  have hsolid : ∀ c ∈ r.symbol, isNotBlank c = true := fun c hc => by
    simp [isNotBlank, h.solid c hc]
  rw [Relationship.toText_eq, Relationship.ofLine?]
  rw [span_append h.indent (fun c hc => by
    rw [head?_append_of_ne_nil h.left_ne_nil] at hc
    exact isBlank_of_isNameChar (h.left c (List.mem_of_mem_head? hc)))]
  dsimp only
  rw [span_append h.left (fun c hc => by
    rw [head?_append_of_ne_nil h.leftGap_ne_nil] at hc
    exact isNameChar_of_isBlank (head?_blank h.leftGap hc))]
  dsimp only
  rw [span_append h.leftGap (fun c hc => by
    rw [head?_append_of_ne_nil hsymbolNe, hsymbol] at hc
    obtain rfl := Option.some.inj hc
    exact isBlank_of_isCardinalityMark hmark)]
  dsimp only
  rw [span_append hsolid (fun c hc => by
    rw [head?_append_of_ne_nil h.rightGap_ne_nil] at hc
    simp [isNotBlank, head?_blank h.rightGap hc])]
  dsimp only
  rw [span_append h.rightGap (fun c hc => by
    rw [head?_append_of_ne_nil h.right_ne_nil] at hc
    exact isBlank_of_isNameChar (h.right c (List.mem_of_mem_head? hc)))]
  dsimp only
  rw [span_append h.right fun c hc => h.isNameChar_head?_colon hc]
  dsimp only
  rw [span_append h.colonGap (fun c hc => by
    obtain rfl := Option.some.inj hc
    decide)]
  dsimp only
  split
  · rename_i rest hrest
    obtain rfl := (List.cons.inj hrest).2
    rw [span_append h.labelGap fun c hc => h.isBlank_head?_label hc]
    dsimp only
    rw [h.trimRight_label, List.drop_left]
    simp [h.left_ne_nil, h.leftGap_ne_nil, h.symbol, h.rightGap_ne_nil, h.right_ne_nil,
      h.isLine]
  · rename_i hno
    exact absurd rfl (hno _)

/-- Blanks around a relationship with a label do not belong to it. -/
theorem Relationship.IsFormed.relationship?_toText {r : Relationship} (h : r.IsFormed)
    (hl : r.label ≠ [])
    : relationship? r.toText = some { r with indent := [], trailing := [] } := by
  obtain ⟨first, left, hleft⟩ := List.exists_cons_of_ne_nil h.left_ne_nil
  have hcore : { r with indent := [], trailing := [] : Relationship }.IsFormed :=
    { h with
      indent := by simp [AllBlank]
      trailing := by simp [AllBlank]
      trailing_eq_nil := fun _ => rfl }
  have htrim : trim r.toText = { r with indent := [], trailing := [] : Relationship }.toText := by
    have hassoc : r.toText
        = r.indent ++ ({ r with indent := [], trailing := [] : Relationship }.toText
            ++ r.trailing) := by
      simp [Relationship.toText_eq]
    rw [hassoc, trim_blank_append _ h.indent, trim_append_blank _ h.trailing]
    refine trim_eq_self ?_ ?_
    · intro c hc
      have hc : first = c := by simpa [Relationship.toText_eq, hleft] using hc
      exact hc ▸ isBlank_of_isNameChar (h.left first (by simp [hleft]))
    · intro c hc
      apply h.label_last c
      rw [← hc, Relationship.toText]
      simp [List.getLast?_append, List.getLast?_eq_some_getLast hl]
  rw [relationship?, htrim, hcore.ofLine?_toText]

/-- The symbol of a relationship is longer than the brace that opens an entity block. -/
theorem isEntityStart_of_relationship? {line : Text} (h : (relationship? line).isSome = true)
    : isEntityStart (trim line) = false := by
  obtain ⟨r, hr⟩ := Option.isSome_iff_exists.1 h
  obtain ⟨htext, hformed⟩ := Relationship.ofLine?_spec hr
  obtain ⟨mark, second, more, hsymbol, hmark⟩ := isCardinality_exists_cons hformed.symbol
  have hbracket : mark ≠ '[' := by
    rintro rfl
    exact absurd hmark (by decide)
  rw [← htext, Relationship.toText_eq, isEntityStart]
  by_cases hindent : r.indent = []
  · rw [hindent, List.nil_append, span_append hformed.left (fun c hc => by
      rw [head?_append_of_ne_nil hformed.leftGap_ne_nil] at hc
      exact isNameChar_of_isBlank (head?_blank hformed.leftGap hc))]
    dsimp only
    rw [List.dropWhile_append_of_pos hformed.leftGap, hsymbol, List.cons_append,
      List.dropWhile_cons_of_neg (by simp [isBlank_of_isCardinalityMark hmark])]
    split
    · rename_i hcons
      exact absurd (List.cons.inj hcons).1 hbracket
    · simp
  · obtain ⟨c, indent, hindent⟩ := List.exists_cons_of_ne_nil hindent
    have hc : isNameChar c = false :=
      isNameChar_of_isBlank (hformed.indent c (by simp [hindent]))
    simp [hindent, List.span_eq_takeWhile_dropWhile, hc]

theorem Attribute.isBare_of_name {name : Text} (hne : name ≠ [])
    (h : ∀ c ∈ name, isNameChar c = true)
    : Attribute.IsBare name where
  ne_nil := hne
  solid := fun c hc => isBlank_of_isNameChar (h c hc)
  head := fun he => absurd (h _ (List.mem_of_mem_head? he)) (by decide)

/-- A bare token ends at the gap behind it. -/
theorem Attribute.IsBare.tokens_append_gap {token : Text} (h : Attribute.IsBare token)
    {gap : Text} (hne : gap ≠ []) (hg : AllBlank gap) (rest : Text)
    : Attribute.tokens (token ++ (gap ++ rest)) = token :: Attribute.tokens rest := by
  obtain ⟨c, gap, rfl⟩ := List.exists_cons_of_ne_nil hne
  rw [List.cons_append, h.tokens_append (hg c List.mem_cons_self),
    Attribute.tokens_blank_append fun d hd => hg d (List.mem_cons_of_mem _ hd)]

theorem Relationship.IsFormed.isBare_symbol {r : Relationship} (h : r.IsFormed)
    : Attribute.IsBare r.symbol := by
  obtain ⟨mark, second, more, hsymbol, hmark⟩ := isCardinality_exists_cons h.symbol
  refine ⟨by simp [hsymbol], h.solid, fun he => ?_⟩
  rw [hsymbol] at he
  obtain rfl := Option.some.inj he
  exact absurd hmark (by decide)

/-- The tokens of a relationship line: behind the symbol comes a name, and a colon comes with it
or starts the next token. -/
theorem Relationship.IsFormed.exists_tokens {r : Relationship} (h : r.IsFormed)
    : ∃ third rest,
        Attribute.tokens r.toText = r.left :: r.symbol :: third :: rest
        ∧ (∃ c, third.head? = some c ∧ isNameChar c = true)
        ∧ (':' ∈ third ∨ ∃ fourth, rest.head? = some fourth ∧ fourth.head? = some ':') := by
  have hleft := Attribute.isBare_of_name h.left_ne_nil h.left
  have hright := Attribute.isBare_of_name h.right_ne_nil h.right
  rw [Relationship.toText_eq, Attribute.tokens_blank_append h.indent,
    hleft.tokens_append_gap h.leftGap_ne_nil h.leftGap,
    h.isBare_symbol.tokens_append_gap h.rightGap_ne_nil h.rightGap]
  obtain ⟨first, right, hfirst⟩ := List.exists_cons_of_ne_nil h.right_ne_nil
  have hname : isNameChar first = true := h.right first (by simp [hfirst])
  have hquote : first ≠ '"' := by
    rintro rfl
    exact absurd hname (by decide)
  generalize r.labelGap ++ (r.label ++ r.trailing) = behind
  by_cases hgap : r.colonGap = []
  · have hthird : Attribute.tokens (r.right ++ (r.colonGap ++ ':' :: behind))
        = (first :: (right ++ ':' :: behind).takeWhile isNotBlank)
          :: Attribute.tokens ((right ++ ':' :: behind).dropWhile isNotBlank) := by
      rw [hgap, List.nil_append, hfirst, List.cons_append, Attribute.tokens_cons,
        if_neg (by simp [isBlank_of_isNameChar hname]), if_neg hquote]
    have hback : ∀ c ∈ right, isNotBlank c = true := fun c hc => by
      simp [isNotBlank, isBlank_of_isNameChar (h.right c (by simp [hfirst, hc]))]
    refine ⟨_, _, by rw [hthird], ⟨first, rfl, hname⟩, Or.inl ?_⟩
    rw [List.takeWhile_append_of_pos hback, List.takeWhile_cons_of_pos (by decide)]
    simp
  · have hfourth : Attribute.tokens (':' :: behind)
        = (':' :: behind.takeWhile isNotBlank)
          :: Attribute.tokens (behind.dropWhile isNotBlank) := by
      rw [Attribute.tokens_cons, if_neg (by decide), if_neg (by decide)]
    refine ⟨_, _, by rw [hright.tokens_append_gap hgap h.colonGap, hfourth],
      ⟨first, by simp [hfirst], hname⟩, Or.inr ⟨_, rfl, rfl⟩⟩

end DiagramRepair

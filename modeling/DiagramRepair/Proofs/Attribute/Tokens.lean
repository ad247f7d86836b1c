import DiagramRepair.Attribute.Token
import DiagramRepair.Proofs.Text.Parts

/-! The tokens of a line, and tokens written with spaces between them. A token is bare or starts
with a double quote; tokens of the first kind and at most one of the second behind them can be
read back.
-/

namespace DiagramRepair.Attribute

open Text

-----------------------------------------------------------------------------------------
-- Shapes of tokens
-----------------------------------------------------------------------------------------

/-- A token that holds no blank and starts with no double quote. -/
structure IsBare (token : Text) : Prop where
  ne_nil : token ≠ []
  solid : ∀ c ∈ token, isBlank c = false
  head : token.head? ≠ some '"'

/-- A token that starts with a double quote. It ends at the next one, or holds none. -/
inductive IsQuotation : Text → Prop
  | closed {inside : Text} (h : '"' ∉ inside) : IsQuotation ('"' :: inside ++ ['"'])
  | opened {rest : Text} (h : '"' ∉ rest) : IsQuotation ('"' :: rest)

theorem IsBare.exists_cons {token : Text} (h : IsBare token)
    : ∃ c rest, token = c :: rest ∧ isBlank c = false ∧ c ≠ '"' := by
  cases token with
  | nil => exact absurd rfl h.ne_nil
  | cons c rest =>
      refine ⟨c, rest, rfl, h.solid c List.mem_cons_self, ?_⟩
      rintro rfl
      exact h.head rfl

theorem IsQuotation.exists_cons {token : Text} (h : IsQuotation token)
    : ∃ rest, token = '"' :: rest := by
  cases h with
  | closed => exact ⟨_, rfl⟩
  | opened => exact ⟨_, rfl⟩

-----------------------------------------------------------------------------------------
-- Reading tokens
-----------------------------------------------------------------------------------------

theorem tokens_nil : tokens [] = [] := by
  rw [tokens.eq_def]

theorem tokens_cons (c : Char) (rest : Text)
    : tokens (c :: rest)
      = if isBlank c then tokens rest
        else if c = '"' then
          match cutAt? '"' rest with
          | some (inside, behind) => ('"' :: inside ++ ['"']) :: tokens behind
          | none => ['"' :: rest]
        else (c :: rest.takeWhile isNotBlank) :: tokens (rest.dropWhile isNotBlank) := by
  rw [tokens.eq_def]
  dsimp only
  congr
  split <;> simp_all

theorem tokens_blank_append {gap : Text} (h : AllBlank gap) (rest : Text)
    : tokens (gap ++ rest) = tokens rest := by
  induction gap with
  | nil => rfl
  | cons c gap ih =>
      rw [List.cons_append, tokens_cons, if_pos (h c List.mem_cons_self)]
      exact ih (fun d hd => h d (List.mem_cons_of_mem _ hd))

theorem tokens_closed_append {inside : Text} (h : '"' ∉ inside) (behind : Text)
    : tokens ('"' :: inside ++ '"' :: behind) = ('"' :: inside ++ ['"']) :: tokens behind := by
  rw [List.cons_append, tokens_cons, if_neg (by decide), if_pos rfl]
  simp only [cutAt?_append h, List.cons_append]

theorem tokens_opened {rest : Text} (h : '"' ∉ rest) : tokens ('"' :: rest) = ['"' :: rest] := by
  rw [tokens_cons, if_neg (by decide), if_pos rfl]
  simp only [cutAt?_eq_none_iff.2 h]

theorem IsQuotation.tokens {token : Text} (h : IsQuotation token)
    : Attribute.tokens token = [token] := by
  cases h with
  | closed h => rw [tokens_closed_append h, tokens_nil]
  | opened h => exact tokens_opened h

theorem IsBare.tokens_append {token : Text} (h : IsBare token) {c : Char}
    (hc : isBlank c = true) (rest : Text)
    : tokens (token ++ c :: rest) = token :: tokens rest := by
  have hsolid : ∀ d ∈ token, isNotBlank d = true := fun d hd => by simp [isNotBlank, h.solid d hd]
  have hstop : isNotBlank c = false := by simp [isNotBlank, hc]
  obtain ⟨first, back, rfl, hfirst, hquote⟩ := h.exists_cons
  have hback : ∀ d ∈ back, isNotBlank d = true := fun d hd =>
    hsolid d (List.mem_cons_of_mem _ hd)
  rw [List.cons_append, tokens_cons, if_neg (by simp [hfirst]), if_neg hquote,
    takeWhile_append_cons rest hback hstop, dropWhile_append_cons rest hback hstop, tokens_cons,
    if_pos hc]

theorem IsBare.tokens {token : Text} (h : IsBare token)
    : Attribute.tokens token = [token] := by
  have hsolid : ∀ d ∈ token, isNotBlank d = true := fun d hd => by simp [isNotBlank, h.solid d hd]
  obtain ⟨first, back, rfl, hfirst, hquote⟩ := h.exists_cons
  have hback : ∀ d ∈ back, isNotBlank d = true := fun d hd =>
    hsolid d (List.mem_cons_of_mem _ hd)
  rw [tokens_cons, if_neg (by simp [hfirst]), if_neg hquote,
    List.takeWhile_eq_self_iff.2 hback, List.dropWhile_eq_nil_iff.2 hback, tokens_nil]

/-- Every token is a part of the line, and one that a double quote opens for good is the last
part. By induction on the line. -/
theorem mem_tokens {line token : Text} (h : token ∈ tokens line)
    : token <:+: line
      ∧ (IsBare token ∨ (IsQuotation token ∧ (token.getLast? = some '"' ∨ token <:+ line))) := by
  fun_induction tokens line with
  | case1 => simp at h
  | case2 c rest _ ih =>
      obtain ⟨hwithin, hshape⟩ := ih h
      refine ⟨hwithin.trans (List.suffix_cons c rest).isInfix, hshape.imp_right fun hq => ?_⟩
      exact ⟨hq.1, hq.2.imp_right fun hs => hs.trans (List.suffix_cons c rest)⟩
  | case3 rest inside behind hcut hblank ih =>
      obtain ⟨rfl, hinside⟩ := cutAt?_eq_some hcut
      rcases List.mem_cons.1 h with rfl | h
      · refine ⟨⟨[], behind, by simp⟩, Or.inr ⟨.closed hinside, Or.inl ?_⟩⟩
        rw [List.getLast?_concat]
      · obtain ⟨hwithin, hshape⟩ := ih h
        have hsuffix : behind <:+ '"' :: (inside ++ '"' :: behind) :=
          ⟨'"' :: inside ++ ['"'], by simp⟩
        refine ⟨hwithin.trans hsuffix.isInfix, hshape.imp_right fun hq => ?_⟩
        exact ⟨hq.1, hq.2.imp_right fun hs => hs.trans hsuffix⟩
  | case4 rest hcut hblank =>
      rw [List.mem_singleton] at h
      subst h
      refine ⟨List.infix_refl _, Or.inr ⟨.opened (cutAt?_eq_none_iff.1 hcut), Or.inr ?_⟩⟩
      exact List.suffix_refl _
  | case5 c rest hblank hquote ih =>
      rcases List.mem_cons.1 h with rfl | h
      · refine ⟨?_, Or.inl ⟨by simp, ?_, by simpa using hquote⟩⟩
        · exact (List.prefix_cons_inj c).2 (List.takeWhile_prefix _) |>.isInfix
        · intro d hd
          rcases List.mem_cons.1 hd with rfl | hd
          · simpa using hblank
          · simpa [isNotBlank] using List.mem_takeWhile_imp hd
      · obtain ⟨hwithin, hshape⟩ := ih h
        have hsuffix : rest.dropWhile isNotBlank <:+ c :: rest :=
          (List.dropWhile_suffix _).trans (List.suffix_cons c rest)
        refine ⟨hwithin.trans hsuffix.isInfix, hshape.imp_right fun hq => ?_⟩
        exact ⟨hq.1, hq.2.imp_right fun hs => hs.trans hsuffix⟩

/-- A line without indentation starts with its first token. -/
theorem prefix_of_tokens_cons {line token : Text} {rest : List Text}
    (h : tokens line = token :: rest) (hl : ∀ c, line.head? = some c → isBlank c = false)
    : token <+: line := by
  cases line with
  | nil =>
      rw [tokens_nil] at h
      cases h
  | cons c behind =>
      rw [tokens_cons, if_neg (by simp [hl c rfl])] at h
      split at h
      · rename_i hc
        subst hc
        split at h
        · rename_i inside after hcut
          obtain rfl := (List.cons.inj h).1
          exact ⟨after, by simp [(cutAt?_eq_some hcut).1]⟩
        · obtain rfl := (List.cons.inj h).1
          exact List.prefix_refl _
      · obtain rfl := (List.cons.inj h).1
        exact (List.prefix_cons_inj c).2 (List.takeWhile_prefix _)

/-- Cutting a line into tokens loses blanks only, by induction on the line. -/
theorem filter_flatten_tokens {keep : Char → Bool} (h : ∀ c, isBlank c = true → keep c = false)
    (line : Text)
    : (tokens line).flatten.filter keep = line.filter keep := by
  fun_induction tokens line with
  | case1 => rfl
  | case2 c rest hblank ih => rw [ih, List.filter_cons_of_neg (by simp [h c hblank])]
  | case3 rest inside behind hcut hblank ih =>
      obtain ⟨rfl, -⟩ := cutAt?_eq_some hcut
      have hline : '"' :: (inside ++ '"' :: behind) = '"' :: inside ++ ['"'] ++ behind := by simp
      rw [List.flatten_cons, List.filter_append, ih, hline, ← List.filter_append]
  | case4 rest hcut hblank => simp
  | case5 c rest hblank hquote ih =>
      conv => rhs; rw [← List.takeWhile_append_dropWhile (p := isNotBlank) (l := rest)]
      rw [List.flatten_cons, List.filter_append, ih, ← List.cons_append, List.filter_append]

theorem count_flatten_tokens {c : Char} (hc : isBlank c = false) (line : Text)
    : (tokens line).flatten.count c = line.count c := by
  simp only [List.count, List.countP_eq_length_filter, filter_flatten_tokens (beq_of_isBlank hc)]

theorem allBlank_of_tokens_eq_nil {line : Text} (h : tokens line = []) : AllBlank line := by
  intro c hm
  by_contra hc
  have hcount := count_flatten_tokens (Bool.eq_false_iff.2 hc) line
  rw [h] at hcount
  exact List.count_eq_zero.1 hcount.symm hm

/-- A token is the last one when nothing but it and others in front of it is on the line. -/
theorem getLast?_cons_tokens {behind first token : Text}
    (hl : ∀ c, behind.getLast? = some c → isBlank c = false)
    (h : (first :: tokens behind).getLast? = some token)
    : (tokens behind).getLast? = some token ∨ behind = [] ∧ first = token := by
  rw [List.getLast?_cons] at h
  cases hmore : (tokens behind).getLast? with
  | some last =>
      rw [hmore] at h
      exact Or.inl h
  | none =>
      rw [hmore] at h
      have hblank := allBlank_of_tokens_eq_nil (List.getLast?_eq_none_iff.1 hmore)
      exact Or.inr ⟨hblank.eq_nil hl, Option.some.inj h⟩

/-- A line that does not end in a blank ends with its last token, by induction on the line. -/
theorem suffix_of_getLast?_tokens {line token : Text}
    (hl : ∀ c, line.getLast? = some c → isBlank c = false) (h : (tokens line).getLast? = some token)
    : token <:+ line := by
  fun_induction tokens line with
  | case1 => simp at h
  | case2 c rest _ ih =>
      have hsuffix := List.suffix_cons c rest
      exact (ih (solid_of_suffix hsuffix hl) h).trans hsuffix
  | case3 rest inside behind hcut hblank ih =>
      obtain ⟨rfl, -⟩ := cutAt?_eq_some hcut
      have hsuffix : behind <:+ '"' :: (inside ++ '"' :: behind) :=
        ⟨'"' :: inside ++ ['"'], by simp⟩
      have hbehind := solid_of_suffix hsuffix hl
      rcases getLast?_cons_tokens hbehind h with hlast | ⟨rfl, rfl⟩
      · exact (ih hbehind hlast).trans hsuffix
      · exact List.suffix_refl _
  | case4 rest hcut hblank =>
      obtain rfl := Option.some.inj h
      exact List.suffix_refl _
  | case5 c rest hblank hquote ih =>
      have hsuffix : rest.dropWhile isNotBlank <:+ c :: rest :=
        (List.dropWhile_suffix _).trans (List.suffix_cons c rest)
      have hbehind := solid_of_suffix hsuffix hl
      rcases getLast?_cons_tokens hbehind h with hlast | ⟨hnil, rfl⟩
      · exact (ih hbehind hlast).trans hsuffix
      · have hrest := List.takeWhile_append_dropWhile (p := isNotBlank) (l := rest)
        rw [hnil, List.append_nil] at hrest
        exact ⟨[], by rw [hrest, List.nil_append]⟩

-----------------------------------------------------------------------------------------
-- Tokens with spaces between them
-----------------------------------------------------------------------------------------

/-- Tokens that are written one after another are read back, by induction on the bare ones. -/
theorem tokens_joinWith {bare : List Text} {last : Option Text}
    (hb : ∀ token ∈ bare, IsBare token) (hl : ∀ token ∈ last, IsQuotation token)
    : tokens (joinWith [' '] (bare ++ last.toList)) = bare ++ last.toList := by
  induction bare with
  | nil =>
      cases last with
      | none => simp [joinWith, tokens_nil]
      | some token => simpa [joinWith] using (hl token rfl).tokens
  | cons token rest ih =>
      have htoken : IsBare token := hb token List.mem_cons_self
      have hrest := ih (fun other ho => hb other (List.mem_cons_of_mem _ ho))
      cases hs : rest ++ last.toList with
      | nil => simpa [hs, joinWith] using htoken.tokens
      | cons next more =>
          rw [hs] at hrest
          rw [List.cons_append, hs, joinWith_cons_cons, List.append_assoc, List.singleton_append,
            htoken.tokens_append (by decide), hrest]

end DiagramRepair.Attribute

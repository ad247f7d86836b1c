import DiagramRepair.Attribute.Field
import DiagramRepair.Proofs.Diagram.Relationship
import Mathlib.Algebra.GroupWithZero.Nat

/-! Attributes read from a line and written again. The attributes of a line use up its tokens,
and every attribute that is written reads as one well-formed attribute line.
-/

namespace DiagramRepair.Attribute

open Text

-----------------------------------------------------------------------------------------
-- Reading
-----------------------------------------------------------------------------------------

/-- The tokens of an attribute are of the classes that their places ask for. -/
structure Field.IsRead (field : Field) : Prop where
  ownType : ∀ token ∈ field.ownType, isWordToken token = true
  name : isWordToken field.name = true
  constraints : ∀ token ∈ field.constraints, isConstraintToken token = true
  comment : ∀ token ∈ field.comment, isCommentToken token = true

theorem finishField_spec (ownType : Option Text) {name : Text}
    (ht : ∀ token ∈ ownType, isWordToken token = true) (hn : isWordToken name = true)
    (rest : List Text)
    : let found := finishField ownType name rest
      found.1.sourceTokens ++ found.2 = ownType.toList ++ name :: rest ∧ found.1.IsRead := by
  have hrest := List.takeWhile_append_dropWhile (p := isConstraintToken) (l := rest)
  have hconstraints : ∀ token ∈ rest.takeWhile isConstraintToken, isConstraintToken token = true :=
    fun _ hm => List.mem_takeWhile_imp hm
  dsimp only
  unfold finishField
  dsimp only
  split
  · rename_i hdrop
    rw [hdrop, List.append_nil] at hrest
    refine ⟨?_, ⟨ht, hn, hconstraints, by simp⟩⟩
    simp [Field.sourceTokens, hrest]
  · rename_i next behind hdrop
    rw [hdrop] at hrest
    split
    · rename_i hcomment
      refine ⟨?_, ⟨ht, hn, hconstraints, by simpa using hcomment⟩⟩
      simp [Field.sourceTokens, hrest]
    · refine ⟨?_, ⟨ht, hn, hconstraints, by simp⟩⟩
      simp [Field.sourceTokens, hrest]

/-- An attribute and what is left make up the tokens. -/
theorem readField?_spec {tokens rest : List Text} {field : Field}
    (h : readField? tokens = some (field, rest))
    : field.sourceTokens ++ rest = tokens ∧ field.IsRead := by
  cases tokens with
  | nil => simp [readField?] at h
  | cons token behind =>
      simp only [readField?] at h
      split at h
      · contradiction
      · rename_i hword
        have htoken : isWordToken token = true := by simpa using hword
        split at h
        · cases behind with
          | nil => simp at h
          | cons name behind =>
              simp only at h
              split at h
              · rename_i hname
                have hspec := finishField_spec (some token) (by simpa using htoken)
                  hname behind
                rw [Option.some.inj h] at hspec
                exact hspec
              · contradiction
        · have hspec := finishField_spec none (by simp) htoken behind
          rw [Option.some.inj h] at hspec
          exact hspec

/-- The attributes of a line use up its tokens, by induction on the attributes. -/
theorem fieldsOfTokens?_spec {tokens : List Text} {fields : List Field}
    (h : fieldsOfTokens? tokens = some fields)
    : fields.flatMap Field.sourceTokens = tokens ∧ ∀ field ∈ fields, field.IsRead := by
  fun_induction fieldsOfTokens? tokens generalizing fields with
  | case1 =>
      obtain rfl := Option.some.inj h
      simp
  | case2 => contradiction
  | case3 token rest field behind hread ih =>
      obtain ⟨more, hmore, rfl⟩ := Option.map_eq_some_iff.1 h
      obtain ⟨htokens, hfield⟩ := readField?_spec hread
      obtain ⟨hbehind, hfields⟩ := ih hmore
      refine ⟨by rw [List.flatMap_cons, hbehind, htokens], ?_⟩
      intro other ho
      rcases List.mem_cons.1 ho with rfl | ho
      · exact hfield
      · exact hfields other ho

/-- What is written in place of a line was read from it, and the line was not well formed. -/
theorem replacement?_eq_some {line : Text} {fields : List Field}
    (h : replacement? line = some fields)
    : isWellFormed (tokens (trim line)) = false
      ∧ fields ≠ []
      ∧ fields.flatMap Field.sourceTokens = tokens (trim line)
      ∧ ∀ field ∈ fields, field.IsRead := by
  unfold replacement? at h
  dsimp only at h
  split at h
  · contradiction
  · rename_i hform
    refine ⟨by simpa using hform, ?_⟩
    unfold fields? at h
    split at h
    · contradiction
    · rename_i token rest htokens
      obtain ⟨hflat, hread⟩ := fieldsOfTokens?_spec h
      refine ⟨?_, by rw [hflat, htokens], hread⟩
      rintro rfl
      simp at hflat

-----------------------------------------------------------------------------------------
-- Classes of tokens
-----------------------------------------------------------------------------------------

/-- The characters of constraints. -/
def keyChars : List Char :=
  [',', 'P', 'p', 'F', 'f', 'U', 'u', 'K', 'k', '\u212a']

theorem mem_keyChars_of_afterKey? {text rest : Text} (h : afterKey? text = some rest)
    : ∃ first second, text = first :: second :: rest ∧ first ∈ keyChars ∧ second ∈ keyChars := by
  unfold afterKey? at h
  split at h
  · rename_i first second tail
    split at h
    · rename_i hkey
      obtain rfl := Option.some.inj h
      rw [Bool.and_eq_true, List.contains_iff_mem, List.contains_iff_mem] at hkey
      have hfirst : ['P', 'p', 'F', 'f', 'U', 'u'] ⊆ keyChars := by decide
      have hsecond : ['K', 'k', '\u212a'] ⊆ keyChars := by decide
      exact ⟨first, second, rfl, hfirst hkey.1, hsecond hkey.2⟩
    · contradiction
  · contradiction

/-- A run of keys holds nothing else, by induction on its keys. -/
theorem mem_keyChars_of_isKeyRun {text : Text} (h : isKeyRun text = true)
    : ∀ c ∈ text, c ∈ keyChars := by
  fun_induction isKeyRun text with
  | case1 => contradiction
  | case2 text hkey =>
      obtain ⟨first, second, rfl, hfirst, hsecond⟩ := mem_keyChars_of_afterKey? hkey
      simp [hfirst, hsecond]
  | case3 text rest hkey ih =>
      obtain ⟨first, second, rfl, hfirst, hsecond⟩ := mem_keyChars_of_afterKey? hkey
      have hcomma : ',' ∈ keyChars := by decide
      have hrest : ∀ c ∈ rest, c ∈ keyChars := by
        cases rest with
        | nil => simp
        | cons c rest => exact ih (by simpa using h)
      simpa [hfirst, hsecond, hcomma] using hrest
  | case4 text rest _ _ hkey ih =>
      obtain ⟨first, second, rfl, hfirst, hsecond⟩ := mem_keyChars_of_afterKey? hkey
      simpa [hfirst, hsecond] using ih h

theorem mem_keyChars_of_isConstraintToken {token : Text} (h : isConstraintToken token = true)
    : ∀ c ∈ token, c ∈ keyChars := by
  have hcomma : ',' ∈ keyChars := by decide
  unfold isConstraintToken at h
  split at h
  · simpa using hcomma
  · simpa [hcomma] using mem_keyChars_of_isKeyRun h
  · exact mem_keyChars_of_isKeyRun h

theorem isCommentToken_iff {token : Text}
    : isCommentToken token = true ↔ token.head? = some '"' := by
  cases token with
  | nil => simp [isCommentToken, startsWith, afterLead?]
  | cons c rest => simp [isCommentToken, startsWith, afterLead?]

theorem isCommentToken_of_isConstraintToken {token : Text} (h : isConstraintToken token = true)
    : isCommentToken token = false := by
  rw [Bool.eq_false_iff, ne_eq, isCommentToken_iff]
  intro hhead
  have hmem := mem_keyChars_of_isConstraintToken h '"' (List.mem_of_mem_head? hhead)
  exact absurd hmem (by decide)

theorem isConstraintToken_of_isCommentToken {token : Text} (h : isCommentToken token = true)
    : isConstraintToken token = false := by
  cases hc : isConstraintToken token with
  | false => rfl
  | true => simp [isCommentToken_of_isConstraintToken hc] at h

theorem isCommentToken_of_isWordToken {token : Text} (h : isWordToken token = true)
    : isCommentToken token = false := by
  simp only [isWordToken, Bool.and_eq_true, Bool.not_eq_true'] at h
  exact h.2

theorem isWordToken_defaultType : isWordToken defaultType = true := by
  have hafter : afterKey? defaultType = none := by decide
  have hkey : isKeyRun defaultType = false := by
    rw [isKeyRun.eq_def]
    split <;> simp_all
  have hcomment : isCommentToken defaultType = false := by decide
  have hconstraint : isConstraintToken defaultType = isKeyRun defaultType := rfl
  rw [isWordToken, hcomment, hconstraint, hkey]
  rfl

theorem Field.IsRead.type {field : Field} (h : field.IsRead) : isWordToken field.type = true := by
  unfold Field.type
  cases hown : field.ownType with
  | none => exact isWordToken_defaultType
  | some token => exact h.ownType token hown

/-- An attribute is written as one well-formed line. -/
theorem Field.IsRead.isWellFormed {field : Field} (h : field.IsRead)
    : isWellFormed field.writtenTokens = true := by
  have hdrop : (field.constraints ++ field.comment.toList).dropWhile isConstraintToken
      = field.comment.toList := by
    rw [List.dropWhile_append_of_pos h.constraints]
    cases hcomment : field.comment with
    | none => rfl
    | some token =>
        have htoken := isConstraintToken_of_isCommentToken (h.comment token hcomment)
        simp [htoken]
  simp only [Field.writtenTokens, List.cons_append, Attribute.isWellFormed, h.type, h.name, hdrop]
  cases hcomment : field.comment with
  | none => rfl
  | some token => simp [h.comment token hcomment]

-----------------------------------------------------------------------------------------
-- Writing
-----------------------------------------------------------------------------------------

/-- An attribute whose tokens can be told apart when they are written with spaces between them,
and that does not end in a blank. -/
structure Field.IsPrintable (field : Field) : Prop extends Field.IsRead field where
  bare : ∀ token ∈ field.type :: field.name :: field.constraints, IsBare token
  quotation
    : ∀ token ∈ field.comment,
        IsQuotation token ∧ ∀ c, token.getLast? = some c → isBlank c = false

theorem isBare_defaultType : IsBare defaultType where
  ne_nil := by decide
  solid := List.all_iff_forall_prop.1 (by decide)
  head := by decide

/-- A token that is no comment starts with no double quote, so it is bare. -/
theorem isBare_of_mem_tokens {line token : Text} (h : token ∈ tokens line)
    (hc : isCommentToken token = false)
    : IsBare token := by
  rcases (mem_tokens h).2 with hb | ⟨hq, -⟩
  · exact hb
  · obtain ⟨rest, rfl⟩ := hq.exists_cons
    rw [isCommentToken_iff.2 rfl] at hc
    cases hc

/-- A comment of a trimmed line is closed, or it is the end of the line. -/
theorem isQuotation_of_mem_tokens {line token : Text} (h : token ∈ tokens (trim line))
    (hc : isCommentToken token = true)
    : IsQuotation token ∧ ∀ c, token.getLast? = some c → isBlank c = false := by
  rcases (mem_tokens h).2 with hb | ⟨hq, hend⟩
  · exact absurd (isCommentToken_iff.1 hc) hb.head
  · refine ⟨hq, fun c hlast => ?_⟩
    rcases hend with hquote | ⟨front, hfront⟩
    · rw [hlast] at hquote
      obtain rfl := Option.some.inj hquote
      decide
    · have htrim : (trim line).getLast? = some c := by
        rw [← hfront, List.getLast?_append, hlast, Option.some_or]
      exact isBlank_getLast?_trim htrim

/-- All attributes that are written in place of a line are printable. -/
theorem isPrintable_of_replacement? {line : Text} {fields : List Field}
    (h : replacement? line = some fields) {field : Field} (hf : field ∈ fields)
    : field.IsPrintable := by
  obtain ⟨-, -, hflat, hreads⟩ := replacement?_eq_some h
  have hread := hreads field hf
  have htokens : ∀ token ∈ field.sourceTokens, token ∈ tokens (trim line) := fun token ht =>
    hflat ▸ List.mem_flatMap.2 ⟨field, hf, ht⟩
  refine ⟨hread, ?_, ?_⟩
  · intro token ht
    rcases List.mem_cons.1 ht with rfl | ht
    · unfold Field.type
      cases hown : field.ownType with
      | none => exact isBare_defaultType
      | some token =>
          have hword := hread.ownType token hown
          exact isBare_of_mem_tokens (htokens token (by simp [Field.sourceTokens, hown]))
            (isCommentToken_of_isWordToken hword)
    · rcases List.mem_cons.1 ht with rfl | ht
      · exact isBare_of_mem_tokens (htokens _ (by simp [Field.sourceTokens]))
          (isCommentToken_of_isWordToken hread.name)
      · exact isBare_of_mem_tokens (htokens token (by simp [Field.sourceTokens, ht]))
          (isCommentToken_of_isConstraintToken (hread.constraints token ht))
  · intro token ht
    have hsource : token ∈ field.sourceTokens := by
      rw [Option.mem_def] at ht
      simp [Field.sourceTokens, ht]
    exact isQuotation_of_mem_tokens (htokens token hsource) (hread.comment token ht)

theorem Field.IsPrintable.tokens_render {field : Field} (h : field.IsPrintable)
    : tokens field.render = field.writtenTokens :=
  tokens_joinWith h.bare (fun token ht => (h.quotation token ht).1)

/-- The type of an attribute is followed by a space. -/
theorem Field.render_eq (field : Field)
    : ∃ rest, field.render = field.type ++ ' ' :: rest := by
  refine ⟨joinWith [' '] (field.name :: field.constraints ++ field.comment.toList), ?_⟩
  simp [Field.render, Field.writtenTokens, joinWith_cons_cons]

/-- The last token is the comment, or else a bare one. -/
theorem Field.IsPrintable.exists_last {field : Field} (h : field.IsPrintable)
    : ∃ parts last,
        field.writtenTokens = parts ++ [last]
        ∧ last ≠ []
        ∧ ∀ c, last.getLast? = some c → isBlank c = false := by
  cases hcomment : field.comment with
  | some token =>
      obtain ⟨hq, hend⟩ := h.quotation token hcomment
      obtain ⟨rest, hrest⟩ := hq.exists_cons
      exact ⟨field.type :: field.name :: field.constraints, token,
        by simp [Field.writtenTokens, hcomment], by simp [hrest], hend⟩
  | none =>
      have hwritten : field.writtenTokens = field.type :: field.name :: field.constraints := by
        simp [Field.writtenTokens, hcomment]
      rcases List.eq_nil_or_concat (field.type :: field.name :: field.constraints)
        with hnil | ⟨parts, last, hparts⟩
      · cases hnil
      · have hbare : IsBare last := h.bare last (by simp [hparts])
        refine ⟨parts, last, by rw [hwritten, hparts, List.concat_eq_append], hbare.ne_nil, ?_⟩
        exact fun c hc => hbare.solid c (List.mem_of_getLast? hc)

theorem Field.IsPrintable.isBlank_getLast? {field : Field} (h : field.IsPrintable) {c : Char}
    (hc : field.render.getLast? = some c)
    : isBlank c = false := by
  obtain ⟨parts, last, hwritten, hne, hend⟩ := h.exists_last
  rw [Field.render, hwritten, getLast?_of_suffix (suffix_joinWith [' '] parts last) hne] at hc
  exact hend c hc

/-- The attribute is all that is left of it and an indentation. -/
theorem Field.IsPrintable.trim_indented {field : Field} (h : field.IsPrintable) {gap : Text}
    (hg : AllBlank gap)
    : trim (gap ++ field.render) = field.render := by
  rw [trim_blank_append _ hg]
  refine trim_eq_self ?_ fun c hc => h.isBlank_getLast? hc
  intro c hc
  obtain ⟨rest, hrender⟩ := field.render_eq
  obtain ⟨first, back, htype, hfirst, -⟩ := (h.bare field.type List.mem_cons_self).exists_cons
  rw [hrender, htype] at hc
  obtain rfl := Option.some.inj hc
  exact hfirst

/-- A line that an attribute was written on is well formed. -/
theorem Field.IsPrintable.replacement?_eq_none {field : Field} (h : field.IsPrintable)
    {gap : Text} (hg : AllBlank gap)
    : replacement? (gap ++ field.render) = none := by
  rw [replacement?, h.trim_indented hg, h.tokens_render, h.isWellFormed, if_pos rfl]

/-- Writing the attributes of a line adds spaces and default types only. -/
theorem sum_count_render {line : Text} {fields : List Field}
    (h : replacement? line = some fields) {c : Char} (hc : isBlank c = false)
    (hd : c ∉ defaultType)
    : (fields.map fun field => field.render.count c).sum = (trim line).count c := by
  obtain ⟨-, -, hflat, -⟩ := replacement?_eq_some h
  have hspace : c ∉ [' '] := by
    intro hm
    rw [List.mem_singleton] at hm
    subst hm
    exact absurd hc (by decide)
  have hfield : ∀ field : Field, field.render.count c = field.sourceTokens.flatten.count c := by
    intro field
    rw [Field.render, count_joinWith hspace]
    cases hown : field.ownType with
    | none =>
        simp [Field.writtenTokens, Field.sourceTokens, Field.type, hown, List.count_eq_zero.2 hd]
    | some token => simp [Field.writtenTokens, Field.sourceTokens, Field.type, hown]
  rw [← count_flatten_tokens hc, ← hflat]
  clear h hflat
  induction fields with
  | nil => rfl
  | cons field rest ih =>
      rw [List.map_cons, List.sum_cons, ih, hfield, List.flatMap_cons, List.flatten_append,
        List.count_append]

/-- A token that is written is the default type, or it stood on the line. -/
theorem mem_writtenTokens {line : Text} {fields : List Field} (h : replacement? line = some fields)
    {field : Field} (hf : field ∈ fields) {token : Text} (ht : token ∈ field.writtenTokens)
    : token = defaultType ∨ token ∈ tokens (trim line) := by
  obtain ⟨-, -, hflat, -⟩ := replacement?_eq_some h
  have hsource : token = defaultType ∨ token ∈ field.sourceTokens := by
    simp only [Field.writtenTokens, Field.sourceTokens, Field.type] at ht ⊢
    cases hown : field.ownType with
    | none => simpa [hown] using ht
    | some own => exact Or.inr (by simpa [hown] using ht)
  refine hsource.imp_right fun hm => ?_
  rw [← hflat]
  exact List.mem_flatMap.2 ⟨field, hf, hm⟩

/-- What is written holds no character that the line does not hold, apart from spaces and the
default type. -/
theorem mem_render {line : Text} {fields : List Field} (h : replacement? line = some fields)
    {field : Field} (hf : field ∈ fields) {c : Char} (hc : c ∈ field.render)
    : c = ' ' ∨ c ∈ defaultType ∨ c ∈ line := by
  rcases mem_joinWith hc with hspace | ⟨token, ht, hc⟩
  · exact Or.inl (by simpa using hspace)
  · right
    rcases mem_writtenTokens h hf ht with rfl | hm
    · exact Or.inl hc
    · exact Or.inr ((trim_isInfix line).subset ((mem_tokens hm).1.subset hc))

/-- A part without spaces and letters of the default type is a part of the line if it is one of
what is written. -/
theorem infix_of_infix_render {line : Text} {fields : List Field}
    (h : replacement? line = some fields) {field : Field} (hf : field ∈ fields) {part : Text}
    (hne : part ≠ []) (hs : ' ' ∉ part) (hd : ∀ c ∈ part, c ∉ defaultType)
    (hi : part <:+: field.render)
    : part <:+: line := by
  obtain ⟨token, ht, htoken⟩ := exists_infix_of_joinWith hne hs hi
  rcases mem_writtenTokens h hf ht with rfl | hm
  · obtain ⟨c, hc⟩ := List.exists_mem_of_ne_nil part hne
    exact absurd (htoken.subset hc) (hd c hc)
  · exact htoken.trans ((mem_tokens hm).1.trans (trim_isInfix line))

theorem Field.getLast?_sourceTokens (field : Field)
    : field.sourceTokens.getLast? = field.writtenTokens.getLast? := by
  have hne : field.name :: (field.constraints ++ field.comment.toList) ≠ [] := List.cons_ne_nil _ _
  have hwritten : field.writtenTokens
      = [field.type] ++ field.name :: (field.constraints ++ field.comment.toList) := rfl
  rw [Field.sourceTokens, hwritten, List.append_assoc, List.cons_append,
    List.getLast?_append_of_ne_nil _ hne, List.getLast?_append_of_ne_nil _ hne]

/-- The last attribute that is written ends as the line does. -/
theorem getLast?_render {line : Text} {front : List Field} {field : Field}
    (h : replacement? line = some (front ++ [field]))
    : field.render.getLast? = (trim line).getLast? := by
  have hprintable := isPrintable_of_replacement? h (List.mem_append_right front List.mem_cons_self)
  obtain ⟨-, -, hflat, -⟩ := replacement?_eq_some h
  obtain ⟨parts, last, hwritten, hne, -⟩ := hprintable.exists_last
  have hsource : field.sourceTokens.getLast? = some last := by
    rw [field.getLast?_sourceTokens, hwritten, List.getLast?_concat]
  have htokens : (tokens (trim line)).getLast? = some last := by
    rw [← hflat, List.flatMap_append, List.flatMap_singleton, List.getLast?_append, hsource,
      Option.some_or]
  have hline := suffix_of_getLast?_tokens (fun _ => isBlank_getLast?_trim) htokens
  rw [Field.render, hwritten, getLast?_of_suffix (suffix_joinWith [' '] parts last) hne,
    getLast?_of_suffix hline hne]

/-- No attribute that is written looks like a relationship: behind two words there are keys and a
comment only, and none of them starts with a colon or holds one behind a name. -/
theorem Field.IsPrintable.relationship?_eq_none {field : Field} (h : field.IsPrintable)
    {text : Text} (ht : trim text = field.render)
    : relationship? text = none := by
  cases hr : relationship? text with
  | none => rfl
  | some r =>
      obtain ⟨htext, hformed⟩ := Relationship.ofLine?_spec hr
      obtain ⟨third, rest, htokens, ⟨c, hc, hname⟩, hcolon⟩ := hformed.exists_tokens
      rw [htext, ht, h.tokens_render] at htokens
      have hrest : field.constraints ++ field.comment.toList = third :: rest :=
        (List.cons.inj (List.cons.inj htokens).2).2
      have hclass : ∀ token ∈ third :: rest,
          (∀ d ∈ token, d ∈ keyChars) ∨ token.head? = some '"' := by
        intro token hm
        rw [← hrest] at hm
        rcases List.mem_append.1 hm with hm | hm
        · exact Or.inl (mem_keyChars_of_isConstraintToken (h.constraints token hm))
        · exact Or.inr (isCommentToken_iff.1 (h.comment token (by simpa using hm)))
      rcases hcolon with hcolon | ⟨fourth, hfourth, hhead⟩
      · rcases hclass third List.mem_cons_self with hkeys | hquote
        · exact absurd (hkeys ':' hcolon) (by decide)
        · rw [hc] at hquote
          obtain rfl := Option.some.inj hquote
          exact absurd hname (by decide)
      · have hm : fourth ∈ third :: rest := List.mem_cons_of_mem _ (List.mem_of_mem_head? hfourth)
        rcases hclass fourth hm with hkeys | hquote
        · exact absurd (hkeys ':' (List.mem_of_mem_head? hhead)) (by decide)
        · rw [hhead] at hquote
          exact absurd hquote (by decide)

end DiagramRepair.Attribute

import DiagramRepair.Proofs.Attribute.Machine

/-! The grammar of attribute lines. Tokens are parted into attributes, each with its own tokens in
their order, and the first token of an attribute tells with the one behind it whether a type is
written. Reading a line finds such a segmentation whenever there is one, and there is never more
than one.
-/

namespace DiagramRepair.Attribute

-----------------------------------------------------------------------------------------
-- Segmentations
-----------------------------------------------------------------------------------------

/-- Some tokens are those of some attributes. An attribute without a type of its own takes the
default type, which is written nowhere among the tokens.
-/
structure IsSegmentation (tokens : List Text) (fields : List Field) : Prop where
  /-- No token is lost, written twice or moved. -/
  covers : fields.flatMap Field.sourceTokens = tokens
  /-- Types and names are words, and what follows them are constraints and a comment. -/
  reads : ∀ field ∈ fields, field.IsRead
  /-- A type is written exactly where the first token of an attribute takes the place of one. -/
  typed
    : ∀ (front back : List Field) (field : Field) (first : Text) (rest : List Text),
        fields = front ++ field :: back
        → tokens = front.flatMap Field.sourceTokens ++ first :: rest
        → (field.ownType.isSome = true ↔ takesTypeSlot first rest.head? = true)
  /-- Every other attribute takes the default type, and it is known that it was put in. -/
  defaulted
    : ∀ field ∈ fields,
        field.ownType = none → field.type = defaultType ∧ field.isDefaulted = true

theorem Field.sourceTokens_eq (field : Field)
    : field.sourceTokens
      = field.ownType.toList ++ field.name :: (field.constraints ++ field.comment.toList) := by
  simp only [Field.sourceTokens, List.append_assoc, List.cons_append]

theorem Field.type_of_ownType_eq_none {field : Field} (h : field.ownType = none)
    : field.type = defaultType ∧ field.isDefaulted = true := by
  simp [Field.type, Field.isDefaulted, h]

/-- The first token of an attribute is its type or its name, so it is a word. -/
theorem Field.IsRead.exists_word {field : Field} (h : field.IsRead)
    : ∃ word rest, field.sourceTokens = word :: rest ∧ isWordToken word = true := by
  rw [Field.sourceTokens_eq]
  cases hown : field.ownType with
  | none => exact ⟨field.name, _, rfl, h.name⟩
  | some token => exact ⟨token, _, rfl, h.ownType token hown⟩

theorem isSegmentation_nil : IsSegmentation [] [] where
  covers := rfl
  reads := by simp
  typed _ _ _ _ _ hfields := absurd hfields.symm (by simp)
  defaulted _ _ := Field.type_of_ownType_eq_none

/-- One attribute in front of others: its tokens stand in front of theirs, and its type is told by
the first two of all. -/
theorem isSegmentation_cons_iff {tokens : List Text} {field : Field} {fields : List Field}
    : IsSegmentation tokens (field :: fields)
      ↔ ∃ behind,
          field.sourceTokens ++ behind = tokens
          ∧ field.IsRead
          ∧ (∀ first rest,
            tokens = first :: rest
            → (field.ownType.isSome = true ↔ takesTypeSlot first rest.head? = true))
          ∧ IsSegmentation behind fields := by
  constructor
  · intro h
    have hcovers : field.sourceTokens ++ fields.flatMap Field.sourceTokens = tokens := by
      simpa only [List.flatMap_cons] using h.covers
    refine ⟨fields.flatMap Field.sourceTokens, hcovers, h.reads field List.mem_cons_self, ?_, ?_⟩
    · exact fun first rest htokens => h.typed [] fields field first rest rfl htokens
    · refine ⟨rfl, fun other ho => h.reads other (List.mem_cons_of_mem _ ho), ?_,
        fun _ _ => Field.type_of_ownType_eq_none⟩
      intro front back other first rest hfields hbehind
      refine h.typed (field :: front) back other first rest (by rw [hfields, List.cons_append]) ?_
      rw [← hcovers, hbehind, List.flatMap_cons, List.append_assoc]
  · rintro ⟨behind, hcovers, hread, htyped, hbehind⟩
    refine ⟨by rw [List.flatMap_cons, hbehind.covers, hcovers], ?_, ?_,
      fun _ _ => Field.type_of_ownType_eq_none⟩
    · exact List.forall_mem_cons.2 ⟨hread, hbehind.reads⟩
    · intro front back other first rest hfields htokens
      cases front with
      | nil =>
          obtain ⟨rfl, -⟩ := List.cons.inj hfields
          exact htyped first rest htokens
      | cons head front =>
          obtain ⟨rfl, hrest⟩ := List.cons.inj hfields
          rw [← hcovers, List.flatMap_cons, List.append_assoc] at htokens
          exact hbehind.typed _ _ _ _ _ hrest (List.append_cancel_left htokens)

/-- What attributes are read from starts with a word, unless there is nothing to read. -/
theorem IsSegmentation.isWordToken_head? {tokens : List Text} {fields : List Field}
    (h : IsSegmentation tokens fields)
    : ∀ token ∈ tokens.head?, isWordToken token = true := by
  intro token ht
  cases fields with
  | nil =>
      rw [← h.covers] at ht
      simp at ht
  | cons field fields =>
      obtain ⟨behind, rfl, hread, -, -⟩ := isSegmentation_cons_iff.1 h
      obtain ⟨word, rest, hsource, hword⟩ := hread.exists_word
      rw [hsource] at ht
      obtain rfl := Option.some.inj ht
      exact hword

-----------------------------------------------------------------------------------------
-- One attribute
-----------------------------------------------------------------------------------------

/-- The constraints and the comment of an attribute end where the next one starts. -/
theorem finishField_append {field : Field} (h : field.IsRead) {behind : List Text}
    (hb : ∀ token ∈ behind.head?, isWordToken token = true)
    : finishField field.ownType field.name (field.constraints ++ (field.comment.toList ++ behind))
      = (field, behind) := by
  obtain ⟨ownType, name, constraints, comment⟩ := field
  have hconstraints : ∀ token ∈ constraints, isConstraintToken token = true := h.constraints
  unfold finishField
  dsimp only
  rw [List.takeWhile_append_of_pos hconstraints, List.dropWhile_append_of_pos hconstraints]
  cases comment with
  | some token =>
      have hcomment : isCommentToken token = true := h.comment token rfl
      simp [hcomment, isConstraintToken_of_isCommentToken hcomment]
  | none =>
      cases behind with
      | nil => simp
      | cons token behind =>
          have hword := hb token rfl
          simp only [isWordToken, Bool.and_eq_true, Bool.not_eq_true'] at hword
          simp [hword.1, hword.2]

/-- An attribute is read off the front of its tokens, by cases on whether its type is written. -/
theorem readField?_append {field : Field} (h : field.IsRead) {behind : List Text}
    (hb : ∀ token ∈ behind.head?, isWordToken token = true)
    (ht : ∀ first rest,
      field.sourceTokens ++ behind = first :: rest
      → (field.ownType.isSome = true ↔ takesTypeSlot first rest.head? = true))
    : readField? (field.sourceTokens ++ behind) = some (field, behind) := by
  have hfinish := finishField_append h hb
  have hname : (!isWordToken field.name) = false := by simp [h.name]
  cases hown : field.ownType with
  | none =>
      have hsource : field.sourceTokens ++ behind
          = field.name :: (field.constraints ++ (field.comment.toList ++ behind)) := by
        simp [Field.sourceTokens_eq, hown]
      have hslot := ht _ _ hsource
      simp only [hown, Option.isSome_none, Bool.false_eq_true, false_iff, Bool.not_eq_true] at hslot
      rw [hown] at hfinish
      rw [hsource, readField?_cons, hname, hslot, hfinish]
      rfl
  | some token =>
      have hsource : field.sourceTokens ++ behind
          = token :: field.name :: (field.constraints ++ (field.comment.toList ++ behind)) := by
        simp [Field.sourceTokens_eq, hown]
      have htoken : (!isWordToken token) = false := by simp [h.ownType token hown]
      have hslot := ht _ _ hsource
      simp only [hown, Option.isSome_some, true_iff] at hslot
      rw [hown] at hfinish
      rw [hsource, readField?_cons, htoken, hslot]
      simp only [Bool.false_eq_true, if_false, if_true, h.name, hfinish]

theorem ownType_finishField (ownType : Option Text) (name : Text) (rest : List Text)
    : (finishField ownType name rest).1.ownType = ownType := by
  unfold finishField
  split
  · rfl
  · split
    · rfl
    · rfl

/-- An attribute that is read has a type of its own where the first token takes the place of one. -/
theorem isSome_ownType_of_readField? {first : Text} {rest behind : List Text} {field : Field}
    (h : readField? (first :: rest) = some (field, behind))
    : field.ownType.isSome = true ↔ takesTypeSlot first rest.head? = true := by
  rw [readField?_cons] at h
  split at h
  · contradiction
  · cases hslot : takesTypeSlot first rest.head? with
    | false =>
        have hown := ownType_finishField none first rest
        rw [hslot, if_neg Bool.false_ne_true] at h
        rw [Option.some.inj h] at hown
        simp [show field.ownType = none from hown]
    | true =>
        rw [hslot, if_pos rfl] at h
        cases rest with
        | nil => contradiction
        | cons name rest =>
            have hown := ownType_finishField (some first) name rest
            dsimp only at h
            split at h
            · rw [Option.some.inj h] at hown
              simp [show field.ownType = some first from hown]
            · contradiction

-----------------------------------------------------------------------------------------
-- All attributes of a line
-----------------------------------------------------------------------------------------

/-- What is read is a segmentation, by induction on the attributes read. -/
theorem isSegmentation_of_fieldsOfTokens? {tokens : List Text} {fields : List Field}
    (h : fieldsOfTokens? tokens = some fields)
    : IsSegmentation tokens fields := by
  fun_induction fieldsOfTokens? tokens generalizing fields with
  | case1 =>
      obtain rfl := Option.some.inj h
      exact isSegmentation_nil
  | case2 => contradiction
  | case3 token rest field behind hread ih =>
      obtain ⟨more, hmore, rfl⟩ := Option.map_eq_some_iff.1 h
      obtain ⟨htokens, hfield⟩ := readField?_spec hread
      refine isSegmentation_cons_iff.2 ⟨behind, htokens, hfield, ?_, ih hmore⟩
      intro first others hcons
      obtain ⟨rfl, rfl⟩ := List.cons.inj hcons
      exact isSome_ownType_of_readField? hread

/-- Every segmentation is read, by induction on its attributes. -/
theorem fieldsOfTokens?_of_isSegmentation {tokens : List Text} {fields : List Field}
    (h : IsSegmentation tokens fields)
    : fieldsOfTokens? tokens = some fields := by
  induction fields generalizing tokens with
  | nil =>
      rw [← h.covers, List.flatMap_nil, fieldsOfTokens?]
  | cons field fields ih =>
      obtain ⟨behind, rfl, hread, htyped, hbehind⟩ := isSegmentation_cons_iff.1 h
      have hfront := readField?_append hread hbehind.isWordToken_head? htyped
      obtain ⟨word, rest, hsource, -⟩ := hread.exists_word
      rw [hsource, List.cons_append] at hfront ⊢
      rw [fieldsOfTokens?_cons, hfront, Option.bind_some, ih hbehind, Option.map_some]

theorem fieldsOfTokens?_eq_some_iff {tokens : List Text} {fields : List Field}
    : fieldsOfTokens? tokens = some fields ↔ IsSegmentation tokens fields :=
  ⟨isSegmentation_of_fieldsOfTokens?, fieldsOfTokens?_of_isSegmentation⟩

/-- A line is read as the attributes that its tokens are parted into, if there are any. -/
theorem fields?_eq_some_iff {line : Text} {fields : List Field}
    : fields? line = some fields ↔ fields ≠ [] ∧ IsSegmentation (tokens line) fields := by
  rw [fields?, ← fieldsOfTokens?_eq_some_iff]
  cases htokens : tokens line with
  | nil => simp [fieldsOfTokens?]
  | cons token rest =>
      refine (and_iff_right_of_imp fun h => ?_).symm
      rintro rfl
      have hcovers := (isSegmentation_of_fieldsOfTokens? h).covers
      cases hcovers

/-- The attributes of a line are exactly what the grammar says: a line is read as some attributes
if and only if its tokens are parted into them, it cannot be read if and only if they are parted
into none, and they are never parted in two ways. -/
theorem fields?_exact (line : Text)
    : (∀ fields, fields? line = some fields ↔ fields ≠ [] ∧ IsSegmentation (tokens line) fields)
      ∧ (fields? line = none ↔ ∀ fields, fields ≠ [] → ¬IsSegmentation (tokens line) fields)
      ∧ ∀ first second,
          IsSegmentation (tokens line) first
          → IsSegmentation (tokens line) second
          → first = second := by
  refine ⟨fun fields => fields?_eq_some_iff, ?_, fun first second hfirst hsecond => ?_⟩
  · simp only [Option.eq_none_iff_forall_ne_some, ne_eq, fields?_eq_some_iff, not_and]
  · rw [← fieldsOfTokens?_eq_some_iff] at hfirst hsecond
    exact Option.some.inj (hfirst.symm.trans hsecond)

end DiagramRepair.Attribute

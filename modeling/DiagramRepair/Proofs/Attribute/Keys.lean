import DiagramRepair.Attribute.Key
import DiagramRepair.Proofs.Attribute.ReadBack
import DiagramRepair.Proofs.Attribute.Segmentation

/-! The keys that constraints name. A constraint is told by the letters of its keys, with or without
commas between them; its keys are looked up by what stands between commas. The two agree where
commas part all keys and no Kelvin sign stands for a K.
-/

namespace DiagramRepair.Attribute

open Text

-----------------------------------------------------------------------------------------
-- Keys in a constraint
-----------------------------------------------------------------------------------------

/-- The name of the key stands in the token, in upper or lower case. -/
def Key.OccursIn (key : Key) (token : Text) : Prop :=
  ∃ part, part <:+: token ∧ lower part = lower key.name

/-- Between two commas stands one key at most, and the Kelvin sign stands for no K. -/
def IsSpelledOut (token : Text) : Prop :=
  ∀ part ∈ token.splitOn ',', part.length ≤ 2 ∧ '\u212a' ∉ part

/-- Keys one behind the other with nothing between them. -/
inductive IsKeyString : Text → Prop
  | nil : IsKeyString []
  | cons {text rest : Text} (key : afterKey? text = some rest) (more : IsKeyString rest)
    : IsKeyString text

/-- What may be the letters of a key, and what follows them. -/
theorem afterKey?_eq_some_iff {text rest : Text}
    : afterKey? text = some rest
      ↔ ∃ first ∈ ['P', 'p', 'F', 'f', 'U', 'u'], ∃ second ∈ ['K', 'k', '\u212a'],
          text = first :: second :: rest := by
  constructor
  · intro h
    unfold afterKey? at h
    split at h
    · rename_i first second tail
      split at h
      · rename_i hkey
        obtain rfl := Option.some.inj h
        simp only [Bool.and_eq_true, List.contains_iff_mem] at hkey
        exact ⟨first, hkey.1, second, hkey.2, rfl⟩
      · contradiction
    · contradiction
  · rintro ⟨first, hfirst, second, hsecond, rfl⟩
    simp only [afterKey?, List.contains_iff_mem.2 hfirst, List.contains_iff_mem.2 hsecond,
      Bool.and_self, if_true]

/-- A key in front of a text stands in front of its first part. -/
theorem isKeyString_of_afterKey? {text rest : Text} (h : afterKey? text = some rest)
    (hr : ∀ part ∈ rest.splitOn ',', IsKeyString part)
    : ∀ part ∈ text.splitOn ',', IsKeyString part := by
  obtain ⟨first, hfirst, second, hsecond, rfl⟩ := afterKey?_eq_some_iff.1 h
  have hcommas : first ≠ ',' ∧ second ≠ ',' :=
    ⟨ne_of_mem_of_not_mem hfirst (by decide), ne_of_mem_of_not_mem hsecond (by decide)⟩
  obtain ⟨front, parts, hparts⟩ := List.exists_cons_of_ne_nil (List.splitOn_ne_nil ',' rest)
  have hsplit : (first :: second :: rest).splitOn ',' = (first :: second :: front) :: parts := by
    simp [List.splitOn_cons_eq_if_modifyHead, hparts, hcommas]
  rw [hparts, List.forall_mem_cons] at hr
  rw [hsplit, List.forall_mem_cons]
  exact ⟨.cons (afterKey?_eq_some_iff.2 ⟨first, hfirst, second, hsecond, rfl⟩) hr.1, hr.2⟩

theorem isKeyString_of_mem_splitOn_comma {rest : Text}
    (h : ∀ part ∈ rest.splitOn ',', IsKeyString part)
    : ∀ part ∈ (',' :: rest).splitOn ',', IsKeyString part := by
  have hsplit : (',' :: rest).splitOn ',' = [] :: rest.splitOn ',' := by
    simp [List.splitOn_cons_eq_if_modifyHead]
  rw [hsplit, List.forall_mem_cons]
  exact ⟨.nil, h⟩

theorem isKeyString_of_mem_splitOn_nil : ∀ part ∈ ([] : Text).splitOn ',', IsKeyString part := by
  rw [List.splitOn_nil, List.forall_mem_singleton]
  exact .nil

/-- Between the commas of a run of keys stand keys, by induction on the run. -/
theorem isKeyString_of_isKeyRun {text : Text} (h : isKeyRun text = true)
    : ∀ part ∈ text.splitOn ',', IsKeyString part := by
  fun_induction isKeyRun text with
  | case1 => contradiction
  | case2 text hkey => exact isKeyString_of_afterKey? hkey isKeyString_of_mem_splitOn_nil
  | case3 text rest hkey ih =>
      refine isKeyString_of_afterKey? hkey (isKeyString_of_mem_splitOn_comma ?_)
      cases rest with
      | nil => exact isKeyString_of_mem_splitOn_nil
      | cons c rest => exact ih (by simpa using h)
  | case4 text rest _ _ hkey ih => exact isKeyString_of_afterKey? hkey (ih h)

theorem isKeyString_of_isConstraintToken {token : Text} (h : isConstraintToken token = true)
    : ∀ part ∈ token.splitOn ',', IsKeyString part := by
  unfold isConstraintToken at h
  split at h
  · exact isKeyString_of_mem_splitOn_comma isKeyString_of_mem_splitOn_nil
  · exact isKeyString_of_mem_splitOn_comma (isKeyString_of_isKeyRun h)
  · exact isKeyString_of_isKeyRun h

-----------------------------------------------------------------------------------------
-- Looking up a part
-----------------------------------------------------------------------------------------

theorem Key.ofPart_eq_ok_iff {part : Text} {key : Key}
    : ofPart part = .ok key ↔ upper part = key.name := by
  constructor
  · intro h
    unfold ofPart at h
    dsimp only at h
    split at h
    · rename_i found hfound
      obtain rfl := Except.ok.inj h
      have hname : found.name = upper part := by simpa using List.find?_some hfound
      exact hname.symm
    · contradiction
  · intro h
    rw [ofPart, h]
    cases key <;> rfl

/-- The characters of constraints stay one character each in upper and in lower case. -/
theorem length_of_mem_keyChars
    : ∀ c ∈ keyChars, (upperChar c).length = 1 ∧ (lowerChar c).length = 1 :=
  List.all_iff_forall_prop.1 (by decide +kernel)

theorem length_flatMap_of_single {change : Char → Text} {text : Text}
    (h : ∀ c ∈ text, (change c).length = 1)
    : (text.flatMap change).length = text.length := by
  simp [List.length_flatMap, List.map_congr_left h]

theorem length_upper {text : Text} (h : ∀ c ∈ text, c ∈ keyChars)
    : (upper text).length = text.length :=
  length_flatMap_of_single fun c hc => (length_of_mem_keyChars c (h c hc)).1

theorem length_lower {text : Text} (h : ∀ c ∈ text, c ∈ keyChars)
    : (lower text).length = text.length :=
  length_flatMap_of_single fun c hc => (length_of_mem_keyChars c (h c hc)).2

theorem Key.length_name (key : Key) : key.name.length = 2 ∧ (lower key.name).length = 2 := by
  cases key <;> exact ⟨rfl, rfl⟩

theorem Key.mem_all (key : Key) : key ∈ Key.all := by
  cases key <;> decide

/-- On two characters, the upper case of the Kelvin sign is all that tells the two cases apart. -/
theorem Key.upper_pair_eq_name_iff {first second : Char} (hf : first ∈ keyChars)
    (hs : second ∈ keyChars) (key : Key)
    : upper [first, second] = key.name
      ↔ lower [first, second] = lower key.name ∧ '\u212a' ∉ [first, second] := by
  have hall
      : (keyChars.all fun first => keyChars.all fun second => all.all fun key =>
          upper [first, second] = key.name
          ↔ lower [first, second] = lower key.name ∧ '\u212a' ∉ [first, second]) = true := by
    decide +kernel
  simp only [List.all_eq_true, decide_eq_true_eq] at hall
  exact hall first hf second hs key key.mem_all

theorem Key.upper_eq_name_iff {part : Text} (h : ∀ c ∈ part, c ∈ keyChars) (key : Key)
    : upper part = key.name ↔ lower part = lower key.name ∧ '\u212a' ∉ part := by
  by_cases htwo : part.length = 2
  · obtain ⟨first, second, rfl⟩ := List.length_eq_two.1 htwo
    exact key.upper_pair_eq_name_iff (h first (by simp)) (h second (by simp))
  · constructor
    · intro hupper
      have hlength := congrArg List.length hupper
      rw [length_upper h, key.length_name.1] at hlength
      exact absurd hlength htwo
    · rintro ⟨hlower, -⟩
      have hlength := congrArg List.length hlower
      rw [length_lower h, key.length_name.2] at hlength
      exact absurd hlength htwo

theorem IsKeyString.mem_keyChars {text : Text} (h : IsKeyString text)
    : ∀ c ∈ text, c ∈ keyChars := by
  induction h with
  | nil => exact List.forall_mem_nil _
  | cons key more ih =>
      obtain ⟨first, second, rfl, hfirst, hsecond⟩ := mem_keyChars_of_afterKey? key
      exact List.forall_mem_cons.2 ⟨hfirst, List.forall_mem_cons.2 ⟨hsecond, ih⟩⟩

theorem exists_name_eq_upper {first second : Char}
    (hf : first ∈ ['P', 'p', 'F', 'f', 'U', 'u']) (hs : second ∈ ['K', 'k'])
    : ∃ key : Key, upper [first, second] = key.name := by
  have hall
      : (['P', 'p', 'F', 'f', 'U', 'u'].all fun first => ['K', 'k'].all fun second =>
          Key.all.any fun key => upper [first, second] = key.name) = true := by
    decide +kernel
  simp only [List.all_eq_true, List.any_eq_true, decide_eq_true_eq] at hall
  obtain ⟨key, -, hname⟩ := hall first hf second hs
  exact ⟨key, hname⟩

/-- Keys are looked up where there is one of them, with a K that has a name's capital. -/
theorem IsKeyString.exists_ofPart_iff {part : Text} (h : IsKeyString part) (hne : part ≠ [])
    : (∃ key, Key.ofPart part = .ok key) ↔ part.length ≤ 2 ∧ '\u212a' ∉ part := by
  simp only [Key.ofPart_eq_ok_iff]
  constructor
  · rintro ⟨key, hupper⟩
    have hlength := congrArg List.length hupper
    rw [length_upper h.mem_keyChars, key.length_name.1] at hlength
    exact ⟨hlength.le, ((key.upper_eq_name_iff h.mem_keyChars).1 hupper).2⟩
  · rintro ⟨hlength, hkelvin⟩
    cases h with
    | nil => contradiction
    | cons key more =>
        obtain ⟨first, hfirst, second, hsecond, rfl⟩ := afterKey?_eq_some_iff.1 key
        obtain rfl := List.eq_nil_of_length_eq_zero (by simpa using hlength)
        have hplain : second ∈ ['K', 'k'] := by
          simp only [List.mem_cons, List.not_mem_nil, or_false] at hsecond hkelvin ⊢
          tauto
        exact exists_name_eq_upper hfirst hplain

-----------------------------------------------------------------------------------------
-- Looking up all parts
-----------------------------------------------------------------------------------------

section Operations

variable {ε α β : Type} {operation : α → Except ε β} {items : List α} {results : List β}

theorem mapM_cons_eq_ok_iff {item : α}
    : (item :: items).mapM operation = .ok results
      ↔ ∃ first rest,
          operation item = .ok first
          ∧ items.mapM operation = .ok rest
          ∧ results = first :: rest := by
  rw [List.mapM_cons]
  cases operation item with
  | error fault => simp [bind, Except.bind]
  | ok first =>
      cases items.mapM operation with
      | error fault => simp [bind, Except.bind]
      | ok rest => simp [bind, Except.bind, pure, Except.pure, eq_comm]

/-- Operations that all succeed, one after another, by induction on them. -/
theorem exists_mapM_eq_ok_iff
    : (∃ results, items.mapM operation = .ok results)
      ↔ ∀ item ∈ items, ∃ result, operation item = .ok result := by
  induction items with
  | nil => simp [pure, Except.pure]
  | cons item rest ih =>
      rw [List.forall_mem_cons, ← ih]
      constructor
      · rintro ⟨results, h⟩
        obtain ⟨first, more, hfirst, hmore, -⟩ := mapM_cons_eq_ok_iff.1 h
        exact ⟨⟨first, hfirst⟩, more, hmore⟩
      · rintro ⟨⟨first, hfirst⟩, more, hmore⟩
        exact ⟨first :: more, mapM_cons_eq_ok_iff.2 ⟨first, more, hfirst, hmore, rfl⟩⟩

theorem mem_of_mapM_eq_ok (h : items.mapM operation = .ok results) {result : β}
    : result ∈ results ↔ ∃ item ∈ items, operation item = .ok result := by
  induction items generalizing results with
  | nil =>
      obtain rfl : [] = results := Except.ok.inj h
      simp
  | cons item rest ih =>
      obtain ⟨first, more, hfirst, hmore, rfl⟩ := mapM_cons_eq_ok_iff.1 h
      rw [List.mem_cons, ih hmore, List.exists_mem_cons_iff, hfirst, Except.ok.injEq,
        eq_comm (a := first)]

end Operations

-----------------------------------------------------------------------------------------
-- The keys of an attribute
-----------------------------------------------------------------------------------------

/-- The parts of constraints that are looked up. -/
def Key.parts (constraints : List Text) : List Text :=
  constraints.flatMap fun token => (token.splitOn ',').filter fun part => !part.isEmpty

theorem Key.ofConstraints_eq (constraints : List Text)
    : ofConstraints constraints = (parts constraints).mapM ofPart :=
  rfl

theorem Key.mem_parts_iff {constraints : List Text} {part : Text}
    : part ∈ parts constraints ↔ ∃ token ∈ constraints, part ∈ token.splitOn ',' ∧ part ≠ [] := by
  simp [parts]

/-- A key stands in a constraint that is spelled out exactly when it is looked up there: its letters
lie between two commas, where nothing else can stand beside them. -/
theorem Key.occursIn_iff {token : Text} (h : isConstraintToken token = true)
    (hs : IsSpelledOut token) (key : Key)
    : key.OccursIn token ↔ ∃ part ∈ token.splitOn ',', part ≠ [] ∧ ofPart part = .ok key := by
  have hchars := mem_keyChars_of_isConstraintToken h
  have htoken : joinWith [','] (token.splitOn ',') = token := List.intercalate_splitOn _
  simp only [ofPart_eq_ok_iff]
  constructor
  · rintro ⟨letters, hstands, hlower⟩
    have hletters : ∀ c ∈ letters, c ∈ keyChars := fun c hc => hchars c (hstands.subset hc)
    have hlength : letters.length = 2 := by
      rw [← length_lower hletters, hlower, key.length_name.2]
    have hne : letters ≠ [] := by
      intro hnil
      rw [hnil] at hlength
      exact absurd hlength (by decide)
    have hcomma : ',' ∉ letters := by
      intro hm
      have hname : ',' ∈ lower key.name := hlower ▸ List.mem_flatMap.2 ⟨',', hm, by decide⟩
      revert hname
      cases key <;> decide
    rw [← htoken] at hstands
    obtain ⟨part, hpart, hinside⟩ := exists_infix_of_joinWith hne hcomma hstands
    obtain ⟨htwo, hkelvin⟩ := hs part hpart
    obtain rfl : letters = part := hinside.eq_of_length_le (hlength ▸ htwo)
    exact ⟨letters, hpart, hne, (key.upper_eq_name_iff hletters).2 ⟨hlower, hkelvin⟩⟩
  · rintro ⟨part, hpart, -, hupper⟩
    have hstands : part <:+: token := htoken ▸ infix_joinWith [','] hpart
    have hletters : ∀ c ∈ part, c ∈ keyChars := fun c hc => hchars c (hstands.subset hc)
    exact ⟨part, hstands, ((key.upper_eq_name_iff hletters).1 hupper).1⟩

/-- The keys of constraints are all found exactly when every constraint is spelled out. -/
theorem Key.exists_ofConstraints_iff {constraints : List Text}
    (h : ∀ token ∈ constraints, isConstraintToken token = true)
    : (∃ found, ofConstraints constraints = .ok found)
      ↔ ∀ token ∈ constraints, IsSpelledOut token := by
  rw [ofConstraints_eq, exists_mapM_eq_ok_iff]
  constructor
  · intro hfound token ht part hpart
    by_cases hne : part = []
    · simp [hne]
    · have hkeys := isKeyString_of_isConstraintToken (h token ht) part hpart
      exact (hkeys.exists_ofPart_iff hne).1 (hfound part (mem_parts_iff.2 ⟨token, ht, hpart, hne⟩))
  · intro hspelled part hpart
    obtain ⟨token, ht, hpart, hne⟩ := mem_parts_iff.1 hpart
    have hkeys := isKeyString_of_isConstraintToken (h token ht) part hpart
    exact (hkeys.exists_ofPart_iff hne).2 (hspelled token ht part hpart)

theorem Field.exists_keys_iff {field : Field}
    : (∃ found, field.keys = .ok found)
      ↔ ∃ found, Key.ofConstraints field.constraints = .ok found := by
  rw [Field.keys]
  cases Key.ofConstraints field.constraints with
  | error word => simp [Except.map]
  | ok found => simp [Except.map]

theorem Field.mem_keys_iff {field : Field} {found : List Key} (h : field.keys = .ok found)
    {key : Key}
    : key ∈ found ↔ ∃ part ∈ Key.parts field.constraints, Key.ofPart part = .ok key := by
  rw [Field.keys] at h
  cases hkeys : Key.ofConstraints field.constraints with
  | error word => simp [hkeys, Except.map] at h
  | ok keys =>
      rw [hkeys] at h
      obtain rfl := Except.ok.inj h
      rw [List.mem_filter, List.contains_iff_mem, and_iff_right key.mem_all]
      exact mem_of_mapM_eq_ok hkeys

/-- The keys of an attribute that is read from a line can be told exactly when commas part all keys
of its constraints and none is spelled with a Kelvin sign, and then they are the keys that stand in
the constraints. -/
theorem keys_exact {line : Text} {fields : List Field} (h : fields? line = some fields)
    {field : Field} (hf : field ∈ fields)
    : ((∃ found, field.keys = .ok found) ↔ ∀ token ∈ field.constraints, IsSpelledOut token)
      ∧ ∀ found,
          field.keys = .ok found
          → ∀ key, key ∈ found ↔ ∃ token ∈ field.constraints, key.OccursIn token := by
  obtain ⟨-, hsegmentation⟩ := fields?_eq_some_iff.1 h
  have hconstraints := (hsegmentation.reads field hf).constraints
  have hiff := Field.exists_keys_iff.trans (Key.exists_ofConstraints_iff hconstraints)
  refine ⟨hiff, fun found hfound key => ?_⟩
  have hspelled := hiff.1 ⟨found, hfound⟩
  have htoken : ∀ token ∈ field.constraints,
      (key.OccursIn token
        ↔ ∃ part ∈ token.splitOn ',', part ≠ [] ∧ Key.ofPart part = .ok key) :=
    fun token ht => key.occursIn_iff (hconstraints token ht) (hspelled token ht)
  rw [Field.mem_keys_iff hfound]
  simp only [Key.mem_parts_iff]
  constructor
  · rintro ⟨part, ⟨token, ht, hpart, hne⟩, hkey⟩
    exact ⟨token, ht, (htoken token ht).2 ⟨part, hpart, hne, hkey⟩⟩
  · rintro ⟨token, ht, hoccurs⟩
    obtain ⟨part, hpart, hne, hkey⟩ := (htoken token ht).1 hoccurs
    exact ⟨part, ⟨token, ht, hpart, hne⟩, hkey⟩

/-- Three constraints with keys in both cases, one of them a comma and one with commas around. -/
theorem keys_exact_commas
    : let line := "int id pk,Fk , ,PK,".toList
      let field : Field :=
        ⟨some "int".toList, "id".toList, ["pk,Fk".toList, ",".toList, ",PK,".toList], none⟩
      fields? line = some [field]
      ∧ field ∈ [field]
      ∧ ((∃ found, field.keys = .ok found) ↔ ∀ token ∈ field.constraints, IsSpelledOut token)
      ∧ ∀ found,
          field.keys = .ok found
          → ∀ key, key ∈ found ↔ ∃ token ∈ field.constraints, key.OccursIn token :=
  have h
      : fields? "int id pk,Fk , ,PK,".toList
        = some
            [⟨some "int".toList, "id".toList, ["pk,Fk".toList, ",".toList, ",PK,".toList],
              none⟩] := by
    decide +kernel
  ⟨h, List.mem_singleton_self _, keys_exact h (List.mem_singleton_self _)⟩

/-- Keys with no comma between them make one constraint, and so does a key with a Kelvin sign for
its K, but neither is the name of a key. -/
theorem keys_eq_error_of_joined_or_kelvin
    : let joined : Field := ⟨some "int".toList, "id".toList, ["PKFK".toList], none⟩
      let kelvin : Field := ⟨some "int".toList, "id".toList, ["P\u212a".toList], none⟩
      (fields? "int id PKFK".toList = some [joined] ∧ joined.keys = .error "PKFK".toList)
      ∧ fields? "int id P\u212a".toList = some [kelvin]
      ∧ kelvin.keys = .error "P\u212a".toList := by
  decide +kernel

end DiagramRepair.Attribute

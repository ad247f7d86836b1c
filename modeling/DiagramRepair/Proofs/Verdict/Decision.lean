import DiagramRepair.Proofs.Verdict.Resolution

/-! The decision on a text. What may be wrong with it is looked for gate by gate, and the first gate
that it fails gives the kind of the rejection. A rejected text is left alone and nothing is written
to the log; an accepted one is repaired, and the log records each repair in turn.
-/

namespace DiagramRepair

open Text

-----------------------------------------------------------------------------------------
-- Expected types
-----------------------------------------------------------------------------------------

/-- An expectation allows the type that it names, and the two names of flowcharts stand for each
other. -/
inductive Allows : Text → DiagramType → Prop
  | named (type : DiagramType) : Allows type.name type
  | flowchart : Allows DiagramType.graph.name .flowchart
  | graph : Allows DiagramType.flowchart.name .graph

theorem DiagramType.mem_supported_iff {type : DiagramType}
    : type ∈ supported ↔ type.isSupported = true := by
  cases type <;> simp [supported, isSupported]

/-- For supported types, by cases on the type. -/
theorem DiagramType.meets_iff {expected : Text} {type : DiagramType}
    (h : type.isSupported = true)
    : type.meets expected = true ↔ Allows expected type := by
  constructor
  · intro hmeets
    rw [meets] at hmeets
    split at hmeets
    · rename_i hname
      simp only [List.map_cons, List.map_nil, List.contains_iff_mem, List.mem_cons,
        List.not_mem_nil, or_false] at hname hmeets
      rcases hname with rfl | rfl <;> rcases hmeets with rfl | rfl
      · exact .named .flowchart
      · exact .graph
      · exact .flowchart
      · exact .named .graph
    · rw [beq_iff_eq] at hmeets
      exact hmeets ▸ .named type
  · intro hallows
    cases hallows with
    | named =>
        cases type with
        | disabled name => cases h
        | _ => decide
    | flowchart => decide
    | graph => decide

-----------------------------------------------------------------------------------------
-- Gates
-----------------------------------------------------------------------------------------

/-- What is wrong with a text, for each kind of error. -/
inductive Fails (expected : Option Text) (text : Text) : ErrorKind → Prop
  | emptyInput (blank : isAllBlank text = true) : Fails expected text .emptyInput
  | unsupportedType {type : DiagramType}
      (declared : declaredType? (lines text) = some type)
      (disabled : type ∉ DiagramType.supported)
    : Fails expected text .unsupportedType
  | unknownType (undeclared : declaredType? (lines text) = none) : Fails expected text .unknownType
  | typeMismatch {type : DiagramType} {name : Text}
      (declared : declaredType? (lines text) = some type)
      (expects : expected = some name)
      (differs : ¬Allows name type)
    : Fails expected text .typeMismatch
  | structural {bracket : Bracket}
      (unbalanced
        : (countedText text).count bracket.opener ≠ (countedText text).count bracket.closer)
    : Fails expected text .structural

/-- The place of an error among the gates. A type is either unknown or disabled, so these two are
found at one gate. -/
def ErrorKind.gate : ErrorKind → Nat
  | .emptyInput => 0
  | .unknownType => 1
  | .unsupportedType => 1
  | .typeMismatch => 2
  | .structural => 3

/-- The text fails at the gate of this kind and at none in front of it. -/
structure FailsFirst (expected : Option Text) (text : Text) (kind : ErrorKind) : Prop where
  fails : Fails expected text kind
  first : ∀ other, Fails expected text other → kind.gate ≤ other.gate

section Gates

variable {expected : Option Text} {text : Text} {type : DiagramType} {kind other : ErrorKind}

theorem ErrorKind.eq_of_gate_eq (h : kind.gate = other.gate)
    : kind = other
      ∨ (kind = .unknownType ∧ other = .unsupportedType)
      ∨ (kind = .unsupportedType ∧ other = .unknownType) := by
  cases kind <;> cases other <;> simp_all [gate]

/-- A type that is disabled is not unknown. -/
theorem Fails.not_unsupported_of_unknown (h : Fails expected text .unknownType)
    : ¬Fails expected text .unsupportedType := by
  cases h with
  | unknownType undeclared =>
      intro hdisabled
      cases hdisabled with
      | unsupportedType declared => simp [declared] at undeclared

/-- A text fails first at one gate, and for one of its reasons only. -/
theorem FailsFirst.unique (hf : FailsFirst expected text kind)
    (hs : FailsFirst expected text other)
    : kind = other := by
  have hgate : kind.gate = other.gate :=
    Nat.le_antisymm (hf.first other hs.fails) (hs.first kind hf.fails)
  rcases ErrorKind.eq_of_gate_eq hgate with rfl | ⟨rfl, rfl⟩ | ⟨rfl, rfl⟩
  · rfl
  · exact absurd hs.fails hf.fails.not_unsupported_of_unknown
  · exact absurd hf.fails hs.fails.not_unsupported_of_unknown

/-- What is found wrong behind the first gate. -/
theorem Fails.one_le_gate (h : Fails expected text kind) (hb : isAllBlank text = false)
    : 1 ≤ kind.gate := by
  cases h with
  | emptyInput blank => simp [hb] at blank
  | _ => decide

/-- What is found wrong with a text that declares a supported type. -/
theorem Fails.two_le_gate (h : Fails expected text kind)
    (ht : declaredType? (lines text) = some type) (hs : type.isSupported = true)
    : 2 ≤ kind.gate := by
  cases h with
  | emptyInput blank => simp [isAllBlank_of_declaredType? ht] at blank
  | unknownType undeclared => simp [ht] at undeclared
  | unsupportedType declared disabled =>
      obtain rfl := Option.some.inj (ht.symm.trans declared)
      exact absurd (DiagramType.mem_supported_iff.2 hs) disabled
  | _ => decide

/-- What is found wrong with a text of the type that is asked for. -/
theorem Fails.three_le_gate (h : Fails expected text kind)
    (ht : declaredType? (lines text) = some type) (hs : type.isSupported = true)
    (he : ∀ name ∈ expected, Allows name type)
    : 3 ≤ kind.gate := by
  have htwo := h.two_le_gate ht hs
  cases h with
  | typeMismatch declared expects differs =>
      obtain rfl := Option.some.inj (ht.symm.trans declared)
      exact absurd (he _ expects) differs
  | structural => decide
  | _ => simp [ErrorKind.gate] at htwo

/-- The expectation is met exactly when no name that is asked for is missed. -/
theorem filter_meets_eq_none_iff (hs : type.isSupported = true)
    : expected.filter (fun name => !type.meets name) = none
      ↔ ∀ name ∈ expected, Allows name type := by
  simp only [Option.filter_eq_none_iff, Bool.not_eq_true', Bool.not_eq_false, Option.mem_def,
    DiagramType.meets_iff hs]

theorem Accepts.not_fails (h : Accepts expected text type) (kind : ErrorKind)
    : ¬Fails expected text kind := by
  intro hfails
  have hexpected := (filter_meets_eq_none_iff h.supported).1 h.expected
  have hgate := hfails.three_le_gate h.declared h.supported hexpected
  cases hfails with
  | structural unbalanced => exact unbalanced (imbalances_eq_nil_iff.1 h.balanced _)
  | _ => simp [ErrorKind.gate] at hgate

/-- A text is accepted, or it is rejected for the first gate that it fails, by cases on the gates
in order. -/
theorem accepts_or_failsFirst (expected : Option Text) (text : Text)
    : (∃ type, Accepts expected text type)
      ∨ ∃ reason, validate expected text = .rejected reason
          ∧ FailsFirst expected text reason.kind := by
  unfold validate
  rcases hblank : isAllBlank text with _ | _
  case true => exact Or.inr ⟨.empty, rfl, .emptyInput hblank, fun _ _ => Nat.zero_le _⟩
  rcases htype : declaredType? (lines text) with _ | type
  case none =>
    exact Or.inr ⟨.unknownType (firstWords text), rfl, .unknownType htype,
      fun other hother => hother.one_le_gate hblank⟩
  rcases hsupported : type.isSupported with _ | _
  case false =>
    have hdisabled : type ∉ DiagramType.supported := by
      simp [DiagramType.mem_supported_iff, hsupported]
    exact Or.inr ⟨.disabledType type, by simp [hsupported], .unsupportedType htype hdisabled,
      fun other hother => hother.one_le_gate hblank⟩
  rcases hexpected : expected.filter fun name => !type.meets name with _ | name
  case some =>
    obtain ⟨hname, hdiffers⟩ := Option.filter_eq_some_iff.1 hexpected
    have hallows : ¬Allows name type := by
      simpa [← DiagramType.meets_iff hsupported] using hdiffers
    exact Or.inr ⟨.typeMismatch name type, by simp [hsupported, hexpected],
      .typeMismatch htype hname hallows, fun other hother => hother.two_le_gate htype hsupported⟩
  rcases hbalance : imbalances text with _ | ⟨found, more⟩
  case nil => exact Or.inl ⟨type, htype, hsupported, hexpected, hbalance⟩
  have hmet := (filter_meets_eq_none_iff hsupported).1 hexpected
  have hfound : imbalances text ≠ [] := by simp [hbalance]
  rw [ne_eq, imbalances_eq_nil_iff, not_forall] at hfound
  obtain ⟨bracket, hbracket⟩ := hfound
  exact Or.inr ⟨.unbalanced type (found :: more), by simp [hsupported, hexpected],
    .structural hbracket, fun other hother => hother.three_le_gate htype hsupported hmet⟩

/-- The kind of a rejection is the first gate that fails, by uniqueness of that gate. -/
theorem rejection?_kind_iff
    : (validate expected text).rejection?.map Rejection.kind = some kind
      ↔ FailsFirst expected text kind := by
  rcases accepts_or_failsFirst expected text with ⟨type, haccepts⟩ | ⟨reason, hreason, hfirst⟩
  · rw [haccepts.validate]
    exact iff_of_false (by simp [Verdict.rejection?]) fun h => haccepts.not_fails kind h.fails
  · rw [hreason, Verdict.rejection?, Option.map_some, Option.some_inj]
    exact ⟨fun h => h ▸ hfirst, fun h => hfirst.unique h⟩

/-- A diagram is accepted with the type that its header declares. -/
theorem accepts_iff
    : Accepts expected text type
      ↔ (∃ header declaration,
          header? (lines text) = some header
          ∧ Declaration.ofLine? header = some declaration
          ∧ declaration.type = type)
        ∧ type ∈ DiagramType.supported
        ∧ (∀ name ∈ expected, Allows name type)
        ∧ ∀ bracket : Bracket,
            (countedText text).count bracket.opener = (countedText text).count bracket.closer := by
  have hdeclared : declaredType? (lines text) = some type
      ↔ ∃ header declaration,
          header? (lines text) = some header
          ∧ Declaration.ofLine? header = some declaration
          ∧ declaration.type = type := by
    simp only [declaredType?, Option.map_eq_some_iff, Option.bind_eq_some_iff]
    constructor
    · rintro ⟨declaration, ⟨header, hheader, hline⟩, htype⟩
      exact ⟨header, declaration, hheader, hline, htype⟩
    · rintro ⟨header, declaration, hheader, hline, htype⟩
      exact ⟨declaration, ⟨header, hheader, hline⟩, htype⟩
  rw [← hdeclared, ← imbalances_eq_nil_iff, DiagramType.mem_supported_iff]
  constructor
  · intro h
    exact ⟨h.declared, h.supported, (filter_meets_eq_none_iff h.supported).1 h.expected, h.balanced⟩
  · rintro ⟨hdeclares, hsupported, hexpected, hbalanced⟩
    exact ⟨hdeclares, hsupported, (filter_meets_eq_none_iff hsupported).2 hexpected, hbalanced⟩

end Gates

-----------------------------------------------------------------------------------------
-- The log
-----------------------------------------------------------------------------------------

/-- A judgement with a log at hand, to which any step may add lines. -/
abbrev Logged := StateM (List Text)

namespace Logged

/-- Adds a line to the log for each of some repairs. -/
def emit (repairs : List Repair) : Logged Unit :=
  repairs.forM fun repair => modify (· ++ [repair.notice])

/-- Repairs a text and records the repairs in the order of their lines. -/
def repair (text : Text) : Logged RepairedText := do
  let lines := Text.lines text
  if (declaredType? lines).any DiagramType.isSupported then
    let result := repairLines (isErDiagram lines) (SourceLine.ofTexts lines)
    let repairs := result.repairs.mergeSort fun first second => first.line ≤ second.line
    emit repairs
    return { text := Text.joinLines (SourceLine.texts result.lines), repairs }
  else return ⟨text, []⟩

/-- Judges a text, which is repaired once it has passed all gates. -/
def validate (expected : Option Text) (text : Text) : Logged Verdict := do
  if Text.isAllBlank text then return .rejected .empty
  else
    match declaredType? (Text.lines text) with
    | none => return .rejected (.unknownType (firstWords text))
    | some type =>
        if !type.isSupported then return .rejected (.disabledType type)
        else
          match expected.filter fun name => !type.meets name with
          | some name => return .rejected (.typeMismatch name type)
          | none =>
              match imbalances text with
              | [] =>
                  let repaired ← repair text
                  return .accepted {
                    type
                    repaired
                    isBare := !(classify (Text.lines text)).any Line.isContent
                    corrected := if repaired.text = text then none else some repaired.text
                  }
              | found => return .rejected (.unbalanced type found)

/-- The action comes to this result, and adds these lines to the log whatever stands there. -/
def Writes {α : Type} (action : Logged α) (result : α) (added : List Text) : Prop :=
  ∀ log, action.run log = (result, log ++ added)

variable {α β : Type}

theorem Writes.pure (result : α) : Writes (Pure.pure result) result [] := by
  intro log
  rw [List.append_nil]
  rfl

theorem Writes.bind {action : Logged α} {next : α → Logged β} {found : α} {result : β}
    {first second : List Text} (ha : Writes action found first)
    (hn : Writes (next found) result second)
    : Writes (action >>= next) result (first ++ second) := by
  intro log
  simp only [StateT.run_bind, ha log, ← List.append_assoc]
  exact hn (log ++ first)

/-- What is made of a result adds no lines of its own. -/
theorem Writes.bind_pure {action : Logged α} {found : α} {added : List Text}
    (h : Writes action found added) (result : α → β)
    : Writes (action >>= fun found => Pure.pure (result found)) (result found) added := by
  intro log
  simp only [StateT.run_bind, h log]
  rfl

/-- Every repair is recorded, by induction on the repairs. -/
theorem writes_emit (repairs : List Repair)
    : Writes (emit repairs) () (repairs.map Repair.notice) := by
  induction repairs with
  | nil => exact .pure ()
  | cons first rest ih =>
      have hfirst : Writes (modify (· ++ [first.notice])) () [first.notice] := fun _ => rfl
      exact hfirst.bind ih

theorem writes_repair (text : Text)
    : Writes (repair text) (DiagramRepair.repair text) (DiagramRepair.repair text).log := by
  unfold repair DiagramRepair.repair
  dsimp only
  split
  · exact (writes_emit _).bind_pure _
  · exact .pure _

/-- Only an accepted text writes to the log, by cases on the gates in order. -/
theorem writes_validate (expected : Option Text) (text : Text)
    : Writes (validate expected text) (DiagramRepair.validate expected text)
        (DiagramRepair.validate expected text).log := by
  unfold validate DiagramRepair.validate
  cases isAllBlank text
  case true => exact .pure _
  rcases declaredType? (lines text) with _ | type
  case none => exact .pure _
  dsimp only
  cases type.isSupported
  case false => exact .pure _
  rcases expected.filter fun name => !type.meets name with _ | name
  case some => exact .pure _
  rcases imbalances text with _ | ⟨found, more⟩
  case cons => exact .pure _
  exact (writes_repair text).bind_pure _

end Logged

-----------------------------------------------------------------------------------------
-- The decision
-----------------------------------------------------------------------------------------

/-- A line that adds nothing to a declaration: a comment, a blank, or a declaration that is followed
by no statement. -/
inductive Line.IsBare (line : Line) : Prop
  | comment (kind : line.kind = .comment)
  | blank (kind : line.kind = .blank)
  | declaration {declaration : Declaration}
      (kind : line.kind = .declaration)
      (declares : Declaration.ofLine? line.text = some declaration)
      (bodiless : declaration.body = [])

theorem Line.isContent_eq_false_iff {texts : List Text} {line : Line} (h : line ∈ classify texts)
    : line.isContent = false ↔ line.IsBare := by
  obtain ⟨inside, hline⟩ := exists_kind_of_mem_classifyFrom h
  constructor
  · intro hcontent
    rw [Line.isContent] at hcontent
    split at hcontent
    · rename_i hkind
      cases LineKind.isOf (hline.symm.trans hkind) with
      | declaration outside declares =>
          obtain ⟨declaration, hdeclares⟩ := Option.isSome_iff_exists.1 declares
          rw [hdeclares] at hcontent
          exact .declaration hkind hdeclares (by simpa using hcontent)
    · rename_i hkind
      exact .comment hkind
    · rename_i hkind
      exact .blank hkind
    · contradiction
  · intro hbare
    cases hbare with
    | comment kind => simp [Line.isContent, kind]
    | blank kind => simp [Line.isContent, kind]
    | declaration kind declares bodiless => simp [Line.isContent, kind, declares, bodiless]

/-- What a verdict on a text says. -/
structure Decides (expected : Option Text) (text : Text) (verdict : Verdict) : Prop where
  /-- Valid are the balanced texts whose header declares a supported type that is allowed. -/
  valid
    : verdict.isValid = true
      ↔ ∃ header declaration,
          header? (lines text) = some header
          ∧ Declaration.ofLine? header = some declaration
          ∧ declaration.type ∈ DiagramType.supported
          ∧ (∀ name ∈ expected, Allows name declaration.type)
          ∧ ∀ bracket : Bracket,
              (countedText text).count bracket.opener = (countedText text).count bracket.closer
  kind
    : ∀ kind,
        verdict.rejection?.map Rejection.kind = some kind ↔ FailsFirst expected text kind
  /-- What is rejected has a first gate that fails, and is left alone. -/
  rejected
    : verdict.isValid = false
      → (∃ kind, verdict.rejection?.map Rejection.kind = some kind)
        ∧ verdict.warnings = []
        ∧ verdict.repairs = []
        ∧ verdict.corrected? = none
        ∧ verdict.resolve text = text
        ∧ verdict.log = []
  /-- What is accepted comes with its repairs, those of interest to users as warnings. -/
  accepted
    : verdict.isValid = true
      → verdict.repairs = (repair text).repairs
        ∧ verdict.log = verdict.repairs.map Repair.notice
        ∧ ∃ bare,
            verdict.warnings
              = (verdict.repairs.filter fun made => made.kind.isUserFacing).map Repair.notice
                ++ bare
            ∧ (bare = [] ∨ bare = [Verdict.bareWarning])
            ∧ (bare = [Verdict.bareWarning] ↔ ∀ line ∈ classify (lines text), line.IsBare)
  logged : Logged.Writes (Logged.validate expected text) verdict verdict.log

/-- The warning of a bare diagram is given when no line of it is content. -/
theorem Acceptance.isBare_iff (type : DiagramType) (text : Text)
    : (Acceptance.ofText type text).isBare = true
      ↔ ∀ line ∈ classify (lines text), line.IsBare := by
  simp only [Acceptance.ofText, Bool.not_eq_true', List.any_eq_false, Bool.not_eq_true]
  exact forall₂_congr fun line hm => Line.isContent_eq_false_iff hm

/-- Every text gets the verdict that its first failing gate asks for, and else its repairs; the log
holds these repairs and nothing else. -/
theorem validate_decides (expected : Option Text) (text : Text)
    : Decides expected text (validate expected text) where
  valid := by
    simp only [isValid_validate_iff, accepts_iff]
    constructor
    · rintro ⟨type, ⟨header, declaration, hheader, hline, rfl⟩, hrest⟩
      exact ⟨header, declaration, hheader, hline, hrest⟩
    · rintro ⟨header, declaration, hheader, hline, hrest⟩
      exact ⟨declaration.type, ⟨header, declaration, hheader, hline, rfl⟩, hrest⟩
  kind _ := rejection?_kind_iff
  rejected := by
    intro hvalid
    cases hverdict : validate expected text with
    | rejected reason => exact ⟨⟨reason.kind, rfl⟩, rfl, rfl, rfl, rfl, rfl⟩
    | accepted acceptance =>
        rw [hverdict] at hvalid
        cases hvalid
  accepted := by
    intro hvalid
    obtain ⟨type, haccepts⟩ := isValid_validate_iff.1 hvalid
    have hbare := Acceptance.isBare_iff type text
    rw [haccepts.validate]
    refine ⟨rfl, rfl, if (Acceptance.ofText type text).isBare then [Verdict.bareWarning] else [],
      rfl, ?_, ?_⟩
    · split
      · exact Or.inr rfl
      · exact Or.inl rfl
    · rw [← hbare]
      simp
  logged := Logged.writes_validate expected text

end DiagramRepair

import DiagramRepair.Proofs.Attribute.Rendering
import DiagramRepair.Repair.Passes

/-! Attributes read token by token. A machine with two phases keeps the attribute that is being read
and those that are finished; where it would need what is not there, it stops with a fault. It
comes to the attributes that are read one after another, so no line leads to a fault.
-/

namespace DiagramRepair

/-- What an operation that is not defined everywhere can be short of. -/
inductive Fault where
  | noPending
  | noName
  | noDefaulted
  | noDeclaration
  | noRelationship
  | noEntityName

/-- What an operation gives, or the fault that it gives nothing. -/
def Fault.ifNone {result : Type} (fault : Fault) : Option result → Except Fault result
  | some found => .ok found
  | none => .error fault

namespace Attribute

-----------------------------------------------------------------------------------------
-- The machine
-----------------------------------------------------------------------------------------

/-- An attribute in the course of reading, which has a type or a name or both. -/
structure Pending where
  ownType : Option Text
  name : Option Text
  constraints : List Text
  comment : Option Text

namespace Pending

/-- The attribute that a word opens, by its type or by its name. -/
def opened (token : Text) (following : Option Text) : Pending :=
  if takesTypeSlot token following then ⟨some token, none, [], none⟩
  else ⟨none, some token, [], none⟩

/-- The finished attribute, if it has a name. -/
def build? (pending : Pending) : Option Field :=
  pending.name.map fun name => ⟨pending.ownType, name, pending.constraints, pending.comment⟩

end Pending

inductive Phase where
  | expecting
  | accumulating

structure State where
  phase : Phase
  pending : Option Pending
  fields : List Field

namespace State

/-- The finished attributes with one more, which must have a name. -/
def finish (fields : List Field) (pending : Pending) : Except Fault (List Field) :=
  (Fault.noName.ifNone pending.build?).map fun field => fields ++ [field]

/-- Reads a token with the next one in sight. There is no state behind a token that belongs to no
attribute. -/
def step (state : State) (token : Text) (following : Option Text)
    : Except Fault (Option State) :=
  match state.phase with
  | .expecting =>
      if isWordToken token then
        .ok (some ⟨.accumulating, some (.opened token following), state.fields⟩)
      else .ok none
  | .accumulating =>
      match state.pending with
      | none => .error .noPending
      | some pending =>
          if pending.name.isNone then
            if isWordToken token then
              .ok (some { state with pending := some { pending with name := some token } })
            else .ok none
          else if isConstraintToken token then
            let constraints := pending.constraints ++ [token]
            .ok (some { state with pending := some { pending with constraints } })
          else if isCommentToken token then
            (finish state.fields { pending with comment := some token }).map fun fields =>
              some ⟨.expecting, none, fields⟩
          else
            (finish state.fields pending).map fun fields =>
              some ⟨.accumulating, some (.opened token following), fields⟩

/-- The attributes when no token is left; a type without a name is none. -/
def close? (state : State) : Option (List Field) :=
  match state.pending with
  | none => some state.fields
  | some pending => pending.build?.map fun field => state.fields ++ [field]

def run (state : State) : List Text → Except Fault (Option (List Field))
  | [] => .ok state.close?
  | token :: rest =>
      match state.step token rest.head? with
      | .error fault => .error fault
      | .ok none => .ok none
      | .ok (some next) => run next rest

def initial : State :=
  ⟨.expecting, none, []⟩

-----------------------------------------------------------------------------------------
-- What a state stands for
-----------------------------------------------------------------------------------------

/-- The states that are reached: an attribute is pending while attributes are accumulated, and it
has a name, or else a type only. -/
inductive IsReached : State → Prop
  | expecting (fields : List Field) : IsReached ⟨.expecting, none, fields⟩
  | typed (ownType : Text) (fields : List Field)
    : IsReached ⟨.accumulating, some ⟨some ownType, none, [], none⟩, fields⟩
  | named (ownType : Option Text) (name : Text) (constraints : List Text) (fields : List Field)
    : IsReached ⟨.accumulating, some ⟨ownType, some name, constraints, none⟩, fields⟩

end State

/-- Attributes read off tokens behind an attribute whose type and name are read already. -/
def finishFields? (ownType : Option Text) (name : Text) (constraints : List Text)
    (tokens : List Text)
    : Option (List Field) :=
  let found := finishField ownType name tokens
  (fieldsOfTokens? found.2).map
    ({ found.1 with constraints := constraints ++ found.1.constraints } :: ·)

/-- The attributes that a state leads to by the tokens behind it. -/
def State.fieldsFrom? (state : State) (tokens : List Text) : Option (List Field) :=
  (match state.pending with
    | none => fieldsOfTokens? tokens
    | some ⟨ownType, some name, constraints, _⟩ =>
        finishFields? ownType name constraints tokens
    | some ⟨ownType, none, _, _⟩ =>
        match tokens with
        | [] => none
        | name :: rest =>
            if isWordToken name then finishFields? ownType name [] rest else none).map
    (state.fields ++ ·)

theorem readField?_cons (token : Text) (rest : List Text)
    : readField? (token :: rest)
      = if !isWordToken token then none
        else if takesTypeSlot token rest.head? then
          match rest with
          | name :: behind =>
              if isWordToken name then some (finishField (some token) name behind) else none
          | [] => none
        else some (finishField none token rest) :=
  readField?.eq_def (token :: rest)

theorem fieldsOfTokens?_cons (token : Text) (rest : List Text)
    : fieldsOfTokens? (token :: rest)
      = (readField? (token :: rest)).bind fun found =>
          (fieldsOfTokens? found.2).map (found.1 :: ·) := by
  rw [fieldsOfTokens?]
  split
  · rename_i hread
    rw [hread, Option.bind_none]
  · rename_i field behind hread
    rw [hread, Option.bind_some]

theorem finishFields?_nil (ownType : Option Text) (name : Text) (constraints : List Text)
    : finishFields? ownType name constraints [] = some [⟨ownType, name, constraints, none⟩] := by
  simp [finishFields?, finishField, fieldsOfTokens?]

theorem finishFields?_constraint {token : Text} (h : isConstraintToken token = true)
    (ownType : Option Text) (name : Text) (constraints rest : List Text)
    : finishFields? ownType name constraints (token :: rest)
      = finishFields? ownType name (constraints ++ [token]) rest := by
  have htake : (token :: rest).takeWhile isConstraintToken
      = token :: rest.takeWhile isConstraintToken :=
    List.takeWhile_cons_of_pos h
  have hdrop : (token :: rest).dropWhile isConstraintToken = rest.dropWhile isConstraintToken :=
    List.dropWhile_cons_of_pos h
  simp only [finishFields?, finishField, htake, hdrop]
  split
  · simp
  · split
    · simp
    · simp

theorem finishFields?_comment {token : Text} (h : isCommentToken token = true)
    (ownType : Option Text) (name : Text) (constraints rest : List Text)
    : finishFields? ownType name constraints (token :: rest)
      = (fieldsOfTokens? rest).map (⟨ownType, name, constraints, some token⟩ :: ·) := by
  have hconstraint := isConstraintToken_of_isCommentToken h
  simp [finishFields?, finishField, hconstraint, h]

theorem finishFields?_word {token : Text} (h : isWordToken token = true)
    (ownType : Option Text) (name : Text) (constraints rest : List Text)
    : finishFields? ownType name constraints (token :: rest)
      = (fieldsOfTokens? (token :: rest)).map (⟨ownType, name, constraints, none⟩ :: ·) := by
  simp only [isWordToken, Bool.and_eq_true, Bool.not_eq_true'] at h
  simp [finishFields?, finishField, h.1, h.2]

-----------------------------------------------------------------------------------------
-- Reading token by token
-----------------------------------------------------------------------------------------

namespace State

theorem isReached_opened (token : Text) (following : Option Text) (fields : List Field)
    : IsReached ⟨.accumulating, some (.opened token following), fields⟩ := by
  unfold Pending.opened
  split
  · exact .typed token fields
  · exact .named none token [] fields

/-- A word opens the attribute that is read off the tokens from it on. -/
theorem fieldsFrom?_opened {token : Text} (h : isWordToken token = true) (fields : List Field)
    (rest : List Text)
    : fieldsFrom? ⟨.accumulating, some (.opened token rest.head?), fields⟩ rest
      = (fieldsOfTokens? (token :: rest)).map (fields ++ ·) := by
  have hword : (!isWordToken token) = false := by rw [h]; rfl
  rw [fieldsOfTokens?_cons, readField?_cons, hword, if_neg Bool.false_ne_true, fieldsFrom?,
    Pending.opened]
  cases hslot : takesTypeSlot token rest.head? with
  | false => simp [finishFields?]
  | true =>
      cases rest with
      | nil => simp
      | cons name rest =>
          cases hname : isWordToken name with
          | false => simp [hname]
          | true => simp [hname, finishFields?]

theorem fieldsOfTokens?_of_not_word {token : Text} (h : isWordToken token = false)
    (rest : List Text)
    : fieldsOfTokens? (token :: rest) = none := by
  rw [fieldsOfTokens?_cons, readField?_cons, h]
  rfl

/-- A step from a state that is reached is no fault. It ends where no attribute can be read, or it
leads to a state that is reached and stands for the same attributes. By cases on the state. -/
theorem IsReached.step {state : State} (h : state.IsReached) (token : Text) (rest : List Text)
    : (state.step token rest.head? = .ok none ∧ state.fieldsFrom? (token :: rest) = none)
      ∨ ∃ next,
          state.step token rest.head? = .ok (some next)
          ∧ next.IsReached
          ∧ next.fieldsFrom? rest = state.fieldsFrom? (token :: rest) := by
  cases h with
  | expecting fields =>
      cases hword : isWordToken token with
      | false =>
          left
          refine ⟨by simp [State.step, hword], ?_⟩
          simp [fieldsFrom?, fieldsOfTokens?_of_not_word hword]
      | true =>
          right
          refine ⟨_, by simp only [State.step, hword, if_true],
            isReached_opened token rest.head? fields, ?_⟩
          exact fieldsFrom?_opened hword fields rest
  | typed ownType fields =>
      cases hword : isWordToken token with
      | false => exact Or.inl ⟨by simp [State.step, hword], by simp [fieldsFrom?, hword]⟩
      | true =>
          right
          refine ⟨_, by simp only [State.step, hword, Option.isNone_none, if_true],
            .named (some ownType) token [] fields, ?_⟩
          simp [fieldsFrom?, hword]
  | named ownType name constraints fields =>
      right
      cases hconstraint : isConstraintToken token with
      | true =>
          refine ⟨⟨.accumulating, some ⟨ownType, some name, constraints ++ [token], none⟩, fields⟩,
            by simp [State.step, hconstraint], .named _ _ _ _, ?_⟩
          simp only [fieldsFrom?, finishFields?_constraint hconstraint]
      | false =>
          cases hcomment : isCommentToken token with
          | true =>
              refine ⟨⟨.expecting, none, fields ++ [⟨ownType, name, constraints, some token⟩]⟩,
                by simp [State.step, hconstraint, hcomment, finish, Pending.build?, Fault.ifNone,
                  Except.map],
                .expecting _, ?_⟩
              simp [fieldsFrom?, finishFields?_comment hcomment, Function.comp_def]
          | false =>
              have hword : isWordToken token = true := by simp [isWordToken, hconstraint, hcomment]
              refine ⟨⟨.accumulating, some (.opened token rest.head?),
                  fields ++ [⟨ownType, name, constraints, none⟩]⟩,
                by simp [State.step, hconstraint, hcomment, finish, Pending.build?, Fault.ifNone,
                  Except.map],
                isReached_opened _ _ _, ?_⟩
              rw [fieldsFrom?_opened hword]
              simp [fieldsFrom?, finishFields?_word hword, Function.comp_def]

theorem IsReached.close? {state : State} (h : state.IsReached)
    : state.close? = state.fieldsFrom? [] := by
  cases h with
  | expecting fields => simp [State.close?, fieldsFrom?, fieldsOfTokens?]
  | typed ownType fields => simp [State.close?, fieldsFrom?, Pending.build?]
  | named ownType name constraints fields =>
      simp [State.close?, fieldsFrom?, Pending.build?, finishFields?_nil]

/-- A run from a state that is reached is no fault and comes to the attributes that the state stands
for, by induction on the tokens. -/
theorem IsReached.run {state : State} (h : state.IsReached) (tokens : List Text)
    : state.run tokens = .ok (state.fieldsFrom? tokens) := by
  induction tokens generalizing state with
  | nil => rw [State.run, h.close?]
  | cons token rest ih =>
      rw [State.run]
      rcases h.step token rest with ⟨hstep, hnone⟩ | ⟨next, hstep, hnext, hfields⟩
      · rw [hstep, hnone]
      · rw [hstep, ← hfields]
        exact ih hnext

theorem run_initial (tokens : List Text) : initial.run tokens = .ok (fieldsOfTokens? tokens) := by
  rw [initial, (IsReached.expecting []).run]
  simp [fieldsFrom?]

end State

-----------------------------------------------------------------------------------------
-- Lines
-----------------------------------------------------------------------------------------

/-- A line that is written as one attribute gains a type: with a type of its own, the attribute
would be written as the tokens that it was read from, and these would be well formed. -/
theorem isDefaulted_of_replacement? {line : Text} {field : Field}
    (h : replacement? line = some [field])
    : field.isDefaulted = true := by
  obtain ⟨hform, -, hflat, hread⟩ := replacement?_eq_some h
  rw [List.flatMap_singleton] at hflat
  cases hown : field.ownType with
  | none => simp [Field.isDefaulted, hown]
  | some token =>
      have hsame : field.sourceTokens = field.writtenTokens := by
        simp [Field.sourceTokens, Field.writtenTokens, Field.type, hown]
      rw [← hflat, hsame, (hread field List.mem_cons_self).isWellFormed] at hform
      cases hform

/-- The attributes to write in place of a line, read by the machine. A line stays if it is made up
of one attribute that would be written as it is. -/
def checkedReplacement (line : Text) : Except Fault (Option (List Field)) :=
  let found := tokens (Text.trim line)
  if found.isEmpty || isWellFormed found then .ok none
  else
    (State.initial.run found).map fun
      | some [only] =>
          if !only.isDefaulted && only.render == Text.joinWith [' '] found then none
          else some [only]
      | some [] => none
      | fields => fields

theorem replacement?_of_not_wellFormed {line : Text}
    (h : isWellFormed (tokens (Text.trim line)) = false)
    (hne : tokens (Text.trim line) ≠ [])
    : replacement? line = fieldsOfTokens? (tokens (Text.trim line)) := by
  obtain ⟨token, rest, htokens⟩ := List.exists_cons_of_ne_nil hne
  rw [replacement?, if_neg (by simp [h]), fields?, htokens]

/-- Checking the operations of the machine changes nothing of what is written. -/
theorem checkedReplacement_eq_ok (line : Text)
    : checkedReplacement line = .ok (replacement? line) := by
  unfold checkedReplacement
  dsimp only
  split
  · rename_i hstays
    rw [Bool.or_eq_true, List.isEmpty_iff] at hstays
    rcases hstays with hnil | hform
    · rw [replacement?, fields?, hnil]
      simp [isWellFormed]
    · rw [replacement?, if_pos hform]
  · rename_i hreads
    simp only [Bool.or_eq_true, List.isEmpty_iff, not_or, Bool.not_eq_true] at hreads
    have hreplacement := replacement?_of_not_wellFormed hreads.2 hreads.1
    rw [State.run_initial, ← hreplacement, Except.map]
    cases hfields : replacement? line with
    | none => rfl
    | some fields =>
        obtain ⟨-, hne, -⟩ := replacement?_eq_some hfields
        cases fields with
        | nil => exact absurd rfl hne
        | cons first others =>
            cases others with
            | nil => simp [isDefaulted_of_replacement? hfields]
            | cons second others => rfl

/-- What happened to an attribute line. One attribute is described by the first name that got the
default type, so there must be one. -/
def describe (fields : List Field) : Except Fault Fix :=
  let defaulted := (fields.filter Field.isDefaulted).map Field.name
  if fields.length > 1 then .ok (.attributesSplit fields.length defaulted)
  else
    (Fault.noDefaulted.ifNone defaulted.head?).map .attributeTyped

/-- All that is written in place of a line can be described. -/
theorem describe_of_replacement? {line : Text} {fields : List Field}
    (h : replacement? line = some fields)
    : describe fields = .ok (.ofFields fields) := by
  obtain ⟨-, hne, -⟩ := replacement?_eq_some h
  cases fields with
  | nil => exact absurd rfl hne
  | cons first others =>
      cases others with
      | nil =>
          simp [describe, isDefaulted_of_replacement? h, Fault.ifNone, Except.map, Fix.ofFields]
      | cons second others => simp [describe, Fix.ofFields]

end Attribute

end DiagramRepair

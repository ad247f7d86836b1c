import DiagramRepair.Proofs.Encoding.StandIn
import DiagramRepair.Proofs.Verdict.Checked
import DiagramRepair.Service.Endpoint

/-! Requests to judge a diagram. A request is read in steps, each of which may refuse it, and what
it asks is judged without a fault. Two kinds of requests have no answer: one expects a list or an
object for a type, and the answer to the other would hold half a surrogate pair. That a reader of
JSON may give up on values that are nested too deeply is left aside, as it is in `Json.ofBytes?`.
-/

namespace DiagramRepair.Service

open Encoding (Bytes CodePoint Half StandIns)

variable {settings : Settings} {standIns : StandIns} {body : Bytes} {fields : Fields}
  {failure : Failure}

-----------------------------------------------------------------------------------------
-- Answers
-----------------------------------------------------------------------------------------

/-- What is answered about a diagram beyond the verdict, with the count of its elements checked. -/
def checkedDetails (text : Text) (verdict : Verdict) : Except Fault (Text × Json) :=
  match verdict.rejection? with
  | some reason => .ok reason.suggestions
  | none =>
      (Checked.countElements (verdict.resolve text)).map fun counts =>
        ("counts".toList, .object counts.fields)

/-- The verdict on a diagram, with every operation checked that is not defined everywhere. -/
def Question.checkedAnswer (question : Question) : Except Fault Answer := do
  let verdict ← Checked.validate question.expected question.diagram
  let details ← checkedDetails question.diagram verdict
  return {
    content := .json (.object (verdict.fields ++ [details]))
    log := verdictLog verdict
  }

/-- A refusal for which the one who asks is to blame. -/
def Failure.IsRefusal (failure : Failure) : Prop :=
  ∃ reason : Refusal, failure = .refused reason ∧ reason.status ∈ [400, 413, 422]

/-- What came of a request to judge a diagram is the verdict on what it asks, reached without a
fault, or a refusal. -/
inductive IsAnswered (settings : Settings) (body : Bytes) : Except Failure Answer → Prop
  | verdict {question : Question} {answer : Answer}
    (asked : readQuestion settings (standInsFor body) body = .ok question)
    (reached : question.checkedAnswer = .ok answer)
    : IsAnswered settings body (.ok answer)
  | refusal {failure : Failure} (refused : failure.IsRefusal)
    : IsAnswered settings body (.error failure)

theorem checkedDetails_eq_ok (text : Text) (verdict : Verdict)
    : checkedDetails text verdict = .ok (verdictDetails text verdict) := by
  unfold checkedDetails verdictDetails
  cases verdict.rejection? with
  | some reason => rfl
  | none =>
      dsimp only
      rw [Checked.countElements_eq_ok]
      rfl

theorem Question.checkedAnswer_eq_ok (question : Question)
    : question.checkedAnswer = .ok question.answer := by
  rw [checkedAnswer, Checked.validate_eq_ok, Checked.ok_bind, checkedDetails_eq_ok,
    Checked.ok_bind]
  rfl

/-- An answer has the status of a verdict or of one of three refusals. -/
theorem IsAnswered.status {result : Except Failure Answer} (h : IsAnswered settings body result)
    : (Response.ofResult result).status ∈ [200, 400, 413, 422] := by
  cases h with
  | verdict asked reached => exact List.mem_cons_self
  | refusal refused =>
      obtain ⟨reason, rfl, hstatus⟩ := refused
      exact List.mem_cons_of_mem 200 hstatus

theorem IsAnswered.isRefusal (h : IsAnswered settings body (.error failure))
    : failure.IsRefusal := by
  cases h with
  | refusal refused => exact refused

theorem not_isRefusal_unusableName : ¬Failure.unusableName.IsRefusal := by
  rintro ⟨reason, h, -⟩
  contradiction

theorem not_isRefusal_notEncodable (log : List Text) : ¬(Failure.notEncodable log).IsRefusal := by
  rintro ⟨reason, h, -⟩
  contradiction

-----------------------------------------------------------------------------------------
-- Steps of reading
-----------------------------------------------------------------------------------------

/-- An action fails at its first step, or at what comes behind it. -/
theorem bind_eq_error_iff {ε α β : Type} {action : Except ε α} {next : α → Except ε β} {reason : ε}
    : (action >>= next) = .error reason
      ↔ action = .error reason
        ∨ ∃ result, action = .ok result ∧ next result = .error reason := by
  cases action with
  | error other => simp [bind, Except.bind]
  | ok result => simp [bind, Except.bind]

theorem Refusal.isRefusal (reason : Refusal) (h : reason.status ∈ [400, 413, 422])
    : (Failure.refused reason).IsRefusal :=
  ⟨reason, rfl, h⟩

theorem isRefusal_of_readObject (h : readObject standIns body = .error failure)
    : failure.IsRefusal := by
  unfold readObject at h
  split at h
  · obtain rfl := Except.error.inj h
    exact Refusal.isRefusal _ (by decide)
  · contradiction
  · obtain rfl := Except.error.inj h
    exact Refusal.isRefusal _ (by decide)

theorem isRefusal_of_requiredText {name : Text} (h : requiredText fields name = .error failure)
    : failure.IsRefusal := by
  unfold requiredText at h
  split at h
  · contradiction
  · obtain rfl := Except.error.inj h
    exact Refusal.isRefusal _ (by simp [Refusal.status])

theorem isRefusal_of_checkLength {name text : Text} {limit : Int}
    (h : checkLength name limit text = .error failure)
    : failure.IsRefusal := by
  unfold checkLength at h
  split at h
  · obtain rfl := Except.error.inj h
    exact Refusal.isRefusal _ (by simp [Refusal.status])
  · contradiction

theorem isRefusal_of_readTextField {name : Text} {limit : Int}
    (h : readTextField standIns name limit body = .error failure)
    : failure.IsRefusal := by
  rcases bind_eq_error_iff.1 h with h | ⟨fields, -, h⟩
  · exact isRefusal_of_readObject h
  · rcases bind_eq_error_iff.1 h with h | ⟨text, -, h⟩
    · exact isRefusal_of_requiredText h
    · rcases bind_eq_error_iff.1 h with h | ⟨-, -, h⟩
      · exact isRefusal_of_checkLength h
      · contradiction

theorem isRefusal_of_selectDiagram {text : Text} (h : selectDiagram fields text = .error failure)
    : failure.IsRefusal := by
  unfold selectDiagram at h
  split at h
  · split at h
    · contradiction
    · obtain rfl := Except.error.inj h
      exact Refusal.isRefusal _ (by decide)
  · contradiction

/-- A list or an object, which cannot be looked up among the names of types. -/
def isCollection : Json → Bool
  | .array _ => true
  | .object _ => true
  | _ => false

theorem readExpectedType_eq_unusableName_iff
    : readExpectedType fields = .error .unusableName
      ↔ (Json.field? fields "expected_type".toList).any isCollection = true := by
  unfold readExpectedType
  cases Json.field? fields "expected_type".toList with
  | none => simp
  | some type =>
      cases type with
      | string name =>
          dsimp only
          split <;> simp [isCollection]
      | _ => simp [isCollection]

theorem isRefusal_of_readExpectedType (h : readExpectedType fields = .error failure)
    (hname : failure ≠ .unusableName)
    : failure.IsRefusal := by
  unfold readExpectedType at h
  repeat' split at h
  all_goals first
    | contradiction
    | obtain rfl := Except.error.inj h
      first
        | contradiction
        | exact Refusal.isRefusal _ (by simp [Refusal.status])

-----------------------------------------------------------------------------------------
-- Questions
-----------------------------------------------------------------------------------------

/-- The request is readable and its text is not too long, but it expects a list or an object for
a type. -/
def ExpectsCollection (settings : Settings) (standIns : StandIns) (body : Bytes) : Prop :=
  ∃ fields text,
    readTextField standIns "code".toList settings.maxDiagramLength body = .ok (fields, text)
    ∧ (Json.field? fields "expected_type".toList).any isCollection = true

theorem isRefusal_of_readQuestion (h : readQuestion settings standIns body = .error failure)
    (hname : failure ≠ .unusableName)
    : failure.IsRefusal := by
  rcases bind_eq_error_iff.1 h with h | ⟨⟨fields, text⟩, -, h⟩
  · exact isRefusal_of_readTextField h
  · rcases bind_eq_error_iff.1 h with h | ⟨expected, -, h⟩
    · exact isRefusal_of_readExpectedType h hname
    · rcases bind_eq_error_iff.1 h with h | ⟨diagram, -, h⟩
      · exact isRefusal_of_selectDiagram h
      · contradiction

theorem readQuestion_eq_unusableName_iff
    : readQuestion settings standIns body = .error .unusableName
      ↔ ExpectsCollection settings standIns body := by
  constructor
  · intro h
    rcases bind_eq_error_iff.1 h with h | ⟨⟨fields, text⟩, hfields, h⟩
    · exact absurd (isRefusal_of_readTextField h) not_isRefusal_unusableName
    · rcases bind_eq_error_iff.1 h with h | ⟨expected, -, h⟩
      · exact ⟨fields, text, hfields, readExpectedType_eq_unusableName_iff.1 h⟩
      · rcases bind_eq_error_iff.1 h with h | ⟨diagram, -, h⟩
        · exact absurd (isRefusal_of_selectDiagram h) not_isRefusal_unusableName
        · contradiction
  · rintro ⟨fields, text, hfields, hcollection⟩
    refine bind_eq_error_iff.2 (Or.inr ⟨(fields, text), hfields, ?_⟩)
    exact bind_eq_error_iff.2 (Or.inl (readExpectedType_eq_unusableName_iff.2 hcollection))

-----------------------------------------------------------------------------------------
-- Halves of surrogate pairs
-----------------------------------------------------------------------------------------

/-- The body is JSON that holds half a surrogate pair: it can be read only where something stands in
for such halves. -/
def HoldsHalf (body : Bytes) : Prop :=
  Json.ofBytes? .none body = none ∧ ∃ value, Json.ofBytes? .uniform body = some value

/-- What stands in for halves in a body tells them from its characters: each half is read as a
character that leaves the service as that half, and no character of what the body holds does. -/
theorem standInsFor_tells {value : Json} (hn : Json.ofBytes? .none body = none)
    (hv : Json.ofBytes? .uniform body = some value)
    (hr : StandIns.HasRoom (Json.compact .unicode value))
    : (∀ half : Half, ∃ c,
        Encoding.charOfCode? (standInsFor body) half.code = some c
        ∧ (standInsFor body).codePoint c = .half half)
      ∧ ∀ c ∈ Json.compact .unicode value, (standInsFor body).codePoint c = .character c := by
  have havoiding : standInsFor body = .avoiding (Json.compact .unicode value) := by
    simp only [standInsFor, Json.standInsFor, hn, hv]
  rw [havoiding]
  refine ⟨fun half => ?_, fun c hc => StandIns.codePoint_avoiding_of_mem hc⟩
  have hcode : Half.ofCode? half.code = some half := dif_pos ⟨half.least, half.most⟩
  simp only [Encoding.charOfCode?, hcode]
  exact StandIns.exists_char?_avoiding hr half

/-- The answer of an endpoint holds half a surrogate pair when it leaves the service. -/
def Endpoint.ShowsHalf (endpoint : Endpoint) (settings : Settings) (body : Bytes) : Prop :=
  ∃ answer half,
    endpoint.answer settings (standInsFor body) body = .ok answer
    ∧ CodePoint.half half ∈ (standInsFor body).raw answer.content.text

theorem any_isHalf_iff {raw : Encoding.RawText}
    : raw.any CodePoint.isHalf = true ↔ ∃ half, CodePoint.half half ∈ raw := by
  rw [List.any_eq_true]
  constructor
  · rintro ⟨point, hpoint, hhalf⟩
    cases point with
    | character c => contradiction
    | half half => exact ⟨half, hpoint⟩
  · rintro ⟨half, hhalf⟩
    exact ⟨_, hhalf, rfl⟩

/-- What comes of a request is what the endpoint answers, unless that cannot be encoded. -/
theorem Endpoint.handle_cases (endpoint : Endpoint) (settings : Settings) (body : Bytes)
    : (∃ failure,
        endpoint.answer settings (standInsFor body) body = .error failure
        ∧ endpoint.handle settings body = .error failure)
      ∨ ∃ answer,
          endpoint.answer settings (standInsFor body) body = .ok answer
          ∧ (endpoint.ShowsHalf settings body
              ∧ endpoint.handle settings body = .error (.notEncodable answer.log)
            ∨ ¬endpoint.ShowsHalf settings body
              ∧ endpoint.handle settings body = .ok answer) := by
  cases hanswer : endpoint.answer settings (standInsFor body) body with
  | error failure =>
      refine Or.inl ⟨failure, rfl, ?_⟩
      simp only [handle, hanswer]
      rfl
  | ok answer =>
      have hhandle : endpoint.handle settings body
          = if ((standInsFor body).raw answer.content.text).any CodePoint.isHalf then
              .error (.notEncodable answer.log)
            else .ok answer := by
        simp only [handle, hanswer]
        rfl
      have hshows : endpoint.ShowsHalf settings body
          ↔ ((standInsFor body).raw answer.content.text).any CodePoint.isHalf = true := by
        simp only [ShowsHalf, hanswer, Except.ok.injEq, exists_and_left, exists_eq_left',
          any_isHalf_iff]
      refine Or.inr ⟨answer, rfl, ?_⟩
      rw [hhandle, hshows]
      split
      · rename_i hhalf
        exact Or.inl ⟨hhalf, rfl⟩
      · rename_i hhalf
        exact Or.inr ⟨hhalf, rfl⟩

theorem standInsFor_eq_none (h : ¬HoldsHalf body) : standInsFor body = .none := by
  unfold standInsFor Json.standInsFor
  split
  · rfl
  · rename_i hnone
    split
    · rename_i value hvalue
      exact absurd ⟨hnone, value, hvalue⟩ h
    · rfl

/-- An answer holds no half of a pair unless the request does. -/
theorem Endpoint.ShowsHalf.holdsHalf {endpoint : Endpoint} (h : endpoint.ShowsHalf settings body)
    : HoldsHalf body := by
  by_contra hholds
  obtain ⟨answer, half, -, hhalf⟩ := h
  obtain ⟨c, -, hc⟩ := StandIns.mem_raw_iff _ |>.1 hhalf
  have hmem := StandIns.half_of_codePoint _ hc
  rw [standInsFor_eq_none hholds] at hmem
  contradiction

-----------------------------------------------------------------------------------------
-- Requests
-----------------------------------------------------------------------------------------

/-- The request to judge the diagram in a body. -/
def judgingRequest (body : Bytes) : Request :=
  ⟨"POST".toList, "/api/diagrams/validate".toList, body⟩

theorem handle_judgingRequest (settings : Settings) (body : Bytes)
    : handle settings (judgingRequest body) = Endpoint.validateDiagram.handle settings body := by
  have hpath : Endpoint.ofPath? "/api/diagrams/validate".toList = some .validateDiagram := by
    decide
  simp only [handle, judgingRequest, hpath]
  exact if_pos rfl

theorem answer_validateDiagram_eq_error_iff
    : Endpoint.validateDiagram.answer settings standIns body = .error failure
      ↔ readQuestion settings standIns body = .error failure := by
  rw [Endpoint.answer, validateDiagram]
  cases readQuestion settings standIns body <;> simp [Except.map]

theorem isAnswered_of_answer {answer : Answer}
    (h : Endpoint.validateDiagram.answer settings (standInsFor body) body = .ok answer)
    : IsAnswered settings body (.ok answer) := by
  rw [Endpoint.answer, validateDiagram] at h
  cases hquestion : readQuestion settings (standInsFor body) body with
  | error failure => simp [hquestion, Except.map] at h
  | ok question =>
      simp only [hquestion, Except.map, Except.ok.injEq] at h
      exact .verdict hquestion (question.checkedAnswer_eq_ok.trans (congrArg Except.ok h))

theorem answer_eq_unusableName_iff
    : Endpoint.validateDiagram.answer settings standIns body = .error .unusableName
      ↔ ExpectsCollection settings standIns body :=
  answer_validateDiagram_eq_error_iff.trans readQuestion_eq_unusableName_iff

/-- A list or an object that is expected for a type is found before there is an answer. -/
theorem not_showsHalf_of_expectsCollection (h : ExpectsCollection settings (standInsFor body) body)
    : ¬Endpoint.validateDiagram.ShowsHalf settings body := by
  rintro ⟨answer, -, hanswer, -⟩
  rw [answer_eq_unusableName_iff.2 h] at hanswer
  contradiction

/-- The three ends of a request to judge a diagram. -/
theorem handle_judgingRequest_cases (settings : Settings) (body : Bytes)
    : ExpectsCollection settings (standInsFor body) body
        ∧ handle settings (judgingRequest body) = .error .unusableName
      ∨ Endpoint.validateDiagram.ShowsHalf settings body
        ∧ (∃ log, handle settings (judgingRequest body) = .error (.notEncodable log))
      ∨ (¬ExpectsCollection settings (standInsFor body) body
          ∧ ¬Endpoint.validateDiagram.ShowsHalf settings body)
        ∧ IsAnswered settings body (handle settings (judgingRequest body)) := by
  rw [handle_judgingRequest]
  rcases Endpoint.validateDiagram.handle_cases settings body with
    ⟨failure, hfailure, hhandle⟩ | ⟨answer, hanswer, ⟨hhalf, hhandle⟩ | ⟨hhalf, hhandle⟩⟩
  · by_cases hname : failure = .unusableName
    · subst hname
      exact Or.inl ⟨answer_eq_unusableName_iff.1 hfailure, hhandle⟩
    · refine Or.inr (Or.inr ⟨⟨fun h => hname ?_, ?_⟩, ?_⟩)
      · exact Except.error.inj (hfailure.symm.trans (answer_eq_unusableName_iff.2 h))
      · rintro ⟨answer, -, hanswer, -⟩
        rw [hfailure] at hanswer
        contradiction
      · rw [hhandle]
        exact .refusal
          (isRefusal_of_readQuestion (answer_validateDiagram_eq_error_iff.1 hfailure) hname)
  · exact Or.inr (Or.inl ⟨hhalf, answer.log, hhandle⟩)
  · refine Or.inr (Or.inr ⟨⟨fun h => ?_, hhalf⟩, ?_⟩)
    · rw [answer_eq_unusableName_iff.2 h] at hanswer
      contradiction
    · rw [hhandle]
      exact isAnswered_of_answer hanswer

/-- A request to judge a diagram is answered unless it expects a list or an object for a type, or
its answer would hold half a surrogate pair, which it does not unless the request holds one. In
these two cases the service fails. JSON is read to any depth of nesting here; that the `json` module
fails at its recursion limit, near a thousand levels, is left aside. -/
theorem isAnswered_handle_iff (settings : Settings) (body : Bytes)
    : (IsAnswered settings body (handle settings (judgingRequest body))
        ↔ ¬ExpectsCollection settings (standInsFor body) body
          ∧ ¬Endpoint.validateDiagram.ShowsHalf settings body)
      ∧ (ExpectsCollection settings (standInsFor body) body
        → handle settings (judgingRequest body) = .error .unusableName)
      ∧ (Endpoint.validateDiagram.ShowsHalf settings body
        → (∃ log, handle settings (judgingRequest body) = .error (.notEncodable log))
          ∧ HoldsHalf body) := by
  rcases handle_judgingRequest_cases settings body with
    ⟨hname, hhandle⟩ | ⟨hhalf, log, hhandle⟩ | ⟨⟨hname, hhalf⟩, hanswered⟩
  · rw [hhandle]
    refine ⟨⟨fun h => absurd h.isRefusal not_isRefusal_unusableName, fun h => absurd hname h.1⟩,
      fun _ => rfl, fun h => ?_⟩
    exact absurd h (not_showsHalf_of_expectsCollection hname)
  · rw [hhandle]
    refine ⟨⟨fun h => absurd h.isRefusal (not_isRefusal_notEncodable log),
      fun h => absurd hhalf h.2⟩, fun h => ?_, fun _ => ⟨⟨log, rfl⟩, hhalf.holdsHalf⟩⟩
    exact absurd hhalf (not_showsHalf_of_expectsCollection h)
  · exact ⟨⟨fun _ => ⟨hname, hhalf⟩, fun _ => hanswered⟩, fun h => absurd h hname,
      fun h => absurd h hhalf⟩

/-- One request expects an empty list for a type. The diagram of the other one is the first half of
a pair, which its rejection would show. -/
theorem not_isAnswered_of_list_or_half
    : let ofList := Encoding.encodeUtf8
        "\x7b\"code\":\"graph\\nA\",\"expected_type\":[]\x7d".toList
      let ofHalf := Encoding.encodeUtf8 "\x7b\"code\":\"\\ud83d\"\x7d".toList
      ¬IsAnswered {} ofList (handle {} (judgingRequest ofList))
      ∧ ¬IsAnswered {} ofHalf (handle {} (judgingRequest ofHalf)) := by
  constructor
  · intro h
    exact absurd h.status (by decide +kernel)
  · intro h
    exact absurd h.status (by decide +kernel)

end DiagramRepair.Service

import DiagramRepair.Proofs.Label.Requoting

/-! Labels that a renderer can read. A label is safe when it needs no quotes, or is one quoted run.
What quoting writes is such a run. But a label that starts and ends with a quote is taken for quoted
without a look inside, so one with more of these quotes between them stays as it was, and it is the
only one that does not end up safe.
-/

namespace DiagramRepair.Label

open Text

/-- The text holds neither a reserved character nor a quote behind a backslash. -/
def IsPlain (reserved : List Char) (text : Text) : Prop :=
  (∀ c ∈ text, c ∉ reserved) ∧ ∀ mark, mark = '"' ∨ mark = '\x27' → ¬['\\', mark] <:+: text

/-- The text is one quoted run: it starts and ends with a quote that it does not hold between. -/
def IsRun (text : Text) : Prop :=
  ∃ mark inside, (mark = '"' ∨ mark = '\x27') ∧ mark ∉ inside ∧ text = mark :: inside ++ [mark]

/-- The text is empty, needs no quotes, or is one quoted run. -/
def IsSafe (reserved : List Char) (text : Text) : Prop :=
  text = [] ∨ IsPlain reserved text ∨ IsRun text

-----------------------------------------------------------------------------------------
-- Escaped quotes
-----------------------------------------------------------------------------------------

theorem length_dropEscapes_le (quote : Char) (text : Text)
    : (dropEscapes quote text).length ≤ text.length := by
  fun_induction dropEscapes quote text with
  | case1 => exact Nat.le_refl _
  | case2 rest ih =>
      simp only [List.length_cons]
      omega
  | case3 c rest _ ih => simpa using ih
  | case4 c rest _ ih => simpa using ih

/-- Dropping the escapes of a quote changes a text exactly when it holds an escaped one, by
induction on the text. -/
theorem dropEscapes_eq_self_iff {quote : Char} {text : Text}
    : dropEscapes quote text = text ↔ ¬['\\', quote] <:+: text := by
  fun_induction dropEscapes quote text with
  | case1 => simp
  | case2 rest _ =>
      have hescaped : ['\\', quote] <:+: '\\' :: quote :: rest := ⟨[], rest, rfl⟩
      simp [hescaped]
  | case3 c rest hc ih =>
      have hnot : ¬['\\', quote] <+: '\\' :: c :: rest := by
        simp [List.cons_prefix_cons, Ne.symm hc]
      rw [List.cons_inj_right, ih, List.infix_cons_iff.trans (or_iff_right hnot)]
  | case4 c rest hc ih =>
      have hnot : ¬['\\', quote] <+: c :: rest := by
        rintro ⟨behind, hbehind⟩
        obtain ⟨rfl, rfl⟩ := List.cons.inj hbehind
        exact hc quote behind rfl rfl
      rw [List.cons_inj_right, ih, List.infix_cons_iff.trans (or_iff_right hnot)]

/-- Dropping escapes never makes a text longer, and shorter where it changes it. -/
theorem dropEscapes_eq_self_of_length {quote : Char} {text : Text}
    (h : text.length ≤ (dropEscapes quote text).length)
    : dropEscapes quote text = text := by
  fun_induction dropEscapes quote text with
  | case1 => rfl
  | case2 rest _ =>
      have hle := length_dropEscapes_le quote rest
      simp only [List.length_cons] at h
      omega
  | case3 c rest _ ih => rw [ih (by simpa using h)]
  | case4 c rest _ ih => rw [ih (by simpa using h)]

/-- A text stays as it is without its escapes exactly when it holds none. -/
theorem unescape_eq_self_iff {text : Text}
    : unescape text = text ↔ ∀ mark, mark = '"' ∨ mark = '\x27' → ¬['\\', mark] <:+: text := by
  simp only [forall_eq_or_imp, forall_eq]
  rw [← dropEscapes_eq_self_iff, ← dropEscapes_eq_self_iff, unescape]
  constructor
  · intro h
    -- The second pass cannot make up for what the first one has shortened.
    have hdouble : dropEscapes '"' text = text := by
      refine dropEscapes_eq_self_of_length ?_
      have hle := length_dropEscapes_le '\x27' (dropEscapes '"' text)
      rwa [h] at hle
    rw [hdouble] at h
    exact ⟨hdouble, h⟩
  · rintro ⟨hdouble, hsingle⟩
    rw [hdouble, hsingle]

-----------------------------------------------------------------------------------------
-- Quoted labels
-----------------------------------------------------------------------------------------

/-- A label is left alone that is blank, or is taken for quoted, or needs no quotes. -/
theorem quote?_eq_none_iff_isPlain {reserved : List Char} {content : Text}
    : quote? reserved content = none
      ↔ isAllBlank content = true ∨ isQuoted content = true ∨ IsPlain reserved content := by
  rw [quote?_eq_none_iff, unescape_eq_self_iff, IsPlain]
  simp only [and_comm]

theorem IsPlain.trim {reserved : List Char} {text : Text} (h : IsPlain reserved text)
    : IsPlain reserved (Text.trim text) :=
  ⟨fun c hc => h.1 c ((trim_isInfix text).subset hc),
    fun mark hm hi => h.2 mark hm (hi.trans (trim_isInfix text))⟩

theorem enclosed_inj {mark other : Char} {inside inner : Text}
    (h : mark :: inside ++ [mark] = other :: inner ++ [other])
    : mark = other ∧ inside = inner := by
  obtain ⟨hmark, hrest⟩ := List.cons.inj h
  exact ⟨hmark, (List.append_inj' hrest rfl).1⟩

theorem isRun_enclosed_iff {mark : Char} (hm : mark = '"' ∨ mark = '\x27') {inside : Text}
    : IsRun (mark :: inside ++ [mark]) ↔ mark ∉ inside := by
  constructor
  · rintro ⟨other, inner, -, hinner, heq⟩
    obtain ⟨rfl, rfl⟩ := enclosed_inj heq
    exact hinner
  · exact fun h => ⟨mark, inside, hm, h, rfl⟩

theorem isSafe_enclosed_iff {reserved : List Char} {mark : Char} (hm : mark = '"' ∨ mark = '\x27')
    {inside : Text}
    : IsSafe reserved (mark :: inside ++ [mark])
      ↔ IsPlain reserved (mark :: inside ++ [mark]) ∨ mark ∉ inside := by
  rw [IsSafe, isRun_enclosed_iff hm]
  simp

/-- What quoting writes is one quoted run. -/
theorem isRun_written {reserved : List Char} {content quoted : Text}
    (h : quote? reserved content = some quoted)
    : IsRun (trim (written reserved content)) := by
  rw [written, h, Option.getD_some, (quote?_eq_some h).1, trim_enclosed (by decide) (by decide)]
  exact (isRun_enclosed_iff (Or.inl rfl)).2 (not_mem_softened content)

/-- The result of quoting a label is safe for every label but those that start and end with a quote
that they hold in between, too, and need quotes. -/
theorem isSafe_written_iff (reserved : List Char) (content : Text)
    : IsSafe reserved (trim (written reserved content))
      ↔ ¬∃ mark inside,
          (mark = '"' ∨ mark = '\x27')
          ∧ trim content = mark :: inside ++ [mark]
          ∧ mark ∈ inside
          ∧ ¬IsPlain reserved (trim content) := by
  cases hquote : quote? reserved content with
  | some quoted =>
      have hsafe : IsSafe reserved (trim (written reserved content)) :=
        Or.inr (Or.inr (isRun_written hquote))
      refine iff_of_true hsafe ?_
      rintro ⟨mark, inside, hmark, htrim, -, -⟩
      have hquoted : isQuoted content = true := isQuoted_iff.2 ⟨mark, inside, hmark, htrim⟩
      have hnone : quote? reserved content = none :=
        quote?_eq_none_iff_isPlain.2 (Or.inr (Or.inl hquoted))
      rw [hquote] at hnone
      contradiction
  | none =>
      rw [written, hquote, Option.getD_none]
      rcases quote?_eq_none_iff_isPlain.1 hquote with hblank | hquoted | hplain
      · have htrim : trim content = [] := trim_eq_nil_iff.2 (isAllBlank_iff.1 hblank)
        refine iff_of_true (Or.inl htrim) ?_
        rintro ⟨mark, inside, -, heq, -, -⟩
        simp [htrim] at heq
      · obtain ⟨mark, inside, hmark, htrim⟩ := isQuoted_iff.1 hquoted
        rw [htrim, isSafe_enclosed_iff hmark]
        constructor
        · rintro hsafe ⟨other, inner, -, heq, hmem, hnot⟩
          obtain ⟨rfl, rfl⟩ := enclosed_inj heq
          exact hsafe.elim hnot fun hinside => hinside hmem
        · intro hnone
          by_contra hunsafe
          rw [not_or, not_not] at hunsafe
          exact hnone ⟨mark, inside, hmark, rfl, hunsafe.2, hunsafe.1⟩
      · refine iff_of_true (Or.inr (Or.inl hplain.trim)) ?_
        rintro ⟨-, -, -, -, -, hnot⟩
        exact hnot hplain.trim

/-- Two quoted runs with reserved characters between them are left as they are. -/
theorem not_isSafe_written_of_two_runs
    : written flowchartReserved "\"a\" (x) \"b\"".toList = "\"a\" (x) \"b\"".toList
      ∧ ¬IsSafe flowchartReserved (trim (written flowchartReserved "\"a\" (x) \"b\"".toList)) := by
  have hwritten : written flowchartReserved "\"a\" (x) \"b\"".toList
      = "\"a\" (x) \"b\"".toList := by
    decide +kernel
  have htrim : trim "\"a\" (x) \"b\"".toList = '"' :: "a\" (x) \"b".toList ++ ['"'] := by
    decide +kernel
  refine ⟨hwritten, ?_⟩
  rw [hwritten, htrim, isSafe_enclosed_iff (Or.inl rfl)]
  rintro (⟨hfree, -⟩ | hinside)
  · exact hfree '(' (by decide) (by decide)
  · exact hinside (by decide)

end DiagramRepair.Label

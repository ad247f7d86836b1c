import DiagramRepair.Label.Quoting
import DiagramRepair.Proofs.Text.Runs

/-! What quoting may do to a text. Inside a label, quotes become single quotes and backslashes in
front of them go away; around a label, double quotes are put. No other character is added,
lost or moved.
-/

namespace DiagramRepair.Label

open Text

/-- The characters that quoting may touch. -/
def quoteMarks : List Char :=
  ['"', '\x27', '\\']

-----------------------------------------------------------------------------------------
-- Inside a label
-----------------------------------------------------------------------------------------

/-- The second text is the first one with some double quotes made single and some backslashes
before single quotes dropped. -/
inductive Softens : Text → Text → Prop
  | nil : Softens [] []
  | keep (c : Char) {old new : Text} (rest : Softens old new)
    : Softens (c :: old) (c :: new)
  | soften {old new : Text} (rest : Softens old new)
    : Softens ('"' :: old) ('\x27' :: new)
  | escape {old new : Text} (rest : Softens old ('\x27' :: new))
    : Softens ('\\' :: old) ('\x27' :: new)

theorem Softens.refl (text : Text) : Softens text text := by
  induction text with
  | nil => exact .nil
  | cons c rest ih => exact .keep c ih

/-- A text that is softened to one with a single quote in front keeps it there, by cases on
the second step. -/
theorem Softens.exists_cons {new : Text} {text : Text} (h : Softens ('\x27' :: new) text)
    : ∃ rest, text = '\x27' :: rest ∧ Softens new rest := by
  cases h with
  | keep _ rest => exact ⟨_, rfl, rest⟩

/-- Softening composes, by induction on the first step. -/
theorem Softens.trans {old middle new : Text} (hf : Softens old middle)
    (hs : Softens middle new)
    : Softens old new := by
  induction hf generalizing new with
  | nil => exact hs
  | keep c _ ih =>
      cases hs with
      | keep _ rest => exact .keep c (ih rest)
      | soften rest => exact .soften (ih rest)
      | escape rest => exact .escape (ih rest)
  | soften _ ih =>
      obtain ⟨rest, rfl, hrest⟩ := hs.exists_cons
      exact .soften (ih hrest)
  | escape _ ih =>
      obtain ⟨rest, rfl, hrest⟩ := hs.exists_cons
      exact .escape (ih (.keep _ hrest))

theorem dropEscapes_softens {quote : Char} (hq : quote = '"' ∨ quote = '\x27') (text : Text)
    : Softens text (dropEscapes quote text) := by
  fun_induction dropEscapes quote text with
  | case1 => exact .nil
  | case2 rest ih =>
      rcases hq with rfl | rfl
      · exact .escape (.soften ih)
      · exact .escape (.keep _ ih)
  | case3 c rest _ ih => exact .keep _ ih
  | case4 c rest _ ih => exact .keep c ih

/-- The text that stands between the double quotes of a quoted label. -/
def softened (content : Text) : Text :=
  (unescape content).map fun c => if c = '"' then '\x27' else c

theorem map_softens (text : Text)
    : Softens text (text.map fun c => if c = '"' then '\x27' else c) := by
  induction text with
  | nil => exact .nil
  | cons c rest ih =>
      rw [List.map_cons]
      split
      · rename_i hc
        subst hc
        exact .soften ih
      · exact .keep c ih

theorem softens_softened (content : Text) : Softens content (softened content) :=
  ((dropEscapes_softens (Or.inl rfl) content).trans
    (dropEscapes_softens (Or.inr rfl) _)).trans (map_softens _)

theorem not_mem_softened (content : Text) : '"' ∉ softened content := by
  intro hm
  obtain ⟨c, -, hc⟩ := List.mem_map.1 hm
  split at hc
  · exact absurd hc (by decide)
  · contradiction

-----------------------------------------------------------------------------------------
-- Quoting one label
-----------------------------------------------------------------------------------------

/-- A label that is quoted is not blank, and its quoted form holds its softened text. -/
theorem quote?_eq_some {reserved : List Char} {content quoted : Text}
    (h : quote? reserved content = some quoted)
    : quoted = '"' :: softened content ++ ['"'] ∧ isAllBlank content = false := by
  unfold quote? at h
  split at h
  · contradiction
  · rename_i hleft
    split at h
    · contradiction
    · refine ⟨(Option.some.inj h).symm, ?_⟩
      simp only [Bool.or_eq_true, not_or, Bool.not_eq_true] at hleft
      exact hleft.1

/-- A label is left alone that is blank, or stands in quotes, or needs none. -/
theorem quote?_eq_none_iff {reserved : List Char} {content : Text}
    : quote? reserved content = none
      ↔ isAllBlank content = true
        ∨ isQuoted content = true
        ∨ unescape content = content ∧ ∀ c ∈ content, c ∉ reserved := by
  unfold quote?
  split
  · rename_i hleft
    rw [Bool.or_eq_true] at hleft
    simp only [true_iff]
    exact hleft.elim Or.inl fun hquoted => Or.inr (Or.inl hquoted)
  · rename_i hleft
    rw [Bool.or_eq_true, not_or] at hleft
    simp [hleft.1, hleft.2]

/-- A text counts as quoted when, apart from blanks, it starts and ends with one kind of quote,
whatever stands between. -/
theorem isQuoted_iff {text : Text}
    : isQuoted text = true
      ↔ ∃ mark inside, (mark = '"' ∨ mark = '\x27') ∧ trim text = mark :: inside ++ [mark] := by
  rw [isQuoted]
  split
  · rename_i hnil
    simp [hnil]
  · rename_i first rest hrest
    rw [hrest, Bool.and_eq_true, Bool.or_eq_true, beq_iff_eq, beq_iff_eq, beq_iff_eq]
    constructor
    · rintro ⟨hlast, hmark⟩
      obtain ⟨inside, rfl⟩ := List.getLast?_eq_some_iff.1 hlast
      exact ⟨first, inside, hmark, rfl⟩
    · rintro ⟨mark, inside, hmark, htext⟩
      obtain ⟨rfl, rfl⟩ := List.cons.inj htext
      exact ⟨List.getLast?_concat, hmark⟩

theorem isQuoted_of_enclosed (inside : Text) : isQuoted ('"' :: inside ++ ['"']) = true :=
  isQuoted_iff.2 ⟨'"', inside, Or.inl rfl, trim_enclosed (by decide) (by decide) inside⟩

/-- A quoted label is not quoted again. -/
theorem quote?_enclosed (reserved : List Char) (inside : Text)
    : quote? reserved ('"' :: inside ++ ['"']) = none := by
  simp only [quote?, isQuoted_of_enclosed, Bool.or_true, if_true]

/-- Quoting a label a second time changes nothing. -/
theorem quote?_written (reserved : List Char) (content : Text)
    : quote? reserved (written reserved content) = none := by
  unfold written
  cases h : quote? reserved content with
  | none => exact h
  | some quoted =>
      rw [Option.getD_some, (quote?_eq_some h).1]
      exact quote?_enclosed reserved (softened content)

@[simp]
theorem written_written (reserved : List Char) (content : Text)
    : written reserved (written reserved content) = written reserved content := by
  rw [written, quote?_written, Option.getD_none]

-----------------------------------------------------------------------------------------
-- Inside and around labels
-----------------------------------------------------------------------------------------

/-- The second text is the first one softened in places, with double quotes put in. -/
inductive Requoted : Text → Text → Prop
  | nil : Requoted [] []
  | keep (c : Char) {old new : Text} (rest : Requoted old new)
    : Requoted (c :: old) (c :: new)
  | soften {old new : Text} (rest : Requoted old new)
    : Requoted ('"' :: old) ('\x27' :: new)
  | escape {old new : Text} (rest : Requoted old ('\x27' :: new))
    : Requoted ('\\' :: old) ('\x27' :: new)
  | insert {old new : Text} (rest : Requoted old new)
    : Requoted old ('"' :: new)

theorem Softens.requoted {old new : Text} (h : Softens old new) : Requoted old new := by
  induction h with
  | nil => exact .nil
  | keep c _ ih => exact .keep c ih
  | soften _ ih => exact .soften ih
  | escape _ ih => exact .escape ih

theorem Requoted.refl (text : Text) : Requoted text text :=
  (Softens.refl text).requoted

theorem Requoted.append {old new more next : Text} (hf : Requoted old new)
    (hs : Requoted more next)
    : Requoted (old ++ more) (new ++ next) := by
  induction hf with
  | nil => exact hs
  | keep c _ ih => exact .keep c ih
  | soften _ ih => exact .soften ih
  | escape _ ih => exact .escape ih
  | insert _ ih => exact .insert ih

theorem Requoted.written (reserved : List Char) (content : Text)
    : Requoted content (written reserved content) := by
  unfold Label.written
  cases h : quote? reserved content with
  | none => exact .refl content
  | some quoted =>
      rw [Option.getD_some, (quote?_eq_some h).1]
      have hinside := (softens_softened content).requoted.append (.insert .nil)
      rw [List.append_nil] at hinside
      exact .insert hinside

/-- Characters that quoting does not touch stay as many as they were. -/
theorem Requoted.count {old new : Text} (h : Requoted old new) {c : Char}
    (hc : c ∉ quoteMarks)
    : new.count c = old.count c := by
  simp only [quoteMarks, List.mem_cons, List.not_mem_nil, or_false, not_or] at hc
  obtain ⟨hdouble, hsingle, hback⟩ := hc
  induction h with
  | nil => rfl
  | keep d _ ih => rw [List.count_cons, List.count_cons, ih]
  | soften _ ih => simp [Ne.symm hdouble, Ne.symm hsingle, ih]
  | escape _ ih => simpa [Ne.symm hback] using ih
  | insert _ ih => simpa [Ne.symm hdouble] using ih

/-- Apart from the characters that quoting touches, both texts are the same. -/
theorem Requoted.filter {old new : Text} (h : Requoted old new)
    : new.filter (· ∉ quoteMarks) = old.filter (· ∉ quoteMarks) := by
  have hdouble : '"' ∈ quoteMarks := by decide
  have hsingle : '\x27' ∈ quoteMarks := by decide
  have hback : '\\' ∈ quoteMarks := by decide
  induction h with
  | nil => rfl
  | keep c _ ih => simp only [List.filter_cons, ih]
  | soften _ ih => simpa [hdouble, hsingle] using ih
  | escape _ ih => simpa [hsingle, hback] using ih
  | insert _ ih => simpa [hdouble] using ih

theorem Requoted.mem_iff {old new : Text} (h : Requoted old new) {c : Char}
    (hc : c ∉ quoteMarks)
    : c ∈ new ↔ c ∈ old := by
  rw [← List.count_pos_iff, ← List.count_pos_iff, h.count hc]

/-- A text without quotes is requoted from itself only. -/
theorem Requoted.eq_of_not_mem {old new : Text} (h : Requoted old new)
    (hn : ∀ c ∈ new, c ∉ quoteMarks)
    : old = new := by
  induction h with
  | nil => rfl
  | keep c _ ih => rw [ih (fun d hd => hn d (List.mem_cons_of_mem _ hd))]
  | soften _ _ => exact absurd (by decide) (hn '\x27' List.mem_cons_self)
  | escape _ _ => exact absurd (by decide) (hn '\x27' List.mem_cons_self)
  | insert _ _ => exact absurd (by decide) (hn '"' List.mem_cons_self)

/-- A character that quoting does not touch cuts both texts alike, by induction on how the
second comes from the first. -/
theorem Requoted.exists_cut {old front back : Text} {c : Char}
    (h : Requoted old (front ++ c :: back)) (hc : c ∉ quoteMarks)
    : ∃ oldFront oldBack,
        old = oldFront ++ c :: oldBack
        ∧ Requoted oldFront front
        ∧ Requoted oldBack back := by
  generalize hnew : front ++ c :: back = new at h
  induction h generalizing front with
  | nil => simp at hnew
  | @keep d old new rest ih =>
      cases front with
      | nil =>
          obtain ⟨rfl, rfl⟩ := List.cons.inj hnew
          exact ⟨[], old, rfl, .nil, rest⟩
      | cons e front =>
          obtain ⟨rfl, hrest⟩ := List.cons.inj hnew
          obtain ⟨oldFront, oldBack, rfl, hf, hb⟩ := ih hrest
          exact ⟨e :: oldFront, oldBack, rfl, .keep e hf, hb⟩
  | @soften old new rest ih =>
      cases front with
      | nil => exact absurd (by decide) ((List.cons.inj hnew).1 ▸ hc)
      | cons e front =>
          obtain ⟨rfl, hrest⟩ := List.cons.inj hnew
          obtain ⟨oldFront, oldBack, rfl, hf, hb⟩ := ih hrest
          exact ⟨'"' :: oldFront, oldBack, rfl, .soften hf, hb⟩
  | @escape old new rest ih =>
      cases front with
      | nil => exact absurd (by decide) ((List.cons.inj hnew).1 ▸ hc)
      | cons e front =>
          obtain ⟨oldFront, oldBack, rfl, hf, hb⟩ := ih hnew
          obtain ⟨rfl, -⟩ := List.cons.inj hnew
          exact ⟨'\\' :: oldFront, oldBack, rfl, .escape hf, hb⟩
  | @insert old new rest ih =>
      cases front with
      | nil => exact absurd (by decide) ((List.cons.inj hnew).1 ▸ hc)
      | cons e front =>
          obtain ⟨rfl, hrest⟩ := List.cons.inj hnew
          obtain ⟨oldFront, oldBack, rfl, hf, hb⟩ := ih hrest
          exact ⟨oldFront, oldBack, rfl, .insert hf, hb⟩

/-- What quoting does not touch at the end of a text stood there before. -/
theorem Requoted.exists_suffix {old front suffix : Text} (h : Requoted old (front ++ suffix))
    (hs : ∀ c ∈ suffix, c ∉ quoteMarks)
    : ∃ oldFront, old = oldFront ++ suffix ∧ Requoted oldFront front := by
  cases suffix with
  | nil => exact ⟨old, by simp, by simpa using h⟩
  | cons c rest =>
      obtain ⟨oldFront, oldBack, rfl, hf, hb⟩ := h.exists_cut (hs c List.mem_cons_self)
      obtain rfl := hb.eq_of_not_mem (fun d hd => hs d (List.mem_cons_of_mem _ hd))
      exact ⟨oldFront, rfl, hf⟩

/-- What quoting does not touch at the start of a text stood there before, by induction on it. -/
theorem Requoted.exists_behind {old part back : Text} (h : Requoted old (part ++ back))
    (hp : ∀ c ∈ part, c ∉ quoteMarks)
    : ∃ oldBack, old = part ++ oldBack := by
  induction part generalizing old with
  | nil => exact ⟨old, rfl⟩
  | cons c part ih =>
      rw [List.forall_mem_cons] at hp
      have hcut : Requoted old ([] ++ c :: (part ++ back)) := h
      obtain ⟨oldFront, oldBack, rfl, hfront, hback⟩ := hcut.exists_cut hp.1
      obtain rfl : oldFront = [] := by cases hfront; rfl
      obtain ⟨rest, rfl⟩ := ih hback hp.2
      exact ⟨rest, rfl⟩

/-- What quoting does not touch stood in the text before. -/
theorem Requoted.isInfix {old new part : Text} (h : Requoted old new)
    (hp : ∀ c ∈ part, c ∉ quoteMarks) (hi : part <:+: new)
    : part <:+: old := by
  obtain ⟨front, back, rfl⟩ := hi
  cases part with
  | nil => exact ⟨[], old, rfl⟩
  | cons c part =>
      rw [List.forall_mem_cons] at hp
      rw [List.append_assoc, List.cons_append] at h
      obtain ⟨oldFront, oldBack, rfl, -, hback⟩ := h.exists_cut hp.1
      obtain ⟨rest, rfl⟩ := hback.exists_behind hp.2
      exact ⟨oldFront, rest, by simp⟩

-----------------------------------------------------------------------------------------
-- Runs of other characters
-----------------------------------------------------------------------------------------

section Runs

variable {α : Type} {judge : Text → α} {join : α → α → α} {marks : List Char}

/-- Softening a text changes none of its runs, by induction on how the second text comes from the
first. -/
theorem Softens.judge_append (hj : ByRuns judge join marks) (hq : ∀ c ∈ quoteMarks, c ∉ marks)
    {old new : Text} (h : Softens old new) (front : Text)
    : judge (front ++ new) = judge (front ++ old) := by
  have hdouble : '"' ∉ marks := hq '"' (by decide)
  have hsingle : '\x27' ∉ marks := hq '\x27' (by decide)
  have hback : '\\' ∉ marks := hq '\\' (by decide)
  induction h generalizing front with
  | nil => rfl
  | keep c _ ih => simpa using ih (front ++ [c])
  | soften _ ih =>
      rw [hj.append_cons hsingle, hj.append_cons hdouble]
      exact congrArg _ (ih [])
  | escape _ ih =>
      have hrest := ih []
      rw [List.nil_append, List.nil_append, hj.cons hsingle] at hrest
      rw [hj.append_cons hsingle, hj.append_cons hback, hrest]

theorem judge_written (hj : ByRuns judge join marks) (hq : ∀ c ∈ quoteMarks, c ∉ marks)
    (reserved : List Char) (content : Text)
    : judge (written reserved content) = judge content := by
  have hdouble : '"' ∉ marks := hq '"' (by decide)
  rw [written]
  cases hquote : quote? reserved content with
  | none => rfl
  | some quoted =>
      rw [Option.getD_some, (quote?_eq_some hquote).1, List.cons_append, hj.cons hdouble,
        hj.append_gap _ (by simpa using hdouble)]
      exact (softens_softened content).judge_append hj hq []

end Runs

end DiagramRepair.Label

namespace DiagramRepair.Text

/-- Blanks are none of the characters that quoting touches. -/
theorem AllBlank.not_mem_quoteMarks {text : Text} (h : AllBlank text) {c : Char}
    (hc : c ∈ text)
    : c ∉ Label.quoteMarks := by
  have hmarks : ∀ mark ∈ Label.quoteMarks, isBlank mark = false :=
    List.all_iff_forall_prop.1 (by decide)
  exact fun hm => h.not_mem (hmarks c hm) hc

end DiagramRepair.Text

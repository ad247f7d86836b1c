import DiagramRepair.Proofs.Text.Trim
import Mathlib.Data.List.TakeDrop

/-! Cutting a text at a mark or at the end of a run, where the place of the cut is known.
-/

namespace DiagramRepair.Text

theorem cutAt?_append {mark : Char} {front : Text} (h : mark ∉ front) (back : Text)
    : cutAt? mark (front ++ mark :: back) = some (front, back) := by
  induction front with
  | nil => simp [cutAt?]
  | cons c front ih =>
      rw [List.mem_cons, not_or] at h
      simp [cutAt?, Ne.symm h.1, ih h.2]

theorem cutAt?_eq_none_iff {mark : Char} {text : Text}
    : cutAt? mark text = none ↔ mark ∉ text := by
  constructor
  · intro h hm
    obtain ⟨front, back, rfl, hf⟩ := List.eq_append_cons_of_mem hm
    rw [cutAt?_append hf] at h
    contradiction
  · intro h
    cases hcut : cutAt? mark text with
    | none => rfl
    | some sides =>
        rw [(cutAt?_eq_some hcut).1] at h
        exact absurd (by simp) h

/-- A run ends where a character of another kind stands. -/
theorem takeWhile_append_cons {kind : Char → Bool} {run : Text} {c : Char} (rest : Text)
    (hr : ∀ d ∈ run, kind d = true) (hc : kind c = false)
    : (run ++ c :: rest).takeWhile kind = run := by
  rw [List.takeWhile_append_of_pos hr, List.takeWhile_cons_of_neg (by simp [hc]),
    List.append_nil]

theorem dropWhile_append_cons {kind : Char → Bool} {run : Text} {c : Char} (rest : Text)
    (hr : ∀ d ∈ run, kind d = true) (hc : kind c = false)
    : (run ++ c :: rest).dropWhile kind = c :: rest := by
  rw [List.dropWhile_append_of_pos hr, List.dropWhile_cons_of_neg (by simp [hc])]

/-- A text with a last character of a kind. -/
theorem exists_last_of_any {kind : Char → Bool} {text : Text}
    (h : text.getLast?.any kind = true)
    : ∃ front last, text = front ++ [last] ∧ kind last = true := by
  obtain ⟨last, hlast, hkind⟩ := (Option.any_eq_true _ _).1 h
  obtain ⟨front, hfront⟩ := List.getLast?_eq_some_iff.1 hlast
  exact ⟨front, last, hfront, hkind⟩

/-- A span is the longest run of a kind. -/
theorem span_spec (kind : Char → Bool) (text : Text)
    : ∃ run rest,
        text.span kind = (run, rest)
        ∧ text = run ++ rest
        ∧ (∀ c ∈ run, kind c = true)
        ∧ ∀ c, rest.head? = some c → kind c = false := by
  refine ⟨text.takeWhile kind, text.dropWhile kind, List.span_eq_takeWhile_dropWhile _ _,
    List.takeWhile_append_dropWhile.symm, fun c hc => List.mem_takeWhile_imp hc, ?_⟩
  intro c hc
  have hhead := List.head?_dropWhile_not kind text
  rw [hc] at hhead
  simpa using hhead

theorem span_append {kind : Char → Bool} {run rest : Text} (hr : ∀ c ∈ run, kind c = true)
    (hh : ∀ c, rest.head? = some c → kind c = false)
    : (run ++ rest).span kind = (run, rest) := by
  rw [List.span_eq_takeWhile_dropWhile]
  cases rest with
  | nil =>
      rw [List.append_nil, List.takeWhile_eq_self_iff.2 hr, List.dropWhile_eq_nil_iff.2 hr]
  | cons c rest =>
      rw [takeWhile_append_cons rest hr (hh c rfl), dropWhile_append_cons rest hr (hh c rfl)]

theorem before_append {mark : Char} {front : Text} (h : mark ∉ front) (back : Text)
    : before mark (front ++ mark :: back) = front := by
  refine takeWhile_append_cons _ ?_ (by simp)
  intro c hc
  simpa using fun he : c = mark => h (he ▸ hc)

theorem before_cons_of_ne {mark c : Char} (h : c ≠ mark) (rest : Text)
    : before mark (c :: rest) = c :: before mark rest :=
  List.takeWhile_cons_of_pos (by simpa using h)

theorem before_append_of_not_mem {mark : Char} {front : Text} (h : mark ∉ front) (back : Text)
    : before mark (front ++ back) = front ++ before mark back := by
  refine List.takeWhile_append_of_pos ?_
  intro c hc
  simpa using fun he : c = mark => h (he ▸ hc)

theorem behind_append {mark : Char} {front : Text} (h : mark ∉ front) (back : Text)
    : behind mark (front ++ mark :: back) = back := by
  rw [behind, dropWhile_append_cons _ _ (by simp), List.drop_one, List.tail_cons]
  intro c hc
  simpa using fun he : c = mark => h (he ▸ hc)

theorem before_of_not_mem {mark : Char} {text : Text} (h : mark ∉ text)
    : before mark text = text := by
  rw [before, List.takeWhile_eq_self_iff]
  intro c hc
  simpa using fun he : c = mark => h (he ▸ hc)

/-- A character that a text does not hold hides what is behind it from that text. -/
theorem prefix_append_cons_iff {lead front back : Text} {c : Char} (h : c ∉ lead)
    : lead <+: front ++ c :: back ↔ lead <+: front := by
  induction lead generalizing front with
  | nil => simp
  | cons first rest ih =>
      have hrest : c ∉ rest := fun hm => h (List.mem_cons_of_mem _ hm)
      cases front with
      | nil =>
          have hne : first ≠ c := fun he => h (he ▸ List.mem_cons_self)
          simp [hne]
      | cons d front => simp [ih hrest]

theorem afterLead?_isSome_iff {lead text : Text}
    : (afterLead? lead text).isSome = true ↔ lead <+: text := by
  rw [Option.isSome_iff_exists]
  simp only [afterLead?_eq_some_iff]
  exact exists_congr fun _ => eq_comm

theorem afterLead?_append_cons {lead : Text} {c : Char} (h : c ∉ lead) (front back : Text)
    : afterLead? lead (front ++ c :: back) = (afterLead? lead front).map (· ++ c :: back) := by
  induction lead generalizing front with
  | nil => rfl
  | cons first lead ih =>
      rw [List.mem_cons, not_or] at h
      cases front with
      | nil => simp [afterLead?, h.1]
      | cons d front =>
          by_cases hd : d = first
          · simp [afterLead?, hd, ih h.2]
          · simp [afterLead?, hd]

/-- A part without blanks at its ends stops what is trimmed on both sides of it. -/
theorem trim_append_core (front : Text) {core : Text} {first last : Char}
    (hf : core.head? = some first) (hl : core.getLast? = some last)
    (hfb : isBlank first = false) (hlb : isBlank last = false)
    : trim (front ++ core) = trimLeft front ++ core := by
  cases core with
  | nil => contradiction
  | cons c rest =>
      obtain rfl := Option.some.inj hf
      rw [trim_append_cons _ _ hfb, ← trimRight_cons rest hfb, trimRight_eq_self]
      intro d hd
      rw [hl] at hd
      exact Option.some.inj hd ▸ hlb

end DiagramRepair.Text

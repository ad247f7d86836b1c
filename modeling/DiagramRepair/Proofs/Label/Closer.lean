import DiagramRepair.Proofs.Label.Pieces
import DiagramRepair.Proofs.Text.Cut

/-! The search for the closer of a label. It goes on by single characters and by quoted runs, and
keeps count of the brackets that are open. A text is neutral when every search inside brackets
passes over it: the label that a search finds is neutral, and so is a quoted run. So a whole node
does not matter to a search that comes to it, whatever neutral text its label is.
-/

namespace DiagramRepair.Label

open Text

-----------------------------------------------------------------------------------------
-- Quotes in pairs
-----------------------------------------------------------------------------------------

/-- A text in which every double quote has a partner: single characters and quoted runs. -/
inductive Paired : Text → Prop
  | nil : Paired []
  | char {c : Char} {rest : Text} (plain : c ≠ '"') (behind : Paired rest) : Paired (c :: rest)
  | run {inside rest : Text} (closed : '"' ∉ inside) (behind : Paired rest)
    : Paired ('"' :: inside ++ '"' :: rest)

theorem count_append_of_not_mem {c : Char} {front : Text} (h : c ∉ front) (rest : Text)
    : (front ++ rest).count c = rest.count c := by
  rw [List.count_append, List.count_eq_zero_of_not_mem h, Nat.zero_add]

theorem count_run {inside : Text} (hi : '"' ∉ inside) (rest : Text)
    : List.count '"' ('"' :: inside ++ '"' :: rest) = rest.count '"' + 2 := by
  rw [List.cons_append, List.count_cons_self, count_append_of_not_mem hi, List.count_cons_self]

/-- An even number of double quotes makes pairs, by recursion on the text behind a run. -/
theorem paired_of_count : (text : Text) → text.count '"' % 2 = 0 → Paired text
  | [], _ => .nil
  | c :: rest, h => by
      by_cases hc : c = '"'
      · subst hc
        have hmem : '"' ∈ rest := by
          rw [List.count_cons_self] at h
          rw [← List.count_pos_iff]
          omega
        obtain ⟨inside, behind, rfl, hi⟩ := List.eq_append_cons_of_mem hmem
        rw [← List.cons_append, count_run hi] at h
        exact .run hi (paired_of_count behind (by omega))
      · rw [List.count_cons_of_ne hc] at h
        exact .char hc (paired_of_count rest h)
termination_by text => text.length

theorem paired_of_not_mem {text : Text} (h : '"' ∉ text) : Paired text :=
  paired_of_count text (by rw [List.count_eq_zero_of_not_mem h])

-----------------------------------------------------------------------------------------
-- The delimiters of shapes
-----------------------------------------------------------------------------------------

/-- The characters that openers and closers of shapes are made of. -/
def delimiters : List Char :=
  ['[', ']', '(', ')', '{', '}', '/', '\\']

theorem Shape.opener_subset_delimiters (shape : Shape) : shape.opener ⊆ delimiters := by
  cases shape <;> decide

theorem Shape.not_closing_of_mem_opener {shape : Shape} {c : Char} (h : c ∈ shape.opener)
    : isClosingBracket c = false := by
  have hall : (shape.opener.all fun c => !isClosingBracket c) = true := by
    cases shape <;> decide
  simpa using List.all_eq_true.1 hall c h

theorem Shape.closer_subset_delimiters (shape : Shape)
    : ∀ closer ∈ shape.closers, closer ≠ [] ∧ closer ⊆ delimiters := by
  cases shape <;> decide

theorem Shape.not_opening_of_mem_closer {shape : Shape} {closer : Text}
    (hk : closer ∈ shape.closers) {c : Char} (h : c ∈ closer)
    : isOpeningBracket c = false := by
  have hall : ∀ closer ∈ shape.closers, (closer.all fun c => !isOpeningBracket c) = true := by
    cases shape <;> decide
  simpa using List.all_eq_true.1 (hall closer hk) c h

theorem Shape.exists_bracket_of_mem_closers {shape : Shape} {closer : Text}
    (hk : closer ∈ shape.closers)
    : ∃ front bracket, closer = front ++ [bracket] ∧ isClosingBracket bracket = true := by
  have hall : ∀ closer ∈ shape.closers, closer.getLast?.any isClosingBracket = true := by
    cases shape <;> decide
  exact exists_last_of_any (hall closer hk)

theorem Shape.exists_bracket_opener (shape : Shape)
    : ∃ bracket rest, shape.opener = bracket :: rest ∧ isOpeningBracket bracket = true := by
  cases shape <;> exact ⟨_, _, rfl, by decide⟩

/-- The closers of a shape are of one length. -/
theorem Shape.length_closer {shape : Shape} {closer other : Text} (hk : closer ∈ shape.closers)
    (ho : other ∈ shape.closers)
    : closer.length = other.length := by
  have hall : ∀ closer ∈ shape.closers, ∀ other ∈ shape.closers,
      closer.length = other.length := by
    cases shape <;> decide
  exact hall closer hk other ho

/-- A closer closes as many brackets as the opener opens. -/
theorem Shape.countP_closer {shape : Shape} {closer : Text} (hk : closer ∈ shape.closers)
    : closer.countP isClosingBracket = shape.opener.countP isOpeningBracket := by
  have hall : ∀ closer ∈ shape.closers,
      closer.countP isClosingBracket = shape.opener.countP isOpeningBracket := by
    cases shape <;> decide
  exact hall closer hk

theorem not_bracket_of_not_mem_delimiters {c : Char} (hd : c ∉ delimiters)
    : isOpeningBracket c = false ∧ isClosingBracket c = false := by
  simp only [delimiters, List.mem_cons, List.not_mem_nil, or_false, not_or] at hd
  simp [isOpeningBracket, isClosingBracket, hd]

theorem ne_quote_of_mem_delimiters {c : Char} (h : c ∈ delimiters) : c ≠ '"' := by
  rintro rfl
  exact absurd h (by decide)

theorem Shape.quote_not_mem_opener (shape : Shape) : '"' ∉ shape.opener :=
  fun hm => ne_quote_of_mem_delimiters (shape.opener_subset_delimiters hm) rfl

theorem Shape.quote_not_mem_closer {shape : Shape} {closer : Text} (hk : closer ∈ shape.closers)
    : '"' ∉ closer :=
  fun hm => ne_quote_of_mem_delimiters ((shape.closer_subset_delimiters closer hk).2 hm) rfl

-----------------------------------------------------------------------------------------
-- Closers at the start of a text
-----------------------------------------------------------------------------------------

theorem closerAt?_eq_none_iff {closers : List Text} {text : Text}
    : closerAt? closers text = none ↔ ∀ closer ∈ closers, ¬closer <+: text := by
  rw [closerAt?, List.findSome?_eq_none_iff]
  refine forall₂_congr fun closer _ => ?_
  rw [Option.map_eq_none_iff, ← Option.not_isSome_iff_eq_none, afterLead?_isSome_iff]

theorem closerAt?_append {shape : Shape} {closer : Text} (hk : closer ∈ shape.closers)
    (behind : Text)
    : closerAt? shape.closers (closer ++ behind) = some (closer, behind) := by
  cases shape <;> simp only [Shape.closers, List.mem_cons, List.not_mem_nil, or_false] at hk
  case parallelogram => rcases hk with rfl | rfl <;> rfl
  case trapezoid => rcases hk with rfl | rfl <;> rfl
  all_goals
    subst hk
    rfl

theorem closersAt_subset (depth : Nat) (closers : List Text)
    : closersAt depth closers ⊆ closers := by
  cases depth with
  | zero => exact List.Subset.refl closers
  | succ depth => exact List.nil_subset closers

/-- No closer starts with an opening bracket or with a character that is no delimiter. -/
theorem closerAt?_cons_eq_none {shape : Shape} {c : Char}
    (hc : c ∉ delimiters ∨ isOpeningBracket c = true) (depth : Nat) (rest : Text)
    : closerAt? (closersAt depth shape.closers) (c :: rest) = none := by
  rw [closerAt?_eq_none_iff]
  intro closer hm hprefix
  have hk := closersAt_subset depth shape.closers hm
  obtain ⟨hne, hchars⟩ := shape.closer_subset_delimiters closer hk
  obtain ⟨first, more, rfl⟩ := List.exists_cons_of_ne_nil hne
  obtain ⟨rfl, -⟩ := List.cons_prefix_cons.1 hprefix
  rcases hc with hc | hc
  · exact hc (hchars List.mem_cons_self)
  · simp [Shape.not_opening_of_mem_closer hk List.mem_cons_self] at hc

theorem closerAt?_quote (shape : Shape) (depth : Nat) (rest : Text)
    : closerAt? (closersAt depth shape.closers) ('"' :: rest) = none :=
  closerAt?_cons_eq_none (Or.inl (by decide)) depth rest

-----------------------------------------------------------------------------------------
-- Steps of the search
-----------------------------------------------------------------------------------------

/-- How many brackets are open behind a character that is no double quote; none if it closes one
too many. -/
def depthAfter (c : Char) (depth : Nat) : Option Nat :=
  if isOpeningBracket c then some (depth + 1)
  else if isClosingBracket c then
    match depth with
    | 0 => none
    | depth + 1 => some depth
  else some depth

theorem depthAfter_add {c : Char} {depth next : Nat} (h : depthAfter c depth = some next)
    (outer : Nat)
    : depthAfter c (depth + outer) = some (next + outer) := by
  unfold depthAfter at h ⊢
  split at h
  · rename_i hopen
    obtain rfl := Option.some.inj h
    rw [if_pos hopen, Nat.add_right_comm]
  · rename_i hopen
    rw [if_neg hopen]
    split at h
    · rename_i hclose
      rw [if_pos hclose]
      cases depth with
      | zero => contradiction
      | succ depth =>
          obtain rfl := Option.some.inj h
          rw [Nat.add_right_comm]
    · rename_i hclose
      obtain rfl := Option.some.inj h
      rw [if_neg hclose]

@[simp]
theorem extend_nil : Closing.extend [] = id :=
  rfl

@[simp]
theorem extend_comp_extend (first second : Text)
    : Closing.extend first ∘ Closing.extend second = Closing.extend (first ++ second) := by
  funext closing
  simp [Closing.extend]

theorem map_extend_eq_some_iff {lead content closer behind : Text} {found : Option Closing}
    : found.map (Closing.extend lead) = some ⟨lead ++ content, closer, behind⟩
      ↔ found = some ⟨content, closer, behind⟩ := by
  cases found with
  | none => simp
  | some closing =>
      cases closing
      simp [Closing.extend]

/-- A search that no closer ends goes on behind a character, at the depth behind it. -/
theorem close?_cons {closers : List Text} {depth : Nat} {c : Char} {rest : Text}
    (hnone : closerAt? (closersAt depth closers) (c :: rest) = none) (hq : c ≠ '"')
    : close? closers depth (c :: rest)
      = (depthAfter c depth).bind fun next => (close? closers next rest).map (.extend [c]) := by
  rw [close?.eq_def]
  unfold depthAfter
  simp only [hnone, hq, if_false]
  split
  · rfl
  · split
    · cases depth with
      | zero => rfl
      | succ depth => rfl
    · rfl

/-- A search that no closer ends passes over a quoted run. -/
theorem close?_run {closers : List Text} {depth : Nat} {inside rest : Text}
    (hnone : closerAt? (closersAt depth closers) ('"' :: (inside ++ '"' :: rest)) = none)
    (hi : '"' ∉ inside)
    : close? closers depth ('"' :: (inside ++ '"' :: rest))
      = (close? closers depth rest).map (.extend ('"' :: inside ++ ['"'])) := by
  rw [close?.eq_def]
  simp only [hnone, if_true]
  split
  · rename_i front back hcut
    rw [cutAt?_append hi] at hcut
    obtain ⟨rfl, rfl⟩ := Prod.mk.inj (Option.some.inj hcut)
    rfl
  · rename_i hcut
    rw [cutAt?_append hi] at hcut
    contradiction

/-- A double quote without a partner is passed over as a single character. -/
theorem close?_open {closers : List Text} {depth : Nat} {rest : Text}
    (hnone : closerAt? (closersAt depth closers) ('"' :: rest) = none) (hr : '"' ∉ rest)
    : close? closers depth ('"' :: rest) = (close? closers depth rest).map (.extend ['"']) := by
  rw [close?.eq_def]
  simp only [hnone, if_true]
  split
  · rename_i front back hcut
    rw [cutAt?_eq_none_iff.2 hr] at hcut
    contradiction
  · rfl

theorem close?_of_closerAt? {closers : List Text} {text closer behind : Text}
    (hne : text ≠ []) (h : closerAt? closers text = some (closer, behind))
    : close? closers 0 text = some ⟨[], closer, behind⟩ := by
  obtain ⟨c, rest, rfl⟩ := List.exists_cons_of_ne_nil hne
  rw [close?]
  simp only [closersAt, h]

-----------------------------------------------------------------------------------------
-- What a search has found
-----------------------------------------------------------------------------------------

/-- A search that finds nothing in front of a closer has come to it outside all brackets. -/
theorem depth_of_close?_nil {closers : List Text} {depth : Nat} {text closer behind : Text}
    (h : close? closers depth text = some ⟨[], closer, behind⟩)
    : depth = 0 := by
  cases text with
  | nil => simp [close?] at h
  | cons c rest =>
      cases depth with
      | zero => rfl
      | succ depth =>
          have hnone : closerAt? (closersAt (depth + 1) closers) (c :: rest) = none := rfl
          by_cases hq : c = '"'
          · subst hq
            cases hcut : cutAt? '"' rest with
            | none =>
                rw [close?_open hnone (cutAt?_eq_none_iff.1 hcut)] at h
                obtain ⟨inner, -, heq⟩ := Option.map_eq_some_iff.1 h
                simp [Closing.extend] at heq
            | some sides =>
                obtain ⟨rfl, hi⟩ := cutAt?_eq_some hcut
                rw [close?_run hnone hi] at h
                obtain ⟨inner, -, heq⟩ := Option.map_eq_some_iff.1 h
                simp [Closing.extend] at heq
          · rw [close?_cons hnone hq] at h
            obtain ⟨next, -, hnext⟩ := Option.bind_eq_some_iff.1 h
            obtain ⟨inner, -, heq⟩ := Option.map_eq_some_iff.1 hnext
            simp [Closing.extend] at heq

/-- No closer stands where the content of a label goes on. -/
theorem closerAt?_of_close? {closers : List Text} {depth : Nat} {c : Char}
    {text content closer behind : Text}
    (h : close? closers depth text = some ⟨c :: content, closer, behind⟩)
    : closerAt? (closersAt depth closers) text = none := by
  cases text with
  | nil => simp [close?] at h
  | cons d rest =>
      cases hclose : closerAt? (closersAt depth closers) (d :: rest) with
      | none => rfl
      | some found =>
          rw [close?.eq_def] at h
          simp [hclose] at h

/-- A search that passed over a character goes on at the depth behind it. -/
theorem exists_depthAfter_of_close? {closers : List Text} {depth : Nat} {c : Char}
    {rest content closer behind : Text} (hq : c ≠ '"')
    (h : close? closers depth (c :: rest) = some ⟨c :: content, closer, behind⟩)
    : ∃ next,
        depthAfter c depth = some next
        ∧ close? closers next rest = some ⟨content, closer, behind⟩ := by
  rw [close?_cons (closerAt?_of_close? h) hq] at h
  obtain ⟨next, hdepth, hnext⟩ := Option.bind_eq_some_iff.1 h
  exact ⟨next, hdepth, map_extend_eq_some_iff.1 hnext⟩

/-- A search that passed over a quoted run goes on behind it. -/
theorem close?_behind_run {closers : List Text} {depth : Nat}
    {inside rest content closer behind : Text} (hi : '"' ∉ inside)
    (h : close? closers depth ('"' :: inside ++ '"' :: rest)
      = some ⟨'"' :: inside ++ '"' :: content, closer, behind⟩)
    : close? closers depth rest = some ⟨content, closer, behind⟩ := by
  have hnone := closerAt?_of_close? h
  rw [List.cons_append] at h hnone
  have hcontent : '"' :: inside ++ '"' :: content = ('"' :: inside ++ ['"']) ++ content := by
    simp
  rw [close?_run hnone hi, hcontent] at h
  exact map_extend_eq_some_iff.1 h

-----------------------------------------------------------------------------------------
-- Neutral texts
-----------------------------------------------------------------------------------------

/-- Every search that comes to the text inside brackets passes over it, and is then at the depth
that it came with. -/
def IsNeutral (content : Text) : Prop :=
  ∀ (closers : List Text) (depth : Nat) (rest : Text),
    close? closers (depth + 1) (content ++ rest)
      = (close? closers (depth + 1) rest).map (.extend content)

theorem isNeutral_run {inside : Text} (hi : '"' ∉ inside)
    : IsNeutral ('"' :: inside ++ ['"']) := by
  intro closers depth rest
  have hassoc : '"' :: inside ++ ['"'] ++ rest = '"' :: (inside ++ '"' :: rest) := by simp
  rw [hassoc]
  exact close?_run rfl hi

/-- Behind a label that a search has found, any search inside further brackets is at the depth at
which the label was searched for. By induction on the label: no closer stops a search inside
brackets, and every other step is that of the search that found the label. -/
theorem close?_lift {closers : List Text} {content : Text} (hq : Paired content) {depth : Nat}
    {text closer behind : Text}
    (h : close? closers depth (content ++ text) = some ⟨content, closer, behind⟩)
    (others : List Text) (outer : Nat) (rest : Text)
    : close? others (depth + outer + 1) (content ++ rest)
      = (close? others (outer + 1) rest).map (.extend content) := by
  induction hq generalizing depth with
  | nil =>
      obtain rfl := depth_of_close?_nil h
      simp
  | @char c content plain _ ih =>
      obtain ⟨next, hdepth, hnext⟩ := exists_depthAfter_of_close? plain h
      have hlift : depthAfter c (depth + outer + 1) = some (next + outer + 1) :=
        depthAfter_add hdepth (outer + 1)
      rw [List.cons_append, close?_cons rfl plain, hlift, Option.bind_some, ih hnext]
      simp
  | @run inside content closed _ ih =>
      have hassoc : ∀ text : Text, '"' :: inside ++ '"' :: content ++ text
          = '"' :: (inside ++ '"' :: (content ++ text)) := by
        simp
      rw [hassoc] at h ⊢
      rw [close?_run rfl closed, ih (close?_behind_run closed h)]
      simp

/-- The label that a search outside all brackets finds is neutral. -/
theorem isNeutral_of_close? {closers : List Text} {content text closer behind : Text}
    (hq : Paired content)
    (h : close? closers 0 (content ++ text) = some ⟨content, closer, behind⟩)
    : IsNeutral content := by
  intro others depth rest
  have hlift := close?_lift hq h others depth rest
  rwa [Nat.zero_add] at hlift

-----------------------------------------------------------------------------------------
-- Searches over labels and nodes
-----------------------------------------------------------------------------------------

/-- A search passes over text without delimiters in which all quotes have partners. -/
theorem close?_append {shape : Shape} {content : Text} (hq : Paired content)
    (hd : ∀ c ∈ content, c ∉ delimiters) (depth : Nat) (rest : Text)
    : close? shape.closers depth (content ++ rest)
      = (close? shape.closers depth rest).map (.extend content) := by
  induction hq with
  | nil => simp
  | @char c content plain _ ih =>
      obtain ⟨hc, hcontent⟩ := List.forall_mem_cons.1 hd
      obtain ⟨hopen, hclose⟩ := not_bracket_of_not_mem_delimiters hc
      have hdepth : depthAfter c depth = some depth := by simp [depthAfter, hopen, hclose]
      rw [List.cons_append, close?_cons (closerAt?_cons_eq_none (Or.inl hc) depth _) plain, hdepth,
        Option.bind_some, ih hcontent]
      simp
  | @run inside content closed _ ih =>
      have hcontent : ∀ c ∈ content, c ∉ delimiters := fun c hc => hd c (by simp [hc])
      have hassoc : '"' :: inside ++ '"' :: content ++ rest
          = '"' :: (inside ++ '"' :: (content ++ rest)) := by
        simp
      rw [hassoc, close?_run (closerAt?_quote shape depth _) closed,
        ih hcontent]
      simp

theorem close?_closer {shape : Shape} {closer : Text} (hk : closer ∈ shape.closers)
    (behind : Text)
    : close? shape.closers 0 (closer ++ behind) = some ⟨[], closer, behind⟩ := by
  have hne := (shape.closer_subset_delimiters closer hk).1
  exact close?_of_closerAt? (List.append_ne_nil_of_left_ne_nil hne behind)
    (closerAt?_append hk behind)

/-- Inside brackets, text that closes none of them adds those that it opens. -/
theorem close?_opening (closers : List Text) {lead : Text}
    (h : ∀ c ∈ lead, isClosingBracket c = false ∧ c ≠ '"') (depth : Nat) (rest : Text)
    : close? closers (depth + 1) (lead ++ rest)
      = (close? closers (depth + lead.countP isOpeningBracket + 1) rest).map (.extend lead) := by
  induction lead generalizing depth with
  | nil => simp
  | cons c lead ih =>
      obtain ⟨⟨hclose, hq⟩, hlead⟩ := List.forall_mem_cons.1 h
      rw [List.cons_append, close?_cons rfl hq, depthAfter, hclose, List.countP_cons]
      cases hopen : isOpeningBracket c with
      | true =>
          have hdepth : depth + (lead.countP isOpeningBracket + 1) + 1
              = depth + 1 + lead.countP isOpeningBracket + 1 := by
            omega
          simp [ih hlead (depth + 1), hdepth]
      | false => simp [ih hlead depth]

/-- A search that comes to an opener goes on inside its brackets. -/
theorem close?_opener (shape other : Shape) (depth : Nat) (rest : Text)
    : close? shape.closers depth (other.opener ++ rest)
      = (close? shape.closers (depth + other.opener.countP isOpeningBracket) rest).map
          (.extend other.opener) := by
  have hplain : ∀ c ∈ other.opener, isClosingBracket c = false ∧ c ≠ '"' := fun c hc =>
    ⟨Shape.not_closing_of_mem_opener hc,
      ne_quote_of_mem_delimiters (other.opener_subset_delimiters hc)⟩
  obtain ⟨bracket, lead, hopener, hopen⟩ := other.exists_bracket_opener
  rw [hopener] at hplain ⊢
  obtain ⟨⟨-, hq⟩, hlead⟩ := List.forall_mem_cons.1 hplain
  have hdepth : depthAfter bracket depth = some (depth + 1) := if_pos hopen
  rw [List.cons_append, close?_cons (closerAt?_cons_eq_none (Or.inr hopen) depth _) hq, hdepth,
    Option.bind_some, close?_opening _ hlead, List.countP_cons_of_pos hopen]
  simp [Nat.add_assoc]

/-- Text that ends in a closing bracket, and opens none, ends the brackets that it closes. By
induction on the text in front of that bracket, which is inside brackets all the time. -/
theorem close?_closing (closers : List Text) {front : Text} {bracket : Char}
    (hf : ∀ c ∈ front, isOpeningBracket c = false ∧ c ≠ '"')
    (hb : (isOpeningBracket bracket = false ∧ bracket ≠ '"') ∧ isClosingBracket bracket = true)
    (depth : Nat) (rest : Text)
    : close? closers (depth + front.countP isClosingBracket + 1) (front ++ bracket :: rest)
      = (close? closers depth rest).map (.extend (front ++ [bracket])) := by
  induction front with
  | nil =>
      obtain ⟨⟨hopen, hq⟩, hclose⟩ := hb
      rw [List.nil_append, close?_cons rfl hq, depthAfter, hopen, hclose]
      simp
  | cons c front ih =>
      obtain ⟨⟨hopen, hq⟩, hfront⟩ := List.forall_mem_cons.1 hf
      rw [List.cons_append, close?_cons rfl hq, depthAfter, hopen, List.countP_cons]
      cases hclose : isClosingBracket c with
      | true => simp [← Nat.add_assoc, ih hfront]
      | false => simp [ih hfront]

/-- A search passes over a whole node with a neutral label. -/
theorem close?_node (shape : Shape) {other : Shape} {content closer : Text}
    (hn : IsNeutral content) (hk : closer ∈ other.closers) (depth : Nat) (rest : Text)
    : close? shape.closers depth (other.opener ++ (content ++ (closer ++ rest)))
      = (close? shape.closers depth rest).map (.extend (other.opener ++ (content ++ closer))) := by
  have hplain : ∀ c ∈ closer, isOpeningBracket c = false ∧ c ≠ '"' := fun c hc =>
    ⟨Shape.not_opening_of_mem_closer hk hc,
      ne_quote_of_mem_delimiters ((other.closer_subset_delimiters closer hk).2 hc)⟩
  have hcount := Shape.countP_closer hk
  obtain ⟨front, bracket, rfl, hclose⟩ := Shape.exists_bracket_of_mem_closers hk
  obtain ⟨hfront, hbracket⟩ := List.forall_mem_append.1 hplain
  rw [List.countP_append, List.countP_singleton, if_pos hclose] at hcount
  rw [close?_opener, ← hcount, ← Nat.add_assoc, hn, List.append_assoc, List.singleton_append,
    close?_closing _ hfront ⟨hbracket bracket List.mem_cons_self, hclose⟩]
  simp

end DiagramRepair.Label

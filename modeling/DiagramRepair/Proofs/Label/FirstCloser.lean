import DiagramRepair.Proofs.Label.Closer

/-! Which closer a search finds, said by the positions of a line. The double quotes from the start
of the search on make closed runs, two by two, and the characters outside of them open and close
brackets. A search that comes to a position has passed over nothing that could have ended it. So it
finds the first closer that stands outside of all runs and all brackets, unless a bracket too many
is closed before.
-/

namespace DiagramRepair.Label

open Text

-----------------------------------------------------------------------------------------
-- Closed runs and depth
-----------------------------------------------------------------------------------------

/-- The positions of the double quotes of a line from a position on. -/
def quotesFrom (text : Text) (start : Nat) : List Nat :=
  (List.range' start (text.length - start)).filter fun position => text[position]? == some '"'

/-- Neighbours two by two. The last one may be left without a partner. -/
def inPairs : List Nat → List (Nat × Nat)
  | first :: last :: more => (first, last) :: inPairs more
  | _ => []

/-- The closed runs of a line from a position on, each given by its two quotes. -/
def closedRuns (text : Text) (start : Nat) : List (Nat × Nat) :=
  inPairs (quotesFrom text start)

/-- A position lies in one of the closed runs, or at one of their quotes. -/
def InClosedRun (text : Text) (start position : Nat) : Prop :=
  ∃ run ∈ closedRuns text start, run.1 ≤ position ∧ position ≤ run.2

instance (text : Text) (start position : Nat) : Decidable (InClosedRun text start position) :=
  inferInstanceAs (Decidable (∃ run ∈ closedRuns text start, run.1 ≤ position ∧ position ≤ run.2))

/-- The characters between two positions that lie outside of the closed runs. -/
def textOutside (text : Text) (start position : Nat) : Text :=
  (List.range' start (position - start)).filterMap fun place =>
    if InClosedRun text start place then none else text[place]?

/-- How many brackets more a text opens than it closes. -/
def excess (text : Text) : Int :=
  text.countP isOpeningBracket - text.countP isClosingBracket

/-- How many brackets more are opened than closed between two positions, outside of the closed
runs. -/
def depthAt (text : Text) (start position : Nat) : Int :=
  excess (textOutside text start position)

/-- A position outside of every closed run and of every bracket. -/
def IsOuter (text : Text) (start position : Nat) : Prop :=
  ¬InClosedRun text start position ∧ depthAt text start position = 0

/-- A closer at an outer position ends the label that starts at `start`: of the closers that stand
there it is the preferred one, and at no outer position before does any closer stand or a bracket
close. -/
structure IsFirstCloser (closers : List Text) (text : Text) (start position : Nat) (closer : Text)
    : Prop where
  from_start : start ≤ position
  outer : IsOuter text start position
  stands : closer <+: text.drop position
  preferred
    : ∃ before after,
        closers = before ++ closer :: after ∧ ∀ other ∈ before, ¬other <+: text.drop position
  first
    : ∀ place,
        start ≤ place
        → place < position
        → IsOuter text start place
        → ∀ other ∈ closers, ¬other <+: text.drop place
  enclosed
    : ∀ place c,
        start ≤ place
        → place < position
        → IsOuter text start place
        → text[place]? = some c
        → isClosingBracket c = false

/-- Where the closer stands that a search from a position of a line on finds, and which it is. -/
def closerFrom? (closers : List Text) (depth : Nat) (text : Text) (start : Nat)
    : Option (Nat × Text) :=
  (close? closers depth (text.drop start)).map fun closing =>
    (start + closing.content.length, closing.closer)

-----------------------------------------------------------------------------------------
-- Quotes from a position on
-----------------------------------------------------------------------------------------

section Positions

variable {text : Text} {start position last : Nat} {c : Char}

theorem le_of_mem_quotesFrom (h : position ∈ quotesFrom text start) : start ≤ position :=
  (List.mem_range'_1.1 (List.mem_filter.1 h).1).1

theorem quotesFrom_succ (h : text[start]? = some c)
    : quotesFrom text start
      = if c = '"' then start :: quotesFrom text (start + 1) else quotesFrom text (start + 1) := by
  obtain ⟨hlt, -⟩ := List.getElem?_eq_some_iff.1 h
  have hlength : text.length - start = (text.length - (start + 1)) + 1 := by omega
  rw [quotesFrom, hlength, List.range'_succ, List.filter_cons, h]
  simp [quotesFrom]

theorem quotesFrom_eq_nil (h : '"' ∉ text.drop start) : quotesFrom text start = [] := by
  rw [quotesFrom, List.filter_eq_nil_iff]
  intro position hposition hquote
  obtain ⟨hle, -⟩ := List.mem_range'_1.1 hposition
  have hdrop : (text.drop start)[position - start]? = some '"' := by
    rw [List.getElem?_drop, Nat.add_sub_cancel' hle]
    exact eq_of_beq hquote
  exact h (List.mem_of_getElem? hdrop)

/-- Text without quotes has no part in the runs, by induction on its end. -/
theorem quotesFrom_eq_of_plain (hle : start ≤ position) (hlength : position ≤ text.length)
    (h : ∀ place, start ≤ place → place < position → text[place]? ≠ some '"')
    : quotesFrom text start = quotesFrom text position := by
  induction position, hle using Nat.le_induction with
  | base => rfl
  | succ position hle ih =>
      have hc : text[position]? = some text[position] := List.getElem?_eq_getElem hlength
      have hplain : text[position] ≠ '"' := by
        have := h position hle (Nat.lt_succ_self position)
        rwa [hc, ne_eq, Option.some.injEq] at this
      rw [ih (Nat.le_of_succ_le hlength) fun place hs hp => h place hs (Nat.lt_succ_of_lt hp),
        quotesFrom_succ hc, if_neg hplain]

theorem fst_mem_of_mem_inPairs {run : Nat × Nat} {quotes : List Nat} (h : run ∈ inPairs quotes)
    : run.1 ∈ quotes := by
  fun_induction inPairs quotes with
  | case1 first last more ih =>
      rcases List.mem_cons.1 h with rfl | h
      · exact List.mem_cons_self
      · exact List.mem_cons_of_mem _ (List.mem_cons_of_mem _ (ih h))
  | case2 => contradiction

theorem le_of_mem_closedRuns {run : Nat × Nat} (h : run ∈ closedRuns text start)
    : start ≤ run.1 :=
  le_of_mem_quotesFrom (fst_mem_of_mem_inPairs h)

/-- A character that is no double quote, or one without a partner, starts no run. -/
theorem closedRuns_of_char (h : text[start]? = some c)
    (hq : c ≠ '"' ∨ '"' ∉ text.drop (start + 1))
    : closedRuns text start = closedRuns text (start + 1) := by
  rw [closedRuns, closedRuns, quotesFrom_succ h]
  split
  · rename_i hc
    rw [quotesFrom_eq_nil (hq.resolve_left (not_not_intro hc))]
    rfl
  · rfl

theorem getElem?_of_drop_eq (front : Text) {back : Text} (h : text.drop start = front ++ c :: back)
    : text[start + front.length]? = some c := by
  rw [← List.getElem?_drop, h]
  simp

theorem drop_of_drop_eq (front : Text) {back : Text} (h : text.drop start = front ++ back)
    : text.drop (start + front.length) = back := by
  rw [← List.drop_drop, h, List.drop_left]

/-- A double quote and the next one make the first run. -/
theorem closedRuns_of_run {inside behind : Text}
    (h : text.drop start = '"' :: (inside ++ '"' :: behind)) (hi : '"' ∉ inside)
    : closedRuns text start
      = (start, start + 1 + inside.length) :: closedRuns text (start + 1 + inside.length + 1) := by
  have hfirst : text[start]? = some '"' := getElem?_of_drop_eq [] h
  have hinside : text.drop (start + 1) = inside ++ '"' :: behind :=
    drop_of_drop_eq ['"'] h
  have hlast : text[start + 1 + inside.length]? = some '"' := getElem?_of_drop_eq _ hinside
  have hplain : quotesFrom text (start + 1) = quotesFrom text (start + 1 + inside.length) := by
    refine quotesFrom_eq_of_plain (Nat.le_add_right _ _)
      (Nat.le_of_lt (List.getElem?_eq_some_iff.1 hlast).1) ?_
    intro place hs hp hquote
    rw [← Nat.add_sub_cancel' hs, ← List.getElem?_drop, hinside,
      List.getElem?_append_left (by omega)] at hquote
    exact hi (List.mem_of_getElem? hquote)
  rw [closedRuns, quotesFrom_succ hfirst, if_pos rfl, hplain, quotesFrom_succ hlast, if_pos rfl]
  rfl

-----------------------------------------------------------------------------------------
-- Depth along a text
-----------------------------------------------------------------------------------------

theorem excess_append (front back : Text)
    : excess (front ++ back) = excess front + excess back := by
  simp only [excess, List.countP_append]
  omega

theorem depthAt_self (text : Text) (start : Nat) : depthAt text start start = 0 := by
  simp [depthAt, textOutside, excess]

theorem textOutside_succ (hle : start ≤ position)
    : textOutside text start (position + 1)
      = textOutside text start position
        ++ if InClosedRun text start position then [] else text[position]?.toList := by
  have hlength : position + 1 - start = (position - start) + 1 := by omega
  have hplace : start + 1 * (position - start) = position := by omega
  rw [textOutside, hlength, List.range'_concat, hplace, List.filterMap_append, textOutside]
  by_cases hin : InClosedRun text start position
  · simp [hin]
  · cases hc : text[position]? <;> simp [hin, hc]

theorem depthAt_succ_of_run (hle : start ≤ position) (hin : InClosedRun text start position)
    : depthAt text start (position + 1) = depthAt text start position := by
  rw [depthAt, textOutside_succ hle, if_pos hin, List.append_nil, depthAt]

theorem depthAt_succ_of_outside (hle : start ≤ position) (hin : ¬InClosedRun text start position)
    : depthAt text start (position + 1)
      = depthAt text start position + excess text[position]?.toList := by
  rw [depthAt, textOutside_succ hle, if_neg hin, excess_append, depthAt]

/-- The depth stays the same over positions that lie in runs, by induction on their end. -/
theorem depthAt_eq_of_runs {stop : Nat} (hle : start ≤ position) (hstop : position ≤ stop)
    (h : ∀ place, position ≤ place → place < stop → InClosedRun text start place)
    : depthAt text start stop = depthAt text start position := by
  induction stop, hstop using Nat.le_induction with
  | base => rfl
  | succ stop hstop ih =>
      rw [depthAt_succ_of_run (hle.trans hstop) (h stop hstop (Nat.lt_succ_self stop)),
        ih fun place hp hs => h place hp (Nat.lt_succ_of_lt hs)]

theorem not_closing_of_opening (h : isOpeningBracket c = true) : isClosingBracket c = false := by
  simp only [isOpeningBracket, Bool.or_eq_true, beq_iff_eq] at h
  rcases h with (rfl | rfl) | rfl <;> decide

/-- A single character closes at most one bracket. -/
theorem excess_singleton (c : Char)
    : -1 ≤ excess [c] ∧ (isClosingBracket c = false → 0 ≤ excess [c]) := by
  rw [excess, List.countP_singleton, List.countP_singleton]
  cases isOpeningBracket c <;> cases isClosingBracket c <;> simp

/-- The depth behind a character counts it as an excess does. -/
theorem eq_add_excess_of_depthAfter {depth next : Nat} (h : depthAfter c depth = some next)
    : (next : Int) = depth + excess [c] := by
  rw [excess, List.countP_singleton, List.countP_singleton]
  unfold depthAfter at h
  split at h
  · rename_i hopen
    obtain rfl := Option.some.inj h
    rw [if_pos hopen, if_neg (by simp [not_closing_of_opening hopen])]
    omega
  · rename_i hopen
    split at h
    · rename_i hclose
      cases depth with
      | zero => contradiction
      | succ depth =>
          obtain rfl := Option.some.inj h
          rw [if_neg hopen, if_pos hclose]
          omega
    · rename_i hclose
      obtain rfl := Option.some.inj h
      rw [if_neg hopen, if_neg hclose]
      omega

theorem not_closing_of_depthAfter_zero {next : Nat} (h : depthAfter c 0 = some next)
    : isClosingBracket c = false := by
  cases hclose : isClosingBracket c with
  | false => rfl
  | true =>
      cases hopen : isOpeningBracket c with
      | false => simp [depthAfter, hopen, hclose] at h
      | true => rw [← hclose, not_closing_of_opening hopen]

theorem closing_of_depthAfter_eq_none {depth : Nat} (h : depthAfter c depth = none)
    : depth = 0 ∧ isClosingBracket c = true := by
  unfold depthAfter at h
  split at h
  · contradiction
  · split at h
    · rename_i hclose
      cases depth with
      | zero => exact ⟨rfl, hclose⟩
      | succ depth => contradiction
    · contradiction

-----------------------------------------------------------------------------------------
-- Positions that a search comes to
-----------------------------------------------------------------------------------------

/-- Nothing at a position outside of all runs and brackets ends a search there. -/
def IsPassed (closers : List Text) (text : Text) (start position : Nat) : Prop :=
  IsOuter text start position
  → (∀ closer ∈ closers, ¬closer <+: text.drop position)
    ∧ ∀ c, text[position]? = some c → isClosingBracket c = false

/-- A search that comes to a position with some brackets open has passed over everything before,
and the runs from here on are the rest of those from the start on. -/
structure Reached (closers : List Text) (text : Text) (start position depth : Nat) : Prop where
  le : start ≤ position
  runs
    : ∃ earlier,
        closedRuns text start = earlier ++ closedRuns text position
        ∧ ∀ run ∈ earlier, run.2 < position
  depth_eq : depthAt text start position = depth
  passed : ∀ place, start ≤ place → place < position → IsPassed closers text start place

variable {closers : List Text} {depth next : Nat}

theorem reached_start (closers : List Text) (text : Text) (start : Nat)
    : Reached closers text start start 0 where
  le := Nat.le_refl start
  runs := ⟨[], rfl, by simp⟩
  depth_eq := depthAt_self text start
  passed := fun place hle hlt => absurd hlt (Nat.not_lt_of_le hle)

/-- A position that a search comes to by single characters lies in no run. -/
theorem Reached.not_inClosedRun (h : Reached closers text start position depth)
    (hruns : closedRuns text position = closedRuns text (position + 1))
    : ¬InClosedRun text start position := by
  obtain ⟨earlier, hstart, hearlier⟩ := h.runs
  rintro ⟨run, hrun, hfst, hsnd⟩
  rw [hstart, hruns] at hrun
  rcases List.mem_append.1 hrun with hrun | hrun
  · exact absurd (hearlier run hrun) (Nat.not_lt_of_le hsnd)
  · exact absurd (le_of_mem_closedRuns hrun) (Nat.not_le_of_lt (Nat.lt_succ_of_le hfst))

theorem Reached.depth_eq_zero (h : Reached closers text start position depth)
    (houter : IsOuter text start position)
    : depth = 0 := by
  have hdepth := h.depth_eq
  rw [houter.2] at hdepth
  omega

/-- Passing over a single character. -/
theorem Reached.step (h : Reached closers text start position depth)
    (hc : text[position]? = some c)
    (hruns : closedRuns text position = closedRuns text (position + 1))
    (hnone : closerAt? (closersAt depth closers) (text.drop position) = none)
    (hdepth : depthAfter c depth = some next)
    : Reached closers text start (position + 1) next := by
  have hout := h.not_inClosedRun hruns
  refine ⟨h.le.trans (Nat.le_succ position), ?_, ?_, ?_⟩
  · obtain ⟨earlier, hstart, hearlier⟩ := h.runs
    exact ⟨earlier, hstart.trans (by rw [hruns]),
      fun run hrun => Nat.lt_succ_of_lt (hearlier run hrun)⟩
  · rw [depthAt_succ_of_outside h.le hout, hc, h.depth_eq, eq_add_excess_of_depthAfter hdepth]
    rfl
  · intro place hle hlt
    rcases Nat.lt_succ_iff_lt_or_eq.1 hlt with hlt | rfl
    · exact h.passed place hle hlt
    · intro houter
      obtain rfl := h.depth_eq_zero houter
      refine ⟨closerAt?_eq_none_iff.1 hnone, fun d hd => ?_⟩
      obtain rfl := Option.some.inj (hc.symm.trans hd)
      exact not_closing_of_depthAfter_zero hdepth

/-- Passing over a closed run, in which no position is outer. -/
theorem Reached.run (h : Reached closers text start position depth) (hle : position ≤ last)
    (hruns : closedRuns text position = (position, last) :: closedRuns text (last + 1))
    : Reached closers text start (last + 1) depth := by
  obtain ⟨earlier, hstart, hearlier⟩ := h.runs
  rw [hruns] at hstart
  have hin : ∀ place, position ≤ place → place < last + 1 → InClosedRun text start place := by
    intro place hp hl
    exact ⟨(position, last), by rw [hstart]; simp, hp, Nat.le_of_lt_succ hl⟩
  have hstop : position ≤ last + 1 := hle.trans (Nat.le_succ last)
  refine ⟨h.le.trans hstop, ⟨earlier ++ [(position, last)], by rw [hstart]; simp, ?_⟩, ?_, ?_⟩
  · intro run hrun
    rcases List.mem_append.1 hrun with hrun | hrun
    · exact (hearlier run hrun).trans_le hstop
    · obtain rfl := List.mem_singleton.1 hrun
      exact Nat.lt_succ_self last
  · rw [depthAt_eq_of_runs h.le hstop hin, h.depth_eq]
  · intro place hs hl houter
    rcases Nat.lt_or_ge place position with hp | hp
    · exact h.passed place hs hp houter
    · exact absurd (hin place hp hl) houter.1

-----------------------------------------------------------------------------------------
-- Ends of a search
-----------------------------------------------------------------------------------------

theorem exists_closerAt?_iff {closer : Text}
    : (∃ behind, closerAt? closers text = some (closer, behind))
      ↔ ∃ before after,
          closers = before ++ closer :: after
          ∧ closer <+: text
          ∧ ∀ other ∈ before, ¬other <+: text := by
  simp only [closerAt?, List.findSome?_eq_some_iff, Option.map_eq_some_iff, Prod.mk.injEq,
    afterLead?_eq_some_iff, ← Option.not_isSome_iff_eq_none, Option.isSome_map,
    afterLead?_isSome_iff]
  constructor
  · rintro ⟨behind, before, _, after, hclosers, ⟨_, htext, rfl, rfl⟩, hbefore⟩
    exact ⟨before, after, hclosers, ⟨_, htext.symm⟩, hbefore⟩
  · rintro ⟨before, after, hclosers, ⟨behind, htext⟩, hbefore⟩
    exact ⟨behind, before, closer, after, hclosers, ⟨behind, htext.symm, rfl, rfl⟩, hbefore⟩

variable {place : Nat} {closer : Text}

theorem IsFirstCloser.mem (h : IsFirstCloser closers text start place closer)
    : closer ∈ closers := by
  obtain ⟨before, after, rfl, -⟩ := h.preferred
  simp

theorem IsFirstCloser.exists_closerAt? (h : IsFirstCloser closers text start place closer)
    : ∃ behind, closerAt? closers (text.drop place) = some (closer, behind) := by
  obtain ⟨before, after, hclosers, hbefore⟩ := h.preferred
  exact exists_closerAt?_iff.2 ⟨before, after, hclosers, h.stands, hbefore⟩

/-- No closer stands before a position that a search comes to. -/
theorem Reached.le_of_isFirstCloser (h : Reached closers text start position depth)
    (hfirst : IsFirstCloser closers text start place closer)
    : position ≤ place := by
  refine Nat.le_of_not_lt fun hlt => ?_
  exact (h.passed place hfirst.from_start hlt hfirst.outer).1 closer hfirst.mem hfirst.stands

/-- A search ends at a closer outside of all brackets. -/
theorem Reached.isFirstCloser_iff (h : Reached closers text start position 0)
    (hout : ¬InClosedRun text start position) {found behind : Text}
    (hclose : closerAt? closers (text.drop position) = some (found, behind))
    : IsFirstCloser closers text start place closer ↔ place = position ∧ closer = found := by
  have houter : IsOuter text start position := ⟨hout, h.depth_eq⟩
  obtain ⟨before, after, hclosers, hstands, hbefore⟩ := exists_closerAt?_iff.1 ⟨behind, hclose⟩
  constructor
  · intro hfirst
    have hplace : place = position := by
      refine (h.le_of_isFirstCloser hfirst).antisymm' (Nat.le_of_not_lt fun hlt => ?_)
      exact hfirst.first position h.le hlt houter found (by simp [hclosers]) hstands
    subst hplace
    obtain ⟨rest, hrest⟩ := hfirst.exists_closerAt?
    exact ⟨rfl, (Prod.mk.inj (Option.some.inj (hrest.symm.trans hclose))).1⟩
  · rintro ⟨rfl, rfl⟩
    exact {
      from_start := h.le
      outer := houter
      stands := hstands
      preferred := ⟨before, after, hclosers, hbefore⟩
      first := fun other hs hp ho => (h.passed other hs hp ho).1
      enclosed := fun other c hs hp ho hc => (h.passed other hs hp ho).2 c hc
    }

/-- A bracket that is closed but was not opened ends a search without a closer. -/
theorem Reached.not_isFirstCloser_of_closing (h : Reached closers text start position 0)
    (hout : ¬InClosedRun text start position)
    (hnone : closerAt? closers (text.drop position) = none)
    (hc : text[position]? = some c) (hclose : isClosingBracket c = true)
    : ¬IsFirstCloser closers text start place closer := by
  intro hfirst
  rcases (h.le_of_isFirstCloser hfirst).lt_or_eq with hlt | rfl
  · have henclosed := hfirst.enclosed position c h.le hlt ⟨hout, h.depth_eq⟩ hc
    rw [hclose] at henclosed
    contradiction
  · exact closerAt?_eq_none_iff.1 hnone closer hfirst.mem hfirst.stands

/-- At the end of the line no closer stands. -/
theorem Reached.not_isFirstCloser_of_end (h : Reached closers text start position depth)
    (hend : text.length ≤ position) (hne : [] ∉ closers)
    : ¬IsFirstCloser closers text start place closer := by
  intro hfirst
  have hstands := hfirst.stands
  rw [List.drop_eq_nil_of_le (hend.trans (h.le_of_isFirstCloser hfirst))] at hstands
  exact hne (List.prefix_nil.1 hstands ▸ hfirst.mem)

-----------------------------------------------------------------------------------------
-- Searches
-----------------------------------------------------------------------------------------

/-- A search that passes over some text goes on behind it. -/
theorem closerFrom?_of_close?_eq (lead : Text)
    (h : close? closers depth (text.drop position)
      = (close? closers next (text.drop (position + lead.length))).map (.extend lead))
    : closerFrom? closers depth text position
      = closerFrom? closers next text (position + lead.length) := by
  rw [closerFrom?, h, Option.map_map, closerFrom?]
  refine congrArg (fun place => Option.map place _) (funext fun closing => ?_)
  simp [Closing.extend, Nat.add_assoc]

section Steps

variable {rest inside behind found : Text}

theorem closerFrom?_of_closerAt? (hdrop : text.drop position = c :: rest)
    (hclose : closerAt? closers (text.drop position) = some (found, behind))
    : closerFrom? closers 0 text position = some (position, found) := by
  rw [closerFrom?, close?_of_closerAt? (hdrop ▸ List.cons_ne_nil c rest) hclose]
  rfl

/-- A search goes on behind a character that starts no closed run, at the depth behind it. -/
theorem close?_char (hq : c ≠ '"' ∨ '"' ∉ rest)
    (hnone : closerAt? (closersAt depth closers) (c :: rest) = none)
    : close? closers depth (c :: rest)
      = (depthAfter c depth).bind fun next => (close? closers next rest).map (.extend [c]) := by
  by_cases hc : c = '"'
  · subst hc
    rw [close?_open hnone (hq.resolve_left (not_not_intro rfl))]
    rfl
  · exact close?_cons hnone hc

theorem closerFrom?_of_char (hdrop : text.drop position = c :: rest) (hq : c ≠ '"' ∨ '"' ∉ rest)
    (hnone : closerAt? (closersAt depth closers) (text.drop position) = none)
    (hdepth : depthAfter c depth = some next)
    : closerFrom? closers depth text position = closerFrom? closers next text (position + 1) := by
  have hrest : text.drop (position + [c].length) = rest := drop_of_drop_eq [c] hdrop
  rw [hdrop] at hnone
  refine closerFrom?_of_close?_eq [c] ?_
  rw [hdrop, hrest, close?_char hq hnone, hdepth, Option.bind_some]

theorem closerFrom?_of_closing (hdrop : text.drop position = c :: rest)
    (hq : c ≠ '"' ∨ '"' ∉ rest)
    (hnone : closerAt? (closersAt depth closers) (text.drop position) = none)
    (hdepth : depthAfter c depth = none)
    : closerFrom? closers depth text position = none := by
  rw [hdrop] at hnone
  rw [closerFrom?, hdrop, close?_char hq hnone, hdepth]
  rfl

theorem closerFrom?_of_run (hdrop : text.drop position = '"' :: (inside ++ '"' :: behind))
    (hi : '"' ∉ inside)
    (hnone : closerAt? (closersAt depth closers) (text.drop position) = none)
    : closerFrom? closers depth text position
      = closerFrom? closers depth text (position + 1 + inside.length + 1) := by
  have hlength : position + ('"' :: inside ++ ['"']).length = position + 1 + inside.length + 1 := by
    simp
    omega
  have hbehind : text.drop (position + ('"' :: inside ++ ['"']).length) = behind :=
    drop_of_drop_eq _ (hdrop.trans (by simp))
  rw [hdrop] at hnone
  rw [← hlength]
  refine closerFrom?_of_close?_eq _ ?_
  rw [hdrop, close?_run hnone hi, hbehind]

end Steps

/-- From a position that a search comes to, it finds the first closer. By recursion on the text
behind the position, with a case for each way to go on. -/
theorem Reached.closerFrom?_eq_some_iff {shape : Shape} {position depth : Nat}
    (h : Reached shape.closers text start position depth)
    : closerFrom? shape.closers depth text position = some (place, closer)
      ↔ IsFirstCloser shape.closers text start place closer := by
  cases hdrop : text.drop position with
  | nil =>
      have hne : [] ∉ shape.closers := fun hm => (shape.closer_subset_delimiters [] hm).1 rfl
      rw [closerFrom?, hdrop, close?]
      simp [h.not_isFirstCloser_of_end (List.drop_eq_nil_iff.1 hdrop) hne]
  | cons c rest =>
      have hc : text[position]? = some c := getElem?_of_drop_eq [] hdrop
      have hrest : text.drop (position + 1) = rest := drop_of_drop_eq [c] hdrop
      have hlt : position < text.length := (List.getElem?_eq_some_iff.1 hc).1
      cases hclose : closerAt? (closersAt depth shape.closers) (text.drop position) with
      | some found =>
          cases depth with
          | succ depth => contradiction
          | zero =>
              have hfound : closerAt? shape.closers (text.drop position) = some found := hclose
              have hq : c ≠ '"' := by
                rintro rfl
                rw [hdrop, closerAt?_quote] at hclose
                contradiction
              have hout := h.not_inClosedRun (closedRuns_of_char hc (Or.inl hq))
              rw [h.isFirstCloser_iff hout hfound, closerFrom?_of_closerAt? hdrop hfound]
              simp [eq_comm]
      | none =>
          by_cases hq : c = '"' ∧ '"' ∈ rest
          · obtain ⟨rfl, hmem⟩ := hq
            obtain ⟨inside, behind, rfl, hi⟩ := List.eq_append_cons_of_mem hmem
            rw [closerFrom?_of_run hdrop hi hclose]
            exact (h.run (by omega) (closedRuns_of_run hdrop hi)).closerFrom?_eq_some_iff
          · have hplain : c ≠ '"' ∨ '"' ∉ rest := not_and_or.1 hq
            have hruns := closedRuns_of_char hc (hrest ▸ hplain)
            cases hdepth : depthAfter c depth with
            | none =>
                obtain ⟨rfl, hclosing⟩ := closing_of_depthAfter_eq_none hdepth
                have hout := h.not_inClosedRun hruns
                rw [closerFrom?_of_closing hdrop hplain hclose hdepth]
                simp [h.not_isFirstCloser_of_closing hout hclose hc hclosing]
            | some next =>
                rw [closerFrom?_of_char hdrop hplain hclose hdepth]
                exact (h.step hc hruns hclose hdepth).closerFrom?_eq_some_iff
termination_by text.length - position

-----------------------------------------------------------------------------------------
-- The closer of a label
-----------------------------------------------------------------------------------------

/-- In front of the first closer no more brackets are closed than opened, by induction on the
position: where all of them are closed, the next character closes none. -/
theorem IsFirstCloser.depthAt_nonneg (h : IsFirstCloser closers text start place closer)
    (hle : start ≤ position) (hplace : position ≤ place)
    : 0 ≤ depthAt text start position := by
  induction position, hle using Nat.le_induction with
  | base => exact Int.le_of_eq (depthAt_self text start).symm
  | succ position hle ih =>
      have hdepth := ih (Nat.le_of_succ_le hplace)
      by_cases hin : InClosedRun text start position
      · rwa [depthAt_succ_of_run hle hin]
      · rw [depthAt_succ_of_outside hle hin]
        cases hc : text[position]? with
        | none => simpa [excess] using hdepth
        | some c =>
            obtain ⟨hleast, hclose⟩ := excess_singleton c
            rw [Option.toList_some]
            by_cases hzero : depthAt text start position = 0
            · have hopen := hclose (h.enclosed position c hle hplace ⟨hin, hzero⟩ hc)
              omega
            · omega

/-- A search from a position of a line on finds the first closer of a shape that stands outside of
all closed runs and all brackets, if no bracket too many is closed before, and else nothing. Up to
that closer there are never more brackets closed than opened, and in the end as many. -/
theorem closerFrom?_finds_first (shape : Shape) (text : Text) (start : Nat)
    : (∀ place closer,
        closerFrom? shape.closers 0 text start = some (place, closer)
        ↔ IsFirstCloser shape.closers text start place closer)
      ∧ (closerFrom? shape.closers 0 text start = none
        ↔ ∀ place closer, ¬IsFirstCloser shape.closers text start place closer)
      ∧ ∀ place closer,
          closerFrom? shape.closers 0 text start = some (place, closer)
          → (∀ position,
              start ≤ position → position ≤ place → 0 ≤ depthAt text start position)
            ∧ depthAt text start place = 0 := by
  have hiff : ∀ place closer,
      closerFrom? shape.closers 0 text start = some (place, closer)
      ↔ IsFirstCloser shape.closers text start place closer :=
    fun _ _ => (reached_start shape.closers text start).closerFrom?_eq_some_iff
  refine ⟨hiff, ?_, ?_⟩
  · rw [Option.eq_none_iff_forall_ne_some, Prod.forall]
    exact forall₂_congr fun place closer => not_congr (hiff place closer)
  · intro place closer hfound
    have hfirst := (hiff place closer).1 hfound
    exact ⟨fun position hle hplace => hfirst.depthAt_nonneg hle hplace, hfirst.outer.2⟩

/-- Brackets of all kinds count alike, and those in a run do not count. -/
example : closerFrom? Shape.rectangle.closers 0 "A[(x] \"]\" y] z".toList 2 = some (11, [']']) := by
  decide +kernel

end Positions

end DiagramRepair.Label

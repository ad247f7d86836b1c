import DiagramRepair.Proofs.Label.Chain

/-! Two nodes on one line, with any double quotes in their labels. The search for the closer of the
first label goes by quoted runs, so a quote without a partner makes a run up to the next quote on
the line, which may be one of the second label. The two nodes are quoted for themselves exactly when
there is no such run, or when there is one and no label changes.
-/

namespace DiagramRepair.Label

open Text

-----------------------------------------------------------------------------------------
-- Labels with stray quotes
-----------------------------------------------------------------------------------------

/-- The last of an odd number of double quotes has no partner. -/
theorem exists_open_of_odd {text : Text} (h : text.count '"' % 2 ≠ 0)
    : ∃ front back, text = front ++ '"' :: back ∧ Paired front ∧ '"' ∉ back := by
  have hmem : '"' ∈ text.reverse := by
    rw [List.mem_reverse, ← List.count_pos_iff]
    omega
  obtain ⟨back, front, hreverse, hback⟩ := List.eq_append_cons_of_mem hmem
  have htext : text = front.reverse ++ '"' :: back.reverse := by
    rw [← List.reverse_reverse text, hreverse]
    simp
  have hstray : '"' ∉ back.reverse := fun hm => hback (List.mem_reverse.1 hm)
  rw [htext, List.count_append, List.count_cons_self, List.count_eq_zero_of_not_mem hstray] at h
  exact ⟨front.reverse, back.reverse, htext, paired_of_count _ (by omega), hstray⟩

section Closer

variable {shape : Shape} {closer : Text} (hk : closer ∈ shape.closers)

include hk

/-- A label ends at its closer where no quote of it has a partner behind the label. -/
theorem close?_label {content behind : Text} (hd : ∀ c ∈ content, c ∉ delimiters)
    (hq : content.count '"' % 2 = 0 ∨ '"' ∉ behind)
    : close? shape.closers 0 (content ++ (closer ++ behind))
      = some ⟨content, closer, behind⟩ := by
  by_cases heven : content.count '"' % 2 = 0
  · rw [close?_append (paired_of_count content heven) hd, close?_closer hk]
    simp [Closing.extend]
  · have hbehind : '"' ∉ behind := hq.resolve_left heven
    obtain ⟨front, back, rfl, hfront, hback⟩ := exists_open_of_odd heven
    obtain ⟨hdfront, hdback⟩ := List.forall_mem_append.1 hd
    have hrest : '"' ∉ back ++ (closer ++ behind) := by
      simp [hback, Shape.quote_not_mem_closer hk, hbehind]
    rw [List.append_assoc, List.cons_append, close?_append hfront hdfront,
      close?_open (closerAt?_quote shape 0 _) hrest,
      close?_append (paired_of_not_mem hback) (List.forall_mem_cons.1 hdback).2,
      close?_closer hk]
    simp [Closing.extend]

/-- A quote without a partner in one label pairs with the first one of another label, so the search
passes over all that stands between them, and the label ends where the other one does. -/
theorem close?_across {first gap second : Text} (hf : ∀ c ∈ first, c ∉ delimiters)
    (hs : ∀ c ∈ second, c ∉ delimiters) (hodd : first.count '"' % 2 ≠ 0) (hg : '"' ∉ gap)
    (hm : '"' ∈ second)
    : close? shape.closers 0 (first ++ gap ++ second ++ (closer ++ []))
      = some ⟨first ++ gap ++ second, closer, []⟩ := by
  obtain ⟨front, back, rfl, hfront, hback⟩ := exists_open_of_odd hodd
  obtain ⟨inside, tail, rfl, hinside⟩ := List.eq_append_cons_of_mem hm
  have hdfront := (List.forall_mem_append.1 hf).1
  have hdtail := (List.forall_mem_cons.1 (List.forall_mem_append.1 hs).2).2
  have hrun : '"' ∉ back ++ gap ++ inside := by simp [hback, hg, hinside]
  have hassoc : front ++ '"' :: back ++ gap ++ (inside ++ '"' :: tail) ++ (closer ++ [])
      = front ++ '"' :: (back ++ gap ++ inside ++ '"' :: (tail ++ (closer ++ []))) := by
    simp
  rw [hassoc, close?_append hfront hdfront, close?_run (closerAt?_quote shape 0 _) hrun,
    close?_label hk hdtail (Or.inr List.not_mem_nil)]
  simp [Closing.extend]

end Closer

-----------------------------------------------------------------------------------------
-- Rectangles
-----------------------------------------------------------------------------------------

/-- A rectangle with a label that may hold anything but delimiters, stray quotes, too. -/
structure Box where
  word : Text
  content : Text
  named : word ≠ []
  isWord : ∀ c ∈ word, isWordChar c = true
  undelimited : ∀ c ∈ content, c ∉ delimiters

def boxed (word label : Text) : Text :=
  word ++ '[' :: label ++ [']']

def Box.text (box : Box) : Text :=
  boxed box.word box.content

/-- A rectangle with its label quoted. -/
def quotedBox (reserved : List Char) (word label : Text) : QuotedLine where
  text := boxed word (written reserved label)
  changed := [label].filter fun label => (quote? reserved label).isSome

/-- The pieces of a rectangle. -/
def boxPieces (word label : Text) : List Piece :=
  [.plain (word ++ ['[']), .label label, .plain [']']]

/-- A rectangle is read for itself where its label ends at its bracket. -/
theorem piecesFrom_boxed {word label behind : Text} (hn : word ≠ [])
    (hw : ∀ c ∈ word, isWordChar c = true) (hd : ∀ c, label.head? = some c → c ∉ delimiters)
    (h : close? Shape.rectangle.closers 0 (label ++ ([']'] ++ behind))
      = some ⟨label, [']'], behind⟩)
    (backwards : Text)
    : piecesFrom backwards (boxed word label ++ behind)
      = boxPieces word label ++ piecesFrom ((boxed word label).reverse ++ backwards) behind := by
  have hread := piecesFrom_node hn hw (shapeLabel?_of_close? hd h) backwards
  simpa [boxed, boxPieces, Shape.opener] using hread

theorem Box.head_not_mem (box : Box) : ∀ c, box.content.head? = some c → c ∉ delimiters :=
  fun c hc => box.undelimited c (List.mem_of_mem_head? hc)

theorem Box.piecesFrom (box : Box) (behind : Text)
    (h : box.content.count '"' % 2 = 0 ∨ '"' ∉ behind) (backwards : Text)
    : Label.piecesFrom backwards (box.text ++ behind)
      = boxPieces box.word box.content
        ++ Label.piecesFrom (box.text.reverse ++ backwards) behind :=
  piecesFrom_boxed box.named box.isWord box.head_not_mem
    (close?_label (by decide) box.undelimited h) backwards

theorem quoteLine_of_boxPieces {reserved : List Char} {line word label : Text}
    (h : pieces line = boxPieces word label)
    : quoteLine reserved line = quotedBox reserved word label := by
  rw [quoteLine, h, boxPieces, changed?_label, quotedBox]
  simp [boxed, Piece.written]

theorem Box.pieces (box : Box) : Label.pieces box.text = boxPieces box.word box.content := by
  have hread := box.piecesFrom [] (Or.inr List.not_mem_nil) []
  rwa [List.append_nil, Label.piecesFrom, List.append_nil] at hread

-----------------------------------------------------------------------------------------
-- Two rectangles on one line
-----------------------------------------------------------------------------------------

/-- An arrow between two texts. -/
def linked (first second : Text) : Text :=
  first ++ " --> ".toList ++ second

def QuotedLine.linked (first second : QuotedLine) : QuotedLine where
  text := Label.linked first.text second.text
  changed := first.changed ++ second.changed

/-- The two texts are quoted on one line as they are on lines of their own. -/
def QuotedApart (reserved : List Char) (first second : Text) : Prop :=
  quoteLine reserved (linked first second)
    = (quoteLine reserved first).linked (quoteLine reserved second)

/-- All that stands between the outer brackets of two rectangles on a line. -/
def across (first second : Box) : Text :=
  first.content ++ ("] --> ".toList ++ second.word ++ ['[']) ++ second.content

/-- Where no quote of the first label has a partner in the second one, the labels are quoted
apart. -/
theorem quotedApart_of_unpaired (reserved : List Char) {first second : Box}
    (h : first.content.count '"' % 2 = 0 ∨ '"' ∉ second.content)
    : QuotedApart reserved first.text second.text := by
  have hidle : ∀ c ∈ " --> ".toList, IsIdle c := by
    have hall : ∀ c ∈ " --> ".toList, c ≠ '"' ∧ c ≠ '|' ∧ isWordChar c = false :=
      List.all_iff_forall_prop.1 (by decide)
    exact hall
  have hbehind : first.content.count '"' % 2 = 0 ∨ '"' ∉ " --> ".toList ++ second.text := by
    refine h.imp_right fun hm => ?_
    simp [Box.text, boxed, not_mem_of_isWord second.isWord, hm]
  have hline : pieces (linked first.text second.text)
      = pieces first.text ++ (idlePieces " --> ".toList ++ pieces second.text) := by
    have hsecond := second.piecesFrom [] (Or.inr List.not_mem_nil)
    simp only [Label.piecesFrom, List.append_nil] at hsecond
    rw [linked, List.append_assoc, pieces, first.piecesFrom _ hbehind, isReadAs_idle _ hidle,
      hsecond, first.pieces, second.pieces]
  rw [QuotedApart, quoteLine, hline]
  simp [quoteLine, QuotedLine.linked, linked]

/-- Where a quote of the first label has a partner in the second one, both labels and all between
them are one label. -/
theorem quoteLine_across (reserved : List Char) {first second : Box}
    (hodd : first.content.count '"' % 2 ≠ 0) (hm : '"' ∈ second.content)
    : quoteLine reserved (linked first.text second.text)
      = quotedBox reserved first.word (across first second) := by
  have hline : linked first.text second.text = boxed first.word (across first second) := by
    simp [linked, Box.text, boxed, across]
  have hne : first.content ≠ [] := by
    rintro hnil
    simp [hnil] at hodd
  have hhead : ∀ c, (across first second).head? = some c → c ∉ delimiters := by
    obtain ⟨c, rest, hcontent⟩ := List.exists_cons_of_ne_nil hne
    have hc := first.head_not_mem c (by rw [hcontent]; rfl)
    simpa [across, hcontent] using hc
  have hgap : '"' ∉ "] --> ".toList ++ second.word ++ ['['] := by
    simp [not_mem_of_isWord second.isWord]
  have hread := piecesFrom_boxed first.named first.isWord hhead
    (close?_across (by decide) first.undelimited second.undelimited hodd hgap hm) []
  rw [List.append_nil, Label.piecesFrom, List.append_nil, ← hline] at hread
  exact quoteLine_of_boxPieces hread

theorem length_across (first second : Box)
    : (across first second).length
      = first.content.length + second.word.length + second.content.length + 7 := by
  simp [across]
  omega

theorem across_ne_content {first second box : Box} (h : box = first ∨ box = second)
    : across first second ≠ box.content := by
  intro hacross
  have hlength := congrArg List.length hacross
  rw [length_across] at hlength
  rcases h with rfl | rfl <;> omega

/-- Two quoted texts, with anything between them, make up a quoted text when they have the same kind
of quotes. -/
theorem isQuoted_append_iff {first second : Text} (hf : isQuoted first = true)
    (hs : isQuoted second = true) (gap : Text)
    : isQuoted (first ++ gap ++ second) = true
      ↔ (trim first).head? = (trim second).head? := by
  obtain ⟨mark, inside, hmark, hfirst⟩ := isQuoted_iff.1 hf
  obtain ⟨other, inner, hother, hsecond⟩ := isQuoted_iff.1 hs
  obtain ⟨back, -, hfront⟩ := exists_eq_trim_append first
  obtain ⟨tail, htail, hend⟩ := exists_eq_trim_append second
  have hsolid : ∀ c, c = '"' ∨ c = '\x27' → isBlank c = false := by
    rintro c (rfl | rfl) <;> decide
  have htrim : trim (first ++ gap ++ second)
      = mark :: (inside ++ [mark] ++ back ++ gap ++ indent second ++ other :: inner)
        ++ [other] := by
    have htext : first ++ gap ++ second
        = indent first ++ (mark :: (inside ++ [mark] ++ back ++ gap ++ indent second
            ++ other :: inner) ++ [other] ++ tail) := calc
      first ++ gap ++ second
        = indent first ++ trim first ++ back ++ gap ++ (indent second ++ trim second ++ tail) := by
          rw [← hfront, ← hend]
      _ = _ := by simp [hfirst, hsecond]
    rw [htext, trim_blank_append _ (allBlank_indent first), trim_append_blank _ htail,
      trim_enclosed (hsolid mark hmark) (hsolid other hother)]
  have hlast : (inside ++ [mark] ++ back ++ gap ++ indent second ++ other :: inner
      ++ [other]).getLast? = some other := List.getLast?_concat
  rw [isQuoted, htrim, hfirst, hsecond, List.cons_append]
  simp only [hlast, List.cons_append, List.head?_cons]
  simpa [hmark] using eq_comm

theorem quote?_eq_none_iff_isQuoted {label : Text} (h : '"' ∈ label)
    : quote? flowchartReserved label = none ↔ isQuoted label = true := by
  have hblank : ¬isAllBlank label = true := fun hall =>
    (isAllBlank_iff.1 hall).not_mem (by decide) h
  have hreserved : ¬∀ c ∈ label, c ∉ flowchartReserved := fun hall => hall '"' h (by decide)
  rw [quote?_eq_none_iff]
  simp [hblank, hreserved]

theorem mem_changed_quotedBox_iff {reserved : List Char} {word label other : Text}
    : other ∈ (quotedBox reserved word label).changed
      ↔ other = label ∧ quote? reserved label ≠ none := by
  rw [quotedBox, List.mem_filter, List.mem_singleton, Option.isSome_iff_ne_none]
  exact and_congr_right fun h => by rw [h]

theorem changed_quotedBox_eq_nil_iff {reserved : List Char} {word label : Text}
    : (quotedBox reserved word label).changed = [] ↔ quote? reserved label = none := by
  simp [quotedBox]

theorem quotedBox_of_quote?_eq_none {reserved : List Char} {word label : Text}
    (h : quote? reserved label = none)
    : quotedBox reserved word label = ⟨boxed word label, []⟩ := by
  simp [quotedBox, written, h]

/-- What two labels are quoted to is what the one label across them is quoted to only where nothing
changes, since that label is reported in whole or not at all. -/
theorem quote?_eq_none_of_linked {reserved : List Char} {first second : Box}
    (h : quotedBox reserved first.word (across first second)
      = (quotedBox reserved first.word first.content).linked
          (quotedBox reserved second.word second.content))
    : quote? reserved (across first second) = none
      ∧ quote? reserved first.content = none
      ∧ quote? reserved second.content = none := by
  have hchanged := congrArg QuotedLine.changed h
  have hnone : quote? reserved (across first second) = none := by
    by_contra hsome
    have hmem : across first second
        ∈ (quotedBox reserved first.word (across first second)).changed :=
      mem_changed_quotedBox_iff.2 ⟨rfl, hsome⟩
    rw [hchanged] at hmem
    rcases List.mem_append.1 hmem with hmem | hmem
    · exact across_ne_content (Or.inl rfl) (mem_changed_quotedBox_iff.1 hmem).1
    · exact across_ne_content (Or.inr rfl) (mem_changed_quotedBox_iff.1 hmem).1
  rw [changed_quotedBox_eq_nil_iff.2 hnone, eq_comm] at hchanged
  obtain ⟨hf, hs⟩ := List.append_eq_nil_iff.1 hchanged
  exact ⟨hnone, changed_quotedBox_eq_nil_iff.1 hf, changed_quotedBox_eq_nil_iff.1 hs⟩

/-- Two nodes are quoted apart exactly when no quote of the first label has a partner in the second
one, or both labels are left alone, and all between their outer quotes with them. -/
theorem quotedApart_iff (first second : Box)
    : QuotedApart flowchartReserved first.text second.text
      ↔ first.content.count '"' % 2 = 0
        ∨ '"' ∉ second.content
        ∨ isQuoted first.content = true
          ∧ isQuoted second.content = true
          ∧ (trim first.content).head? = (trim second.content).head? := by
  by_cases hunpaired : first.content.count '"' % 2 = 0 ∨ '"' ∉ second.content
  · have hapart := quotedApart_of_unpaired flowchartReserved hunpaired
    simp only [hapart, true_iff]
    exact hunpaired.imp_right Or.inl
  · rw [not_or, not_not] at hunpaired
    obtain ⟨hodd, hm⟩ := hunpaired
    have hfirst : '"' ∈ first.content := by
      rw [← List.count_pos_iff]
      omega
    have hacross : '"' ∈ across first second := by simp [across, hm]
    rw [QuotedApart, quoteLine_across _ hodd hm, quoteLine_of_boxPieces first.pieces,
      quoteLine_of_boxPieces second.pieces]
    simp only [hodd, hm, not_true, false_or]
    constructor
    · intro h
      obtain ⟨hnone, hf, hs⟩ := quote?_eq_none_of_linked h
      rw [quote?_eq_none_iff_isQuoted hfirst] at hf
      rw [quote?_eq_none_iff_isQuoted hm] at hs
      rw [quote?_eq_none_iff_isQuoted hacross] at hnone
      exact ⟨hf, hs, (isQuoted_append_iff hf hs _).1 hnone⟩
    · rintro ⟨hf, hs, hhead⟩
      have hwhole : isQuoted (across first second) = true :=
        (isQuoted_append_iff hf hs _).2 hhead
      rw [quotedBox_of_quote?_eq_none ((quote?_eq_none_iff_isQuoted hacross).2 hwhole),
        quotedBox_of_quote?_eq_none ((quote?_eq_none_iff_isQuoted hfirst).2 hf),
        quotedBox_of_quote?_eq_none ((quote?_eq_none_iff_isQuoted hm).2 hs)]
      simp [QuotedLine.linked, linked, boxed, across]

/-- A stray quote in each of two labels makes one label of them. -/
theorem exists_not_quotedApart
    : ∃ first second : Box,
        linked first.text second.text = "A[x\"y] --> B[z\"w]".toList
        ∧ ¬QuotedApart flowchartReserved first.text second.text := by
  let first : Box :=
    {
      word := "A".toList
      content := "x\"y".toList
      named := by decide
      isWord := List.all_iff_forall_prop.1 (by decide)
      undelimited := List.all_iff_forall_prop.1 (by decide)
    }
  let second : Box :=
    {
      word := "B".toList
      content := "z\"w".toList
      named := by decide
      isWord := List.all_iff_forall_prop.1 (by decide)
      undelimited := List.all_iff_forall_prop.1 (by decide)
    }
  refine ⟨first, second, rfl, fun h => ?_⟩
  have hchanged : (quoteLine flowchartReserved "A[x\"y] --> B[z\"w]".toList).changed
      = (quoteLine flowchartReserved "A[x\"y]".toList).changed
        ++ (quoteLine flowchartReserved "B[z\"w]".toList).changed :=
    congrArg QuotedLine.changed h
  exact absurd hchanged (by decide +kernel)

end DiagramRepair.Label

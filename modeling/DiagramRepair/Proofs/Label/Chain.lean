import DiagramRepair.Proofs.Label.Precedence
import DiagramRepair.Proofs.Label.Rescan

/-! Chains of nodes. A line of nodes that are joined by connectors, with labels on some of the
edges, is read node by node and edge by edge: the label of each shape ends at its own closer, and
no part disturbs the parts behind it. So quoting such a line quotes the label of every node and of
every edge, and nothing else.
-/

namespace DiagramRepair.Label

open Text

-----------------------------------------------------------------------------------------
-- The label of an edge
-----------------------------------------------------------------------------------------

/-- The label of an edge without pipes ends at the pipe behind it, whether it starts with a quoted
run or not. -/
theorem edgeLabel?_append {content : Text} (hq : content.count '"' % 2 = 0) (hp : '|' ∉ content)
    (behind : Text)
    : edgeLabel? (content ++ '|' :: behind) = some (content, behind) := by
  rcases quote_cases content
    with hhead | ⟨gap, inside, tail, rfl, hg, hi⟩ | ⟨gap, rest, rfl, hg, hr⟩
  · exact edgeLabel?_append_of_head? hhead hp behind
  · have htail : '|' ∉ tail := fun hm => hp (by simp [hm])
    have hlabel := edgeLabel?_quoted hg hi (tail ++ '|' :: behind)
    rw [cutAt?_append htail] at hlabel
    simpa using hlabel
  · have hgap : '"' ∉ gap := hg.not_mem (by decide)
    rw [List.count_append, List.count_cons_self, List.count_eq_zero_of_not_mem hgap,
      List.count_eq_zero_of_not_mem hr] at hq
    contradiction

-----------------------------------------------------------------------------------------
-- Texts that are read for themselves
-----------------------------------------------------------------------------------------

/-- Whatever stands behind this text, it is read as these pieces, and then what is behind is
read. -/
def IsReadAs (backwards text : Text) (pieces : List Piece) : Prop :=
  ∀ rest, piecesFrom backwards (text ++ rest)
    = pieces ++ piecesFrom (text.reverse ++ backwards) rest

theorem isReadAs_nil (backwards : Text) : IsReadAs backwards [] [] :=
  fun _ => rfl

theorem IsReadAs.append {backwards first second : Text} {pieces others : List Piece}
    (hf : IsReadAs backwards first pieces)
    (hs : IsReadAs (first.reverse ++ backwards) second others)
    : IsReadAs backwards (first ++ second) (pieces ++ others) := by
  intro rest
  rw [List.append_assoc, hf, hs, List.append_assoc, List.reverse_append, List.append_assoc]

/-- What one step reads, whatever stands behind it, is read for itself. -/
theorem isReadAs_of_nextPieces {backwards tail : Text} {c : Char} {pieces : List Piece}
    (h : ∀ rest, nextPieces backwards c (tail ++ rest) = (pieces, rest))
    : IsReadAs backwards (c :: tail) pieces := by
  have htext := textOf_nextPieces backwards c (tail ++ [])
  rw [h, List.append_nil, List.append_nil] at htext
  intro rest
  rw [List.cons_append, piecesFrom_cons, ahead, h, htext]

/-- A node with a label in the delimiters of a shape is read as its word, its label and what closes
the label. -/
theorem piecesFrom_node {word content closer behind : Text} {shape : Shape} (hn : word ≠ [])
    (hw : ∀ c ∈ word, isWordChar c = true)
    (h : shapeLabel? (shape.opener ++ (content ++ (closer ++ behind)))
      = some (shape.opener, ⟨content, closer, behind⟩))
    (backwards : Text)
    : piecesFrom backwards (word ++ (shape.opener ++ (content ++ (closer ++ behind))))
      = [.plain (word ++ shape.opener), .label content, .plain closer]
        ++ piecesFrom ((word ++ (shape.opener ++ (content ++ closer))).reverse ++ backwards)
            behind := by
  obtain ⟨first, word, rfl⟩ := List.exists_cons_of_ne_nil hn
  rw [List.cons_append, piecesFrom_cons, ahead, nextPieces_node hw, nodePieces, h]
  simp [textOf, Piece.text]

/-- Each character for itself. -/
def idlePieces (text : Text) : List Piece :=
  text.map fun c => .plain [c]

@[simp]
theorem written_idlePieces (reserved : List Char) (text : Text)
    : (idlePieces text).flatMap (Piece.written reserved) = text := by
  rw [idlePieces, List.flatMap_map]
  exact List.flatMap_singleton' text

@[simp]
theorem changed?_idlePieces (reserved : List Char) (text : Text)
    : (idlePieces text).filterMap (Piece.changed? reserved) = [] := by
  rw [idlePieces, List.filterMap_map, List.filterMap_eq_nil_iff]
  exact fun _ _ => rfl

/-- Text without quotes, pipes and words is read character by character. -/
theorem isReadAs_idle (backwards : Text) {text : Text} (h : ∀ c ∈ text, IsIdle c)
    : IsReadAs backwards text (idlePieces text) := by
  induction text generalizing backwards with
  | nil => exact isReadAs_nil backwards
  | cons c text ih =>
      obtain ⟨hc, htext⟩ := List.forall_mem_cons.1 h
      have hfirst : IsReadAs backwards [c] [.plain [c]] :=
        isReadAs_of_nextPieces fun rest => nextPieces_idle hc backwards rest
      exact hfirst.append (ih _ htext)

-----------------------------------------------------------------------------------------
-- Nodes, edges and chains
-----------------------------------------------------------------------------------------

/-- A node: a word and a label in the delimiters of a shape. -/
structure Node where
  word : Text
  shape : Shape
  content : Text
  closer : Text
  named : word ≠ []
  isWord : ∀ c ∈ word, isWordChar c = true
  undelimited : ∀ c ∈ content, c ∉ delimiters
  paired : content.count '"' % 2 = 0
  closes : closer ∈ shape.closers

/-- An edge label between its pipes, and the blanks behind it. -/
structure EdgeLabel where
  content : Text
  gap : Text
  unpiped : '|' ∉ content
  paired : content.count '"' % 2 = 0
  blank : AllBlank gap

/-- The connectors that a pipe may stand behind. -/
def connectors : List Text :=
  [
    ['-', '-', '>'], ['-', '-', '-'], ['=', '=', '>'], ['=', '=', '='], ['-', '.', '-', '>'],
    ['-', '.', '-']
  ]

/-- A connector between blanks, and the label of the edge if it has one. -/
structure Link where
  front : Text
  connector : Text
  back : Text
  label? : Option EdgeLabel
  frontBlank : AllBlank front
  connects : connector ∈ connectors
  backBlank : AllBlank back

/-- A line of nodes, each linked to the one before it. -/
structure Chain where
  indent : Text
  first : Node
  rest : List (Link × Node)
  indentBlank : AllBlank indent

-- What a part looks like with its labels put in a certain way, the contents of its labels from
-- left to right, and the pieces that it is read as.

def Node.textWith (write : Text → Text) (node : Node) : Text :=
  node.word ++ node.shape.opener ++ write node.content ++ node.closer

def Node.pieces (node : Node) : List Piece :=
  [.plain (node.word ++ node.shape.opener), .label node.content, .plain node.closer]

def EdgeLabel.textWith (write : Text → Text) (label : EdgeLabel) : Text :=
  '|' :: write label.content ++ '|' :: label.gap

def EdgeLabel.pieces (label : EdgeLabel) : List Piece :=
  [.plain ['|'], .label label.content, .plain ['|']] ++ idlePieces label.gap

def Link.textWith (write : Text → Text) (link : Link) : Text :=
  link.front ++ link.connector ++ link.back ++ link.label?.toList.flatMap (·.textWith write)

def Link.labels (link : Link) : List Text :=
  link.label?.toList.map EdgeLabel.content

def Link.pieces (link : Link) : List Piece :=
  idlePieces (link.front ++ link.connector ++ link.back)
    ++ link.label?.toList.flatMap EdgeLabel.pieces

def Chain.textWith (write : Text → Text) (chain : Chain) : Text :=
  chain.indent ++ chain.first.textWith write
    ++ chain.rest.flatMap fun step => step.1.textWith write ++ step.2.textWith write

def Chain.labels (chain : Chain) : List Text :=
  [chain.first.content] ++ chain.rest.flatMap fun step => step.1.labels ++ [step.2.content]

def Chain.pieces (chain : Chain) : List Piece :=
  idlePieces chain.indent ++ chain.first.pieces
    ++ chain.rest.flatMap fun step => step.1.pieces ++ step.2.pieces

-----------------------------------------------------------------------------------------
-- How the parts are read
-----------------------------------------------------------------------------------------

theorem isIdle_of_mem_connectors {connector : Text} (h : connector ∈ connectors)
    : ∀ c ∈ connector, IsIdle c := by
  have hall : ∀ connector ∈ connectors, connector ⊆ ['-', '=', '.', '>'] := by decide
  have hidle : ∀ c ∈ ['-', '=', '.', '>'], c ≠ '"' ∧ c ≠ '|' ∧ isWordChar c = false :=
    List.all_iff_forall_prop.1 (by decide)
  exact fun c hc => hidle c (hall connector h hc)

/-- A pipe behind a connector opens an edge label, with blanks between them or not. -/
theorem opensLabel_connector {connector gap : Text} (h : connector ∈ connectors)
    (hg : AllBlank gap) (backwards : Text)
    : Edge.opensLabel ((connector ++ gap).reverse ++ backwards) = true := by
  have hall : ∀ connector ∈ connectors,
      ∃ ending ∈ Edge.connectorEndings, ending <+: connector.reverse := by
    decide +kernel
  obtain ⟨ending, hm, hprefix⟩ := hall connector h
  have hconnector : Edge.isConnector (connector.reverse ++ backwards) = true :=
    Edge.isConnector_iff.2 ⟨ending, hm, hprefix.trans (List.prefix_append _ _)⟩
  rw [List.reverse_append, List.append_assoc]
  exact Edge.opensLabel_blank_append (fun c hc => hg c (List.mem_reverse.1 hc)) hconnector

theorem isReadAs_blank (backwards : Text) {gap : Text} (h : AllBlank gap)
    : IsReadAs backwards gap (idlePieces gap) :=
  isReadAs_idle backwards fun c hc => isIdle_of_isBlank (h c hc)

/-- A node is read in one step, since its opener ends the word. -/
theorem Node.isReadAs (node : Node) (backwards : Text)
    : IsReadAs backwards (node.textWith id) node.pieces := by
  intro rest
  have hlabel := shapeLabel?_append node.shape (paired_of_count _ node.paired) node.undelimited
    node.closes rest
  simpa [textWith, pieces] using piecesFrom_node node.named node.isWord hlabel backwards

/-- An edge label behind a connector is read in one step, and then the blanks behind it. -/
theorem EdgeLabel.isReadAs (label : EdgeLabel) {backwards : Text}
    (h : Edge.opensLabel backwards = true)
    : IsReadAs backwards (label.textWith id) label.pieces := by
  have hread : IsReadAs backwards ('|' :: (label.content ++ ['|']))
      [.plain ['|'], .label label.content, .plain ['|']] := by
    refine isReadAs_of_nextPieces fun rest => ?_
    have hlabel := edgeLabel?_append label.paired label.unpiped rest
    rw [nextPieces_pipe h, edgePieces, List.append_assoc, List.singleton_append, hlabel]
  have htext : label.textWith id = '|' :: (label.content ++ ['|']) ++ label.gap := by
    simp [textWith]
  rw [htext]
  exact hread.append (isReadAs_blank _ label.blank)

theorem Link.isReadAs (link : Link) (backwards : Text)
    : IsReadAs backwards (link.textWith id) link.pieces := by
  have hidle : ∀ c ∈ link.front ++ link.connector ++ link.back, IsIdle c := by
    intro c hc
    rcases List.mem_append.1 hc with hc | hc
    · rcases List.mem_append.1 hc with hc | hc
      · exact isIdle_of_isBlank (link.frontBlank c hc)
      · exact isIdle_of_mem_connectors link.connects c hc
    · exact isIdle_of_isBlank (link.backBlank c hc)
  refine (isReadAs_idle backwards hidle).append ?_
  cases link.label? with
  | none => exact isReadAs_nil _
  | some label =>
      have hopens := opensLabel_connector link.connects link.backBlank
        (link.front.reverse ++ backwards)
      rw [← List.append_assoc, ← List.reverse_append, ← List.append_assoc] at hopens
      simpa using label.isReadAs hopens

/-- The nodes behind the first one, with their links, by induction on them. -/
theorem isReadAs_linked (rest : List (Link × Node)) (backwards : Text)
    : IsReadAs backwards (rest.flatMap fun step => step.1.textWith id ++ step.2.textWith id)
        (rest.flatMap fun step => step.1.pieces ++ step.2.pieces) := by
  induction rest generalizing backwards with
  | nil => exact isReadAs_nil backwards
  | cons step rest ih =>
      have hlink := step.1.isReadAs backwards
      have hstep := hlink.append (step.2.isReadAs _)
      exact hstep.append (ih _)

theorem Chain.isReadAs (chain : Chain) (backwards : Text)
    : IsReadAs backwards (chain.textWith id) chain.pieces := by
  have hindent := isReadAs_blank backwards chain.indentBlank
  have hfirst := hindent.append (chain.first.isReadAs _)
  exact hfirst.append (isReadAs_linked chain.rest _)

-----------------------------------------------------------------------------------------
-- How the parts are written
-----------------------------------------------------------------------------------------

section Written

variable (reserved : List Char)

theorem changed?_label (opening content closing : Text)
    : [.plain opening, .label content, .plain closing].filterMap (Piece.changed? reserved)
      = [content].filter fun content => (quote? reserved content).isSome := by
  cases hq : (quote? reserved content).isSome <;> simp [List.filterMap_cons, Piece.changed?, hq]

theorem Node.written_pieces (node : Node)
    : node.pieces.flatMap (Piece.written reserved) = node.textWith (written reserved) := by
  simp [pieces, textWith, Piece.written]

theorem Link.written_pieces (link : Link)
    : link.pieces.flatMap (Piece.written reserved) = link.textWith (written reserved) := by
  rw [pieces, textWith, List.flatMap_append, written_idlePieces]
  cases link.label? with
  | none => rfl
  | some label => simp [EdgeLabel.pieces, EdgeLabel.textWith, Piece.written]

theorem Link.changed?_pieces (link : Link)
    : link.pieces.filterMap (Piece.changed? reserved)
      = link.labels.filter fun content => (quote? reserved content).isSome := by
  rw [pieces, labels, List.filterMap_append, changed?_idlePieces, List.nil_append]
  cases link.label? with
  | none => rfl
  | some label =>
      rw [Option.toList_some, List.flatMap_singleton, List.map_singleton, EdgeLabel.pieces,
        List.filterMap_append, changed?_label, changed?_idlePieces, List.append_nil]

theorem Chain.written_pieces (chain : Chain)
    : chain.pieces.flatMap (Piece.written reserved) = chain.textWith (written reserved) := by
  rw [pieces, textWith, List.flatMap_append, List.flatMap_append, written_idlePieces,
    Node.written_pieces, List.flatMap_assoc]
  simp only [List.flatMap_append, Link.written_pieces, Node.written_pieces]

theorem Chain.changed?_pieces (chain : Chain)
    : chain.pieces.filterMap (Piece.changed? reserved)
      = chain.labels.filter fun content => (quote? reserved content).isSome := by
  rw [pieces, labels, List.filterMap_append, List.filterMap_append, changed?_idlePieces,
    List.nil_append, Node.pieces, changed?_label, List.filterMap_flatMap, List.filter_append,
    List.filter_flatMap]
  simp only [List.filterMap_append, List.filter_append, Link.changed?_pieces, Node.pieces,
    changed?_label]

end Written

/-- Quoting a chain quotes the label of each node and of each edge and keeps all the other text, and
the labels reported are those that needed quotes, from left to right. -/
theorem quoteLine_chain (reserved : List Char) (chain : Chain)
    : (quoteLine reserved (chain.textWith id)).text = chain.textWith (written reserved)
      ∧ (quoteLine reserved (chain.textWith id)).changed
          = chain.labels.filter fun content => (quote? reserved content).isSome := by
  have hread := chain.isReadAs [] []
  rw [List.append_nil, piecesFrom, List.append_nil] at hread
  rw [quoteLine, pieces, hread]
  exact ⟨chain.written_pieces reserved, chain.changed?_pieces reserved⟩

/-- Two nodes whose labels are in different shapes, and an edge with a label between them. -/
def twoNodes : Chain where
  indent := " ".toList
  first :=
    {
      word := "A".toList
      shape := .stadium
      content := "p \"q\" r".toList
      closer := "])".toList
      named := by decide
      isWord := List.all_iff_forall_prop.1 (by decide)
      undelimited := List.all_iff_forall_prop.1 (by decide)
      paired := by decide
      closes := by decide
    }
  rest :=
    [(
      {
        front := " ".toList
        connector := "-.->".toList
        back := " ".toList
        label? := some
          ⟨"y-z".toList, " ".toList, by decide, by decide, isAllBlank_iff.1 (by decide)⟩
        frontBlank := isAllBlank_iff.1 (by decide)
        connects := by decide
        backBlank := isAllBlank_iff.1 (by decide)
      },
      {
        word := "B".toList
        shape := .parallelogram
        content := "x".toList
        closer := "\\]".toList
        named := by decide
        isWord := List.all_iff_forall_prop.1 (by decide)
        undelimited := List.all_iff_forall_prop.1 (by decide)
        paired := by decide
        closes := by decide
      }
    )]
  indentBlank := isAllBlank_iff.1 (by decide)

theorem quoteLine_twoNodes
    : twoNodes.textWith id = " A([p \"q\" r]) -.-> |y-z| B[/x\\]".toList
      ∧ (quoteLine flowchartReserved (twoNodes.textWith id)).text
        = " A([\"p 'q' r\"]) -.-> |\"y-z\"| B[/x\\]".toList
      ∧ (quoteLine flowchartReserved (twoNodes.textWith id)).changed
        = ["p \"q\" r".toList, "y-z".toList] := by
  obtain ⟨htext, hchanged⟩ := quoteLine_chain flowchartReserved twoNodes
  exact ⟨rfl, htext.trans (by decide +kernel), hchanged.trans (by decide +kernel)⟩

end DiagramRepair.Label

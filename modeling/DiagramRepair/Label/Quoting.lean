import DiagramRepair.Text.Blank

/-! Quoting a label. A label that is blank or stands in quotes is left alone; any other label
with a reserved character or an escaped quote is put between double quotes.
-/

namespace DiagramRepair.Label

/-- The characters that node and edge labels may hold in quotes only. -/
def flowchartReserved : List Char :=
  ['(', ')', '{', '}', '[', ']', '"', '\x27', '<', '>', '|', '\\', '-']

/-- The characters that relationship labels may hold in quotes only. -/
def relationshipReserved : List Char :=
  ['/', '|', '(', ')', '{', '}', '[', ']', '<', '>', '"', '\x27', '\\']

/-- The text, apart from blanks around it, starts and ends with the same kind of quote. -/
def isQuoted (text : Text) : Bool :=
  match Text.trim text with
  | [] => false
  | first :: rest =>
      rest.getLast? == some first && (first == '"' || first == '\x27')

/-- Every `quote` behind a backslash becomes a single quote, without the backslash. -/
def dropEscapes (quote : Char) : Text → Text
  | [] => []
  | '\\' :: c :: rest =>
      if c = quote then '\x27' :: dropEscapes quote rest
      else '\\' :: dropEscapes quote (c :: rest)
  | c :: rest => c :: dropEscapes quote rest

/-- Escaped double quotes become single quotes, and then escaped single quotes do. -/
def unescape (text : Text) : Text :=
  dropEscapes '\x27' (dropEscapes '"' text)

/-- The text between double quotes, with single quotes for those inside. -/
def enquote (text : Text) : Text :=
  '"' :: text.map (fun c => if c = '"' then '\x27' else c) ++ ['"']

/-- The quoted form of a label that needs one. -/
def quote? (reserved : List Char) (content : Text) : Option Text :=
  if Text.isAllBlank content || isQuoted content then none
  else if unescape content == content && !content.any reserved.contains then none
  else some (enquote (unescape content))

/-- The label as it is written after quoting. -/
def written (reserved : List Char) (content : Text) : Text :=
  (quote? reserved content).getD content

end DiagramRepair.Label

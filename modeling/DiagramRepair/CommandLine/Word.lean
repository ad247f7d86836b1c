import DiagramRepair.CommandLine.Switch
import DiagramRepair.Text.Digit
import DiagramRepair.Text.Literal

/-! The words of a command line: which of them name switches, and which are plain. A long name
may be cut short as long as one switch alone starts with it, and short flags may share a dash.
-/

namespace DiagramRepair.CommandLine

/-- What is wrong with a command line. -/
inductive UsageError where
  | ambiguous (word : Text) (candidates : List Switch)
  | missingValue (parameter : Parameter)
  | ignoredValue (switch : Switch) (value : Text)
  | invalidChoice (parameter : Parameter) (value : Text) (choices : List Text)
  | unrecognized (words : List Text)

def UsageError.message (codeOf : Char → Nat) : UsageError → Text
  | .ambiguous word candidates =>
      "ambiguous option: ".toList ++ word ++ " could match ".toList
        ++ Text.joinWith ", ".toList (candidates.map Switch.longName)
  | .missingValue parameter =>
      "argument ".toList ++ (Switch.parameter parameter).title
        ++ ": expected one argument".toList
  | .ignoredValue switch value =>
      "argument ".toList ++ switch.title ++ ": ignored explicit argument ".toList
        ++ Text.literalBy codeOf value
  | .invalidChoice parameter value choices =>
      "argument ".toList ++ (Switch.parameter parameter).title ++ ": invalid choice: ".toList
        ++ Text.literalBy codeOf value ++ " (choose from ".toList
        ++ Text.joinWith ", ".toList (choices.map Text.literal) ++ [')']
  | .unrecognized words => "unrecognized arguments: ".toList ++ Text.joinWith [' '] words

/-- A word of the command line. A long name may have a value behind an equals sign, and a short
one has all that follows its letter, with an equals sign between them or not. -/
inductive Word where
  | plain (text : Text)
  | long (switch : Switch) (value : Option Text)
  | short (switch : Switch) (value : Option Text)
  | unknown (text : Text)

namespace Word

/-- A minus sign, then digits, or a fraction that may lack the digits before its point. A line
feed may follow. -/
def isNegativeNumber : Text → Bool
  | '-' :: rest =>
      let number := if rest.getLast? = some '\n' then rest.dropLast else rest
      match number.dropWhile Text.isDigit with
      | [] => !number.isEmpty
      | '.' :: digits => !digits.isEmpty && digits.all Text.isDigit
      | _ => false
  | _ => false

/-- A word that starts with a dash and names no switch. Negative numbers and words with a space
in them are plain. -/
def unmatched (text : Text) : Word :=
  if isNegativeNumber text || text.contains ' ' then .plain text else .unknown text

/-- A word that starts with two dashes. -/
def ofLong (text : Text) : Except UsageError Word :=
  let (name, value) :=
    match Text.cutAt? '=' text with
    | some (name, value) => (name, some value)
    | none => (text, none)
  match Switch.startingWith name with
  | [] => .ok (unmatched text)
  | [switch] => .ok (.long switch value)
  | candidates => .error (.ambiguous text candidates)

/-- The value that a short name has in the rest of its word. -/
def attached? : Text → Option Text
  | [] => none
  | '=' :: value => some value
  | value => some value

def ofText : Text → Except UsageError Word
  | '-' :: '-' :: rest => ofLong ('-' :: '-' :: rest)
  | '-' :: letter :: rest =>
      match Switch.ofLetter? letter with
      | some switch => .ok (.short switch (attached? rest))
      | none => .ok (unmatched ('-' :: letter :: rest))
  | text => .ok (.plain text)

/-- The words of a command line. Behind two dashes on their own all words are plain, and the
dashes themselves name no switch. -/
def ofTexts : List Text → Except UsageError (List Word)
  | [] => .ok []
  | text :: rest =>
      if text = ['-', '-'] then .ok (.unknown text :: rest.map .plain)
      else do
        let word ← ofText text
        return word :: (← ofTexts rest)

end Word

/-- What one word stands for: flags, then perhaps a parameter, with its value if the word holds
it, or else a text that is not recognized. -/
structure Cluster where
  flags : List Flag
  parameter : Option (Parameter × Option Text)
  unrecognized : List Text

namespace Cluster

/-- A switch and the letters behind it. Behind a parameter they are its value; behind a flag
the first of them has to name another switch. -/
def ofLetters : Switch → Text → Except UsageError Cluster
  | .parameter parameter, [] => .ok ⟨[], some (parameter, none), []⟩
  | .parameter parameter, value => .ok ⟨[], some (parameter, some value), []⟩
  | .flag flag, [] => .ok ⟨[flag], none, []⟩
  | .flag flag, letter :: rest =>
      match Switch.ofLetter? letter with
      | none => .error (.ignoredValue (.flag flag) (letter :: rest))
      | some next =>
          (ofLetters next rest).map fun cluster =>
            { cluster with flags := flag :: cluster.flags }

/-- What a word stands for. The value of a short flag is read as further letters. -/
def ofWord : Word → Except UsageError Cluster
  | .plain text => .ok ⟨[], none, [text]⟩
  | .unknown text => .ok ⟨[], none, [text]⟩
  | .long (.parameter parameter) value => .ok ⟨[], some (parameter, value), []⟩
  | .short (.parameter parameter) value => .ok ⟨[], some (parameter, value), []⟩
  | .long (.flag flag) none => .ok ⟨[flag], none, []⟩
  | .short (.flag flag) none => .ok ⟨[flag], none, []⟩
  | .long (.flag flag) (some value) => .error (.ignoredValue (.flag flag) value)
  | .short (.flag flag) (some []) => .error (.ignoredValue (.flag flag) [])
  | .short (.flag flag) (some letters) => ofLetters (.flag flag) letters

end Cluster

end DiagramRepair.CommandLine

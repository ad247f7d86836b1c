import DiagramRepair.Text.Basic

/-! The switches of the command line, their spellings, and the texts that explain them.
-/

namespace DiagramRepair.CommandLine

/-- A switch without a value. -/
inductive Flag where
  | help
  | json
  | markdown
  | extract
  | verbose
  deriving DecidableEq

/-- A switch that takes a value. -/
inductive Parameter where
  | input
  | code
  | output
  | expect
  deriving DecidableEq

inductive Switch where
  | flag (flag : Flag)
  | parameter (parameter : Parameter)
  deriving DecidableEq

namespace Switch

def all : List Switch :=
  [
    .flag .help, .parameter .input, .parameter .code, .parameter .output, .flag .json,
    .flag .markdown, .flag .extract, .parameter .expect, .flag .verbose
  ]

/-- The name behind two dashes. -/
def longName : Switch → Text
  | .flag .help => "--help".toList
  | .flag .json => "--json".toList
  | .flag .markdown => "--markdown".toList
  | .flag .extract => "--extract".toList
  | .flag .verbose => "--verbose".toList
  | .parameter .input => "--input".toList
  | .parameter .code => "--code".toList
  | .parameter .output => "--output".toList
  | .parameter .expect => "--expect".toList

/-- The letter behind one dash, if there is one. -/
def letter? : Switch → Option Char
  | .flag .help => some 'h'
  | .flag .verbose => some 'v'
  | .parameter .input => some 'i'
  | .parameter .code => some 'c'
  | .parameter .output => some 'o'
  | _ => none

def ofLetter? (c : Char) : Option Switch :=
  all.find? fun switch => switch.letter? == some c

/-- The switches whose long names start with a text. -/
def startingWith (lead : Text) : List Switch :=
  all.filter fun switch => Text.startsWith lead switch.longName

/-- A switch as messages name it: by all its spellings, in the order of the usage text. -/
def title (switch : Switch) : Text :=
  match switch, switch.letter? with
  | .flag .help, _ => "-h/--help".toList
  | _, some letter => switch.longName ++ ['/', '-', letter]
  | _, none => switch.longName

end Switch

def programName : Text :=
  "mermaid-sanitize".toList

def usage : Text :=
  (
    "usage: mermaid-sanitize [-h] [--input INPUT] [--code CODE] [--output OUTPUT]\n"
      ++ "                        [--json] [--markdown] [--extract]\n"
      ++ "                        [--expect \x7bflowchart,graph,erDiagram\x7d] [--verbose]\n"
  ).toList

/-- The answer to the request for help. -/
def help : Text :=
  usage ++ (
    "\nValidate and repair Mermaid diagram syntax\n"
      ++ "\noptions:\n"
      ++ "  -h, --help            show this help message and exit\n"
      ++ "  --input INPUT, -i INPUT\n"
      ++ "                        Input file path (.mmd, or .md with --markdown)\n"
      ++ "  --code CODE, -c CODE  Diagram code string to validate\n"
      ++ "  --output OUTPUT, -o OUTPUT\n"
      ++ "                        Write the corrected text here (default: stdout)\n"
      ++ "  --json                Output the verdict as JSON\n"
      ++ "  --markdown            Treat input as markdown and repair every \x60\x60\x60mermaid\n"
      ++ "                        block\n"
      ++ "  --extract             Extract the diagram from an AI response (code fences,\n"
      ++ "                        prose)\n"
      ++ "  --expect \x7bflowchart,graph,erDiagram\x7d\n"
      ++ "                        Require this diagram family\n"
      ++ "  --verbose, -v         Log every repair to stderr\n"
  ).toList

end DiagramRepair.CommandLine

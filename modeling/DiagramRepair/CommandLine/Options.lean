import DiagramRepair.CommandLine.Expectation
import DiagramRepair.CommandLine.Word

/-! What a command line asks for. All words are told apart before any of them acts; then they
act in order, and of several values for one parameter the last one counts.
-/

namespace DiagramRepair.CommandLine

structure Options where
  input : Option Text := none
  code : Option Text := none
  output : Option Text := none
  expected : Expectation := .any
  json : Bool := false
  markdown : Bool := false
  extract : Bool := false
  verbose : Bool := false

/-- Why a command line does not lead to a run. -/
inductive Stop where
  | help
  | refused (reason : UsageError)

namespace Options

def raise (options : Options) : Flag → Except Stop Options
  | .help => .error .help
  | .json => .ok { options with json := true }
  | .markdown => .ok { options with markdown := true }
  | .extract => .ok { options with extract := true }
  | .verbose => .ok { options with verbose := true }

/-- Two dashes in place of a value, which leave their parameter without one. -/
def noValue : Text := ['-', '-']

/-- An empty value counts as none too. -/
def given? (value : Text) : Option Text :=
  if value.isEmpty || value == noValue then none else some value

def assign (options : Options) (parameter : Parameter) (value : Text) : Except Stop Options :=
  match parameter with
  | .input => .ok { options with input := given? value }
  | .code => .ok { options with code := given? value }
  | .output => .ok { options with output := given? value }
  | .expect =>
      if value == noValue then .ok { options with expected := .nameless }
      else if expectableTypes.contains value then .ok { options with expected := .named value }
      else .error (.refused (.invalidChoice .expect value expectableTypes))

/-- The options after some words. A parameter without a value in its own word takes the next
word, which has to be a plain one. -/
def collect (options : Options) (unrecognized : List Text) : List Word → Except Stop Options
  | [] =>
      if unrecognized.isEmpty then .ok options
      else .error (.refused (.unrecognized unrecognized))
  | word :: rest =>
      match Cluster.ofWord word with
      | .error reason => .error (.refused reason)
      | .ok cluster =>
          -- The flags of a word act only once its parameter has a value.
          let raised := cluster.flags.foldlM raise options
          let unrecognized := unrecognized ++ cluster.unrecognized
          match cluster.parameter, rest with
          | none, rest => raised.bind fun options => options.collect unrecognized rest
          | some (parameter, some value), rest =>
              raised.bind fun options =>
                (options.assign parameter value).bind fun options =>
                  options.collect unrecognized rest
          | some (parameter, none), .plain value :: rest =>
              raised.bind fun options =>
                (options.assign parameter value).bind fun options =>
                  options.collect unrecognized rest
          | some (parameter, none), _ => .error (.refused (.missingValue parameter))

/-- The options that the words of a command line ask for. The rules are those of `argparse` in its
releases before 3.11.10, which tells apart what is behind a short flag in another way (`-hx`,
`-vc=x`) and takes two dashes behind an equals sign for a value. -/
def ofTexts (words : List Text) : Except Stop Options :=
  match Word.ofTexts words with
  | .error reason => .error (.refused reason)
  | .ok words => ({} : Options).collect [] words

end Options

end DiagramRepair.CommandLine

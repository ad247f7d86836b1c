import DiagramRepair.Verdict.Basic

/-! Which type of diagram a command line expects. An expectation may be left without a name; it
cannot be compared with a type, and so gets in the way of every diagram of a supported type.
-/

namespace DiagramRepair.CommandLine

inductive Expectation where
  | any
  | named (name : Text)
  | nameless
  deriving DecidableEq

/-- The verdict on a text under an expectation; `none` where a type would have to be compared
with an expectation without a name. -/
def Expectation.judge? (text : Text) : Expectation → Option Verdict
  | .any => some (validate none text)
  | .named name => some (validate (some name) text)
  | .nameless =>
      let verdict := validate none text
      if verdict.type?.any DiagramType.isSupported then none else some verdict

end DiagramRepair.CommandLine

import StartStep.CommandLine.Switch
import StartStep.Text.Terminal

/-!
# What can be wrong with the arguments
-/

namespace StartStep.CommandLine

/-- What is wrong with the arguments. -/
inductive UsageFault
  | valueMissing (s : Switch)
  | repeated (s : Switch)
  | unknownChoice (s : Switch) (value : String)
  | badValue (s : Switch) (value reason : String)
  | valueNotTaken (s : Switch) (value : String)
  | unexpected (argument : String)
  | unknownCommand (argument : String)
  | commandMissing
deriving DecidableEq

/-- The wording of a fault: pieces that differ in style, and the plain text that
stands behind the last of them. -/
def UsageFault.pieces : UsageFault → List String × String
  | .valueMissing s => (["a value is required for '", s.text], "' but none was supplied")
  | .repeated s => (["the argument '", s.text], "' cannot be used multiple times")
  | .unknownChoice s value => (["invalid value '", value, "' for '", s.text], "'")
  | .badValue s value reason => (["invalid value '", value, "' for '", s.text], "': " ++ reason)
  | .valueNotTaken s value =>
      (["unexpected value '", value, "' for '", s.text], "' found; no more were expected")
  | .unexpected argument => (["unexpected argument '", argument], "' found")
  | .unknownCommand argument => (["unrecognized subcommand '", argument], "'")
  | .commandMissing =>
      (["'", programName], "' requires a subcommand but one was not provided")

/-- What is printed of a fault. A change of style ends whatever sequence a text
has begun, so each piece is shown on its own; the plain text and the beginning of
the hint behind it are one piece. -/
def UsageFault.text (f : UsageFault) : String :=
  let (pieces, plain) := f.pieces
  let hint := [plain ++ "\n\nFor more information, try '", "--help", "'."]
  String.join (("error: " :: pieces ++ hint).map Text.Terminal.shown)

/-- Why the reading of arguments comes to an end before its time. -/
inductive Stop
  | fault (f : UsageFault)
  | help (level : Level)
  | version
  /-- There were no arguments at all, and help is given for want of them. -/
  | nothingGiven
deriving DecidableEq

end StartStep.CommandLine

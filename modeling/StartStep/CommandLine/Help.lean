import StartStep.CommandLine.Switch
import StartStep.Text.Lines

/-!
# Help and version
-/

namespace StartStep.CommandLine

def versionText : String := programName ++ " 0.1.0\n"

/-- Two columns, the first padded to its widest entry. -/
def columns (rows : List (String × String)) : List String :=
  let width := (rows.map fun r => r.1.length).foldl max 0
  rows.map fun r =>
    "  " ++ r.1 ++ String.ofList (List.replicate (width - r.1.length + 2) ' ') ++ r.2

def switchRow (s : Switch) : String × String :=
  let letter := match s.letter with
    | some c => "-" ++ c.toString ++ ", "
    | none => "    "
  (letter ++ s.text, s.about)

/-- The help of a level. -/
def helpText (level : Level) : String :=
  let options := columns ((Switch.all.filter fun s => s.standsAt level).map switchRow)
  let lines := match level with
    | .top =>
        ["Plan and resolve graph traversal start steps", "",
          "Usage: " ++ programName ++ " [OPTIONS] <COMMAND>", "", "Commands:"] ++
          columns (CommandName.all.map fun c => (c.text, c.about)) ++ ["", "Options:"]
    | .command c =>
        [c.about, "", "Usage: " ++ programName ++ " " ++ c.text ++ " [OPTIONS]", "", "Options:"]
  Text.ofLines (lines ++ options)

end StartStep.CommandLine

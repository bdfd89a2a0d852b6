import StartStep.CommandLine.Run

/-!
# The program

Environment, files and the two output streams, and nothing else.
-/

namespace StartStep.CommandLine

/-- What is wrong with a file that could not be read. -/
def FileFault.ofError : IO.Error → FileFault
  | .noFileOrDirectory .. => .missing
  | .inappropriateType _ 21 _ => .isDirectory
  | .inappropriateType .. => .notDirectory
  | .invalidArgument _ _ "name too long" => .nameTooLong
  | .invalidArgument _ _ "too many symbolic links encountered" =>
      .other "Too many levels of symbolic links (os error 40)"
  | .permissionDenied .. => .other "Permission denied (os error 13)"
  | .userError _ => .other "stream did not contain valid UTF-8"
  | e => .other (toString e)

/-- Whether something is found at a path. -/
def isFound (path : String) : IO Bool := do
  try
    let _ ← IO.FS.realPath path
    return true
  catch _ =>
    return false

/-- The text of a file on disk. -/
def fetchFile (path : String) : IO FileText := do
  if endsEarly path then
    return .error .pathEnded
  try
    return .ok (← IO.FS.readFile path)
  catch e =>
    -- A file may be found and not be readable, so the error alone does not tell.
    let fault := FileFault.ofError e
    return .error (if ← isFound path then fault else fault.onTheWay)

/-- The user in the status of a process. -/
def userOf (status : String) : Option String :=
  (status.splitOn "\n").findSome? fun line =>
    match line.splitOn "\t" with
    | "Uid:" :: user :: _ => some user
    | _ => none

/-- The home directory of a user in a list of accounts, one on each line. -/
def homeOf (accounts user : String) : Option String :=
  (accounts.splitOn "\n").findSome? fun line =>
    match line.splitOn ":" with
    | [_, _, id, _, _, home, _] => if id = user then some home else none
    | _ => none

/-- The home directory of the account that the program runs for. -/
def accountHome : IO (Option String) := do
  try
    let status ← IO.FS.readFile "/proc/self/status"
    let accounts ← IO.FS.readFile "/etc/passwd"
    return (userOf status).bind (homeOf accounts)
  catch _ =>
    return none

/-- The variables that a run asks for. -/
def readEnvironment : IO Environment := do
  let names := ["PENUMBRA_GRAPH", "PENUMBRA_CONFIG", "RUST_LOG", "XDG_CONFIG_HOME", "HOME"]
  let pairs ← names.mapM fun name => return (name, ← IO.getEnv name)
  let given : Environment := fun name => (pairs.find? fun p => p.1 == name).bind (·.2)
  return given.withHome (← accountHome)

/-- Prints a report. -/
def Report.print (r : Report) : IO Unit := do
  for event in r.log do
    IO.eprintln event.textWithOrigin
  for line in r.errors do
    IO.eprintln line
  IO.print r.output

end StartStep.CommandLine

def main (arguments : List String) : IO UInt32 := do
  let env ← StartStep.CommandLine.readEnvironment
  let report ← (StartStep.CommandLine.run env arguments).perform StartStep.CommandLine.fetchFile
  report.print
  return report.exit.code

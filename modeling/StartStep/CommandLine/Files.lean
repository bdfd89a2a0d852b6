/-!
# Files

The command line reads two files at most. What it does is described as a
`Reading`: an answer, or the path of a file and what is done once it is read.
So it can be carried out on a disk, or on a tree of files held in memory.
-/

namespace StartStep.CommandLine

/-- Why a file cannot be read. -/
inductive FileFault
  | missing
  /-- A name on the way is that of a file. -/
  | notDirectory
  | nameTooLong
  | isDirectory
  /-- The path holds the character that ends a path. -/
  | pathEnded
  /-- There is no getting to the end of the path: a directory on the way may not be
  searched, or links lead to one another. -/
  | unreachable (reason : String)
  | other (reason : String)
deriving DecidableEq

/-- The system's wording. -/
def FileFault.reason : FileFault → String
  | .missing => "No such file or directory (os error 2)"
  | .notDirectory => "Not a directory (os error 20)"
  | .nameTooLong => "File name too long (os error 36)"
  | .isDirectory => "Is a directory (os error 21)"
  | .pathEnded => "file name contained an unexpected NUL byte"
  | .unreachable reason | .other reason => reason

/-- Whether nothing is found at the path. -/
def FileFault.isAbsence : FileFault → Bool
  | .missing | .notDirectory | .nameTooLong | .pathEnded | .unreachable _ => true
  | .isDirectory | .other _ => false

/-- The fault where nothing was found, whatever the system says about it. -/
def FileFault.onTheWay (f : FileFault) : FileFault :=
  if f.isAbsence then f else .unreachable f.reason

/-- Whether a path holds the character that ends a path: nothing is asked for by it. -/
def endsEarly (path : String) : Bool := path.contains '\x00'

/-- The outcome of reading a file. -/
abbrev FileText := Except FileFault String

/-- Work that may ask for files. -/
inductive Reading (α : Type)
  | done (answer : α)
  | read (path : String) (next : FileText → Reading α)

namespace Reading

/-- Carries out the work where every file's text is known. -/
def answer {α : Type} (files : String → FileText) : Reading α → α
  | .done a => a
  | .read path next => (next (files path)).answer files

/-- Carries out the work by reading files. -/
def perform {α : Type} {m : Type → Type} [Monad m] (fetch : String → m FileText) :
    Reading α → m α
  | .done a => pure a
  | .read path next => do (next (← fetch path)).perform fetch

end Reading

/-- Files in memory, each by the names that lead to it from the root, and the
names that lead to the working directory. A directory is there if it leads to
a file or to the working directory. -/
structure FileTree where
  workingDirectory : List String
  files : List (List String × String)

namespace FileTree

/-- The longest name, in bytes, that a file can have. -/
def longestName : Nat := 255

/-- The longest path, in bytes, that can be asked for. -/
def longestPath : Nat := 4095

def isDirectory (t : FileTree) (place : List String) : Bool :=
  place.isPrefixOf t.workingDirectory || t.files.any fun f => place.isPrefixOf f.1 && f.1 != place

def fileAt? (t : FileTree) (place : List String) : Option String :=
  (t.files.find? fun f => f.1 == place).map (·.2)

/-- Goes on from a place by the names of a path, each of them but the first
being entered through a directory. -/
def follow (t : FileTree) (place : List String) : List String → Except FileFault (List String)
  | [] => .ok place
  | name :: rest =>
      if (t.fileAt? place).isSome then .error .notDirectory
      else if !t.isDirectory place then .error .missing
      else if name = "" || name = "." then t.follow place rest
      else if name = ".." then t.follow place.dropLast rest
      else if longestName < name.utf8ByteSize then .error .nameTooLong
      else t.follow (place ++ [name]) rest

/-- The text of the file at a path. -/
def read (t : FileTree) (path : String) : FileText := do
  if endsEarly path then .error .pathEnded
  else if path = "" then .error .missing
  else if longestPath < path.utf8ByteSize then .error .nameTooLong
  else
    let start := if path.startsWith "/" then [] else t.workingDirectory
    let place ← t.follow start (path.splitOn "/")
    match t.fileAt? place with
    | some text => .ok text
    | none => if t.isDirectory place then .error .isDirectory else .error .missing

end FileTree

end StartStep.CommandLine

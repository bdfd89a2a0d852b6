/-!
# Options of the command line

Which commands and options there are, how each is written and shown, and where
it may stand: before a command, behind one, or both.
-/

namespace StartStep.CommandLine

def programName : String := "penumbra"

/-- What can be asked for. -/
inductive CommandName
  | explain
  | resolve
deriving DecidableEq

namespace CommandName

def text : CommandName → String
  | .explain => "explain"
  | .resolve => "resolve"

def about : CommandName → String
  | .explain => "Show the access path chosen for a start step"
  | .resolve => "Resolve a start step and print the matching elements"

def all : List CommandName := [.explain, .resolve]

def ofText (s : String) : Option CommandName := all.find? fun c => c.text == s

end CommandName

/-- Where an argument stands: before the command, or behind one. -/
inductive Level
  | top
  | command (name : CommandName)
deriving DecidableEq

inductive Switch
  | edges
  | id
  | label
  | has
  | redact
  | graph
  | config
  | format
  | theme
  | help
  | version
deriving DecidableEq

namespace Switch

/-- In the order in which help lists them. -/
def all : List Switch :=
  [.edges, .id, .label, .has, .redact, .graph, .config, .format, .theme, .help, .version]

def name : Switch → String
  | .edges => "edges"
  | .id => "id"
  | .label => "label"
  | .has => "has"
  | .redact => "redact"
  | .graph => "graph"
  | .config => "config"
  | .format => "format"
  | .theme => "theme"
  | .help => "help"
  | .version => "version"

/-- What stands for the value, if the option takes one. -/
def valueName : Switch → Option String
  | .id => some "ID"
  | .label => some "LABEL"
  | .has => some "KEY=OP:VALUE"
  | .graph | .config => some "FILE"
  | .format => some "FORMAT"
  | .theme => some "THEME"
  | .edges | .redact | .help | .version => none

def takesValue (s : Switch) : Bool := s.valueName.isSome

/-- The one-letter form. -/
def letter : Switch → Option Char
  | .help => some 'h'
  | .version => some 'V'
  | _ => none

/-- Whether the option may stand at a level. -/
def standsAt : Switch → Level → Bool
  | .graph, _ | .config, _ | .format, _ | .theme, _ | .help, _ => true
  | .version, level => level == .top
  | .redact, level => level == .command .explain
  | .edges, level | .id, level | .label, level | .has, level => level != .top

/-- How an option is shown in messages. -/
def text (s : Switch) : String :=
  match s.valueName with
  | some value => "--" ++ s.name ++ " <" ++ value ++ ">"
  | none => "--" ++ s.name

/-- What help says about an option. -/
def about : Switch → String
  | .edges => "Resolve edges instead of vertices"
  | .id => "Explicit element id (repeatable)"
  | .label => "Restrict to one element label"
  | .has => "Constraint such as name=eq:\"Alice\" or age=within:[30,41] (repeatable)"
  | .redact => "Replace literal values with `?`"
  | .graph => "JSON graph fixture to plan against [env: PENUMBRA_GRAPH]"
  | .config =>
      "CLI config file (defaults to the user config directory) [env: PENUMBRA_CONFIG]"
  | .format =>
      "Output format for structured responses [default: text] [possible values: text, json]"
  | .theme => "Colour theme for text output [default: auto] [possible values: auto, plain]"
  | .help => "Print help"
  | .version => "Print version"

def ofName (level : Level) (name : String) : Option Switch :=
  all.find? fun s => s.name == name && s.standsAt level

def ofLetter (level : Level) (c : Char) : Option Switch :=
  all.find? fun s => s.letter == some c && s.standsAt level

end Switch

end StartStep.CommandLine

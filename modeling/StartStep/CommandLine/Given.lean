import StartStep.CommandLine.OptionValue
import StartStep.Constraint.Text

/-!
# The arguments of one level

Arguments are read in their order, first those before the command and then
those behind it. An option is settled, that is its value is checked and it is
counted as given, when the next option or the end comes, not when its value
does; so a fault in an option that is not settled yet gives way to an unknown
argument behind it.
-/

namespace StartStep.CommandLine

/-- The options settled at one level. -/
structure Given where
  graph : Option String := none
  config : Option String := none
  format : Option OutputFormat := none
  theme : Option Theme := none
  edges : Bool := false
  ids : List ElementId := []
  label : Option String := none
  constraints : List Constraint := []
  redact : Bool := false

namespace Given

/-- Whether an option that may stand once has been given. -/
def has (g : Given) : Switch → Bool
  | .graph => g.graph.isSome
  | .config => g.config.isSome
  | .format => g.format.isSome
  | .theme => g.theme.isSome
  | .edges => g.edges
  | .label => g.label.isSome
  | .redact => g.redact
  | .id | .has | .help | .version => false

/-- Settles an option with its value. -/
def settleValue (g : Given) (s : Switch) (value : String) : Except UsageFault Given :=
  match s with
  | .graph => (fun path => { g with graph := some path }) <$> parsePath s value
  | .config => (fun path => { g with config := some path }) <$> parsePath s value
  | .format => (fun f => { g with format := some f }) <$> parseChoice s OutputFormat.ofText value
  | .theme => (fun t => { g with theme := some t }) <$> parseChoice s Theme.ofText value
  | .label => .ok { g with label := some value }
  | .id => (fun id => { g with ids := g.ids ++ [id] }) <$> parseWith s parseId value
  | .has =>
      (fun c => { g with constraints := g.constraints ++ [c] }) <$>
        parseWith s (fun v => (Constraint.parse v).mapError ConstraintFault.message) value
  | .edges | .redact | .help | .version => .ok g

/-- Settles an option that takes a value: there has to be one, the option may
not be repeated, and the value has to be fit. -/
def settle (g : Given) (s : Switch) (value : Option String) : Except UsageFault Given :=
  match value with
  | none => .error (.valueMissing s)
  | some value => if g.has s then .error (.repeated s) else g.settleValue s value

/-- Settles an option without a value. -/
def settleFlag (g : Given) (level : Level) (s : Switch) : Except Stop Given :=
  if g.has s then .error (.fault (.repeated s))
  else
    match s with
    | .edges => .ok { g with edges := true }
    | .redact => .ok { g with redact := true }
    | .help => .error (.help level)
    | .version => .error .version
    | _ => .ok g

end Given

/-- How far a level has been read: what is settled, and the option that is
not yet, with its value if that has come. -/
structure Progress where
  given : Given := {}
  unsettled : Option (Switch × Option String) := none

namespace Progress

/-- Settles the option that is not yet. -/
def settled (p : Progress) : Except Stop Given :=
  match p.unsettled with
  | none => .ok p.given
  | some (s, value) => (p.given.settle s value).mapError .fault

/-- Whether an option still waits for its value. -/
def isWaiting (p : Progress) : Bool :=
  match p.unsettled with
  | some (_, none) => true
  | _ => false

/-- An option by its name, and what stands behind an equals sign. -/
def long (p : Progress) (level : Level) (name : String) (value : Option String) :
    Except Stop Progress :=
  match Switch.ofName level name with
  | none => .error (.fault (.unexpected ("--" ++ name)))
  | some s =>
      if s.takesValue then do
        let given ← p.settled
        match value with
        | some value => .ok ⟨← (given.settle s (some value)).mapError .fault, none⟩
        | none => .ok ⟨given, some (s, none)⟩
      else
        match value with
        | some value => .error (.fault (.valueNotTaken s value))
        | none => do .ok ⟨← (← p.settled).settleFlag level s, none⟩

/-- Options by their letters. -/
def short (p : Progress) (level : Level) : List Char → Except Stop Progress
  | [] => .ok p
  | c :: rest =>
      match Switch.ofLetter level c with
      | none => .error (.fault (.unexpected ("-" ++ c.toString)))
      | some s => do short ⟨← (← p.settled).settleFlag level s, none⟩ level rest

end Progress

/-- Where the reading of a level ends. -/
structure LevelEnd where
  progress : Progress
  /-- The command that ends it, and the arguments behind that. -/
  next : Option (CommandName × List String)

/-- The fault of an argument that is neither an option nor a value. -/
def strayArgument (level : Level) (trailing : Bool) (argument : String) : UsageFault :=
  match level with
  | .top =>
      if trailing && (CommandName.ofText argument).isSome then .unexpected argument
      else .unknownCommand argument
  | .command _ => .unexpected argument

/-- What an argument looks like. -/
inductive Shape
  /-- Two dashes: no option follows. -/
  | escape
  | long (name : String) (value : Option String)
  | short (letters : List Char)
  | plain

def Shape.of (argument : String) : Shape :=
  match argument.toList with
  | ['-', '-'] => .escape
  | '-' :: '-' :: cs =>
      match splitFirst '=' cs with
      | some (name, value) => .long (String.ofList name) (some (String.ofList value))
      | none => .long (String.ofList cs) none
  | '-' :: c :: cs => .short (c :: cs)
  | _ => .plain

/-- The command that an argument names at a level. -/
def commandAt (level : Level) (argument : String) : Option CommandName :=
  match level with
  | .top => CommandName.ofText argument
  | .command _ => none

/-- Reads a level. -/
def readLevel (level : Level) : Progress → List String → Except Stop LevelEnd
  | p, [] => .ok ⟨p, none⟩
  | p, argument :: rest =>
      match if p.isWaiting then none else commandAt level argument with
      | some name => .ok ⟨p, some (name, rest)⟩
      | none =>
          match Shape.of argument with
          | .escape =>
              match rest with
              | [] => .ok ⟨p, none⟩
              | argument :: _ => .error (.fault (strayArgument level true argument))
          | .long name value => do readLevel level (← p.long level name value) rest
          | .short letters => do readLevel level (← p.short level letters) rest
          | .plain =>
              match p.unsettled with
              | some (s, none) => readLevel level ⟨p.given, some (s, some argument)⟩ rest
              | _ => .error (.fault (strayArgument level false argument))

end StartStep.CommandLine

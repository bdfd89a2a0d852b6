import StartStep.CommandLine.Files
import StartStep.CommandLine.Help
import StartStep.CommandLine.Invocation
import StartStep.CommandLine.LogFilter
import StartStep.CommandLine.Report
import StartStep.CommandLine.Settings
import StartStep.Fixture
import StartStep.Step

/-!
# Running the command line

Arguments and environment give an invocation, the invocation names the
settings file, the two name the graph, and the graph answers. Output is all or
nothing: whatever fails, nothing but log records has been printed before.
-/

namespace StartStep.CommandLine

/-- How a run ends. -/
inductive Exit
  | success
  | failure
  /-- The arguments are not in order. -/
  | misuse
deriving DecidableEq

def Exit.code : Exit → UInt32
  | .success => 0
  | .failure => 1
  | .misuse => 2

/-- What a run prints and how it ends. -/
structure Report where
  exit : Exit
  output : String
  /-- The log records let through. -/
  log : List Event
  /-- What is printed behind the log records if the run fails. -/
  errors : List String
deriving DecidableEq

/-- What can go wrong once the arguments are in order. -/
inductive RunFault
  | settingsUnread (path : String) (f : FileFault)
  | settingsMalformed (path : String)
  | noGraph
  | failed (f : Failure)
deriving DecidableEq

def RunFault.message : RunFault → String
  | .settingsUnread path f => "failed to read CLI config " ++ path ++ ": " ++ f.reason
  | .settingsMalformed path => "failed to parse CLI config " ++ path ++ ": TOML parse error"
  | .noGraph => "no graph fixture: pass --graph or set [graph] default in the CLI config"
  | .failed f => f.message

/-- The environment: the value of each variable that is set. -/
abbrev Environment := String → Option String

def Environment.surroundings (env : Environment) : Surroundings :=
  ⟨env "PENUMBRA_GRAPH", env "PENUMBRA_CONFIG"⟩

def Environment.logFilter (env : Environment) : LogFilter := .ofSetting (env "RUST_LOG")

/-- The environment of an account: its home directory stands in where no other is named. -/
def Environment.withHome (env : Environment) (home : Option String) : Environment := fun name =>
  if name = "HOME" then firstGiven [(env name).filter (· != ""), home] else env name

/-- A path continued by names. -/
def joinPath (base : String) (names : List String) : String :=
  names.foldl (fun path name => path ++ (if path.endsWith "/" then "" else "/") ++ name) base

/-- The settings file where none is named: below the user's configuration
directory, which has to be absolute, or else below the home directory. -/
def Environment.settingsPath (env : Environment) : Option String :=
  let names := ["penumbra", "cli.toml"]
  match (env "XDG_CONFIG_HOME").filter (·.startsWith "/"), (env "HOME").filter (· != "") with
  | some base, _ => some (joinPath base names)
  | none, some home => some (joinPath home (".config" :: names))
  | none, none => none

/-! ## The parts of a run -/

/-- The settings in a file; where there is none, there are no settings. -/
def settingsOf (path : String) (text : FileText) : Except RunFault Settings :=
  match text with
  | .ok s =>
      match Settings.parse s with
      | some settings => .ok settings
      | none => .error (.settingsMalformed path)
  | .error f => if f.isAbsence then .ok {} else .error (.settingsUnread path f)

/-- The step that is asked about, on a graph. -/
def StepRequest.step (r : StepRequest) (settings : Settings) (g : MemGraph) : Step :=
  let step := ((Step.new r.kind r.ids).attach g.provider).withConfig settings.plannerConfig
  let step := match r.label with
    | some label => step.has (.label label)
    | none => step
  r.constraints.foldl Step.has step

/-- The graph that a file holds. -/
def graphOf (text : FileText) : Run MemGraph :=
  match text with
  | .error f => .ofExcept (.error (.io f.reason))
  | .ok s => do (← Run.ofExcept (Fixture.parse s)).build

/-- The output of an invocation for a step on a graph. A step that is to be
resolved is planned by itself, and the plan is followed on the graph. -/
def Invocation.outputFor (i : Invocation) (step : Step) (g : MemGraph) : Run String :=
  match i.command with
  | .explain redact => do return planOutput i.format redact (← step.explain)
  | .resolve => do
      let path ← step.plan
      let resolution ← Resolver.resolve path step.kind step.constraints g.provider
      return resolutionOutput i.format step.text path resolution.elements

/-- The work of an invocation, once the file of the graph is read. -/
def Invocation.work (i : Invocation) (settings : Settings) (settingsPath : Option String)
    (path : String) (text : FileText) : Run String := do
  Run.log (.graphOpened path settingsPath)
  let g ← graphOf text
  i.outputFor (i.step.step settings g) g

/-! ## A run -/

/-- The report of work. -/
def Report.ofRun (filter : LogFilter) (run : Run String) : Report :=
  let log := run.events.filter filter.admits
  match run.result with
  | .ok output => ⟨.success, output, log, []⟩
  | .error f => ⟨.failure, "", log, ["error: " ++ f.message]⟩

def Report.ofFault (f : RunFault) : Report := ⟨.failure, "", [], ["error: " ++ f.message]⟩

/-- The report where arguments were not read to their end. -/
def Report.ofStop : Stop → Report
  | .help level => ⟨.success, helpText level, [], []⟩
  | .version => ⟨.success, versionText, [], []⟩
  | .nothingGiven => ⟨.misuse, "", [], Text.toLines (helpText .top)⟩
  | .fault f => ⟨.misuse, "", [], [f.text]⟩

/-- Goes on once the settings are known. -/
def Invocation.runWith (i : Invocation) (filter : LogFilter) (settingsPath : Option String)
    (settings : Settings) : Reading Report :=
  match firstGiven [i.graph, settings.graph] with
  | none => .done (.ofFault .noGraph)
  | some path =>
      .read path fun text => .done (.ofRun filter (i.work settings settingsPath path text))

/-- Carries out an invocation. -/
def Invocation.run (i : Invocation) (env : Environment) : Reading Report :=
  match firstGiven [i.config, env.settingsPath] with
  | none => i.runWith env.logFilter none {}
  | some path =>
      .read path fun text =>
        match settingsOf path text with
        | .error f => .done (.ofFault f)
        | .ok settings => i.runWith env.logFilter (some path) settings

/-- Runs the command line. -/
def run (env : Environment) (arguments : List String) : Reading Report :=
  match Invocation.parse env.surroundings arguments with
  | .error stop => .done (.ofStop stop)
  | .ok i => i.run env

end StartStep.CommandLine

import TypeExport.Command.Line
import TypeExport.Run.Workflow

/-!
# Performing commands

A command loads its configuration first.  What is wrong with the configuration or goes wrong in its
task is reported with what lies behind it; every other failure ends the command as it is.
-/

namespace TypeExport

open CodeText (ofString)

/-- A failure that is not reported as one of the configuration or of a task. -/
inductive Crash where
  | settings (cause : Settings.BadWorkers)
  | load (cause : Config.LoadError)
  | run (cause : RunError)
  deriving Repr

def Crash.message : Crash → CodeText
  | .settings cause => ofString cause.message
  | .load cause => cause.message
  | .run cause => ofString cause.message

inductive Ending where
  | succeeded
  | failed
  | misused
  | crashed (cause : Crash)
  deriving Repr

def Ending.exitCode : Ending → Nat
  | .succeeded => 0
  | .failed => 1
  | .misused => 2
  | .crashed _ => 1

/-- The outcome of a command: what it prints, what it prints about failures, the log, and the files
as they are left. -/
structure CommandOutcome where
  ending : Ending
  output : CodeText := []
  complaint : CodeText := []
  log : List LogLine := []
  files : FileTree Content
  deriving Repr

namespace Command

def usage : String :=
  "\nUsage:\n" ++
  "   typegen run                              # Use default " ++ Config.standardFile ++ "\n" ++
  "   typegen run custom-config.json           # Use specific config file\n" ++
  "   typegen run --config my-config.json      # Use --config flag\n" ++
  "   typegen run -c my-config.json            # Use -c shorthand\n"

/-- The text about a failure and what lies behind it. -/
def complaintOf (message : CodeText) (inner : Option CodeText) : CodeText :=
  ofString "❌ TypeGen failed: " ++ message ++ ofString "\n" ++
    match inner with
    | some text => ofString "   Inner: " ++ text ++ ofString "\n"
    | none => []

def unloaded (files : FileTree Content) (log : List LogLine) (e : Config.LoadError) :
    CommandOutcome :=
  let complaint := complaintOf e.message e.inner?
  match e with
  | .notFound _ =>
    let line : LogLine := ⟨.error, ofString "Configuration file not found: " ++ e.message⟩
    { ending := .failed, complaint := ofString (usage ++ "\n") ++ complaint,
      log := log ++ [line], files }
  | _ =>
    if e.isInvalid then { ending := .failed, complaint, log, files }
    else { ending := .crashed (.load e), log, files }

def broken (files : FileTree Content) (log : List LogLine) (e : RunError) : CommandOutcome :=
  if e.isOrdinary then
    { ending := .failed, complaint := complaintOf (ofString e.message) (e.inner?.map ofString),
      log, files }
  else { ending := .crashed (.run e), log, files }

def done (files : FileTree Content) (log : List LogLine) (text : String) : CommandOutcome :=
  { ending := .succeeded, output := ofString ("✅ " ++ text ++ "\n"), log, files }

def switchText (b : Bool) : String :=
  if b then "True" else "False"

/-- The lines about a configuration that is going to be run. -/
def summaryLines (c : Config String) : List LogLine :=
  [.info "*** Configuration Summary: ***",
   .info ("   • Modules to scan: " ++ toString c.targets.length),
   .info ("   • Database enums: " ++ toString c.sources.length),
   .info ("   • TypeScript interfaces: " ++ c.interfaceDirectory),
   .info ("   • TypeScript enums: " ++ c.enumDirectory),
   .info ("   • Inline generation: " ++ switchText c.inlineNested),
   .info ("   • Navigation property filtering: " ++ switchText c.dropNavigation)]

variable (imp : Importer)

/-- Performs a task with a configuration; `log` is what was logged before. -/
def performWith (log : List LogLine) (c : Config String) : Task → CommandOutcome
  | .validate => done imp.files log "Configuration is valid."
  | .run =>
    let outcome := runWorkflow imp c
    let log := log ++ summaryLines c ++ outcome.log
    match outcome.result with
    | .ok summary =>
      done outcome.files log ("TypeGen completed successfully! (" ++ summary.text ++ ")")
    | .error e => broken outcome.files log e
  | .writeLookups =>
    let outcome := generateEnums imp.databases imp.environment.workingDirectory c.connection
      c.moduleDirectory c.sources imp.files
    let log := log ++ outcome.log
    match outcome.result with
    | .ok written =>
      done outcome.files log (toString written.length ++ " database enum module(s) written.")
    | .error e => broken outcome.files log (.lookup e)

/-- Loads the configuration of a name and performs a task with it. -/
def performOn (task : Task) (name : String) : CommandOutcome :=
  match Config.load imp.environment imp.files name with
  | (log, .error e) => unloaded imp.files log e
  | (log, .ok c) =>
    match c.map? CodeText.toString? with
    | some c => performWith imp log c task
    | none => unloaded imp.files log .notText

/-- The outcome of a command line without a task to perform. -/
def unperformed (files : FileTree Content) : LineProblem → CommandOutcome
  | .help => { ending := .succeeded, output := ofString usage, files }
  | .misuse => { ending := .misused, complaint := ofString usage, files }

/-- Performs what a command line asks for.  The settings are read as soon as the task is known. -/
def perform (words : List String) : CommandOutcome :=
  match CommandLine.read words with
  | .error problem => unperformed imp.files problem
  | .ok line =>
    match Settings.ofEnvironment imp.environment with
    | .error e => { ending := .crashed (.settings e), files := imp.files }
    | .ok _ =>
      match TaskWords.read line.words with
      | .error problem => unperformed imp.files problem
      | .ok words => performOn imp line.task words.configName

/-- The least severity of the lines that a command shows. -/
def leastSeverity (env : Environment) (words : List String) : Nat :=
  match CommandLine.read words, Settings.ofEnvironment env with
  | .ok { verbose := true, .. }, _ => LogLevel.leastSeverity "DEBUG"
  | _, .ok settings => LogLevel.leastSeverity settings.logLevel
  | _, .error _ => LogLevel.leastSeverity "INFO"

end Command

end TypeExport

import TypeExport.Config.Basic
import TypeExport.Generation.Files
import TypeExport.Run.Summary
import TypeExport.Scan.Session

/-!
# Runs

A run writes the lookup enums, scans the targets and generates the files of the marked types, in
this order, so that the lookup enums can be scanned.  The first failure ends the run; what was
written before stays.
-/

namespace TypeExport

/-- The files and the scans of a run so far; the log is the one of the session. -/
structure RunState where
  files : FileTree Content
  session : Session
  deriving Repr

/-- Actions of a run; what was done before a failure stays. -/
abbrev Runs := ExceptT RunError (StateM RunState)

/-- The outcome of a run: the files as they are left, the log, and the result. -/
structure RunOutcome where
  files : FileTree Content
  log : List LogLine
  result : Except RunError RunSummary
  deriving Repr

namespace Universe

/-- The lines of events: reading the properties of a type may give some. -/
def linesOf (u : Universe) : List (GenerationEvent (Option ClassRef)) → List LogLine
  | [] => []
  | .line l :: rest => l :: linesOf u rest
  | .read t :: rest =>
    let (u, lines) := u.afterRead t
    lines ++ linesOf u rest

end Universe

def Config.outputDirectories (c : Config String) : OutputDirectories :=
  { interfaces := .ofString c.interfaceDirectory, enumerations := .ofString c.enumDirectory }

namespace Runs

variable {α : Type}

def ofScans (x : Scans α) : Runs α :=
  ExceptT.mk fun s =>
    let (result, session) := x.run.run s.session
    (result.mapError .scan, { s with session })

def report (line : LogLine) : Runs Unit :=
  ofScans (Scans.report line)

def writeLookups (imp : Importer) (c : Config String) : Runs (List Path) :=
  ExceptT.mk fun s =>
    let outcome := generateEnums imp.databases imp.environment.workingDirectory c.connection
      c.moduleDirectory c.sources s.files
    (outcome.result.mapError .lookup,
      { files := outcome.files, session := { s.session with log := s.session.log ++ outcome.log } })

def generate (imp : Importer) (c : Config String) (roots : List ClassRef) : Runs Generated := do
  let u ← ofScans (do Scans.describing (← Scans.index imp c.targets))
  ExceptT.mk fun s =>
    let outcome := u.graph.generate c.policy imp.environment.workingDirectory c.outputDirectories
      Failure.message (roots.map fun t => u.node (some t)) s.files
    let lines := u.linesOf (outcome.events.map (·.map Subtype.val))
    (outcome.result.mapError .generation,
      { files := outcome.files, session := { s.session with log := s.session.log ++ lines } })

/-- The first step: the lookup enums, if there are any. -/
def lookupStep (imp : Importer) (c : Config String) : Runs (List Path) := do
  if c.sources.isEmpty then
    report (.info "Step 1: Skipped - No database enums configured")
    return []
  report (.info "Step 1: Generating Python enums from database...")
  let written ← writeLookups imp c
  report (.info ("Database enums generated: " ++ toString written.length))
  return written

/-- The third step: the files of the roots that were found. -/
def generationStep (imp : Importer) (c : Config String) (roots : List ClassRef) :
    Runs Generated := do
  if roots.isEmpty then
    report (.warning "No types found with @export_to_ts in the configured modules")
    return {}
  report (.info "Step 3: Generating TypeScript interfaces and enums...")
  let available ← ofScans (Scans.available imp c.targets)
  report (.info ("Types available for inline generation: " ++
    toString (available.map fun (_, d) => d.fullName).eraseDups.length))
  let generated ← generate imp c roots
  report (.info ("TypeScript files generated: " ++ toString generated.total))
  return generated

/-- The second and the third step, if there are targets: what is found, and what is generated. -/
def scanStep (imp : Importer) (c : Config String) : Runs (Nat × Generated) := do
  if c.targets.isEmpty then
    report (.info "Steps 2-3: Skipped - No modules configured to scan")
    return (0, {})
  report (.info "Step 2: Discovering types marked with @export_to_ts...")
  let imp := { imp with files := (← get).files }
  let roots ← ofScans (Scans.roots imp c.targets)
  report (.info ("Found " ++ toString roots.length ++ " types to export"))
  return (roots.length, ← generationStep imp c roots)

def steps (imp : Importer) (c : Config String) : Runs RunSummary := do
  report (.info "Starting complete TypeGen workflow...")
  let moduleFiles ← lookupStep imp c
  let (discovered, generated) ← scanStep imp c
  return { moduleFiles, discovered, generated }

def closingLines : Except RunError RunSummary → List LogLine
  | .ok summary => [.info ("TypeGen workflow completed successfully: " ++ summary.text)]
  | .error e =>
    if e.isOrdinary then [.error ("TypeGen workflow failed: " ++ e.message)] else []

end Runs

/-- Runs a configuration on the files of an importer, from a fresh session. -/
def runWorkflow (imp : Importer) (c : Config String) : RunOutcome :=
  let (result, s) := (Runs.steps imp c).run.run { files := imp.files, session := .empty }
  { files := s.files, log := s.session.log ++ Runs.closingLines result, result }

end TypeExport

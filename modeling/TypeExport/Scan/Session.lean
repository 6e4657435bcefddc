import TypeExport.Declaration.Draft
import TypeExport.Scan.Discovery
import TypeExport.Scan.Universe

/-!
# Scan sessions

A session keeps the modules that it loaded, and one index of the available classes for every list
of targets.  The marked classes of the loaded modules are the roots of an export.
-/

namespace TypeExport

structure Session where
  world : World
  catalog : Catalog
  indexes : List (List String × ClassIndex)
  broken : List ClassRef
  log : List LogLine
  deriving Repr

namespace Session

def empty : Session :=
  { world := .empty, catalog := [], indexes := [], broken := [], log := [] }

end Session

/-- The classes that an index is made of: the available ones of some targets, or given ones. -/
inductive IndexSource where
  | targets (texts : List String)
  | classes (classes : List ClassRef)
  deriving Repr

/-- Actions of a session; what was done before a failure stays. -/
abbrev Scans := ExceptT ScanError (StateM Session)

namespace Scans

variable {α : Type}

/-- Loads in the world of the session. -/
def ofLoads (x : Loads α) : Scans α :=
  ExceptT.mk fun s =>
    let (result, p) := x.run.run { world := s.world, log := s.log }
    (result, { s with world := p.world, log := p.log })

def report (line : LogLine) : Scans Unit :=
  modify fun s => { s with log := s.log ++ [line] }

variable (imp : Importer)

def load (texts : List String) : Scans (List LoadedTarget) := do
  let (catalog, targets) ← ofLoads (Catalog.load imp (← get).catalog texts)
  modify fun s => { s with catalog }
  return targets

/-- The available classes of the modules of some targets. -/
def availableClasses (texts : List String) : Scans (List ClassRef) := do
  let targets ← load imp texts
  let w := (← get).world
  return w.availableClasses (Catalog.modules w targets)

/-- The index for some targets, which is made once. -/
def index (texts : List String) : Scans ClassIndex := do
  match (← get).indexes.lookup texts with
  | some i => return i
  | none =>
    let classes ← availableClasses imp texts
    let i := (← get).world.indexOf classes
    modify fun s => { s with indexes := s.indexes ++ [(texts, i)] }
    return i

def describing (i : ClassIndex) : Scans Universe := do
  let s ← get
  return { world := s.world, index := i, broken := s.broken }

/-- Describes the available classes of some targets, by full and by short name. -/
def available (texts : List String) : Scans (List (String × Descriptor)) := do
  let i ← index imp texts
  let classes ← availableClasses imp texts
  let u ← describing i
  let all := Keyed.putAll (classes.flatMap fun c =>
    let d := u.describe (some c)
    [(d.fullName, d), (d.shortName, d)]) []
  let count := (all.map fun (_, d) => d.fullName).eraseDups.length
  report (.info ("Collected " ++ toString count ++ " types for inline generation"))
  return all

/-- Reports how many roots a target has. -/
def foundLine (target : Target) (count : Nat) : LogLine :=
  .info ("Found " ++ toString count ++ " types with @export_to_ts in " ++ target.text)

def totalLine (types : List Descriptor) : LogLine :=
  let isClass (d : Descriptor) := d.kind == .record || d.kind == .interface
  let isEnumeration (d : Descriptor) := d.kind == .enumeration
  .info ("Total discovered types: " ++ toString types.length ++ " (Classes: " ++
    toString (types.filter isClass).length ++ ", Enums: " ++
    toString (types.filter isEnumeration).length ++ ")")

/-- The marked classes of some targets, each full name once. -/
def roots (texts : List String) : Scans (List ClassRef) := do
  let i ← index imp texts
  let targets ← load imp texts
  let u ← describing i
  let found := u.world.rootsOf [] targets
  for (target, classes) in found do
    report (foundLine target classes.length)
  let all := found.flatMap (·.2)
  report (totalLine (all.map fun c => u.describe (some c)))
  return all

/-- Keeps what was read with an index. -/
def keep (source : IndexSource) (u : Universe) (lines : List LogLine) : Scans Unit := do
  modify fun s => { s with broken := u.broken, log := s.log ++ lines }
  match source with
  | .targets texts => modify fun s => { s with indexes := Keyed.put texts u.index s.indexes }
  | .classes _ => pure ()

/-- Describes classes with an index.  `f` also says whose properties it reads, in order. -/
def reading (source : IndexSource)
    (f : (u : Universe) → List (Option ClassRef) × Except Failure α) : Scans α := do
  let i ← match source with
    | .targets texts => index imp texts
    | .classes classes => pure ((← get).world.indexOf classes)
  let u ← describing i
  let (types, result) := f u
  let (after, lines) := u.afterReads types
  keep source after lines
  match result with
  | .ok a => return a
  | .error f => throw (.source f)

def properties (source : IndexSource) (t : Option ClassRef) :
    Scans (Descriptor × List ClassProperty) :=
  reading imp source fun u =>
    ([t], (u.properties t).map fun properties => (u.describe t, properties))

def artifact (policy : Policy) (source : IndexSource) (t : Option ClassRef) : Scans Artifact :=
  reading imp source fun u =>
    ((u.graph.reads policy (u.node t)).map (·.val), u.graph.artifact policy (u.node t))

end Scans

end TypeExport

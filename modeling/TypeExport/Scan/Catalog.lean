import TypeExport.Scan.Loading

/-!
# The catalog of loaded targets

A target is loaded once: its modules are kept under the place that it comes from.  The catalog only
grows when all targets of a request are loaded.

The missing targets of a request are tasks for a pool of workers, which share the register of
modules.  What is written here is what one worker does, up to the first failure: it loads the targets
one after the other, as they are handed out.  With more workers the loads of two targets can overlap,
and this is only what happens if at most one target of a request is missing.
-/

namespace TypeExport

/-- The loaded targets by the place that they come from. -/
abbrev Catalog := List (ModuleOrigin × LoadedTarget)

namespace Catalog

/-- The texts that name targets: blank ones are left out, and each counts once. -/
def requested (texts : List String) : List String :=
  (texts.filter fun text => !Text.allBlank text).eraseDups

/-- The targets with different places, the first of each. -/
def distinctTargets (targets : List Target) : List Target :=
  (targets.foldl (fun found t =>
    if (found.map (·.origin)).contains t.origin then found else t :: found) []).reverse

/-- The targets that are not loaded yet. -/
def missing (catalog : Catalog) (targets : List Target) : List Target :=
  (distinctTargets targets).filter fun t => (catalog.lookup t.origin).isNone

def extend (catalog : Catalog) (loaded : List LoadedTarget) : Catalog :=
  catalog ++ loaded.map fun t => (t.target.origin, t)

/-- The loaded targets of a request, in order. -/
def select (catalog : Catalog) (targets : List Target) : List LoadedTarget :=
  (distinctTargets targets).filterMap fun t => catalog.lookup t.origin

/-- Loads the targets of a request: all are found first, and then one worker loads the missing ones. -/
def load (imp : Importer) (catalog : Catalog) (texts : List String) :
    Loads (Catalog × List LoadedTarget) := do
  let targets ← (requested texts).mapM imp.findTarget
  let loaded ← (catalog.missing targets).mapM imp.loadTarget
  let catalog := catalog.extend loaded
  return (catalog, catalog.select targets)

/-- The modules of loaded targets, each name once. -/
def modules (w : World) (targets : List LoadedTarget) : List ModuleHandle :=
  ((targets.flatMap (·.modules)).foldl (fun found h =>
    if (found.map (·.name w)).contains (h.name w) then found else h :: found) []).reverse

end Catalog

end TypeExport

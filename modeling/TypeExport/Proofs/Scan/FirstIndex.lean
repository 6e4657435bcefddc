import TypeExport.Proofs.Scan.Requests
import TypeExport.Scan.Session

/-!
# The first index for some targets

To load targets changes the world, the log and the catalog of a session.  An index that is not there
yet is made of the available classes of the modules that are loaded for it.
-/

/-!
## Modules of plain classes

Files whose modules are lists of statements, and classes that are only named and annotated.
-/

namespace TypeExport

/-- A class without a form of its own. -/
def Statement.plainClass (name : String) (isMarked : Bool) (bases : List Expr)
    (fields : List (String × Expr)) : Statement :=
  .define (.mk name .plain bases [] (if isMarked then some none else none)
    (fields.map fun (name, typeHint) => { name, typeHint := some typeHint }) [] [] [] [] none false)

/-- A file of statements. -/
def Content.ofStatements (body : List Statement) : Content :=
  .module { prelude := [], deferred := false, typeVariables := [], body } []

/-- Imports from some files, which the directories on the search path offer. -/
def Importer.ofEntries (searchPath : List Location) (entries : List (Location × Entry Content)) :
    Importer where
  environment := { «variables» := [], workingDirectory := [], homes := [] }
  files := { entries }
  searchPath
  installed := ["typegen", "typegen.markers"]
  digest := fun l => (Path.ofLocation l).text

end TypeExport

/-!
## Loading and indexing
-/

namespace TypeExport

/-- What loading sees of a session beside its catalog. -/
def Session.progress (s : Session) : Progress :=
  { world := s.world, log := s.log }

namespace Scans

variable {imp : Importer} {texts : List String} {s t : Session} {targets : List LoadedTarget}
  {i : ClassIndex}

/-- A load of a session is a load of its catalog, from what loading sees of the session. -/
theorem load_run (imp : Importer) (texts : List String) (s : Session) :
    (load imp texts).run.run s =
      match (Catalog.load imp s.catalog texts).run.run s.progress with
      | (.ok (catalog, targets), p) =>
        (.ok targets, { s with world := p.world, log := p.log, catalog })
      | (.error e, p) => (.error e, { s with world := p.world, log := p.log }) := by
  have hrun : (load imp texts).run.run s =
      (ofLoads (Catalog.load imp s.catalog texts) >>= fun loaded => do
        modify fun s => { s with catalog := loaded.1 }
        return loaded.2 : Scans (List LoadedTarget)).run.run s := rfl
  have hloads : (ofLoads (Catalog.load imp s.catalog texts)).run.run s =
      (((Catalog.load imp s.catalog texts).run.run s.progress).1,
        { s with world := ((Catalog.load imp s.catalog texts).run.run s.progress).2.world
                 log := ((Catalog.load imp s.catalog texts).run.run s.progress).2.log }) := rfl
  rw [hrun, ExceptT.run_bind, StateT.run_bind, hloads]
  cases (Catalog.load imp s.catalog texts).run.run s.progress with
  | mk result p => cases result <;> rfl

/-- The indexes have no part in what is loaded. -/
theorem load_run_withIndexes (imp : Importer) (texts : List String) (s : Session)
    (indexes : List (List String × ClassIndex)) :
    (load imp texts).run.run { s with indexes } =
      ((load imp texts).run.run s).map id fun t => { t with indexes } := by
  have hload : (Catalog.load imp { s with indexes }.catalog texts).run.run
      { s with indexes }.progress =
      (Catalog.load imp s.catalog texts).run.run s.progress := rfl
  rw [load_run, load_run, hload]
  cases (Catalog.load imp s.catalog texts).run.run s.progress with
  | mk result p => cases result <;> rfl

theorem indexes_of_load (h : Gives (load imp texts) s targets t) : t.indexes = s.indexes := by
  unfold Gives at h
  rw [load_run] at h
  cases hrun : (Catalog.load imp s.catalog texts).run.run s.progress with
  | mk result p =>
    rw [hrun] at h
    cases result with
    | error e => cases h
    | ok loaded =>
      cases h
      rfl

/-- The index of the available classes of loaded targets. -/
def indexOfTargets (w : World) (targets : List LoadedTarget) : ClassIndex :=
  w.indexOf (w.availableClasses (Catalog.modules w targets))

/-- An index that is not there yet is made of loaded targets, and kept. -/
theorem index_run (h : s.indexes.lookup texts = none) :
    (index imp texts).run.run s =
      match (load imp texts).run.run s with
      | (.ok targets, t) =>
        (.ok (indexOfTargets t.world targets),
          { t with indexes := t.indexes ++ [(texts, indexOfTargets t.world targets)] })
      | (.error e, t) => (.error e, t) := by
  have hrun : (index imp texts).run.run s =
      (load imp texts >>= fun targets => do
        let i := indexOfTargets (← get).world targets
        modify fun s => { s with indexes := s.indexes ++ [(texts, i)] }
        return i : Scans ClassIndex).run.run s := by
    unfold index availableClasses
    rw [(gives_get s).run_bind, h]
    dsimp only
    rw [bind_assoc]
    exact run_bind_congr fun targets t _ => rfl
  rw [hrun, ExceptT.run_bind, StateT.run_bind]
  cases (load imp texts).run.run s with
  | mk result t => cases result <;> rfl

/-- An index that is not there yet is made of the modules that are loaded. -/
theorem gives_index_iff (h : s.indexes.lookup texts = none) :
    Gives (index imp texts) s i t ↔ ∃ targets u, Gives (load imp texts) s targets u ∧
      i = indexOfTargets u.world targets ∧
      t = { u with indexes := s.indexes ++ [(texts, i)] } := by
  unfold Gives
  rw [index_run h]
  constructor
  · intro hi
    cases hrun : (load imp texts).run.run s with
    | mk result u =>
      rw [hrun] at hi
      cases result with
      | error e => cases hi
      | ok targets =>
        cases hi
        exact ⟨targets, u, rfl, rfl, by rw [indexes_of_load hrun]⟩
  · rintro ⟨targets, u, hload, rfl, rfl⟩
    rw [hload]
    dsimp only
    rw [indexes_of_load hload]

/-- An index that is there is given as it is. -/
theorem gives_index_of_lookup (h : s.indexes.lookup texts = some i) :
    Gives (index imp texts) s i s := by
  unfold index
  apply (gives_get s).bind
  rw [h]
  exact gives_pure i s

theorem lookup_of_index (h : Gives (index imp texts) s i t) : t.indexes.lookup texts = some i := by
  cases hlookup : s.indexes.lookup texts with
  | some j =>
    obtain ⟨rfl, rfl⟩ := h.unique (gives_index_of_lookup hlookup)
    exact hlookup
  | none =>
    obtain ⟨targets, u, -, -, rfl⟩ := (gives_index_iff hlookup).1 h
    rw [List.lookup_append, hlookup]
    simp

theorem indexes_of_availableClasses {classes : List ClassRef}
    (h : Gives (availableClasses imp texts) s classes t) : t.indexes = s.indexes := by
  obtain ⟨targets, u, hload, h⟩ := h.of_bind
  obtain ⟨-, rfl⟩ := h.unique ((gives_get u).bind (gives_pure _ u))
  exact indexes_of_load hload

/-- The available types leave the index that they are described with. -/
theorem lookup_of_available {types : List (String × Descriptor)}
    (h : Gives (available imp texts) s types t) : ∃ i, t.indexes.lookup texts = some i := by
  unfold available at h
  obtain ⟨i, u, hindex, hrest⟩ := h.of_bind
  obtain ⟨classes, v, hclasses, hdescribes⟩ := hrest.of_bind
  obtain ⟨described, v', hdescribed, hreports⟩ := hdescribes.of_bind
  obtain ⟨-, rfl⟩ := hdescribed.unique (gives_describing i v)
  obtain ⟨_, v'', hreport, hpure⟩ := hreports.of_bind
  obtain ⟨-, rfl⟩ := hreport.unique (gives_report _ _)
  obtain ⟨-, rfl⟩ := hpure.unique (gives_pure _ _)
  refine ⟨i, ?_⟩
  show v'.indexes.lookup texts = some i
  rw [indexes_of_availableClasses hclasses]
  exact lookup_of_index hindex

end Scans

end TypeExport

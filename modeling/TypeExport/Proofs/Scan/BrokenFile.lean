import TypeExport.Proofs.Renumbering.Targets
import TypeExport.Proofs.Scan.AddedFile
import TypeExport.Proofs.Scan.FailingFile
import TypeExport.Proofs.Scan.LoadHistory
import TypeExport.Proofs.Scan.Overlap

/-!
# A broken file in a scanned directory

A file that fails when its turn comes, and leaves nothing that others can see, changes no other result
of a scan: all else is loaded as before, and the roots and the available types are shown as before.
Files whose names begin with a low line run only if they are imported.  The targets are loaded one after
the other; while the load of a broken file overlaps with others, it can be seen by them.
-/

/-!
## The first load of a session

The first load of a session loads its targets one after the other.  What the session shows of the
loaded classes after that, the roots of an export and the available types, is a matter of the world
and of the loaded targets alone.
-/

namespace TypeExport

namespace Catalog

variable {imp : Importer} {targets : List Target} {new loaded : List LoadedTarget} {t : Target}

/-- Leaving out repetitions adds no target. -/
theorem mem_of_mem_distinctTargets (h : t ∈ distinctTargets targets) : t ∈ targets := by
  have hadd : ∀ (targets found : List Target), t ∈ addDistinct found targets →
      t ∈ found ∨ t ∈ targets := by
    intro targets
    induction targets with
    | nil => exact fun found h => .inl h
    | cons other rest ih =>
      intro found h
      rw [addDistinct_cons] at h
      split at h
      · exact (ih found h).imp_right (List.mem_cons_of_mem _)
      · rcases ih _ h with h | h
        · rcases List.mem_cons.1 h with rfl | h
          · exact .inr List.mem_cons_self
          · exact .inl h
        · exact .inr (List.mem_cons_of_mem _ h)
  exact (hadd targets [] (List.mem_reverse.1 h)).resolve_left List.not_mem_nil

theorem nodup_origins_distinctTargets (targets : List Target) :
    ((distinctTargets targets).map (·.origin)).Nodup := by
  rw [origins_distinctTargets]
  exact nodup_eraseDups _

theorem missing_nil (targets : List Target) : missing [] targets = distinctTargets targets :=
  List.filter_eq_self.2 fun _ _ => rfl

theorem lookup_of_nodup (hnodup : (new.map (·.target.origin)).Nodup) {u : LoadedTarget}
    (hu : u ∈ new) :
    (new.map fun u => (u.target.origin, u)).lookup u.target.origin = some u := by
  refine Keyed.lookup_of_mem ?_ (List.mem_map_of_mem hu)
  rw [List.map_map]
  exact hnodup

/-- What is loaded into an empty catalog is returned. -/
theorem select_extend_nil (h : new.map (·.target) = distinctTargets targets) :
    select (extend [] new) targets = new := by
  have hnodup : (new.map (·.target.origin)).Nodup := by
    have horigins := nodup_origins_distinctTargets targets
    rw [← h, List.map_map] at horigins
    exact horigins
  unfold select extend
  rw [← h, List.filterMap_map, List.nil_append]
  calc new.filterMap _
    _ = new.filterMap some :=
      List.filterMap_congr fun u hu => lookup_of_nodup hnodup hu
    _ = new := List.filterMap_some

end Catalog

namespace Scans

variable {imp : Importer} {texts : List String} {targets : List Target} {loaded : List LoadedTarget}
  {s : Session}

/-- The first load of a session loads the targets that are found one after the other. -/
theorem gives_load_iff_of_targets
    (hfound : ∀ p, Gives ((Catalog.requested texts).mapM imp.findTarget) p targets p) :
    Gives (load imp texts) .empty loaded s ↔
      Gives ((Catalog.distinctTargets targets).mapM imp.loadTarget) Session.empty.progress loaded
        s.progress ∧ s.catalog = Catalog.extend [] loaded ∧ s.indexes = [] ∧ s.broken = [] := by
  have hselect : ∀ {new : List LoadedTarget} {q : Progress},
      Gives ((Catalog.distinctTargets targets).mapM imp.loadTarget) Session.empty.progress new q →
      Catalog.select (Catalog.extend [] new) targets = new := by
    intro new q h
    exact Catalog.select_extend_nil (Catalog.map_target_of_forall₂
      (forall₂_of_mapM h fun _ _ _ _ => Importer.target_of_loadTarget))
  have hrun : (Catalog.load imp Session.empty.catalog texts).run.run Session.empty.progress =
      ((Catalog.distinctTargets targets).mapM imp.loadTarget >>= fun new =>
        pure (Catalog.extend [] new, Catalog.select (Catalog.extend [] new) targets) :
          Loads (Catalog × List LoadedTarget)).run.run Session.empty.progress := by
    rw [Catalog.load_eq, (hfound _).run_bind]
    unfold Catalog.complete
    rw [← Catalog.missing_nil]
    rfl
  have hiff : ∀ {catalog : Catalog} {q : Progress},
      Gives (Catalog.load imp Session.empty.catalog texts) Session.empty.progress (catalog, loaded) q ↔
      Gives ((Catalog.distinctTargets targets).mapM imp.loadTarget) Session.empty.progress loaded q ∧
        catalog = Catalog.extend [] loaded := by
    intro catalog q
    unfold Gives
    rw [hrun]
    constructor
    · intro h
      obtain ⟨new, u, hnew, h⟩ := Gives.of_bind h
      obtain ⟨hpair, rfl⟩ := (gives_pure _ _).unique h
      cases hpair
      rw [hselect hnew]
      exact ⟨hnew, rfl⟩
    · rintro ⟨hnew, rfl⟩
      refine Gives.bind hnew ?_
      rw [hselect hnew]
      exact gives_pure _ q
  constructor
  · intro h
    unfold Gives at h
    rw [load_run] at h
    cases hload : (Catalog.load imp Session.empty.catalog texts).run.run
      Session.empty.progress with
    | mk result p =>
      rw [hload] at h
      cases result with
      | error e => cases h
      | ok found =>
        cases h
        obtain ⟨hnew, hcatalog⟩ := hiff.1 hload
        exact ⟨hnew, hcatalog, rfl, rfl⟩
  · rintro ⟨hnew, hcatalog, hindexes, hbroken⟩
    have hload := hiff.2 ⟨hnew, rfl⟩
    unfold Gives at hload ⊢
    rw [load_run, hload]
    obtain ⟨world, catalog, indexes, broken, log⟩ := s
    subst hcatalog hindexes hbroken
    rfl

/-- A directory alone is loaded file after file. -/
theorem gives_load_of_directory {text : String} {target : Target} {directory : Location}
    {t : LoadedTarget} {q : Progress} (hnames : imp.NamesPath text target)
    (hkind : target.kind = .directory) (hplace : target.origin = .place directory)
    (hfiles : imp.publicFiles directory ≠ [])
    (h : Gives (imp.loadFiles directory { target } (imp.publicFiles directory))
      Session.empty.progress t q) :
    ∃ s, Gives (load imp [text]) .empty [t] s ∧ s.progress = q ∧ s.broken = [] := by
  have hrequested : Catalog.requested [text] = [text] := by
    unfold Catalog.requested
    rw [List.filter_singleton, hnames.notBlank]
    rfl
  have hfound : ∀ p, Gives ((Catalog.requested [text]).mapM imp.findTarget) p [target] p := by
    rw [hrequested]
    exact Importer.gives_findTargets (.cons hnames .nil)
  have hload : Gives ([target].mapM imp.loadTarget) Session.empty.progress [t] q := by
    rw [gives_mapM_cons_iff]
    refine ⟨t, q, [], ?_, gives_pure [] q, rfl⟩
    rw [imp.loadTarget_of_directory hkind hplace]
    exact Importer.gives_loadDirectory_of_loadFiles hfiles h
  let s : Session :=
    { world := q.world, catalog := Catalog.extend [] [t], indexes := [], broken := [], log := q.log }
  exact ⟨s, (gives_load_iff_of_targets hfound).2 ⟨hload, rfl, rfl, rfl⟩, rfl, rfl⟩

/-- The roots of an export, as they are shown. -/
def shownRoots (imp : Importer) (texts : List String) :
    Scans (List (Descriptor × Except Failure (List (Property Descriptor)))) := do
  let classes ← roots imp texts
  let u ← describing (← index imp texts)
  return classes.map u.shown

/-- The available types, as they are shown. -/
def shownAvailable (imp : Importer) (texts : List String) :
    Scans (List (Descriptor × Except Failure (List (Property Descriptor)))) := do
  let classes ← availableClasses imp texts
  let u ← describing (← index imp texts)
  return classes.map u.shown

/-- The loaded classes, with the index of their targets. -/
def universeOf (w : World) (loaded : List LoadedTarget) : Universe :=
  { world := w, index := indexOfTargets w loaded, broken := [] }

/-- Both actions give one value in a new session. -/
def GiveAlike {α : Type} (x x' : Scans α) : Prop :=
  ∃ a, Succeeds x .empty (fun b _ => b = a) ∧ Succeeds x' .empty fun b _ => b = a

/-- A class by its full and by its short name. -/
def entriesOf (u : Universe) (c : ClassRef) : List (String × Descriptor) :=
  [((u.describe (some c)).fullName, u.describe (some c)),
    ((u.describe (some c)).shortName, u.describe (some c))]

section Shown

variable (hpaths : ∀ text ∈ texts, Text.allBlank text = true ∨ ∃ target, imp.NamesPath text target)
  (hload : Gives (load imp texts) .empty loaded s)
include hpaths hload

theorem gives_index_after :
    Gives (index imp texts) s (indexOfTargets s.world loaded)
      { s with indexes := [(texts, indexOfTargets s.world loaded)] } := by
  have hindexes : s.indexes = [] := indexes_of_load hload
  refine (gives_index_iff (by rw [hindexes]; rfl)).2
    ⟨loaded, s, load_again_of_paths hpaths hload, rfl, ?_⟩
  rw [hindexes]
  rfl

/-- With an index at hand, the available classes are those of its targets. -/
theorem gives_availableClasses_after :
    Gives (availableClasses imp texts)
      { s with indexes := [(texts, indexOfTargets s.world loaded)] }
      (s.world.availableClasses (Catalog.modules s.world loaded))
      { s with indexes := [(texts, indexOfTargets s.world loaded)] } := by
  have hagain : Gives (load imp texts)
      { s with indexes := [(texts, indexOfTargets s.world loaded)] } loaded
      { s with indexes := [(texts, indexOfTargets s.world loaded)] } := by
    have hsame := load_again_of_paths hpaths hload
    unfold Gives at hsame ⊢
    rw [load_run_withIndexes, hsame]
    rfl
  exact hagain.bind ((gives_get _).bind (gives_pure _ _))

variable (hbroken : s.broken = [])
include hbroken

/-- Over loaded targets, the roots are shown in a new session. -/
theorem shownRoots_succeeds : Succeeds (shownRoots imp texts) .empty fun shown _ => shown =
    ((s.world.rootsOf [] loaded).flatMap (·.2)).map (universeOf s.world loaded).shown := by
  have hroots := roots_run (s := .empty) rfl hload
  have hagain := load_again_of_paths hpaths hload
  unfold Gives at hagain
  rw [hagain] at hroots
  refine Gives.andThen hroots ((gives_index_of_lookup (i := indexOfTargets s.world loaded) ?_).andThen
    ((gives_describing _ _).andThen ((gives_pure _ _).succeeds ?_)))
  · simp
  · dsimp only
    rw [hbroken]
    rfl

theorem shownAvailable_succeeds : Succeeds (shownAvailable imp texts) .empty fun shown _ => shown =
    (s.world.availableClasses (Catalog.modules s.world loaded)).map
      (universeOf s.world loaded).shown := by
  refine Gives.andThen (hload.bind ((gives_get s).bind (gives_pure _ s)))
    ((gives_index_after hpaths hload).andThen
      ((gives_describing _ _).andThen ((gives_pure _ _).succeeds ?_)))
  dsimp only
  rw [hbroken]
  rfl

/-- The available types, by full and by short name. -/
theorem available_succeeds : Succeeds (available imp texts) .empty fun types _ => types =
    Keyed.putAll ((s.world.availableClasses (Catalog.modules s.world loaded)).flatMap
      (entriesOf (universeOf s.world loaded))) [] := by
  have hfirst : Gives (index imp texts) .empty (indexOfTargets s.world loaded)
      { s with indexes := [(texts, indexOfTargets s.world loaded)] } :=
    (gives_index_iff rfl).2 ⟨loaded, s, hload, rfl, rfl⟩
  unfold available
  refine hfirst.andThen ((gives_availableClasses_after hpaths hload).andThen
    ((gives_describing _ _).andThen ((gives_report _ _).andThen ((gives_pure _ _).succeeds ?_))))
  dsimp only
  rw [hbroken]
  rfl

end Shown

end Scans

end TypeExport

/-!
## A file that breaks
-/

namespace TypeExport

namespace Importer

variable {imp imp' : Importer} {texts : List String} {directory l : Location} {file : String}
  {content : Content} {loaded : List LoadedTarget} {s : Session}

/-- Nothing is imported in a new session. -/
theorem mirrors_empty :
    Session.empty.progress.world.Mirrors (.refl Nat) (.refl Nat) Session.empty.progress.world where
  nextClass _ := rfl
  nextModule _ := rfl
  class? _ _ _ := rfl
  module? _ _ _ := rfl
  lookup _ := rfl
  mappedOn _ _ _ := rfl

theorem consistent_empty (imp : Importer) (l : Location) : imp.Consistent l [] [] World.empty where
  named _ _ h := by cases h
  placed _ h := by cases h
  spared _ h := by cases h
  prior := List.prefix_refl _
  nodup := List.nodup_nil
  registered _ h := by cases h
  reaching _ h := by cases h

theorem agreesOff_self (imp : Importer) (l : Location) : imp.AgreesOff imp l where
  searchPath := rfl
  installed := rfl
  digest := rfl
  find? _ _ := rfl
  isDirectory := rfl
  entries := Nat.le_refl _

/-- The files that are loaded for some paths. -/
def IsScanned (imp : Importer) (texts : List String) (k : Location) : Prop :=
  ∃ text ∈ texts, ∃ target, imp.NamesPath text target ∧ imp.IsFileOf target k

/-- What may run in a scan of paths: the files that are loaded, and all that they import. -/
def RunsInScan (imp : Importer) (texts : List String) : Location → Prop :=
  imp.MayRun (imp.IsScanned texts)

theorem runsInScan_of_isFileOf {targets : List Target}
    (htargets : List.Forall₂ imp.NamesPath (Catalog.requested texts) targets) {target : Target}
    (hmem : target ∈ Catalog.distinctTargets targets) {k : Location}
    (hk : imp.IsFileOf target k) : imp.RunsInScan texts k := by
  obtain ⟨text, htext, hnames⟩ :=
    exists_left_of_mem htargets (Catalog.mem_of_mem_distinctTargets hmem)
  exact .start ⟨text, (List.mem_filter.1 (List.mem_eraseDups.1 htext)).1, target, hnames, hk⟩

/-- Importers with the same files in the directory of a target read it alike. -/
theorem NamesPath.readsAlike {text : String} {target : Target} (h : imp.NamesPath text target)
    (hfiles : ∀ place, target.origin = .place place → imp'.publicFiles place =
      imp.publicFiles place) : imp.ReadsAlike imp' target := by
  obtain ⟨place, hplace, hat⟩ := h.isAt
  unfold ReadsAlike
  rw [hplace]
  obtain ⟨-, hkind⟩ | ⟨-, -, hkind⟩ := hat
  · rw [hkind]
    trivial
  · rw [hkind]
    exact hfiles place hplace

/-- A file whose name begins with a low line does not run in a scan of paths, if it is not a target and
no module that may run imports it. -/
theorem hidden_file_does_not_run
    (hpaths : ∀ text ∈ texts, Text.allBlank text = true ∨ ∃ target, imp.NamesPath text target)
    (hload : Gives (Scans.load imp texts) .empty loaded s) {name : String}
    (hname : name.toList.head? = some '_')
    (hspares : imp.Spares (imp.RunsInScan texts) (directory ++ [name]))
    (htarget : ∀ text ∈ texts, ∀ target, imp.NamesPath text target →
      target.origin ≠ .place (directory ++ [name])) :
    ∀ m ∈ s.world.modules, m.source ≠ .file (directory ++ [name]) := by
  obtain ⟨targets, htargets⟩ := exists_targets hpaths
  obtain ⟨hrun, -⟩ := (Scans.gives_load_iff_of_targets (gives_findTargets htargets)).1 hload
  have hscanned : ¬imp.IsScanned texts (directory ++ [name]) := by
    rintro ⟨text, htext, target, hnames, hfile⟩
    have hother := htarget text htext target hnames
    unfold IsFileOf at hfile
    split at hfile
    · obtain ⟨other, hpublic, hsame⟩ := hfile
      have hlast := (List.append_inj' hsame rfl).2
      rw [List.cons.injEq] at hlast
      have hseen := isPublic_of_mem_publicFiles hpublic
      unfold isPublic at hseen
      rw [← hlast.1, hname] at hseen
      simp at hseen
    · rename_i hplace
      exact hother (hfile ▸ hplace)
    · exact hfile
  have htargetsRead : ∀ target ∈ Catalog.distinctTargets targets, imp.ReadsAlike imp target ∧
      ∀ k, imp.IsFileOf target k → imp.RunsInScan texts k := by
    intro target hmem
    obtain ⟨_, -, hnames⟩ :=
      exists_left_of_mem htargets (Catalog.mem_of_mem_distinctTargets hmem)
    exact ⟨hnames.readsAlike fun _ _ => rfl, fun k => runsInScan_of_isFileOf htargets hmem⟩
  have hfollows := follows_loadTargets (agreesOff_self imp (directory ++ [name]))
    (isClosed_mayRun imp _) (hspares.not_mayRun hscanned) htargetsRead mirrors_empty
    (consistent_empty imp _)
  obtain ⟨_, -, -, hpost⟩ := hfollows.gives hrun
  intro m hm
  exact (hpost _ rfl).1.spared m.outline (List.mem_map_of_mem hm)

/-- Loads what comes before a file of a directory: the targets before the directory, and the files
before the file. -/
def loadUpTo (imp : Importer) (texts : List String) (directory : Location) (file : String) :
    Loads Unit := do
  let found ← (Catalog.requested texts).mapM imp.findTarget
  let targets := Catalog.distinctTargets found
  let _ ← (targets.takeWhile fun t => t.origin != .place directory).mapM imp.loadTarget
  match targets.find? fun t => t.origin == .place directory with
  | none => return ()
  | some target =>
    let _ ← imp.loadFiles directory { target }
      ((imp.publicFiles directory).takeWhile (· != file))

/-- What comes before the file is loaded up to it. -/
theorem gives_loadUpTo {targets earlier later : List Target} {target : Target}
    {before after : List String} {first : List LoadedTarget} {t : LoadedTarget} {u q : Progress}
    (htargets : List.Forall₂ imp.NamesPath (Catalog.requested texts) targets)
    (hsplit : Catalog.distinctTargets targets = earlier ++ target :: later)
    (hplace : target.origin = .place directory)
    (hearlier : ∀ other ∈ earlier, other.origin ≠ .place directory)
    (hfiles : imp.publicFiles directory = before ++ file :: after) (hbefore : file ∉ before)
    (hfirst : Gives (earlier.mapM imp.loadTarget) Session.empty.progress first u)
    (ht : Gives (imp.loadFiles directory { target } before) u t q) :
    Gives (imp.loadUpTo texts directory file) Session.empty.progress ⟨⟩ q := by
  have hbeside : ∀ other ∈ earlier, (other.origin != .place directory) = true :=
    fun other hother => bne_iff_ne.2 (hearlier other hother)
  have htake : (earlier ++ target :: later).takeWhile (fun t => t.origin != .place directory) =
      earlier := by
    rw [List.takeWhile_append_of_pos hbeside, List.takeWhile_cons_of_neg (by simp [hplace]),
      List.append_nil]
  have hfind : (earlier ++ target :: later).find? (fun t => t.origin == .place directory) =
      some target := by
    have hnone : earlier.find? (fun t => t.origin == .place directory) = none :=
      List.find?_eq_none.2 fun other hother => by simpa using hearlier other hother
    rw [List.find?_append, hnone, List.find?_cons_of_pos (by simp [hplace]), Option.none_or]
  have hnames : (before ++ file :: after).takeWhile (· != file) = before := by
    have hne : ∀ name ∈ before, (name != file) = true :=
      fun name hname => bne_iff_ne.2 fun hsame => hbefore (hsame ▸ hname)
    rw [List.takeWhile_append_of_pos hne, List.takeWhile_cons_of_neg (by simp), List.append_nil]
  unfold loadUpTo
  refine (gives_findTargets htargets _).bind ?_
  dsimp only
  rw [hsplit, htake, hfind, hfiles, hnames]
  exact hfirst.bind (ht.bind (gives_pure _ q))

/-- A file joins a directory that is scanned.  All targets are paths, and no other module of the tree
imports the file. -/
structure AddsFile (imp : Importer) (texts : List String) (directory : Location) (file : String)
    (content : Content) : Prop where
  proper : (imp.withFile (directory ++ [file]) content).files.IsProper
  distinct : (imp.files.entries.map Prod.fst).Nodup
  paths : ∀ text ∈ texts, Text.allBlank text = true ∨ ∃ target, imp.NamesPath text target
  scanned : ∃ text ∈ texts, ∃ target, imp.NamesPath text target ∧ target.kind = .directory ∧
    target.origin = .place directory
  isPublic : isPublic file = true
  new : imp.files.find? (directory ++ [file]) = none
  spared : imp.Spares (imp.RunsInScan texts) (directory ++ [file])

/-- The file is broken: when its turn comes it fails, and leaves nothing that others can see. -/
structure AddsBroken (imp : Importer) (texts : List String) (directory : Location) (file : String)
    (content : Content) : Prop extends AddsFile imp texts directory file content where
  fails : ∀ t p, Gives ((imp.withFile (directory ++ [file]) content).loadUpTo texts directory file)
    Session.empty.progress t p →
      (imp.withFile (directory ++ [file]) content).FailsAlone (directory ++ [file]) p.world

namespace AddsBroken

variable (h : imp.AddsBroken texts directory file content)
include h

theorem isExtended : imp.files.IsExtendedBy (imp.withFile (directory ++ [file]) content).files :=
  FileTree.isExtendedBy_insert h.new

theorem agreesOff :
    imp.AgreesOff (imp.withFile (directory ++ [file]) content) (directory ++ [file]) :=
  agreesOff_withFile (by simp) h.new content

/-- No file stood at the place before. -/
theorem not_isAt_file : ¬imp.IsAt (directory ++ [file]) .file := by
  rintro (⟨hfile, -⟩ | ⟨-, -, hkind⟩)
  · unfold FileTree.pathIsFile at hfile
    split at hfile
    · rename_i m c hlookup
      have hthere := h.proper.lookup (l := directory ++ [file]) (e := .file content)
        (FileTree.find?_insert_self (by simp)) (FileTree.follow_of_lookup hlookup).1.fits
      have hsame := (lookup_extend h.isExtended hlookup).symm.trans hthere
      rw [Except.ok.injEq, Prod.mk.injEq] at hsame
      have hfound := (FileTree.lookup_eq_ok hlookup).2
      rw [hsame.1, h.new] at hfound
      cases hfound
    all_goals cases hfile
  · cases hkind

/-- The file is none of those that ran before. -/
theorem not_runsInScan : ¬imp.RunsInScan texts (directory ++ [file]) := by
  refine h.spared.not_mayRun ?_
  rintro ⟨text, -, target, hnames, hfile⟩
  unfold IsFileOf at hfile
  split at hfile
  · obtain ⟨name, hname, hsame⟩ := hfile
    rw [publicFiles_eq] at hname
    have hthere := FileTree.mem_of_mem_names
      (List.mem_filter.1 ((List.mergeSort_perm _ _).mem_iff.1 hname)).1
    rw [← hsame] at hthere
    exact FileTree.not_mem_of_find? h.new hthere
  · rename_i hkind hplace
    obtain ⟨place, hthere, hat⟩ := hnames.isAt
    rw [hplace, ← hfile] at hthere
    cases hthere
    exact h.not_isAt_file (hkind ▸ hat)
  · exact hfile

/-- The directory is one of the targets, and the others have other places. -/
theorem exists_split {targets : List Target}
    (htargets : List.Forall₂ imp.NamesPath (Catalog.requested texts) targets) :
    ∃ earlier target later, Catalog.distinctTargets targets = earlier ++ target :: later ∧
      target.kind = .directory ∧ target.origin = .place directory ∧
      ∀ other ∈ earlier ++ later, other.origin ≠ .place directory := by
  obtain ⟨text, htext, scanned, hscanned, hkind, horigin⟩ := h.scanned
  have hrequested : text ∈ Catalog.requested texts :=
    List.mem_eraseDups.2 (List.mem_filter.2 ⟨htext, by simp [hscanned.notBlank]⟩)
  obtain ⟨found, hmem, hfound⟩ := exists_right_of_mem htargets hrequested
  obtain rfl : found = scanned := Except.ok.inj (hfound.found.symm.trans hscanned.found)
  have hplaces : ModuleOrigin.place directory ∈
      (Catalog.distinctTargets targets).map (·.origin) := by
    rw [Catalog.origins_distinctTargets, ← horigin]
    exact List.mem_eraseDups.2 (List.mem_map_of_mem hmem)
  obtain ⟨target, htarget, hplace⟩ := List.mem_map.1 hplaces
  obtain ⟨earlier, later, hsplit, -⟩ := List.eq_append_cons_of_mem htarget
  refine ⟨earlier, target, later, hsplit, ?_, hplace, fun other hother hsame => ?_⟩
  · obtain ⟨_, -, hnames⟩ :=
      exists_left_of_mem htargets (Catalog.mem_of_mem_distinctTargets htarget)
    obtain ⟨place, hthere, hat⟩ := hnames.isAt
    obtain ⟨place', hthere', hat'⟩ := hscanned.isAt
    rw [hplace] at hthere
    rw [horigin] at hthere'
    cases hthere
    cases hthere'
    exact (hat.unique hat').trans hkind
  · have hnodup := Catalog.nodup_origins_distinctTargets targets
    rw [hsplit, List.map_append, List.map_cons, List.nodup_middle, List.nodup_cons,
      ← List.map_append] at hnodup
    refine hnodup.1 ?_
    rw [hplace, ← hsame]
    exact List.mem_map_of_mem hother

/-- All targets are loaded with the broken file as they are without it. -/
theorem exists_load (hload : Gives (Scans.load imp texts) .empty loaded s) :
    ∃ (ρ τ : Nat ↪ Nat) (loaded' : List LoadedTarget) (s' : Session),
      Gives (Scans.load (imp.withFile (directory ++ [file]) content) texts) .empty loaded' s' ∧
      s.broken = [] ∧ s'.broken = [] ∧ s.world.Mirrors ρ τ s'.world ∧
      imp.Consistent (directory ++ [file]) [] [] s.world ∧
      (∃ t ∈ loaded', t.target.origin = .place directory) ∧
      List.Forall₂ (fun t t' => t'.modules = t.modules.map (ModuleHandle.renumber τ) ∧
        GainsFailure imp (imp.withFile (directory ++ [file]) content) directory file s.world
          s'.world t t') loaded loaded' := by
  obtain ⟨targets, htargets⟩ := exists_targets h.paths
  have htargets' : List.Forall₂ (imp.withFile (directory ++ [file]) content).NamesPath
      (Catalog.requested texts) targets :=
    htargets.imp fun _ _ hnames => hnames.extend h.isExtended rfl
  obtain ⟨hrun, -, -, hbroken⟩ :=
    (Scans.gives_load_iff_of_targets (gives_findTargets htargets)).1 hload
  obtain ⟨earlier, target, later, hsplit, hkind, hplace, hothers⟩ := h.exists_split htargets
  obtain ⟨before, after, hfiles, hfiles'⟩ := publicFiles_withFile h.new h.isPublic content
  have halike : ∀ other ∈ earlier ++ later,
      imp.ReadsAlike (imp.withFile (directory ++ [file]) content) other ∧
        other.origin ≠ .place directory := by
    intro other hother
    have hmem : other ∈ Catalog.distinctTargets targets := by
      rw [hsplit]
      rcases List.mem_append.1 hother with hother | hother
      · exact List.mem_append_left _ hother
      · exact List.mem_append_right _ (List.mem_cons_of_mem _ hother)
    obtain ⟨_, -, hnames⟩ := exists_left_of_mem htargets (Catalog.mem_of_mem_distinctTargets hmem)
    refine ⟨hnames.readsAlike fun place hplace => ?_, hothers other hother⟩
    exact publicFiles_withFile_of_ne h.new content fun hsame =>
      hothers other hother (hsame ▸ hplace)
  have hruns : ∀ other ∈ earlier ++ target :: later, ∀ k, imp.IsFileOf other k →
      imp.RunsInScan texts k :=
    fun other hother k => runsInScan_of_isFileOf htargets (hsplit ▸ hother)
  have hbefore : file ∉ before := by
    intro hmem
    refine h.not_runsInScan (hruns target (List.mem_append_right _ List.mem_cons_self) _ ?_)
    unfold IsFileOf
    rw [hkind, hplace]
    exact ⟨file, hfiles ▸ List.mem_append_left _ hmem, rfl⟩
  rw [hsplit] at hrun
  obtain ⟨ρ, τ, loaded', q', hrun', hmirrors, hw, hall⟩ :=
    gives_loadTargets_of_failsAlone h.agreesOff (imp.isClosed_mayRun _) h.not_runsInScan hfiles
      hfiles' hkind hplace halike hruns mirrors_empty
      (imp.consistent_empty _) (fun _ _ _ _ hfirst ht => h.fails _ _ (gives_loadUpTo htargets' hsplit
        hplace (fun other hother => hothers other (List.mem_append_left _ hother)) hfiles'
        hbefore hfirst ht)) hrun
  let s' : Session :=
    { world := q'.world, catalog := Catalog.extend [] loaded', indexes := [], broken := [],
      log := q'.log }
  have htarget : target ∈ loaded'.map (·.target) := by
    rw [Catalog.map_target_of_forall₂ (forall₂_of_mapM hrun' fun _ _ _ _ => target_of_loadTarget)]
    exact List.mem_append_right _ List.mem_cons_self
  obtain ⟨t, ht, hsame⟩ := List.mem_map.1 htarget
  refine ⟨ρ, τ, loaded', s', ?_, hbroken, rfl, hmirrors, hw, ⟨t, ht, hsame ▸ hplace⟩, hall⟩
  refine (Scans.gives_load_iff_of_targets (gives_findTargets htargets')).2 ⟨?_, rfl, rfl, rfl⟩
  rw [hsplit]
  exact hrun'

end AddsBroken

theorem modules_of_forall₂ {τ : Nat ↪ Nat} {loaded' : List LoadedTarget}
    (h : List.Forall₂ (fun t t' : LoadedTarget =>
      t'.modules = t.modules.map (ModuleHandle.renumber τ)) loaded loaded') :
    loaded'.flatMap (·.modules) = (loaded.flatMap (·.modules)).map (ModuleHandle.renumber τ) := by
  induction h with
  | nil => rfl
  | cons hfirst _ ih => rw [List.flatMap_cons, List.flatMap_cons, List.map_append, hfirst, ih]

/-- What stays the same when a broken file joins a directory: every target is loaded as before, but
the file is one more failure of its directory, in its place among the names; the roots and the
available types are shown as before; and a file whose name begins with a low line does not run, if it
is not a target and no module imports it. -/
structure HarmsNothing (imp imp' : Importer) (texts : List String) (directory : Location)
    (file : String) (loaded : List LoadedTarget) (s : Session) (loaded' : List LoadedTarget)
    (s' : Session) : Prop where
  targets : List.Forall₂ (GainsFailure imp imp' directory file s.world s'.world) loaded loaded'
  recorded : ∃ t ∈ loaded', t.target.origin = .place directory
  inOrder : ∀ d, (imp'.publicFiles d).Pairwise (· < ·)
  notLoaded : ∀ t ∈ loaded', ∀ m ∈ t.modules,
    m.source? s'.world ≠ some (.file (directory ++ [file]))
  roots : Scans.GiveAlike (Scans.shownRoots imp texts) (Scans.shownRoots imp' texts)
  available : Scans.GiveAlike (Scans.available imp texts) (Scans.available imp' texts)
  shown : Scans.GiveAlike (Scans.shownAvailable imp texts) (Scans.shownAvailable imp' texts)
  hidden : ∀ d name, name.toList.head? = some '_' →
    imp'.Spares (imp'.RunsInScan texts) (d ++ [name]) →
      (∀ text ∈ texts, ∀ target, imp'.NamesPath text target →
        target.origin ≠ .place (d ++ [name])) →
      ∀ m ∈ s'.world.modules, m.source ≠ .file (d ++ [name])

/-- A file that joins a scanned directory and is broken harms nothing else. -/
theorem harmsNothing_of_addsBroken (h : imp.AddsBroken texts directory file content)
    (hload : Gives (Scans.load imp texts) .empty loaded s) :
    ∃ loaded' s',
      Gives (Scans.load (imp.withFile (directory ++ [file]) content) texts) .empty loaded' s' ∧
      HarmsNothing imp (imp.withFile (directory ++ [file]) content) texts directory file loaded s
        loaded' s' := by
  obtain ⟨ρ, τ, loaded', s', hload', hbroken, hbroken', hmirrors, hw, hrecorded, hall⟩ :=
    h.exists_load hload
  have hmodules := modules_of_forall₂ (hall.imp fun _ _ h => h.1)
  have hpaths' : ∀ text ∈ texts, Text.allBlank text = true ∨
      ∃ target, (imp.withFile (directory ++ [file]) content).NamesPath text target :=
    fun text htext => (h.paths text htext).imp_right fun ⟨target, hnames⟩ =>
      ⟨target, hnames.extend h.isExtended rfl⟩
  have hindex := hmirrors.indexOfTargets hmodules
  have hshown : ∀ c, (Scans.universeOf s'.world loaded').shown (c.renumber ρ) =
      (Scans.universeOf s.world loaded).shown c :=
    fun c => Universe.shown_renumber hmirrors.renumbers_self (congrArg _ hindex) rfl rfl c
  refine ⟨loaded', s', hload', hall.imp fun _ _ h => h.2, hrecorded,
    pairwise_publicFiles (Keyed.nodup_keys_put h.distinct), fun t' ht' m hm hsource => ?_, ?_, ?_, ?_,
    fun d name hname hspares htarget => ?_⟩
  · obtain ⟨t, -, -, hgains⟩ := exists_left_of_mem hall ht'
    have hmem : (m.name s'.world, m.source? s'.world) ∈
        t'.modules.map fun h => (h.name s'.world, h.source? s'.world) := List.mem_map_of_mem hm
    rw [hgains.modules, hsource] at hmem
    obtain ⟨m', -, hm'⟩ := List.mem_map.1 hmem
    have hfile : m'.source? s.world = some (.file (directory ++ [file])) := (Prod.mk.inj hm').2
    cases m' with
    | outside name => cases hfile
    | inside i =>
      obtain ⟨module, hmodule, hsame⟩ := Option.map_eq_some_iff.1 hfile
      exact hw.spared module.outline (List.mem_map_of_mem (List.mem_of_getElem? hmodule)) hsame
  · refine ⟨_, Scans.shownRoots_succeeds h.paths hload hbroken, ?_⟩
    obtain ⟨found, t, hfound, hsame⟩ := Scans.shownRoots_succeeds hpaths' hload' hbroken'
    refine ⟨found, t, hfound, hsame.trans ?_⟩
    rw [hmirrors.rootsOf hmodules, List.map_map]
    exact List.map_congr_left fun c _ => hshown c
  · refine ⟨_, Scans.available_succeeds h.paths hload hbroken, ?_⟩
    obtain ⟨found, t, hfound, hsame⟩ := Scans.available_succeeds hpaths' hload' hbroken'
    have hentries : ∀ c, Scans.entriesOf (Scans.universeOf s'.world loaded') (c.renumber ρ) =
        Scans.entriesOf (Scans.universeOf s.world loaded) c := by
      intro c
      have hdescribe : (Scans.universeOf s'.world loaded').describe (some (c.renumber ρ)) =
          (Scans.universeOf s.world loaded).describe (some c) := congrArg Prod.fst (hshown c)
      unfold Scans.entriesOf
      rw [hdescribe]
    refine ⟨found, t, hfound, ?_⟩
    rw [hsame, hmirrors.availableClasses_modules hmodules, List.flatMap_map, funext hentries]
  · refine ⟨_, Scans.shownAvailable_succeeds h.paths hload hbroken, ?_⟩
    obtain ⟨found, t, hfound, hsame⟩ := Scans.shownAvailable_succeeds hpaths' hload' hbroken'
    refine ⟨found, t, hfound, hsame.trans ?_⟩
    rw [hmirrors.availableClasses_modules hmodules, List.map_map]
    exact List.map_congr_left fun c _ => hshown c
  · exact hidden_file_does_not_run hpaths' hload' hname hspares htarget

/-- A crate of the library, and one in the scanned directory, whose base stands in a hidden file. -/
def depot : Importer :=
  .ofEntries [[], ["lib"]]
    [(["lib"], .directory), (["models"], .directory),
      (["lib", "crate.py"], .file (.ofStatements [.plainClass "Plank" false [] []])),
      (["models", "_base.py"], .file (.ofStatements [.plainClass "Base" false [] []])),
      (["models", "crate.py"], .file (.ofStatements [.importNames "models._base" ("Base", "Base") [],
        .plainClass "Crate" true [.name "Base"] [("size", .name "int")]]))]

/-- A file that fails behind a class of its own. -/
def brokenLid : Content :=
  .ofStatements [.plainClass "Lid" true [] [], .raise "ValueError" "broken"]

/-- A file that fails behind an import. -/
def brokenPlank : Content :=
  .ofStatements [.importNames "crate" ("Plank", "Plank") [], .raise "ValueError" "broken"]

/-- The depot with one more file, which comes first. -/
abbrev brokenDepot (content : Content) : Importer :=
  depot.withFile (["models"] ++ ["a_broken.py"]) content

def modelsTarget : Target :=
  { text := "models", kind := .directory, origin := .place ["models"] }

theorem namesPath_of_depot : depot.NamesPath "models" modelsTarget :=
  ⟨by decide, by decide, rfl⟩

theorem imports_of_depot {k : Location} {m : SourceModule}
    (hcontent : depot.files.fileAt? k = some content) (hm : content.sourceModule = .ok m) :
    ∀ source ∈ m.imports, source ∈ ["models._base", "models._base.Base"] := by
  have hmem := FileTree.mem_of_fileAt? hcontent
  simp only [depot, ofEntries, List.map_cons, List.map_nil, List.mem_cons, List.not_mem_nil,
    or_false] at hmem
  obtain rfl | rfl | rfl | rfl | rfl := hmem
  all_goals cases hcontent
  all_goals
    cases hm
    decide

/-- Either broken file is one file more in the depot. -/
theorem addsFile_of_depot (h : content = brokenLid ∨ content = brokenPlank) :
    depot.AddsFile ["models"] ["models"] "a_broken.py" content where
  proper := by
    obtain rfl | rfl := h
    all_goals exact FileTree.isProper_of_entries (by decide)
  distinct := by decide
  paths := by
    intro text htext
    obtain rfl := List.mem_singleton.1 htext
    exact .inr ⟨_, namesPath_of_depot⟩
  scanned := ⟨_, List.mem_singleton_self _, _, namesPath_of_depot, rfl, rfl⟩
  isPublic := by decide
  new := by decide
  spared := by
    rintro k content m - hcontent hm source hsource name hname ⟨start, hstart, above, word, hleads, hl⟩
    have hother : "models.a_broken" ∉ namesAbove source := by
      have hsources := imports_of_depot hcontent hm source hsource
      simp only [List.mem_cons, List.not_mem_nil, or_false] at hsources
      obtain rfl | rfl := hsources
      all_goals decide
    have hleads' : Leads "models.a_broken" (["models"] ++ ["a_broken"]) :=
      .inside (by decide) (.top (by decide))
    simp only [depot, ofEntries, List.mem_cons, List.not_mem_nil, or_false] at hstart
    rcases hl with hl | hl
    · exact absurd (List.append_inj' hl rfl).2 (by decide)
    · obtain ⟨habove, hfile⟩ := List.append_inj' hl rfl
      have hword : word = "a_broken" := by
        have hchars := congrArg String.toList (List.singleton_inj.1 hfile).symm
        rw [String.toList_append] at hchars
        exact String.toList_injective (List.append_cancel_right (hchars.trans rfl))
      obtain rfl | rfl := hstart
      · obtain rfl : ["models"] = above := habove
        rw [hword] at hleads
        exact hother (hleads'.unique hleads ▸ hname)
      · exact absurd (List.cons.inj habove).1 (by decide)

theorem publicFiles_of_depot (h : content = brokenLid ∨ content = brokenPlank) :
    depot.publicFiles ["models"] = ["crate.py"] ∧
      (brokenDepot content).publicFiles ["models"] = ["a_broken.py", "crate.py"] := by
  constructor
  · exact sortNames_eq (by decide) (by simp)
  · obtain rfl | rfl := h
    all_goals exact sortNames_eq (by decide) (by decide)

/-- The file comes first. -/
theorem loadUpTo_of_depot (h : content = brokenLid ∨ content = brokenPlank) {t : Unit} {p : Progress}
    (ht : Gives ((brokenDepot content).loadUpTo ["models"] ["models"] "a_broken.py")
      Session.empty.progress t p) : p = Session.empty.progress := by
  have hextended := FileTree.isExtendedBy_insert (e := .file content) (addsFile_of_depot h).new
  have hsplit : Catalog.distinctTargets [modelsTarget] = [] ++ modelsTarget :: [] := rfl
  have hfiles : (brokenDepot content).publicFiles ["models"] = [] ++ "a_broken.py" :: ["crate.py"] :=
    (publicFiles_of_depot h).2
  exact (ht.unique (gives_loadUpTo (.cons (namesPath_of_depot.extend hextended rfl) .nil) hsplit rfl
    (by simp) hfiles (by simp) (gives_pure [] _) (gives_pure _ _))).2

/-- A file that runs first keeps the modules that are there if it maps no class. -/
theorem keepsModules_empty {v : World} (h : v.classes.all (·.mapping.isNone) = true) :
    World.empty.KeepsModules v where
  modules := List.nil_prefix
  mapped i m _ hm := by
    obtain ⟨info, hinfo, hmapping⟩ := Option.bind_eq_some_iff.1 hm
    have hnone := List.all_eq_true.1 h info (List.mem_of_getElem? hinfo)
    rw [hmapping] at hnone
    cases hnone

/-- Whether an action ends with an ordinary failure. -/
def endsOrdinarily {α : Type} : Except Failure α → Bool
  | .error f => f.isOrdinary
  | .ok _ => false

theorem endsOrdinarily_iff {α : Type} {result : Except Failure α} :
    endsOrdinarily result = true ↔ ∃ f : Failure, result = .error f ∧ f.isOrdinary = true := by
  cases result <;> simp [endsOrdinarily]

/-- The full names of the marked classes, as they are shown. -/
def rootNames (w : World) (loaded : List LoadedTarget) : List String :=
  ((w.rootsOf [] loaded).flatMap (·.2)).map fun c =>
    ((Scans.universeOf w loaded).shown c).1.fullName

/-- How the broken files end, and which roots the directory has without them and behind the plank. -/
theorem runs_of_depot :
    Ends ((brokenDepot brokenLid).loadFile (["models"] ++ ["a_broken.py"])) .empty (fun result v =>
      endsOrdinarily result = true ∧ v.classes.all (·.mapping.isNone) = true ∧ v.registry = []) ∧
    Ends ((brokenDepot brokenPlank).loadFile (["models"] ++ ["a_broken.py"])) .empty (fun result v =>
      endsOrdinarily result = true ∧ v.classes.all (·.mapping.isNone) = true) ∧
    Succeeds (depot.loadFiles ["models"] { target := modelsTarget } ["crate.py"])
      Session.empty.progress (fun t p => rootNames p.world [t] = ["crate.Crate"] ∧
        p.world.modules.any (·.source = .file ["models", "_base.py"]) = true) ∧
    Succeeds ((brokenDepot brokenPlank).loadFiles ["models"] { target := modelsTarget }
      ["a_broken.py", "crate.py"]) Session.empty.progress fun t p =>
        rootNames p.world [t] = ["crate_/models/crate.py.Crate"] := by
  unfold Ends
  decide +kernel

/-- A file that fails and leaves nothing but classes of its own. -/
theorem addsBroken_of_depot : depot.AddsBroken ["models"] ["models"] "a_broken.py" brokenLid where
  toAddsFile := addsFile_of_depot (.inl rfl)
  fails t p hp := by
    obtain rfl := loadUpTo_of_depot (.inl rfl) hp
    refine runs_of_depot.1.imp fun result v ⟨hresult, hclasses, hregistry⟩ =>
      ⟨endsOrdinarily_iff.1 hresult, keepsModules_empty hclasses, fun name => ?_⟩
    rw [hregistry]
    rfl

/-- The roots of the directory of models are those of the files that load. -/
theorem shownRoots_of_models (hnames : imp.NamesPath "models" modelsTarget)
    (hfiles : imp.publicFiles ["models"] ≠ []) {t : LoadedTarget} {q : Progress}
    (h : Gives (imp.loadFiles ["models"] { target := modelsTarget } (imp.publicFiles ["models"]))
      Session.empty.progress t q) :
    Succeeds (Scans.shownRoots imp ["models"]) .empty fun shown _ =>
      shown.map (·.1.fullName) = rootNames q.world [t] := by
  obtain ⟨s, hload, rfl, hbroken⟩ := Scans.gives_load_of_directory hnames rfl rfl hfiles h
  have hpaths : ∀ text ∈ ["models"],
      Text.allBlank text = true ∨ ∃ target, imp.NamesPath text target := by
    intro text htext
    obtain rfl := List.mem_singleton.1 htext
    exact .inr ⟨_, hnames⟩
  obtain ⟨shown, u, hshown, hroots⟩ := Scans.shownRoots_succeeds hpaths hload hbroken
  refine ⟨shown, u, hshown, ?_⟩
  show shown.map _ = _
  rw [hroots, List.map_map]
  rfl

/-- The broken file harms nothing. -/
theorem depot_keeps_crate :
    depot.AddsBroken ["models"] ["models"] "a_broken.py" brokenLid ∧
    ∃ loaded s loaded' s', Gives (Scans.load depot ["models"]) .empty loaded s ∧
      Gives (Scans.load (brokenDepot brokenLid) ["models"]) .empty loaded' s' ∧
      HarmsNothing depot (brokenDepot brokenLid) ["models"] ["models"] "a_broken.py" loaded s
        loaded' s' := by
  obtain ⟨-, -, ⟨t, q, ht, -⟩, -⟩ := runs_of_depot
  have hfiles := (publicFiles_of_depot (.inl rfl)).1
  obtain ⟨s, hload, -⟩ := Scans.gives_load_of_directory namesPath_of_depot rfl rfl
    (by simp [hfiles]) (hfiles ▸ ht)
  obtain ⟨loaded', s', hload', hharms⟩ := harmsNothing_of_addsBroken addsBroken_of_depot hload
  exact ⟨addsBroken_of_depot, [t], s, loaded', s', hload, hload', hharms⟩

/-- Two directories with a file of one stem each, the first of which is broken. -/
def sheds : Importer :=
  .ofEntries [[]]
    [(["a"], .directory), (["b"], .directory),
      (["a", "tool.py"], .file (.ofStatements [.raise "ValueError" "broken"])),
      (["b", "tool.py"], .file (.ofStatements [.plainClass "Saw" true [] []]))]

/-- The names of the modules of the two files when they are loaded in turns. -/
def shedNames (turns : List Nat) : List String :=
  let ended := sheds.loadInTurns turns
    [(["a", "tool.py"], .waiting), (["b", "tool.py"], .waiting)] .empty
  ended.1.filterMap (·.2.name? ended.2)

/-- A file that fails behind an import keeps what is there, and yet another module gets another name,
and its root as well.  The hidden file runs, as it is imported.  And while a broken file runs, another
file that is called alike gets another name. -/
theorem plank_renames_crate :
    depot.AddsFile ["models"] ["models"] "a_broken.py" brokenPlank ∧
    (∀ t p, Gives ((brokenDepot brokenPlank).loadUpTo ["models"] ["models"] "a_broken.py")
        Session.empty.progress t p →
      Ends ((brokenDepot brokenPlank).loadFile (["models"] ++ ["a_broken.py"])) p.world
        fun result v => (∃ f : Failure, result = .error f ∧ f.isOrdinary = true) ∧
          p.world.KeepsModules v) ∧
    Succeeds (Scans.shownRoots depot ["models"]) .empty (fun shown _ =>
      shown.map (·.1.fullName) = ["crate.Crate"]) ∧
    Succeeds (Scans.shownRoots (brokenDepot brokenPlank) ["models"]) .empty (fun shown _ =>
      shown.map (·.1.fullName) = ["crate_/models/crate.py.Crate"]) ∧
    Succeeds (Scans.load depot ["models"]) .empty (fun _ s =>
      ∃ m ∈ s.world.modules, m.source = .file ["models", "_base.py"]) ∧
    shedNames (wholeTurns 0 2) = ["tool"] ∧
    shedNames [0, 0, 1, 0, 1, 1] = ["tool_/b/tool.py"] := by
  obtain ⟨hfiles, hfiles'⟩ := publicFiles_of_depot (.inr rfl)
  have hnames' : (brokenDepot brokenPlank).NamesPath "models" modelsTarget :=
    namesPath_of_depot.extend
      (FileTree.isExtendedBy_insert (addsFile_of_depot (.inr rfl)).new) rfl
  obtain ⟨-, hfails, ⟨t, q, ht, hroot, hhidden⟩, t', q', ht', hroot'⟩ := runs_of_depot
  refine ⟨addsFile_of_depot (.inr rfl), fun _ p hp => ?_, ?_, ?_, ?_, by decide +kernel,
    by decide +kernel⟩
  · obtain rfl := loadUpTo_of_depot (.inr rfl) hp
    exact hfails.imp fun result v ⟨hresult, hclasses⟩ =>
      ⟨endsOrdinarily_iff.1 hresult, keepsModules_empty hclasses⟩
  · rw [← hroot]
    exact shownRoots_of_models namesPath_of_depot (by simp [hfiles]) (hfiles ▸ ht)
  · rw [← hroot']
    exact shownRoots_of_models hnames' (by simp [hfiles']) (hfiles' ▸ ht')
  · obtain ⟨s, hload, rfl, hbroken⟩ := Scans.gives_load_of_directory namesPath_of_depot rfl rfl
      (by simp [hfiles]) (hfiles ▸ ht)
    refine hload.succeeds ?_
    obtain ⟨m, hm, hsource⟩ := List.any_eq_true.1 hhidden
    exact ⟨m, hm, of_decide_eq_true hsource⟩

end Importer

end TypeExport

import Mathlib.Data.List.TakeWhile
import TypeExport.Proofs.Action
import TypeExport.Proofs.File.Proper
import TypeExport.Scan.Session

/-!
# Sessions with one target

A path to a directory is found as a target in every world if its absolute path is not too long.  A
session that loads one target loads it once: after the first request the catalog and the index have it,
and later requests change nothing but the log.
-/

namespace TypeExport

theorem Text.allBlank_of_trim {s : String} (h : Text.trim s = s) (hne : s ≠ "") :
    Text.allBlank s = false := by
  rw [Bool.eq_false_iff]
  intro hall
  refine hne ?_
  have hdrop : s.toList.dropWhile Text.blankChar = [] :=
    List.dropWhile_eq_nil_iff.2 (List.all_eq_true.1 hall)
  rw [← h]
  unfold Text.trim Text.trimChars Text.trimLeft
  rw [hdrop]
  rfl

/-- A relative path whose first part stands for a home directory. -/
def Path.LeadsHome (p : Path) : Prop :=
  p.slashes = 0 ∧ ∃ part ∈ p.parts.head?, part.toList.head? = some '~'

theorem Environment.expandHome_of_not_leadsHome (env : Environment) {p : Path}
    (h : ¬p.LeadsHome) : env.expandHome p = some p := by
  unfold expandHome
  split
  · rename_i part rest hslashes hparts
    split
    · rename_i hhome
      exact absurd ⟨hslashes, part, by rw [hparts]; rfl, hhome⟩ h
    · rfl
  · rfl

namespace Importer

variable {imp : Importer} {text : String} {l : Location}

/-- A text at which a directory stands is a path. -/
theorem looksLikePath_of_lookup
    (h : imp.files.lookup imp.environment.workingDirectory (.ofString text) =
      .ok (l, some .directory)) : imp.looksLikePath text = .ok true := by
  have hdirectory : imp.files.pathIsDirectory imp.environment.workingDirectory (.ofString text) =
      .ok true := by
    unfold FileTree.pathIsDirectory
    rw [h]
  unfold looksLikePath
  dsimp only
  split
  · rfl
  · exact hdirectory

/-- The path of a directory names it as a target, unless its absolute path is too long. -/
theorem findPath_of_lookup (hproper : imp.files.IsProper) (hhome : ¬(Path.ofString text).LeadsHome)
    (hfits : (Path.ofLocation l).fits = true)
    (h : imp.files.lookup imp.environment.workingDirectory (.ofString text) =
      .ok (l, some .directory)) :
    imp.findPath text = .ok { text, kind := .directory, origin := .place l } := by
  obtain ⟨hlocate, hfound⟩ := FileTree.lookup_eq_ok h
  have habsolute := hproper.lookup hfound.symm hfits
  have hnull := (FileTree.follow_of_lookup h).1.noNull
  unfold findPath
  rw [imp.environment.expandHome_of_not_leadsHome hhome]
  dsimp only
  rw [if_neg (by simp [hnull]), ← hlocate]
  unfold FileTree.pathIsFile FileTree.pathIsDirectory
  rw [habsolute]
  rfl

/-- A path is only found as a target if its absolute path is not too long. -/
theorem fits_of_findPath {t : Target} (hhome : ¬(Path.ofString text).LeadsHome)
    (h : imp.findPath text = .ok t) :
    (Path.ofLocation ((Path.ofString text).locate imp.environment.workingDirectory)).fits = true := by
  by_contra hlong
  have hnot : ¬FileTree.IsUsable
      (Path.ofLocation ((Path.ofString text).locate imp.environment.workingDirectory)) :=
    fun husable => hlong husable.fits
  obtain ⟨e, he⟩ := FileTree.lookup_of_not_isUsable (κ := Content) hnot
  unfold findPath FileTree.pathIsFile FileTree.pathIsDirectory at h
  rw [imp.environment.expandHome_of_not_leadsHome hhome] at h
  dsimp only at h
  rw [he] at h
  split at h
  · cases h
  · cases e <;> cases h

/-- In every world the text names the target. -/
structure Finds (imp : Importer) (text : String) (t : Target) : Prop where
  notBlank : Text.allBlank text = false
  gives : ∀ p, Gives (imp.findTarget text) p t p

/-- The text of a directory names the directory. -/
theorem finds_directory (htrim : Text.trim text = text) (hne : text ≠ "")
    (hproper : imp.files.IsProper) (hhome : ¬(Path.ofString text).LeadsHome)
    (hfits : (Path.ofLocation l).fits = true)
    (h : imp.files.lookup imp.environment.workingDirectory (.ofString text) =
      .ok (l, some .directory)) :
    imp.Finds text { text, kind := .directory, origin := .place l } where
  notBlank := Text.allBlank_of_trim htrim hne
  gives p := by
    unfold findTarget
    dsimp only
    rw [htrim, looksLikePath_of_lookup h]
    refine Gives.bind (gives_pure true p) ?_
    rw [if_pos rfl, findPath_of_lookup hproper hhome hfits h]
    exact gives_mk rfl

/-- The text of a directory is only found as a target if its absolute path is not too long. -/
theorem fits_of_findTarget {t : Target} {p q : Progress} (h : Gives (imp.findTarget text) p t q)
    (htrim : Text.trim text = text) (hhome : ¬(Path.ofString text).LeadsHome)
    (hlookup : imp.files.lookup imp.environment.workingDirectory (.ofString text) =
      .ok (l, some .directory)) : (Path.ofLocation l).fits = true := by
  unfold findTarget at h
  dsimp only at h
  rw [htrim, looksLikePath_of_lookup hlookup] at h
  obtain ⟨_, _, htrue, hrest⟩ := h.of_bind
  obtain ⟨rfl, rfl⟩ := htrue.unique (gives_pure true p)
  rw [if_pos rfl] at hrest
  rw [(FileTree.lookup_eq_ok hlookup).1]
  exact fits_of_findPath hhome (congrArg Prod.fst hrest)

end Importer

namespace Catalog

variable {imp : Importer} {text : String} {t : LoadedTarget} {p q : Progress}

theorem requested_one (h : Text.allBlank text = false) : requested [text] = [text] := by
  unfold requested
  rw [List.filter_cons_of_pos (by simp [h])]
  rfl

/-- The first request loads the target. -/
theorem gives_load_first (hfinds : imp.Finds text t.target)
    (hload : Gives (imp.loadTarget t.target) p t q) :
    Gives (load imp [] [text]) p ([(t.target.origin, t)], [t]) q := by
  have hselect : select [(t.target.origin, t)] [t.target] = [t] := by
    simp [select, distinctTargets]
  unfold load
  rw [requested_one hfinds.notBlank]
  refine Gives.bind (gives_mapM_one (hfinds.gives p)) ?_
  refine Gives.bind (gives_mapM_one hload) ?_
  show Gives (pure ([(t.target.origin, t)], select [(t.target.origin, t)] [t.target])) _ _ _
  rw [hselect]
  exact gives_pure _ q

/-- A request of one target that succeeds has found it. -/
theorem exists_findTarget {catalog : Catalog} {r : Catalog × List LoadedTarget}
    (hblank : Text.allBlank text = false) (h : Gives (load imp catalog [text]) p r q) :
    ∃ t q', Gives (imp.findTarget text) p t q' := by
  unfold load at h
  obtain ⟨targets, q', hfound, -⟩ := h.of_bind
  rw [requested_one hblank, List.mapM_cons] at hfound
  obtain ⟨t, q'', ht, -⟩ := hfound.of_bind
  exact ⟨t, q'', ht⟩

/-- Later requests find it loaded. -/
theorem gives_load_again (hfinds : imp.Finds text t.target) (p : Progress) :
    Gives (load imp [(t.target.origin, t)] [text]) p ([(t.target.origin, t)], [t]) p := by
  have hmissing : missing [(t.target.origin, t)] [t.target] = [] := by
    simp [missing, distinctTargets]
  have hselect : select [(t.target.origin, t)] [t.target] = [t] := by
    simp [select, distinctTargets]
  unfold load
  rw [requested_one hfinds.notBlank]
  refine Gives.bind (gives_mapM_one (hfinds.gives p)) ?_
  rw [hmissing, List.mapM_nil]
  refine Gives.bind (gives_pure [] p) ?_
  show Gives (pure (_, select ([(t.target.origin, t)] ++ []) [t.target])) _ _ _
  rw [List.append_nil, hselect]
  exact gives_pure _ p

end Catalog

/-- A session that has loaded one target and made the index of its classes. -/
structure Session.HasLoaded (s : Session) (text : String) (t : LoadedTarget) (w : World) : Prop where
  world : s.world = w
  catalog : s.catalog = [(t.target.origin, t)]
  index : ∃ i, s.indexes.lookup [text] = some i

/-- What is reported changes nothing else. -/
theorem Session.HasLoaded.withLog {s : Session} {text : String} {t : LoadedTarget} {w : World}
    (h : s.HasLoaded text t w) (log : List LogLine) : { s with log }.HasLoaded text t w where
  world := h.world
  catalog := h.catalog
  index := h.index

namespace Scans

variable {α : Type} {imp : Importer} {text : String} {t : LoadedTarget} {w : World} {s : Session}

theorem gives_ofLoads {x : Loads α} {a : α} {q : Progress}
    (h : Gives x { world := s.world, log := s.log } a q) :
    Gives (ofLoads x) s a { s with world := q.world, log := q.log } := by
  refine gives_mk ?_
  unfold Gives at h
  rw [h]

theorem gives_report (line : LogLine) (s : Session) :
    Gives (report line) s ⟨⟩ { s with log := s.log ++ [line] } :=
  gives_modify _ s

theorem gives_load_first (hfinds : imp.Finds text t.target) {q : Progress}
    (hload : Gives (imp.loadTarget t.target) { world := s.world, log := s.log } t q)
    (hcatalog : s.catalog = []) :
    Gives (load imp [text]) s [t]
      { s with world := q.world, log := q.log, catalog := [(t.target.origin, t)] } := by
  unfold load
  refine (gives_get s).bind ?_
  rw [hcatalog]
  refine (gives_ofLoads (Catalog.gives_load_first hfinds hload)).bind ?_
  exact (gives_modify _ _).bind (gives_pure _ _)

theorem gives_load_again (hfinds : imp.Finds text t.target) (h : s.HasLoaded text t w) :
    Gives (load imp [text]) s [t] s := by
  have hsame : { s with catalog := [(t.target.origin, t)] } = s := by
    rw [← h.catalog]
  have hkept : Gives (modify fun s => { s with catalog := [(t.target.origin, t)] } : Scans PUnit)
      s ⟨⟩ s := by
    conv_rhs => rw [← hsame]
    exact gives_modify _ s
  unfold load
  refine (gives_get s).bind ?_
  rw [h.catalog]
  refine (gives_ofLoads (Catalog.gives_load_again hfinds _)).bind ?_
  exact hkept.bind (gives_pure _ s)

/-- Roots of one target that are found have its text as one of a target. -/
theorem exists_findTarget_of_roots {classes : List ClassRef} {s' : Session}
    (hblank : Text.allBlank text = false) (h : Gives (roots imp [text]) s classes s') :
    ∃ t p q, Gives (imp.findTarget text) p t q := by
  unfold roots at h
  obtain ⟨_, u, -, h⟩ := h.of_bind
  obtain ⟨targets, u', h, -⟩ := h.of_bind
  unfold load at h
  obtain ⟨_, _, -, h⟩ := h.of_bind
  obtain ⟨loaded, _, h, -⟩ := h.of_bind
  unfold Gives ofLoads at h
  have hresult := congrArg Prod.fst h
  obtain ⟨t, q, ht⟩ := Catalog.exists_findTarget hblank (p := _) (q := _) (r := loaded)
    (Prod.ext hresult rfl)
  exact ⟨t, _, q, ht⟩

/-- The first index of a session loads the target. -/
theorem index_first (hfinds : imp.Finds text t.target) {q : Progress}
    (hload : Gives (imp.loadTarget t.target) { world := s.world, log := s.log } t q)
    (hcatalog : s.catalog = []) (hindexes : s.indexes = []) :
    Succeeds (index imp [text]) s fun _ s' => s'.HasLoaded text t q.world := by
  unfold index
  refine (gives_get s).andThen ?_
  rw [hindexes]
  unfold availableClasses
  refine Gives.andThen ((gives_load_first hfinds hload hcatalog).bind
    ((gives_get _).bind (gives_pure _ _))) ?_
  refine (gives_get _).andThen ((gives_modify _ _).andThen ((gives_pure _ _).succeeds ?_))
  refine ⟨rfl, rfl, Option.isSome_iff_exists.1 ?_⟩
  simp [hindexes]

theorem gives_index_again (h : s.HasLoaded text t w) : ∃ i, Gives (index imp [text]) s i s := by
  obtain ⟨i, hi⟩ := h.index
  refine ⟨i, ?_⟩
  unfold index
  refine (gives_get s).bind ?_
  rw [hi]
  exact gives_pure i s

theorem gives_describing (i : ClassIndex) (s : Session) :
    Gives (describing i) s { world := s.world, index := i, broken := s.broken } s :=
  (gives_get s).bind (gives_pure _ s)

/-- The roots of a session that has not loaded anything are those of its target. -/
theorem roots_first (hfinds : imp.Finds text t.target) {q : Progress}
    (hload : Gives (imp.loadTarget t.target) { world := s.world, log := s.log } t q)
    (hcatalog : s.catalog = []) (hindexes : s.indexes = []) :
    Succeeds (roots imp [text]) s fun classes s' =>
      classes = (q.world.rootsOf [] [t]).flatMap (·.2) ∧ s'.HasLoaded text t q.world := by
  unfold roots
  refine (index_first hfinds hload hcatalog hindexes).bind fun i s' hloaded => ?_
  refine (gives_load_again hfinds hloaded).andThen ((gives_describing i s').andThen ?_)
  dsimp only
  rw [hloaded.world]
  refine Gives.andThen (gives_forIn_one ((gives_report _ _).bind (gives_pure _ _))) ?_
  refine (gives_report _ _).andThen ((gives_pure _ _).succeeds ⟨rfl, ?_⟩)
  exact hloaded.withLog _

/-- The available types of a session that has loaded its target. -/
theorem available_again (hfinds : imp.Finds text t.target) (h : s.HasLoaded text t w) :
    Succeeds (available imp [text]) s fun _ s' => s'.HasLoaded text t w := by
  obtain ⟨i, hindex⟩ : ∃ i, Gives (index imp [text]) s i s := gives_index_again h
  unfold available availableClasses
  refine hindex.andThen ?_
  refine Gives.andThen ((gives_load_again hfinds h).bind ((gives_get s).bind (gives_pure _ s))) ?_
  refine (gives_describing i s).andThen ?_
  exact (gives_report _ s).andThen ((gives_pure _ _).succeeds (h.withLog _))

end Scans

end TypeExport

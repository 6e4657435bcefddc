import TypeExport.Proofs.Run.BlankDirectory
import TypeExport.Proofs.Run.DiscoveredRoots

/-!
# What an output path means

The review and the scan put a home directory in place of a leading part such as `~`, and the scan
leaves out the blanks around a path.  Files are written where the path leads as it is.  So the three
mean one directory if the path has none of both.
-/

namespace TypeExport

namespace Environment

variable {env : Environment} {text home part : String} {rest : List String} {l m : Location}

/-- The directory of a path whose home directory is written out. -/
def directory? (env : Environment) (text : String) : Option Location :=
  (env.expandHome (.ofString text)).map (·.locate env.workingDirectory)

/-- The path to a directory with its home directory written out, compared with the path as it is. -/
structure Means (env : Environment) (text : String) (l : Location) : Prop where
  directory : env.directory? text = some l
  literal : ¬(Path.ofString text).LeadsHome → l = (Path.ofString text).locate env.workingDirectory
  home : ∀ part rest home, (Path.ofString text).slashes = 0 →
    (Path.ofString text).parts = part :: rest → part.toList.head? = some '~' →
    env.home? part = some home → ".." ∉ rest →
    (l = (Path.ofString text).locate env.workingDirectory ↔
      (Path.ofString home).locate env.workingDirectory = env.workingDirectory ++ [part])

theorem foldl_step_of_down (h : ".." ∉ rest) (l : Location) : rest.foldl Path.step l = l ++ rest := by
  induction rest generalizing l with
  | nil => rw [List.foldl_nil, List.append_nil]
  | cons name rest ih =>
    rw [List.mem_cons, not_or] at h
    rw [List.foldl_cons, ih h.2, Path.step, if_neg (Ne.symm h.1), List.append_assoc]
    rfl

theorem directory?_of_not_leadsHome (h : ¬(Path.ofString text).LeadsHome) :
    env.directory? text = some ((Path.ofString text).locate env.workingDirectory) := by
  unfold directory?
  rw [env.expandHome_of_not_leadsHome h]
  rfl

theorem directory?_of_home (hslashes : (Path.ofString text).slashes = 0)
    (hparts : (Path.ofString text).parts = part :: rest) (htilde : part.toList.head? = some '~')
    (hhome : env.home? part = some home) :
    env.directory? text =
      some (rest.foldl Path.step ((Path.ofString home).locate env.workingDirectory)) := by
  unfold directory? expandHome
  rw [hslashes, hparts]
  simp only [htilde, if_true, hhome, Option.map_some]
  unfold Path.locate
  rw [List.foldl_append]
  rfl

theorem locate_of_home (hslashes : (Path.ofString text).slashes = 0)
    (hparts : (Path.ofString text).parts = part :: rest) (htilde : part.toList.head? = some '~') :
    (Path.ofString text).locate l = rest.foldl Path.step (l ++ [part]) := by
  have hdown : part ≠ ".." := by
    rintro rfl
    revert htilde
    decide
  unfold Path.locate Path.isAbsolute
  rw [hparts, hslashes, List.foldl_cons, Path.step, if_neg hdown]
  rfl

theorem means_of_directory? (h : env.directory? text = some l) : env.Means text l where
  directory := h
  literal hliteral := by
    rw [directory?_of_not_leadsHome hliteral] at h
    exact (Option.some.inj h).symm
  home part rest home hslashes hparts htilde hhome hdown := by
    rw [directory?_of_home hslashes hparts htilde hhome] at h
    -- both ways go down the same names, so where they begin decides
    rw [← Option.some.inj h, locate_of_home hslashes hparts htilde, foldl_step_of_down hdown,
      foldl_step_of_down hdown]
    exact List.append_left_inj rest

end Environment

namespace Importer

variable {imp : Importer} {text : String} {t : Target} {p q : Progress}

/-- The name of a module names no directory. -/
theorem kind_of_findModule (h : Gives (imp.findModule text) p t q) : t.kind = .module := by
  unfold findModule at h
  obtain ⟨result, r, -, h⟩ := h.of_bind
  match result with
  | .ok (some origin) =>
    obtain ⟨rfl, -⟩ := (gives_pure _ _).unique h
    rfl
  | .ok none => cases h
  | .error f =>
    dsimp only at h
    split at h <;> cases h

/-- A directory that a path names is the one with its home directory written out. -/
theorem directory?_of_findPath (h : imp.findPath text = .ok t) :
    ∃ l, imp.environment.directory? text = some l ∧ t.origin = .place l := by
  unfold findPath at h
  unfold Environment.directory?
  cases hhome : imp.environment.expandHome (.ofString text) with
  | none =>
    rw [hhome] at h
    cases h
  | some path =>
    rw [hhome] at h
    dsimp only at h
    split at h
    · cases h
    · refine ⟨path.locate imp.environment.workingDirectory, rfl, ?_⟩
      obtain ⟨isFile, -, h⟩ := bind_eq_ok_iff.1 h
      split at h
      · cases h
        rfl
      · obtain ⟨isDirectory, -, h⟩ := bind_eq_ok_iff.1 h
        split at h
        · cases h
          rfl
        · cases h

/-- A target that is a directory is the one that the trimmed text means. -/
theorem means_of_findTarget (h : Gives (imp.findTarget text) p t q) (hkind : t.kind = .directory) :
    ∃ l, imp.environment.Means (Text.trim text) l ∧ t.origin = .place l := by
  unfold findTarget at h
  obtain ⟨isPath, r, -, h⟩ := h.of_bind
  cases isPath with
  | false =>
    rw [kind_of_findModule h] at hkind
    cases hkind
  | true =>
    rw [if_pos rfl] at h
    unfold Gives at h
    have hfound : imp.findPath (Text.trim text) = .ok t := (Prod.mk.inj h).1
    obtain ⟨l, hl, horigin⟩ := directory?_of_findPath hfound
    exact ⟨l, Environment.means_of_directory? hl, horigin⟩

end Importer

/-- A generated file in a directory: it is an entry of the directory unless its stem is a path. -/
def Path.IsFileIn (path : Path) (cwd : Location) (directory : String) : Prop :=
  ∃ stem, path = (ofString directory).join (.ofString (stem ++ fileExtension)) ∧
    ('/' ∉ stem.toList →
      path.locate cwd = (ofString directory).locate cwd ++ [stem ++ fileExtension])

theorem Path.isFileIn_join (cwd : Location) (directory stem : String) :
    ((ofString directory).join (.ofString (stem ++ fileExtension))).IsFileIn cwd directory :=
  ⟨stem, rfl, fun h => locate_join_of_isPlain cwd _ (isPlain_fileName h)⟩

namespace Runs

variable {imp : Importer} {run : Config String} {summary : RunSummary}

/-- What is generated is nothing, or what the graph of some classes reports. -/
theorem generated_cases (h : (runWorkflow imp run).result = .ok summary) :
    summary.generated = {} ∨ ∃ (u : Universe) (roots : List ClassRef), summary.generated =
      u.graph.reported run.policy Content run.outputDirectories (roots.map u.rootNode) := by
  obtain ⟨t, hsteps⟩ := result_eq_ok_iff.1 h
  obtain ⟨s, -, -, hscan⟩ := of_steps hsteps
  by_cases htargets : run.targets = []
  · unfold scanStep at hscan
    rw [if_pos (by simp [htargets])] at hscan
    obtain ⟨_, u, -, hpure⟩ := hscan.of_bind
    exact .inl (Prod.mk.inj (hpure.unique (gives_pure _ u)).1).2
  · obtain ⟨_, roots, _, _, -, -, hgenerated⟩ := of_scanStep htargets hscan
    by_cases hne : roots = []
    · subst hne
      exact .inl (of_generationStep_nil hgenerated)
    · obtain ⟨_, _, _, -, u, -, hreported⟩ := of_generationStep hne hgenerated
      exact .inr ⟨u, roots, hreported⟩

/-- The files of a category are in its directory. -/
theorem isFileIn_of_run (h : (runWorkflow imp run).result = .ok summary) (cwd : Location) :
    (∀ path ∈ summary.generated.interfaceFiles, path.IsFileIn cwd run.interfaceDirectory) ∧
      ∀ path ∈ summary.generated.enumFiles, path.IsFileIn cwd run.enumDirectory := by
  obtain hnone | ⟨u, roots, hreported⟩ := generated_cases h
  · rw [hnone]
    exact ⟨fun path hpath => (List.not_mem_nil hpath).elim,
      fun path hpath => (List.not_mem_nil hpath).elim⟩
  · rw [hreported]
    constructor
    all_goals
      intro path hpath
      obtain ⟨t, -, rfl⟩ := List.mem_map.1 (List.mem_mergeSort.1 hpath)
      exact Path.isFileIn_join cwd _ _

end Runs

namespace Config

open EnumSource

variable {imp : Importer} {c : Config CodeText} {run : Config String} {opened : FileTree Content}
  {fetch : Fetch}

/-- What a review looks up for an output path. -/
theorem IsAccepted.means {κ : Type} {env : Environment} {files : FileTree κ}
    (h : c.IsAccepted env files) {text : String} (hpath : CodeText.ofString text ∈ c.reviewedPaths) :
    ∃ l, Config.outputLocation env (.ofString text) = .ok l ∧ env.Means text l := by
  obtain ⟨l, hl⟩ := h.outputLocation hpath
  obtain ⟨text', p, htext, hp, -, rfl⟩ := outputLocation_eq_ok_iff.1 hl
  rw [CodeText.toString?_ofString] at htext
  rw [← Option.some.inj htext] at hp
  refine ⟨_, hl, Environment.means_of_directory? ?_⟩
  unfold Environment.directory?
  rw [hp]
  rfl

/-- The modules of the sources without a directory of their own, and how the scan finds them. -/
structure WritesModules (imp : Importer) (run : Config String) (sources : List (EnumSource String)) :
    Prop where
  files : ∀ source ∈ sources, source.outputDirectory.getD "" = "" → ∃ text,
    (run.lookups imp).files.find? (run.modulePlace imp ++ [Name.moduleFile source.name]) =
      some (.file (.text text))
  scanned : (∃ source ∈ sources, source.outputDirectory.getD "" = "") →
    Text.trim run.moduleDirectory = run.moduleDirectory → run.moduleDirectory ≠ "" →
    ¬(Path.ofString run.moduleDirectory).LeadsHome →
    (Path.ofLocation (run.modulePlace imp)).fits = true →
    { imp with files := (run.lookups imp).files }.Finds run.moduleDirectory
      { text := run.moduleDirectory, kind := .directory, origin := .place (run.modulePlace imp) }

/-- An accepted run whose address opens writes the modules of the sources before the first failing
query. -/
theorem writesModules (haccepted : c.IsAccepted imp.environment imp.files)
    (hrun : c.map? CodeText.toString? = some run)
    (hopens : Opens imp.databases imp.environment.workingDirectory run.connection imp.files
      run.sources opened fetch)
    (hproper : opened.IsProper)
    (hcwd : opened.find? imp.environment.workingDirectory = some .directory)
    (hwrites : ∀ cause, (run.lookups imp).result ≠ .error (.write cause)) :
    run.WritesModules imp (written (fetched fetch) (answered fetch run.sources)) := by
  have hname : ∀ source ∈ written (fetched fetch) (answered fetch run.sources),
      Name.isIdentifier source.name = true := fun source hsource =>
    haccepted.isIdentifier hrun source (List.takeWhile_subset _ (List.mem_of_mem_filter hsource))
  constructor
  · intro source hsource hstandard
    obtain ⟨last, -, -, hlookup⟩ := hopens.lookup_module hwrites hsource
    have hplace : run.modulePlace imp ++ [Name.moduleFile source.name] =
        source.place imp.environment.workingDirectory run.moduleDirectory :=
      (place_of_standard _ _ (hname source hsource) hstandard).symm
    rw [hplace]
    exact ⟨_, (FileTree.lookup_eq_ok hlookup).2.symm⟩
  · rintro ⟨source, hsource, hstandard⟩ htrim hne hhome hfits
    exact Importer.finds_directory htrim hne (hopens.isProper_generateEnums hwrites hproper hcwd)
      hhome hfits (hopens.lookup_standard hwrites hsource (hname source hsource) hstandard)

/-- What the output paths of an accepted configuration mean: a review looks up the directory with the
home directory written out; files are written where the path leads as it is; and the scan finds the
directory that the text without blanks around it means. -/
theorem output_directories (haccepted : c.IsAccepted imp.environment imp.files)
    (hrun : c.map? CodeText.toString? = some run) :
    (∀ text, CodeText.ofString text ∈ c.reviewedPaths →
      ∃ l, outputLocation imp.environment (.ofString text) = .ok l ∧
        imp.environment.Means text l) ∧
    (∀ opened fetch, Opens imp.databases imp.environment.workingDirectory run.connection imp.files
        run.sources opened fetch → opened.IsProper →
      opened.find? imp.environment.workingDirectory = some .directory →
      (∀ cause, (run.lookups imp).result ≠ .error (.write cause)) →
      run.WritesModules imp (written (fetched fetch) (answered fetch run.sources))) ∧
    (∀ summary, (runWorkflow imp run).result = .ok summary →
      (∀ path ∈ summary.generated.interfaceFiles,
        path.IsFileIn imp.environment.workingDirectory run.interfaceDirectory) ∧
      ∀ path ∈ summary.generated.enumFiles,
        path.IsFileIn imp.environment.workingDirectory run.enumDirectory) ∧
    ∀ files p t q, Gives ({ imp with files }.findTarget run.moduleDirectory) p t q →
      t.kind = .directory →
      ∃ l, imp.environment.Means (Text.trim run.moduleDirectory) l ∧ t.origin = .place l :=
  ⟨fun _ => haccepted.means,
    fun _ _ hopens hproper hcwd hwrites =>
      writesModules haccepted hrun hopens hproper hcwd hwrites,
    fun _ hok => Runs.isFileIn_of_run hok _,
    fun files _ _ _ hfound hkind =>
      @Importer.means_of_findTarget { imp with files } _ _ _ _ hfound hkind⟩

/-- The database beside an empty directory, which is in the home directory. -/
def homeImporter : Importer :=
  { kindImporter with
    environment := { «variables» := [("HOME", "/")], workingDirectory := [], homes := [] } }

/-- A run that scans the directory of its modules, spelled with texts of some type. -/
def scansItself {τ : Type} (text : String → τ) (directory : String) : Config τ :=
  kindTexts text directory [directory]

/-- The review of a directory looks up `checked`, the module of the kinds stands in `used`, and the
scan of the same text finds no enum. -/
structure MissesKinds (directory : String) (checked used : Location) : Prop where
  accepted : (scansItself CodeText.ofString directory).IsAccepted homeImporter.environment
    homeImporter.files
  checked : outputLocation homeImporter.environment (.ofString directory) = .ok checked
  used : ∃ text, ((scansItself id directory).lookups homeImporter).files.find?
    (used ++ ["book_kind.py"]) = some (.file (.text text))
  undiscovered : (runWorkflow homeImporter (scansItself id directory)).result.toOption.map
    (·.discovered) = some 0

/-- A home directory makes the review and the lookups mean two directories, and a blank in front of
the path makes the lookups and the scan do so. -/
theorem kinds_are_missed :
    MissesKinds "~/enums" ["enums"] ["~", "enums"] ∧ MissesKinds " enums" [" enums"] [" enums"] := by
  have hmisses : ∀ directory checked,
      ((scansItself CodeText.ofString directory).review homeImporter.environment
        homeImporter.files).toOption.map (·.faults) = some [] →
      (scansItself CodeText.ofString directory).map? CodeText.toString? =
        some (scansItself id directory) →
      CodeText.ofString directory ∈ (scansItself CodeText.ofString directory).reviewedPaths →
      homeImporter.environment.directory? directory = some checked →
      ((scansItself id directory).lookups homeImporter).result.toOption.isSome = true →
      (runWorkflow homeImporter (scansItself id directory)).result.toOption.map
        (·.discovered) = some 0 →
      MissesKinds directory checked ((scansItself id directory).modulePlace homeImporter) := by
    intro directory checked hfaults hrun hpath hdirectory hok hdiscovered
    have haccepted := isAccepted_of_faults hfaults
    obtain ⟨hreview, hmodules, -, -⟩ := output_directories haccepted hrun
    obtain ⟨l, hl, hmeans⟩ := hreview directory hpath
    have hwrites : ∀ cause, ((scansItself id directory).lookups homeImporter).result ≠
        .error (.write cause) := by
      intro cause heq
      rw [heq] at hok
      cases hok
    have hwritten : written (fetched (Connection.database kindDatabase).fetch)
        (answered (Connection.database kindDatabase).fetch (scansItself id directory).sources) =
          [kindSource "BookKind"] := written_kindTexts directory [directory]
    have hwrote := hmodules _ _ (opens_kindImporter rfl (List.cons_ne_nil _ _))
      (scansModules_kindConfig "BookKind").proper rfl hwrites
    rw [hwritten] at hwrote
    have hname : Name.moduleFile (kindSource "BookKind").name = "book_kind.py" := by
      decide +kernel
    have hfile := hwrote.files (kindSource "BookKind") List.mem_cons_self rfl
    rw [hname] at hfile
    rw [hmeans.directory] at hdirectory
    cases hdirectory
    exact ⟨haccepted, hl, hfile, hdiscovered⟩
  constructor
  · exact hmisses "~/enums" ["enums"] (by decide +kernel) (by decide +kernel) (by decide +kernel)
      (by decide +kernel) (by decide +kernel) (by decide +kernel)
  · exact hmisses " enums" [" enums"] (by decide +kernel) (by decide +kernel) (by decide +kernel)
      (by decide +kernel) (by decide +kernel) (by decide +kernel)

end Config

end TypeExport

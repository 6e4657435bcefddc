import TypeExport.Proofs.Lookup.SharedFiles
import TypeExport.Proofs.Run.EnumTrees

/-!
# Rows that become target enums

A run that scans the directory of its own lookup enums writes, scans and generates them one after
the other.  It succeeds exactly if the file system takes the files, and then every source that has
rows ends as the file of a target enum with one member for each row, in the order of the rows, also
where keys repeat.  Only a module whose absolute path is too long for the scan is left out.
-/

/-!
## The steps of a run that scans its own enums

When the file system takes the modules, everything up to the generation of the target enums
succeeds.  Such a run succeeds exactly if this generation does, and leaves the files that it leaves.
-/

namespace TypeExport

open EnumSource

/-- A session that has not loaded anything. -/
structure Session.IsFresh (s : Session) : Prop where
  world : s.world = .empty
  catalog : s.catalog = []
  indexes : s.indexes = []

theorem Session.IsFresh.withLog {s : Session} (h : s.IsFresh) (log : List LogLine) :
    { s with log }.IsFresh :=
  ⟨h.world, h.catalog, h.indexes⟩

namespace Runs

variable {α : Type} {s : RunState}

theorem gives_ofScans {x : Scans α} {a : α} {session : Session} (h : Gives x s.session a session) :
    Gives (ofScans x) s a { s with session } := by
  refine gives_mk ?_
  unfold Gives at h
  rw [h]
  rfl

theorem exists_gives_of_ofScans {x : Scans α} {a : α} {t : RunState} (h : Gives (ofScans x) s a t) :
    ∃ session, Gives x s.session a session := by
  unfold Gives ofScans at h
  refine ⟨(x.run.run s.session).2, Prod.ext ?_ rfl⟩
  exact mapError_eq_ok_iff.1 (congrArg Prod.fst h)

theorem succeeds_report_iff {line : LogLine} {Q : Unit → RunState → Prop} :
    Succeeds (report line) s Q ↔ Q ⟨⟩ { s with session.log := s.session.log ++ [line] } :=
  (gives_ofScans (Scans.gives_report line s.session)).succeeds_iff

/-- What a scan succeeds with. -/
theorem succeeds_ofScans {x : Scans α} {Q : α → Session → Prop} (h : Succeeds x s.session Q) :
    Succeeds (ofScans x) s fun a s' => s'.files = s.files ∧ Q a s'.session := by
  obtain ⟨a, session, ha, hQ⟩ := h
  exact (gives_ofScans ha).succeeds ⟨rfl, hQ⟩

variable {imp : Importer} {c : Config String} {rows : EnumSource String → List Row}
  {opened v : FileTree Content}

/-- The lookups of a configuration in some files. -/
def lookupsIn (imp : Importer) (c : Config String) (files : FileTree Content) :
    LookupOutcome Content (List Path) :=
  generateEnums imp.databases imp.environment.workingDirectory c.connection c.moduleDirectory
    c.sources files

/-- The first step leaves the enum modules and nothing loaded. -/
theorem lookupStep_succeeds (hsources : c.sources ≠ [])
    (hleaves : (lookupsIn imp c s.files).Leaves v) (hfresh : s.session.IsFresh) :
    Succeeds (lookupStep imp c) s fun _ s' => s'.files = v ∧ s'.session.IsFresh := by
  obtain ⟨hfiles, paths, hresult⟩ := hleaves
  unfold lookupStep writeLookups
  rw [if_neg (by simpa using hsources)]
  simp only [succeeds_bind_iff, succeeds_report_iff, succeeds_mk_iff, succeeds_pure_iff]
  exact ⟨paths, mapError_eq_ok_iff.2 hresult, hfiles, ((hfresh.withLog _).withLog _).withLog _⟩

/-- The first step succeeds only if the modules are written. -/
theorem lookupsIn_of_lookupStep {Q : List Path → RunState → Prop} (hsources : c.sources ≠ [])
    (h : Succeeds (lookupStep imp c) s Q) : ∃ paths, (lookupsIn imp c s.files).result = .ok paths := by
  unfold lookupStep writeLookups at h
  rw [if_neg (by simpa using hsources)] at h
  simp only [succeeds_bind_iff, succeeds_report_iff, succeeds_mk_iff, mapError_eq_ok_iff] at h
  obtain ⟨paths, hresult, -⟩ := h
  exact ⟨paths, hresult⟩

variable {text : String} {t : LoadedTarget} {w : World} {classes : List ClassRef}

/-- The generation of classes in a universe. -/
def generated (imp : Importer) (c : Config String) (u : Universe) (classes : List ClassRef)
    (files : FileTree Content) :
    GenerationOutcome Content u.graph.Node Failure Generated :=
  u.graph.generate c.policy imp.environment.workingDirectory c.outputDirectories Failure.message
    (classes.map u.rootNode) files

/-- A step over `files` succeeds exactly if the generation of the classes does, and leaves the files
that it leaves. -/
def Amounts {β : Type} (x : Runs β) (s : RunState) (imp : Importer) (c : Config String)
    (u : Universe) (classes : List ClassRef) (files : FileTree Content) : Prop :=
  ∀ Q : FileTree Content → Prop, Succeeds x s (fun _ s' => Q s'.files) ↔
    (∃ result, (generated imp c u classes files).result = .ok result) ∧
      Q (generated imp c u classes files).files

/-- The classes are generated in the world of a session that has loaded its target. -/
theorem generate_amounts (imp : Importer) (classes : List ClassRef)
    (hloaded : s.session.HasLoaded text t w) (htargets : c.targets = [text]) :
    ∃ u : Universe, u.world = w ∧
      Amounts (generate imp c classes) s imp c u classes s.files := by
  obtain ⟨i, hindex⟩ : ∃ i, Gives (Scans.index imp [text]) s.session i s.session :=
    Scans.gives_index_again hloaded
  refine ⟨{ world := s.session.world, index := i, broken := s.session.broken }, hloaded.world,
    fun Q => ?_⟩
  unfold generate
  rw [htargets, succeeds_bind_iff,
    (gives_ofScans (hindex.bind (Scans.gives_describing i s.session))).succeeds_iff,
    succeeds_mk_iff]
  simp only [mapError_eq_ok_iff]
  exact exists_and_right

/-- Without classes nothing is generated. -/
theorem generationStep_nil_amounts (imp : Importer) (s : RunState) (u : Universe) :
    Amounts (generationStep imp c []) s imp c u [] s.files := by
  intro Q
  have hnone : generated imp c u [] s.files =
      { files := s.files
        events := [.line (.info "No types to generate TypeScript for")]
        result := .ok {} } := rfl
  unfold generationStep
  rw [hnone, if_pos List.isEmpty_nil]
  simp only [succeeds_bind_iff, succeeds_report_iff, succeeds_pure_iff]
  exact ⟨fun hQ => ⟨⟨_, rfl⟩, hQ⟩, And.right⟩

/-- The generation of a run amounts to one over the universe of its target. -/
theorem generationStep_amounts (hfinds : imp.Finds text t.target)
    (hloaded : s.session.HasLoaded text t w) (htargets : c.targets = [text]) :
    ∃ u : Universe, u.world = w ∧
      Amounts (generationStep imp c classes) s imp c u classes s.files := by
  by_cases hne : classes = []
  · subst hne
    exact ⟨{ world := w, index := { names := [] }, broken := [] }, rfl,
      generationStep_nil_amounts imp s _⟩
  obtain ⟨types, ⟨files, session⟩, havailable, hfiles, hloaded'⟩ := succeeds_ofScans
    (s := { s with session.log := s.session.log ++
      [.info "Step 3: Generating TypeScript interfaces and enums..."] })
    (Scans.available_again hfinds (hloaded.withLog _))
  obtain rfl : files = s.files := hfiles
  obtain ⟨u, hu, hamounts⟩ := generate_amounts imp classes
    (s := { files := s.files, session := { session with
      log := session.log ++ [.info ("Types available for inline generation: " ++
        toString (types.map fun entry => entry.2.fullName).eraseDups.length)] } })
    (hloaded'.withLog _) htargets
  refine ⟨u, hu, fun Q => ?_⟩
  unfold generationStep
  rw [if_neg (by simpa using hne), htargets]
  simp only [succeeds_bind_iff, succeeds_report_iff, succeeds_pure_iff, havailable.succeeds_iff]
  exact hamounts Q

/-- The second and the third step find the enumerations in the directory and generate those within
reach. -/
theorem scanStep_amounts {l : Location} (hfresh : s.session.IsFresh)
    (htargets : c.targets = [text]) (hknows : imp.KnowsEnums .empty)
    (hfinds : { imp with files := s.files }.Finds text
      { text, kind := .directory, origin := .place l })
    (hholds : { imp with files := s.files }.HoldsSources rows l
      (inFileOrder (written rows c.sources)))
    (hsome : written rows c.sources ≠ [])
    (hmodules : ((written rows c.sources).map fun source => Name.moduleFile source.name).Nodup) :
    ∃ u classes, List.Forall₂ (fun source c => u.world.IsEnumClass source (rows source) c)
        (Importer.withinReach l (inFileOrder (written rows c.sources))) classes ∧
      Amounts (scanStep imp c) s imp c u classes s.files := by
  have hnames : ((inFileOrder (written rows c.sources)).map (·.name)).Nodup := by
    refine ((inFileOrder_perm _).map _).nodup_iff.2 (List.Nodup.of_map Name.moduleFile ?_)
    rw [List.map_map]
    exact hmodules
  obtain ⟨classes, ⟨files, session⟩, hroots, hfiles, t, w, hfinds', hloaded, hclasses⟩ :=
    succeeds_ofScans
      (s := { s with session.log := s.session.log ++
        [.info "Step 2: Discovering types marked with @export_to_ts..."] })
      (Importer.roots_of_holdsSources hfinds hholds (inFileOrder_ne_nil hsome) hnames
        (hfresh.world ▸ hknows) hfresh.catalog hfresh.indexes)
  obtain rfl : files = s.files := hfiles
  obtain ⟨u, hu, hamounts⟩ := generationStep_amounts (c := c)
    (s := { files := s.files, session := { session with
      log := session.log ++ [.info ("Found " ++ toString classes.length ++ " types to export")] } })
    hfinds' (hloaded.withLog _) htargets
  refine ⟨u, classes, hu.symm ▸ hclasses, fun Q => ?_⟩
  unfold scanStep
  rw [if_neg (by simp [htargets]), htargets]
  simp only [succeeds_bind_iff, succeeds_report_iff, succeeds_pure_iff, succeeds_get_iff,
    hroots.succeeds_iff]
  exact hamounts Q

/-- A run succeeds and leaves its files as its steps do. -/
theorem succeeds_steps_iff {Q : FileTree Content → Prop} :
    Succeeds (steps imp c) { files := imp.files, session := .empty } (fun _ s => Q s.files) ↔
      (∃ summary, (runWorkflow imp c).result = .ok summary) ∧ Q (runWorkflow imp c).files := by
  unfold Succeeds Gives runWorkflow
  generalize (steps imp c).run.run { files := imp.files, session := .empty } = outcome
  obtain ⟨result, s⟩ := outcome
  constructor
  · rintro ⟨summary, t, hrun, hQ⟩
    cases hrun
    exact ⟨⟨summary, rfl⟩, hQ⟩
  · rintro ⟨⟨summary, hresult⟩, hQ⟩
    exact ⟨summary, s, Prod.ext hresult rfl, hQ⟩

/-- A scan that succeeds has found its target. -/
theorem exists_findTarget_of_scanStep {Q : Nat × Generated → RunState → Prop}
    (htargets : c.targets = [text]) (hblank : Text.allBlank text = false)
    (h : Succeeds (scanStep imp c) s Q) :
    ∃ t p q, Gives ({ imp with files := s.files }.findTarget text) p t q := by
  unfold scanStep at h
  rw [if_neg (by simp [htargets]), htargets] at h
  simp only [succeeds_bind_iff, succeeds_report_iff, succeeds_get_iff] at h
  obtain ⟨roots, t, hroots, -⟩ := h
  obtain ⟨session, hfound⟩ := exists_gives_of_ofScans hroots
  exact Scans.exists_findTarget_of_roots hblank hfound

/-- A run that succeeds has its modules taken by the file system. -/
theorem takesModules_of_run (hnames : c.NamesSources) (hrows : c.HasRows imp opened rows)
    (hscans : c.ScansModules imp opened) {summary : RunSummary}
    (hok : (runWorkflow imp c).result = .ok summary) : c.TakesModules imp rows := by
  have hsteps : Succeeds (steps imp c) { files := imp.files, session := .empty } fun _ _ => True :=
    (succeeds_steps_iff (Q := fun _ => True)).2 ⟨⟨summary, hok⟩, trivial⟩
  unfold steps at hsteps
  rw [succeeds_bind_iff, succeeds_report_iff, succeeds_bind_iff] at hsteps
  obtain ⟨paths, hpaths⟩ := lookupsIn_of_lookupStep hrows.sources_ne_nil hsteps
  obtain ⟨masked, fetch, hmask, hconnect, hfetch⟩ := hrows.fetched
  unfold lookupsIn generateEnums generateOpened at hpaths
  rw [if_neg (by simpa using hrows.sources_ne_nil), hmask] at hpaths
  dsimp only at hpaths
  rw [hconnect] at hpaths
  have htaken := fits_of_generateAll hnames.words hfetch hpaths
  have hshort := fun source hsource => (htaken source hsource).1
  have hfits := fun source hsource => (htaken source hsource).2
  -- the modules are written, so the scan looks for their directory in a tree that has it
  obtain ⟨v, hwrote, hleaves⟩ := Config.generateEnums_leaves hnames hrows hscans hshort hfits
  obtain ⟨text, htargets, -⟩ := hscans.target
  obtain ⟨htrim, hne, hhome, hlookup⟩ := Config.lookup_after hscans htargets hwrote
  obtain ⟨_, ⟨files, session⟩, hgives, hfiles, -⟩ := lookupStep_succeeds
    (s := { files := imp.files, session := { Session.empty with
      log := Session.empty.log ++ [.info "Starting complete TypeGen workflow..."] } })
    hrows.sources_ne_nil hleaves ⟨rfl, rfl, rfl⟩
  obtain rfl : files = v := hfiles
  rw [hgives.succeeds_iff, succeeds_bind_iff] at hsteps
  obtain ⟨t, p, q, hfound⟩ := exists_findTarget_of_scanStep htargets
    (Text.allBlank_of_trim htrim hne) hsteps
  exact ⟨hshort, hfits, Importer.fits_of_findTarget hfound htrim hhome hlookup⟩

/-- The steps of a run that scans its own enums amount to the generation of the target enums in the
tree with the modules. -/
theorem steps_amounts (hnames : c.NamesSources) (hrows : c.HasRows imp opened rows)
    (hscans : c.ScansModules imp opened) (htakes : c.TakesModules imp rows) :
    ∃ v u classes,
      WroteModules rows (c.modulePlace imp) (written rows c.sources) (c.moduleTree imp opened) v ∧
      List.Forall₂ (fun source c => u.world.IsEnumClass source (rows source) c)
        (Importer.withinReach (c.modulePlace imp) (inFileOrder (written rows c.sources))) classes ∧
      Amounts (steps imp c) { files := imp.files, session := .empty } imp c u classes v := by
  obtain ⟨v, hwrote, hleaves⟩ := Config.generateEnums_leaves hnames hrows hscans htakes.names
    htakes.paths
  obtain ⟨text, htargets, -⟩ := hscans.target
  obtain ⟨modules, ⟨files, session⟩, hlookup, hfiles, hfresh⟩ := lookupStep_succeeds
    (s := { files := imp.files, session := { Session.empty with
      log := Session.empty.log ++ [.info "Starting complete TypeGen workflow..."] } })
    hrows.sources_ne_nil hleaves ⟨rfl, rfl, rfl⟩
  obtain rfl : files = v := hfiles
  obtain ⟨u, classes, hclasses, hamounts⟩ := scanStep_amounts (s := { files, session }) hfresh
    htargets (Config.knowsEnums_of_marker hscans.marker)
    (Config.finds_after hscans htargets htakes.directory hwrote)
    (Importer.holdsSources_of_wroteModules hwrote hscans.empty
      fun source hsource => Config.isReadable_of_written hnames hrows hsource)
    hrows.someRows (hnames.modules.sublist (List.filter_sublist.map _))
  refine ⟨files, u, classes, hwrote, hclasses, fun Q => ?_⟩
  unfold steps
  simp only [succeeds_bind_iff, succeeds_report_iff, succeeds_pure_iff, hlookup.succeeds_iff]
  exact hamounts Q

end Runs

end TypeExport

/-!
## Rows as members
-/

namespace TypeExport

open EnumSource

namespace Config

variable {imp : Importer} {c : Config String} {opened : FileTree Content}
  {rows : EnumSource String → List Row}

/-- Every source that is exported has its target enum, and the enum has its rows. -/
def HoldsTargetEnums (c : Config String) (imp : Importer) (rows : EnumSource String → List Row)
    (files : FileTree Content) : Prop :=
  ∀ source ∈ c.exported imp rows,
    files.read imp.environment.workingDirectory
        (Universe.enumPath (.ofString c.enumDirectory) source) =
      .ok (.text (enumText source.name (memberTexts (rows source))))

theorem mem_withinReach_inFileOrder {l : Location} {sources : List (EnumSource String)}
    {source : EnumSource String} :
    source ∈ Importer.withinReach l (inFileOrder sources) ↔
      source ∈ Importer.withinReach l sources := by
  unfold Importer.withinReach
  rw [List.mem_filter, List.mem_filter, mem_inFileOrder]

/-- A run whose modules are taken by the file system. -/
theorem run_of_takesModules (hheader : c.header = false) (hmanifests : c.manifests = false)
    (hnames : c.NamesSources) (hrows : c.HasRows imp opened rows)
    (hscans : c.ScansModules imp opened) (hmodules : c.TakesModules imp rows) :
    ((∃ summary, (runWorkflow imp c).result = .ok summary) ↔ c.TakesEnums imp opened rows) ∧
      (c.TakesEnums imp opened rows → c.HoldsTargetEnums imp rows (runWorkflow imp c).files) := by
  obtain ⟨v, u, classes, hwrote, hclasses, hamounts⟩ :=
    Runs.steps_amounts hnames hrows hscans hmodules
  have hrun := fun Q => Runs.succeeds_steps_iff.symm.trans (hamounts Q)
  generalize hsources : Importer.withinReach (c.modulePlace imp)
    (inFileOrder (written rows c.sources)) = sources at hclasses
  have hmem : ∀ source, source ∈ sources ↔ source ∈ c.exported imp rows := by
    intro source
    rw [← hsources]
    exact mem_withinReach_inFileOrder
  have hreadable : ∀ source ∈ sources, source.IsReadable (rows source) :=
    fun source hsource =>
      isReadable_of_written hnames hrows (mem_written_of_exported ((hmem source).1 hsource))
  have hstems : (sources.map fun source => Name.fileBase source.name).Nodup := by
    rw [← hsources]
    refine List.Nodup.sublist (List.filter_sublist.map _) ?_
    exact ((inFileOrder_perm _).map _).nodup_iff.2 (hnames.stems.sublist (List.filter_sublist.map _))
  have hpolicy : c.policy.header = false := hheader
  have htakes : (∃ result, (Runs.generated imp c u classes v).result = .ok result) ↔
      c.TakesEnums imp opened rows := by
    by_cases hnone : sources = []
    · -- nothing is exported, so nothing is asked of the target enums
      have hexported : c.exported imp rows = [] :=
        List.eq_nil_iff_forall_not_mem.2 fun source hsource => by
          have hmem := (hmem source).2 hsource
          rw [hnone] at hmem
          exact List.not_mem_nil hmem
      rw [hnone] at hclasses
      cases hclasses
      exact iff_of_true ⟨{}, rfl⟩ ⟨hmodules, fun hne => absurd hexported hne⟩
    · have hexported : c.exported imp rows ≠ [] := by
        obtain ⟨source, hsource⟩ := List.exists_mem_of_ne_nil _ hnone
        exact List.ne_nil_of_mem ((hmem source).1 hsource)
      refine (Universe.generate_enumClasses_iff hclasses hreadable hstems hnone hpolicy
        hmanifests).trans ?_
      simp only [hmem]
      refine (takesTargets_iff hnames hwrote).symm.trans ?_
      exact ⟨fun htargets => ⟨hmodules, fun _ => htargets⟩, fun h => h.targets hexported⟩
  constructor
  · have hresult := hrun fun _ => True
    simp only [and_true] at hresult
    exact hresult.trans htakes
  · intro h
    obtain ⟨result, hok⟩ := htakes.2 h
    refine ((hrun (c.HoldsTargetEnums imp rows)).2 ⟨⟨result, hok⟩, fun source hsource => ?_⟩).2
    exact Universe.read_enumClasses hclasses hreadable hstems hpolicy hmanifests hok source
      ((hmem source).2 hsource)

/-- A run over its own lookup enums succeeds exactly if the file system takes the files.  Then the
file of the target enum of each source that has rows, and whose module is not too far down for the
scan, holds one member for every row, in order. -/
theorem run_of_enums (hheader : c.header = false) (hmanifests : c.manifests = false)
    (hnames : c.NamesSources) (hrows : c.HasRows imp opened rows)
    (hscans : c.ScansModules imp opened) :
    ((∃ summary, (runWorkflow imp c).result = .ok summary) ↔ c.TakesEnums imp opened rows) ∧
      (c.TakesEnums imp opened rows → ∀ source ∈ c.exported imp rows,
        (runWorkflow imp c).files.read imp.environment.workingDirectory
            ((Path.ofString c.enumDirectory).join
              (.ofString (Name.fileBase source.name ++ fileExtension))) =
          .ok (.text (enumText source.name (memberTexts (rows source)))) ∧
        (memberTexts (rows source)).length = (rows source).length ∧
        ((memberTexts (rows source)).map Prod.fst).Nodup) := by
  refine ⟨⟨?_, fun htakes => ?_⟩, fun htakes source hsource => ⟨?_, ?_⟩⟩
  · rintro ⟨summary, hok⟩
    have hmodules := Runs.takesModules_of_run hnames hrows hscans hok
    exact (run_of_takesModules hheader hmanifests hnames hrows hscans hmodules).1.1 ⟨summary, hok⟩
  · exact (run_of_takesModules hheader hmanifests hnames hrows hscans htakes.modules).1.2 htakes
  · exact (run_of_takesModules hheader hmanifests hnames hrows hscans htakes.modules).2 htakes
      source hsource
  · exact memberTexts_spec (isReadable_of_written hnames hrows (mem_written_of_exported hsource))

/-- A database with one kind of books. -/
def kindDatabase : Sql.Database where
  tables := [{
    name := "kinds"
    columns := [{ name := "id", affinity := .integer }, { name := "name", affinity := .text }]
    rows := [[.int 7, .text "Paper Back"]] }]

/-- The database beside an empty directory. -/
def kindImporter : Importer where
  environment := { «variables» := [], workingDirectory := [], homes := [] }
  files := { entries := [(["app.db"], .file (.database kindDatabase [])), (["enums"], .directory)] }
  searchPath := [[]]
  installed := ["typegen", "typegen.markers"]
  digest := fun _ => ""

/-- The source of an enum of the kinds. -/
def kindSource (name : String) : EnumSource String where
  table := "kinds"
  keyColumn := "id"
  labelColumn := "name"
  name := name
  outputDirectory := none

/-- A run that makes an enum of the kinds. -/
def kindConfig (name : String) : Config String where
  connection := "sqlite:///app.db"
  targets := ["enums"]
  interfaceDirectory := "models"
  enumDirectory := "ts"
  moduleDirectory := "enums"
  sources := [kindSource name]
  manifests := false
  camelCaseKeys := true
  header := false
  dropNavigation := true
  inlineNested := true
  keepIgnored := true
  typeMappings := []

def kindRows : EnumSource String → List Row :=
  fun _ => [(.int 7, .text "Paper Back")]

theorem namesSources_kindConfig {name : String} (hword : IsAsciiWord name.toList)
    (hkeyword : Name.isKeyword name = false) : (kindConfig name).NamesSources where
  words := List.forall_mem_singleton.2 hword
  notKeywords := List.forall_mem_singleton.2 hkeyword
  tables := List.forall_mem_singleton.2 <| by
    show ∀ char ∈ "kinds".toList, char ≠ '"' ∧ char ≠ '\\' ∧ char ≠ '\x00'
    simp
  inside := List.forall_mem_singleton.2 rfl
  modules := List.nodup_singleton _
  stems := List.nodup_singleton _

/-- The address of the database beside the directory opens it. -/
theorem connection_kindImporter (masked : String) :
    Connection.connect [] kindImporter.files masked "sqlite:///app.db" =
      (kindImporter.files, .ok (.database kindDatabase)) := by
  have hread : (Url.Address.read "sqlite:///app.db").toOption =
      some { scheme := "sqlite", user := none, password := none, host := none, port := none,
             database := some ['a', 'p', 'p', '.', 'd', 'b'], parameters := [] } := by
    decide +kernel
  cases haddress : Url.Address.read "sqlite:///app.db" with
  | error e =>
    rw [haddress] at hread
    cases hread
  | ok address =>
    rw [haddress] at hread
    cases hread
    unfold Connection.connect Connection.accept
    rw [haddress]
    rfl

theorem connect_kindImporter (masked : String) :
    kindImporter.databases.connect kindImporter.environment.workingDirectory kindImporter.files
        masked "sqlite:///app.db" =
      (kindImporter.files, .ok (Connection.database kindDatabase).fetch) := by
  have hfiles : kindImporter.databases = .inFiles := rfl
  have hdirectory : kindImporter.environment.workingDirectory = [] := rfl
  rw [hfiles, hdirectory]
  unfold Databases.inFiles
  dsimp only
  rw [connection_kindImporter masked]
  rfl

/-- Whether rows are those of the kinds; rows themselves cannot be compared by computation. -/
def isKindRows : List Row → Bool
  | [(.int n, .text label)] => n == 7 && label == "Paper Back"
  | _ => false

theorem eq_of_isKindRows {rows : List Row} (h : isKindRows rows = true) :
    rows = [(.int 7, .text "Paper Back")] := by
  unfold isKindRows at h
  split at h
  · rw [Bool.and_eq_true, beq_iff_eq, beq_iff_eq] at h
    rw [h.1, h.2]
  · cases h

/-- The database answers the one kind of books. -/
theorem fetch_kindSource (name : String) :
    (Connection.database kindDatabase).fetch (kindSource name) =
      .ok (kindRows (kindSource name)) := by
  -- the query does not name the enum
  show (Connection.database kindDatabase).fetch (kindSource "") =
    .ok [(.int 7, .text "Paper Back")]
  have hrows : ((Connection.database kindDatabase).fetch (kindSource "")).toOption.any isKindRows =
      true := by
    decide +kernel
  cases hfetch : (Connection.database kindDatabase).fetch (kindSource "") with
  | error e =>
    rw [hfetch] at hrows
    cases hrows
  | ok rows =>
    rw [hfetch] at hrows
    rw [eq_of_isKindRows hrows]

/-- So the rows of the run are these. -/
theorem hasRows_kindConfig (name : String) :
    (kindConfig name).HasRows kindImporter kindImporter.files kindRows where
  fetched := by
    obtain ⟨masked, hmask⟩ : ∃ masked, Url.mask "sqlite:///app.db" = .ok masked :=
      exists_ok_of_isSome (by decide +kernel)
    have hconnection : (kindConfig name).connection = "sqlite:///app.db" := rfl
    rw [hconnection]
    exact ⟨masked, (Connection.database kindDatabase).fetch, hmask, connect_kindImporter masked,
      List.forall_mem_singleton.2 (fetch_kindSource name)⟩
  labels := List.forall_mem_singleton.2 (List.forall_mem_singleton.2 (.inr (by
    show ∀ c ∈ "Paper Back".toList, c.toNat < 128
    simp)))
  someRows := List.cons_ne_nil _ _

theorem ensureDirectory_kindImporter :
    kindImporter.files.ensureDirectory [] (.ofString "enums") = (kindImporter.files, none) := by
  rfl

/-- The run scans the directory that its modules are written to. -/
theorem scansModules_kindConfig (name : String) :
    (kindConfig name).ScansModules kindImporter kindImporter.files where
  marker := by decide
  proper := FileTree.isProper_of_entries (by decide +kernel)
  inDirectory := rfl
  made := congrArg Prod.snd ensureDirectory_kindImporter
  empty := by
    show (kindImporter.files.ensureDirectory [] (.ofString "enums")).1.names
      ((Path.ofString "enums").locate []) = []
    rw [ensureDirectory_kindImporter]
    decide +kernel
  target := by
    refine ⟨"enums", rfl, by decide +kernel, by decide, ?_, ?_⟩
    · rintro ⟨-, part, hpart, hhome⟩
      have hparts : (Path.ofString "enums").parts.head? = some "enums" := by decide +kernel
      rw [hparts] at hpart
      cases hpart
      revert hhome
      decide
    · show (kindImporter.files.ensureDirectory [] (.ofString "enums")).1.lookup []
        (.ofString "enums") = .ok ((Path.ofString "enums").locate [], some .directory)
      rw [ensureDirectory_kindImporter]
      rfl

/-- Nothing hinders this run from writing its enum. -/
theorem takesEnums_bookKind :
    (kindConfig "BookKind").TakesEnums kindImporter kindImporter.files kindRows where
  modules :=
    { names := List.forall_mem_singleton.2 (by decide +kernel)
      paths := List.forall_mem_singleton.2 (by decide +kernel)
      directory := by decide +kernel }
  targets _ :=
    { names := fun source hsource => by
        obtain rfl := List.mem_singleton.1 (mem_written_of_exported hsource)
        decide +kernel
      paths := fun source hsource => by
        obtain rfl := List.mem_singleton.1 (mem_written_of_exported hsource)
        decide +kernel
      made := by decide +kernel
      aside := List.forall_mem_singleton.2 (by decide +kernel)
      free := fun source hsource hdirectory => by
        obtain rfl := List.mem_singleton.1 (mem_written_of_exported hsource)
        have hnot : ((kindConfig "BookKind").enumTree kindImporter kindImporter.files).isDirectory
            ((kindConfig "BookKind").enumPlace kindImporter ++
              [Name.fileBase "BookKind" ++ fileExtension]) ≠ true := by
          decide +kernel
        exact hnot (FileTree.isDirectory_iff.2 hdirectory) }

/-- A row of kinds ends as a member of the target enum `BookKind`. -/
theorem run_of_bookKind :
    ((kindConfig "BookKind").header = false ∧ (kindConfig "BookKind").manifests = false ∧
      (kindConfig "BookKind").NamesSources ∧
      (kindConfig "BookKind").HasRows kindImporter kindImporter.files kindRows ∧
      (kindConfig "BookKind").ScansModules kindImporter kindImporter.files ∧
      (kindConfig "BookKind").TakesEnums kindImporter kindImporter.files kindRows) ∧
    (∃ summary, (runWorkflow kindImporter (kindConfig "BookKind")).result = .ok summary) ∧
    (runWorkflow kindImporter (kindConfig "BookKind")).files.read []
        (.ofString "ts/bookKind.ts") =
      .ok (.text "export enum BookKind \x7b\n  PaperBack = 7\n\x7d\n") := by
  have hnames : (kindConfig "BookKind").NamesSources :=
    namesSources_kindConfig (isAsciiWord_cons (by decide) (isWordChar_of_all (by decide)))
      (by decide +kernel)
  obtain ⟨hresult, hfiles⟩ := run_of_enums rfl rfl hnames (hasRows_kindConfig _)
    (scansModules_kindConfig _)
  have hexported : kindSource "BookKind" ∈ (kindConfig "BookKind").exported kindImporter kindRows :=
    List.mem_filter.2 ⟨List.mem_cons_self, by decide +kernel⟩
  obtain ⟨hread, -⟩ := hfiles takesEnums_bookKind (kindSource "BookKind") hexported
  have hpath : (Path.ofString "ts").join
      (.ofString (Name.fileBase "BookKind" ++ fileExtension)) = .ofString "ts/bookKind.ts" := by
    decide +kernel
  have hmembers : memberTexts [(.int 7, .text "Paper Back")] = [("PaperBack", "7")] := by
    have hname : Name.uniqueMembers [.text "Paper Back"] = ["PaperBack"] := by decide +kernel
    have hkey : (Value.int 7).display = "7" := by
      rw [Value.display_int]
      rfl
    unfold memberTexts keyText
    rw [List.map_singleton, List.map_singleton, hname, hkey]
    rfl
  have htext : enumText "BookKind" [("PaperBack", "7")] =
      "export enum BookKind \x7b\n  PaperBack = 7\n\x7d\n" := by
    decide +kernel
  rw [← htext, ← hmembers, ← hpath]
  exact ⟨⟨rfl, rfl, hnames, hasRows_kindConfig _, scansModules_kindConfig _, takesEnums_bookKind⟩,
    hresult.2 takesEnums_bookKind, hread⟩

def longName : String :=
  String.ofList (List.replicate 260 'A')

/-- The run over an enum whose name is too long meets every other condition, and fails. -/
theorem run_of_longName :
    (kindConfig longName).header = false ∧ (kindConfig longName).manifests = false ∧
      (kindConfig longName).NamesSources ∧
      (kindConfig longName).HasRows kindImporter kindImporter.files kindRows ∧
      (kindConfig longName).ScansModules kindImporter kindImporter.files ∧
      ∀ summary, (runWorkflow kindImporter (kindConfig longName)).result ≠ .ok summary := by
  have hlist : longName.toList = List.replicate 260 'A' := String.toList_ofList
  have hword : IsAsciiWord longName.toList := by
    rw [hlist]
    refine isAsciiWord_cons (by decide) fun c hc => ?_
    rw [List.eq_of_mem_replicate hc]
    decide
  have hnames : (kindConfig longName).NamesSources :=
    namesSources_kindConfig hword (by decide +kernel)
  refine ⟨rfl, rfl, hnames, hasRows_kindConfig _, scansModules_kindConfig _, fun summary hok => ?_⟩
  have hshort := (Runs.takesModules_of_run hnames (hasRows_kindConfig _)
    (scansModules_kindConfig _) hok).names (kindSource longName) List.mem_cons_self
  have hlong := Name.length_lt_moduleFile hword
  rw [hlist, List.length_replicate] at hlong
  exact absurd hshort (Nat.not_le.2 (lt_trans (by decide) hlong))

end Config

end TypeExport

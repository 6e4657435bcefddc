import TypeExport.Proofs.File.Effect
import TypeExport.Proofs.Run.TargetEnums
import TypeExport.Proofs.Scan.WrittenEnums
import TypeExport.Run.Workflow

/-!
# The trees of a run that scans its own enums

A configuration may scan the directory into which it writes its lookup enums.  What the run needs to
find around it is said here: sources that can be named and read back, queries that give rows, a
directory that is empty when the connection is open, and a file system that takes the files.  From
this the trees after the first step and at the directory of the target enums follow.
-/

namespace TypeExport

open EnumSource

namespace Config

variable (c : Config String) (imp : Importer) (opened : FileTree Content)
  (rows : EnumSource String → List Row)

/-- The sources have names that can be kept apart, and nothing in their texts breaks a literal. -/
structure NamesSources : Prop where
  words : ∀ source ∈ c.sources, IsAsciiWord source.name.toList
  notKeywords : ∀ source ∈ c.sources, Name.isKeyword source.name = false
  tables : ∀ source ∈ c.sources, ∀ char ∈ source.table.toList,
    char ≠ '"' ∧ char ≠ '\\' ∧ char ≠ '\x00'
  inside : ∀ source ∈ c.sources, source.outputDirectory.getD "" = ""
  modules : (c.sources.map fun source => Name.moduleFile source.name).Nodup
  stems : (c.sources.map fun source => Name.fileBase source.name).Nodup

/-- The connection is open, which leaves `opened` of the files, and the queries give the rows, some of
them at least. -/
structure HasRows : Prop where
  fetched : ∃ masked fetch, Url.mask c.connection = .ok masked ∧
    imp.databases.connect imp.environment.workingDirectory imp.files masked c.connection =
      (opened, .ok fetch) ∧
    ∀ source ∈ c.sources, fetch source = .ok (rows source)
  labels : ∀ source ∈ c.sources, ∀ row ∈ rows source, row.2.IsAsciiLabel
  someRows : written rows c.sources ≠ []

/-- The tree when the directory of the enum modules is there. -/
def moduleTree : FileTree Content :=
  (opened.ensureDirectory imp.environment.workingDirectory (.ofString c.moduleDirectory)).1

def modulePlace : Location :=
  (Path.ofString c.moduleDirectory).locate imp.environment.workingDirectory

/-- The only target is the directory of the enum modules, which is empty before they are written. -/
structure ScansModules : Prop where
  marker : "typegen.markers" ∈ imp.installed
  proper : opened.IsProper
  inDirectory : opened.find? imp.environment.workingDirectory = some .directory
  made : (opened.ensureDirectory imp.environment.workingDirectory
    (.ofString c.moduleDirectory)).2 = none
  empty : (c.moduleTree imp opened).names (c.modulePlace imp) = []
  target : ∃ text, c.targets = [text] ∧ Text.trim text = text ∧ text ≠ "" ∧
    ¬(Path.ofString text).LeadsHome ∧
    (c.moduleTree imp opened).lookup imp.environment.workingDirectory (.ofString text) =
      .ok (c.modulePlace imp, some .directory)

/-- The sources whose enums are exported: those with rows, unless the absolute path of the module is
too long for the scan. -/
def exported : List (EnumSource String) :=
  Importer.withinReach (c.modulePlace imp) (written rows c.sources)

/-- The tree when the directory of the target enums is there, too. -/
def enumTree : FileTree Content :=
  ((c.moduleTree imp opened).ensureDirectory imp.environment.workingDirectory
    (.ofString c.enumDirectory)).1

def enumPlace : Location :=
  (Path.ofString c.enumDirectory).locate imp.environment.workingDirectory

/-- The file system takes the enum modules, and the scan finds their directory: names and paths are
short enough. -/
structure TakesModules : Prop where
  names : ∀ source ∈ written rows c.sources,
    (Name.moduleFile source.name).utf8ByteSize ≤ FileTree.nameLimit
  paths : ∀ source ∈ written rows c.sources, (source.filePath c.moduleDirectory).fits = true
  directory : (Path.ofLocation (c.modulePlace imp)).fits = true

/-- The file system takes the target enums: names and paths are short enough, and neither a directory
nor an enum module stands in the way. -/
structure TakesTargets : Prop where
  names : ∀ source ∈ c.exported imp rows,
    (Name.fileBase source.name ++ fileExtension).utf8ByteSize ≤ FileTree.nameLimit
  paths : ∀ source ∈ c.exported imp rows,
    (Universe.enumPath (.ofString c.enumDirectory) source).fits = true
  made : ((c.moduleTree imp opened).ensureDirectory imp.environment.workingDirectory
    (.ofString c.enumDirectory)).2 = none
  aside : ∀ source ∈ written rows c.sources, c.modulePlace imp ++ [Name.moduleFile source.name] ∉
    (Path.ofString c.enumDirectory).way imp.environment.workingDirectory
  free : ∀ source ∈ c.exported imp rows,
    (c.enumTree imp opened).find?
      (c.enumPlace imp ++ [Name.fileBase source.name ++ fileExtension]) ≠ some .directory

/-- The file system takes the files.  Nothing is asked of the target enums if there are none. -/
structure TakesEnums : Prop where
  modules : c.TakesModules imp rows
  targets : c.exported imp rows ≠ [] → c.TakesTargets imp opened rows

end Config

namespace Config

variable {c : Config String} {imp : Importer} {opened : FileTree Content}
  {rows : EnumSource String → List Row} {source : EnumSource String} {u v : FileTree Content}

theorem mem_sources_of_written (h : source ∈ written rows c.sources) : source ∈ c.sources :=
  List.mem_of_mem_filter h

theorem rows_ne_nil_of_written (h : source ∈ written rows c.sources) : rows source ≠ [] := by
  simpa using List.of_mem_filter h

theorem mem_written_of_exported (h : source ∈ c.exported imp rows) :
    source ∈ written rows c.sources :=
  List.mem_of_mem_filter h

theorem HasRows.sources_ne_nil (h : c.HasRows imp opened rows) : c.sources ≠ [] := by
  intro hnil
  refine h.someRows ?_
  rw [hnil]
  rfl

/-- The module of a source that has rows can be read back. -/
theorem isReadable_of_written (hnames : c.NamesSources) (hrows : c.HasRows imp opened rows)
    (h : source ∈ written rows c.sources) : source.IsReadable (rows source) where
  name := hnames.words source (mem_sources_of_written h)
  notKeyword := hnames.notKeywords source (mem_sources_of_written h)
  table := hnames.tables source (mem_sources_of_written h)
  labels := hrows.labels source (mem_sources_of_written h)
  nonempty := rows_ne_nil_of_written h

theorem ensureDirectory_moduleTree (h : c.ScansModules imp opened) :
    opened.ensureDirectory imp.environment.workingDirectory (.ofString c.moduleDirectory) =
      (c.moduleTree imp opened, none) :=
  Prod.ext rfl h.made

theorem ensureDirectory_enumTree (h : c.TakesTargets imp opened rows) :
    (c.moduleTree imp opened).ensureDirectory imp.environment.workingDirectory
      (.ofString c.enumDirectory) = (c.enumTree imp opened, none) :=
  Prod.ext rfl h.made

theorem isProper_moduleTree (h : c.ScansModules imp opened) : (c.moduleTree imp opened).IsProper :=
  h.proper.ensureDirectory h.inDirectory _

/-- The first step writes the modules of the sources that have rows into the empty directory. -/
theorem generateEnums_leaves (hnames : c.NamesSources) (hrows : c.HasRows imp opened rows)
    (hscans : c.ScansModules imp opened)
    (hshort : ∀ source ∈ written rows c.sources,
      (Name.moduleFile source.name).utf8ByteSize ≤ FileTree.nameLimit)
    (hfits : ∀ source ∈ written rows c.sources, (source.filePath c.moduleDirectory).fits = true) :
    ∃ v, WroteModules rows (c.modulePlace imp) (written rows c.sources) (c.moduleTree imp opened) v ∧
      (generateEnums imp.databases imp.environment.workingDirectory c.connection c.moduleDirectory
        c.sources imp.files).Leaves v := by
  obtain ⟨masked, fetch, hmask, hconnect, hfetch⟩ := hrows.fetched
  have hmade := ensureDirectory_moduleTree hscans
  have hfiles : ∀ source ∈ written rows c.sources, HasFile c.moduleDirectory source :=
    fun source hsource => {
    name := hnames.words source (mem_sources_of_written hsource)
    directory := hnames.inside source (mem_sources_of_written hsource)
    short := hshort source hsource
    fits := hfits source hsource }
  have hdistinct : ((written rows c.sources).map fun source => Name.moduleFile source.name).Nodup :=
    hnames.modules.sublist (List.filter_sublist.map _)
  obtain ⟨v, hwrote, hleaves⟩ := generateAll_of_lookup hfetch hfiles hdistinct
    (FileTree.lookup_of_ensureDirectory hmade)
    fun source _ => by
      have hempty := hscans.empty
      unfold modulePlace at hempty
      rw [hempty]
      exact List.not_mem_nil
  refine ⟨v, hwrote, ?_⟩
  rw [← generateAll_of_made hfetch hfiles hmade hrows.someRows] at hleaves
  unfold generateEnums generateOpened
  rw [if_neg (by simpa using hrows.sources_ne_nil), hmask]
  dsimp only
  rw [hconnect]
  exact hleaves

/-- After the first step the target still is the text of the directory. -/
theorem lookup_after (hscans : c.ScansModules imp opened) {text : String}
    (htargets : c.targets = [text])
    (hwrote : WroteModules rows (c.modulePlace imp) (written rows c.sources)
      (c.moduleTree imp opened) v) :
    Text.trim text = text ∧ text ≠ "" ∧ ¬(Path.ofString text).LeadsHome ∧
      v.lookup imp.environment.workingDirectory (.ofString text) =
        .ok (c.modulePlace imp, some .directory) := by
  obtain ⟨other, hother, htrim, hne, hhome, hlookup⟩ := hscans.target
  rw [htargets] at hother
  obtain rfl := List.singleton_inj.1 hother
  refine ⟨htrim, hne, hhome, ?_⟩
  rw [FileTree.lookup_of_keepsDirectories hwrote.extended.keepsDirectories hlookup,
    hwrote.extended _ _ (FileTree.lookup_eq_ok hlookup).2.symm]

/-- It names the directory unless the absolute path is too long. -/
theorem finds_after (hscans : c.ScansModules imp opened) {text : String}
    (htargets : c.targets = [text]) (hfits : (Path.ofLocation (c.modulePlace imp)).fits = true)
    (hwrote : WroteModules rows (c.modulePlace imp) (written rows c.sources)
      (c.moduleTree imp opened) v) :
    { imp with files := v }.Finds text
      { text, kind := .directory, origin := .place (c.modulePlace imp) } := by
  obtain ⟨htrim, hne, hhome, hlookup⟩ := lookup_after hscans htargets hwrote
  exact Importer.finds_directory htrim hne (hwrote.proper (isProper_moduleTree hscans)) hhome hfits
    hlookup

/-- The modules that enum modules import are there from the start. -/
theorem knowsEnums_of_marker (h : "typegen.markers" ∈ imp.installed) : imp.KnowsEnums .empty := by
  intro n hn
  have hloaded : imp.isLoaded n = true := by
    unfold Importer.isLoaded
    rw [Bool.or_eq_true]
    rcases List.mem_cons.1 hn with rfl | hn
    · exact .inl (by decide)
    · rw [List.mem_singleton.1 hn]
      exact .inr (List.contains_iff_mem.2 h)
  show (if imp.isLoaded n then some (ModuleHandle.outside n) else none) = _
  rw [if_pos hloaded]

/-- The modules stand aside from the way of the target enums, so the first step changes nothing
there. -/
theorem agreesOn_after
    (hwrote : WroteModules rows (c.modulePlace imp) (written rows c.sources)
      (c.moduleTree imp opened) v)
    (haside : ∀ source ∈ written rows c.sources,
      c.modulePlace imp ++ [Name.moduleFile source.name] ∉
        (Path.ofString c.enumDirectory).way imp.environment.workingDirectory) :
    FileTree.AgreesOn ((Path.ofString c.enumDirectory).way imp.environment.workingDirectory)
      (c.moduleTree imp opened) v := by
  intro l hl
  refine (hwrote.kept l ?_).symm
  rintro source hsource rfl
  exact haside source hsource hl

/-- Once the modules are written and the directory is made, every target enum can be written. -/
theorem fitsEnum_after (hnames : c.NamesSources) (htakes : c.TakesTargets imp opened rows)
    (hwrote : WroteModules rows (c.modulePlace imp) (written rows c.sources)
      (c.moduleTree imp opened) v)
    (hmade : v.ensureDirectory imp.environment.workingDirectory (.ofString c.enumDirectory) =
      (u, none)) (h : source ∈ c.exported imp rows) :
    Universe.FitsEnum u (.ofString c.enumDirectory) (c.enumPlace imp) source where
  word := hnames.words source (mem_sources_of_written (mem_written_of_exported h))
  short := htakes.names source h
  fits := htakes.paths source h
  free hdirectory := by
    have hthere := ensureDirectory_enumTree htakes
    have hfree := htakes.free source h
    generalize c.enumPlace imp ++ [Name.fileBase source.name ++ fileExtension] = k
      at hdirectory hfree
    by_cases hway : k ∈ (Path.ofString c.enumDirectory).way imp.environment.workingDirectory
    · exact hfree (FileTree.find?_of_mem_way (FileTree.lookup_of_ensureDirectory hthere) hway)
    · rw [FileTree.find?_of_not_mem_way hmade hway] at hdirectory
      rw [FileTree.find?_of_not_mem_way hthere hway] at hfree
      by_cases hmodule : ∃ other ∈ written rows c.sources,
          k = c.modulePlace imp ++ [Name.moduleFile other.name]
      · obtain ⟨other, hother, rfl⟩ := hmodule
        rw [hwrote.files other hother] at hdirectory
        cases hdirectory
      · rw [hwrote.kept k fun other hother heq => hmodule ⟨other, hother, heq⟩] at hdirectory
        exact hfree hdirectory

/-- The file system takes the target enums exactly if, after the first step, their directory can be
made and they fit into it. -/
theorem takesTargets_iff (hnames : c.NamesSources)
    (hwrote : WroteModules rows (c.modulePlace imp) (written rows c.sources)
      (c.moduleTree imp opened) v) :
    c.TakesTargets imp opened rows ↔
      ∃ u, v.ensureDirectory imp.environment.workingDirectory (.ofString c.enumDirectory) =
          (u, none) ∧
        ∀ source ∈ c.exported imp rows,
          Universe.FitsEnum u (.ofString c.enumDirectory) (c.enumPlace imp) source := by
  constructor
  · intro htakes
    obtain ⟨u, hmade⟩ := FileTree.ensureDirectory_of_agreesOn (agreesOn_after hwrote htakes.aside)
      (ensureDirectory_enumTree htakes)
    exact ⟨u, hmade, fun source hsource => fitsEnum_after hnames htakes hwrote hmade hsource⟩
  · rintro ⟨u, hmade, hfits⟩
    have hextended : v.IsExtendedBy u := by
      have hextended := FileTree.ensureDirectory_isExtendedBy v imp.environment.workingDirectory
        (.ofString c.enumDirectory)
      rwa [hmade] at hextended
    have hway : ∀ l ∈ (Path.ofString c.enumDirectory).way imp.environment.workingDirectory,
        u.find? l = some .directory :=
      fun l hl => FileTree.find?_of_mem_way (FileTree.lookup_of_ensureDirectory hmade) hl
    have haside : ∀ source ∈ written rows c.sources,
        c.modulePlace imp ++ [Name.moduleFile source.name] ∉
          (Path.ofString c.enumDirectory).way imp.environment.workingDirectory := by
      intro source hsource hl
      have hfile := hextended _ _ (hwrote.files source hsource)
      rw [hway _ hl] at hfile
      cases hfile
    obtain ⟨w, hthere⟩ :=
      FileTree.ensureDirectory_of_agreesOn (agreesOn_after hwrote haside).symm hmade
    refine ⟨fun source hsource => (hfits source hsource).short,
      fun source hsource => (hfits source hsource).fits, congrArg Prod.snd hthere, haside,
      fun source hsource hdirectory => (hfits source hsource).free ?_⟩
    generalize c.enumPlace imp ++ [Name.fileBase source.name ++ fileExtension] = k at hdirectory ⊢
    by_cases hk : k ∈ (Path.ofString c.enumDirectory).way imp.environment.workingDirectory
    · exact hway k hk
    · have htree : c.enumTree imp opened = w := congrArg Prod.fst hthere
      rw [htree, FileTree.find?_of_not_mem_way hthere hk] at hdirectory
      exact hextended k _ (hwrote.extended k _ hdirectory)

end Config

end TypeExport

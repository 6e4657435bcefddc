import TypeExport.Proofs.Action
import TypeExport.Proofs.Config.Accepted
import TypeExport.Proofs.Lookup.FailingSource
import TypeExport.Proofs.Run.FailingRun

/-!
# Blank directories

A review takes a blank directory of the lookup enums for none, and says that no enum will be
generated.  The lookups take the text as it is: the empty one names the working directory, and any
other blank text names a directory of its own there.
-/

/-!
## Modules in the standard directory

The sources without a directory of their own have their modules in the standard one, whatever it is
called.  After the lookups a path to it leads to a directory, and the tree is as proper as before they
were written.
-/

namespace TypeExport

namespace FileTree

variable {κ : Type} {t u : FileTree κ} {cwd l : Location} {d p : Path} {name : String}

/-- A path to an entry leads through its directory. -/
theorem lookup_of_lookup_join {e : Option (Entry κ)} (hname : Path.IsPlain name)
    (h : t.lookup cwd (d.join (.ofString name)) = .ok (l, e)) :
    t.lookup cwd d = .ok (d.locate cwd, some .directory) := by
  obtain ⟨husable, hfollow, -⟩ := follow_of_lookup h
  have hfits := Path.fits_of_fits_join hname husable.fits
  have hnull := husable.noNull
  rw [Path.join_of_isPlain d hname] at hnull hfollow
  have hnone : FileTree.hasNull d = false := by
    unfold FileTree.hasNull at hnull ⊢
    rw [List.any_append, Bool.or_eq_false_iff] at hnull
    exact hnull.1
  rw [follow_append, bind_eq_ok_iff] at hfollow
  obtain ⟨m, hm, hlast⟩ := hfollow
  have hlookup := lookup_of_follow ⟨hnone, hfits⟩ hm
  rw [(isDirectory_of_follow hlast).1, (lookup_eq_ok hlookup).1] at hlookup
  exact hlookup

theorem IsProper.writeFile {c : κ} (h : t.IsProper) (hcwd : t.find? cwd = some .directory)
    (hwrite : t.writeFile cwd p c = (u, none)) : u.IsProper := by
  unfold FileTree.writeFile at hwrite
  split at hwrite
  · cases hwrite
  · cases hwrite
  · rename_i l e hdirectory hl
    cases hwrite
    refine h.insert_lookup hcwd hl ?_ _
    obtain ⟨-, rfl⟩ := lookup_eq_ok hl
    exact fun hd => hdirectory hd

/-- Whatever is made and written, the tree is proper and has the working directory. -/
def StaysProper (cwd : Location) (_made : List Path) (_writes : List (Path × κ))
    (t : FileTree κ) : Prop :=
  t.IsProper ∧ t.find? cwd = some .directory

/-- Making directories and writing files keep a tree proper. -/
theorem keepsUp_staysProper (cwd : Location) :
    KeepsUp cwd fun made writes (t : FileTree κ) => StaysProper cwd made writes t where
  make _ _ t u p h hmade := by
    have hproper := h.1.ensureDirectory h.2 p
    have hcwd := ensureDirectory_isExtendedBy t cwd p _ _ h.2
    rw [hmade] at hproper hcwd
    exact ⟨hproper, hcwd⟩
  output _ _ t u p c h hwrite := by
    obtain ⟨v, hmade, hwritten⟩ := writeOutput_eq_ok hwrite
    have hproper := h.1.ensureDirectory h.2 p.parent
    have hcwd := ensureDirectory_isExtendedBy t cwd p.parent _ _ h.2
    rw [hmade] at hproper hcwd
    exact ⟨hproper.writeFile hcwd hwritten, (writeOutput_wrote hwrite).keepsDirectories cwd h.2⟩

end FileTree

namespace EnumSource

open FileTree

variable {databases : Databases} {cwd : Location} {connection standard : String}
  {source : EnumSource String} {sources : List (EnumSource String)} {files opened : FileTree Content}
  {fetch : Fetch}

/-- The place of a module in the standard directory. -/
theorem place_of_standard (cwd : Location) (standard : String)
    (hname : Name.isIdentifier source.name = true)
    (hstandard : source.outputDirectory.getD "" = "") :
    source.place cwd standard =
      (Path.ofString standard).locate cwd ++ [Name.moduleFile source.name] := by
  unfold place
  rw [filePath_of_standard hstandard]
  exact Path.locate_join_of_isPlain _ _ (Name.isPlain_moduleFile_of_slash
    (Name.not_mem_of_isIdentifier hname (by decide) (by decide)))

section Written

variable (h : Opens databases cwd connection files sources opened fetch)
  (hwrites : ∀ cause, (generateEnums databases cwd connection standard sources files).result ≠
    .error (.write cause))

include h hwrites

/-- The lookups leave a tree as proper as it was with the connection open, also when a query fails. -/
theorem Opens.isProper_generateEnums (hproper : opened.IsProper)
    (hcwd : opened.find? cwd = some .directory) :
    (generateEnums databases cwd connection standard sources files).files.IsProper := by
  obtain ⟨hfiles, hresult⟩ := h.generateEnums_eq standard
  rw [hresult] at hwrites
  rw [hfiles]
  have hopened : StaysProper cwd [] [] opened := ⟨hproper, hcwd⟩
  exact (generateAll_of_answered [] (keepsUp_staysProper cwd) hwrites hopened).1.1

/-- The path of a source that was written leads to the module of the last source that shares the
place. -/
theorem Opens.lookup_module
    (hsource : source ∈ written (fetched fetch) (answered fetch sources)) :
    ∃ last ∈ written (fetched fetch) (answered fetch sources),
      last.place cwd standard = source.place cwd standard ∧
      (generateEnums databases cwd connection standard sources files).files.lookup cwd
        (source.filePath standard) = .ok (source.place cwd standard,
          some (.file (.text (last.moduleText (fetched fetch last))))) := by
  obtain ⟨hfiles, hresult⟩ := h.generateEnums_eq standard
  rw [hresult] at hwrites
  obtain ⟨hreflects, -, -⟩ := generateAll_of_answered [] (keepsUp_reflects cwd) hwrites
    (Reflects.nil opened)
  have hwrite : (source.filePath standard,
      (TextContent.ofText (source.moduleText (fetched fetch source)) : Content)) ∈
        [] ++ moduleWrites Content standard (fetched fetch) (answered fetch sources) :=
    List.mem_map_of_mem hsource
  obtain ⟨content, hlast, hlookup⟩ := hreflects _ _ hwrite
  obtain ⟨p, hp, hplace⟩ := mem_of_lastAt hlast
  obtain ⟨last, hmem, heq⟩ := List.mem_map.1 hp
  obtain ⟨rfl, rfl⟩ := Prod.mk.inj heq
  rw [hfiles]
  exact ⟨last, hmem, hplace, hlookup⟩

/-- Once a module is written to it, the standard directory is there. -/
theorem Opens.lookup_standard
    (hsource : source ∈ written (fetched fetch) (answered fetch sources))
    (hname : Name.isIdentifier source.name = true)
    (hstandard : source.outputDirectory.getD "" = "") :
    (generateEnums databases cwd connection standard sources files).files.lookup cwd
        (.ofString standard) =
      .ok ((Path.ofString standard).locate cwd, some .directory) := by
  obtain ⟨last, -, -, hlookup⟩ := h.lookup_module hwrites hsource
  rw [filePath_of_standard hstandard] at hlookup
  exact lookup_of_lookup_join (Name.isPlain_moduleFile_of_slash
    (Name.not_mem_of_isIdentifier hname (by decide) (by decide))) hlookup

end Written

end EnumSource

end TypeExport

/-!
## Blank texts
-/

namespace TypeExport

theorem Text.not_mem_of_allBlank {s : String} {c : Char} (h : allBlank s = true)
    (hc : blankChar c = false) : c ∉ s.toList := by
  intro hmem
  rw [List.all_eq_true.1 h c hmem] at hc
  cases hc

namespace Path

variable {text : String}

theorem isPlain_of_allBlank (h : Text.allBlank text = true) (hne : text ≠ "") : IsPlain text where
  noSlash := Text.not_mem_of_allBlank h (by decide)
  nonempty := hne
  notSame := by
    rintro rfl
    revert h
    decide
  notParent := by
    rintro rfl
    revert h
    decide

/-- Where a blank path leads. -/
theorem locate_of_allBlank (cwd : Location) (h : Text.allBlank text = true) :
    (ofString text).locate cwd = if text = "" then cwd else cwd ++ [text] := by
  by_cases hempty : text = ""
  · rw [if_pos hempty, hempty]
    rfl
  · have hplain := isPlain_of_allBlank h hempty
    rw [if_neg hempty, ofString_of_isPlain hplain]
    unfold locate
    rw [List.foldl_cons, List.foldl_nil, step, if_neg hplain.notParent]
    rfl

end Path

namespace Config

open EnumSource

variable {imp : Importer} {c : Config CodeText} {run : Config String} {opened : FileTree Content}
  {fetch : Fetch}

/-- The review of a configuration with sources and a blank directory says so. -/
theorem noModuleDirectory_mem_remarks {κ : Type} {env : Environment} {files : FileTree κ}
    {review : Review} (hsources : c.sources ≠ []) (hblank : isBlank c.moduleDirectory = true)
    (h : c.review env files = .ok review) : .noModuleDirectory ∈ review.remarks := by
  obtain ⟨sources, targets, hreview, -, more, hremarks⟩ := of_review h
  rw [hremarks, (of_reviewSources hsources hreview).2 hblank]
  exact List.mem_append_left _ List.mem_cons_self

/-- With a blank directory the review of an accepted configuration says that no lookup enums will be
generated.  They are: the blank text is a directory, the paths of all sources with rows are returned,
and for each of these before the first failing query that has no directory of its own, there is a
module in it. -/
theorem blank_directory_gets_modules (haccepted : c.IsAccepted imp.environment imp.files)
    (hrun : c.map? CodeText.toString? = some run) (hsources : c.sources ≠ [])
    (hblank : isBlank c.moduleDirectory = true)
    (hopens : Opens imp.databases imp.environment.workingDirectory run.connection imp.files
      run.sources opened fetch)
    (hwrites : ∀ cause, (run.lookups imp).result ≠ .error (.write cause)) :
    (∀ review, c.review imp.environment imp.files = .ok review →
      .noModuleDirectory ∈ review.remarks) ∧
    run.modulePlace imp = (if run.moduleDirectory = "" then imp.environment.workingDirectory
      else imp.environment.workingDirectory ++ [run.moduleDirectory]) ∧
    (∀ paths, (run.lookups imp).result = .ok paths →
      paths = (written (fetched fetch) run.sources).map
        (EnumSource.filePath run.moduleDirectory)) ∧
    ∀ source ∈ written (fetched fetch) (answered fetch run.sources),
      source.outputDirectory.getD "" = "" →
      source.filePath run.moduleDirectory =
        (Path.ofString run.moduleDirectory).join (.ofString (Name.moduleFile source.name)) ∧
      ∃ last ∈ written (fetched fetch) (answered fetch run.sources),
        (run.lookups imp).files.find? (run.modulePlace imp ++ [Name.moduleFile source.name]) =
          some (.file (.text (last.moduleText (fetched fetch last)))) := by
  have hdirectory : Text.allBlank run.moduleDirectory = true := by
    rw [← isBlank_ofString, ← CodeText.toString?_eq_some_iff.1 (texts_of_map? hrun).1]
    exact hblank
  refine ⟨fun review => noModuleDirectory_mem_remarks hsources hblank,
    Path.locate_of_allBlank _ hdirectory, fun paths hpaths => ?_, fun source hsource hstandard => ?_⟩
  · obtain ⟨-, hresult⟩ := hopens.generateEnums_eq run.moduleDirectory
    exact (reflects_generateAll (hresult ▸ hpaths)).2.1
  · have hmem : source ∈ run.sources :=
      List.takeWhile_subset _ (List.mem_of_mem_filter hsource)
    obtain ⟨last, hlast, -, hlookup⟩ := hopens.lookup_module hwrites hsource
    refine ⟨filePath_of_standard hstandard _, last, hlast, ?_⟩
    have hplace : run.modulePlace imp ++ [Name.moduleFile source.name] =
        source.place imp.environment.workingDirectory run.moduleDirectory :=
      (place_of_standard _ _ (haccepted.isIdentifier hrun source hmem) hstandard).symm
    rw [hplace]
    exact (FileTree.lookup_eq_ok hlookup).2.symm

/-- A configuration of the kinds in a database, spelled with texts of some type. -/
def kindTexts {τ : Type} (text : String → τ) (directory : String) (targets : List String) :
    Config τ where
  connection := text "sqlite:///app.db"
  targets := targets.map text
  interfaceDirectory := text "models"
  enumDirectory := text "ts"
  moduleDirectory := text directory
  sources := [{
    table := text "kinds"
    keyColumn := text "id"
    labelColumn := text "name"
    name := text "BookKind"
    outputDirectory := none }]
  manifests := false
  camelCaseKeys := true
  header := false
  dropNavigation := true
  inlineNested := true
  keepIgnored := true
  typeMappings := []

theorem isAccepted_of_faults {κ : Type} {env : Environment} {files : FileTree κ}
    (h : (c.review env files).toOption.map (·.faults) = some []) : c.IsAccepted env files := by
  cases hreview : c.review env files with
  | error e =>
    rw [hreview] at h
    cases h
  | ok review =>
    rw [hreview] at h
    exact ⟨review, hreview, Option.some.inj h⟩

theorem written_kindTexts (directory : String) (targets : List String) :
    written (fetched (Connection.database kindDatabase).fetch)
      (answered (Connection.database kindDatabase).fetch (kindTexts id directory targets).sources) =
        [kindSource "BookKind"] := by
  show written (fetched (Connection.database kindDatabase).fetch)
    (answered (Connection.database kindDatabase).fetch [kindSource "BookKind"]) = _
  decide +kernel

/-- The module of the kinds stands in the working directory. -/
theorem kinds_in_working_directory :
    (kindTexts CodeText.ofString "" []).IsAccepted kindImporter.environment kindImporter.files ∧
    (∀ review, (kindTexts CodeText.ofString "" []).review kindImporter.environment
      kindImporter.files = .ok review → .noModuleDirectory ∈ review.remarks) ∧
    ∃ text, ((kindTexts id "" []).lookups kindImporter).files.find? ["book_kind.py"] =
      some (.file (.text text)) := by
  have haccepted : (kindTexts CodeText.ofString "" []).IsAccepted kindImporter.environment
      kindImporter.files := isAccepted_of_faults (by decide +kernel)
  have hrun : (kindTexts CodeText.ofString "" []).map? CodeText.toString? =
      some (kindTexts id "" []) := by
    decide +kernel
  have hopens : Opens kindImporter.databases kindImporter.environment.workingDirectory
      (kindTexts id "" []).connection kindImporter.files (kindTexts id "" []).sources
      kindImporter.files (Connection.database kindDatabase).fetch :=
    opens_kindImporter rfl (List.cons_ne_nil _ _)
  have hwrites : ∀ cause, ((kindTexts id "" []).lookups kindImporter).result ≠
      .error (.write cause) := by
    intro cause heq
    have hok : ((kindTexts id "" []).lookups kindImporter).result.toOption.isSome = true := by
      decide +kernel
    rw [heq] at hok
    cases hok
  obtain ⟨hremark, hplace, -, hmodules⟩ := blank_directory_gets_modules haccepted hrun
    (List.cons_ne_nil _ _) rfl hopens hwrites
  rw [written_kindTexts] at hmodules
  obtain ⟨-, last, -, hfile⟩ := hmodules (kindSource "BookKind") List.mem_cons_self rfl
  have hlocation : (kindTexts id "" []).modulePlace kindImporter ++
      [Name.moduleFile (kindSource "BookKind").name] = ["book_kind.py"] := by
    rw [hplace]
    decide +kernel
  rw [hlocation] at hfile
  exact ⟨haccepted, hremark, _, hfile⟩

end Config

end TypeExport

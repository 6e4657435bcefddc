import TypeExport.Name.Keyword
import TypeExport.Proofs.File.PlainName
import TypeExport.Proofs.File.Sequence
import TypeExport.Proofs.Lookup.EnumFiles
import TypeExport.Proofs.Source.EnumText
import TypeExport.Proofs.Text.LowerCase

/-!
# Enums that share a file

The file of a source is named for its enum in snake case, and different names can have one snake
case, such as `UserRole` and `User_Role`.  Sources are written one after the other, so the module of
a source is lost exactly when a later source with rows has the same directory and the same snake
case.  The paths that are returned name such a file twice.
-/

namespace TypeExport

namespace Name

/-- An identifier holds only characters that start or continue one. -/
theorem not_mem_of_isIdentifier {name : String} (h : isIdentifier name = true) {c : Char}
    (hstart : Text.startsIdentifier c.toNat = false)
    (hcontinue : Text.continuesIdentifier c.toNat = false) : c ∉ name.toList := by
  intro hc
  unfold isIdentifier at h
  cases hname : name.toList with
  | nil =>
    rw [hname] at hc
    exact List.not_mem_nil hc
  | cons first rest =>
    rw [hname] at h hc
    rw [List.map_cons, Text.isIdentifier, Bool.and_eq_true, List.all_map, List.all_eq_true] at h
    rcases List.mem_cons.1 hc with rfl | hc
    · rw [hstart] at h
      cases h.1
    · have hthis := h.2 c hc
      rw [Function.comp_apply, hcontinue] at hthis
      cases hthis

theorem slash_not_mem_moduleFile {name : String} (h : '/' ∉ name.toList) :
    '/' ∉ (moduleFile name).toList := by
  unfold moduleFile Text.lower
  rw [String.toList_append, List.mem_append, not_or, String.toList_ofList, String.toList_ofList]
  refine ⟨Text.not_mem_lowerFrom (by decide) fun hslash => ?_, by decide⟩
  rcases mem_partWords hslash with hslash | hslash
  · rcases mem_partAcronyms hslash with hslash | hslash
    · exact h hslash
    · cases hslash
  · cases hslash

/-- The file of an enum has a plain name if the enum has. -/
theorem isPlain_moduleFile_of_slash {name : String} (h : '/' ∉ name.toList) :
    Path.IsPlain (moduleFile name) := by
  have hlast : (moduleFile name).toList.getLast? = some 'y' := by
    simp [moduleFile, String.toList_append]
  refine ⟨slash_not_mem_moduleFile h, ?_, ?_, ?_⟩
  all_goals
    refine toList_ne_of_getLast ?_
    rw [hlast]
    decide

end Name

namespace EnumSource

open FileTree

/-- The text of a module up to the base of its class. -/
def frontText : List Char :=
  ["# <auto-generated />", "# Changes to this file may be overwritten.", ""].flatMap
    (fun line => line.toList ++ ['\n']) ++ "from enum import ".toList

/-- The text between the base of the class and its name. -/
def middleText : List Char :=
  '\n' :: ["", "from typegen.markers import export_to_ts", "", "", "@export_to_ts"].flatMap
    (fun line => line.toList ++ ['\n']) ++ "class ".toList

theorem toList_moduleText (source : EnumSource String) (rows : List Row) :
    ∃ rest, (source.moduleText rows).toList =
      frontText ++ ((baseOf rows).toList ++ (middleText ++ (source.name.toList ++ '(' :: rest))) := by
  unfold moduleText moduleLines moduleHead
  rw [toList_lines (by simp)]
  simp only [List.cons_append, List.flatMap_cons, List.append_assoc, String.toList_append]
  exact ⟨_, rfl⟩

theorem append_paren_inj {a b as bs : List Char} (ha : '(' ∉ a) (hb : '(' ∉ b)
    (h : a ++ '(' :: as = b ++ '(' :: bs) : a = b := by
  have hcut : ∀ {s rest : List Char}, '(' ∉ s → (s ++ '(' :: rest).takeWhile (· ≠ '(') = s := by
    intro s rest hs
    rw [List.takeWhile_append_of_pos]
    · simp
    · intro c hc
      simpa using fun heq : c = '(' => hs (heq ▸ hc)
  rw [← hcut ha, h, hcut hb]

/-- The name of the enum can be read off the text of its module. -/
theorem name_eq_of_moduleText {a b : EnumSource String} {as bs : List Row}
    (ha : '(' ∉ a.name.toList) (hb : '(' ∉ b.name.toList)
    (h : a.moduleText as = b.moduleText bs) : a.name = b.name := by
  obtain ⟨afterA, hA⟩ := toList_moduleText a as
  obtain ⟨afterB, hB⟩ := toList_moduleText b bs
  rw [h, hB] at hA
  have htail := List.append_cancel_left hA
  have hbase : (baseOf bs).toList = (baseOf as).toList := by
    rcases baseOf_cases as with has | has <;> rcases baseOf_cases bs with hbs | hbs <;>
      rw [has, hbs] at htail ⊢
    · -- the bases begin with different letters
      cases (List.cons.inj htail).1
    · cases (List.cons.inj htail).1
  rw [hbase] at htail
  have hname := List.append_cancel_left (List.append_cancel_left htail)
  exact (String.toList_inj.1 (append_paren_inj hb ha hname)).symm

variable {κ : Type} [TextContent κ] {cwd : Location} {standard : String}
  {sources : List (EnumSource String)} {fetch : Fetch} {files : FileTree κ}
  {ds : List Path} {ws : List (Path × κ)} {P : List Path → List (Path × κ) → FileTree κ → Prop}

def directory (standard : String) (source : EnumSource String) : Path :=
  .ofString (match source.outputDirectory with
    | none | some "" => standard
    | some directory => directory)

def place (cwd : Location) (standard : String) (source : EnumSource String) : Location :=
  (source.filePath standard).locate cwd

theorem place_eq {source : EnumSource String} (h : '/' ∉ source.name.toList) :
    source.place cwd standard =
      (source.directory standard).locate cwd ++ [Name.moduleFile source.name] :=
  Path.locate_join_of_isPlain cwd _ (Name.isPlain_moduleFile_of_slash h)

/-- Two sources have one file: one directory and one snake case of their names. -/
structure SharesFile (cwd : Location) (standard : String) (a b : EnumSource String) : Prop where
  directory : (a.directory standard).locate cwd = (b.directory standard).locate cwd
  file : Name.moduleFile a.name = Name.moduleFile b.name

theorem place_eq_iff {a b : EnumSource String} (ha : '/' ∉ a.name.toList)
    (hb : '/' ∉ b.name.toList) :
    a.place cwd standard = b.place cwd standard ↔ SharesFile cwd standard a b := by
  rw [place_eq ha, place_eq hb]
  constructor
  · intro h
    obtain ⟨hdirectory, hfile⟩ := List.append_inj' h (by simp only [List.length_singleton])
    exact ⟨hdirectory, List.singleton_inj.1 hfile⟩
  · rintro ⟨hdirectory, hfile⟩
    rw [hdirectory, hfile]

/-- The rows that a query gives; a query that fails gives none. -/
def fetched (fetch : Fetch) (source : EnumSource String) : List Row :=
  (fetch source).toOption.getD []

/-- The modules of the sources with rows, in the order in which they are written. -/
def moduleWrites (κ : Type) [TextContent κ] (standard : String)
    (rows : EnumSource String → List Row) (sources : List (EnumSource String)) : List (Path × κ) :=
  (written rows sources).map fun source =>
    (source.filePath standard, TextContent.ofText (source.moduleText (rows source)))

theorem written_cons (rows : EnumSource String → List Row) (source : EnumSource String)
    (sources : List (EnumSource String)) :
    written rows (source :: sources) = written rows [source] ++ written rows sources := by
  unfold written
  rw [← List.singleton_append, List.filter_append]

theorem moduleWrites_cons (κ : Type) [TextContent κ] (standard : String)
    (rows : EnumSource String → List Row) (source : EnumSource String)
    (sources : List (EnumSource String)) :
    moduleWrites κ standard rows (source :: sources) =
      moduleWrites κ standard rows [source] ++ moduleWrites κ standard rows sources := by
  unfold moduleWrites
  rw [written_cons, List.map_append]

/-- A source whose query has an answer writes its module if there are rows. -/
theorem of_generateOne (hkeeps : KeepsUp cwd P) {source : EnumSource String} {paths : List Path}
    (h : (generateOne fetch cwd standard source files).result = .ok paths) (hP : P ds ws files) :
    fetch source = .ok (fetched fetch source) ∧
      paths = (written (fetched fetch) [source]).map (filePath standard) ∧
      P (ds ++ (moduleWrites κ standard (fetched fetch) [source]).map fun w => w.1.parent)
        (ws ++ moduleWrites κ standard (fetched fetch) [source])
        (generateOne fetch cwd standard source files).files := by
  unfold generateOne at h ⊢
  cases hfetch : fetch source with
  | error e =>
    rw [hfetch] at h
    cases h
  | ok rows =>
    have hrows : fetched fetch source = rows := by
      simp [fetched, hfetch, Except.toOption]
    rw [hfetch] at h
    dsimp only at h ⊢
    unfold writeModule at h ⊢
    unfold moduleWrites
    by_cases hempty : rows.isEmpty = true
    · have hnone : written (fetched fetch) [source] = [] := by simp [written, hrows, hempty]
      rw [if_pos hempty] at h ⊢
      cases h
      rw [hnone, hrows]
      simpa using hP
    · have hone : written (fetched fetch) [source] = [source] := by simp [written, hrows, hempty]
      rw [if_neg hempty] at h ⊢
      dsimp only at h ⊢
      cases hwrite : files.writeOutput cwd (source.filePath standard)
          (TextContent.ofText (source.moduleText rows)) with
      | mk t e =>
        rw [hwrite] at h
        cases e with
        | some e => cases h
        | none =>
          cases h
          simp only [hone, hrows, List.map_cons, List.map_nil, true_and]
          exact hkeeps.output _ _ _ _ _ _ hP hwrite

/-- A run over sources that succeeds has had an answer to every query, and has written the modules of
those with rows. -/
theorem of_generateAll (ds : List Path) (hkeeps : KeepsUp cwd P) {paths : List Path}
    (h : (generateAll fetch cwd standard sources files).result = .ok paths) (hP : P ds ws files) :
    (∀ source ∈ sources, fetch source = .ok (fetched fetch source)) ∧
      paths = (written (fetched fetch) sources).map (filePath standard) ∧
      P (ds ++ (moduleWrites κ standard (fetched fetch) sources).map fun w => w.1.parent)
        (ws ++ moduleWrites κ standard (fetched fetch) sources)
        (generateAll fetch cwd standard sources files).files := by
  induction sources generalizing files ds ws paths with
  | nil =>
    cases h
    refine ⟨fun source hsource => (List.not_mem_nil hsource).elim, rfl, ?_⟩
    simpa [generateAll, moduleWrites, written] using hP
  | cons source sources ih =>
    rw [generateAll] at h ⊢
    cases hfirst : (generateOne fetch cwd standard source files).result with
    | error e =>
      rw [hfirst] at h
      cases h
    | ok first =>
      obtain ⟨hfetch, rfl, hone⟩ := of_generateOne hkeeps hfirst hP
      rw [hfirst] at h
      dsimp only at h ⊢
      cases hothers : (generateAll fetch cwd standard sources
          (generateOne fetch cwd standard source files).files).result with
      | error e =>
        rw [hothers] at h
        cases h
      | ok others =>
        obtain ⟨hfetches, rfl, hall⟩ := ih _ hothers hone
        rw [hothers] at h
        cases h
        refine ⟨fun s hs => ?_, ?_, ?_⟩
        · rcases List.mem_cons.1 hs with rfl | hs
          · exact hfetch
          · exact hfetches s hs
        · rw [written_cons _ source sources, List.map_append]
        · rw [moduleWrites_cons, List.map_append, ← List.append_assoc, ← List.append_assoc]
          exact hall

/-- The tree after a run that succeeds reflects the modules that it has written. -/
theorem reflects_generateAll {paths : List Path}
    (h : (generateAll fetch cwd standard sources files).result = .ok paths) :
    (∀ source ∈ sources, fetch source = .ok (fetched fetch source)) ∧
      paths = (written (fetched fetch) sources).map (filePath standard) ∧
      (generateAll fetch cwd standard sources files).files.Reflects cwd
        (moduleWrites κ standard (fetched fetch) sources) :=
  of_generateAll [] (keepsUp_reflects cwd) h (Reflects.nil files)

/-- After a run over sources that succeeds, the files of the modules have names and paths that the file
system takes. -/
theorem fits_of_generateAll {files : FileTree κ} {rows : EnumSource String → List Row}
    (hwords : ∀ source ∈ sources, IsAsciiWord source.name.toList)
    (hfetch : ∀ source ∈ sources, fetch source = .ok (rows source)) {paths : List Path}
    (hok : (generateAll fetch cwd standard sources files).result = .ok paths) :
    ∀ source ∈ written rows sources, (Name.moduleFile source.name).utf8ByteSize ≤ nameLimit ∧
      (source.filePath standard).fits = true := by
  obtain ⟨-, -, hreflects⟩ := reflects_generateAll hok
  intro source hsource
  obtain ⟨hmem, hsome⟩ := List.mem_filter.1 hsource
  have hrows : fetched fetch source = rows source := by
    simp [fetched, hfetch source hmem, Except.toOption]
  have hwritten : source ∈ written (fetched fetch) sources :=
    List.mem_filter.2 ⟨hmem, by rw [hrows]; exact hsome⟩
  obtain ⟨content, -, hread⟩ := hreflects.read (List.mem_map_of_mem hwritten)
  obtain ⟨hshort, hfits, -⟩ := found_of_read (Name.isPlain_moduleFile (hwords source hmem)) hread
  exact ⟨hshort, hfits⟩

/-- The module at the place of a source is that of the last source that shares its file.  It is its
own text exactly when no later source does. -/
theorem lastAt_moduleWrites (κ : Type) [TextContent κ] (cwd : Location) (standard : String)
    {rows : EnumSource String → List Row} {earlier later : List (EnumSource String)}
    {source : EnumSource String} (hname : Name.isIdentifier source.name = true)
    (hnames : ∀ s ∈ later, Name.isIdentifier s.name = true)
    (hdistinct : ∀ s ∈ later, s.name ≠ source.name)
    (hwritten : written rows sources = earlier ++ source :: later) :
    ∃ last ∈ source :: later, SharesFile cwd standard last source ∧
      lastAt cwd (moduleWrites κ standard rows sources) (source.place cwd standard) =
        some (TextContent.ofText (last.moduleText (rows last))) ∧
      (last.moduleText (rows last) = source.moduleText (rows source) ↔
        ∀ other ∈ later, ¬SharesFile cwd standard other source) := by
  have hslash : ∀ {s : EnumSource String}, Name.isIdentifier s.name = true → '/' ∉ s.name.toList :=
    fun h => Name.not_mem_of_isIdentifier h (by decide) (by decide)
  have hparen : ∀ {s : EnumSource String}, Name.isIdentifier s.name = true → '(' ∉ s.name.toList :=
    fun h => Name.not_mem_of_isIdentifier h (by decide) (by decide)
  have hshares : ∀ s ∈ later, s.place cwd standard = source.place cwd standard ↔
      SharesFile cwd standard s source :=
    fun s hs => place_eq_iff (hslash (hnames s hs)) (hslash hname)
  unfold moduleWrites
  rw [hwritten, List.map_append, List.map_cons, lastAt_append, lastAt]
  generalize hwrites : (later.map fun s =>
    (s.filePath standard, (TextContent.ofText (s.moduleText (rows s)) : κ))) = writes
  cases hlater : lastAt cwd writes (source.place cwd standard) with
  | some c =>
    -- a later source shares the file, and its module differs in the name of the class
    obtain ⟨p, hp, hplace⟩ := mem_of_lastAt hlater
    rw [← hwrites] at hp
    obtain ⟨last, hlast, hwrite⟩ := List.mem_map.1 hp
    obtain ⟨rfl, rfl⟩ := Prod.mk.inj hwrite
    have hshared := (hshares last hlast).1 hplace
    refine ⟨last, List.mem_cons_of_mem _ hlast, hshared, Option.some_or, fun htext => ?_,
      fun hnone => absurd hshared (hnone last hlast)⟩
    exact absurd (name_eq_of_moduleText (hparen (hnames last hlast)) (hparen hname) htext)
      (hdistinct last hlast)
  | none =>
    refine ⟨source, List.mem_cons_self, ⟨rfl, rfl⟩, ?_, fun _ other hother hshared => ?_,
      fun _ => rfl⟩
    · unfold place
      rw [if_pos rfl, Option.some_or]
    · have hmem : (other.filePath standard,
          (TextContent.ofText (other.moduleText (rows other)) : κ)) ∈ writes :=
        hwrites ▸ List.mem_map_of_mem hother
      obtain ⟨c, hc⟩ : ∃ c, lastAt cwd writes (other.place cwd standard) = some c :=
        lastAt_isSome hmem
      rw [(hshares other hother).2 hshared, hlater] at hc
      cases hc

/-- After a run over sources that succeeds, with enums of different names and whatever databases there
are, the paths of the sources with rows are returned.  Each of them leads to the module of the last
source that shares the file, and that is the source's own module exactly when no later source with
rows shares the file. -/
theorem moduleFile_survives_iff (databases : Databases) (cwd : Location)
    (connection standard : String)
    (sources : List (EnumSource String)) (files : FileTree Content)
    (hnames : ∀ source ∈ sources, Name.isIdentifier source.name = true)
    (hdistinct : (sources.map (·.name)).Nodup) {paths : List Path}
    (hok : (generateEnums databases cwd connection standard sources files).result = .ok paths) :
    ∃ rows : EnumSource String → List Row,
      (∀ source ∈ sources, ∃ masked opened fetch, Url.mask connection = .ok masked ∧
        databases.connect cwd files masked connection = (opened, .ok fetch) ∧
        fetch source = .ok (rows source)) ∧
      paths = (written rows sources).map (filePath standard) ∧
      ∀ earlier source later, written rows sources = earlier ++ source :: later →
        ∃ last ∈ source :: later, SharesFile cwd standard last source ∧
          (generateEnums databases cwd connection standard sources files).files.read cwd
            (source.filePath standard) = .ok (.text (last.moduleText (rows last))) ∧
          (last.moduleText (rows last) = source.moduleText (rows source) ↔
            ∀ other ∈ later, ¬SharesFile cwd standard other source) := by
  have hlater : ∀ {rows : EnumSource String → List Row} {earlier source later},
      written rows sources = earlier ++ source :: later →
      source ∈ sources ∧ (∀ s ∈ later, s ∈ sources ∧ s.name ≠ source.name) := by
    intro rows earlier source later hwritten
    have hsublist : (earlier ++ source :: later).Sublist sources :=
      hwritten ▸ List.filter_sublist
    have hapart := hdistinct.sublist ((List.sublist_append_right _ _).trans hsublist |>.map _)
    rw [List.map_cons, List.nodup_cons] at hapart
    refine ⟨hsublist.subset (by simp), fun s hs => ⟨hsublist.subset (by simp [hs]), fun hname => ?_⟩⟩
    exact hapart.1 (hname ▸ List.mem_map_of_mem hs)
  unfold generateEnums generateOpened at hok ⊢
  split at hok
  · rename_i hempty
    obtain rfl := List.isEmpty_iff.1 hempty
    cases hok
    refine ⟨fun _ => [], fun source hsource => (List.not_mem_nil hsource).elim, rfl, ?_⟩
    intro earlier source later hwritten
    exact (List.not_mem_nil (hlater hwritten).1).elim
  · rename_i hempty
    rw [if_neg hempty]
    cases hmask : Url.mask connection with
    | error e =>
      rw [hmask] at hok
      cases hok
    | ok masked =>
      simp only [hmask] at hok ⊢
      cases hconnect : databases.connect cwd files masked connection with
      | mk opened answers =>
        rw [hconnect] at hok
        cases answers with
        | error e => cases hok
        | ok fetch =>
          dsimp only at hok ⊢
          obtain ⟨hfetch, hpaths, hreflects⟩ := reflects_generateAll hok
          refine ⟨fetched fetch, fun source hsource => ⟨masked, opened, fetch, rfl, hconnect,
            hfetch source hsource⟩, hpaths, ?_⟩
          intro earlier source later hwritten
          obtain ⟨hsource, hothers⟩ := hlater hwritten
          obtain ⟨last, hmem, hshares, hlast, hiff⟩ := lastAt_moduleWrites Content cwd standard
            (hnames source hsource) (fun s hs => hnames s (hothers s hs).1)
            (fun s hs => (hothers s hs).2) hwritten
          have hwrite : (source.filePath standard,
              (TextContent.ofText (source.moduleText (fetched fetch source)) : Content)) ∈
                moduleWrites Content standard (fetched fetch) sources := by
            unfold moduleWrites
            rw [hwritten]
            exact List.mem_map_of_mem (List.mem_append_right _ List.mem_cons_self)
          obtain ⟨content, hcontent, hread⟩ := hreflects.read hwrite
          have hsame : content = .text (last.moduleText (fetched fetch last)) :=
            Option.some.inj (hcontent.symm.trans hlast)
          rw [hsame] at hread
          exact ⟨last, hmem, hshares, hread, hiff⟩

/-- A database with one role. -/
def roleFiles : FileTree Content where
  entries := [(["app.db"], .file (.database { tables := [{
    name := "roles"
    columns := [{ name := "id", affinity := .integer }, { name := "name", affinity := .text }]
    rows := [[.int 1, .text "Admin"]] }] } []))]

def roleSource (name : String) : EnumSource String where
  table := "roles"
  keyColumn := "id"
  labelColumn := "name"
  name := name
  outputDirectory := none

/-- The run over `UserRole` and `User_Role`. -/
def roleRun : LookupOutcome Content (List Path) :=
  generateEnums .inFiles [] "sqlite:///app.db" "enums"
    [roleSource "UserRole", roleSource "User_Role"] roleFiles

/-- The run succeeds, and the file of `UserRole` does not hold its module. -/
theorem userRole_is_lost :
    (∀ source ∈ [roleSource "UserRole", roleSource "User_Role"],
      Name.isIdentifier source.name = true) ∧
    ([roleSource "UserRole", roleSource "User_Role"].map (·.name)).Nodup ∧
    ∃ paths, roleRun.result = .ok paths ∧
      ∃ rows text, (∃ masked opened fetch, Url.mask "sqlite:///app.db" = .ok masked ∧
          Databases.inFiles.connect [] roleFiles masked "sqlite:///app.db" = (opened, .ok fetch) ∧
          fetch (roleSource "UserRole") = .ok rows) ∧
        roleRun.files.read [] ((roleSource "UserRole").filePath "enums") = .ok (.text text) ∧
        text ≠ (roleSource "UserRole").moduleText rows := by
  have hnames : ∀ source ∈ [roleSource "UserRole", roleSource "User_Role"],
      Name.isIdentifier source.name = true := by decide +kernel
  have hdistinct : ([roleSource "UserRole", roleSource "User_Role"].map (·.name)).Nodup := by
    decide +kernel
  have htwo : roleRun.result.toOption.map List.length = some 2 := by decide +kernel
  cases hok : roleRun.result with
  | error e =>
    rw [hok] at htwo
    cases htwo
  | ok paths =>
    obtain ⟨rows, hrows, hpaths, hsurvive⟩ :=
      moduleFile_survives_iff .inFiles [] "sqlite:///app.db" "enums" _ _ hnames hdistinct hok
    have hwritten : written rows [roleSource "UserRole", roleSource "User_Role"] =
        [roleSource "UserRole", roleSource "User_Role"] := by
      rw [hok, hpaths] at htwo
      have hlength : (written rows [roleSource "UserRole", roleSource "User_Role"]).length = 2 := by
        simpa [Except.toOption] using htwo
      exact List.filter_sublist.eq_of_length hlength
    obtain ⟨last, -, -, hread, hiff⟩ := hsurvive [] (roleSource "UserRole") _ hwritten
    refine ⟨hnames, hdistinct, paths, rfl, rows (roleSource "UserRole"), _,
      hrows _ List.mem_cons_self, hread, fun htext => ?_⟩
    exact hiff.1 htext (roleSource "User_Role") List.mem_cons_self ⟨rfl, by decide +kernel⟩

end EnumSource

end TypeExport

import TypeExport.Proofs.File.Effect
import TypeExport.Proofs.Generation.RootOrder
import TypeExport.Proofs.Generation.Survival
import TypeExport.Proofs.Text.LowerCase
import TypeExport.Proofs.Text.UniqueReading

/-!
# Manifests and the files they name

The manifest of a category is made from the target names, the files from the types, and both take the
stem of a file from the target name.  So every line of a manifest names a file that was written for a
type of the category, and there is one line for each name.  A category without types gets no manifest.
-/

namespace TypeExport

/-!
## The lines of a manifest
-/

/-- The entry of a directory that has a name. -/
def Path.entry (directory : Path) (name : String) : Path :=
  { directory with parts := directory.parts ++ [name] }

/-- The path of the manifest of a directory. -/
def Path.manifest (directory : Path) : Path :=
  directory.entry ("index" ++ fileExtension)

/-- The line that exports a name from a module of the same directory. -/
def exportLine (name stem : String) : String :=
  "export \x7b " ++ name ++ " \x7d from './" ++ stem ++ "';"

/-- Lines with their ends are told apart again. -/
theorem splitOn_lines {lines : List String} (hne : lines ≠ [])
    (h : ∀ line ∈ lines, '\n' ∉ line.toList) :
    Text.splitOn '\n' ("\n".intercalate lines ++ "\n").toList =
      (lines ++ [""]).map String.toList := by
  rw [toList_lines hne]
  clear hne
  induction lines with
  | nil => rfl
  | cons line rest ih =>
    obtain ⟨hline, hrest⟩ := List.forall_mem_cons.1 h
    rw [List.flatMap_cons, List.append_assoc, List.singleton_append,
      Text.splitOn_append_cons hline, ih hrest]
    rfl

namespace Manifest

/-- The text exports exactly the names, each once and in strictly ascending order, and each from a
module of the directory whose file is one of the files. -/
def IsIndexOf (text : String) (names : List String) (directory : Path) (files : List Path) : Prop :=
  ∃ exports : List (String × String),
    Text.splitOn '\n' text.toList =
      (("// <auto-generated />" :: "" :: exports.map fun e => exportLine e.1 e.2) ++
        [""]).map String.toList ∧
    (exports.map Prod.fst).Pairwise (· < ·) ∧
    (∀ name, name ∈ exports.map Prod.fst ↔ name ∈ names) ∧
    ∀ e ∈ exports, '/' ∉ e.2.toList ∧ directory.entry (e.2 ++ fileExtension) ∈ files

theorem nodup_sortedNames (names : List String) : (sortedNames names).Nodup :=
  (List.mergeSort_perm _ _).nodup_iff.2 (nodup_eraseDups names)

theorem pairwise_sortedNames (names : List String) : (sortedNames names).Pairwise (· < ·) :=
  (pairwise_sortedNames_le names).imp₂
    (fun _ _ hle hne => String.not_le.1 fun hge => hne (String.le_antisymm hle hge))
    (nodup_sortedNames names)

theorem line_not_mem_line {name : String} (h : '\n' ∉ name.toList) : '\n' ∉ (line name).toList := by
  have hstem := Name.not_mem_fileBase (by decide) h
  simp [line, String.toList_append, h, hstem]

/-- The manifest of names without slashes and line breaks, if their files are there. -/
theorem isIndexOf_text {names : List String} {directory : Path} {files : List Path}
    (hnames : ∀ name ∈ names, '/' ∉ name.toList ∧ '\n' ∉ name.toList)
    (hfiles : ∀ name ∈ names, directory.entry (Name.fileBase name ++ fileExtension) ∈ files) :
    IsIndexOf (text names) names directory files := by
  have hlines : ∀ line ∈ "// <auto-generated />" :: "" :: (sortedNames names).map Manifest.line,
      '\n' ∉ line.toList := by
    simp only [List.forall_mem_cons, List.forall_mem_map, mem_sortedNames]
    exact ⟨by decide, by decide, fun name hname => line_not_mem_line (hnames name hname).2⟩
  refine ⟨(sortedNames names).map fun name => (name, Name.fileBase name), ?_, ?_, ?_, ?_⟩
  · rw [text, splitOn_lines (List.cons_ne_nil _ _) hlines, List.map_map]
    rfl
  · simpa [List.map_map, Function.comp_def] using pairwise_sortedNames names
  · intro name
    simp [mem_sortedNames]
  · rw [List.forall_mem_map]
    intro name hname
    rw [mem_sortedNames] at hname
    exact ⟨Name.not_mem_fileBase (by decide) (hnames name hname).1, hfiles name hname⟩

end Manifest

/-!
## The manifests of a generation
-/

/-- The reported files of the types of a category. -/
def Generated.filesOf (result : Generated) : Category → List Path
  | .interfaces => result.interfaceFiles
  | .enumerations => result.enumFiles

namespace TypeGraph

open FileTree

variable {κ ε : Type} [TextContent κ] {g : TypeGraph ε} {policy : Policy} {cwd : Location}
  {directories : OutputDirectories} {roots : List g.Node}

/-- The target names of the types of a category. -/
def targetNames (g : TypeGraph ε) (category : Category) (roots : List g.Node) : List String :=
  (g.ofCategory category roots).map fun t => (g.descriptor t).targetName

/-- The categories that have types. -/
def usedCategories (g : TypeGraph ε) (roots : List g.Node) : List Category :=
  [.interfaces, .enumerations].filter fun category => !(g.ofCategory category roots).isEmpty

theorem join_manifest (directory : Path) :
    directory.join (.ofString ("index" ++ fileExtension)) = directory.manifest :=
  Path.join_of_isPlain directory (isPlain_fileName (by decide))

theorem filePath_eq_entry {t : g.Node} (h : '/' ∉ (g.stem t).toList) (directory : Path) :
    g.filePath directory t = directory.entry (g.stem t ++ fileExtension) :=
  Path.join_of_isPlain directory (isPlain_fileName h)

theorem locate_manifest_eq (directory : Path) :
    directory.manifest.locate cwd = directory.locate cwd ++ ["index" ++ fileExtension] := by
  rw [← join_manifest, locate_manifest]

/-- The paths of the manifests that are written. -/
theorem manifestWrites_paths (κ : Type) [TextContent κ] (hmanifests : policy.manifests = true) :
    (g.manifestWrites policy directories roots : List (Path × κ)).map Prod.fst =
      (g.usedCategories roots).map fun category => (directories.of category).manifest := by
  unfold manifestWrites manifestWrite usedCategories
  rw [if_pos hmanifests]
  cases hinterfaces : (g.ofCategory .interfaces roots).isEmpty <;>
    cases henumerations : (g.ofCategory .enumerations roots).isEmpty <;>
    simp [hinterfaces, henumerations, join_manifest, OutputDirectories.of]

/-- The locations of the directories are different. -/
def AreApart (directories : OutputDirectories) (cwd : Location) : Prop :=
  directories.interfaces.locate cwd ≠ directories.enumerations.locate cwd

theorem AreApart.unique (h : AreApart directories cwd) {category other : Category}
    (hsame : (directories.of category).locate cwd = (directories.of other).locate cwd) :
    category = other := by
  cases category <;> cases other
  · rfl
  · exact absurd hsame h
  · exact absurd hsame.symm h
  · rfl

/-- What is written last at the place of the manifest of a category that has types. -/
theorem lastAt_writes_manifest (κ : Type) [TextContent κ] (hmanifests : policy.manifests = true)
    (hapart : AreApart directories cwd) {category : Category}
    (hne : g.ofCategory category roots ≠ []) :
    lastAt cwd (g.writes policy directories roots : List (Path × κ))
        ((directories.of category).manifest.locate cwd) =
      some (TextContent.ofText (Manifest.text (g.targetNames category roots))) := by
  have hmem : ((directories.of category).manifest,
      (TextContent.ofText (Manifest.text (g.targetNames category roots)) : κ)) ∈
        g.manifestWrites policy directories roots :=
    mem_manifestWrites_iff.2 ⟨hmanifests, category, hne, (join_manifest _).symm, rfl⟩
  have hlast : lastAt cwd (g.manifestWrites policy directories roots : List (Path × κ))
      ((directories.of category).manifest.locate cwd) =
        some (TextContent.ofText (Manifest.text (g.targetNames category roots))) := by
    refine lastAt_eq_some hmem fun q d hq hl => ?_
    obtain ⟨-, other, -, rfl, rfl⟩ := mem_manifestWrites_iff.1 hq
    rw [locate_manifest, locate_manifest_eq] at hl
    rw [hapart.unique (location_inj hl).1]
    rfl
  unfold writes
  rw [lastAt_append, hlast, Option.some_or]

variable (policy) in
/-- Nothing is written at the place of the manifest of a category without types. -/
theorem lastAt_writes_manifest_eq_none (κ : Type) [TextContent κ] (hplain : g.HasPlainStems roots)
    (hapart : AreApart directories cwd) {category : Category}
    (hempty : g.ofCategory category roots = []) :
    lastAt cwd (g.writes policy directories roots : List (Path × κ))
        ((directories.of category).manifest.locate cwd) = none := by
  have hroots : ∀ other, lastAt cwd (g.rootWrites policy (directories.of other)
      (g.ofCategory other roots) : List (Path × κ))
        ((directories.of category).manifest.locate cwd) = none := by
    intro other
    rw [locate_manifest_eq]
    refine lastAt_rootWrites_eq_none hplain fun hl s hs => ?_
    rw [hapart.unique hl, hempty] at hs
    exact (List.not_mem_nil hs).elim
  have hmanifests : lastAt cwd (g.manifestWrites policy directories roots : List (Path × κ))
      ((directories.of category).manifest.locate cwd) = none := by
    refine lastAt_eq_none fun p c hp hl => ?_
    obtain ⟨-, other, hne, rfl, -⟩ := mem_manifestWrites_iff.1 hp
    rw [locate_manifest, locate_manifest_eq] at hl
    rw [hapart.unique (location_inj hl).1] at hne
    exact hne hempty
  unfold writes
  rw [lastAt_append, lastAt_append, hmanifests, Option.none_or]
  exact congrArg₂ Option.or (hroots .enumerations) (hroots .interfaces)

/-- A type of a category has a reported file. -/
theorem mem_filesOf_reported (κ : Type) [TextContent κ] {category : Category} {t : g.Node}
    (ht : t ∈ g.ofCategory category roots) :
    g.filePath (directories.of category) t ∈
      (g.reported policy κ directories roots).filesOf category := by
  cases category with
  | interfaces => exact List.mem_mergeSort.2 (List.mem_map_of_mem ht)
  | enumerations => exact List.mem_mergeSort.2 (List.mem_map_of_mem ht)

/-- After a generation with manifests into two different directories the manifests of the categories
that have types are there and no others.  A manifest exports each target name of its category once, in
ascending order, from a file that the generation reports for the category; it depends on the set of the
names only. -/
theorem manifests_match_files (g : TypeGraph ε) (policy : Policy) (cwd : Location)
    (directories : OutputDirectories) (describe : ε → String) (roots : List g.Node)
    (files : FileTree κ) {result : Generated} (hmanifests : policy.manifests = true)
    (hnames : ∀ t ∈ roots, '/' ∉ (g.descriptor t).targetName.toList ∧
      '\n' ∉ (g.descriptor t).targetName.toList)
    (hapart : directories.interfaces.locate cwd ≠ directories.enumerations.locate cwd)
    (hok : (g.generate policy cwd directories describe roots files).result = .ok result) :
    (result.manifestFiles =
      (g.usedCategories roots).map fun category => (directories.of category).manifest) ∧
    (∀ category, g.ofCategory category roots ≠ [] → ∃ text,
      (g.generate policy cwd directories describe roots files).files.read cwd
        (directories.of category).manifest = .ok (TextContent.ofText text) ∧
      Manifest.IsIndexOf text (g.targetNames category roots) (directories.of category)
        (result.filesOf category)) ∧
    (∀ category, g.ofCategory category roots = [] → ∀ content,
      (g.generate policy cwd directories describe roots files).files.find?
          ((directories.of category).manifest.locate cwd) = some (.file content) ↔
        files.find? ((directories.of category).manifest.locate cwd) = some (.file content)) ∧
    ∀ names others, (∀ name, name ∈ names ↔ name ∈ others) →
      Manifest.text names = Manifest.text others := by
  have hplain : g.HasPlainStems roots :=
    fun t ht => Name.not_mem_fileBase (by decide) (hnames t ht).1
  obtain ⟨rfl, -, hleaves⟩ := of_generate (Leaves.keepsUp files cwd) hok (Leaves.refl files)
  obtain ⟨-, hreflects⟩ := reflects_generate hok
  obtain ⟨-, -, hkeeps⟩ := of_generate (keepsUp_keepsOthers files cwd) hok fun _ _ he _ => he
  refine ⟨manifestWrites_paths κ hmanifests, fun category hne => ?_, fun category hempty content => ?_,
    fun names others hsame => Manifest.text_congr hsame⟩
  · have hmem : ((directories.of category).manifest,
        (TextContent.ofText (Manifest.text (g.targetNames category roots)) : κ)) ∈
          g.writes policy directories roots :=
      List.mem_append_right _
        (mem_manifestWrites_iff.2 ⟨hmanifests, category, hne, (join_manifest _).symm, rfl⟩)
    obtain ⟨last, hlast, hread⟩ := hreflects.read hmem
    rw [lastAt_writes_manifest κ hmanifests hapart hne] at hlast
    cases hlast
    refine ⟨_, hread, Manifest.isIndexOf_text ?_ ?_⟩
    · intro name hname
      obtain ⟨t, ht, rfl⟩ := List.mem_map.1 hname
      exact hnames t (mem_of_mem_ofCategory ht)
    · intro name hname
      obtain ⟨t, ht, rfl⟩ := List.mem_map.1 hname
      have hfile := filePath_eq_entry (hplain t (mem_of_mem_ofCategory ht)) (directories.of category)
      exact hfile ▸ mem_filesOf_reported κ ht
  · have hnone := lastAt_writes_manifest_eq_none policy κ hplain hapart hempty
    refine ⟨fun hfile => ?_, fun hfile => hkeeps _ _ hfile hnone⟩
    by_cases hway : ∃ p ∈ g.made policy κ directories roots,
        (directories.of category).manifest.locate cwd ∈ p.way cwd
    · obtain ⟨p, hp, hl⟩ := hway
      rw [hleaves.directory p hp _ hl] at hfile
      cases hfile
    · rw [← hleaves.kept _ (fun p hp hl => hway ⟨p, hp, hl⟩) hnone]
      exact hfile

/-- Enumerations of two modules that have one name, one whose file is the same, and one that is
called as manifests are. -/
def drafts : TypeGraph String where
  Node := Fin 4
  descriptor t :=
    { fullName := ["app.Draft", "lib.Draft", "app.draft", "app.Index"][t]
      shortName := ["Draft", "Draft", "draft", "Index"][t], kind := .enumeration, origin := .scanned }
  properties _ := .ok []
  fullNames := ["app.Draft", "lib.Draft", "app.draft", "app.Index"]
  fullName_mem t := List.getElem_mem _

def draftRoots : List (Fin 4) :=
  (List.finRange 4).reverse

/-- Their generation with manifests. -/
def draftsOutcome : GenerationOutcome Content (Fin 4) String Generated :=
  drafts.generate { manifests := true } [] (spelledDirectories "models" "./enums") id draftRoots .empty

/-- One manifest is written, and it exports each of the three names once. -/
theorem manifests_of_drafts :
    ∃ result text, draftsOutcome.result = .ok result ∧
      result.manifestFiles = [.ofString "enums/index.ts"] ∧
      draftsOutcome.files.read [] (.ofString "enums/index.ts") = .ok (TextContent.ofText text) ∧
      Manifest.IsIndexOf text ["Index", "draft", "Draft", "Draft"] (.ofString "enums")
        result.enumFiles := by
  obtain ⟨result, hok⟩ : ∃ result, draftsOutcome.result = .ok result :=
    exists_ok_of_isSome (by decide +kernel)
  have hnames : ∀ t ∈ draftRoots, '/' ∉ (drafts.descriptor t).targetName.toList ∧
      '\n' ∉ (drafts.descriptor t).targetName.toList := by decide +kernel
  obtain ⟨hpaths, htexts, -⟩ := manifests_match_files drafts { manifests := true } []
    (spelledDirectories "models" "./enums") id draftRoots .empty rfl hnames (by decide +kernel) hok
  obtain ⟨text, hread, hindex⟩ := htexts .enumerations (by decide +kernel)
  exact ⟨result, text, hok, hpaths, hread, hindex⟩

end TypeGraph

end TypeExport

import TypeExport.Generation.Files
import TypeExport.Proofs.File.PlainName
import TypeExport.Proofs.Generation.Writes
import TypeExport.Proofs.Translation.Closure
import TypeExport.Source.Content

/-!
# Which generated files survive

The warnings about clashing names look at the interfaces and at the enumerations, each for
themselves.  Without a warning and without slashes in the stems, the file of a type can be lost in
two ways only: to a manifest, when its stem is `index`, and to a type of the other category that has
the same stem and the same directory.  Of these two types, the one that a worker writes last survives.
-/

/-!
## How generated files begin

Behind the header the file of an interface begins with an interface, the file of an enumeration with
an enumeration, and a manifest with an empty line.  So no two of these texts are the same.
-/

namespace TypeExport

/-- Whether a text begins with another one. -/
def BeginsWith (front text : String) : Prop :=
  front.toList <+: text.toList

theorem beginsWith_append (front rest : String) : BeginsWith front (front ++ rest) :=
  ⟨rest.toList, String.toList_append.symm⟩

theorem BeginsWith.append {front text : String} (h : BeginsWith front text) (rest : String) :
    BeginsWith front (text ++ rest) := by
  unfold BeginsWith at h ⊢
  rw [String.toList_append]
  exact h.trans (List.prefix_append _ _)

theorem BeginsWith.prepend {front text : String} (h : BeginsWith front text) (header : String) :
    BeginsWith (header ++ front) (header ++ text) := by
  unfold BeginsWith at h ⊢
  rw [String.toList_append, String.toList_append]
  exact (List.prefix_append_right_inj _).2 h

theorem BeginsWith.trans {a b c : String} (h : BeginsWith a b) (h' : BeginsWith b c) :
    BeginsWith a c :=
  List.IsPrefix.trans h h'

/-- Texts with beginnings that exclude one another are different. -/
theorem BeginsWith.ne {a b s t : String} (hs : BeginsWith a s) (ht : BeginsWith b t)
    (hab : ¬BeginsWith a b) (hba : ¬BeginsWith b a) : s ≠ t := by
  rintro rfl
  rcases List.prefix_or_prefix_of_prefix hs ht with h | h
  · exact hab h
  · exact hba h

theorem not_beginsWith_prepend {a b : String} (h : ¬BeginsWith a b) (header : String) :
    ¬BeginsWith (header ++ a) (header ++ b) := by
  unfold BeginsWith at h ⊢
  rw [String.toList_append, String.toList_append, List.prefix_append_right_inj]
  exact h

theorem beginsWith_intercalate (separator line : String) (lines : List String) :
    BeginsWith line (separator.intercalate (line :: lines)) := by
  cases lines with
  | nil =>
    rw [String.intercalate_singleton]
    exact List.prefix_refl _
  | cons next lines =>
    rw [String.intercalate_cons_cons, String.append_assoc]
    exact beginsWith_append _ _

/-- The prepared text of a declaration is the one made from its fields or members. -/
theorem text_prepared (policy : Policy) (d : Declaration) :
    (prepared policy d).text policy = d.render policy := by
  unfold Declaration.text
  split
  · rfl
  · rfl

theorem beginsWith_render (policy : Policy) (d : Declaration) :
    BeginsWith d.headLine (d.render policy) := by
  unfold Declaration.render Declaration.lines
  exact (beginsWith_intercalate _ _ _).append _

theorem interface_beginsWith (policy : Policy) (d : Descriptor) (fields : List Field)
    (exported : Bool) :
    BeginsWith ((if exported then "export " else "") ++ "interface ")
      ((interfaceOf policy d fields exported).text policy) := by
  unfold interfaceOf
  rw [text_prepared]
  refine BeginsWith.trans ?_ (beginsWith_render policy _)
  unfold Declaration.headLine
  dsimp only
  rw [String.append_assoc]
  exact beginsWith_append _ _

theorem enumeration_beginsWith (policy : Policy) (d : Descriptor) :
    BeginsWith "export enum " ((enumerationOf policy d).text policy) := by
  unfold enumerationOf
  rw [text_prepared]
  refine BeginsWith.trans ?_ (beginsWith_render policy _)
  unfold Declaration.headLine
  exact ⟨_, by simp only [String.toList_append]; rfl⟩

namespace Manifest

/-- Every manifest begins with the line that marks it as generated. -/
theorem text_beginsWith (names : List String) :
    BeginsWith "// <auto-generated />\n\n" (Manifest.text names) := by
  unfold Manifest.text
  rw [String.intercalate_cons_cons]
  cases (sortedNames names).map line with
  | nil =>
    rw [String.intercalate_singleton]
    exact ⟨[], by decide⟩
  | cons line lines =>
    rw [String.intercalate_cons_cons]
    refine BeginsWith.append ⟨("\n".intercalate (line :: lines)).toList, ?_⟩ _
    simp only [String.toList_append]
    rfl

end Manifest

namespace TypeGraph

variable {ε : Type} {g : TypeGraph ε} {policy : Policy} {t u : g.Node} {text other : String}

/-- The file of an enumeration. -/
theorem enumeration_fileText (hkind : (g.descriptor t).kind = .enumeration) :
    g.fileText policy t =
      .ok (policy.headerText ++ (enumerationOf policy (g.descriptor t)).text policy) := by
  unfold fileText artifact translate
  simp only [if_pos hkind]
  simp [Except.map, Artifact.text]

/-- The file of an interface begins with an interface, the exported one or one that it needs. -/
theorem interface_fileText_beginsWith (hkind : (g.descriptor t).kind ≠ .enumeration)
    (h : g.fileText policy t = .ok text) :
    ∃ exported : Bool, BeginsWith
      (policy.headerText ++ ((if exported then "export " else "") ++ "interface ")) text := by
  unfold fileText at h
  cases hartifact : g.artifact policy t with
  | error e => rw [hartifact] at h; cases h
  | ok a =>
    rw [hartifact] at h
    cases h
    obtain ⟨properties, -, ha⟩ := declares_of_artifact hkind hartifact
    unfold Artifact.text
    rw [String.append_assoc]
    cases hnested : a.nested with
    | nil =>
      refine ⟨true, BeginsWith.prepend ?_ _⟩
      rw [List.map_nil, String.join_nil, String.empty_append, ha.root_eq]
      exact interface_beginsWith policy _ _ true
    | cons d nested =>
      refine ⟨false, BeginsWith.prepend ?_ _⟩
      obtain ⟨v, -, others, -, hd⟩ := (mem_nested_iff ha).1 (hnested ▸ List.mem_cons_self)
      rw [List.map_cons, String.join_cons, hd, String.append_assoc, String.append_assoc]
      exact (interface_beginsWith policy _ _ false).append _

/-- The files of an interface and of an enumeration are different. -/
theorem interface_fileText_ne_enumeration (ht : (g.descriptor t).kind ≠ .enumeration)
    (hu : (g.descriptor u).kind = .enumeration) (htext : g.fileText policy t = .ok text)
    (hother : g.fileText policy u = .ok other) : text ≠ other := by
  obtain ⟨exported, hbegins⟩ := interface_fileText_beginsWith ht htext
  rw [enumeration_fileText hu] at hother
  cases hother
  refine BeginsWith.ne hbegins ((enumeration_beginsWith policy _).prepend policy.headerText) ?_ ?_
  · refine not_beginsWith_prepend ?_ _
    cases exported <;> (unfold BeginsWith; decide)
  · refine not_beginsWith_prepend ?_ _
    cases exported <;> (unfold BeginsWith; decide)

/-- No file of a type is a manifest. -/
theorem fileText_ne_manifest (htext : g.fileText policy t = .ok text) (names : List String) :
    text ≠ Manifest.text names := by
  have hheader : policy.headerText = "" ∨
      policy.headerText = "// <auto-generated />\n// Changes to this file may be overwritten.\n\n" := by
    unfold Policy.headerText
    split
    · exact .inr (by decide)
    · exact .inl rfl
  have hbegins : ∃ front, BeginsWith front text ∧
      ¬BeginsWith front "// <auto-generated />\n\n" ∧
      ¬BeginsWith "// <auto-generated />\n\n" front := by
    by_cases hkind : (g.descriptor t).kind = .enumeration
    · rw [enumeration_fileText hkind] at htext
      cases htext
      refine ⟨_, (enumeration_beginsWith policy _).prepend policy.headerText, ?_⟩
      rcases hheader with h | h <;> rw [h] <;> (unfold BeginsWith; decide +kernel)
    · obtain ⟨exported, hbegins⟩ := interface_fileText_beginsWith hkind htext
      refine ⟨_, hbegins, ?_⟩
      rcases hheader with h | h <;> rw [h] <;> cases exported <;> (unfold BeginsWith; decide +kernel)
  obtain ⟨front, hfront, hab, hba⟩ := hbegins
  exact hfront.ne (Manifest.text_beginsWith names) hab hba

end TypeGraph

end TypeExport

/-!
## Files that are lost
-/

namespace TypeExport

theorem TextContent.ofText_inj {κ : Type} [TextContent κ] {s t : String}
    (h : (TextContent.ofText s : κ) = TextContent.ofText t) : s = t := by
  have hbytes := congrArg TextContent.bytes h
  rw [TextContent.bytes_ofText, TextContent.bytes_ofText] at hbytes
  unfold Utf8.encode at hbytes
  have hdata : s.toUTF8.data = t.toUTF8.data := Array.toList_inj.1 hbytes
  exact String.toByteArray_inj.1 (ByteArray.ext hdata)

theorem clashWarnings_level {types : List Descriptor} {line : LogLine}
    (h : line ∈ clashWarnings types) : line.level = .warning := by
  obtain ⟨stem, -, hline⟩ := List.mem_filterMap.1 h
  dsimp only at hline
  split at hline
  · cases hline
    rfl
  · cases hline

/-- Without a warning no two types write one file. -/
theorem length_filter_le_of_clashWarnings {types : List Descriptor} (h : clashWarnings types = [])
    (stem : String) : (types.filter fun d => d.fileStem == stem).length ≤ 1 := by
  by_cases hstem : stem ∈ clashStems types
  · have hnone := List.filterMap_eq_nil_iff.1 h stem hstem
    simp only [ownersOf, List.length_mergeSort, List.length_map, ite_eq_right_iff,
      reduceCtorEq, imp_false, Nat.not_lt] at hnone
    exact hnone
  · have hempty : (types.filter fun d => d.fileStem == stem) = [] := by
      rw [List.filter_eq_nil_iff]
      intro d hd hsame
      refine hstem ?_
      unfold clashStems
      rw [List.mem_mergeSort, List.mem_eraseDups]
      exact List.mem_map.2 ⟨d, hd, beq_iff_eq.1 hsame⟩
    rw [hempty]
    exact Nat.zero_le _

theorem eq_of_mem_of_length_le {α : Type} {l : List α} {a b : α} (h : l.length ≤ 1) (ha : a ∈ l)
    (hb : b ∈ l) : a = b := by
  match l, h with
  | [c], _ => rw [List.mem_singleton.1 ha, List.mem_singleton.1 hb]

namespace TypeGraph

open FileTree

variable {κ ε : Type} [TextContent κ] {g : TypeGraph ε} {policy : Policy} {cwd : Location}
  {directories : OutputDirectories} {roots : List g.Node}

abbrev stem (g : TypeGraph ε) (t : g.Node) : String :=
  (g.descriptor t).fileStem

def HasDistinctStems (g : TypeGraph ε) (roots : List g.Node) : Prop :=
  ∀ category, ∀ s ∈ g.ofCategory category roots, ∀ t ∈ g.ofCategory category roots,
    g.stem s = g.stem t → s = t

def HasPlainStems (g : TypeGraph ε) (roots : List g.Node) : Prop :=
  ∀ t ∈ roots, '/' ∉ (g.stem t).toList

theorem mem_of_mem_ofCategory {category : Category} {t : g.Node}
    (h : t ∈ g.ofCategory category roots) : t ∈ roots :=
  List.mem_of_mem_filter h

theorem category?_eq_enumerations {kind : TypeKind} (h : kind.category? = some .enumerations) :
    kind = .enumeration := by
  cases kind with
  | enumeration => rfl
  | record => cases h
  | interface => cases h
  | primitive => cases h

theorem hasDistinctStems_of_clashWarnings
    (h : ∀ category, clashWarnings ((g.ofCategory category roots).map g.descriptor) = []) :
    g.HasDistinctStems roots := by
  intro category s hs t ht hstem
  have hle := length_filter_le_of_clashWarnings (h category) (g.stem t)
  rw [List.filter_map, List.length_map] at hle
  refine eq_of_mem_of_length_le hle ?_ ?_
  · exact List.mem_filter.2 ⟨hs, beq_iff_eq.2 hstem⟩
  · exact List.mem_filter.2 ⟨ht, beq_iff_eq.2 rfl⟩

/-- Without a warning no type has two tasks. -/
theorem nodup_tasks_of_clashWarnings
    (h : ∀ category, clashWarnings ((g.ofCategory category roots).map g.descriptor) = []) :
    (g.tasks roots).Nodup := by
  have hcategory : ∀ category, (g.ofCategory category roots).Nodup := by
    intro category
    rw [List.nodup_iff_sublist]
    intro t htwice
    have hle := length_filter_le_of_clashWarnings (h category) (g.stem t)
    have htwo := ((htwice.map g.descriptor).filter fun d => d.fileStem == g.stem t).length_le
    simp only [List.map_cons, List.map_nil, BEq.rfl, List.filter_cons_of_pos, List.filter_nil,
      List.length_cons, List.length_nil] at htwo
    omega
  have hinj : ∀ category : Category, Function.Injective (Prod.mk (β := g.Node) category) :=
    fun _ _ _ hsame => (Prod.mk.inj hsame).2
  refine List.Nodup.append ((hcategory _).map (hinj _)) ((hcategory _).map (hinj _)) ?_
  intro task hinterface henumeration
  obtain ⟨s, -, rfl⟩ := List.mem_map.1 hinterface
  obtain ⟨t, -, hsame⟩ := List.mem_map.1 henumeration
  cases (Prod.mk.inj hsame).1

/-- A generation that logs no warning has not found a clash. -/
theorem clashWarnings_of_quiet {describe : ε → String} {order : List (Category × g.Node)}
    {files : FileTree κ} {result : Generated}
    (hok : (g.generateIn order policy cwd directories describe roots files).result = .ok result)
    (hquiet : ∀ line,
      .line line ∈ (g.generateIn order policy cwd directories describe roots files).events →
        line.level ≠ .warning) (category : Category) :
    clashWarnings ((g.ofCategory category roots).map g.descriptor) = [] := by
  rw [List.eq_nil_iff_forall_not_mem]
  intro line hline
  refine hquiet line ?_ (clashWarnings_level hline)
  have hopening : .line line ∈ (g.openingLines (g.ofCategory .interfaces roots)
      (g.ofCategory .enumerations roots)).map (GenerationEvent.line (ν := g.Node)) := by
    refine List.mem_map.2 ⟨line, List.mem_cons_of_mem _ (List.mem_append.2 ?_), rfl⟩
    cases category with
    | interfaces => exact .inl hline
    | enumerations => exact .inr hline
  have hroots : ¬roots.isEmpty = true := by
    intro hempty
    obtain rfl := List.isEmpty_iff.1 hempty
    simp [ofCategory, clashWarnings, clashStems] at hline
  unfold generateIn at hok ⊢
  rw [if_neg hroots] at hok ⊢
  dsimp only at hok ⊢
  split at hok
  · cases hok
  · split at hok
    · cases hok
    · exact List.mem_append_left _ (List.mem_append_left _ hopening)

/-- The location of the file of a type whose stem is plain. -/
theorem locate_filePath {t : g.Node} (h : '/' ∉ (g.stem t).toList) (directory : Path) :
    (g.filePath directory t).locate cwd = directory.locate cwd ++ [g.stem t ++ fileExtension] :=
  Path.locate_join_of_isPlain cwd directory (isPlain_fileName h)

theorem locate_manifest (directory : Path) :
    (directory.join (.ofString ("index" ++ fileExtension))).locate cwd =
      directory.locate cwd ++ ["index" ++ fileExtension] :=
  Path.locate_join_of_isPlain cwd directory (isPlain_fileName (by decide))

/-- Files of plain stems stand at one location if the directories and the stems are the same. -/
theorem location_inj {l m : Location} {a b : String}
    (h : l ++ [a ++ fileExtension] = m ++ [b ++ fileExtension]) : l = m ∧ a = b := by
  obtain ⟨hdirectory, hname⟩ := List.append_inj' h rfl
  exact ⟨hdirectory, fileName_inj (List.cons.inj hname).1⟩

/-- The last one of the files of a category at the place of one of its types is that type's. -/
theorem lastAt_rootWrites (κ : Type) [TextContent κ] (cwd : Location)
    (hplain : g.HasPlainStems roots) (hdistinct : g.HasDistinctStems roots) {category : Category}
    {t : g.Node} (ht : t ∈ g.ofCategory category roots) {text : String}
    (htext : g.fileText policy t = .ok text) (directory : Path) :
    lastAt cwd (g.rootWrites policy directory (g.ofCategory category roots) : List (Path × κ))
      ((g.filePath directory t).locate cwd) = some (TextContent.ofText text) := by
  refine lastAt_eq_some (mem_rootWrites_iff.2 ⟨t, ht, text, htext, rfl, rfl⟩) fun q d hq hl => ?_
  obtain ⟨s, hs, other, hother, hpath, rfl⟩ := mem_rootWrites_iff.1 hq
  rw [hpath, locate_filePath (hplain s (mem_of_mem_ofCategory hs)),
    locate_filePath (hplain t (mem_of_mem_ofCategory ht))] at hl
  obtain rfl := hdistinct category s hs t ht (location_inj hl).2
  rw [htext] at hother
  cases hother
  rfl

/-- Nothing of a category is written at a place that has another directory or another stem. -/
theorem lastAt_rootWrites_eq_none (hplain : g.HasPlainStems roots) {category : Category}
    {directory : Path} {l : Location} {stem : String}
    (h : directory.locate cwd = l → ∀ s ∈ g.ofCategory category roots, g.stem s ≠ stem) :
    lastAt cwd (g.rootWrites policy directory (g.ofCategory category roots) : List (Path × κ))
      (l ++ [stem ++ fileExtension]) = none := by
  refine lastAt_eq_none fun p c hp hl => ?_
  obtain ⟨s, hs, text, -, hpath, -⟩ := mem_rootWrites_iff.1 hp
  rw [hpath, locate_filePath (hplain s (mem_of_mem_ofCategory hs))] at hl
  obtain ⟨hdirectory, hstem⟩ := location_inj hl
  exact h hdirectory s hs hstem

/-- All manifests are called `index`. -/
theorem mem_manifestWrites (cwd : Location) {p : Path} {c : κ}
    (h : (p, c) ∈ g.manifestWrites policy directories roots) :
    policy.manifests = true ∧
      (∃ directory : Path, p.locate cwd = directory.locate cwd ++ ["index" ++ fileExtension]) ∧
      ∃ names, c = TextContent.ofText (Manifest.text names) := by
  obtain ⟨hmanifests, category, -, rfl, rfl⟩ := mem_manifestWrites_iff.1 h
  exact ⟨hmanifests, ⟨_, locate_manifest _⟩, _, rfl⟩

theorem lastAt_manifestWrites_eq_none {l : Location} {stem : String}
    (h : policy.manifests = true → stem ≠ "index") :
    lastAt cwd (g.manifestWrites policy directories roots : List (Path × κ))
      (l ++ [stem ++ fileExtension]) = none := by
  refine lastAt_eq_none fun p c hp hl => ?_
  obtain ⟨hmanifests, ⟨directory, hlocate⟩, -⟩ := mem_manifestWrites cwd hp
  rw [hlocate] at hl
  exact h hmanifests (location_inj hl).2.symm

/-- Where a type would have a file called `index`, the manifest of its category is written. -/
theorem lastAt_manifestWrites (κ : Type) [TextContent κ] (cwd : Location)
    (directories : OutputDirectories) {category : Category} {t : g.Node}
    (ht : t ∈ g.ofCategory category roots) (hmanifests : policy.manifests = true) :
    ∃ names, lastAt cwd (g.manifestWrites policy directories roots : List (Path × κ))
      ((directories.of category).locate cwd ++ ["index" ++ fileExtension]) =
        some (TextContent.ofText (Manifest.text names)) := by
  have hmem : ((directories.of category).join (.ofString ("index" ++ fileExtension)),
      (TextContent.ofText (Manifest.text ((g.ofCategory category roots).map fun t =>
        (g.descriptor t).targetName)) : κ)) ∈ g.manifestWrites policy directories roots :=
    mem_manifestWrites_iff.2 ⟨hmanifests, category, List.ne_nil_of_mem ht, rfl, rfl⟩
  rw [← locate_manifest]
  obtain ⟨c, hc⟩ : ∃ c, lastAt cwd (g.manifestWrites policy directories roots) _ = some c :=
    lastAt_isSome hmem
  obtain ⟨p, hp, -⟩ := mem_of_lastAt hc
  obtain ⟨-, -, names, rfl⟩ := mem_manifestWrites cwd hp
  exact ⟨names, hc⟩

/-- When nothing is written later at the place of a type: no manifest, and no type whose task comes
`after` its own. -/
structure IsLast (g : TypeGraph ε) (policy : Policy) (cwd : Location)
    (directories : OutputDirectories) (after : List (Category × g.Node))
    (task : Category × g.Node) : Prop where
  noManifest : policy.manifests = true → g.stem task.2 ≠ "index"
  noTask : ∀ other ∈ after,
    (directories.of other.1).locate cwd = (directories.of task.1).locate cwd →
      g.stem other.2 ≠ g.stem task.2

/-- Types of different categories never have one text. -/
theorem fileText_ne_of_category {first second : Category × g.Node}
    (hfirst : first ∈ g.tasks roots) (hsecond : second ∈ g.tasks roots)
    (hne : first.1 ≠ second.1) {text other : String} (htext : g.fileText policy first.2 = .ok text)
    (hother : g.fileText policy second.2 = .ok other) : text ≠ other := by
  have hkind : ∀ task ∈ g.tasks roots, (g.descriptor task.2).kind = .enumeration ↔
      task.1 = .enumerations := by
    intro task htask
    have hcategory := (mem_tasks_iff.1 htask).2
    constructor
    · intro hkind
      rw [hkind] at hcategory
      exact (Option.some.inj hcategory).symm
    · intro hsame
      exact category?_eq_enumerations (hsame ▸ hcategory)
  cases hcategory : second.1 with
  | enumerations =>
    exact interface_fileText_ne_enumeration
      (fun h => hne (((hkind _ hfirst).1 h).trans hcategory.symm)) ((hkind _ hsecond).2 hcategory)
      htext hother
  | interfaces =>
    have hinterface : second.1 ≠ .enumerations := by simp [hcategory]
    have henumeration : first.1 = .enumerations := by
      cases hfirst : first.1 with
      | enumerations => rfl
      | interfaces => exact absurd (hfirst.trans hcategory.symm) hne
    exact (interface_fileText_ne_enumeration (fun h => hinterface ((hkind _ hsecond).1 h))
      ((hkind _ hfirst).2 henumeration) hother htext).symm

/-- Of the tasks that come later, one at the place of a type writes another text. -/
theorem lastAt_later (κ : Type) [TextContent κ] (cwd : Location) (directories : OutputDirectories)
    (hplain : g.HasPlainStems roots) (hdistinct : g.HasDistinctStems roots)
    {task : Category × g.Node} {after : List (Category × g.Node)} (hnodup : (task :: after).Nodup)
    (hmem : ∀ other ∈ task :: after, other ∈ g.tasks roots)
    (htexts : ∀ other ∈ after, ∃ text, g.fileText policy other.2 = .ok text) {text : String}
    (htext : g.fileText policy task.2 = .ok text)
    (hshared : ∃ other ∈ after,
      (directories.of other.1).locate cwd = (directories.of task.1).locate cwd ∧
        g.stem other.2 = g.stem task.2) :
    ∃ other, lastAt cwd (g.taskWrites policy directories after : List (Path × κ))
      ((g.filePath (directories.of task.1) task.2).locate cwd) = some (TextContent.ofText other) ∧
      other ≠ text := by
  have hplaced : ∀ other ∈ task :: after, (g.filePath (directories.of other.1) other.2).locate cwd =
      (directories.of other.1).locate cwd ++ [g.stem other.2 ++ fileExtension] :=
    fun other hother => locate_filePath (hplain other.2 (mem_tasks_iff.1 (hmem other hother)).1) _
  obtain ⟨other, hother, hdirectory, hstem⟩ := hshared
  obtain ⟨written, hwritten⟩ := htexts other hother
  have hwrite : (g.filePath (directories.of other.1) other.2, (TextContent.ofText written : κ)) ∈
      g.taskWrites policy directories after :=
    mem_taskWrites_iff.2 ⟨other, hother, written, hwritten, rfl, rfl⟩
  obtain ⟨c, hc⟩ : ∃ c, lastAt cwd (g.taskWrites policy directories after) _ = some c :=
    lastAt_isSome hwrite
  rw [hplaced other (List.mem_cons_of_mem _ hother), hdirectory, hstem,
    ← hplaced task List.mem_cons_self] at hc
  obtain ⟨p, hp, hl⟩ := mem_of_lastAt hc
  obtain ⟨last, hlast, found, hfound, rfl, rfl⟩ := mem_taskWrites_iff.1 hp
  rw [hplaced last (List.mem_cons_of_mem _ hlast), hplaced task List.mem_cons_self] at hl
  have hstems := (location_inj hl).2
  have hin := fun o ho => mem_tasks_iff.1 (hmem o ho)
  -- a task of the same category would be the same task, which does not come again
  have hcategory : task.1 ≠ last.1 := by
    intro hsame
    have hnode : last.2 = task.2 := hdistinct task.1 last.2
      (by simpa [ofCategory, hsame] using hin last (List.mem_cons_of_mem _ hlast)) task.2
      (by simpa [ofCategory] using hin task List.mem_cons_self) hstems
    have htask : last = task := Prod.ext hsame.symm hnode
    exact (List.nodup_cons.1 hnodup).1 (htask ▸ hlast)
  exact ⟨found, hc, (fileText_ne_of_category (hmem task List.mem_cons_self)
    (hmem last (List.mem_cons_of_mem _ hlast)) hcategory htext hfound).symm⟩

/-- The last write at the place of a type is that of its own artifact exactly when it is the last. -/
theorem lastAt_writesIn_iff (κ : Type) [TextContent κ] (cwd : Location)
    (directories : OutputDirectories) (hplain : g.HasPlainStems roots)
    (hdistinct : g.HasDistinctStems roots) (before : List (Category × g.Node))
    {after : List (Category × g.Node)} {task : Category × g.Node} (hnodup : (task :: after).Nodup)
    (hmem : ∀ other ∈ task :: after, other ∈ g.tasks roots)
    (htexts : ∀ other ∈ after, ∃ text, g.fileText policy other.2 = .ok text) {text : String}
    (htext : g.fileText policy task.2 = .ok text) :
    lastAt cwd (g.writesIn policy directories (before ++ task :: after) roots : List (Path × κ))
        ((g.filePath (directories.of task.1) task.2).locate cwd) = some (TextContent.ofText text) ↔
      g.IsLast policy cwd directories after task := by
  have htask := hmem task List.mem_cons_self
  have hstem := hplain task.2 (mem_tasks_iff.1 htask).1
  have hsplit : (g.taskWrites policy directories (before ++ task :: after) : List (Path × κ)) =
      g.taskWrites policy directories before ++
        (g.filePath (directories.of task.1) task.2, TextContent.ofText text) ::
          g.taskWrites policy directories after := by
    unfold taskWrites
    rw [List.flatMap_append, List.flatMap_cons, rootWrites_singleton htext, List.singleton_append]
  have hown : lastAt cwd (g.taskWrites policy directories (before ++ task :: after) :
        List (Path × κ)) ((g.filePath (directories.of task.1) task.2).locate cwd) =
      (lastAt cwd (g.taskWrites policy directories after)
        ((g.filePath (directories.of task.1) task.2).locate cwd)).or
          (some (TextContent.ofText text)) := by
    rw [hsplit, lastAt_append, lastAt]
    cases lastAt cwd (g.taskWrites policy directories after : List (Path × κ)) _ <;> simp
  unfold writesIn
  rw [lastAt_append, hown]
  by_cases hindex : policy.manifests = true ∧ g.stem task.2 = "index"
  · -- the manifest comes last
    have hcategory : task.2 ∈ g.ofCategory task.1 roots := by
      simpa [ofCategory] using mem_tasks_iff.1 htask
    obtain ⟨names, hnames⟩ := lastAt_manifestWrites κ cwd directories hcategory hindex.1
    rw [locate_filePath hstem, hindex.2, hnames, Option.some_or]
    constructor
    · intro heq
      exact absurd (TextContent.ofText_inj (Option.some.inj heq)).symm
        (fileText_ne_manifest htext names)
    · intro hlast
      exact absurd hindex.2 (hlast.noManifest hindex.1)
  have hmanifest : policy.manifests = true → g.stem task.2 ≠ "index" :=
    fun hmanifests hname => hindex ⟨hmanifests, hname⟩
  have hnone : lastAt cwd (g.manifestWrites policy directories roots : List (Path × κ))
      ((g.filePath (directories.of task.1) task.2).locate cwd) = none := by
    rw [locate_filePath hstem]
    exact lastAt_manifestWrites_eq_none hmanifest
  rw [hnone, Option.none_or]
  by_cases hshared : ∃ other ∈ after,
      (directories.of other.1).locate cwd = (directories.of task.1).locate cwd ∧
        g.stem other.2 = g.stem task.2
  · -- a type of the other category is written to the same place
    obtain ⟨other, hother, hne⟩ := lastAt_later κ cwd directories hplain hdistinct hnodup hmem htexts
      htext hshared
    rw [hother, Option.some_or]
    constructor
    · intro heq
      exact absurd (TextContent.ofText_inj (Option.some.inj heq)) hne
    · intro hlast
      obtain ⟨later, hlater, hdirectory, hsame⟩ := hshared
      exact absurd hsame (hlast.noTask later hlater hdirectory)
  · have hno : lastAt cwd (g.taskWrites policy directories after : List (Path × κ))
        ((g.filePath (directories.of task.1) task.2).locate cwd) = none := by
      refine lastAt_eq_none fun p c hp hl => hshared ?_
      obtain ⟨other, hother, _, -, rfl, -⟩ := mem_taskWrites_iff.1 hp
      have hin := mem_tasks_iff.1 (hmem other (List.mem_cons_of_mem _ hother))
      rw [locate_filePath (hplain other.2 hin.1), locate_filePath hstem] at hl
      exact ⟨other, hother, location_inj hl⟩
    rw [hno, Option.none_or]
    exact ⟨fun _ => ⟨hmanifest, fun other hother hdirectory hsame =>
      hshared ⟨other, hother, hdirectory, hsame⟩⟩, fun _ => rfl⟩

/-- One enumeration, called `Index`. -/
def indexed : TypeGraph String where
  Node := Unit
  descriptor _ :=
    { fullName := "app.Index", shortName := "Index", kind := .enumeration, origin := .scanned
      members := [{ name := "A", value := .int 1 }] }
  properties _ := .ok []
  fullNames := ["app.Index"]
  fullName_mem _ := List.mem_cons_self

/-- The generation of `Index` and of a manifest in an empty tree. -/
def indexedOutcome : GenerationOutcome Content Unit String Generated :=
  indexed.generate { manifests := true } []
    { interfaces := .ofString "models", enumerations := .ofString "enums" } id [()] .empty

end TypeGraph

end TypeExport

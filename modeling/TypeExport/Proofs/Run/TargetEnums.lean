import TypeExport.Proofs.Generation.Enumerations
import TypeExport.Proofs.Scan.EnumClasses
import TypeExport.Source.Content

/-!
# Enumerations of sources as target enums

The classes of enum modules are generated as target enums.  The file of each has one member for every
row of its source, named and valued as the row says, in the order of the rows and also where keys
repeat.
-/

namespace TypeExport

open EnumSource

namespace EnumSource

/-- The value of a member as the target language writes it: an integer stands for itself, and every
other key is a text. -/
def keyText (integral : Bool) (key : Value) : String :=
  if integral then key.display else Quoted.asciiString key.display

def memberTexts (rows : List Row) : List (String × String) :=
  (Name.uniqueMembers (rows.map (·.2))).zip
    (rows.map fun row => keyText (isIntegral rows) row.1)

variable {source : EnumSource String} {rows : List Row}

theorem valueText_writtenValue {name : String} {integral : Bool} {key : Value}
    (h : FitsKey integral key) :
    Member.valueText { name, value := writtenValue integral key } = keyText integral key := by
  unfold writtenValue keyText
  cases integral with
  | false => rfl
  | true =>
    obtain ⟨n, rfl⟩ := h rfl
    rw [if_pos rfl, if_pos rfl, Value.display_int]
    rfl

/-- The members of the class are written as those of the rows. -/
theorem map_entries (rows : List Row) :
    ((entries rows).map fun (name, v) => ({ name, value := v } : Member)).map
        (fun m => (m.name, m.valueText)) = memberTexts rows := by
  unfold entries memberTexts
  rw [List.zip_map_right, List.map_map, List.map_map]
  refine List.map_congr_left fun entry hentry => ?_
  have hfits := fitsKey_of_mem (mem_names_of_mem_zip hentry).2
  show (entry.1, Member.valueText { name := entry.1, value := writtenValue _ entry.2.1 }) = _
  rw [valueText_writtenValue hfits]
  rfl

/-- No row is lost, and no two rows share a member. -/
theorem memberTexts_spec (h : source.IsReadable rows) :
    (memberTexts rows).length = rows.length ∧ ((memberTexts rows).map Prod.fst).Nodup := by
  obtain ⟨hlength, hnodup, -⟩ := h.names
  constructor
  · unfold memberTexts
    rw [List.length_zip, List.length_map, hlength, Nat.min_self]
  · unfold memberTexts
    rw [List.map_fst_zip]
    · exact hnodup
    · rw [List.length_map, hlength]

theorem entries_ne_nil (h : source.IsReadable rows) : entries rows ≠ [] := by
  intro hnil
  have hlength := (memberTexts_spec h).1
  rw [← map_entries, hnil] at hlength
  exact h.nonempty (List.length_eq_zero_iff.1 hlength.symm)

end EnumSource

namespace TypeGraph

theorem hasDistinctStems_of_nodup {ε : Type} {g : TypeGraph ε} {roots : List g.Node}
    (h : (roots.map g.stem).Nodup) : g.HasDistinctStems roots :=
  fun _ _ hs _ ht heq =>
    List.inj_on_of_nodup_map h (mem_of_mem_ofCategory hs) (mem_of_mem_ofCategory ht) heq

end TypeGraph

namespace Universe

def rootNode (u : Universe) (c : ClassRef) : u.graph.Node :=
  u.node (some c)

variable {u : Universe} {source : EnumSource String} {c : ClassRef}

section

variable {rows : List Row}

/-- The node of an enumeration is described by its name and its members. -/
theorem descriptor_of_isEnumClass (h : u.world.IsEnumClass source rows c) :
    (u.graph.descriptor (u.rootNode c)).kind = .enumeration ∧
      (u.graph.descriptor (u.rootNode c)).targetName = source.name ∧
      (u.graph.descriptor (u.rootNode c)).members =
        (entries rows).map fun (name, v) => { name, value := v } := by
  have hdescribe : u.graph.descriptor (u.rootNode c) = u.world.describe u.index.names c := by
    show u.describe (u.node (some c)).val = _
    rw [node_of_isEnumClass h]
    rfl
  rw [hdescribe]
  exact h.describe _

theorem stem_of_isEnumClass (h : u.world.IsEnumClass source rows c) :
    u.graph.stem (u.rootNode c) = Name.fileBase source.name := by
  unfold TypeGraph.stem Descriptor.fileStem
  rw [(descriptor_of_isEnumClass h).2.1]

/-- Without a header the file of an enumeration has the members of its rows. -/
theorem fileText_of_isEnumClass (h : u.world.IsEnumClass source rows c)
    (hreadable : source.IsReadable rows) {policy : Policy} (hheader : policy.header = false) :
    u.graph.fileText policy (u.rootNode c) = .ok (enumText source.name (memberTexts rows)) := by
  obtain ⟨hkind, hname, hmembers⟩ := descriptor_of_isEnumClass h
  have hne : (u.graph.descriptor (u.rootNode c)).members ≠ [] := by
    rw [hmembers]
    simpa using entries_ne_nil hreadable
  rw [TypeGraph.enumeration_fileText_eq hkind hheader hne, hname, hmembers, map_entries]

end

variable {rows : EnumSource String → List Row} {sources : List (EnumSource String)}
  {classes : List ClassRef} {policy : Policy} {cwd : Location} {directories : OutputDirectories}
  {files v : FileTree Content}

def enumPath (directory : Path) (source : EnumSource String) : Path :=
  directory.join (.ofString (Name.fileBase source.name ++ fileExtension))

/-- A file of a target enum can stand in the directory at `l`, which is reached by a path. -/
structure FitsEnum (v : FileTree Content) (directory : Path) (l : Location)
    (source : EnumSource String) : Prop where
  word : IsAsciiWord source.name.toList
  short : (Name.fileBase source.name ++ fileExtension).utf8ByteSize ≤ FileTree.nameLimit
  fits : (enumPath directory source).fits = true
  free : v.find? (l ++ [Name.fileBase source.name ++ fileExtension]) ≠ some .directory

/-- Where a target enum can be written, so can the node of its class. -/
theorem FitsEnum.fitsNode {directory : Path} {l : Location} {rows : List Row}
    (h : FitsEnum v directory l source) (hclass : u.world.IsEnumClass source rows c) :
    u.graph.Fits directory (u.rootNode c) v l := by
  have hword := Name.isAsciiWord_fileBase h.word
  have hstem := stem_of_isEnumClass hclass
  have hslash : '/' ∉ (Name.fileBase source.name).toList :=
    not_mem_of_isWordChar hword.all (by decide)
  refine ⟨?_, ⟨?_, ?_, ?_⟩, ?_, ?_⟩
  · rw [hstem]
    exact hslash
  · rw [hstem]
    exact h.short
  · rw [hstem]
    exact (isPlain_fileName hslash).notParent
  · rw [hstem, String.toList_append, List.mem_append, not_or]
    exact ⟨not_mem_of_isWordChar hword.all (by decide), by decide⟩
  · show (directory.join (.ofString (u.graph.stem (u.rootNode c) ++ fileExtension))).fits = true
    rw [hstem]
    exact h.fits
  · rw [hstem]
    exact h.free

theorem map_stem (h : List.Forall₂ (fun source c => u.world.IsEnumClass source (rows source) c)
    sources classes) :
    (classes.map u.rootNode).map u.graph.stem =
      sources.map fun source => Name.fileBase source.name := by
  induction h with
  | nil => rfl
  | cons hfirst _ ih =>
    rw [List.map_cons, List.map_cons, List.map_cons, ih, stem_of_isEnumClass hfirst]

/-- A node of the classes is the one of some source. -/
theorem exists_source (h : List.Forall₂
      (fun source c => u.world.IsEnumClass source (rows source) c) sources classes)
    {t : u.graph.Node} (ht : t ∈ classes.map u.rootNode) :
    ∃ source ∈ sources, ∃ c, u.world.IsEnumClass source (rows source) c ∧ u.rootNode c = t := by
  obtain ⟨c, hc, rfl⟩ := List.mem_map.1 ht
  obtain ⟨source, hsource, hclass⟩ := exists_left_of_mem h hc
  exact ⟨source, hsource, c, hclass, rfl⟩

theorem kind_of_mem (h : List.Forall₂
      (fun source c => u.world.IsEnumClass source (rows source) c) sources classes) :
    ∀ t ∈ classes.map u.rootNode, (u.graph.descriptor t).kind = .enumeration := by
  intro t ht
  obtain ⟨source, -, c, hclass, rfl⟩ := exists_source h ht
  exact (descriptor_of_isEnumClass hclass).1

/-- When the enumerations of sources are generated, each has a file of its own. -/
theorem read_enumClasses
    (h : List.Forall₂ (fun source c => u.world.IsEnumClass source (rows source) c) sources classes)
    (hreadable : ∀ source ∈ sources, source.IsReadable (rows source))
    (hstems : (sources.map fun source => Name.fileBase source.name).Nodup)
    (hheader : policy.header = false) (hmanifests : policy.manifests = false) {result : Generated}
    (hok : (u.graph.generate policy cwd directories Failure.message (classes.map u.rootNode)
      files).result = .ok result) :
    ∀ source ∈ sources,
      (u.graph.generate policy cwd directories Failure.message
        (classes.map u.rootNode) files).files.read cwd
          (enumPath directories.enumerations source) =
        .ok (.text (enumText source.name (memberTexts (rows source)))) := by
  have hplain : u.graph.HasPlainStems (classes.map u.rootNode) := by
    intro t ht
    obtain ⟨source, hsource, c, hclass, rfl⟩ := exists_source h ht
    rw [stem_of_isEnumClass hclass]
    exact not_mem_of_isWordChar (Name.isAsciiWord_fileBase (hreadable source hsource).name).all
      (by decide)
  have hdistinct : u.graph.HasDistinctStems (classes.map u.rootNode) := by
    refine TypeGraph.hasDistinctStems_of_nodup ?_
    rw [map_stem h]
    exact hstems
  intro source hsource
  obtain ⟨c, hc, hclass⟩ := exists_right_of_mem h hsource
  have hread := TypeGraph.read_of_enumerations hok (kind_of_mem h) hmanifests hplain hdistinct
    (List.mem_map_of_mem hc) (fileText_of_isEnumClass hclass (hreadable source hsource) hheader)
  unfold TypeGraph.filePath at hread
  unfold enumPath
  rw [← stem_of_isEnumClass hclass]
  exact hread

/-- The enumerations of sources are generated exactly if their directory can be made and their files
fit into it. -/
theorem generate_enumClasses_iff
    (h : List.Forall₂ (fun source c => u.world.IsEnumClass source (rows source) c) sources classes)
    (hreadable : ∀ source ∈ sources, source.IsReadable (rows source))
    (hstems : (sources.map fun source => Name.fileBase source.name).Nodup) (hne : sources ≠ [])
    (hheader : policy.header = false) (hmanifests : policy.manifests = false) :
    (∃ result, (u.graph.generate policy cwd directories Failure.message
        (classes.map u.rootNode) files).result = .ok result) ↔
      ∃ v, files.ensureDirectory cwd directories.enumerations = (v, none) ∧
        ∀ source ∈ sources, FitsEnum v directories.enumerations
          (directories.enumerations.locate cwd) source := by
  constructor
  · rintro ⟨result, hok⟩
    have hroots : classes.map u.rootNode ≠ [] := by
      intro hnil
      rw [List.map_eq_nil_iff.1 hnil] at h
      exact hne (List.forall₂_nil_right_iff.1 h)
    obtain ⟨v, hmade, hkeeps⟩ := TypeGraph.made_of_enumerations hok (kind_of_mem h) hroots
    refine ⟨v, hmade, fun source hsource => ?_⟩
    have hword := (hreadable source hsource).name
    obtain ⟨hshort, hfits, hfound⟩ := FileTree.found_of_read (isPlain_fileName
      (not_mem_of_isWordChar (Name.isAsciiWord_fileBase hword).all (by decide)))
      (read_enumClasses h hreadable hstems hheader hmanifests hok source hsource)
    refine ⟨hword, hshort, hfits, fun hdirectory => ?_⟩
    rw [hkeeps _ hdirectory] at hfound
    cases hfound
  · rintro ⟨v, hmade, hfits⟩
    refine TypeGraph.generate_enumerations_ok Failure.message (kind_of_mem h) hmanifests hmade ?_
    intro t ht
    obtain ⟨source, hsource, c, hclass, rfl⟩ := exists_source h ht
    exact (hfits source hsource).fitsNode hclass

end Universe

end TypeExport

import TypeExport.Proofs.Keyed
import TypeExport.Proofs.Scan.EnumModule
import TypeExport.Scan.Universe
import TypeExport.Scan.Discovery

/-!
# The classes of enum modules

The only class that an enum module defines is its enumeration.  It is marked, so it is a root of the
export.  Enumerations of different names have different full names, so none of them is left out, and
each is described by its name and its members alone.
-/

namespace TypeExport

namespace World

open EnumSource

/-- A name without a point is the last part behind a point. -/
theorem lastPart_append (front : String) {name : String} (h : '.' ∉ name.toList) :
    lastPart (front ++ "." ++ name) = name := by
  have hreverse : (front ++ "." ++ name).toList.reverse =
      name.toList.reverse ++ '.' :: front.toList.reverse := by
    simp [String.toList_append]
  have hname : (name.toList.reverse ++ '.' :: front.toList.reverse).takeWhile (· != '.') =
      name.toList.reverse := by
    rw [List.takeWhile_append_of_pos]
    · simp
    · intro c hc
      rw [bne_iff_ne]
      rintro rfl
      exact h (List.mem_reverse.1 hc)
  unfold lastPart
  rw [hreverse, hname, List.reverse_reverse, String.ofList_toList]

/-- A class is the enumeration of a source. -/
def IsEnumClass (w : World) (source : EnumSource String) (rows : List Row) (c : ClassRef) : Prop :=
  ∃ k moduleName, c = .defined k ∧ w.IsEnumOf source rows k moduleName

variable {w : World} {source : EnumSource String} {rows : List Row} {c : ClassRef}
  {handle : ModuleHandle}

/-- What is known of the class. -/
theorem IsEnumClass.info? (h : w.IsEnumClass source rows c) :
    ∃ k moduleName info, c = .defined k ∧ w.info? (.defined k) = some info ∧
      ClassDefinition.IsEnumInfo info moduleName source.name (entries rows) := by
  obtain ⟨k, moduleName, rfl, info, hclass, hinfo⟩ := h
  exact ⟨k, moduleName, info, rfl, hclass, hinfo⟩

theorem IsEnumClass.marker? (h : w.IsEnumClass source rows c) : w.marker? c = some none := by
  obtain ⟨k, moduleName, info, rfl, hclass, hinfo⟩ := h.info?
  unfold World.marker?
  rw [hclass]
  exact hinfo.marker

theorem IsEnumClass.shortName (h : w.IsEnumClass source rows c) : w.shortName c = source.name := by
  obtain ⟨k, moduleName, info, rfl, hclass, hinfo⟩ := h.info?
  unfold World.shortName
  rw [hclass]
  exact hinfo.shortName

theorem IsEnumClass.fullName (h : w.IsEnumClass source rows c) :
    ∃ moduleName, w.fullName c = moduleName ++ "." ++ source.name := by
  obtain ⟨k, moduleName, info, rfl, hclass, hinfo⟩ := h.info?
  refine ⟨info.moduleName, ?_⟩
  unfold World.fullName
  rw [hclass, ← hinfo.qualifiedName]

theorem IsEnumClass.isEnumeration (h : w.IsEnumClass source rows c) : w.isEnumeration c = true := by
  obtain ⟨k, moduleName, info, rfl, hclass, hinfo⟩ := h.info?
  have horder : w.order (.defined k) = info.order := by
    unfold order
    rw [hclass]
  unfold World.isEnumeration derivesStandard derives
  rw [horder, List.contains_iff_mem]
  exact hinfo.order

theorem IsEnumClass.members (h : w.IsEnumClass source rows c) :
    w.members c = (entries rows).map fun (name, v) => { name, value := v } := by
  obtain ⟨k, moduleName, info, rfl, hclass, hinfo⟩ := h.info?
  unfold World.members
  rw [hclass]
  exact hinfo.members

/-- The base of the class belongs to another module. -/
theorem moduleName_baseClass (w : World) (rows : List Row) :
    w.moduleName (baseClass rows) = "enum" := by
  have hbase : ∀ name ∈ ["enum.IntEnum", "enum.Enum"], frontPart name = "enum" := by decide
  unfold baseClass
  split
  · exact hbase _ (by decide)
  · exact hbase _ (by decide)

/-- An enum module defines the enumeration and nothing else. -/
theorem classesOf_of_holdsEnum (h : w.HoldsEnum source rows handle) :
    ∃ c, w.IsEnumClass source rows c ∧ w.classesOf handle = [c] := by
  obtain ⟨i, k, m, rfl, hmodule, hnames, hlibrary, info, hclass, hinfo⟩ := h
  refine ⟨.defined k, ⟨k, m.name, rfl, info, hclass, hinfo⟩, ?_⟩
  have hhandle : ModuleHandle.name w (.inside i) = m.name := by
    show ((w.modules[i]?).map (·.name)).getD "" = _
    rw [hmodule]
    rfl
  have hnamesOf : w.namesOf (.inside i) = moduleNames source rows k := by
    show ((w.modules[i]?).map (·.names)).getD [] = _
    rw [hmodule, ← hnames]
    rfl
  have hself : w.moduleName (.defined k) = m.name := by
    have hknown : w.info? (.defined k) = some info := hclass
    unfold moduleName
    rw [hknown]
    exact hinfo.moduleName
  have hbase : w.moduleName (baseClass rows) ≠ m.name := by
    rw [moduleName_baseClass]
    rintro heq
    exact hlibrary (heq ▸ List.mem_cons_self)
  have hmarker : baseOf rows ≠ "export_to_ts" := by
    rcases baseOf_cases rows with hrows | hrows <;> rw [hrows] <;> decide
  unfold classesOf
  rw [hnamesOf, hhandle]
  unfold moduleNames
  -- the class may have the name of its base or of the marker
  by_cases hsame : baseOf rows = source.name
  · rw [hsame] at hmarker ⊢
    simp [Keyed.put, hmarker, hself]
  · by_cases hmark : "export_to_ts" = source.name
    · simp [Keyed.put, hmarker, ← hmark, hself, hbase]
    · simp [Keyed.put, hmarker, hsame, hmark, hself, hbase]

variable {sources : List (EnumSource String)} {allRows : EnumSource String → List Row}
  {handles : List ModuleHandle} {classes : List ClassRef}

/-- The classes of some enum modules are the enumerations of their sources, in order. -/
theorem flatMap_classesOf
    (h : List.Forall₂ (fun source handle => w.HoldsEnum source (allRows source) handle) sources
      handles) :
    List.Forall₂ (fun source c => w.IsEnumClass source (allRows source) c) sources
      (handles.flatMap w.classesOf) := by
  induction h with
  | nil => exact .nil
  | cons hfirst _ ih =>
    obtain ⟨c, hc, hclasses⟩ := classesOf_of_holdsEnum hfirst
    rw [List.flatMap_cons, hclasses]
    exact .cons hc ih

/-- Enumerations of different names have different full names. -/
theorem nodup_fullNames
    (h : List.Forall₂ (fun source c => w.IsEnumClass source (allRows source) c) sources classes)
    (hpoint : ∀ source ∈ sources, '.' ∉ source.name.toList)
    (hnames : (sources.map (·.name)).Nodup) : (classes.map w.fullName).Nodup := by
  have hlast : (classes.map w.fullName).map lastPart = sources.map (·.name) := by
    clear hnames
    induction h with
    | nil => rfl
    | cons hfirst _ ih =>
      obtain ⟨moduleName, hfull⟩ := hfirst.fullName
      rw [List.map_cons, List.map_cons, List.map_cons,
        ih fun source hsource => hpoint source (List.mem_cons_of_mem _ hsource), hfull,
        lastPart_append moduleName (hpoint _ List.mem_cons_self)]
  refine List.Nodup.of_map lastPart ?_
  rw [hlast]
  exact hnames

/-- Classes with different names that are all new stay. -/
theorem firstOfName_of_nodup {seen : List String} (hnodup : (classes.map w.fullName).Nodup)
    (hseen : ∀ c ∈ classes, w.fullName c ∉ seen) : w.firstOfName seen classes = classes := by
  induction classes generalizing seen with
  | nil => rfl
  | cons c rest ih =>
    rw [List.map_cons, List.nodup_cons] at hnodup
    have hfirst := hseen c List.mem_cons_self
    rw [firstOfName, if_neg (by simpa using hfirst)]
    congr 1
    refine ih hnodup.2 fun d hd hmem => ?_
    rcases List.mem_cons.1 hmem with heq | hmem
    · exact hnodup.1 (heq ▸ List.mem_map_of_mem hd)
    · exact hseen d (List.mem_cons_of_mem _ hd) hmem

/-- The roots of a target whose modules are enum modules are their enumerations. -/
theorem rootsOf_enumModules {t : LoadedTarget}
    (h : List.Forall₂ (fun source handle => w.HoldsEnum source (allRows source) handle) sources
      t.modules)
    (hpoint : ∀ source ∈ sources, '.' ∉ source.name.toList)
    (hnames : (sources.map (·.name)).Nodup) :
    w.rootsOf [] [t] = [(t.target, t.modules.flatMap w.classesOf)] := by
  have hclasses := flatMap_classesOf h
  have hmarked : w.markedClasses t.modules = t.modules.flatMap w.classesOf := by
    unfold markedClasses
    refine List.filter_eq_self.2 fun c hc => ?_
    obtain ⟨source, -, hsource⟩ := exists_left_of_mem hclasses hc
    rw [hsource.marker?]
    rfl
  rw [rootsOf, hmarked, firstOfName_of_nodup (nodup_fullNames hclasses hpoint hnames)
    fun _ _ => List.not_mem_nil]
  rfl

/-- An enumeration is described by its name and its members. -/
theorem IsEnumClass.describe (h : w.IsEnumClass source rows c) (names : List String) :
    (w.describe names c).kind = .enumeration ∧ (w.describe names c).targetName = source.name ∧
      (w.describe names c).members = (entries rows).map fun (name, v) => { name, value := v } := by
  unfold World.describe Descriptor.targetName
  simp only [h.isEnumeration, h.marker?, h.shortName, h.members, if_true]
  exact ⟨trivial, rfl, trivial⟩

end World

namespace Universe

/-- The node of an enumeration is the enumeration itself. -/
theorem node_of_isEnumClass {u : Universe} {source : EnumSource String} {rows : List EnumSource.Row}
    {c : ClassRef} (h : u.world.IsEnumClass source rows c) : (u.node (some c)).val = some c := by
  have hmem : (u.describe (some c)).fullName ∈ u.fullNames := by
    have hfull : (u.describe (some c)).fullName = u.world.fullName c := by
      show (u.world.describe u.index.names c).fullName = _
      unfold World.describe
      rw [if_pos h.isEnumeration]
    obtain ⟨k, moduleName, rfl, info, hclass, -⟩ := h
    obtain ⟨hlt, -⟩ := List.getElem?_eq_some_iff.1 hclass
    rw [hfull]
    refine List.mem_append_left _ (List.mem_cons_of_mem _ (List.mem_map.2 ⟨k, ?_, rfl⟩))
    exact List.mem_range.2 hlt
  have hnode : u.node (some c) = ⟨some c, hmem⟩ := dif_pos hmem
  rw [hnode]

end Universe

end TypeExport

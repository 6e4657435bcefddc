import TypeExport.Proofs.Action
import TypeExport.Proofs.Class.EnumDefinition
import TypeExport.Proofs.Keyed
import TypeExport.Proofs.Source.EnumText
import TypeExport.Scan.Import

/-!
# Loading enum modules

The module of a lookup enum is loaded from its text.  It adds one module and one class to the world,
and the class is the only one that the module defines.
-/

/-!
## Modules that are registered

A registered module is imported without a change of the world, and it stays registered when a module
of another name joins the world.  The names of the module that joined last can be given values one by
one.
-/

namespace TypeExport

open World

/-- The earlier classes and modules of a world are those of another one, under the same numbers. -/
structure World.IsBelow (w v : World) : Prop where
  classes : w.classes <+: v.classes
  modules : w.modules <+: v.modules

namespace World.IsBelow

variable {w v u : World}

theorem refl (w : World) : w.IsBelow w where
  classes := List.prefix_refl _
  modules := List.prefix_refl _

theorem trans (h : w.IsBelow v) (h' : v.IsBelow u) : w.IsBelow u where
  classes := h.classes.trans h'.classes
  modules := h.modules.trans h'.modules

theorem class? (h : w.IsBelow v) {i : Nat} {info : ClassInfo} (hi : w.classes[i]? = some info) :
    v.classes[i]? = some info := by
  obtain ⟨more, hmore⟩ := h.classes
  obtain ⟨hlt, -⟩ := List.getElem?_eq_some_iff.1 hi
  rw [← hmore, List.getElem?_append_left hlt, hi]

theorem module? (h : w.IsBelow v) {i : Nat} {m : ImportedModule} (hi : w.modules[i]? = some m) :
    v.modules[i]? = some m := by
  obtain ⟨more, hmore⟩ := h.modules
  obtain ⟨hlt, -⟩ := List.getElem?_eq_some_iff.1 hi
  rw [← hmore, List.getElem?_append_left hlt, hi]

end World.IsBelow

namespace World

variable {w : World} {m : ImportedModule} {info : ClassInfo}

theorem isBelow_addModule (w : World) (m : ImportedModule) : w.IsBelow (w.addModule m) where
  classes := List.prefix_refl _
  modules := List.prefix_append _ _

theorem isBelow_addClass (w : World) (info : ClassInfo) : w.IsBelow (w.addClass info) where
  classes := List.prefix_append _ _
  modules := List.prefix_refl _

theorem isBelow_unregister (w : World) (name : String) : w.IsBelow (w.unregister name) where
  classes := List.prefix_refl _
  modules := List.prefix_refl _

theorem modules_addModule : (w.addModule m).modules[w.modules.length]? = some m := by
  show (w.modules ++ [m])[w.modules.length]? = _
  rw [List.getElem?_append_right (Nat.le_refl _), Nat.sub_self]
  rfl

theorem names_addModule : (w.addModule m).names m.name = m.names := by
  have hlookup : (w.addModule m).registry.lookup m.name = some w.modules.length := by
    show (Keyed.put m.name w.modules.length w.registry).lookup m.name = _
    rw [Keyed.lookup_put, if_pos rfl]
  unfold names module?
  rw [hlookup, Option.bind_some, modules_addModule]
  rfl

/-- Giving a name a value in the module that joined last. -/
theorem bind_addModule (id : String) (value : Hint) :
    (w.addModule m).bind w.modules.length id value =
      w.addModule { m with names := Keyed.put id value m.names } := by
  unfold World.bind changeModule
  rw [modules_addModule]
  show World.mk _ ((w.modules ++ [m]).set w.modules.length _) _ = _
  rw [List.set_append_right _ _ (Nat.le_refl _), Nat.sub_self]
  rfl

end World

namespace Importer

variable {imp : Importer} {w : World} {n : String} {h : ModuleHandle}

/-- A new module takes no other name from the register. -/
theorem registered?_addModule (hn : imp.registered? w n = some h) {m : ImportedModule}
    (hne : n ≠ m.name) : imp.registered? (w.addModule m) n = some h := by
  unfold registered? at hn ⊢
  have hlookup : (w.addModule m).registry.lookup n = w.registry.lookup n := by
    show (Keyed.put m.name w.modules.length w.registry).lookup n = _
    rw [Keyed.lookup_put, if_neg hne]
  rw [hlookup]
  cases hindex : w.registry.lookup n with
  | none =>
    rw [hindex] at hn
    exact hn
  | some index =>
    rw [hindex] at hn
    dsimp only at hn ⊢
    cases hmodule : w.modules[index]? with
    | none => rw [hmodule] at hn; cases hn
    | some k =>
      rw [hmodule] at hn
      rw [(isBelow_addModule w m).module? hmodule]
      exact hn

theorem pending_of_registered (hn : imp.registered? w n = some h) : imp.pending w n = [] := by
  unfold pending namesAbove
  rw [List.reverse_append, List.reverse_singleton, List.singleton_append,
    List.takeWhile_cons_of_neg (by simp [hn])]
  rfl

/-- Importing a registered module changes nothing. -/
theorem importWithin_registered (hn : imp.registered? w n = some h) (depth : Nat) :
    Gives (imp.importWithin (depth + 1) n) w h w := by
  rw [importWithin]
  refine (gives_get w).bind ?_
  rw [pending_of_registered hn]
  refine Gives.bind (gives_pure _ w) ((gives_get w).bind ?_)
  rw [hn]
  exact gives_pure h w

end Importer

end TypeExport

/-!
## Modules of enums
-/

namespace TypeExport

namespace SourceModule

variable {imp : Importer} {w : World} {h : ModuleHandle} {load : String → Defines ModuleHandle}

theorem importedValue_of_value {name : String} {value : Hint} (h' : h.value? w name = some value) :
    Gives (importedValue imp h name) w value w := by
  unfold importedValue
  refine (gives_get w).bind ?_
  rw [h']
  exact gives_pure value w

/-- Importing one name of a registered module gives that name to the module which joined last. -/
theorem importNames_one (imp : Importer) {m : ImportedModule} {source : String} (name : String)
    {value : Hint}
    (hload : Gives (load source) (w.addModule m) h (w.addModule m))
    (hvalue : h.value? (w.addModule m) name = some value) (hname : name ≠ "*") :
    Gives (importNames load imp w.modules.length source [(name, name)]) (w.addModule m) ⟨⟩
      (w.addModule { m with names := Keyed.put name value m.names }) := by
  unfold importNames
  refine hload.bind ?_
  refine (gives_get _).bind ?_
  dsimp only
  rw [← World.bind_addModule]
  split
  · refine Gives.bind (t := w.addModule m) (gives_forIn_one ?_)
      ((gives_forIn_one ?_).bind (gives_pure _ _))
    · refine (gives_get _).bind ?_
      rw [if_neg (by simp [hvalue])]
      exact gives_pure _ _
    · rw [if_neg hname]
      refine (importedValue_of_value hvalue).bind ?_
      exact (gives_modify _ _).bind (gives_pure _ _)
  · refine (gives_forIn_one ?_).bind (gives_pure _ _)
    rw [if_neg hname]
    refine (importedValue_of_value hvalue).bind ?_
    exact (gives_modify _ _).bind (gives_pure _ _)

end SourceModule

namespace EnumSource

variable {imp : Importer} {w : World} {source : EnumSource String} {rows : List Row}

/-- The modules that the text of an enum imports. -/
def enumLibrary : List String :=
  ["enum", "typegen.markers"]

/-- What makes the values of the members. -/
def makerOf (rows : List Row) : ValueMaker :=
  if isIntegral rows then .integer else .plain

/-- The class that an enum derives from. -/
def baseClass (rows : List Row) : ClassRef :=
  if isIntegral rows then .standard "enum.IntEnum" else .standard "enum.Enum"

/-- The names of a loaded module whose class has the number `k`. -/
def moduleNames (source : EnumSource String) (rows : List Row) (k : Nat) : List (String × Hint) :=
  Keyed.put source.name (.type (.defined k))
    (Keyed.put "export_to_ts" .other [(baseOf rows, .type (baseClass rows))])

theorem makerOf_cases (rows : List Row) : makerOf rows = .plain ∨ makerOf rows = .integer := by
  unfold makerOf
  split
  · exact .inr rfl
  · exact .inl rfl

theorem isEnumBase_baseClass (rows : List Row) : IsEnumBase (baseClass rows) (makerOf rows) := by
  unfold baseClass makerOf
  split
  · exact isEnumBase_integer
  · exact isEnumBase_enum

/-- The rows make members that an enumeration takes. -/
theorem areMembers_entries (h : source.IsReadable rows) :
    ClassDefinition.AreMembers (makerOf rows) (entries rows) := by
  obtain ⟨hlength, hnodup, hnames⟩ := h.names
  have hkeys : (entries rows).map Prod.fst = Name.uniqueMembers (rows.map (·.2)) := by
    unfold entries
    rw [List.map_map]
    exact List.map_fst_zip (Nat.le_of_eq hlength)
  refine ⟨by rw [hkeys]; exact hnodup, fun entry hentry => ?_, fun entry hentry => ?_⟩
  · refine hnames entry.1 ?_
    rw [← hkeys]
    exact List.mem_map_of_mem hentry
  · obtain ⟨zipped, hzipped, rfl⟩ := List.mem_map.1 hentry
    have hfits := fitsKey_of_mem (mem_names_of_mem_zip hzipped).2
    show (makerOf rows).Keeps (writtenValue (isIntegral rows) zipped.2.1)
    unfold makerOf writtenValue
    cases hintegral : isIntegral rows with
    | true => exact hfits hintegral
    | false => exact ⟨_, rfl⟩

theorem libraryValue?_base (rows : List Row) :
    ModuleHandle.libraryValue? "enum" (baseOf rows) = some (.type (baseClass rows)) := by
  unfold baseOf baseClass
  cases isIntegral rows with
  | true => rfl
  | false => rfl

theorem libraryValue?_marker :
    ModuleHandle.libraryValue? "typegen.markers" "export_to_ts" = some .other :=
  rfl

/-- Behind the imports the name of the base means the base. -/
theorem evaluate_base (w : World) (rows : List Row) {m : ImportedModule}
    {others : List (String × Hint)}
    (hnames : m.names = (baseOf rows, .type (baseClass rows)) :: others) :
    Scope.evaluate (w.addModule m) { moduleName := m.name, deferred := false }
      (.name (baseOf rows)) = .ok (.type (baseClass rows)) := by
  have hmeaning : Scope.meaning (w.addModule m) { moduleName := m.name, deferred := false } []
      (baseOf rows) = some (.type (baseClass rows)) := by
    unfold Scope.meaning
    rw [World.names_addModule, hnames, List.lookup_cons_self]
    rfl
  unfold Scope.evaluate
  rw [List.getLast?_nil]
  dsimp only
  rw [Expr.evaluate.eq_def]
  dsimp only
  rw [hmeaning]

/-- Running a module adds its class to the world. -/
theorem run_sourceModule (imp : Importer) (h : source.IsReadable rows)
    {load : String → Defines ModuleHandle} {m : ImportedModule} (hempty : m.names = [])
    (hload : ∀ n ∈ enumLibrary, ∀ m' : ImportedModule, m'.name = m.name →
      Gives (load n) (w.addModule m') (.outside n) (w.addModule m')) :
    ∃ info, ClassDefinition.IsEnumInfo info m.name source.name (entries rows) ∧
      Gives ((source.sourceModule rows).run load imp w.modules.length m.name) (w.addModule m) ⟨⟩
        ((w.addClass info).addModule
          { m with names := moduleNames source rows w.classes.length }) := by
  have hbaseName : baseOf rows ≠ "export_to_ts" ∧ baseOf rows ≠ "*" := by
    rcases baseOf_cases rows with hbase | hbase
    all_goals
      rw [hbase]
      decide
  let m₁ : ImportedModule := { m with names := [(baseOf rows, .type (baseClass rows))] }
  let m₂ : ImportedModule := { m with
    names := [(baseOf rows, .type (baseClass rows)), ("export_to_ts", .other)] }
  have hfirst : { m with
      names := Keyed.put (baseOf rows) (.type (baseClass rows)) m.names } = m₁ := by
    rw [hempty]
    rfl
  have hput : Keyed.put "export_to_ts" .other m₁.names = m₂.names := by
    show Keyed.put "export_to_ts" _ [_] = _
    rw [Keyed.put, if_neg hbaseName.1]
    rfl
  have hsecond : { m₁ with names := Keyed.put "export_to_ts" .other m₁.names } = m₂ := by
    rw [hput]
  have hnames : moduleNames source rows w.classes.length =
      Keyed.put source.name (.type (.defined w.classes.length)) m₂.names := by
    rw [← hput]
    rfl
  obtain ⟨info, hinfo, hdefine⟩ := ClassDefinition.define_enumeration (isEnumBase_baseClass rows)
    (makerOf_cases rows) (areMembers_entries h) source.name
    (evaluate_base w rows (m := m₂) rfl)
  refine ⟨info, hinfo, ?_⟩
  have himport := SourceModule.importNames_one imp (baseOf rows)
    (hload "enum" (by decide) m rfl) (libraryValue?_base rows) hbaseName.2
  rw [hfirst] at himport
  have hmarker := SourceModule.importNames_one imp "export_to_ts"
    (hload "typegen.markers" (by decide) m₁ rfl) libraryValue?_marker (by decide)
  rw [hsecond] at hmarker
  unfold SourceModule.run
  refine Gives.bind (t := w.addModule m) (gives_pure _ _) ?_
  refine Gives.bind (t := w.addModule m) (gives_pure _ _) ?_
  refine Gives.bind (a := PUnit.unit) ?_ (gives_pure _ _)
  refine gives_each_cons himport (gives_each_cons hmarker (gives_each_cons ?_ (gives_pure _ _)))
  have hbind : ((w.addModule m₂).addClass info).bind w.modules.length source.name
      (.type (.defined w.classes.length)) =
        (w.addClass info).addModule
          { m₂ with names := moduleNames source rows w.classes.length } := by
    rw [hnames]
    exact World.bind_addModule (w := w.addClass info) source.name _
  refine hdefine.bind ?_
  rw [← hbind]
  exact gives_modify _ _

/-- The text of a module is read as the module. -/
theorem sourceModule_text (h : source.IsReadable rows) :
    (Content.text (source.moduleText rows)).sourceModule = .ok (source.sourceModule rows) := by
  have hnull : ¬(source.moduleText rows).toList.contains '\x00' = true := by
    simpa using null_not_mem_moduleText h
  unfold Content.sourceModule
  dsimp only
  rw [if_neg hnull, ofText?_moduleText h]

end EnumSource

namespace World

open EnumSource

/-- A class is the enumeration of a source. -/
def IsEnumOf (w : World) (source : EnumSource String) (rows : List Row) (k : Nat)
    (moduleName : String) : Prop :=
  ∃ info, w.classes[k]? = some info ∧
    ClassDefinition.IsEnumInfo info moduleName source.name (entries rows)

/-- A module was loaded from the text of a source: its class is the enumeration. -/
def HoldsEnum (w : World) (source : EnumSource String) (rows : List Row) (h : ModuleHandle) :
    Prop :=
  ∃ i k m, h = .inside i ∧ w.modules[i]? = some m ∧ m.names = moduleNames source rows k ∧
    m.name ∉ enumLibrary ∧ w.IsEnumOf source rows k m.name

theorem HoldsEnum.mono {w v : World} {source : EnumSource String} {rows : List Row}
    {h : ModuleHandle} (hholds : w.HoldsEnum source rows h) (hbelow : w.IsBelow v) :
    v.HoldsEnum source rows h := by
  obtain ⟨i, k, m, hi, hmodule, hnames, hlibrary, info, hclass, hinfo⟩ := hholds
  exact ⟨i, k, m, hi, hbelow.module? hmodule, hnames, hlibrary, info, hbelow.class? hclass, hinfo⟩

end World

namespace Importer

open EnumSource

variable {imp : Importer} {w : World} {source : EnumSource String} {rows : List Row} {l : Location}

/-- The modules that the text of an enum imports are there. -/
def KnowsEnums (imp : Importer) (w : World) : Prop :=
  ∀ n ∈ enumLibrary, imp.registered? w n = some (.outside n)

theorem KnowsEnums.addModule (h : imp.KnowsEnums w) {m : ImportedModule}
    (hne : m.name ∉ enumLibrary) : imp.KnowsEnums (w.addModule m) :=
  fun n hn => registered?_addModule (h n hn) fun heq => hne (heq ▸ hn)

/-- A name that enums do not import may leave the register. -/
theorem KnowsEnums.unregister (h : imp.KnowsEnums w) {name : String} (hname : name ∉ enumLibrary) :
    imp.KnowsEnums (w.unregister name) := by
  intro n hn
  have hlookup : (w.unregister name).registry.lookup n = w.registry.lookup n := by
    show (Keyed.erase name w.registry).lookup n = _
    have hne : n ≠ name := by
      rintro rfl
      exact hname hn
    rw [Keyed.lookup_erase, if_neg hne]
  have hknown := h n hn
  unfold registered? at hknown ⊢
  rw [hlookup]
  exact hknown

/-- A file takes its own name, which no module outside of the scanned files has, or one with a low
line. -/
theorem fileModuleName_cases (imp : Importer) (w : World) (l : Location) :
    (∀ n, imp.registered? w (imp.fileModuleName w l) ≠ some (.outside n)) ∨
      '_' ∈ (imp.fileModuleName w l).toList := by
  have hlong : ∀ s t : String, '_' ∈ (s ++ "_" ++ t).toList := by
    intro s t
    simp [String.toList_append]
  unfold fileModuleName
  dsimp only
  cases hstem : imp.registered? w (Path.stem (l.getLast?.getD "")) with
  | none =>
    left
    intro n
    dsimp only
    rw [hstem]
    exact fun h => by cases h
  | some handle =>
    cases handle with
    | outside name => exact .inr (hlong _ _)
    | inside index =>
      dsimp only
      split
      · left
        intro n
        rw [hstem]
        exact fun h => by cases h
      · exact .inr (hlong _ _)

/-- A file does not take the name of a module that its text imports. -/
theorem fileModuleName_not_mem (h : imp.KnowsEnums w) (l : Location) :
    imp.fileModuleName w l ∉ enumLibrary := by
  intro hmem
  have hunderline : ∀ n ∈ enumLibrary, '_' ∉ n.toList := by decide
  rcases fileModuleName_cases imp w l with hfree | hlong
  · exact hfree _ (h _ hmem)
  · exact hunderline _ hmem hlong

theorem sourceAt_of_module (h : source.IsReadable rows) (hreach : isReachable l = true)
    (hfile : imp.files.fileAt? l = some (.text (source.moduleText rows))) :
    imp.sourceAt l = .ok (source.sourceModule rows) := by
  unfold sourceAt
  rw [if_neg (by simp [hreach]), hfile]
  exact sourceModule_text h

/-- Loading the file of a source adds a module and the enumeration of the source. -/
theorem gives_loadFile (hknows : imp.KnowsEnums w) (h : source.IsReadable rows)
    (hreach : isReachable l = true)
    (hfile : imp.files.fileAt? l = some (.text (source.moduleText rows)))
    (hpath : moduleExtension.toList.reverse.isPrefixOf
      (Path.ofLocation l).text.toList.reverse = true) :
    ∃ v, Gives (imp.loadFile l) w (.inside w.modules.length) v ∧ w.IsBelow v ∧
      imp.KnowsEnums v ∧ v.HoldsEnum source rows (.inside w.modules.length) := by
  let m : ImportedModule :=
    { name := imp.fileModuleName w l, source := .file l, directories := none, names := [],
      ready := true }
  have hname : ∀ m' : ImportedModule, m'.name = m.name → m'.name ∉ enumLibrary := by
    intro m' hm'
    rw [hm']
    exact fileModuleName_not_mem hknows l
  have hload : ∀ n ∈ enumLibrary, ∀ m' : ImportedModule, m'.name = m.name →
      Gives (imp.importWithin imp.depth n) (w.addModule m') (.outside n) (w.addModule m') := by
    intro n hn m' hm'
    have hregistered := hknows.addModule (hname m' hm') n hn
    exact importWithin_registered hregistered
      (2 * imp.searchPath.length * imp.files.entries.length + 7)
  obtain ⟨info, hinfo, hrun⟩ := run_sourceModule imp h (m := m) rfl hload
  let m' : ImportedModule := { m with names := moduleNames source rows w.classes.length }
  have hbelow : w.IsBelow ((w.addClass info).addModule m') :=
    (World.isBelow_addClass w info).trans (World.isBelow_addModule _ m')
  have hmodule : ((w.addClass info).addModule m').modules[w.modules.length]? = some m' :=
    World.modules_addModule (w := w.addClass info)
  have hclass : ((w.addClass info).addModule m').classes[w.classes.length]? = some info := by
    show (w.classes ++ [info])[w.classes.length]? = _
    rw [List.getElem?_append_right (Nat.le_refl _), Nat.sub_self]
    rfl
  refine ⟨(w.addClass info).addModule m', ?_, hbelow,
    KnowsEnums.addModule (w := w.addClass info) hknows (hname m' rfl),
    _, _, m', rfl, hmodule, rfl, hname m' rfl, info, hclass, hinfo⟩
  unfold loadFile
  refine (gives_get w).bind ?_
  dsimp only
  rw [if_neg (by simp [hpath])]
  refine Gives.bind (gives_modify _ w) ?_
  refine Gives.bind (a := PUnit.unit) ?_ (gives_pure _ _)
  unfold runFile
  refine gives_tryCatch ?_ _
  rw [sourceAt_of_module h hreach hfile]
  exact hrun

/-- A file whose absolute path is too long is not run, and its name is taken off the register. -/
theorem ends_runFile_of_long (load : String → Defines ModuleHandle) (index : Nat) (name : String)
    (hlong : isReachable l = false) (w : World) :
    Ends (imp.runFile load index name l) w fun result v =>
      result = .error (.tooLong (Path.ofLocation l).text) ∧ v = w.unregister name := by
  have hsource : imp.sourceAt l = .error (.tooLong (Path.ofLocation l).text) := by
    unfold sourceAt
    rw [if_pos (by simp [hlong])]
  unfold runFile
  rw [hsource]
  exact ⟨rfl, rfl⟩

/-- So it is not loaded, and what imports need to know of the register is still there. -/
theorem ends_loadFile_of_long (hknows : imp.KnowsEnums w) (hlong : isReachable l = false)
    (hpath : moduleExtension.toList.reverse.isPrefixOf
      (Path.ofLocation l).text.toList.reverse = true) :
    Ends (imp.loadFile l) w fun result v =>
      result = .error (.tooLong (Path.ofLocation l).text) ∧ w.IsBelow v ∧ imp.KnowsEnums v := by
  have hname := fileModuleName_not_mem hknows l
  unfold loadFile
  rw [ends_bind_iff, ends_get_iff]
  dsimp only
  rw [if_neg (by simp [hpath]), ends_bind_iff, ends_modify_iff]
  refine (ends_runFile_of_long _ _ _ hlong _).bind (fun a v hv => by cases hv.1) fun f v hv => ?_
  obtain ⟨herror, rfl⟩ := hv
  cases herror
  exact ⟨rfl, (World.isBelow_addModule w _).trans (World.isBelow_unregister _ _),
    (hknows.addModule hname).unregister hname⟩

end Importer

end TypeExport

import TypeExport.Proofs.Lookup.EnumFiles
import TypeExport.Proofs.Scan.EnumClasses
import TypeExport.Proofs.Scan.EnumModule
import TypeExport.Proofs.Scan.OneTarget
import TypeExport.Scan.Loading

/-!
# Scanning the written enum modules

The modules that were written into an empty directory are its public files.  A session that scans the
directory finds their enumerations as its roots, in the order of the files.  Modules whose absolute
paths are too long are skipped.
-/

/-!
## Loading a directory of enum modules

The files of a directory are loaded one after the other.  When all of them are enum modules none is
skipped whose path is short enough, and the loaded modules hold the enumerations of their sources in
the order of the files.
-/

namespace TypeExport

theorem Loads.gives_part {α : Type} {d : Defines α} {a : α} {v : World} {p : Progress}
    (h : Gives d p.world a v) : Gives (Loads.part d) p (.ok a) { p with world := v } := by
  have hattempt : Gives (Loads.attempt d) p (.ok a) { p with world := v } := by
    refine gives_mk ?_
    unfold Gives at h
    rw [h]
  exact hattempt.bind (gives_pure _ _)

/-- An ordinary failure of a part is a result. -/
theorem Loads.gives_part_of_error {α : Type} {d : Defines α} {f : Failure} {p : Progress}
    {Q : World → Prop} (h : Ends d p.world fun result v => result = .error f ∧ Q v)
    (hordinary : f.isOrdinary = true) :
    ∃ v, Q v ∧ Gives (Loads.part d) p (.error f) { p with world := v } := by
  unfold Ends at h
  cases hrun : d.run.run p.world with
  | mk result v =>
    rw [hrun] at h
    obtain ⟨rfl, hQ⟩ := h
    refine ⟨v, hQ, ?_⟩
    have hattempt : Gives (Loads.attempt d) p (.error f) { p with world := v } := by
      refine gives_mk ?_
      rw [hrun]
    refine hattempt.bind ?_
    dsimp only
    rw [if_pos hordinary]
    exact gives_pure _ _

/-- The text of a location ends in its last name. -/
theorem Path.text_ofLocation_append (l : Location) (name : String) :
    name.toList <:+ (Path.ofLocation (l ++ [name])).text.toList := by
  have hbody : ∀ l : Location, name.toList <:+ ("/".intercalate (l ++ [name])).toList := by
    intro l
    induction l with
    | nil => simp
    | cons part rest ih =>
      rw [List.cons_append, String.intercalate_cons_of_ne_nil (by simp), String.toList_append]
      exact ih.trans (List.suffix_append _ _)
  show name.toList <:+ (String.ofList _ ++ "/".intercalate (l ++ [name])).toList
  rw [String.toList_append]
  exact (hbody l).trans (List.suffix_append _ _)

namespace Importer

variable {imp : Importer} {rows : EnumSource String → List EnumSource.Row} {directory : Location}
  {sources : List (EnumSource String)}

/-- A file holds the enum module of a source. -/
structure HoldsSource (imp : Importer) (rows : EnumSource String → List EnumSource.Row)
    (directory : Location) (source : EnumSource String) : Prop where
  readable : source.IsReadable (rows source)
  file : imp.files.fileAt? (directory ++ [Name.moduleFile source.name]) =
    some (.text (source.moduleText (rows source)))

/-- The public files of a directory are the enum modules of some sources. -/
structure HoldsSources (imp : Importer) (rows : EnumSource String → List EnumSource.Row)
    (directory : Location) (sources : List (EnumSource String)) : Prop where
  publicFiles : imp.publicFiles directory = sources.map fun source => Name.moduleFile source.name
  holds : ∀ source ∈ sources, imp.HoldsSource rows directory source

theorem isPrefixOf_moduleExtension {name : String} (hname : moduleExtension.toList <:+ name.toList)
    (directory : Location) :
    moduleExtension.toList.reverse.isPrefixOf
      (Path.ofLocation (directory ++ [name])).text.toList.reverse = true := by
  rw [List.isPrefixOf_iff_prefix, List.reverse_prefix]
  exact hname.trans (Path.text_ofLocation_append directory name)

theorem moduleExtension_suffix (name : String) :
    moduleExtension.toList <:+ (Name.moduleFile name).toList := by
  unfold Name.moduleFile
  rw [String.toList_append]
  exact List.suffix_append _ _

/-- The sources whose modules have absolute paths that the file system takes. -/
def withinReach (directory : Location) (sources : List (EnumSource String)) :
    List (EnumSource String) :=
  sources.filter fun source => isReachable (directory ++ [Name.moduleFile source.name])

/-- What is left when a directory of enum modules was loaded: the modules within reach, in order. -/
structure LoadsSources (rows : EnumSource String → List EnumSource.Row) (w : World)
    (sources : List (EnumSource String)) (t t' : LoadedTarget) (q : Progress) : Prop where
  isBelow : w.IsBelow q.world
  target : t'.target = t.target
  modules : ∃ handles, t'.modules = t.modules ++ handles ∧
    List.Forall₂ (fun source h => q.world.HoldsEnum source (rows source) h) sources handles

/-- A module that is loaded first. -/
theorem LoadsSources.cons {w u : World} {source : EnumSource String} {t t' : LoadedTarget}
    {h : ModuleHandle} {q : Progress} (hbelow : w.IsBelow u)
    (henum : u.HoldsEnum source (rows source) h)
    (hrest : LoadsSources rows u sources (t.addModule h) t' q) :
    LoadsSources rows w (source :: sources) t t' q where
  isBelow := hbelow.trans hrest.isBelow
  target := hrest.target
  modules := by
    obtain ⟨handles, hmodules, hothers⟩ := hrest.modules
    refine ⟨h :: handles, ?_, .cons (henum.mono hrest.isBelow) hothers⟩
    rw [hmodules]
    exact List.append_assoc t.modules [h] handles

/-- A module that is skipped first. -/
theorem LoadsSources.skip {w u : World} {t t' : LoadedTarget} {name : String} {q : Progress}
    (hbelow : w.IsBelow u) (hrest : LoadsSources rows u sources (t.addFailure name) t' q) :
    LoadsSources rows w sources t t' q where
  isBelow := hbelow.trans hrest.isBelow
  target := hrest.target
  modules := hrest.modules

/-- Loading the files of some sources holds the enumerations of those within reach, in order. -/
theorem gives_loadFiles {p : Progress} (hknows : imp.KnowsEnums p.world)
    (hholds : ∀ source ∈ sources, imp.HoldsSource rows directory source) (t : LoadedTarget) :
    ∃ t' q, LoadsSources rows p.world (withinReach directory sources) t t' q ∧
      Gives (imp.loadFiles directory t (sources.map fun source => Name.moduleFile source.name)) p
        t' q := by
  induction sources generalizing p t with
  | nil => exact ⟨t, p, ⟨.refl _, rfl, [], (List.append_nil _).symm, .nil⟩, gives_pure t p⟩
  | cons source sources ih =>
    obtain ⟨hreadable, hfile⟩ := hholds source List.mem_cons_self
    have hothers := fun source hsource => hholds source (List.mem_cons_of_mem _ hsource)
    have hpath := isPrefixOf_moduleExtension (moduleExtension_suffix source.name) directory
    rw [List.map_cons, loadFiles]
    cases hreach : isReachable (directory ++ [Name.moduleFile source.name]) with
    | true =>
      obtain ⟨u, hload, hbelow, hknows', henum⟩ :=
        gives_loadFile hknows hreadable hreach hfile hpath
      obtain ⟨t', q, hrest, hgives⟩ := ih (p := { p with world := u }) hknows' hothers
        (t.addModule (.inside p.world.modules.length))
      refine ⟨t', q, ?_, (Loads.gives_part hload).bind hgives⟩
      unfold withinReach
      rw [List.filter_cons_of_pos (by exact hreach)]
      exact .cons hbelow henum hrest
    | false =>
      obtain ⟨u, ⟨hbelow, hknows'⟩, hload⟩ := Loads.gives_part_of_error
        (ends_loadFile_of_long hknows hreach hpath) rfl
      obtain ⟨t', q, hrest, hgives⟩ := ih (p := { world := u, log := p.log ++ [_] }) hknows' hothers
        (t.addFailure (Path.ofLocation (directory ++ [Name.moduleFile source.name])).text)
      refine ⟨t', q, ?_, hload.bind (Gives.bind (gives_modify _ _) hgives)⟩
      unfold withinReach
      rw [List.filter_cons_of_neg (by simp [hreach])]
      exact .skip hbelow hrest

/-- Loading a directory of enum modules. -/
theorem gives_loadDirectory {p : Progress} (hknows : imp.KnowsEnums p.world)
    (hholds : imp.HoldsSources rows directory sources) (hne : sources ≠ []) (target : Target) :
    ∃ t' q, LoadsSources rows p.world (withinReach directory sources) { target } t' q ∧
      Gives (imp.loadDirectory target directory) p t' q := by
  obtain ⟨t', q, hloads, hload⟩ := gives_loadFiles hknows hholds.holds { target }
  refine ⟨t', q, hloads, ?_⟩
  unfold loadDirectory
  rw [hholds.publicFiles]
  dsimp only
  rw [if_neg (by simpa using hne)]
  exact hload

end Importer

/-!
## Roots in the order of the files
-/

namespace EnumSource

/-- Sources in the order of their files. -/
def inFileOrder (sources : List (EnumSource String)) : List (EnumSource String) :=
  sources.mergeSort fun a b => decide (Name.moduleFile a.name ≤ Name.moduleFile b.name)

theorem mem_inFileOrder {sources : List (EnumSource String)} {source : EnumSource String} :
    source ∈ inFileOrder sources ↔ source ∈ sources :=
  List.mem_mergeSort

theorem inFileOrder_perm (sources : List (EnumSource String)) : (inFileOrder sources).Perm sources :=
  List.mergeSort_perm _ _

theorem inFileOrder_ne_nil {sources : List (EnumSource String)} (h : sources ≠ []) :
    inFileOrder sources ≠ [] := by
  intro hnil
  have hperm := inFileOrder_perm sources
  rw [hnil] at hperm
  exact h hperm.nil_eq.symm

end EnumSource

namespace Importer

open EnumSource

variable {imp : Importer} {rows : EnumSource String → List Row} {l : Location}
  {sources : List (EnumSource String)} {u : FileTree Content}

/-- The file of an enum is a public module file. -/
theorem isPublic_moduleFile {name : String} (h : IsAsciiWord name.toList) :
    (endsWith moduleExtension (Name.moduleFile name) &&
      (Name.moduleFile name).toList.head? != some '_') = true := by
  obtain ⟨c, hc, halpha⟩ := Name.head?_moduleFile h
  have hne : c ≠ '_' := by
    rintro rfl
    cases halpha
  have hends : endsWith moduleExtension (Name.moduleFile name) = true := by
    unfold endsWith
    rw [List.isPrefixOf_iff_prefix, List.reverse_prefix]
    exact moduleExtension_suffix name
  rw [hends, hc]
  simpa using hne

/-- The public files of a directory of enum modules are all of them, in the order of their names. -/
theorem publicFiles_of_names
    (hnames : imp.files.names l = sources.map fun source => Name.moduleFile source.name)
    (hwords : ∀ source ∈ sources, IsAsciiWord source.name.toList) :
    imp.publicFiles l = (inFileOrder sources).map fun source => Name.moduleFile source.name := by
  have hpublic : (imp.files.names l).filter (fun name =>
      endsWith moduleExtension name && name.toList.head? != some '_') = imp.files.names l := by
    refine List.filter_eq_self.2 fun name hname => ?_
    rw [hnames] at hname
    obtain ⟨source, hsource, rfl⟩ := List.mem_map.1 hname
    exact isPublic_moduleFile (hwords source hsource)
  unfold publicFiles sortNames inFileOrder
  rw [hpublic, hnames]
  exact (List.map_mergeSort (s := fun a b => decide (a ≤ b))
    (f := fun source : EnumSource String => Name.moduleFile source.name)
    fun _ _ _ _ => rfl).symm

/-- The modules that were written into an empty directory are its public files. -/
theorem holdsSources_of_wroteModules (h : WroteModules rows l sources u imp.files)
    (hempty : u.names l = []) (hreadable : ∀ source ∈ sources, source.IsReadable (rows source)) :
    imp.HoldsSources rows l (inFileOrder sources) where
  publicFiles := by
    refine publicFiles_of_names ?_ fun source hsource => (hreadable source hsource).name
    rw [h.names, hempty, List.nil_append]
  holds source hsource := by
    have hmem := mem_inFileOrder.1 hsource
    refine ⟨hreadable source hmem, ?_⟩
    unfold FileTree.fileAt?
    rw [h.files source hmem]

/-- A session that scans a directory of enum modules finds the enumerations of those within reach. -/
theorem roots_of_holdsSources {text : String} {s : Session}
    (hfinds : imp.Finds text { text, kind := .directory, origin := .place l })
    (hholds : imp.HoldsSources rows l sources) (hne : sources ≠ [])
    (hnames : (sources.map (·.name)).Nodup) (hknows : imp.KnowsEnums s.world)
    (hcatalog : s.catalog = []) (hindexes : s.indexes = []) :
    Succeeds (Scans.roots imp [text]) s fun classes s' =>
      ∃ t w, imp.Finds text t.target ∧ s'.HasLoaded text t w ∧
        List.Forall₂ (fun source c => w.IsEnumClass source (rows source) c) (withinReach l sources)
          classes := by
  obtain ⟨t, q, hloads, hload⟩ := gives_loadDirectory
    (p := { world := s.world, log := s.log }) hknows hholds hne
    { text, kind := .directory, origin := .place l }
  obtain ⟨handles, hhandles, henums⟩ := hloads.modules
  rw [List.nil_append] at hhandles
  have hpoint : ∀ source ∈ withinReach l sources, '.' ∉ source.name.toList := by
    intro source hsource hmem
    have hword := (hholds.holds source (List.mem_of_mem_filter hsource)).readable.name.all '.' hmem
    revert hword
    decide
  have hfinds' : imp.Finds text t.target := by
    rw [hloads.target]
    exact hfinds
  have hload' : Gives (imp.loadTarget t.target) { world := s.world, log := s.log } t q := by
    rw [hloads.target]
    exact hload
  obtain ⟨classes, s', hroots, hclasses, hloaded⟩ :=
    Scans.roots_first hfinds' hload' hcatalog hindexes
  refine ⟨classes, s', hroots, t, q.world, hfinds', hloaded, ?_⟩
  rw [← hhandles] at henums
  rw [hclasses, World.rootsOf_enumModules henums hpoint
    (hnames.sublist (List.filter_sublist.map _))]
  simpa using World.flatMap_classesOf henums

end Importer

end TypeExport

import Mathlib.Data.List.Nodup
import Mathlib.Data.List.Perm.Subperm
import Mathlib.Data.List.ProdSigma
import TypeExport.Proofs.Renumbering.Defining
import TypeExport.Proofs.Text.UniqueReading
import TypeExport.Scan.Import

/-!
# Modules of worlds that mirror others

Two importers that differ in one file find the same modules, as long as no name leads to that file, and
the statements of these modules do the same.  What the imports of a run keep is a property of the
modules of its world.
-/

/-!
## Files that names lead to

Importing a dotted name looks for a module in one directory after the other.  A name leads to few
files, and a file is reached by few names.
-/

namespace TypeExport

namespace World

/-- A dotted name is that of a module below another one, or stands for itself. -/
theorem frontPart_append_lastPart {name : String} (h : frontPart name ≠ "") :
    frontPart name ++ "." ++ lastPart name = name := by
  have hsplit := List.takeWhile_append_dropWhile (p := (· != '.')) (l := name.toList.reverse)
  unfold frontPart lastPart at *
  cases hdrop : name.toList.reverse.dropWhile (· != '.') with
  | nil =>
    rw [hdrop] at h
    exact absurd rfl h
  | cons c rest =>
    have hpoint : c = '.' := by simpa using eq_false_of_dropWhile hdrop
    subst hpoint
    rw [hdrop] at hsplit
    apply String.toList_injective
    have hchars := congrArg List.reverse hsplit
    simp only [List.reverse_append, List.reverse_cons, List.reverse_reverse] at hchars
    simp only [List.drop_one, List.tail_cons, String.toList_append, String.toList_ofList]
    exact hchars

end World

/-- The words by which a module of a dotted name is looked for, one directory after the other. -/
inductive Leads : String → List String → Prop where
  | top {name : String} (hfront : World.frontPart name = "") : Leads name [name]
  | inside {name : String} {above : List String} (hfront : World.frontPart name ≠ "")
      (habove : Leads (World.frontPart name) above) : Leads name (above ++ [World.lastPart name])

namespace Leads

variable {name other : String} {words : List String}

theorem ne_nil (h : Leads name words) : words ≠ [] := by
  cases h with
  | top _ => simp
  | inside _ _ => simp

/-- Words lead to the module of one name. -/
theorem unique (h : Leads name words) (h' : Leads other words) : name = other := by
  induction h generalizing other with
  | @top name hfront =>
    generalize hwords : [name] = words at h'
    cases h' with
    | top _ => exact (List.cons.inj hwords).1
    | @inside _ above hfront' habove =>
      rcases List.append_eq_singleton_iff.1 hwords.symm with ⟨h, -⟩ | ⟨-, h⟩
      · exact absurd h habove.ne_nil
      · cases h
  | @inside name above hfront habove ih =>
    generalize hwords : above ++ [World.lastPart name] = words at h'
    cases h' with
    | top _ =>
      rcases List.append_eq_singleton_iff.1 hwords with ⟨h, -⟩ | ⟨-, h⟩
      · exact absurd h habove.ne_nil
      · cases h
    | @inside _ above' hfront' habove' =>
      obtain ⟨habove_eq, hlast⟩ := List.append_inj' hwords rfl
      subst habove_eq
      have hsame := ih habove'
      have hlast' : World.lastPart name = World.lastPart other := (List.cons.inj hlast).1
      rw [← World.frontPart_append_lastPart hfront, ← World.frontPart_append_lastPart hfront',
        hsame, hlast']

end Leads

theorem FileTree.mem_of_fileAt? {κ : Type} {t : FileTree κ} {l : Location} {content : κ}
    (h : t.fileAt? l = some content) : l ∈ t.entries.map (·.1) := by
  unfold fileAt? find? at h
  split at h
  · rename_i content' hfound
    split at hfound
    · cases hfound
    · obtain ⟨before, after, hentries, -⟩ := List.lookup_eq_some_iff.1 hfound
      rw [hentries]
      simp
  · cases h

/-- The dotted names that a module imports, or may import to find a name that it takes from another
module. -/
def SourceModule.imports (m : SourceModule) : List String :=
  m.body.flatMap fun
    | .importModule source => [source]
    | .importNames source first others =>
      source :: ((first :: others).filter fun (name, _) => name ≠ "*").map fun (name, _) =>
        source ++ "." ++ name
    | _ => []

namespace Importer

variable (imp : Importer)

/-- The directory is one of those in which the modules below a module of a dotted name stand. -/
def Holds (name : String) (directory : Location) : Prop :=
  ∃ start ∈ imp.searchPath, ∃ words, Leads name words ∧ directory = start ++ words

/-- A file that importing a dotted name may run: the file of a package, or that of a module. -/
def Reaches (name : String) (l : Location) : Prop :=
  ∃ start ∈ imp.searchPath, ∃ above word, Leads name (above ++ [word]) ∧
    (l = start ++ above ++ [word] ++ [packageFile] ∨
      l = start ++ above ++ [word ++ moduleExtension])

/-- Importing the name runs no other files than these. -/
def RunsOnly (runs : Location → Prop) (name : String) : Prop :=
  ∀ k, imp.Reaches name k → runs k

/-- Whatever one of the files imports is one of them too. -/
def IsClosed (runs : Location → Prop) : Prop :=
  ∀ k content m, runs k → imp.files.fileAt? k = some content → content.sourceModule = .ok m →
    ∀ source ∈ m.imports, ∀ name ∈ namesAbove source, imp.RunsOnly runs name

/-- The files that may run when some files do: these, and those that they import. -/
inductive MayRun (first : Location → Prop) : Location → Prop where
  | start {k : Location} : first k → MayRun first k
  | imported {k l : Location} {content : Content} {m : SourceModule} {source name : String} :
    MayRun first k → imp.files.fileAt? k = some content → content.sourceModule = .ok m →
    source ∈ m.imports → name ∈ namesAbove source → imp.Reaches name l → MayRun first l

/-- None of the files imports the one at `l`. -/
def Spares (runs : Location → Prop) (l : Location) : Prop :=
  ∀ k content m, runs k → imp.files.fileAt? k = some content → content.sourceModule = .ok m →
    ∀ source ∈ m.imports, ∀ name ∈ namesAbove source, ¬imp.Reaches name l

variable {imp} in
theorem Spares.not_mayRun {first : Location → Prop} {l : Location}
    (h : imp.Spares (imp.MayRun first) l) (hfirst : ¬first l) : ¬imp.MayRun first l := by
  intro hl
  cases hl with
  | start hl => exact hfirst hl
  | imported hk hcontent hm hsource hname hreach =>
    exact h _ _ _ hk hcontent hm _ hsource _ hname hreach

theorem isClosed_mayRun (first : Location → Prop) : imp.IsClosed (imp.MayRun first) :=
  fun _ _ _ hk hcontent hm _ hsource _ hname _ hreach =>
    .imported hk hcontent hm hsource hname hreach

/-- What leads from a name to one of the files that it reaches. -/
def IsKey (name : String) : Location × Location × Bool → Prop
  | (start, l, isPackage) => ∃ above word, Leads name (above ++ [word]) ∧
      if isPackage then l = start ++ above ++ [word] ++ [packageFile]
      else l = start ++ above ++ [word ++ moduleExtension]

variable {imp} {name other : String}

/-- A place is the key of one name alone. -/
theorem IsKey.unique {key : Location × Location × Bool} (h : IsKey name key)
    (h' : IsKey other key) : name = other := by
  obtain ⟨start, l, isPackage⟩ := key
  obtain ⟨above, word, hleads, hl⟩ := h
  obtain ⟨above', word', hleads', hl'⟩ := h'
  refine hleads.unique (?_ : Leads other (above ++ [word]))
  cases isPackage with
  | true =>
    have hsame := hl.symm.trans hl'
    simp only [List.append_assoc, List.append_cancel_left_eq] at hsame
    obtain ⟨habove, hword⟩ := List.append_inj' hsame rfl
    rw [habove, (List.cons.inj hword).1]
    exact hleads'
  | false =>
    have hsame := hl.symm.trans hl'
    simp only [List.append_assoc, List.append_cancel_left_eq] at hsame
    obtain ⟨habove, hword⟩ := List.append_inj' hsame rfl
    have hsuffix : word = word' := by
      have hchars := congrArg String.toList (List.cons.inj hword).1
      rw [String.toList_append, String.toList_append] at hchars
      exact String.toList_injective (List.append_cancel_right hchars)
    rw [habove, hsuffix]
    exact hleads'

theorem Reaches.exists_key {l : Location} {content : Content} (h : imp.Reaches name l)
    (hl : imp.files.fileAt? l = some content) :
    ∃ key ∈ imp.searchPath ×ˢ (imp.files.entries.map (·.1) ×ˢ [true, false]),
      IsKey name key := by
  have hentry : l ∈ imp.files.entries.map (·.1) := FileTree.mem_of_fileAt? hl
  obtain ⟨start, hstart, above, word, hleads, hpackage | hfile⟩ := h
  · refine ⟨(start, l, true), ?_, above, word, hleads, hpackage⟩
    simp [hstart, hentry]
  · refine ⟨(start, l, false), ?_, above, word, hleads, hfile⟩
    simp [hstart, hentry]

/-- Names that all reach a file are not many more than the files. -/
theorem length_le_of_reaches {names : List String} (hnodup : names.Nodup)
    (hreach : ∀ name ∈ names, ∃ l content, imp.files.fileAt? l = some content ∧
      imp.Reaches name l) :
    names.length ≤ imp.searchPath.length * (imp.files.entries.length * 2) := by
  have hkey : ∀ name, ∃ key, name ∈ names →
      key ∈ imp.searchPath ×ˢ (imp.files.entries.map (·.1) ×ˢ [true, false]) ∧
        IsKey name key := by
    intro name
    by_cases hname : name ∈ names
    · obtain ⟨l, content, hl, hreaches⟩ := hreach name hname
      obtain ⟨key, hmem, hkey⟩ := hreaches.exists_key hl
      exact ⟨key, fun _ => ⟨hmem, hkey⟩⟩
    · exact ⟨([], [], true), fun h => absurd h hname⟩
  choose key hkey using hkey
  have hkeys : (names.map key).Nodup := List.Nodup.map_on (fun a ha b hb hab =>
    (hkey a ha).2.unique (hab ▸ (hkey b hb).2)) hnodup
  have hsub : names.map key ⊆
      imp.searchPath ×ˢ (imp.files.entries.map (·.1) ×ˢ [true, false]) := by
    intro k hk
    obtain ⟨name, hname, rfl⟩ := List.mem_map.1 hk
    exact (hkey name hname).1
  have hle := (List.subperm_of_subset hkeys hsub).length_le
  simpa [List.length_product] using hle

end Importer

end TypeExport

/-!
## Modules that are found
-/

namespace TypeExport

/-- What stays of a module once it is imported. -/
structure ModuleOutline where
  name : String
  source : ModuleSource
  directories : Option (List Location)

def ImportedModule.outline (m : ImportedModule) : ModuleOutline :=
  { name := m.name, source := m.source, directories := m.directories }

def World.outlines (w : World) : List ModuleOutline :=
  w.modules.map ImportedModule.outline

theorem World.outlines_addModule (w : World) (m : ImportedModule) :
    (w.addModule m).outlines = w.outlines ++ [m.outline] :=
  List.map_append

namespace Importer

/-- The importers differ at most in the file at `l`. -/
structure AgreesOff (imp imp' : Importer) (l : Location) : Prop where
  searchPath : imp'.searchPath = imp.searchPath
  installed : imp'.installed = imp.installed
  digest : imp'.digest = imp.digest
  find? : ∀ k, k ≠ l → imp'.files.find? k = imp.files.find? k
  isDirectory : imp'.files.isDirectory l = imp.files.isDirectory l
  entries : imp.files.entries.length ≤ imp'.files.entries.length

/-- What imports keep while the modules `running` run: the registered modules have their names,
submodules are looked for where their names lead to, and no module is that of the file at `l`.  The
modules that were there before, `kept`, are still there. -/
structure Consistent (imp : Importer) (l : Location) (kept : List ModuleOutline)
    (running : List String) (w : World) : Prop where
  named : ∀ name i, w.registry.lookup name = some i → ∃ o, w.outlines[i]? = some o ∧ o.name = name
  placed : ∀ o ∈ w.outlines, ∀ directories, o.directories = some directories →
    ∀ d ∈ directories, imp.Holds o.name d
  spared : ∀ o ∈ w.outlines, o.source ≠ .file l
  prior : kept <+: w.outlines
  nodup : running.Nodup
  registered : ∀ name ∈ running, (w.registry.lookup name).isSome
  reaching : ∀ name ∈ running, ∃ k content, imp.files.fileAt? k = some content ∧
    imp.Reaches name k

variable {imp imp' : Importer} {l : Location} {ρ τ σ : Nat ↪ Nat} {w w' v : World} {name : String}
  {kept : List ModuleOutline} {running : List String} {h : ModuleHandle}

namespace Consistent

/-- Worlds with the same outlines and the same register. -/
theorem congr (hw : imp.Consistent l kept running w) (houtlines : v.outlines = w.outlines)
    (hregistry : v.registry = w.registry) : imp.Consistent l kept running v where
  named := by rw [houtlines, hregistry]; exact hw.named
  placed := by rw [houtlines]; exact hw.placed
  spared := by rw [houtlines]; exact hw.spared
  prior := by rw [houtlines]; exact hw.prior
  nodup := hw.nodup
  registered := by rw [hregistry]; exact hw.registered
  reaching := hw.reaching

/-- Fewer modules are kept. -/
theorem mono {kept' : List ModuleOutline} (hw : imp.Consistent l kept' running w)
    (h : kept <+: kept') : imp.Consistent l kept running w :=
  { hw with prior := h.trans hw.prior }

/-- All modules that are there are kept. -/
theorem keepAll (hw : imp.Consistent l kept running w) :
    imp.Consistent l w.outlines running w :=
  { hw with prior := List.prefix_refl _ }

theorem outlines_changeModule (w : World) (index : Nat) {f : ImportedModule → ImportedModule}
    (hf : ∀ m, (f m).outline = m.outline) : (w.changeModule index f).outlines = w.outlines := by
  unfold World.outlines
  refine List.ext_getElem? fun i => ?_
  rw [List.getElem?_map, List.getElem?_map, World.getElem?_changeModule]
  split
  · cases w.modules[i]? with
    | none => rfl
    | some m => exact congrArg some (hf m)
  · rfl

theorem changeModule (hw : imp.Consistent l kept running w) {f : ImportedModule → ImportedModule}
    (hf : ∀ m, (f m).outline = m.outline) (index : Nat) :
    imp.Consistent l kept running (w.changeModule index f) :=
  hw.congr (outlines_changeModule w index hf) (w.registry_changeModule index f)

theorem bind (hw : imp.Consistent l kept running w) (index : Nat) (name : String) (value : Hint) :
    imp.Consistent l kept running (w.bind index name value) :=
  hw.changeModule (f := fun m => { m with names := Keyed.put name value m.names })
    (fun _ => rfl) index

/-- A module that joins the world, placed where its name leads to. -/
theorem addModule (hw : imp.Consistent l kept running w) {m : ImportedModule}
    (hplaced : ∀ directories, m.directories = some directories →
      ∀ d ∈ directories, imp.Holds m.name d)
    (hspared : m.source ≠ .file l) :
    imp.Consistent l kept running (w.addModule m) := by
  have houtlines := World.outlines_addModule w m
  have hlookup : ∀ name, (w.addModule m).registry.lookup name =
      if name = m.name then some w.modules.length else w.registry.lookup name :=
    fun name => Keyed.lookup_put m.name name w.modules.length w.registry
  refine ⟨fun name i hi => ?_, fun o ho => ?_, fun o ho => ?_, ?_, hw.nodup, fun name hname => ?_,
    hw.reaching⟩
  · rw [hlookup] at hi
    rw [houtlines]
    split at hi
    · rename_i hname
      cases hi
      refine ⟨m.outline, ?_, hname.symm⟩
      have hlength : w.outlines.length = w.modules.length := List.length_map _
      rw [← hlength, List.getElem?_concat_length]
    · obtain ⟨o, ho, hname⟩ := hw.named name i hi
      obtain ⟨hlt, -⟩ := List.getElem?_eq_some_iff.1 ho
      exact ⟨o, by rw [List.getElem?_append_left hlt, ho], hname⟩
  · rw [houtlines] at ho
    rcases List.mem_append.1 ho with hold | hnew
    · exact hw.placed o hold
    · rw [List.mem_singleton.1 hnew]
      exact hplaced
  · rw [houtlines] at ho
    rcases List.mem_append.1 ho with hold | hnew
    · exact hw.spared o hold
    · rw [List.mem_singleton.1 hnew]
      exact hspared
  · rw [houtlines]
    exact hw.prior.trans (List.prefix_append _ _)
  · rw [hlookup]
    split
    · rfl
    · exact hw.registered name hname

/-- A module begins to run. -/
theorem start (hw : imp.Consistent l kept running w) (hnew : name ∉ running)
    (hregistered : (w.registry.lookup name).isSome) {k : Location} {content : Content}
    (hk : imp.files.fileAt? k = some content) (hreach : imp.Reaches name k) :
    imp.Consistent l kept (name :: running) w where
  named := hw.named
  placed := hw.placed
  spared := hw.spared
  prior := hw.prior
  nodup := List.nodup_cons.2 ⟨hnew, hw.nodup⟩
  registered := List.forall_mem_cons.2 ⟨hregistered, hw.registered⟩
  reaching := List.forall_mem_cons.2 ⟨⟨k, content, hk, hreach⟩, hw.reaching⟩

/-- A module has run. -/
theorem finish (hw : imp.Consistent l kept (name :: running) w) :
    imp.Consistent l kept running w where
  named := hw.named
  placed := hw.placed
  spared := hw.spared
  prior := hw.prior
  nodup := (List.nodup_cons.1 hw.nodup).2
  registered := (List.forall_mem_cons.1 hw.registered).2
  reaching := (List.forall_mem_cons.1 hw.reaching).2

/-- A module that does not run is taken off the register. -/
theorem unregister (hw : imp.Consistent l kept running w) (hname : name ∉ running) :
    imp.Consistent l kept running (w.unregister name) := by
  have hlookup : ∀ n, (w.unregister name).registry.lookup n =
      if n = name then none else w.registry.lookup n := fun n => Keyed.lookup_erase name n w.registry
  refine ⟨fun n i hi => ?_, hw.placed, hw.spared, hw.prior, hw.nodup, fun n hn => ?_, hw.reaching⟩
  · rw [hlookup] at hi
    split at hi
    · cases hi
    · exact hw.named n i hi
  · rw [hlookup, if_neg (ne_of_mem_of_not_mem hn hname)]
    exact hw.registered n hn

theorem outline (hw : imp.Consistent l kept running w) {i : Nat}
    (hi : w.registry.lookup name = some i) :
    ∃ m, w.modules[i]? = some m ∧ m.name = name := by
  obtain ⟨o, ho, hname⟩ := hw.named name i hi
  rw [World.outlines, List.getElem?_map, Option.map_eq_some_iff] at ho
  obtain ⟨m, hm, rfl⟩ := ho
  exact ⟨m, hm, hname⟩

/-- A registered name has a module. -/
theorem registered?_isSome (hw : imp.Consistent l kept running w)
    (h : (w.registry.lookup name).isSome) : (imp.registered? w name).isSome := by
  obtain ⟨i, hi⟩ := Option.isSome_iff_exists.1 h
  obtain ⟨m, hm, -⟩ := hw.outline hi
  unfold registered?
  rw [hi]
  dsimp only
  rw [hm]
  rfl

/-- A module is registered under its own name. -/
theorem name_of_registered? (hw : imp.Consistent l kept running w)
    (h' : imp.registered? w name = some h) : h.name w = name := by
  unfold registered? at h'
  split at h'
  · rename_i i hi
    obtain ⟨m, hm, hname⟩ := hw.outline hi
    rw [hm] at h'
    dsimp only at h'
    split at h' <;> cases h'
    · rfl
    · show ((w.modules[i]?).map (·.name)).getD "" = name
      rw [hm]
      exact hname
  · split at h' <;> cases h'
    rfl

/-- The directories of the submodules of a registered module are where its name leads to. -/
theorem holds_of_directoriesOf? (hw : imp.Consistent l kept running w)
    (h' : imp.registered? w name = some h) {directories : List Location}
    (hdirectories : imp.directoriesOf? w h = some directories) :
    ∀ d ∈ directories, imp.Holds name d := by
  have hname := hw.name_of_registered? h'
  cases h with
  | outside other =>
    unfold directoriesOf? at hdirectories
    dsimp only at hdirectories
    split at hdirectories <;> cases hdirectories
    exact fun _ hd => absurd hd List.not_mem_nil
  | inside i =>
    obtain ⟨m, hm, hsome⟩ := Option.bind_eq_some_iff.1
      (show (w.modules[i]?).bind (·.directories) = some directories from hdirectories)
    have hm_name : m.name = name := by
      rw [← hname]
      show _ = ((w.modules[i]?).map (·.name)).getD ""
      rw [hm]
      rfl
    rw [← hm_name]
    exact hw.placed m.outline (List.mem_map_of_mem (List.mem_of_getElem? hm)) directories hsome

end Consistent

section Lookups

variable (hmirrors : w.Mirrors ρ τ w')
include hmirrors

/-- Both worlds register the same names. -/
theorem registered?_mirrors (hinstalled : imp'.installed = imp.installed) (name : String) :
    imp'.registered? w' name = (imp.registered? w name).map (ModuleHandle.renumber τ) := by
  unfold registered? isLoaded
  rw [hmirrors.lookup, hinstalled]
  cases w.registry.lookup name with
  | none =>
    dsimp only [Option.map_none]
    split <;> rfl
  | some i =>
    dsimp only [Option.map_some]
    rw [hmirrors.module? ρ hmirrors.agrees]
    cases w.modules[i]? with
    | none => rfl
    | some m =>
      show some (if m.source = .library then _ else _) = Option.map _ (some (if _ then _ else _))
      split <;> rfl

theorem directoriesOf?_mirrors (hinstalled : imp'.installed = imp.installed) (h : ModuleHandle) :
    imp'.directoriesOf? w' (h.renumber τ) = imp.directoriesOf? w h := by
  cases h with
  | outside name =>
    show (if imp'.isLibraryPackage name then _ else _) = if imp.isLibraryPackage name then _ else _
    unfold isLibraryPackage libraryModules
    rw [hinstalled]
  | inside i =>
    show (w'.modules[τ i]?).bind _ = (w.modules[i]?).bind _
    rw [hmirrors.module? ρ hmirrors.agrees]
    cases w.modules[i]? <;> rfl

end Lookups

/-- The directory is one of those where a word of a dotted name is looked for. -/
def SearchesIn (imp : Importer) (name word : String) (d : Location) : Prop :=
  ∃ start ∈ imp.searchPath, ∃ above, Leads name (above ++ [word]) ∧ d = start ++ above

theorem searchesIn_top (hfront : World.frontPart name = "") {d : Location}
    (hd : d ∈ imp.searchPath) : imp.SearchesIn name name d :=
  ⟨d, hd, [], .top hfront, (List.append_nil d).symm⟩

theorem Holds.searchesIn {d : Location} (hd : imp.Holds (World.frontPart name) d)
    (hfront : World.frontPart name ≠ "") : imp.SearchesIn name (World.lastPart name) d := by
  obtain ⟨start, hstart, words, hleads, rfl⟩ := hd
  exact ⟨start, hstart, words, .inside hfront hleads, rfl⟩

namespace AgreesOff

variable (hoff : imp.AgreesOff imp' l)
include hoff

theorem fileAt? {k : Location} (hk : k ≠ l) : imp'.files.fileAt? k = imp.files.fileAt? k := by
  unfold FileTree.fileAt?
  rw [hoff.find? k hk]

theorem sourceAt {k : Location} (hk : k ≠ l) : imp'.sourceAt k = imp.sourceAt k := by
  unfold Importer.sourceAt
  rw [hoff.fileAt? hk]

theorem offer {word : String} {d : Location} (hd : imp.SearchesIn name word d)
    (hname : ¬imp.Reaches name l) : imp'.offer word d = imp.offer word d := by
  obtain ⟨start, hstart, above, hleads, rfl⟩ := hd
  have hpackage : start ++ above ++ [word] ++ [packageFile] ≠ l := fun h =>
    hname ⟨start, hstart, above, word, hleads, .inl h.symm⟩
  have hfile : start ++ above ++ [word ++ moduleExtension] ≠ l := fun h =>
    hname ⟨start, hstart, above, word, hleads, .inr h.symm⟩
  unfold Importer.offer isFile
  dsimp only
  rw [hoff.fileAt? hpackage, hoff.fileAt? hfile]

theorem portions (word : String) (directories : List Location) :
    imp'.portions word directories = imp.portions word directories := by
  have hdirectory : imp'.isDirectory = imp.isDirectory := by
    funext k
    unfold Importer.isDirectory
    by_cases hk : k = l
    · rw [hk, hoff.isDirectory]
    · unfold FileTree.isDirectory
      rw [hoff.find? k hk]
  unfold Importer.portions
  rw [hdirectory]

theorem libraryModule? (name : String) : imp'.libraryModule? name = imp.libraryModule? name := by
  unfold Importer.libraryModule? isLibrary
  rw [hoff.installed]

/-- A name that does not reach the other file is found alike in directories. -/
theorem findIn {word : String} {directories : List Location}
    (hdirectories : ∀ d ∈ directories, imp.SearchesIn name word d) (hname : ¬imp.Reaches name l)
    (fallback : Option FoundModule) :
    imp'.findIn directories word fallback = imp.findIn directories word fallback := by
  have hoffer : directories.findSome? (imp'.offer word) = directories.findSome? (imp.offer word) := by
    clear fallback
    induction directories with
    | nil => rfl
    | cons d rest ih =>
      rw [List.findSome?_cons, List.findSome?_cons, ih fun d hd =>
        hdirectories d (List.mem_cons_of_mem _ hd), hoff.offer
        (hdirectories d List.mem_cons_self) hname]
  unfold Importer.findIn
  rw [hoffer, hoff.portions]

/-- A name that does not lead to the file is found in the same place. -/
theorem find (hmirrors : w.Mirrors ρ τ w') (hw : imp.Consistent l kept running w)
    (hname : ¬imp.Reaches name l) : imp'.find w' name = imp.find w name := by
  unfold Importer.find
  dsimp only
  split
  · rename_i hempty
    have hfront : World.frontPart name = "" := String.isEmpty_iff.1 hempty
    rw [hoff.searchPath, hoff.libraryModule?, hoff.findIn
      (fun d hd => searchesIn_top hfront hd) hname]
  · rename_i hempty
    have hfront : World.frontPart name ≠ "" := fun h => hempty (String.isEmpty_iff.2 h)
    have hbelow : (imp'.registered? w' (World.frontPart name)).bind (imp'.directoriesOf? w') =
        (imp.registered? w (World.frontPart name)).bind (imp.directoriesOf? w) := by
      rw [registered?_mirrors hmirrors hoff.installed]
      cases imp.registered? w (World.frontPart name) with
      | none => rw [Option.map_none, Option.bind_none, Option.bind_none]
      | some h => exact directoriesOf?_mirrors hmirrors hoff.installed h
    rw [hbelow]
    cases hdirectories : (imp.registered? w (World.frontPart name)).bind (imp.directoriesOf? w) with
    | none => rfl
    | some directories =>
      obtain ⟨h, hregistered, hsome⟩ := Option.bind_eq_some_iff.1 hdirectories
      dsimp only
      rw [hoff.libraryModule?, hoff.findIn (fun d hd =>
        (hw.holds_of_directoriesOf? hregistered hsome d hd).searchesIn hfront) hname]

end AgreesOff

theorem exists_content_of_sourceAt {k : Location} {m : SourceModule}
    (h : imp.sourceAt k = .ok m) :
    ∃ content, imp.files.fileAt? k = some content ∧ content.sourceModule = .ok m := by
  unfold sourceAt at h
  split at h
  · cases h
  · split at h
    · cases h
    · rename_i content hcontent
      exact ⟨content, hcontent, h⟩

/-- What is found for a name stands where the name leads to. -/
structure IsPlaced (imp : Importer) (name : String) (found : FoundModule) : Prop where
  directories : ∀ directories, found.directories = some directories →
    ∀ d ∈ directories, imp.Holds name d
  file : ∀ k, found.source = .file k → (∃ content, imp.files.fileAt? k = some content) ∧
    imp.Reaches name k

theorem exists_content_of_isFile {k : Location} (h : imp.isFile k = true) :
    ∃ content, imp.files.fileAt? k = some content :=
  Option.isSome_iff_exists.1 (Bool.and_eq_true_iff.1 h).2

/-- What a directory offers stands where the name leads. -/
theorem isPlaced_of_offer {word : String} {d : Location} (hd : imp.SearchesIn name word d)
    {found : FoundModule} (h : imp.offer word d = some found) : imp.IsPlaced name found := by
  obtain ⟨start, hstart, above, hleads, rfl⟩ := hd
  unfold offer at h
  dsimp only at h
  split at h
  · rename_i hfile
    cases h
    refine ⟨fun directories hsome d hd => ?_, fun k hk => ?_⟩
    · cases hsome
      rw [List.mem_singleton.1 hd, List.append_assoc]
      exact ⟨start, hstart, above ++ [word], hleads, rfl⟩
    · cases hk
      exact ⟨exists_content_of_isFile hfile, start, hstart, above, word, hleads, .inl rfl⟩
  · split at h
    · rename_i hfile
      cases h
      refine ⟨fun directories hsome => (by cases hsome), fun k hk => ?_⟩
      cases hk
      exact ⟨exists_content_of_isFile hfile, start, hstart, above, word, hleads, .inr rfl⟩
    · cases h

/-- So does what is found in the first of some directories. -/
theorem isPlaced_of_findIn {word : String} {directories : List Location}
    (hdirectories : ∀ d ∈ directories, imp.SearchesIn name word d) {found : FoundModule}
    (h : imp.findIn directories word (imp.libraryModule? name) = some found) :
    imp.IsPlaced name found := by
  unfold findIn at h
  rcases Option.or_eq_some_iff.1 h with hoffer | ⟨-, hrest⟩
  · obtain ⟨d, hd, hsome⟩ := List.exists_of_findSome?_eq_some hoffer
    exact isPlaced_of_offer (hdirectories d hd) hsome
  · rcases Option.or_eq_some_iff.1 hrest with hlibrary | ⟨-, hportions⟩
    · unfold libraryModule? at hlibrary
      split at hlibrary <;> cases hlibrary
      exact ⟨fun _ h => (by cases h), fun _ h => (by cases h)⟩
    · split at hportions
      · cases hportions
      · cases hportions
        refine ⟨fun found hsome d hd => ?_, fun _ h => (by cases h)⟩
        cases hsome
        have hmem := (List.mem_filter.1 hd).1
        obtain ⟨above, habove, rfl⟩ := List.mem_map.1 hmem
        obtain ⟨start, hstart, words, hleads, rfl⟩ := hdirectories above habove
        exact ⟨start, hstart, words ++ [word], hleads, List.append_assoc _ _ _⟩

/-- So does whatever is found under a name. -/
theorem isPlaced_of_find (hw : imp.Consistent l kept running w) {found : FoundModule}
    (h : imp.find w name = .ok (some found)) : imp.IsPlaced name found := by
  unfold find at h
  dsimp only at h
  split at h
  · rename_i hempty
    exact isPlaced_of_findIn (fun d hd => searchesIn_top (String.isEmpty_iff.1 hempty) hd)
      (Except.ok.inj h)
  · rename_i hempty
    have hfront : World.frontPart name ≠ "" := fun h => hempty (String.isEmpty_iff.2 h)
    split at h
    · cases h
    · rename_i directories hdirectories
      obtain ⟨h', hregistered, hsome⟩ := Option.bind_eq_some_iff.1 hdirectories
      exact isPlaced_of_findIn (fun d hd =>
        (hw.holds_of_directoriesOf? hregistered hsome d hd).searchesIn hfront) (Except.ok.inj h)

end Importer

/-!
## Modules that run

The statements of a module do the same in a world that mirrors another one, if its imports do.
-/

variable {imp imp' : Importer} {runs : Location → Prop} {l : Location} {ρ τ σ : Nat ↪ Nat}
  {w w' : World}
  {kept : List ModuleOutline} {running : List String}

namespace ModuleHandle

variable (hmirrors : w.Mirrors ρ τ w')
include hmirrors

theorem name_mirrors (h : ModuleHandle) : (h.renumber τ).name w' = h.name w := by
  cases h with
  | outside name => rfl
  | inside i =>
    show ((w'.modules[τ i]?).map (·.name)).getD "" = ((w.modules[i]?).map (·.name)).getD ""
    rw [hmirrors.module? ρ hmirrors.agrees]
    cases w.modules[i]? <;> rfl

/-- The names of a module have the same values, up to the numbers. -/
theorem value?_mirrors (hσ : AgreesBelow ρ w.classes.length σ) (h : ModuleHandle)
    (name : String) : (h.renumber τ).value? w' name = (h.value? w name).map (Hint.renumber σ) := by
  cases h with
  | outside m =>
    show libraryValue? m name = (libraryValue? m name).map _
    unfold libraryValue?
    split
    · rw [Option.map_some, Expr.hintOfName_renumber]
    · split <;> rfl
  | inside i =>
    show (w'.modules[τ i]?).bind _ = ((w.modules[i]?).bind _).map _
    rw [hmirrors.module? σ hσ]
    cases w.modules[i]? with
    | none => rfl
    | some m => exact lookup_map_values _ m.names name

/-- Its public names are the same. -/
theorem publicNames_mirrors (hσ : AgreesBelow ρ w.classes.length σ) (h : ModuleHandle) :
    (h.renumber τ).publicNames w' = renumberValues σ (h.publicNames w) := by
  cases h with
  | outside m =>
    show List.map _ _ = List.map _ (List.map _ _)
    rw [List.map_map]
    refine List.map_congr_left fun entry _ => ?_
    exact Prod.ext rfl (Expr.hintOfName_renumber entry.1 entry.2).symm
  | inside i =>
    show (((w'.modules[τ i]?).map (·.names)).getD []).filter _ =
      renumberValues σ ((((w.modules[i]?).map (·.names)).getD []).filter _)
    rw [hmirrors.module? σ hσ]
    cases w.modules[i]? with
    | none => rfl
    | some m =>
      exact filter_map_of_eq (f := Prod.map id (Hint.renumber σ))
        (p := fun entry => entry.1.toList.head? != some '_') (fun _ => rfl) m.names

/-- A module stands at the same place in both worlds. -/
theorem place_mirrors (h : ModuleHandle) : (h.renumber τ).place w' = h.place w := by
  cases h with
  | outside name => rfl
  | inside i =>
    unfold place renumber
    dsimp only
    rw [hmirrors.module? ρ hmirrors.agrees]
    cases w.modules[i]? with
    | none => rfl
    | some m =>
      obtain ⟨name, source, directories, names, ready⟩ := m
      cases source <;> rfl

end ModuleHandle

/-- A scope at the top of a module has no names of its own. -/
theorem Scope.renumber_of_names {scope : Scope} (h : scope.names = []) :
    scope.renumber σ = scope := by
  unfold Scope.renumber
  rw [h, renumberValues, List.map_nil, ← h]

namespace SourceModule

variable {load load' : String → Defines ModuleHandle}

/-- The imports of a module do the same in both worlds, and give the modules that are registered. -/
def LoadsFollow (imp : Importer) (runs : Location → Prop) (l : Location) (ρ τ : Nat ↪ Nat)
    (kept : List ModuleOutline) (running : List String)
    (load load' : String → Defines ModuleHandle) : Prop :=
  ∀ source, (∀ name ∈ Importer.namesAbove source, imp.RunsOnly runs name) →
    ∀ w w' : World, w.Mirrors ρ τ w' → imp.Consistent l kept running w →
      Follows id ρ τ (fun _ => ModuleHandle.renumber τ)
        (fun result v => imp.Consistent l kept running v ∧
          ∀ h, result = .ok h → imp.registered? v source = some h)
        (load source) (load' source) w w'

/-- What a step of a module keeps. -/
abbrev StepFollows (imp : Importer) (l : Location) (ρ τ : Nat ↪ Nat)
    (kept : List ModuleOutline) (running : List String) (x x' : Defines Unit) (w w' : World) : Prop :=
  Follows id ρ τ (fun _ => id) (fun _ v => imp.Consistent l kept running v) x x' w w'

theorem follows_bindName (hmirrors : w.Mirrors ρ τ w') (hw : imp.Consistent l kept running w)
    {v v' : Hint} (hv : ∀ σ, AgreesBelow ρ w.classes.length σ → v' = v.renumber σ) (index : Nat)
    (name : String) :
    StepFollows imp l ρ τ kept running (modify (·.bind index name v))
      (modify (·.bind (τ index) name v')) w w' :=
  follows_modify (Nat.le_of_eq (congrArg List.length (w.classes_bind index name v).symm))
    (hmirrors.bind hv index name) (hw.bind index name v)

/-- A module of a package is imported alike. -/
theorem follows_loadInside (hload : LoadsFollow imp runs l ρ τ kept running load load')
    {package name : String}
    (hname : ∀ n ∈ Importer.namesAbove (package ++ "." ++ name), imp.RunsOnly runs n)
    (hmirrors : w.Mirrors ρ τ w') (hw : imp.Consistent l kept running w) :
    StepFollows imp l ρ τ kept running (loadInside load package name)
      (loadInside load' package name) w w' := by
  unfold loadInside
  dsimp only
  refine Follows.tryCatch (P := fun _ v => imp.Consistent l kept running v) ?_ (fun _ _ => id) ?_
  · refine (hload _ hname w w' hmirrors hw).bind ?_ fun _ _ hv => hv.1
    intro h t h' t' _ ht _ hv
    exact follows_pure ht (fun _ _ => rfl) hv.1
  · intro f t t' _ ht hv
    split
    · exact follows_throw ht hv
    · exact follows_pure ht (fun _ _ => rfl) hv

/-- What is imported of a module is the same, up to the numbers. -/
theorem follows_importedValue (hinstalled : imp'.installed = imp.installed)
    (hmirrors : w.Mirrors ρ τ w') (hw : imp.Consistent l kept running w) (h : ModuleHandle)
    (name : String) :
    Follows id ρ τ Hint.renumber (fun _ v => imp.Consistent l kept running v)
      (importedValue imp h name) (importedValue imp' (h.renumber τ) name) w w' := by
  unfold importedValue
  apply follows_get_bind
  dsimp only
  rw [ModuleHandle.value?_mirrors hmirrors hmirrors.agrees]
  cases hvalue : h.value? w name with
  | some v =>
    refine follows_pure hmirrors (fun σ hσ => ?_) hw
    have hsame := (ModuleHandle.value?_mirrors hmirrors hmirrors.agrees h name).symm.trans
      (ModuleHandle.value?_mirrors hmirrors hσ h name)
    rw [hvalue] at hsame
    exact Option.some.inj hsame
  | none =>
    dsimp only [Option.map_none]
    rw [Importer.registered?_mirrors hmirrors hinstalled, ModuleHandle.name_mirrors hmirrors,
      ModuleHandle.place_mirrors hmirrors, Option.isSome_map]
    split
    · exact follows_pure hmirrors (fun _ _ => rfl) hw
    · exact follows_throw hmirrors hw

/-- All public names of a module at once. -/
theorem follows_bindAll (index : Nat) : ∀ (names : List (String × Hint)) {names' w w'},
    (w : World).Mirrors ρ τ w' → imp.Consistent l kept running w →
    (∀ σ, AgreesBelow ρ w.classes.length σ → names' = renumberValues σ names) →
    (names.foldl (fun w entry => w.bind index entry.1 entry.2) w).Mirrors ρ τ
        (names'.foldl (fun w entry => w.bind (τ index) entry.1 entry.2) w') ∧
      imp.Consistent l kept running (names.foldl (fun w entry => w.bind index entry.1 entry.2) w)
  | [], names', w, w', hmirrors, hw, hnames => by
    obtain rfl : names' = [] := hnames ρ hmirrors.agrees
    exact ⟨hmirrors, hw⟩
  | (name, v) :: rest, names', w, w', hmirrors, hw, hnames => by
    obtain rfl : names' = (name, v.renumber ρ) :: renumberValues ρ rest :=
      hnames ρ hmirrors.agrees
    rw [List.foldl_cons, List.foldl_cons]
    have hclasses : (w.bind index name v).classes.length = w.classes.length :=
      congrArg List.length (w.classes_bind index name v)
    refine follows_bindAll index rest (hmirrors.bind (fun σ hσ => ?_) index name)
      (hw.bind index name v) fun σ hσ => ?_
    · exact (Prod.ext_iff.1 (List.cons.inj (hnames σ hσ)).1).2
    · rw [hclasses] at hσ
      exact (List.cons.inj (hnames σ hσ)).2

/-- One name is imported alike. -/
theorem follows_importName (hinstalled : imp'.installed = imp.installed)
    (hmirrors : w.Mirrors ρ τ w') (hw : imp.Consistent l kept running w) (index : Nat)
    (h : ModuleHandle) (entry : String × String) :
    Follows id ρ τ (fun _ => id) (fun _ v => imp.Consistent l kept running v)
      (importName imp index h entry) (importName imp' (τ index) (h.renumber τ) entry) w w' := by
  unfold importName
  split
  · apply follows_get_bind
    obtain ⟨hbound, hconsistent⟩ := follows_bindAll index (h.publicNames w) hmirrors hw
      (fun σ hσ => ModuleHandle.publicNames_mirrors hmirrors hσ h)
    have hmodify : StepFollows imp l ρ τ kept running
        (modify fun _ => (h.publicNames w).foldl (fun w entry => w.bind index entry.1 entry.2) w)
        (modify fun _ => ((h.renumber τ).publicNames w').foldl
          (fun w entry => w.bind (τ index) entry.1 entry.2) w') w w' :=
      follows_modify (Nat.le_of_eq (congrArg List.length (classes_foldl_bind index _ w).symm))
        hbound hconsistent
    refine hmodify.bind ?_ fun _ _ => id
    intro _ t _ t' _ ht _ hv
    exact follows_pure ht (fun _ _ => rfl) hv
  · refine (follows_importedValue hinstalled hmirrors hw h entry.1).bind ?_ fun _ _ => id
    intro v t v' t' _ ht hv htw
    refine (follows_bindName ht htw hv index entry.2).bind ?_ fun _ _ => id
    intro _ u _ u' _ hu _ huw
    exact follows_pure hu (fun _ _ => rfl) huw

theorem follows_importWhole (hload : LoadsFollow imp runs l ρ τ kept running load load')
    {source : String} (hspared : ∀ name ∈ Importer.namesAbove source, imp.RunsOnly runs name)
    (hmirrors : w.Mirrors ρ τ w') (hw : imp.Consistent l kept running w) (index : Nat) :
    StepFollows imp l ρ τ kept running (importWhole load index source)
      (importWhole load' (τ index) source) w w' := by
  unfold importWhole
  refine (hload source hspared w w' hmirrors hw).bind ?_ fun _ _ hv => hv.1
  rintro h t h' t' _ ht - ⟨htw, -⟩
  exact follows_bindName ht htw (fun _ _ => rfl) index _

/-- All names of an import are imported alike. -/
theorem follows_importNames (hinstalled : imp'.installed = imp.installed)
    (hload : LoadsFollow imp runs l ρ τ kept running load load') {source : String}
    {names : List (String × String)}
    (hspared : ∀ n ∈ source :: (names.filter fun (name, _) => name ≠ "*").map fun (name, _) =>
      source ++ "." ++ name, ∀ name ∈ Importer.namesAbove n, imp.RunsOnly runs name)
    (hmirrors : w.Mirrors ρ τ w') (hw : imp.Consistent l kept running w) (index : Nat) :
    StepFollows imp l ρ τ kept running (importNames load imp index source names)
      (importNames load' imp' (τ index) source names) w w' := by
  unfold importNames
  refine (hload source (hspared source List.mem_cons_self) w w' hmirrors hw).bind ?_
    fun _ _ hv => hv.1
  rintro h t h' t' _ (ht : t.Mirrors ρ τ t') hh ⟨htw, hregistered⟩
  obtain rfl : h' = h.renumber τ := hh ρ ht.agrees
  have hnames : ∀ u u', (u : World).Mirrors ρ τ u' → imp.Consistent l kept running u →
      StepFollows imp l ρ τ kept running
        (do
          forIn names PUnit.unit fun entry _ => importName imp index h entry
          pure ())
        (do
          forIn names PUnit.unit fun entry _ => importName imp' (τ index) (h.renumber τ) entry
          pure ()) u u' := by
    intro u u' hu huw
    refine Follows.bind (follows_forIn (fun entry _ v v' _ hv hvw =>
      follows_importName hinstalled hv hvw index h entry) hu huw) ?_ fun _ _ => id
    intro _ v _ v' _ hv _ hvw
    exact follows_pure hv (fun _ _ => rfl) hvw
  apply follows_get_bind
  dsimp only
  rw [Importer.directoriesOf?_mirrors ht hinstalled, ModuleHandle.name_mirrors ht,
    htw.name_of_registered? (hregistered h rfl)]
  split
  · refine Follows.bind (f := fun _ => id) (P := fun _ v => imp.Consistent l kept running v)
      (follows_forIn (fun entry hentry v v' _ hv hvw => ?_) ht htw) ?_ fun _ _ => id
    · apply follows_get_bind
      have hv : v.Mirrors ρ τ v' := hv
      rw [ModuleHandle.value?_mirrors hv hv.agrees, Option.isNone_map]
      split
      · rename_i hmissing
        have hname : entry.1 ≠ "*" := of_decide_eq_true (Bool.and_eq_true_iff.1 hmissing).1
        refine (follows_loadInside hload (hspared _ (List.mem_cons_of_mem _ ?_)) hv hvw).bind ?_
          fun _ _ => id
        · exact List.mem_map.2 ⟨entry, List.mem_filter.2 ⟨hentry, decide_eq_true hname⟩, rfl⟩
        · intro _ u _ u' _ hu _ huw
          exact follows_pure hu (fun _ _ => rfl) huw
      · exact follows_pure hv (fun _ _ => rfl) hvw
    · intro _ u _ u' _ hu _ huw
      exact hnames u u' hu huw
  · exact hnames t t' ht htw

/-- What a module raises does not depend on numbers. -/
theorem raised_renumber (hw : Renumbers σ w w') (scope : Scope) (kind message : String) :
    raised w' (scope.renumber σ) kind message = raised w scope kind message := by
  unfold raised
  rw [Scope.evaluate_renumber hw]
  cases scope.evaluate w (.name kind) with
  | error f => rfl
  | ok v =>
    cases v with
    | type c =>
      show (if w'.derivesStandard (c.renumber σ) _ && !_ then Failure.raised _ _ else _) = _
      rw [hw.derivesStandard, hw.fullName, hw.shortName]
    | _ => rfl

theorem follows_evaluate (hmirrors : w.Mirrors ρ τ w') (hw : imp.Consistent l kept running w)
    {scope : Scope} (hscope : scope.names = []) (e : Expr) :
    Follows id ρ τ Hint.renumber (fun _ v => imp.Consistent l kept running v)
      (Defines.ofWorld fun w => scope.evaluate w e) (Defines.ofWorld fun w => scope.evaluate w e)
      w w' := by
  refine follows_ofWorld hmirrors (fun σ hσ => ?_) hw
  rw [← Scope.evaluate_renumber (hmirrors.renumbers hσ), Scope.renumber_of_names hscope]

/-- The step over one statement. -/
theorem follows_runStatement (hinstalled : imp'.installed = imp.installed)
    (hload : LoadsFollow imp runs l ρ τ kept running load load') {scope : Scope}
    (hscope : scope.names = []) {m : SourceModule}
    (hspared : ∀ source ∈ m.imports, ∀ name ∈ Importer.namesAbove source, imp.RunsOnly runs name)
    {s : Statement} (hs : s ∈ m.body) (hmirrors : w.Mirrors ρ τ w')
    (hw : imp.Consistent l kept running w) (index : Nat) :
    StepFollows imp l ρ τ kept running (runStatement load imp index scope s)
      (runStatement load' imp' (τ index) scope s) w w' := by
  cases s with
  | importModule source =>
    refine follows_importWhole hload (hspared source ?_) hmirrors hw index
    exact List.mem_flatMap.2 ⟨_, hs, List.mem_singleton_self source⟩
  | importNames source first others =>
    refine follows_importNames hinstalled hload (fun n hn => hspared n ?_) hmirrors hw index
    exact List.mem_flatMap.2 ⟨_, hs, hn⟩
  | bind name value =>
    refine (follows_evaluate hmirrors hw hscope value).bind ?_ fun _ _ => id
    intro v t v' t' _ ht hv htw
    exact follows_bindName ht htw hv index name
  | compute value =>
    refine (follows_evaluate hmirrors hw hscope value).bind ?_ fun _ _ => id
    intro v t v' t' _ ht _ htw
    exact follows_pure ht (fun _ _ => rfl) htw
  | newType name base =>
    refine (follows_evaluate hmirrors hw hscope base).bind ?_ fun _ _ => id
    intro v t v' t' _ ht hv htw
    refine follows_bindName ht htw (fun σ hσ => ?_) index name
    rw [hv σ hσ]
    rfl
  | raise kind message =>
    apply follows_get_bind
    have hfailure := raised_renumber (hmirrors.renumbers hmirrors.agrees) scope kind message
    rw [Scope.renumber_of_names hscope] at hfailure
    rw [hfailure]
    exact follows_throw hmirrors hw
  | define definition =>
    refine (ClassDefinition.follows_define definition hmirrors fun σ _ =>
      (Scope.renumber_of_names hscope).symm).bind ?_ ?_
    · intro c t c' t' _ ht hc hkeeps
      have htw : imp.Consistent l kept running t :=
        hw.congr (congrArg (List.map _) hkeeps.1) hkeeps.2
      refine follows_bindName ht htw (fun σ hσ => ?_) index _
      rw [hc σ hσ]
      rfl
    · intro f t hkeeps
      exact hw.congr (congrArg (List.map _) hkeeps.1) hkeeps.2

/-- A loop that gives names of the module values. -/
theorem follows_bindEach {γ : Type} {values : List γ} (value : γ → String × Hint)
    (hvalue : ∀ c σ, (value c).2.renumber σ = (value c).2) (hmirrors : w.Mirrors ρ τ w')
    (hw : imp.Consistent l kept running w) (index : Nat) :
    StepFollows imp l ρ τ kept running
      (forIn values PUnit.unit fun c _ => do
        modify (·.bind index (value c).1 (value c).2)
        pure (.yield ⟨⟩))
      (forIn values PUnit.unit fun c _ => do
        modify (·.bind (τ index) (value c).1 (value c).2)
        pure (.yield ⟨⟩)) w w' := by
  refine follows_forIn (fun c _ t t' _ ht htw => ?_) hmirrors hw
  refine (follows_bindName ht htw (fun σ _ => (hvalue c σ).symm) index (value c).1).bind ?_
    fun _ _ => id
  intro _ u _ u' _ hu _ huw
  exact follows_pure hu (fun _ _ => rfl) huw

/-- A module runs alike in both worlds. -/
theorem follows_run (hinstalled : imp'.installed = imp.installed)
    (hload : LoadsFollow imp runs l ρ τ kept running load load') {m : SourceModule}
    (hspared : ∀ source ∈ m.imports, ∀ name ∈ Importer.namesAbove source, imp.RunsOnly runs name)
    (hmirrors : w.Mirrors ρ τ w') (hw : imp.Consistent l kept running w) (index : Nat)
    (name : String) :
    StepFollows imp l ρ τ kept running (run load imp index name m)
      (run load' imp' (τ index) name m) w w' := by
  unfold run
  refine (follows_bindEach (fun entry : String × String => (entry.1, .module entry.2))
    (fun _ _ => rfl) hmirrors hw index).bind ?_ fun _ _ => id
  intro _ t _ t' _ ht _ htw
  refine (follows_bindEach (fun id : String => (id, .typeVariable id))
    (fun _ _ => rfl) ht htw index).bind ?_ fun _ _ => id
  intro _ u _ u' _ hu _ huw
  refine Follows.bind (f := fun _ => id) (P := fun _ v => imp.Consistent l kept running v)
    (follows_forIn (fun s hs v v' _ hv hvw => ?_) hu huw) ?_ fun _ _ => id
  · refine (follows_runStatement hinstalled hload rfl hspared hs hv hvw index).bind ?_
      fun _ _ => id
    intro _ x _ x' _ hx _ hxw
    exact follows_pure hx (fun _ _ => rfl) hxw
  · intro _ v _ v' _ hv _ hvw
    exact follows_pure hv (fun _ _ => rfl) hvw

end SourceModule

end TypeExport

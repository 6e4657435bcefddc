import TypeExport.Proofs.Renumbering.Running
import TypeExport.Proofs.Scan.Growth

/-!
# The register of modules

An import takes no name off the register and gives no registered name to another module: the names that
it adds are those of modules that join the world, and each leads to a file, a directory or a library.
Loading a file does the same for all names but the one of the file.
-/

namespace TypeExport

/-- The registered numbers are those of modules. -/
def World.IsIndexed (w : World) : Prop :=
  ∀ name i, w.registry.lookup name = some i → i < w.modules.length

namespace Importer

variable (imp : Importer)

/-- A module is found under the name in some world. -/
def Offers (name : String) : Prop :=
  ∃ w found, imp.find w name = .ok (some found)

/-- Nothing that an import could find is called so: no library, and no file or directory.  Below other
modules the last part of a dotted name counts. -/
structure IsUnused (name : String) : Prop where
  isLibrary : imp.isLibrary name = false
  entries : ∀ entry ∈ imp.files.entries, ∀ word ∈ [name, World.lastPart name],
    word ∉ entry.1 ∧ word ++ moduleExtension ∉ entry.1

/-- What happens to the register when a module of the name is loaded.  All other names lead where they
did, and a name that was not there is the name itself or one that an import finds; it leads to a module
that has joined the world. -/
structure LoadsUnder (name : String) (w v : World) : Prop where
  indexed : v.IsIndexed
  outlines : w.outlines <+: v.outlines
  kept : ∀ other i, other ≠ name → w.registry.lookup other = some i →
    v.registry.lookup other = some i
  added : ∀ other i, v.registry.lookup other = some i → w.registry.lookup other = some i ∨
    w.modules.length ≤ i ∧ (other = name ∨ imp.Offers other)

/-- What happens to the register during an import. -/
structure KeepsRegister (w v : World) : Prop where
  indexed : v.IsIndexed
  outlines : w.outlines <+: v.outlines
  kept : ∀ name i, w.registry.lookup name = some i → v.registry.lookup name = some i
  added : ∀ name i, v.registry.lookup name = some i →
    w.registry.lookup name = some i ∨ w.modules.length ≤ i ∧ imp.Offers name

/-- What is known of an import that begins with any register. -/
def ExtendsRegister (w v : World) : Prop :=
  w.IsIndexed → imp.KeepsRegister w v

end Importer

section Names

variable {imp : Importer} {name word : String} {directories : List Location}
  {fallback : Option FoundModule} {found : FoundModule}

theorem FileTree.mem_of_isDirectory {κ : Type} {t : FileTree κ} {l : Location} (hl : l ≠ [])
    (h : t.isDirectory l = true) : l ∈ t.entries.map (·.1) := by
  unfold isDirectory find? at h
  rw [if_neg (by simpa using hl)] at h
  split at h
  · rename_i hfound
    obtain ⟨before, after, hentries, -⟩ := List.lookup_eq_some_iff.1 hfound
    rw [hentries]
    simp
  · cases h

namespace Importer

theorem mem_of_isFile {l : Location} (h : imp.isFile l = true) :
    l ∈ imp.files.entries.map (·.1) := by
  obtain ⟨content, hcontent⟩ := exists_content_of_isFile h
  exact FileTree.mem_of_fileAt? hcontent

/-- A module that is found is a library module, or a file or directory is called like it. -/
theorem exists_entry_of_findIn (h : imp.findIn directories word fallback = some found) :
    fallback = some found ∨
      ∃ entry ∈ imp.files.entries, word ∈ entry.1 ∨ word ++ moduleExtension ∈ entry.1 := by
  unfold findIn at h
  rcases Option.or_eq_some_iff.1 h with hoffer | ⟨-, h⟩
  · obtain ⟨before, directory, after, -, hoffer, -⟩ := List.findSome?_eq_some_iff.1 hoffer
    unfold offer at hoffer
    dsimp only at hoffer
    right
    split at hoffer
    · rename_i hfile
      obtain ⟨entry, hentry, hplace⟩ := List.mem_map.1 (mem_of_isFile hfile)
      exact ⟨entry, hentry, .inl (by simp [hplace])⟩
    · split at hoffer
      · rename_i hfile
        obtain ⟨entry, hentry, hplace⟩ := List.mem_map.1 (mem_of_isFile hfile)
        exact ⟨entry, hentry, .inr (by simp [hplace])⟩
      · cases hoffer
  rcases Option.or_eq_some_iff.1 h with hfallback | ⟨-, h⟩
  · exact .inl hfallback
  · right
    split at h
    · cases h
    · rename_i portions hportions
      obtain ⟨directory, hmem⟩ := List.exists_mem_of_ne_nil (imp.portions word directories)
        (by simpa using hportions)
      obtain ⟨hmap, hdirectory⟩ := List.mem_filter.1 hmem
      obtain ⟨above, -, rfl⟩ := List.mem_map.1 hmap
      obtain ⟨entry, hentry, hplace⟩ :=
        List.mem_map.1 (FileTree.mem_of_isDirectory (by simp) (Bool.and_eq_true_iff.1 hdirectory).2)
      exact ⟨entry, hentry, .inl (by simp [hplace])⟩

/-- No module is found under a name that is unused. -/
theorem IsUnused.not_offers (h : imp.IsUnused name) : ¬imp.Offers name := by
  rintro ⟨w, found, hfind⟩
  have hlibrary : imp.libraryModule? name ≠ some found := by
    rw [libraryModule?, h.isLibrary]
    exact nofun
  have hword : ∀ word ∈ [name, World.lastPart name], ∀ directories,
      imp.findIn directories word (imp.libraryModule? name) ≠ some found := by
    intro word hword directories hfound
    rcases exists_entry_of_findIn hfound with hfallback | ⟨entry, hentry, hmem⟩
    · exact hlibrary hfallback
    · exact hmem.elim (h.entries entry hentry word hword).1 (h.entries entry hentry word hword).2
  unfold find at hfind
  dsimp only at hfind
  split at hfind
  · exact hword name (by simp) _ (Except.ok.inj hfind)
  · split at hfind
    · cases hfind
    · exact hword (World.lastPart name) (by simp) _ (Except.ok.inj hfind)

end Importer

end Names

section Worlds

variable {imp : Importer} {w v u : World} {name : String} {m : ImportedModule}

theorem World.length_outlines (w : World) : w.outlines.length = w.modules.length :=
  List.length_map _

theorem World.length_le_of_outlines (h : w.outlines <+: v.outlines) :
    w.modules.length ≤ v.modules.length := by
  rw [← w.length_outlines, ← v.length_outlines]
  exact h.length_le

namespace Importer

/-- A name without a module is neither registered nor loaded. -/
theorem lookup_of_registered?_eq_none (hw : w.IsIndexed) (h : imp.registered? w name = none) :
    w.registry.lookup name = none ∧ imp.isLoaded name = false := by
  unfold registered? at h
  cases hlookup : w.registry.lookup name with
  | some i =>
    rw [hlookup] at h
    dsimp only at h
    rw [List.getElem?_eq_getElem (hw name i hlookup)] at h
    cases h
  | none =>
    rw [hlookup] at h
    cases hloaded : imp.isLoaded name with
    | false => exact ⟨rfl, rfl⟩
    | true =>
      rw [hloaded] at h
      cases h

theorem registered?_eq_none (h : w.registry.lookup name = none) (hloaded : imp.isLoaded name = false) :
    imp.registered? w name = none := by
  unfold registered?
  rw [h, hloaded]
  rfl

namespace KeepsRegister

theorem refl (hw : w.IsIndexed) : imp.KeepsRegister w w where
  indexed := hw
  outlines := List.prefix_refl _
  kept _ _ h := h
  added _ _ h := .inl h

theorem trans (h : imp.KeepsRegister w v) (h' : imp.KeepsRegister v u) : imp.KeepsRegister w u where
  indexed := h'.indexed
  outlines := h.outlines.trans h'.outlines
  kept name i hi := h'.kept name i (h.kept name i hi)
  added name i hi := by
    rcases h'.added name i hi with hi | ⟨hle, hoffers⟩
    · exact h.added name i hi
    · exact .inr ⟨(World.length_le_of_outlines h.outlines).trans hle, hoffers⟩

/-- Worlds with the same outlines and the same register. -/
theorem of_same (hw : w.IsIndexed) (houtlines : v.outlines = w.outlines)
    (hregistry : v.registry = w.registry) : imp.KeepsRegister w v where
  indexed := by
    unfold World.IsIndexed
    rw [hregistry, ← v.length_outlines, houtlines, w.length_outlines]
    exact hw
  outlines := houtlines ▸ List.prefix_refl _
  kept name i hi := by rw [hregistry]; exact hi
  added name i hi := by rw [hregistry] at hi; exact .inl hi

end KeepsRegister

theorem isIndexed_addModule (hw : w.IsIndexed) (m : ImportedModule) : (w.addModule m).IsIndexed := by
  intro name i hi
  have hlength : (w.addModule m).modules.length = w.modules.length + 1 := List.length_append
  have hlookup := Keyed.lookup_put m.name name w.modules.length w.registry
  rw [hlength]
  have hi : (Keyed.put m.name w.modules.length w.registry).lookup name = some i := hi
  rw [hlookup] at hi
  split at hi
  · obtain rfl := Option.some.inj hi
    exact Nat.lt_succ_self _
  · exact Nat.lt_succ_of_lt (hw name i hi)

/-- A module joins the world, and then imports run. -/
theorem KeepsRegister.loadsUnder (h : imp.KeepsRegister (w.addModule m) v) :
    imp.LoadsUnder m.name w v where
  indexed := h.indexed
  outlines := by
    have hadd := World.outlines_addModule w m
    exact (hadd ▸ List.prefix_append w.outlines [m.outline]).trans h.outlines
  kept other i hne hi := by
    apply h.kept
    have hlookup := Keyed.lookup_put m.name other w.modules.length w.registry
    exact hlookup.trans ((if_neg hne).trans hi)
  added other i hi := by
    have hlength : (w.addModule m).modules.length = w.modules.length + 1 := List.length_append
    rcases h.added other i hi with hi | ⟨hle, hoffers⟩
    · have hlookup := Keyed.lookup_put m.name other w.modules.length w.registry
      have hi : (Keyed.put m.name w.modules.length w.registry).lookup other = some i := hi
      rw [hlookup] at hi
      split at hi
      · rename_i hname
        exact .inr ⟨Nat.le_of_eq (Option.some.inj hi), .inl hname⟩
      · exact .inl hi
    · exact .inr ⟨by omega, .inr hoffers⟩

namespace LoadsUnder

theorem refl (name : String) (hw : w.IsIndexed) : imp.LoadsUnder name w w where
  indexed := hw
  outlines := List.prefix_refl _
  kept _ _ _ h := h
  added _ _ h := .inl h

/-- The name may be taken off the register. -/
theorem unregister (h : imp.LoadsUnder name w v) : imp.LoadsUnder name w (v.unregister name) := by
  have hlookup : ∀ other, (v.unregister name).registry.lookup other =
      if other = name then none else v.registry.lookup other :=
    fun other => Keyed.lookup_erase name other v.registry
  have hold : ∀ other i, (v.unregister name).registry.lookup other = some i →
      v.registry.lookup other = some i := by
    intro other i hi
    rw [hlookup] at hi
    split at hi
    · cases hi
    · exact hi
  exact {
    indexed := fun other i hi => h.indexed other i (hold other i hi)
    outlines := h.outlines
    kept := fun other i hne hi => by
      rw [hlookup, if_neg hne]
      exact h.kept other i hne hi
    added := fun other i hi => h.added other i (hold other i hi) }

/-- Under a name that was not registered, and that an import finds, this is an import. -/
theorem keepsRegister (h : imp.LoadsUnder name w v) (hnew : w.registry.lookup name = none)
    (hoffers : imp.Offers name) : imp.KeepsRegister w v where
  indexed := h.indexed
  outlines := h.outlines
  kept other i hi := by
    apply h.kept other i _ hi
    rintro rfl
    rw [hnew] at hi
    cases hi
  added other i hi := by
    rcases h.added other i hi with hi | ⟨hle, rfl | hother⟩
    · exact .inl hi
    · exact .inr ⟨hle, hoffers⟩
    · exact .inr ⟨hle, hother⟩

end LoadsUnder

instance : IsPreorder World imp.ExtendsRegister where
  refl _ := KeepsRegister.refl
  trans _ _ _ h h' hw := (h hw).trans (h' (h hw).indexed)

/-- Imports extend the register. -/
theorem keptByImports_register (imp : Importer) : imp.KeptByImports imp.ExtendsRegister where
  addClass w info hw := .of_same hw rfl rfl
  bind w index name value hw := .of_same hw
    (Consistent.outlines_changeModule w index fun _ => rfl) (w.registry_changeModule index _)
  ready w index hw := .of_same hw
    (Consistent.outlines_changeModule w index fun _ => rfl) (w.registry_changeModule index _)
  imported {w v m found} hregistered hfind h := by
    have hload : w.IsIndexed → imp.LoadsUnder m.name w v := fun hw =>
      (h (isIndexed_addModule hw m)).loadsUnder
    have hnew : w.IsIndexed → w.registry.lookup m.name = none := fun hw =>
      (lookup_of_registered?_eq_none hw hregistered).1
    have hoffers : imp.Offers m.name := ⟨w, found, hfind⟩
    exact ⟨fun hw => (hload hw).keepsRegister (hnew hw) hoffers,
      fun hw => (hload hw).unregister.keepsRegister (hnew hw) hoffers⟩

end Importer

/-! ## Loading a file -/

/-- A file is registered under a name. -/
def World.HoldsFile (w : World) (name : String) (l : Location) : Prop :=
  ∃ i o, w.registry.lookup name = some i ∧ w.outlines[i]? = some o ∧ o.source = .file l

namespace Importer

variable {l : Location} {i : Nat}

def stem (l : Location) : String :=
  Path.stem (l.getLast?.getD "")

/-- The name of a module whose file has the stem of another module. -/
def digestName (imp : Importer) (l : Location) : String :=
  stem l ++ "_" ++ imp.digest l

/-- A module of a file is found by its number in the register. -/
theorem lookup_of_registered?_inside (h : imp.registered? w name = some (.inside i)) :
    w.registry.lookup name = some i := by
  unfold registered? at h
  cases hlookup : w.registry.lookup name with
  | some index =>
    rw [hlookup] at h
    dsimp only at h
    split at h
    · split at h
      · cases h
      · cases h
        rfl
    · cases h
  | none =>
    rw [hlookup] at h
    dsimp only at h
    split at h
    · cases h
    · cases h

/-- A file takes its stem if no module has that name, or if its own module has it. -/
theorem fileModuleName_eq (imp : Importer) (w : World) (l : Location) :
    imp.fileModuleName w l = stem l ∧
        (imp.registered? w (stem l) = none ∨ w.HoldsFile (stem l) l) ∨
      imp.fileModuleName w l = imp.digestName l := by
  unfold fileModuleName
  dsimp only
  cases hstem : imp.registered? w (Path.stem (l.getLast?.getD "")) with
  | none => exact .inl ⟨rfl, .inl hstem⟩
  | some h =>
    cases h with
    | outside n => exact .inr rfl
    | inside index =>
      dsimp only
      split
      · rename_i hsame
        obtain ⟨m, hm, hsource⟩ := (Option.any_eq_true _ _).1 hsame
        refine .inl ⟨rfl, .inr ⟨index, m.outline, lookup_of_registered?_inside hstem, ?_, ?_⟩⟩
        · rw [World.outlines, List.getElem?_map, hm]
          rfl
        · exact eq_of_beq hsource
      · exact .inr rfl

/-- What a load of a file gives: the module that has joined the world, under the name of the file; or
a failure that leaves nothing under this name, unless it comes before everything else. -/
def LoadResult (l : Location) (name : String) (w v : World) : Except Failure ModuleHandle → Prop
  | .ok h => h = .inside w.modules.length ∧ v.registry.lookup name = some w.modules.length ∧
      v.outlines[w.modules.length]? = some { name, source := .file l, directories := none }
  | .error _ => v.registry.lookup name = none ∨ v = w

/-- What loading a file gives and does to the register. -/
theorem ends_loadFile (hw : w.IsIndexed) (l : Location) :
    Ends (imp.loadFile l) w fun result v =>
      imp.LoadsUnder (imp.fileModuleName w l) w v ∧
        LoadResult l (imp.fileModuleName w l) w v result := by
  unfold loadFile
  rw [ends_bind_iff, ends_get_iff]
  dsimp only
  generalize imp.fileModuleName w l = name
  split
  · exact ⟨.refl name hw, .inr rfl⟩
  · let m : ImportedModule :=
      { name, source := .file l, directories := none, names := [], ready := true }
    have hm : (w.addModule m).IsIndexed := isIndexed_addModule hw m
    rw [ends_bind_iff, ends_modify_iff]
    apply (ends_runFile imp.keptByImports_register
      (keeps_importWithin imp.keptByImports_register imp.depth) w.modules.length name l
      (w.addModule m)).bind
    · intro _ v hv
      have hkeeps : imp.KeepsRegister (w.addModule m) v := hv hm
      rw [ends_pure_iff]
      refine ⟨hkeeps.loadsUnder, rfl, ?_, ?_⟩
      · apply hkeeps.kept
        exact (Keyed.lookup_put name name w.modules.length w.registry).trans (if_pos rfl)
      · obtain ⟨more, hmore⟩ := hkeeps.outlines
        rw [← hmore, World.outlines_addModule, List.append_assoc, ← w.length_outlines,
          List.getElem?_append_right (Nat.le_refl _), Nat.sub_self]
        rfl
    · rintro f v ⟨u, hu, rfl⟩
      refine ⟨(hu hm).loadsUnder.unregister, .inl ?_⟩
      exact (Keyed.lookup_erase name name u.registry).trans (if_pos rfl)

end Importer

end Worlds

end TypeExport

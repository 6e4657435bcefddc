import Mathlib.Data.List.Nodup
import TypeExport.Proofs.Scan.FirstIndex
import TypeExport.Proofs.Scan.ModuleRegister
import TypeExport.Proofs.Scan.Overlap
import TypeExport.Scan.Catalog

/-!
# Files with one stem

Files of one stem in different places that are loaded one after the other get different names.  A file
takes its stem only if no module of another file has it, and else the name with its digest.  So no load
takes away what another one has registered, however many there are and whichever of them fail, and a
catalog keeps the modules of all files.  When loads overlap, two files can take their stem at once.
-/

namespace TypeExport

/-- An element that is left out has the value of one that is kept. -/
theorem exists_mem_foldl_unseen {α β : Type} [BEq β] [LawfulBEq β] (f : α → β) (xs found : List α)
    {x : α} (hx : x ∈ found ∨ x ∈ xs) :
    ∃ y ∈ xs.foldl (fun found x => if (found.map f).contains (f x) then found else x :: found) found,
      f y = f x ∧ (y ∈ found ∨ y ∈ xs) := by
  induction xs generalizing found x with
  | nil => exact ⟨x, hx.resolve_right nofun, rfl, hx⟩
  | cons first rest ih =>
    rw [List.foldl_cons]
    split
    · -- the first one is left out, and stands for one that was found before
      rename_i hseen
      have hkept : ∃ y, f y = f x ∧ (y ∈ found ∨ y ∈ rest) := by
        rcases hx with hfound | hx
        · exact ⟨x, rfl, .inl hfound⟩
        rcases List.mem_cons.1 hx with rfl | hrest
        · obtain ⟨y, hy, hsame⟩ := List.mem_map.1 (List.contains_iff_mem.1 hseen)
          exact ⟨y, hsame, .inl hy⟩
        · exact ⟨x, rfl, .inr hrest⟩
      obtain ⟨y, hsame, hy⟩ := hkept
      obtain ⟨z, hz, hz', hfrom⟩ := ih found hy
      exact ⟨z, hz, hz'.trans hsame, hfrom.imp_right (List.mem_cons_of_mem first)⟩
    · have hx : x ∈ first :: found ∨ x ∈ rest := by grind
      obtain ⟨z, hz, hsame, hfrom⟩ := ih (first :: found) hx
      exact ⟨z, hz, hsame, by grind⟩

/-- A module that a catalog leaves out has the name of one that it keeps. -/
theorem Catalog.exists_mem_modules {w : World} {targets : List LoadedTarget} {t : LoadedTarget}
    {h : ModuleHandle} (ht : t ∈ targets) (hh : h ∈ t.modules) :
    ∃ k ∈ Catalog.modules w targets, k.name w = h.name w ∧ ∃ u ∈ targets, k ∈ u.modules := by
  have hmem : h ∈ targets.flatMap (·.modules) := List.mem_flatMap.2 ⟨t, ht, hh⟩
  obtain ⟨k, hk, hname, hfrom⟩ := exists_mem_foldl_unseen (·.name w) _ [] (.inr hmem)
  exact ⟨k, List.mem_reverse.2 hk, hname, List.mem_flatMap.1 (hfrom.resolve_left nofun)⟩

open Importer

namespace FileLoad

/-- What a load does to the register.  The name of the file is free, or that of a module of the same
file.  All else that is registered stays.  A load that fails leaves a free name free, and adds names of
modules alone that have joined the world meanwhile. -/
structure IsSettled (imp : Importer) (load : FileLoad) : Prop where
  free : imp.registered? load.before (load.name imp) = none ∨
    load.before.HoldsFile (load.name imp) load.place
  kept : ∀ name i, load.before.registry.lookup name = some i →
    load.after.registry.lookup name = some i ∨
      name = load.name imp ∧ load.before.HoldsFile name load.place
  failed : ∀ f, load.result = .error f →
    (imp.registered? load.before (load.name imp) = none →
      imp.registered? load.after (load.name imp) = none) ∧
    ∀ name i, load.after.registry.lookup name = some i →
      load.before.registry.lookup name = some i ∨ load.before.modules.length ≤ i

end FileLoad

namespace Importer

/-- The names of files with their digests are names of nothing else, and of one file each. -/
structure AreDistinguished (imp : Importer) (paths : List Location) : Prop where
  nodup : paths.Nodup
  digits : ∀ l ∈ paths, (imp.digest l).length = 8
  digests : ∀ l ∈ paths, ∀ l' ∈ paths, imp.digest l = imp.digest l' → l = l'
  stems : ∀ l ∈ paths, ∀ l' ∈ paths, stem l ≠ imp.digestName l'
  unused : ∀ l ∈ paths, imp.IsUnused (imp.digestName l)

/-- The register of the world has none of the names with digests. -/
structure IsOpenTo (imp : Importer) (w : World) (paths : List Location) : Prop where
  indexed : w.IsIndexed
  unregistered : ∀ l ∈ paths, imp.registered? w (imp.digestName l) = none

/-- What some loads leave, `w` being the world before them. -/
structure StayApart (imp : Importer) (w : World) (loads : List FileLoad) : Prop where
  names : ((loads.filter (·.succeeds)).map (·.name imp)).Nodup
  settled : ∀ load ∈ loads, load.IsSettled imp
  start : ∀ name i, w.registry.lookup name = some i →
    (worldAfter w loads).registry.lookup name = some i
  loaded : ∀ load ∈ loads, ∀ h, load.result = .ok h →
    imp.registered? (worldAfter w loads) (load.name imp) = some h ∧
      h.name (worldAfter w loads) = load.name imp ∧
      (worldAfter w loads).HoldsFile (load.name imp) load.place
  catalog : ∀ targets : List LoadedTarget,
    (∀ t ∈ targets, ∀ h ∈ t.modules, ∃ load ∈ loads, load.result = .ok h) →
      ∀ t ∈ targets, ∀ h ∈ t.modules, h ∈ Catalog.modules (worldAfter w loads) targets

section OneLoad

variable {imp : Importer} {w v : World} {l l' : Location} {rest : List Location} {name : String}
  {i : Nat}

theorem AreDistinguished.tail (h : imp.AreDistinguished (l :: rest)) :
    imp.AreDistinguished rest where
  nodup := (List.nodup_cons.1 h.nodup).2
  digits k hk := h.digits k (List.mem_cons_of_mem l hk)
  digests k hk k' hk' := h.digests k (List.mem_cons_of_mem l hk) k' (List.mem_cons_of_mem l hk')
  stems k hk k' hk' := h.stems k (List.mem_cons_of_mem l hk) k' (List.mem_cons_of_mem l hk')
  unused k hk := h.unused k (List.mem_cons_of_mem l hk)

/-- Names with digests differ in their digests, which are of one length. -/
theorem AreDistinguished.digestName_inj {paths : List Location} (h : imp.AreDistinguished paths)
    (hl : l ∈ paths) (hl' : l' ∈ paths) (hname : imp.digestName l = imp.digestName l') : l = l' := by
  have hsplit : ∀ l, (imp.digestName l).toList = (stem l ++ "_").toList ++ (imp.digest l).toList :=
    fun l => String.toList_append
  have hchars := congrArg String.toList hname
  rw [hsplit, hsplit] at hchars
  have hlength : (imp.digest l).toList.length = (imp.digest l').toList.length := by
    rw [String.length_toList, String.length_toList, h.digits l hl, h.digits l' hl']
  exact h.digests l hl l' hl' (String.toList_injective (List.append_inj' hchars hlength).2)

/-- The name of one file is not the name with the digest of another one. -/
theorem AreDistinguished.fileModuleName_ne (h : imp.AreDistinguished (l :: rest)) (w : World)
    (hl' : l' ∈ rest) : imp.fileModuleName w l ≠ imp.digestName l' := by
  have hfirst : l ∈ l :: rest := List.mem_cons_self
  have hlater : l' ∈ l :: rest := List.mem_cons_of_mem l hl'
  rcases imp.fileModuleName_eq w l with ⟨hstem, -⟩ | hdigest
  · rw [hstem]
    exact h.stems l hfirst l' hlater
  · rw [hdigest]
    intro hsame
    obtain rfl := h.digestName_inj hfirst hlater hsame
    exact (List.nodup_cons.1 h.nodup).1 hl'

/-- What is no library is not loaded from the start. -/
theorem IsUnused.isLoaded_eq_false (h : imp.IsUnused name) : imp.isLoaded name = false := by
  have hlibrary := h.isLibrary
  unfold Importer.isLibrary at hlibrary
  rw [Bool.or_eq_false_iff] at hlibrary
  unfold Importer.isLoaded Library.isLoaded
  rw [hlibrary.1, hlibrary.2]
  rfl

theorem getElem?_of_outlines (h : w.outlines <+: v.outlines) (hi : i < w.modules.length) :
    v.outlines[i]? = w.outlines[i]? := by
  obtain ⟨more, hmore⟩ := h
  rw [← w.length_outlines] at hi
  rw [← hmore, List.getElem?_append_left hi]

theorem loadsUnder_of (imp : Importer) (hw : w.IsIndexed) (l : Location) :
    imp.LoadsUnder (imp.fileModuleName w l) w (FileLoad.of imp w l).after ∧
      LoadResult l (imp.fileModuleName w l) w (FileLoad.of imp w l).after
        (FileLoad.of imp w l).result :=
  ends_loadFile hw l

/-- The first file does no harm to a world that is open to it. -/
theorem isSettled_of (hw : imp.IsOpenTo w (l :: rest)) : (FileLoad.of imp w l).IsSettled imp := by
  obtain ⟨hload, hresult⟩ := imp.loadsUnder_of hw.indexed l
  have hfree : imp.registered? w (imp.fileModuleName w l) = none ∨
      w.HoldsFile (imp.fileModuleName w l) l := by
    rcases imp.fileModuleName_eq w l with ⟨hname, hstem⟩ | hname
    · rw [hname]
      exact hstem
    · rw [hname]
      exact .inl (hw.unregistered l List.mem_cons_self)
  refine ⟨hfree, fun name i hi => ?_, fun f hf => ⟨fun hnew => ?_, fun name i hi => ?_⟩⟩
  · by_cases hname : name = imp.fileModuleName w l
    · subst hname
      refine hfree.elim (fun hnew => ?_) fun hholds => .inr ⟨rfl, hholds⟩
      have hlookup := (lookup_of_registered?_eq_none hw.indexed hnew).1
      exact absurd (hlookup.symm.trans hi) nofun
    · exact .inl (hload.kept name i hname hi)
  · rw [hf] at hresult
    rcases hresult with hlookup | hsame
    · exact registered?_eq_none hlookup (lookup_of_registered?_eq_none hw.indexed hnew).2
    · rw [hsame]
      exact hnew
  · exact (hload.added name i hi).imp_right And.left

/-- After its load the world is open to the remaining files. -/
theorem isOpenTo_after (hpaths : imp.AreDistinguished (l :: rest))
    (hw : imp.IsOpenTo w (l :: rest)) : imp.IsOpenTo (FileLoad.of imp w l).after rest := by
  obtain ⟨hload, -⟩ := imp.loadsUnder_of hw.indexed l
  refine ⟨hload.indexed, fun l' hl' => ?_⟩
  have hlater : l' ∈ l :: rest := List.mem_cons_of_mem l hl'
  obtain ⟨hlookup, hloaded⟩ :=
    lookup_of_registered?_eq_none hw.indexed (hw.unregistered l' hlater)
  refine registered?_eq_none ?_ hloaded
  by_contra hsome
  obtain ⟨i, hi⟩ := Option.ne_none_iff_exists'.1 hsome
  rcases hload.added _ i hi with hold | ⟨-, hname | hoffers⟩
  · exact absurd (hlookup.symm.trans hold) nofun
  · exact hpaths.fileModuleName_ne w hl' hname.symm
  · exact (hpaths.unused l' hlater).not_offers hoffers

end OneLoad

section ManyLoads

variable {imp : Importer} {w : World} {paths : List Location} {name : String} {i : Nat}
  {load load' : FileLoad} {h : ModuleHandle}

theorem places_loadEach (imp : Importer) (paths : List Location) (w : World) :
    (imp.loadEach paths w).map (·.place) = paths := by
  induction paths generalizing w with
  | nil => rfl
  | cons l rest ih =>
    rw [loadEach, List.map_cons, ih]
    rfl

theorem isSettled_of_mem (hpaths : imp.AreDistinguished paths) (hw : imp.IsOpenTo w paths) :
    ∀ load ∈ imp.loadEach paths w, load.IsSettled imp := by
  induction paths generalizing w with
  | nil => exact nofun
  | cons l rest ih =>
    rw [loadEach, List.forall_mem_cons]
    exact ⟨isSettled_of hw, ih hpaths.tail (isOpenTo_after hpaths hw)⟩

/-- Loads only add modules. -/
theorem outlines_loadEach (hpaths : imp.AreDistinguished paths) (hw : imp.IsOpenTo w paths) :
    w.outlines <+: (worldAfter w (imp.loadEach paths w)).outlines := by
  induction paths generalizing w with
  | nil => exact List.prefix_refl _
  | cons l rest ih =>
    rw [loadEach, worldAfter_cons]
    exact (imp.loadsUnder_of hw.indexed l).1.outlines.trans
      (ih hpaths.tail (isOpenTo_after hpaths hw))

/-- A name stays registered unless its module is that of one of the files. -/
theorem lookup_loadEach (hpaths : imp.AreDistinguished paths) (hw : imp.IsOpenTo w paths)
    (hi : w.registry.lookup name = some i) (hother : ∀ l ∈ paths, ¬w.HoldsFile name l) :
    (worldAfter w (imp.loadEach paths w)).registry.lookup name = some i := by
  induction paths generalizing w with
  | nil => exact hi
  | cons l rest ih =>
    rw [loadEach, worldAfter_cons]
    have hafter : (FileLoad.of imp w l).after.registry.lookup name = some i :=
      ((isSettled_of hw).kept name i hi).resolve_right fun hholds =>
        hother l List.mem_cons_self hholds.2
    apply ih hpaths.tail (isOpenTo_after hpaths hw) hafter
    rintro l' hl' ⟨j, o, hj, ho, hsource⟩
    obtain rfl : i = j := Option.some.inj (hafter.symm.trans hj)
    rw [getElem?_of_outlines (imp.loadsUnder_of hw.indexed l).1.outlines (hw.indexed name i hi)] at ho
    exact hother l' (List.mem_cons_of_mem l hl') ⟨i, o, hi, ho, hsource⟩

/-- A file that was loaded is registered after all loads. -/
theorem lookup_of_succeeds (hpaths : imp.AreDistinguished paths) (hw : imp.IsOpenTo w paths)
    (hload : load ∈ imp.loadEach paths w) (hresult : load.result = .ok h) :
    ∃ i, h = .inside i ∧
      (worldAfter w (imp.loadEach paths w)).registry.lookup (load.name imp) = some i ∧
      (worldAfter w (imp.loadEach paths w)).outlines[i]? =
        some { name := load.name imp, source := .file load.place, directories := none } := by
  induction paths generalizing w with
  | nil => cases hload
  | cons l rest ih =>
    have hopen := isOpenTo_after hpaths hw
    rw [loadEach, worldAfter_cons]
    rcases List.mem_cons.1 hload with rfl | hload
    · obtain ⟨hunder, hsettled⟩ := imp.loadsUnder_of hw.indexed l
      rw [hresult] at hsettled
      obtain ⟨rfl, hlookup, houtline⟩ := hsettled
      refine ⟨w.modules.length, rfl, lookup_loadEach hpaths.tail hopen hlookup ?_, ?_⟩
      · -- the module is that of this file, and the file does not come again
        rintro l' hl' ⟨j, o, hj, ho, hsource⟩
        obtain rfl := Option.some.inj (hlookup.symm.trans hj)
        obtain rfl := Option.some.inj (houtline.symm.trans ho)
        obtain rfl : l = l' := by simpa using hsource
        exact (List.nodup_cons.1 hpaths.nodup).1 hl'
      · rw [getElem?_of_outlines (outlines_loadEach hpaths.tail hopen)
          (hunder.indexed _ _ hlookup)]
        exact houtline
    · exact ih hpaths.tail hopen hload

end ManyLoads

section Results

variable {imp : Importer} {w : World} {paths : List Location} {load load' : FileLoad}
  {h h' : ModuleHandle}

/-- Loads of files that succeed and have one name are one load. -/
theorem eq_of_name_eq (hpaths : imp.AreDistinguished paths) (hw : imp.IsOpenTo w paths)
    (hload : load ∈ imp.loadEach paths w) (hload' : load' ∈ imp.loadEach paths w)
    (hresult : load.result = .ok h) (hresult' : load'.result = .ok h')
    (hname : load.name imp = load'.name imp) : load = load' := by
  obtain ⟨i, -, hlookup, houtline⟩ := lookup_of_succeeds hpaths hw hload hresult
  obtain ⟨j, -, hlookup', houtline'⟩ := lookup_of_succeeds hpaths hw hload' hresult'
  rw [← hname] at hlookup'
  obtain rfl : i = j := Option.some.inj (hlookup.symm.trans hlookup')
  have hplace : load.place = load'.place := by
    have hsource := congrArg ModuleOutline.source (Option.some.inj (houtline.symm.trans houtline'))
    exact ModuleSource.file.inj hsource
  have hplaces : ((imp.loadEach paths w).map (·.place)).Nodup := by
    rw [places_loadEach]
    exact hpaths.nodup
  exact List.inj_on_of_nodup_map hplaces hload hload' hplace

theorem exists_result_of_succeeds (hload : load.succeeds = true) : ∃ h, load.result = .ok h := by
  unfold FileLoad.succeeds at hload
  split at hload
  · rename_i h hresult
    exact ⟨h, hresult⟩
  · cases hload

/-- A file that loads stays registered under its name to the end. -/
theorem name_of_succeeds (hpaths : imp.AreDistinguished paths) (hw : imp.IsOpenTo w paths)
    (hload : load ∈ imp.loadEach paths w) (hresult : load.result = .ok h) :
    imp.registered? (worldAfter w (imp.loadEach paths w)) (load.name imp) = some h ∧
      h.name (worldAfter w (imp.loadEach paths w)) = load.name imp ∧
      (worldAfter w (imp.loadEach paths w)).HoldsFile (load.name imp) load.place := by
  obtain ⟨i, rfl, hlookup, houtline⟩ := lookup_of_succeeds hpaths hw hload hresult
  generalize worldAfter w (imp.loadEach paths w) = v at hlookup houtline ⊢
  have houtline' := houtline
  rw [World.outlines, List.getElem?_map] at houtline'
  obtain ⟨m, hm, hsame⟩ := Option.map_eq_some_iff.1 houtline'
  have hname : m.name = load.name imp := congrArg ModuleOutline.name hsame
  have hsource : m.source = .file load.place := congrArg ModuleOutline.source hsame
  refine ⟨?_, ?_, i, _, hlookup, houtline, rfl⟩
  · unfold registered?
    rw [hlookup]
    dsimp only
    rw [hm]
    dsimp only
    have hfile : ModuleSource.file load.place ≠ .library := ModuleSource.noConfusion
    rw [hsource, if_neg hfile]
  · unfold ModuleHandle.name
    dsimp only
    rw [hm, Option.map_some, Option.getD_some, hname]

/-- Files are loaded one after the other, some of which may fail, from a register that has none of
them, and nothing is called like a file with its digest.  Those that succeed have names of their own,
which were free or those of modules of the same file.  What was registered stays, other modules of the
same file apart; a load that fails leaves behind what it has imported, and its name is free again if it
was free.  So a catalog keeps the modules of all files. -/
theorem loadEach_stayApart (hpaths : imp.AreDistinguished paths) (hw : imp.IsOpenTo w paths)
    (hnew : ∀ l ∈ paths, ∀ name, ¬w.HoldsFile name l) :
    imp.StayApart w (imp.loadEach paths w) where
  names := by
    apply List.Nodup.map_on
    · intro load hload load' hload' hname
      obtain ⟨hload, hsucceeds⟩ := List.mem_filter.1 hload
      obtain ⟨hload', hsucceeds'⟩ := List.mem_filter.1 hload'
      obtain ⟨h, hresult⟩ := exists_result_of_succeeds hsucceeds
      obtain ⟨h', hresult'⟩ := exists_result_of_succeeds hsucceeds'
      exact eq_of_name_eq hpaths hw hload hload' hresult hresult' hname
    · apply List.Nodup.filter
      apply List.Nodup.of_map (·.place)
      rw [places_loadEach]
      exact hpaths.nodup
  settled := isSettled_of_mem hpaths hw
  start name i hi := lookup_loadEach hpaths hw hi fun l hl => hnew l hl name
  loaded load hload h hresult := name_of_succeeds hpaths hw hload hresult
  catalog := by
    intro targets hall t ht h hh
    obtain ⟨k, hk, hname, u, hu, hku⟩ :=
      Catalog.exists_mem_modules (w := worldAfter w (imp.loadEach paths w)) ht hh
    obtain ⟨load, hload, hresult⟩ := hall t ht h hh
    obtain ⟨load', hload', hresult'⟩ := hall u hu k hku
    rw [(name_of_succeeds hpaths hw hload hresult).2.1,
      (name_of_succeeds hpaths hw hload' hresult').2.1] at hname
    obtain rfl := eq_of_name_eq hpaths hw hload' hload hresult' hresult hname
    obtain rfl := Except.ok.inj (hresult.symm.trans hresult')
    exact hk

end Results

/-- Files that are called alike.  One more file imports one of them and fails. -/
def helpers : Importer :=
  { Importer.ofEntries [[]]
      [(["helper.py"], .file (.ofStatements [.plainClass "Tool" false [] []])),
        (["x"], .directory),
        (["x", "bad.py"], .file (.ofStatements
          [.importNames "helper" ("Tool", "Tool") [], .raise "ValueError" "broken"])),
        (["y"], .directory),
        (["y", "helper.py"], .file (.ofStatements []))] with
    digest := fun l =>
      if l.head? = some "x" then "0a1b2c3d" else if l.head? = some "y" then "4e5f6071" else "82930415" }

def helperFiles : List Location :=
  [["x", "bad.py"], ["y", "helper.py"], ["helper.py"]]

/-- The two helpers have one stem and different digests. -/
theorem areDistinguished_helpers : helpers.AreDistinguished helperFiles where
  nodup := by decide
  digits := by decide
  digests := by decide
  stems := by decide
  unused := by
    have hunused : ∀ l ∈ helperFiles, helpers.isLibrary (helpers.digestName l) = false ∧
        ∀ entry ∈ helpers.files.entries,
          ∀ word ∈ [helpers.digestName l, World.lastPart (helpers.digestName l)],
            word ∉ entry.1 ∧ word ++ moduleExtension ∉ entry.1 := by
      decide +kernel
    exact fun l hl => ⟨(hunused l hl).1, (hunused l hl).2⟩

theorem isOpenTo_helpers : helpers.IsOpenTo .empty helperFiles where
  indexed _ _ := nofun
  unregistered l hl :=
    registered?_eq_none rfl (areDistinguished_helpers.unused l hl).isLoaded_eq_false

/-- What the loads are called, whether they succeed, and where the name of the module that two of them
have in common leads before and after each of them. -/
theorem loadEach_helpers :
    (helpers.loadEach helperFiles .empty).map (fun load =>
        (load.name helpers, load.succeeds, load.before.registry.lookup "helper",
          load.after.registry.lookup "helper")) =
      [("bad", false, none, some 1), ("helper_4e5f6071", true, some 1, some 1),
        ("helper", true, some 1, some 3)] := by
  decide +kernel

/-- The names that two of the files take when their loads overlap. -/
theorem loadInTurns_helpers :
    let ended := helpers.loadInTurns [1, 2, 1, 2, 1, 2] (helperFiles.map (·, .waiting)) .empty
    ended.1.filterMap (·.2.name? ended.2) = ["helper", "helper"] := by
  decide +kernel

/-- The failed file has imported the module of the last one, which takes its stem nevertheless.  The
second one takes its digest. -/
theorem stayApart_helpers :
    let loads := helpers.loadEach helperFiles .empty
    helpers.StayApart .empty loads ∧
      loads.map (fun load => (load.name helpers, load.succeeds)) =
        [("bad", false), ("helper_4e5f6071", true), ("helper", true)] := by
  refine ⟨loadEach_stayApart areDistinguished_helpers isOpenTo_helpers fun _ _ _ => nofun, ?_⟩
  have hendings := congrArg (List.map fun ending => (ending.1, ending.2.1)) loadEach_helpers
  rw [List.map_map] at hendings
  exact hendings

/-- A load that fails does not leave the register as it was, for what the file imports stays.  And a
file that was imported before takes the name from that module.  Files whose loads overlap can have one
name. -/
theorem register_changes :
    (¬∀ (imp : Importer) (w : World) (paths : List Location), imp.AreDistinguished paths →
      imp.IsOpenTo w paths → (∀ l ∈ paths, ∀ name, ¬w.HoldsFile name l) →
        ∀ load ∈ imp.loadEach paths w, load.succeeds = false →
          ∀ name, load.after.registry.lookup name = load.before.registry.lookup name) ∧
    (¬∀ (imp : Importer) (w : World) (paths : List Location), imp.AreDistinguished paths →
      imp.IsOpenTo w paths → (∀ l ∈ paths, ∀ name, ¬w.HoldsFile name l) →
        ∀ load ∈ imp.loadEach paths w, ∀ name i, load.before.registry.lookup name = some i →
          load.after.registry.lookup name = some i) ∧
    ¬∀ (imp : Importer) (w : World) (paths : List Location) (turns : List Nat),
      imp.AreDistinguished paths → imp.IsOpenTo w paths →
        (∀ l ∈ paths, ∀ name, ¬w.HoldsFile name l) →
          let ended := imp.loadInTurns turns (paths.map (·, .waiting)) w
          (ended.1.filterMap (·.2.name? ended.2)).Nodup := by
  refine ⟨?_, ?_, ?_⟩
  · intro hall
    obtain ⟨load, hload, hending⟩ : ∃ load ∈ helpers.loadEach helperFiles .empty,
        (load.name helpers, load.succeeds, load.before.registry.lookup "helper",
          load.after.registry.lookup "helper") = ("bad", false, none, some 1) := by
      rw [← List.mem_map, loadEach_helpers]
      exact List.mem_cons_self
    simp only [Prod.mk.injEq] at hending
    obtain ⟨-, hfails, hbefore, hafter⟩ := hending
    have hkept := hall helpers .empty _ areDistinguished_helpers isOpenTo_helpers
      (fun _ _ _ => nofun) load hload hfails "helper"
    rw [hbefore, hafter] at hkept
    cases hkept
  · intro hall
    obtain ⟨load, hload, hending⟩ : ∃ load ∈ helpers.loadEach helperFiles .empty,
        (load.name helpers, load.succeeds, load.before.registry.lookup "helper",
          load.after.registry.lookup "helper") = ("helper", true, some 1, some 3) := by
      rw [← List.mem_map, loadEach_helpers]
      exact List.mem_cons_of_mem _ (List.mem_cons_of_mem _ List.mem_cons_self)
    simp only [Prod.mk.injEq] at hending
    obtain ⟨-, -, hbefore, hafter⟩ := hending
    have hkept := hall helpers .empty _ areDistinguished_helpers isOpenTo_helpers
      (fun _ _ _ => nofun) load hload "helper" 1 hbefore
    rw [hafter] at hkept
    cases hkept
  · intro hall
    have hnodup := hall helpers .empty _ [1, 2, 1, 2, 1, 2] areDistinguished_helpers isOpenTo_helpers
      fun _ _ _ => nofun
    dsimp only at hnodup
    rw [loadInTurns_helpers] at hnodup
    simp at hnodup

end Importer

end TypeExport

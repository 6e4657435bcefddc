import Mathlib.Data.List.Sort
import TypeExport.Proofs.File.Making
import TypeExport.Proofs.Renumbering.Running
import TypeExport.Proofs.Scan.Requests

/-!
# A tree with one more file

A new file takes its place among the public files of its directory, and those of other directories
stay as they are.  Paths that name targets name them in the larger tree too.
-/

namespace TypeExport

theorem FileTree.length_insert {κ : Type} {t : FileTree κ} {l : Location}
    (h : l ∉ t.entries.map Prod.fst) (e : Entry κ) :
    (t.insert l e).entries.length = t.entries.length + 1 := by
  unfold FileTree.insert
  rw [Keyed.put_of_not_mem h, List.length_append]
  rfl

/-- A new entry is not seen from other directories. -/
theorem FileTree.names_insert_of_ne {κ : Type} {t : FileTree κ} {l d : Location} {name : String}
    (h : l ++ [name] ∉ t.entries.map Prod.fst) (hd : d ≠ l) (e : Entry κ) :
    (t.insert (l ++ [name]) e).names d = t.names d := by
  unfold names FileTree.insert
  rw [Keyed.put_of_not_mem h, List.filterMap_append]
  simp [hd.symm]

theorem FileTree.not_mem_of_find? {κ : Type} {t : FileTree κ} {l : Location}
    (h : t.find? l = none) : l ∉ t.entries.map Prod.fst := by
  intro hmem
  obtain ⟨entry, hentry, hl⟩ := List.mem_map.1 hmem
  unfold find? at h
  split at h
  · cases h
  · rw [List.lookup_eq_none_iff] at h
    have hne := h entry hentry
    rw [hl] at hne
    simp at hne

namespace FileTree

variable {κ : Type} {t : FileTree κ} {d : Location} {name : String}

/-- The name of a location, if it stands in the directory. -/
def nameIn (d k : Location) : Option String :=
  match k.getLast? with
  | some name => if k.dropLast = d then some name else none
  | none => none

theorem names_eq (t : FileTree κ) (d : Location) :
    t.names d = (t.entries.map Prod.fst).filterMap (nameIn d) := by
  unfold names
  rw [List.filterMap_map]
  rfl

theorem eq_of_nameIn {k : Location} (h : nameIn d k = some name) : k = d ++ [name] := by
  unfold nameIn at h
  rcases List.eq_nil_or_concat' k with rfl | ⟨above, last, rfl⟩
  · cases h
  · rw [List.getLast?_concat, List.dropLast_concat] at h
    dsimp only at h
    split at h
    · rename_i habove
      cases h
      rw [habove]
    · cases h

theorem mem_of_mem_names (h : name ∈ t.names d) : d ++ [name] ∈ t.entries.map Prod.fst := by
  rw [names_eq] at h
  obtain ⟨k, hk, hname⟩ := List.mem_filterMap.1 h
  rw [← eq_of_nameIn hname]
  exact hk

/-- Names in a directory are different if its entries are. -/
theorem nodup_names (h : (t.entries.map Prod.fst).Nodup) (d : Location) : (t.names d).Nodup := by
  rw [names_eq]
  exact h.filterMap fun k k' name hk hk' => (eq_of_nameIn hk).trans (eq_of_nameIn hk').symm

end FileTree

namespace Importer

variable {imp imp' : Importer} {l directory : Location} {file : String} {content : Content}

/-- The imports of a tree that has one more file. -/
def withFile (imp : Importer) (l : Location) (content : Content) : Importer :=
  { imp with files := imp.files.insert l (.file content) }

/-- Importers of trees that differ in one new file agree everywhere else. -/
theorem agreesOff_withFile (hl : l ≠ []) (hnew : imp.files.find? l = none) (content : Content) :
    imp.AgreesOff (imp.withFile l content) l where
  searchPath := rfl
  installed := rfl
  digest := rfl
  find? k hk := FileTree.find?_insert_of_ne hk
  isDirectory := by
    unfold FileTree.isDirectory
    rw [hnew]
    have hfile : (imp.withFile l content).files.find? l = some (.file content) :=
      FileTree.find?_insert_self hl
    rw [hfile]
  entries := by
    show _ ≤ (imp.files.insert l (.file content)).entries.length
    rw [FileTree.length_insert (FileTree.not_mem_of_find? hnew)]
    exact Nat.le_succ _

theorem pairwise_sortNames (names : List String) : (sortNames names).Pairwise (· ≤ ·) :=
  List.pairwise_mergeSort' (· ≤ ·) names

theorem sortNames_eq {names sorted : List String} (hperm : names.Perm sorted)
    (hsorted : sorted.Pairwise (· ≤ ·)) : sortNames names = sorted :=
  ((List.mergeSort_perm _ _).trans hperm).eq_of_pairwise' (r := (· ≤ ·)) (pairwise_sortNames _) hsorted

/-- A further name takes its place among sorted ones. -/
theorem sortNames_concat (names : List String) (name : String) :
    ∃ before after, sortNames names = before ++ after ∧
      sortNames (names ++ [name]) = before ++ name :: after := by
  have hperm : (names ++ [name]).Perm ((sortNames names).orderedInsert (· ≤ ·) name) := by
    refine .trans ?_ (List.perm_orderedInsert _ _ _).symm
    exact (List.perm_append_singleton name names).trans ((List.mergeSort_perm _ _).symm.cons name)
  have hsorted : sortNames (names ++ [name]) = (sortNames names).orderedInsert (· ≤ ·) name :=
    sortNames_eq hperm ((pairwise_sortNames names).orderedInsert name _)
  rw [hsorted, List.orderedInsert_eq_take_drop]
  exact ⟨_, _, (List.takeWhile_append_dropWhile).symm, rfl⟩

/-- Whether the name of an entry is that of a module file that is scanned. -/
def isPublic (name : String) : Bool :=
  endsWith moduleExtension name && name.toList.head? != some '_'

theorem publicFiles_eq (imp : Importer) (directory : Location) :
    imp.publicFiles directory = sortNames ((imp.files.names directory).filter isPublic) :=
  rfl

/-- The public files of a directory, in order and each once. -/
theorem pairwise_publicFiles (h : (imp.files.entries.map Prod.fst).Nodup) (directory : Location) :
    (imp.publicFiles directory).Pairwise (· < ·) := by
  have hnodup : (imp.publicFiles directory).Nodup :=
    (List.mergeSort_perm _ _).nodup_iff.2 ((FileTree.nodup_names h directory).filter _)
  exact (pairwise_sortNames _).imp₂ (fun _ _ => Std.lt_of_le_of_ne) hnodup

theorem isPublic_of_mem_publicFiles {name : String} (h : name ∈ imp.publicFiles directory) :
    isPublic name = true := by
  rw [publicFiles_eq] at h
  exact (List.mem_filter.1 ((List.mergeSort_perm _ _).mem_iff.1 h)).2

/-- A new public file is loaded at its place among the others. -/
theorem publicFiles_withFile (hnew : imp.files.find? (directory ++ [file]) = none)
    (hpublic : isPublic file = true) (content : Content) :
    ∃ before after, imp.publicFiles directory = before ++ after ∧
      (imp.withFile (directory ++ [file]) content).publicFiles directory =
        before ++ file :: after := by
  have hnames : (imp.withFile (directory ++ [file]) content).files.names directory =
      imp.files.names directory ++ [file] := by
    exact FileTree.names_insert
      (fun hmem => FileTree.not_mem_of_find? hnew (FileTree.mem_of_mem_names hmem)) _
  rw [publicFiles_eq, publicFiles_eq, hnames, List.filter_append, List.filter_singleton, hpublic]
  exact sortNames_concat _ file

theorem publicFiles_withFile_of_ne (hnew : imp.files.find? (directory ++ [file]) = none)
    (content : Content) {d : Location} (hd : d ≠ directory) :
    (imp.withFile (directory ++ [file]) content).publicFiles d = imp.publicFiles d := by
  have hnames : (imp.withFile (directory ++ [file]) content).files.names d =
      imp.files.names d :=
    FileTree.names_insert_of_ne (FileTree.not_mem_of_find? hnew) hd _
  rw [publicFiles_eq, publicFiles_eq, hnames]

section Paths

variable {text : String} {target : Target}

theorem lookup_extend (hfiles : imp.files.IsExtendedBy imp'.files) {cwd : Location} {path : Path}
    {e : Entry Content} (h : imp.files.lookup cwd path = .ok (l, some e)) :
    imp'.files.lookup cwd path = .ok (l, some e) := by
  have hfound := (FileTree.lookup_eq_ok h).2
  rw [FileTree.lookup_of_keepsDirectories hfiles.keepsDirectories h, hfiles l e hfound.symm]

theorem pathIsDirectory_extend (hfiles : imp.files.IsExtendedBy imp'.files) {cwd : Location}
    {path : Path} (h : imp.files.pathIsDirectory cwd path = .ok true) :
    imp'.files.pathIsDirectory cwd path = .ok true ∧
      imp'.files.pathIsFile cwd path = .ok false := by
  unfold FileTree.pathIsDirectory at h
  split at h
  · rename_i m hlookup
    unfold FileTree.pathIsDirectory FileTree.pathIsFile
    rw [lookup_extend hfiles hlookup]
    exact ⟨rfl, rfl⟩
  all_goals cases h

theorem pathIsFile_extend (hfiles : imp.files.IsExtendedBy imp'.files) {cwd : Location}
    {path : Path} (h : imp.files.pathIsFile cwd path = .ok true) :
    imp'.files.pathIsFile cwd path = .ok true := by
  unfold FileTree.pathIsFile at h
  split at h
  · rename_i m c hlookup
    unfold FileTree.pathIsFile
    rw [lookup_extend hfiles hlookup]
  all_goals cases h

/-- What stands at a place: a file or a directory. -/
def IsAt (imp : Importer) (place : Location) (kind : TargetKind) : Prop :=
  imp.files.pathIsFile [] (.ofLocation place) = .ok true ∧ kind = .file ∨
    imp.files.pathIsFile [] (.ofLocation place) = .ok false ∧
      imp.files.pathIsDirectory [] (.ofLocation place) = .ok true ∧ kind = .directory

theorem IsAt.unique {kind kind' : TargetKind} (h : imp.IsAt l kind) (h' : imp.IsAt l kind') :
    kind = kind' := by
  obtain ⟨hfile, rfl⟩ | ⟨hfile, -, rfl⟩ := h
  all_goals
    obtain ⟨hfile', rfl⟩ | ⟨hfile', -, rfl⟩ := h'
    all_goals first | rfl | cases hfile.symm.trans hfile'

theorem IsAt.extend {kind : TargetKind} (hfiles : imp.files.IsExtendedBy imp'.files)
    (h : imp.IsAt l kind) : imp'.IsAt l kind := by
  obtain ⟨hfile, rfl⟩ | ⟨-, hdirectory, rfl⟩ := h
  · exact .inl ⟨pathIsFile_extend hfiles hfile, rfl⟩
  · obtain ⟨hdirectory', hfile'⟩ := pathIsDirectory_extend hfiles hdirectory
    exact .inr ⟨hfile', hdirectory', rfl⟩

/-- A path names what stands at its place. -/
theorem findPath_eq_ok_iff : imp.findPath text = .ok target ↔
    ∃ path, imp.environment.expandHome (.ofString text) = some path ∧
      FileTree.hasNull path = false ∧
      target.text = text ∧ target.origin = .place (path.locate imp.environment.workingDirectory) ∧
      imp.IsAt (path.locate imp.environment.workingDirectory) target.kind := by
  unfold findPath IsAt
  cases hhome : imp.environment.expandHome (.ofString text) with
  | none =>
    constructor
    · intro h
      cases h
    · rintro ⟨path, h, -⟩
      cases h
  | some path =>
    have hpath : ∀ {P : Path → Prop}, (∃ q, some path = some q ∧ P q) ↔ P path :=
      ⟨fun ⟨q, hq, hP⟩ => Option.some.inj hq ▸ hP, fun hP => ⟨path, rfl, hP⟩⟩
    rw [hpath]
    cases hnull : FileTree.hasNull path with
    | true =>
      constructor
      · intro h
        dsimp only at h
        rw [if_pos hnull] at h
        cases h
      · rintro ⟨h, -⟩
        cases h
    | false =>
      obtain ⟨t, kind, origin⟩ := target
      dsimp only
      rw [if_neg (by simp [hnull])]
      generalize path.locate imp.environment.workingDirectory = place
      cases hfile : imp.files.pathIsFile [] (.ofLocation place) with
      | error e =>
        constructor
        · intro h
          cases h
        · rintro ⟨-, -, -, ⟨h, -⟩ | ⟨h, -⟩⟩ <;> cases h
      | ok isFile =>
        cases isFile with
        | true =>
          constructor
          · intro h
            cases h
            exact ⟨rfl, rfl, rfl, .inl ⟨rfl, rfl⟩⟩
          · rintro ⟨-, rfl, rfl, ⟨-, rfl⟩ | ⟨h, -⟩⟩
            · rfl
            · cases h
        | false =>
          cases imp.files.pathIsDirectory [] (.ofLocation place) with
          | error e =>
            constructor
            · intro h
              cases h
            · rintro ⟨-, -, -, ⟨h, -⟩ | ⟨-, h, -⟩⟩ <;> cases h
          | ok isDirectory =>
            cases isDirectory with
            | true =>
              constructor
              · intro h
                cases h
                exact ⟨rfl, rfl, rfl, .inr ⟨rfl, rfl, rfl⟩⟩
              · rintro ⟨-, rfl, rfl, ⟨h, -⟩ | ⟨-, -, rfl⟩⟩
                · cases h
                · rfl
            | false =>
              constructor
              · intro h
                cases h
              · rintro ⟨-, -, -, ⟨h, -⟩ | ⟨-, h, -⟩⟩ <;> cases h

theorem NamesPath.isAt (h : imp.NamesPath text target) :
    ∃ place, target.origin = .place place ∧ imp.IsAt place target.kind := by
  obtain ⟨path, -, -, -, horigin, hat⟩ := findPath_eq_ok_iff.1 h.found
  exact ⟨_, horigin, hat⟩

/-- Paths name their targets in a larger tree too. -/
theorem NamesPath.extend (hfiles : imp.files.IsExtendedBy imp'.files)
    (henvironment : imp'.environment = imp.environment) (h : imp.NamesPath text target) :
    imp'.NamesPath text target where
  notBlank := h.notBlank
  looks := by
    have hlooks := h.looks
    unfold looksLikePath at hlooks ⊢
    dsimp only at hlooks ⊢
    rw [henvironment]
    split
    · rfl
    · rename_i hwords
      rw [if_neg hwords] at hlooks
      exact (pathIsDirectory_extend hfiles hlooks).1
  found := by
    have hfound := h.found
    rw [findPath_eq_ok_iff] at hfound ⊢
    rw [henvironment]
    obtain ⟨path, hpath, hnull, htext, horigin, hat⟩ := hfound
    exact ⟨path, hpath, hnull, htext, horigin, hat.extend hfiles⟩

/-- All texts of a request name targets by their paths. -/
theorem exists_targets {texts : List String}
    (h : ∀ text ∈ texts, Text.allBlank text = true ∨ ∃ target, imp.NamesPath text target) :
    ∃ targets, List.Forall₂ imp.NamesPath (Catalog.requested texts) targets := by
  have hall : ∀ text ∈ Catalog.requested texts, ∃ target, imp.NamesPath text target := by
    intro text htext
    have hmem := List.mem_filter.1 (List.mem_eraseDups.1 htext)
    rcases h text hmem.1 with hblank | hpath
    · simp [hblank] at hmem
    · exact hpath
  generalize Catalog.requested texts = requested at hall
  induction requested with
  | nil => exact ⟨[], .nil⟩
  | cons text rest ih =>
    obtain ⟨target, htarget⟩ := hall text List.mem_cons_self
    obtain ⟨targets, htargets⟩ := ih fun text h => hall text (List.mem_cons_of_mem _ h)
    exact ⟨target :: targets, .cons htarget htargets⟩

/-- Paths are found without a change of the world. -/
theorem gives_findTargets {texts : List String} {targets : List Target}
    (h : List.Forall₂ imp.NamesPath texts targets) (p : Progress) :
    Gives (texts.mapM imp.findTarget) p targets p := by
  induction h with
  | nil => exact gives_pure [] p
  | cons hfirst _ ih =>
    rw [List.mapM_cons]
    exact (hfirst.finds.gives p).bind (ih.bind (gives_pure _ p))

end Paths

end Importer

end TypeExport

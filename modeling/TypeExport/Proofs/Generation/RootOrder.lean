import Mathlib.Data.List.Sort
import TypeExport.File.Path
import TypeExport.Proofs.File.Effect
import TypeExport.Proofs.Generation.Writes
import TypeExport.Source.Content

/-!
# The order of the types

Types whose files stand at different locations can be generated in any order.  Their files are
written at different locations, the manifests are made from the set of the names, and the reported
paths are sorted.  A manifest may replace the file of a type; it does so in every order.
-/

/-!
## The order of paths

Paths are ordered part by part.  A path that a text can spell has no slash in its parts, and the
order tells any two such paths apart.
-/

namespace TypeExport

namespace Path

/-- A path that a text can spell: its parts hold no slash. -/
def IsSpelled (p : Path) : Prop :=
  ∀ part ∈ p.parts, '/' ∉ part.toList

theorem isSpelled_ofString (s : String) : (ofString s).IsSpelled := by
  intro part hpart
  obtain ⟨piece, hpiece, rfl⟩ := List.mem_map.1 (List.mem_filter.1 hpart).1
  rw [String.toList_ofList]
  exact Text.not_mem_of_mem_splitOn hpiece

theorem IsSpelled.join {p q : Path} (hp : p.IsSpelled) (hq : q.IsSpelled) :
    (p.join q).IsSpelled := by
  unfold Path.join
  split
  · exact hq
  · intro part hpart
    exact (List.mem_append.1 hpart).elim (hp part) (hq part)

theorem le_iff {p q : Path} :
    p.le q = true ↔ ¬List.Lex (· < ·) q.sortKey p.sortKey := by
  unfold le
  rw [Bool.not_eq_true', ← Bool.not_eq_true, List.lex_eq_true_iff_lex]
  simp

theorem le_trans {p q r : Path} (h : p.le q = true) (h' : q.le r = true) : p.le r = true :=
  le_iff.2 (@List.le_trans String _ _ _ _ _ _ _ (le_iff.1 h) (le_iff.1 h'))

theorem le_total (p q : Path) : (p.le q || q.le p) = true := by
  rw [Bool.or_eq_true, le_iff, le_iff]
  exact @List.le_total String _ _ p.sortKey q.sortKey

/-- What marks a path as absolute holds a slash. -/
theorem slash_mem_mark (slashes : Nat) :
    '/' ∈ (String.ofList (List.replicate (slashes + 1) '/')).toList := by
  rw [String.toList_ofList, List.mem_replicate]
  exact ⟨Nat.succ_ne_zero _, rfl⟩

theorem mark_inj {m n : Nat}
    (h : String.ofList (List.replicate m '/') = String.ofList (List.replicate n '/')) : m = n := by
  have hlength := congrArg (fun s => s.toList.length) h
  simpa using hlength

/-- The order has one place for a spelled path. -/
theorem le_antisymm {p q : Path} (hp : p.IsSpelled) (hq : q.IsSpelled) (h : p.le q = true)
    (h' : q.le p = true) : p = q := by
  have hkey : p.sortKey = q.sortKey :=
    @List.le_antisymm String _ _ _ _ (le_iff.1 h) (le_iff.1 h')
  obtain ⟨m, ps⟩ := p
  obtain ⟨n, qs⟩ := q
  cases m with
  | zero =>
    cases n with
    | zero =>
      change ps = qs at hkey
      rw [hkey]
    | succ n =>
      change ps = String.ofList (List.replicate (n + 1) '/') :: qs at hkey
      exact absurd (slash_mem_mark n) (hp _ (hkey ▸ List.mem_cons_self))
  | succ m =>
    cases n with
    | zero =>
      change String.ofList (List.replicate (m + 1) '/') :: ps = qs at hkey
      exact absurd (slash_mem_mark m) (hq _ (hkey ▸ List.mem_cons_self))
    | succ n =>
      obtain ⟨hmark, hparts⟩ := List.cons.inj hkey
      rw [Path.mk.injEq]
      exact ⟨mark_inj hmark, hparts⟩

end Path

end TypeExport

/-!
## Roots in any order
-/

namespace TypeExport

/-- The paths of a list that is sorted are the same in every order. -/
theorem sortPaths_of_perm {paths others : List Path} (h : paths.Perm others)
    (hspelled : ∀ p ∈ paths, p.IsSpelled) : TypeGraph.sortPaths paths = TypeGraph.sortPaths others := by
  have hperm : (paths.mergeSort Path.le).Perm (others.mergeSort Path.le) :=
    (List.mergeSort_perm paths _).trans (h.trans (List.mergeSort_perm others _).symm)
  have hsorted : ∀ l : List Path, (l.mergeSort Path.le).Pairwise fun p q => p.le q = true :=
    List.pairwise_mergeSort (fun _ _ _ => Path.le_trans) Path.le_total
  refine List.Perm.eq_of_pairwise (fun p q hp hq => ?_) (hsorted paths) (hsorted others) hperm
  refine Path.le_antisymm (hspelled p (List.mem_mergeSort.1 hp)) (hspelled q ?_)
  exact h.mem_iff.2 (List.mem_mergeSort.1 hq)

namespace Manifest

theorem mem_sortedNames {names : List String} {name : String} :
    name ∈ sortedNames names ↔ name ∈ names := by
  unfold sortedNames
  rw [List.mem_mergeSort, List.mem_eraseDups]

theorem pairwise_sortedNames_le (names : List String) : (sortedNames names).Pairwise (· ≤ ·) := by
  have htrans : ∀ a b c : String, decide (a ≤ b) = true → decide (b ≤ c) = true →
      decide (a ≤ c) = true :=
    fun a b c hab hbc =>
      decide_eq_true (String.le_trans (of_decide_eq_true hab) (of_decide_eq_true hbc))
  have htotal : ∀ a b : String, (decide (a ≤ b) || decide (b ≤ a)) = true :=
    fun a b => by simpa using String.le_total a b
  have hsorted := List.pairwise_mergeSort htrans htotal names.eraseDups
  exact hsorted.imp of_decide_eq_true

/-- The sorted names are a matter of which names there are. -/
theorem sortedNames_congr {names others : List String} (h : ∀ name, name ∈ names ↔ name ∈ others) :
    sortedNames names = sortedNames others := by
  have hperm : names.eraseDups.Perm others.eraseDups := by
    rw [List.perm_ext_iff_of_nodup (nodup_eraseDups names) (nodup_eraseDups others)]
    intro name
    rw [List.mem_eraseDups, List.mem_eraseDups, h name]
  refine List.Perm.eq_of_pairwise (fun a b _ _ hab hba => ?_) (pairwise_sortedNames_le names)
    (pairwise_sortedNames_le others)
    ((List.mergeSort_perm _ _).trans (hperm.trans (List.mergeSort_perm _ _).symm))
  exact String.le_antisymm hab hba

/-- A manifest is a matter of which names there are. -/
theorem text_congr {names others : List String} (h : ∀ name, name ∈ names ↔ name ∈ others) :
    Manifest.text names = Manifest.text others := by
  unfold Manifest.text
  rw [sortedNames_congr h]

end Manifest

namespace TypeGraph

open FileTree

variable {κ ε : Type} [TextContent κ] {g : TypeGraph ε} {policy : Policy} {cwd : Location}
  {directories : OutputDirectories} {roots others : List g.Node}

theorem ofCategory_of_perm (h : roots.Perm others) (category : Category) :
    (g.ofCategory category roots).Perm (g.ofCategory category others) :=
  h.filter _

theorem rootWrites_of_perm (h : roots.Perm others) (directory : Path) :
    (g.rootWrites policy directory roots : List (Path × κ)).Perm
      (g.rootWrites policy directory others) :=
  h.filterMap _

theorem isEmpty_of_perm {α : Type} {l m : List α} (h : l.Perm m) : l.isEmpty = m.isEmpty := by
  rw [Bool.eq_iff_iff, List.isEmpty_iff, List.isEmpty_iff]
  exact ⟨fun hl => (hl ▸ h).nil_eq.symm, fun hm => (hm ▸ h).eq_nil⟩

theorem directoryOf_of_perm (h : roots.Perm others) (directory : Path) :
    g.directoryOf directory roots = g.directoryOf directory others := by
  unfold directoryOf
  rw [isEmpty_of_perm h]

theorem manifestWrite_of_perm (κ : Type) [TextContent κ] (h : roots.Perm others)
    (directory : Path) :
    (g.manifestWrite directory roots : List (Path × κ)) = g.manifestWrite directory others := by
  unfold manifestWrite
  rw [isEmpty_of_perm h, Manifest.text_congr fun _ => (h.map _).mem_iff]

theorem manifestWrites_of_perm (κ : Type) [TextContent κ] (policy : Policy)
    (directories : OutputDirectories) (h : roots.Perm others) :
    (g.manifestWrites policy directories roots : List (Path × κ)) =
      g.manifestWrites policy directories others := by
  unfold manifestWrites
  rw [manifestWrite_of_perm κ (ofCategory_of_perm h .interfaces),
    manifestWrite_of_perm κ (ofCategory_of_perm h .enumerations)]

/-- The files of the types and of the manifests, in another order. -/
theorem writes_of_perm (h : roots.Perm others) :
    (g.writes policy directories roots : List (Path × κ)).Perm
      (g.writes policy directories others) := by
  unfold writes
  rw [manifestWrites_of_perm κ policy directories h]
  exact ((rootWrites_of_perm (ofCategory_of_perm h _) _).append
    (rootWrites_of_perm (ofCategory_of_perm h _) _)).append_right _

def places (g : TypeGraph ε) (cwd : Location) (directories : OutputDirectories)
    (roots : List g.Node) : List Location :=
  ((g.ofCategory .interfaces roots).map (g.filePath directories.interfaces) ++
    (g.ofCategory .enumerations roots).map (g.filePath directories.enumerations)).map
      (Path.locate cwd)

/-- Files are written at the paths of their types only. -/
theorem paths_rootWrites (κ : Type) [TextContent κ] (g : TypeGraph ε) (policy : Policy)
    (directory : Path) (roots : List g.Node) :
    ((g.rootWrites policy directory roots : List (Path × κ)).map Prod.fst).Sublist
      (roots.map (g.filePath directory)) := by
  induction roots with
  | nil => exact List.Sublist.refl _
  | cons t rest ih =>
    cases htext : g.fileText policy t with
    | error e =>
      have hskip : (g.rootWrites policy directory (t :: rest) : List (Path × κ)) =
          g.rootWrites policy directory rest := by
        simp [rootWrites, htext]
      rw [hskip, List.map_cons]
      exact ih.cons _
    | ok text =>
      have hwrite : (g.rootWrites policy directory (t :: rest) : List (Path × κ)) =
          (g.filePath directory t, TextContent.ofText text) ::
            g.rootWrites policy directory rest := by
        simp [rootWrites, htext]
      rw [hwrite, List.map_cons, List.map_cons]
      dsimp only
      exact ih.cons_cons _

/-- The last writes are the same in every order of types that stand at different places. -/
theorem lastAt_writes_of_perm (κ : Type) [TextContent κ] (policy : Policy) (h : roots.Perm others)
    (hdistinct : (g.places cwd directories roots).Nodup) (l : Location) :
    lastAt cwd (g.writes policy directories roots : List (Path × κ)) l =
      lastAt cwd (g.writes policy directories others) l := by
  unfold writes
  rw [lastAt_append, lastAt_append _ (g.manifestWrites policy directories others),
    manifestWrites_of_perm κ policy directories h]
  congr 1
  refine lastAt_of_perm ((rootWrites_of_perm (ofCategory_of_perm h _) _).append
    (rootWrites_of_perm (ofCategory_of_perm h _) _)) ?_ l
  refine hdistinct.sublist ?_
  have hpaths := (paths_rootWrites κ g policy directories.interfaces
    (g.ofCategory .interfaces roots)).append
      (paths_rootWrites κ g policy directories.enumerations (g.ofCategory .enumerations roots))
  rw [← List.map_append] at hpaths
  have hlocations := hpaths.map (Path.locate cwd)
  rw [List.map_map] at hlocations
  exact hlocations

theorem mem_made_of_perm (κ : Type) [TextContent κ] (policy : Policy)
    (directories : OutputDirectories) (h : roots.Perm others) (p : Path) :
    p ∈ g.made policy κ directories roots ↔ p ∈ g.made policy κ directories others := by
  unfold made
  rw [directoryOf_of_perm (ofCategory_of_perm h _), directoryOf_of_perm (ofCategory_of_perm h _)]
  exact (((writes_of_perm h).map _).append_left _).mem_iff

theorem isSpelled_filePath {directory : Path} (h : directory.IsSpelled) (t : g.Node) :
    (g.filePath directory t).IsSpelled :=
  h.join (Path.isSpelled_ofString _)

/-- The report does not depend on the order of the types. -/
theorem reported_of_perm (κ : Type) [TextContent κ] (policy : Policy)
    (hinterfaces : directories.interfaces.IsSpelled)
    (henumerations : directories.enumerations.IsSpelled) (h : roots.Perm others) :
    g.reported policy κ directories roots = g.reported policy κ directories others := by
  have hsame : ∀ category directory, Path.IsSpelled directory →
      sortPaths ((g.ofCategory category roots).map (g.filePath directory)) =
        sortPaths ((g.ofCategory category others).map (g.filePath directory)) := by
    intro category directory hspelled
    refine sortPaths_of_perm ((ofCategory_of_perm h category).map _) fun p hp => ?_
    obtain ⟨t, -, rfl⟩ := List.mem_map.1 hp
    exact isSpelled_filePath hspelled t
  unfold reported
  rw [hsame _ _ hinterfaces, hsame _ _ henumerations, manifestWrites_of_perm κ policy directories h]

/-- The directories that two texts spell. -/
def spelledDirectories (interfaces enumerations : String) : OutputDirectories where
  interfaces := .ofString interfaces
  enumerations := .ofString enumerations

/-- Two generations of the same types in different orders, from the same tree, report the same and
leave the same at every location, if the files of the types stand at different locations and both
succeed. -/
theorem generate_of_perm (g : TypeGraph ε) (policy : Policy) (cwd : Location)
    (interfaces enumerations : String) (describe : ε → String) (files : FileTree κ)
    {roots others : List g.Node} (h : roots.Perm others)
    (hdistinct : (g.places cwd (spelledDirectories interfaces enumerations) roots).Nodup)
    {result other : Generated}
    (hok : (g.generate policy cwd (spelledDirectories interfaces enumerations) describe roots
      files).result = .ok result)
    (hother : (g.generate policy cwd (spelledDirectories interfaces enumerations) describe others
      files).result = .ok other) :
    result = other ∧ ∀ l,
      (g.generate policy cwd (spelledDirectories interfaces enumerations) describe roots
        files).files.find? l =
      (g.generate policy cwd (spelledDirectories interfaces enumerations) describe others
        files).files.find? l := by
  obtain ⟨rfl, -, hleaves⟩ := of_generate (Leaves.keepsUp files cwd) hok (Leaves.refl files)
  obtain ⟨rfl, -, hleaves'⟩ := of_generate (Leaves.keepsUp files cwd) hother (Leaves.refl files)
  refine ⟨?_, fun l => ?_⟩
  · exact reported_of_perm κ policy (Path.isSpelled_ofString _) (Path.isSpelled_ofString _) h
  · exact hleaves.find?_eq hleaves' (mem_made_of_perm κ policy _ h)
      (lastAt_writes_of_perm κ policy h hdistinct) l

/-- Three enumerations; the manifest takes the place of one of them. -/
def kinds : TypeGraph String where
  Node := Fin 3
  descriptor t :=
    { fullName := ["app.Genre", "app.Index", "app.Binding"][t]
      shortName := ["Genre", "Index", "Binding"][t], kind := .enumeration, origin := .scanned }
  properties _ := .ok []
  fullNames := ["app.Genre", "app.Index", "app.Binding"]
  fullName_mem t := List.getElem_mem _

/-- The generation of some of them. -/
def kindsOutcome (roots : List (Fin 3)) : GenerationOutcome Content (Fin 3) String Generated :=
  kinds.generate { manifests := true } [] (spelledDirectories "models" "./enums") id roots .empty

/-- Three kinds in two orders: one report, and the same files. -/
theorem generate_of_reversedKinds :
    [(0 : Fin 3), 1, 2].Perm [2, 1, 0] ∧
      ∃ result, (kindsOutcome [0, 1, 2]).result = .ok result ∧
        (kindsOutcome [2, 1, 0]).result = .ok result ∧
        ∀ l, (kindsOutcome [0, 1, 2]).files.find? l = (kindsOutcome [2, 1, 0]).files.find? l := by
  have hperm : [(0 : Fin 3), 1, 2].Perm [2, 1, 0] := by decide
  obtain ⟨result, hok⟩ : ∃ result, (kindsOutcome [0, 1, 2]).result = .ok result :=
    exists_ok_of_isSome (by decide +kernel)
  obtain ⟨other, hother⟩ : ∃ result, (kindsOutcome [2, 1, 0]).result = .ok result :=
    exists_ok_of_isSome (by decide +kernel)
  obtain ⟨rfl, hfiles⟩ := generate_of_perm kinds { manifests := true } [] "models" "./enums" id
    .empty hperm (by decide +kernel) hok hother
  exact ⟨hperm, result, hok, hother, hfiles⟩

end TypeGraph

end TypeExport

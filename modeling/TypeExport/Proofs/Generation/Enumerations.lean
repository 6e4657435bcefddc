import TypeExport.Proofs.File.Effect
import TypeExport.Proofs.Generation.Survival

/-!
# Generations of enumerations

Enumerations whose stems are different plain names are all written into a directory that can be
made.  Without a header the file of each is its head, one line for every member, and a closing brace.
-/

namespace TypeExport

/-- A member of an enumeration as it is written. -/
def memberText (name value : String) : String :=
  "  " ++ name ++ " = " ++ value

/-- An exported enumeration as it is written. -/
def enumText (name : String) (members : List (String × String)) : String :=
  "export enum " ++ name ++ " \x7b\n" ++
    ",\n".intercalate (members.map fun m => memberText m.1 m.2) ++ "\n\x7d\n"

theorem memberLines_ne_nil {members : List Member} (h : members ≠ []) : memberLines members ≠ [] := by
  match members, h with
  | [_], _ => exact List.cons_ne_nil _ _
  | _ :: _ :: _, _ => exact List.cons_ne_nil _ _

/-- The lines of the members have a comma between them. -/
theorem intercalate_memberLines {members : List Member} (h : members ≠ []) :
    "\n".intercalate (memberLines members) =
      ",\n".intercalate (members.map fun m => memberText m.name m.valueText) := by
  induction members with
  | nil => exact absurd rfl h
  | cons m rest ih =>
    cases rest with
    | nil =>
      rw [memberLines, List.map_singleton, String.intercalate_singleton,
        String.intercalate_singleton, memberText]
    | cons next rest =>
      have hseparator : (",\n" : String) = "," ++ "\n" := by decide
      have hlines : memberLines (m :: next :: rest) =
          (memberText m.name m.valueText ++ ",") :: memberLines (next :: rest) := rfl
      have hne : (next :: rest).map (fun m => memberText m.name m.valueText) ≠ [] := by simp
      rw [hlines, String.intercalate_cons_of_ne_nil (memberLines_ne_nil (List.cons_ne_nil _ _)),
        ih (List.cons_ne_nil _ _), List.map_cons (l := next :: rest),
        String.intercalate_cons_of_ne_nil hne]
      generalize ",\n".intercalate _ = others
      rw [hseparator, ← String.append_assoc]

/-- The text of an enumeration that has members. -/
theorem render_enumeration (policy : Policy) {d : Declaration} (hkind : d.kind = .enumeration)
    (hexported : d.exported = true) (hmembers : d.members ≠ []) :
    d.render policy = enumText d.target (d.members.map fun m => (m.name, m.valueText)) := by
  have hlines : d.lines policy = d.headLine :: (memberLines d.members ++ ["\x7d"]) := by
    unfold Declaration.lines
    rw [hkind]
    rfl
  have hhead : d.headLine = "export enum " ++ d.target ++ " \x7b" := by
    unfold Declaration.headLine
    rw [hkind, hexported, if_pos rfl]
    have hwords : ("export enum " : String) = "export " ++ "enum " := by decide
    rw [hwords]
  unfold Declaration.render enumText
  rw [hlines, String.intercalate_cons_of_ne_nil (by simp),
    String.intercalate_append_of_ne_nil (memberLines_ne_nil hmembers) (by simp),
    String.intercalate_singleton, intercalate_memberLines hmembers, hhead, List.map_map]
  have hopen : (" \x7b\n" : String) = " \x7b" ++ "\n" := by decide
  have hclose : ("\n\x7d\n" : String) = "\n" ++ "\x7d" ++ "\n" := by decide
  rw [hopen, hclose]
  simp only [String.append_assoc]
  rfl

namespace TypeGraph

open FileTree

variable {κ ε : Type} [TextContent κ] {g : TypeGraph ε} {policy : Policy} {cwd l : Location}
  {directories : OutputDirectories} {directory : Path} {roots : List g.Node} {files v : FileTree κ}

/-- Without a header the file of an enumeration is its text. -/
theorem enumeration_fileText_eq {t : g.Node} (hkind : (g.descriptor t).kind = .enumeration)
    (hheader : policy.header = false) (hmembers : (g.descriptor t).members ≠ []) :
    g.fileText policy t = .ok (enumText (g.descriptor t).targetName
      ((g.descriptor t).members.map fun m => (m.name, m.valueText))) := by
  have hempty : policy.headerText = "" := by
    unfold Policy.headerText
    rw [hheader]
    rfl
  rw [enumeration_fileText hkind, hempty, String.empty_append]
  unfold enumerationOf
  rw [text_prepared, render_enumeration policy rfl rfl hmembers]

/-- The file of a type can stand in the directory at `l`, which is reached by a path. -/
structure Fits (g : TypeGraph ε) (directory : Path) (t : g.Node) (v : FileTree κ) (l : Location) :
    Prop where
  plain : '/' ∉ (g.stem t).toList
  entryName : IsEntryName (g.stem t ++ fileExtension)
  fits : (g.filePath directory t).fits = true
  free : v.find? (l ++ [g.stem t ++ fileExtension]) ≠ some .directory

omit [TextContent κ] in
/-- A file in the directory does not stand in the way of another one. -/
theorem Fits.insert {t : g.Node} (h : g.Fits directory t v l) (m : Location) (c : κ) :
    g.Fits directory t (v.insert m (.file c)) l where
  plain := h.plain
  entryName := h.entryName
  fits := h.fits
  free := by
    by_cases hm : l ++ [g.stem t ++ fileExtension] = m
    · rw [hm, find?_insert_self (by simp [← hm])]
      exact fun hfile => by cases hfile
    · rw [find?_insert_of_ne hm]
      exact h.free

/-- Types whose files fit into a directory that is there are written one after the other. -/
theorem writeRoots_ok (category : Category)
    (hdirectory : v.lookup cwd directory = .ok (l, some .directory))
    (hfits : ∀ t ∈ roots, g.Fits directory t v l)
    (htexts : ∀ t ∈ roots, ∃ text, g.fileText policy t = .ok text) :
    ∃ paths, (g.writeRoots policy cwd category directory v roots).result = .ok paths := by
  induction roots generalizing v with
  | nil => exact ⟨[], rfl⟩
  | cons t rest ih =>
    obtain ⟨text, htext⟩ := htexts t List.mem_cons_self
    have hthis := hfits t List.mem_cons_self
    have hwrite : g.writeRoot policy cwd category directory v t =
        (v.insert (l ++ [g.stem t ++ fileExtension]) (.file (TextContent.ofText text)),
          .ok (g.filePath directory t)) := by
      unfold writeRoot
      rw [htext]
      dsimp only
      unfold filePath
      rw [writeOutput_join hdirectory (isPlain_fileName hthis.plain) hthis.entryName hthis.fits
        hthis.free]
    obtain ⟨paths, hpaths⟩ := ih (lookup_insert hdirectory hthis.free)
      (fun s hs => (hfits s (List.mem_cons_of_mem _ hs)).insert _ _)
      fun s hs => htexts s (List.mem_cons_of_mem _ hs)
    rw [writeRoots, hwrite]
    dsimp only
    rw [hpaths]
    exact ⟨_, rfl⟩

theorem ofCategory_enumerations (hkind : ∀ t ∈ roots, (g.descriptor t).kind = .enumeration) :
    g.ofCategory .interfaces roots = [] ∧ g.ofCategory .enumerations roots = roots := by
  unfold ofCategory
  refine ⟨List.filter_eq_nil_iff.2 fun t ht => ?_, List.filter_eq_self.2 fun t ht => ?_⟩
  · rw [hkind t ht]
    decide
  · rw [hkind t ht]
    decide

/-- Enumerations whose files fit into a directory that can be made are generated. -/
theorem generate_enumerations_ok (describe : ε → String)
    (hkind : ∀ t ∈ roots, (g.descriptor t).kind = .enumeration)
    (hmanifests : policy.manifests = false)
    (hmade : files.ensureDirectory cwd directories.enumerations = (v, none))
    (hfits : ∀ t ∈ roots, g.Fits directories.enumerations t v
      (directories.enumerations.locate cwd)) :
    ∃ result, (g.generate policy cwd directories describe roots files).result = .ok result := by
  obtain ⟨hinterfaces, henumerations⟩ := ofCategory_enumerations hkind
  by_cases hempty : roots.isEmpty = true
  · unfold generate
    rw [if_pos hempty]
    exact ⟨{}, rfl⟩
  · have htexts : ∀ t ∈ roots, ∃ text, g.fileText policy t = .ok text :=
      fun t ht => ⟨_, enumeration_fileText (hkind t ht)⟩
    obtain ⟨paths, hpaths⟩ := writeRoots_ok .enumerations
      (lookup_of_ensureDirectory hmade) hfits htexts
    have hnone : g.makeDirectoryOf cwd directories.interfaces [] files = (files, .ok ()) := rfl
    have hdirectory : g.makeDirectoryOf cwd directories.enumerations roots files = (v, .ok ()) := by
      unfold makeDirectoryOf makeOutput
      rw [if_neg hempty, hmade]
      rfl
    have hfirst : g.writeRoots policy cwd .interfaces directories.interfaces v [] =
        { files := v, events := [], result := .ok [] } := rfl
    unfold generate
    rw [if_neg hempty, hinterfaces, henumerations]
    dsimp only
    rw [hnone]
    dsimp only
    rw [hdirectory]
    dsimp only
    unfold generateFiles
    rw [hfirst]
    dsimp only
    split
    · rename_i e hwritten
      rw [hwritten] at hpaths
      cases hpaths
    · rw [hmanifests, if_neg Bool.false_ne_true]
      exact ⟨_, rfl⟩

/-- When enumerations of different stems are generated without manifests, the file of each holds its
own text. -/
theorem read_of_enumerations {describe : ε → String} {result : Generated}
    (hok : (g.generate policy cwd directories describe roots files).result = .ok result)
    (hkind : ∀ t ∈ roots, (g.descriptor t).kind = .enumeration)
    (hmanifests : policy.manifests = false) (hplain : g.HasPlainStems roots)
    (hdistinct : g.HasDistinctStems roots) {t : g.Node} (ht : t ∈ roots) {text : String}
    (htext : g.fileText policy t = .ok text) :
    (g.generate policy cwd directories describe roots files).files.read cwd
      (g.filePath directories.enumerations t) = .ok (TextContent.ofText text) := by
  obtain ⟨htexts, hreflects⟩ := reflects_generate hok
  have hmem : t ∈ g.ofCategory .enumerations roots := by
    rw [(ofCategory_enumerations hkind).2]
    exact ht
  have hwrite : (g.filePath directories.enumerations t, (TextContent.ofText text : κ)) ∈
      g.writes policy directories roots :=
    List.mem_append_left _ (List.mem_append_right _
      (mem_rootWrites_iff.2 ⟨t, hmem, text, htext, rfl, rfl⟩))
  obtain ⟨last, hlast, hread⟩ := hreflects.read hwrite
  have hown := lastAt_rootWrites κ cwd hplain hdistinct hmem htext directories.enumerations
  have hsame : last = TextContent.ofText text := by
    unfold writes manifestWrites at hlast
    rw [hmanifests, if_neg Bool.false_ne_true, List.append_nil, lastAt_append, hown] at hlast
    exact (Option.some.inj hlast).symm
  rw [hread, hsame]

/-- When enumerations are generated, their directory could be made, and it is still there. -/
theorem made_of_enumerations {describe : ε → String} {result : Generated}
    (hok : (g.generate policy cwd directories describe roots files).result = .ok result)
    (hkind : ∀ t ∈ roots, (g.descriptor t).kind = .enumeration) (hne : roots ≠ []) :
    ∃ v, files.ensureDirectory cwd directories.enumerations = (v, none) ∧
      v.KeepsDirectories (g.generate policy cwd directories describe roots files).files := by
  obtain ⟨hinterfaces, henumerations⟩ := ofCategory_enumerations hkind
  obtain ⟨-, -, hfirst⟩ := of_generate (FirstMade.keepsUp files cwd) hok .start
  have hmade : ∃ more, g.made policy κ directories roots = directories.enumerations :: more := by
    unfold made directoryOf
    rw [hinterfaces, henumerations, List.isEmpty_nil, if_pos rfl, if_neg (by simpa using hne)]
    exact ⟨_, rfl⟩
  obtain ⟨more, hmore⟩ := hmade
  rw [hmore] at hfirst
  cases hfirst with
  | made hmade hkeeps => exact ⟨_, hmade, hkeeps⟩

end TypeGraph

end TypeExport

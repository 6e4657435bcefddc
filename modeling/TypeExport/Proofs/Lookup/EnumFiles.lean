import TypeExport.Lookup.EnumFiles
import TypeExport.Proofs.File.Making
import TypeExport.Proofs.Name.AsciiWord

/-!
# Writing the files of lookup enums

When the queries succeed and the directory can be made, the sources with rows write their modules
into it, one file each, and nothing else changes.  The file of a module has a longer name than its
enum.
-/

namespace TypeExport

namespace Text

/-- The bytes of a text are at least its characters. -/
theorem length_le_utf8ByteSize (s : List Char) : s.length ≤ (String.ofList s).utf8ByteSize := by
  induction s with
  | nil => exact Nat.zero_le _
  | cons c rest ih =>
    have hpos := c.utf8Size_pos
    rw [String.ofList_cons, String.utf8ByteSize_append, String.utf8ByteSize_singleton,
      List.length_cons]
    omega

theorem length_flatMap_lowerChar {s : List Char} (h : ∀ c ∈ s, IsWordChar c) :
    (s.flatMap lowerChar).length = s.length := by
  induction s with
  | nil => rfl
  | cons c rest ih =>
    obtain ⟨d, hd, -⟩ := lowerChar_of_isWordChar (h c List.mem_cons_self)
    rw [List.flatMap_cons, hd, List.length_append, ih fun e he => h e (List.mem_cons_of_mem _ he),
      List.length_singleton, List.length_cons, Nat.add_comm]

end Text

namespace Name

variable {name : String}

/-- The file of a word holds letters, digits, low lines and a point. -/
theorem mem_moduleFile (h : IsAsciiWord name.toList) {c : Char}
    (hc : c ∈ (moduleFile name).toList) : IsWordChar c ∨ c = '.' := by
  obtain ⟨stem, hstem, hfile⟩ := moduleFile_of_isAsciiWord h
  rw [hfile, String.toList_append, List.mem_append] at hc
  rcases hc with hc | hc
  · exact .inl (hstem.all c hc)
  · have hextension : ∀ c ∈ ['.', 'p', 'y'], IsWordChar c ∨ c = '.' := by
      intro d hd
      rcases List.mem_cons.1 hd with rfl | hd
      · exact .inr rfl
      · exact .inl (isWordChar_of_all (s := ['p', 'y']) (by decide) d hd)
    exact hextension c hc

theorem not_mem_moduleFile (h : IsAsciiWord name.toList) {c : Char} (hword : ¬IsWordChar c)
    (hpoint : c ≠ '.') : c ∉ (moduleFile name).toList := by
  intro hc
  rcases mem_moduleFile h hc with hc | hc
  · exact hword hc
  · exact hpoint hc

theorem head?_moduleFile (h : IsAsciiWord name.toList) :
    ∃ c, (moduleFile name).toList.head? = some c ∧ c.isAlpha = true := by
  obtain ⟨stem, hstem, hfile⟩ := moduleFile_of_isAsciiWord h
  obtain ⟨c, rest, hrest, halpha, -⟩ := hstem.exists_cons
  refine ⟨c, ?_, halpha⟩
  rw [hfile, String.toList_append, hrest]
  rfl

/-- The file of a word is a plain name. -/
theorem isPlain_moduleFile (h : IsAsciiWord name.toList) : Path.IsPlain (moduleFile name) := by
  obtain ⟨c, hc, halpha⟩ := head?_moduleFile h
  have hne : ∀ s : String, s.toList.head? ≠ some c → moduleFile name ≠ s := by
    rintro s hs rfl
    exact hs hc
  have hpoint : c ≠ '.' := by
    rintro rfl
    cases halpha
  refine ⟨not_mem_moduleFile h (by decide) (by decide), hne _ ?_, hne _ ?_, hne _ ?_⟩
  · exact fun h => by cases h
  · exact fun h => hpoint (Option.some.inj h).symm
  · exact fun h => hpoint (Option.some.inj h).symm

theorem length_le_partAcronyms (s : List Char) : s.length ≤ (partAcronyms s).length := by
  fun_induction partAcronyms s with
  | case1 a b c rest hsplit ih =>
    simp only [List.length_cons] at ih ⊢
    omega
  | case2 a b c rest hsplit ih =>
    simp only [List.length_cons] at ih ⊢
    omega
  | case3 s hshort => exact le_rfl

theorem length_le_partWords (s : List Char) : s.length ≤ (partWords s).length := by
  fun_induction partWords s with
  | case1 a b rest hsplit ih =>
    simp only [List.length_cons] at ih ⊢
    omega
  | case2 a b rest hsplit ih =>
    simp only [List.length_cons] at ih ⊢
    omega
  | case3 s hshort => exact le_rfl

/-- The file of a module has a name that is longer than the name of its enum. -/
theorem length_lt_moduleFile (h : IsAsciiWord name.toList) :
    name.toList.length < (moduleFile name).utf8ByteSize := by
  have hparts := (length_le_partAcronyms name.toList).trans (length_le_partWords _)
  have hlower := Text.length_flatMap_lowerChar (isAsciiWord_parted h).all
  have hbytes := Text.length_le_utf8ByteSize
    ((partWords (partAcronyms name.toList)).flatMap Text.lowerChar)
  unfold moduleFile Text.lower
  rw [String.toList_ofList, Text.lowerFrom_of_isWordChar (isAsciiWord_parted h).all,
    String.utf8ByteSize_append]
  have hextension : ".py".utf8ByteSize = 3 := by decide
  omega

end Name

namespace EnumSource

open FileTree

variable {cwd l : Location} {standard : String} {sources : List (EnumSource String)}
  {rows : EnumSource String → List Row} {fetch : Fetch} {t u v : FileTree Content}

/-- The sources whose tables have rows. -/
def written (rows : EnumSource String → List Row) (sources : List (EnumSource String)) :
    List (EnumSource String) :=
  sources.filter fun source => !(rows source).isEmpty

/-- A source whose file stands in the standard directory, under a name and a path that it can have. -/
structure HasFile (standard : String) (source : EnumSource String) : Prop where
  name : IsAsciiWord source.name.toList
  directory : source.outputDirectory.getD "" = ""
  short : (Name.moduleFile source.name).utf8ByteSize ≤ nameLimit
  fits : (source.filePath standard).fits = true

/-- What is left of a tree when some sources wrote their modules into a directory. -/
structure WroteModules (rows : EnumSource String → List Row) (l : Location)
    (sources : List (EnumSource String)) (u v : FileTree Content) : Prop where
  extended : u.IsExtendedBy v
  proper : u.IsProper → v.IsProper
  names : v.names l = u.names l ++ sources.map fun source => Name.moduleFile source.name
  files : ∀ source ∈ sources, v.find? (l ++ [Name.moduleFile source.name]) =
    some (.file (.text (source.moduleText (rows source))))
  kept : ∀ k, (∀ source ∈ sources, k ≠ l ++ [Name.moduleFile source.name]) → v.find? k = u.find? k

theorem HasFile.isEntryName {source : EnumSource String} (h : HasFile standard source) :
    IsEntryName (Name.moduleFile source.name) where
  short := h.short
  notParent := (Name.isPlain_moduleFile h.name).notParent
  noNull := Name.not_mem_moduleFile h.name (by decide) (by decide)

/-- A source without a directory of its own has its file in the standard one. -/
theorem filePath_of_standard {source : EnumSource String}
    (h : source.outputDirectory.getD "" = "") (standard : String) :
    source.filePath standard =
      (Path.ofString standard).join (.ofString (Name.moduleFile source.name)) := by
  unfold EnumSource.filePath
  cases houtput : source.outputDirectory with
  | none => rfl
  | some directory =>
    rw [houtput, Option.getD_some] at h
    rw [h]
    rfl

theorem writtenNow {source : EnumSource String} (hrows : (rows source).isEmpty = false) :
    written rows (source :: sources) = source :: written rows sources := by
  unfold written
  rw [List.filter_cons_of_pos (by simp [hrows])]

theorem writtenLater {source : EnumSource String} (hrows : (rows source).isEmpty = true) :
    written rows (source :: sources) = written rows sources := by
  unfold written
  rw [List.filter_cons_of_neg (by simp [hrows])]

/-- Writing the module of one source into a directory that is there. -/
theorem wroteModules_one (rows : EnumSource String → List Row) {source : EnumSource String}
    (h : HasFile standard source)
    (hl : u.find? l = some .directory) (hfree : Name.moduleFile source.name ∉ u.names l) :
    WroteModules rows l [source] u (u.insert (l ++ [Name.moduleFile source.name])
      (.file (.text (source.moduleText (rows source))))) where
  extended := isExtendedBy_insert (find?_of_not_mem_names hfree)
  proper := by
    intro hproper
    refine hproper.insert hl h.isEntryName ?_ _
    rw [find?_of_not_mem_names hfree]
    exact fun hnone => by cases hnone
  names := names_insert hfree _
  files := by
    intro other hother
    rw [List.mem_singleton.1 hother]
    exact find?_insert_self (by simp)
  kept := fun _ hk => find?_insert_of_ne (hk source List.mem_cons_self)

/-- Modules of later sources are written on top of those of the first ones. -/
theorem WroteModules.trans {first later : List (EnumSource String)}
    (h : WroteModules rows l first t u) (h' : WroteModules rows l later u v) :
    WroteModules rows l (first ++ later) t v where
  extended := h.extended.trans h'.extended
  proper := fun hproper => h'.proper (h.proper hproper)
  names := by rw [h'.names, h.names, List.map_append, List.append_assoc]
  files := by
    intro source hsource
    rcases List.mem_append.1 hsource with hfirst | hlater
    · exact h'.extended _ _ (h.files source hfirst)
    · exact h'.files source hlater
  kept := by
    intro k hk
    rw [h'.kept k fun source hsource => hk source (List.mem_append_right _ hsource),
      h.kept k fun source hsource => hk source (List.mem_append_left _ hsource)]

end EnumSource

/-- The outcome of a run that succeeds and leaves a tree. -/
def LookupOutcome.Leaves {κ α : Type} (o : LookupOutcome κ α) (v : FileTree κ) : Prop :=
  o.files = v ∧ ∃ a, o.result = .ok a

namespace EnumSource

open FileTree

variable {cwd l : Location} {standard : String} {source : EnumSource String}
  {sources : List (EnumSource String)} {rows : EnumSource String → List Row}
  {fetch : Fetch} {t u v : FileTree Content}

/-- A source without rows writes nothing. -/
theorem generateOne_empty (hfetch : fetch source = .ok (rows source))
    (hrows : (rows source).isEmpty = true) : (generateOne fetch cwd standard source u).Leaves u := by
  unfold generateOne
  rw [hfetch]
  dsimp only
  unfold writeModule
  rw [if_pos hrows]
  exact ⟨rfl, [], rfl⟩

/-- A source with rows writes its file. -/
theorem generateOne_rows (hfetch : fetch source = .ok (rows source))
    (hrows : (rows source).isEmpty = false)
    (hwrite : u.writeOutput cwd (source.filePath standard)
      (TextContent.ofText (source.moduleText (rows source))) = (v, none)) :
    (generateOne fetch cwd standard source u).Leaves v := by
  unfold generateOne
  rw [hfetch]
  dsimp only
  unfold writeModule
  rw [if_neg (by simp [hrows])]
  dsimp only
  rw [hwrite]
  exact ⟨rfl, _, rfl⟩

theorem generateAll_cons (hfirst : (generateOne fetch cwd standard source t).Leaves u)
    (hothers : (generateAll fetch cwd standard sources u).Leaves v) :
    (generateAll fetch cwd standard (source :: sources) t).Leaves v := by
  obtain ⟨hfiles, paths, hresult⟩ := hfirst
  obtain ⟨hleft, others, hdone⟩ := hothers
  unfold LookupOutcome.Leaves
  rw [generateAll, hresult]
  dsimp only
  rw [hfiles, hdone]
  exact ⟨hleft, _, rfl⟩

/-- With the directory there, every source with rows writes its file. -/
theorem generateAll_of_lookup (hfetch : ∀ source ∈ sources, fetch source = .ok (rows source))
    (hfiles : ∀ source ∈ written rows sources, HasFile standard source)
    (hdistinct : ((written rows sources).map fun source => Name.moduleFile source.name).Nodup)
    (hlookup : u.lookup cwd (.ofString standard) = .ok (l, some .directory))
    (hfree : ∀ source ∈ written rows sources, Name.moduleFile source.name ∉ u.names l) :
    ∃ v, WroteModules rows l (written rows sources) u v ∧
      (generateAll fetch cwd standard sources u).Leaves v := by
  induction sources generalizing u with
  | nil =>
    refine ⟨u, ⟨.refl u, id, ?_, ?_, fun _ _ => rfl⟩, rfl, [], rfl⟩
    · exact (List.append_nil _).symm
    · exact fun source hsource => (List.not_mem_nil hsource).elim
  | cons source sources ih =>
    have hrest := fun s hs => hfetch s (List.mem_cons_of_mem _ hs)
    have hthis := hfetch source List.mem_cons_self
    cases hrows : (rows source).isEmpty with
    | true =>
      rw [writtenLater hrows] at hfiles hdistinct hfree ⊢
      obtain ⟨v, hwrote, hleaves⟩ := ih hrest hfiles hdistinct hlookup hfree
      exact ⟨v, hwrote, generateAll_cons (generateOne_empty hthis hrows) hleaves⟩
    | false =>
      rw [writtenNow hrows] at hfiles hdistinct hfree ⊢
      rw [List.map_cons, List.nodup_cons] at hdistinct
      have hsource := hfiles source List.mem_cons_self
      have hnew := hfree source List.mem_cons_self
      have hone := wroteModules_one rows hsource (lookup_eq_ok hlookup).2.symm hnew
      have hnone : u.find? (l ++ [Name.moduleFile source.name]) ≠ some .directory := by
        rw [find?_of_not_mem_names hnew]
        exact fun h => by cases h
      -- the file of this source does not stand in the way of the others
      have hlater : ∀ s ∈ written rows sources, Name.moduleFile s.name ∉
          (u.insert (l ++ [Name.moduleFile source.name])
            (.file (.text (source.moduleText (rows source))))).names l := by
        intro s hs hmem
        rw [hone.names] at hmem
        rcases List.mem_append.1 hmem with hold | hsame
        · exact hfree s (List.mem_cons_of_mem _ hs) hold
        · have heq : Name.moduleFile s.name = Name.moduleFile source.name := by
            simpa using hsame
          exact hdistinct.1 (heq ▸ List.mem_map_of_mem hs)
      obtain ⟨v, hwrote, hleaves⟩ := ih hrest (fun s hs => hfiles s (List.mem_cons_of_mem _ hs))
        hdistinct.2 (lookup_insert hlookup hnone) hlater
      have hwrite := writeOutput_join
        (c := (TextContent.ofText (source.moduleText (rows source)) : Content)) hlookup
        (Name.isPlain_moduleFile hsource.name) hsource.isEntryName
        (filePath_of_standard hsource.directory standard ▸ hsource.fits) hnone
      rw [← filePath_of_standard hsource.directory] at hwrite
      exact ⟨v, hone.trans hwrote,
        generateAll_cons (generateOne_rows hthis hrows hwrite) hleaves⟩

/-- The directory need not be there if it can be made: the first source with rows makes it. -/
theorem generateAll_of_made (hfetch : ∀ source ∈ sources, fetch source = .ok (rows source))
    (hfiles : ∀ source ∈ written rows sources, HasFile standard source)
    (hmade : t.ensureDirectory cwd (.ofString standard) = (u, none))
    (hwritten : written rows sources ≠ []) :
    generateAll fetch cwd standard sources t = generateAll fetch cwd standard sources u := by
  induction sources with
  | nil => exact absurd rfl hwritten
  | cons source sources ih =>
    have hthis := hfetch source List.mem_cons_self
    rw [generateAll, generateAll]
    cases hrows : (rows source).isEmpty with
    | true =>
      rw [writtenLater hrows] at hfiles hwritten
      have hrest := ih (fun s hs => hfetch s (List.mem_cons_of_mem _ hs)) hfiles hwritten
      unfold generateOne
      rw [hthis]
      dsimp only
      unfold writeModule
      rw [if_pos hrows, if_pos hrows]
      dsimp only
      rw [hrest]
    | false =>
      rw [writtenNow hrows] at hfiles
      have hsource := hfiles source List.mem_cons_self
      have hwrite : ∀ c : Content, t.writeOutput cwd (source.filePath standard) c =
          u.writeOutput cwd (source.filePath standard) c := by
        intro c
        rw [filePath_of_standard hsource.directory]
        exact writeOutput_of_made hmade (Name.isPlain_moduleFile hsource.name)
      have hone : generateOne fetch cwd standard source t =
          generateOne fetch cwd standard source u := by
        unfold generateOne
        rw [hthis]
        dsimp only
        unfold writeModule
        rw [if_neg (by simp [hrows]), if_neg (by simp [hrows])]
        dsimp only
        rw [hwrite]
      rw [hone]

end EnumSource

end TypeExport

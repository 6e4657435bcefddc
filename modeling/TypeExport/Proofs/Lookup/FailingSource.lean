import TypeExport.Proofs.File.Effect
import TypeExport.Proofs.Lookup.SharedFiles
import TypeExport.Scan.Importer

/-!
# A source whose query fails

Sources are taken one after the other, and the first query that fails ends the run.  The modules of
the sources before it are written, and none of those after it.
-/

namespace TypeExport

/-- A text that ends in a name without slashes has a last piece that does. -/
theorem Text.exists_last_splitOn {sep : Char} {ending : List Char} (h : sep ∉ ending)
    (s : List Char) : ∃ pieces last, splitOn sep (s ++ ending) = pieces ++ [last ++ ending] := by
  induction s with
  | nil => exact ⟨[], [], splitOn_of_not_mem h⟩
  | cons c s ih =>
    obtain ⟨pieces, last, hsplit⟩ := ih
    rw [List.cons_append, splitOn, hsplit]
    by_cases hc : c = sep
    · rw [if_pos hc]
      exact ⟨[] :: pieces, last, rfl⟩
    · rw [if_neg hc]
      cases pieces with
      | nil => exact ⟨[], c :: last, rfl⟩
      | cons piece pieces => exact ⟨(c :: piece) :: pieces, last, rfl⟩

namespace EnumSource

open FileTree Importer

/-- A file of an enum has the extension of modules, whatever the enum is called. -/
theorem getLast?_parts_moduleFile (name : String) :
    ∃ base, (Path.ofString (Name.moduleFile name)).parts.getLast? =
      some (base ++ moduleExtension) := by
  obtain ⟨words, hfile⟩ : ∃ words, (Name.moduleFile name).toList =
      words ++ moduleExtension.toList := by
    unfold Name.moduleFile
    rw [String.toList_append]
    exact ⟨_, rfl⟩
  have hslash : '/' ∉ moduleExtension.toList := by
    decide
  obtain ⟨pieces, last, hsplit⟩ := Text.exists_last_splitOn hslash words
  have hpart : String.ofList (last ++ moduleExtension.toList) =
      String.ofList last ++ moduleExtension := by
    rw [String.ofList_append, String.ofList_toList]
  have hend : (String.ofList last ++ moduleExtension).toList.getLast? = some 'y' := by
    simp [moduleExtension]
  have htrivial : Path.isTrivial (String.ofList last ++ moduleExtension) = false := by
    unfold Path.isTrivial
    rw [Bool.or_eq_false_iff, beq_eq_false_iff_ne]
    constructor
    · rw [← Bool.not_eq_true, String.isEmpty_iff]
      apply toList_ne_of_getLast
      rw [hend]
      decide
    · apply toList_ne_of_getLast
      rw [hend]
      decide
  refine ⟨String.ofList last, ?_⟩
  unfold Path.ofString
  dsimp only
  rw [hfile, hsplit, List.map_append, List.filter_append, List.map_singleton, hpart,
    List.filter_cons_of_pos (by rw [htrivial]; rfl), List.filter_nil, List.getLast?_concat]

variable {κ : Type} [TextContent κ] {cwd : Location} {standard : String}
  {sources : List (EnumSource String)} {source : EnumSource String} {rows : List Row}
  {fetch : Fetch} {files : FileTree κ}
  {ds : List Path} {ws : List (Path × κ)} {P : List Path → List (Path × κ) → FileTree κ → Prop}

/-- So has the place of a module. -/
theorem getLast?_place (cwd : Location) (standard : String) (source : EnumSource String) :
    ∃ base, (source.place cwd standard).getLast? = some (base ++ moduleExtension) := by
  obtain ⟨base, hlast⟩ := getLast?_parts_moduleFile source.name
  obtain ⟨front, hparts⟩ := List.getLast?_eq_some_iff.1 hlast
  have hstep (l : Location) : (front ++ [base ++ moduleExtension]).foldl Path.step l =
      front.foldl Path.step l ++ [base ++ moduleExtension] := by
    have hparent : base ++ moduleExtension ≠ ".." := by
      apply toList_ne_of_getLast
      simp [moduleExtension]
    rw [List.foldl_append, List.foldl_cons, List.foldl_nil, Path.step, if_neg hparent]
  refine ⟨base, ?_⟩
  show (((source.directory standard).join (.ofString (Name.moduleFile source.name))).locate
    cwd).getLast? = _
  unfold Path.join
  split
  · unfold Path.locate
    rw [hparts, hstep, List.getLast?_concat]
  · unfold Path.locate
    dsimp only
    rw [hparts, List.foldl_append, hstep, List.getLast?_concat]

/-- The sources before the first one whose query fails. -/
def answered (fetch : Fetch) (sources : List (EnumSource String)) : List (EnumSource String) :=
  sources.takeWhile fun source => (fetch source).isOk

theorem answered_cons_ok (h : fetch source = .ok rows) (sources : List (EnumSource String)) :
    answered fetch (source :: sources) = source :: answered fetch sources := by
  unfold answered
  rw [List.takeWhile_cons_of_pos]
  rw [h]
  rfl

theorem answered_cons_error {cause : Sql.Fault} (h : fetch source = .error cause)
    (sources : List (EnumSource String)) : answered fetch (source :: sources) = [] := by
  unfold answered
  rw [List.takeWhile_cons_of_neg]
  rw [h]
  exact Bool.false_ne_true

theorem exists_of_mem_moduleWrites {rows : EnumSource String → List Row} {w : Path × κ}
    (h : w ∈ moduleWrites κ standard rows sources) :
    ∃ source ∈ written rows sources, w.1 = source.filePath standard := by
  unfold moduleWrites at h
  obtain ⟨source, hsource, heq⟩ := List.mem_map.1 h
  exact ⟨source, hsource, by rw [← heq]⟩

/-- A source whose query has an answer can only fail to write its module. -/
theorem exists_write_of_generateOne (hfetch : fetch source = .ok rows) {e : LookupError}
    (h : (generateOne fetch cwd standard source files).result = .error e) :
    ∃ cause, e = .write cause := by
  unfold generateOne at h
  rw [hfetch] at h
  dsimp only at h
  unfold writeModule at h
  split at h
  · cases h
  · dsimp only at h
    split at h
    · cases h
      exact ⟨_, rfl⟩
    · cases h

/-- A run over sources whose modules can be written has written those before the first query that
fails, and fails with it. -/
theorem generateAll_of_answered (ds : List Path) (hkeeps : KeepsUp cwd P)
    (hwrites : ∀ cause, (generateAll fetch cwd standard sources files).result ≠
      .error (.write cause)) (hP : P ds ws files) :
    P (ds ++ (moduleWrites κ standard (fetched fetch) (answered fetch sources)).map
          fun w => w.1.parent)
        (ws ++ moduleWrites κ standard (fetched fetch) (answered fetch sources))
        (generateAll fetch cwd standard sources files).files ∧
      (∀ paths, (generateAll fetch cwd standard sources files).result = .ok paths →
        answered fetch sources = sources) ∧
      ∀ e, (generateAll fetch cwd standard sources files).result = .error e →
        ∃ source after cause, sources = answered fetch sources ++ source :: after ∧
          fetch source = .error cause ∧ e = .query source cause := by
  induction sources generalizing files ds ws with
  | nil =>
    refine ⟨by simpa [generateAll, answered, moduleWrites, written] using hP, fun _ _ => rfl,
      fun e he => ?_⟩
    cases he
  | cons source sources ih =>
    rw [generateAll] at hwrites ⊢
    cases hfetch : fetch source with
    | error cause =>
      have hfirst : generateOne fetch cwd standard source files =
          { files, log := [.info ("Generating enum " ++ source.name ++ " from table " ++
            source.table)], result := .error (.query source cause) } := by
        unfold generateOne
        rw [hfetch]
      rw [hfirst, answered_cons_error hfetch]
      refine ⟨by simpa [moduleWrites, written] using hP, fun paths hpaths => ?_, fun e he => ?_⟩
      · cases hpaths
      · cases he
        exact ⟨source, sources, cause, rfl, hfetch, rfl⟩
    | ok rows =>
      rw [answered_cons_ok hfetch]
      cases hfirst : (generateOne fetch cwd standard source files).result with
      | error e =>
        obtain ⟨cause, rfl⟩ := exists_write_of_generateOne hfetch hfirst
        rw [hfirst] at hwrites
        exact absurd rfl (hwrites cause)
      | ok paths =>
        obtain ⟨-, -, hone⟩ := of_generateOne hkeeps hfirst hP
        rw [hfirst] at hwrites
        dsimp only at hwrites ⊢
        have hothers : ∀ cause, (generateAll fetch cwd standard sources
            (generateOne fetch cwd standard source files).files).result ≠
              .error (.write cause) := by
          intro cause heq
          apply hwrites cause
          rw [heq]
          rfl
        obtain ⟨hall, hok, herror⟩ := ih _ hothers hone
        refine ⟨?_, fun paths hpaths => ?_, fun e he => ?_⟩
        · rw [moduleWrites_cons, List.map_append, ← List.append_assoc, ← List.append_assoc]
          exact hall
        · cases hresult : (generateAll fetch cwd standard sources
              (generateOne fetch cwd standard source files).files).result with
          | error e =>
            rw [hresult] at hpaths
            cases hpaths
          | ok others => rw [hok others hresult]
        · cases hresult : (generateAll fetch cwd standard sources
              (generateOne fetch cwd standard source files).files).result with
          | ok others =>
            rw [hresult] at he
            cases he
          | error e' =>
            rw [hresult] at he
            cases he
            obtain ⟨failing, after, cause, hsources, hcause, rfl⟩ := herror e hresult
            exact ⟨failing, after, cause, by rw [List.cons_append, ← hsources], hcause, rfl⟩

end EnumSource

namespace EnumSource

open FileTree

variable {databases : Databases} {cwd : Location} {connection standard : String}
  {sources : List (EnumSource String)} {fetch : Fetch} {files opened : FileTree Content}

/-- The connection for some sources is open: what is left of the files, and how queries are answered.
No sources need none. -/
inductive Opens (databases : Databases) (cwd : Location) (connection : String)
    (files : FileTree Content) : List (EnumSource String) → FileTree Content → Fetch → Prop
  | unused (fetch : Fetch) : Opens databases cwd connection files [] files fetch
  | opened {sources : List (EnumSource String)} {masked : String} {opened : FileTree Content}
    {fetch : Fetch} (hne : sources ≠ []) (hmask : Url.mask connection = .ok masked)
    (hconnect : databases.connect cwd files masked connection = (opened, .ok fetch)) :
    Opens databases cwd connection files sources opened fetch

/-- Once the address is opened, the modules are those of the rows that the database answers. -/
theorem Opens.generateEnums_eq (h : Opens databases cwd connection files sources opened fetch)
    (standard : String) :
    (generateEnums databases cwd connection standard sources files).files =
        (generateAll fetch cwd standard sources opened).files ∧
      (generateEnums databases cwd connection standard sources files).result =
        (generateAll fetch cwd standard sources opened).result := by
  cases h with
  | unused fetch => exact ⟨rfl, rfl⟩
  | opened hne hmask hconnect =>
    unfold generateEnums generateOpened
    rw [if_neg (by simpa using hne), hmask]
    dsimp only
    rw [hconnect]
    exact ⟨rfl, rfl⟩

/-- With the connection open and the modules written, the tree is the one that the modules of the
sources before the first failing query make. -/
theorem Opens.find?_generateEnums
    (h : Opens databases cwd connection files sources opened fetch)
    (hwrites : ∀ cause, (generateEnums databases cwd connection standard sources files).result ≠
      .error (.write cause)) (l : Location) :
    (generateEnums databases cwd connection standard sources files).files.find? l =
      opened.afterWrites cwd (moduleWrites Content standard (fetched fetch)
        (answered fetch sources)) l := by
  obtain ⟨hfiles, hresult⟩ := h.generateEnums_eq standard
  rw [hresult] at hwrites
  obtain ⟨hleaves, -, -⟩ := generateAll_of_answered [] (Leaves.keepsUp opened cwd) hwrites
    (Leaves.refl opened)
  have hnone : opened.KeepsOthers cwd [] opened := fun _ _ he _ => he
  obtain ⟨hkeeps, -, -⟩ := generateAll_of_answered [] (keepsUp_keepsOthers opened cwd) hwrites
    hnone
  rw [List.nil_append, List.nil_append] at hleaves
  rw [List.nil_append] at hkeeps
  rw [hfiles]
  exact find?_eq_afterWrites hleaves hkeeps l

end EnumSource

end TypeExport

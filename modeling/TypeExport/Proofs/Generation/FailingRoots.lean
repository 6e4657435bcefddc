import TypeExport.Proofs.File.FailedWrites
import TypeExport.Proofs.Generation.RootOrder
import TypeExport.Proofs.Generation.Survival
import TypeExport.Proofs.Translation.TargetNames

/-!
# Generations that fail

The files of the types are written one after the other.  A type fails when its turn comes if its own
artifact cannot be made or its file cannot be written.  A generation whose directories are there fails
for a type exactly when one of its types fails in this way; it names the first of them, and it has
written no manifest.
-/

namespace TypeExport.TypeGraph

open FileTree

variable {κ ε : Type} [TextContent κ] (g : TypeGraph ε) (policy : Policy) (cwd : Location)
  (directories : OutputDirectories)

/-!
## Types that fail
-/

/-- Why the file of a type is not written into a tree: its own artifact cannot be made, or the write
fails. -/
inductive Fails (t : FileTree κ) (task : Category × g.Node) : RootCause ε → Prop
  | properties {e : ε} (hartifact : g.artifact policy task.2 = .error e) :
    Fails t task (.properties e)
  | write {a : Artifact} {e : WriteError} (hartifact : g.artifact policy task.2 = .ok a)
    (hwrite : (t.writeOutput cwd (g.filePath (directories.of task.1) task.2)
      (TextContent.ofText (a.text policy))).2 = some e) : Fails t task (.write e)

/-- The tree after a type was tried, whether it fails or not. -/
def tried (t : FileTree κ) (task : Category × g.Node) : FileTree κ :=
  match g.artifact policy task.2 with
  | .error _ => t
  | .ok a =>
    (t.writeOutput cwd (g.filePath (directories.of task.1) task.2)
      (TextContent.ofText (a.text policy))).1

/-- One of the types fails when its turn comes: in the tree that is there after all types before it
were tried. -/
def FailsAtTurn (t : FileTree κ) (tasks : List (Category × g.Node)) (task : Category × g.Node)
    (cause : RootCause ε) : Prop :=
  ∃ before after, tasks = before ++ task :: after ∧
    g.Fails policy cwd directories (before.foldl (g.tried policy cwd directories) t) task cause

/-- What is reported of a type that fails. -/
def failureOf (task : Category × g.Node) (cause : RootCause ε) : RootFailure ε where
  category := task.1
  fullName := (g.descriptor task.2).fullName
  cause := cause

variable {g policy cwd directories} {t u v : FileTree κ} {task : Category × g.Node}
  {rest tasks more : List (Category × g.Node)} {failure : Option (RootFailure ε)}
  {roots : List g.Node}

theorem FailsAtTurn.mem {cause : RootCause ε}
    (h : g.FailsAtTurn policy cwd directories t tasks task cause) : task ∈ tasks := by
  obtain ⟨before, after, rfl, -⟩ := h
  simp

/-- The first task fails, or a later one fails after it was tried. -/
theorem failsAtTurn_cons_iff {other : Category × g.Node} {cause : RootCause ε} :
    g.FailsAtTurn policy cwd directories t (task :: rest) other cause ↔
      (other = task ∧ g.Fails policy cwd directories t task cause) ∨
        g.FailsAtTurn policy cwd directories (g.tried policy cwd directories t task) rest other
          cause := by
  constructor
  · rintro ⟨before, after, hsplit, hfails⟩
    cases before with
    | nil =>
      obtain ⟨rfl, rfl⟩ := List.cons.inj hsplit
      exact .inl ⟨rfl, hfails⟩
    | cons first before =>
      obtain ⟨rfl, rfl⟩ := List.cons.inj hsplit
      exact .inr ⟨before, after, rfl, hfails⟩
  · rintro (⟨rfl, hfails⟩ | ⟨before, after, rfl, hfails⟩)
    · exact ⟨[], rest, rfl, hfails⟩
    · exact ⟨task :: before, after, rfl, hfails⟩

theorem not_failsAtTurn_nil {cause : RootCause ε} :
    ¬g.FailsAtTurn policy cwd directories t [] task cause := by
  rintro ⟨before, after, hsplit, -⟩
  simp at hsplit

variable (policy cwd directories) in
/-- What one type does to the tree, and what comes of it. -/
theorem writeRoot_cases (t : FileTree κ) (task : Category × g.Node) :
    (∃ cause, g.Fails policy cwd directories t task cause ∧
      g.writeRoot policy cwd task.1 (directories.of task.1) t task.2 =
        (g.tried policy cwd directories t task, .error (g.failureOf task cause))) ∨
    ((∀ cause, ¬g.Fails policy cwd directories t task cause) ∧
      g.writeRoot policy cwd task.1 (directories.of task.1) t task.2 =
        (g.tried policy cwd directories t task,
          .ok (g.filePath (directories.of task.1) task.2))) := by
  unfold writeRoot tried fileText
  cases hartifact : g.artifact policy task.2 with
  | error e => exact .inl ⟨.properties e, .properties hartifact, rfl⟩
  | ok a =>
    dsimp only [Except.map]
    cases hwrite : t.writeOutput cwd (g.filePath (directories.of task.1) task.2)
      (TextContent.ofText (a.text policy)) with
    | mk u refusal =>
      cases refusal with
      | some e =>
        refine .inl ⟨.write e, .write hartifact ?_, rfl⟩
        rw [hwrite]
      | none =>
        refine .inr ⟨fun cause hfails => ?_, rfl⟩
        cases hfails with
        | properties hother =>
          rw [hartifact] at hother
          cases hother
        | write hother hrefused =>
          rw [hartifact] at hother
          cases hother
          rw [hwrite] at hrefused
          cases hrefused

/-!
## Runs up to the first failure
-/

variable (g policy cwd directories) in
/-- Types that are tried one after the other up to the first one that fails, with the tree that is left
and the failure. -/
inductive Ends : FileTree κ → List (Category × g.Node) → FileTree κ → Option (RootFailure ε) → Prop
  | done {t : FileTree κ} : Ends t [] t none
  | failed {t : FileTree κ} {task : Category × g.Node} {rest : List (Category × g.Node)}
    {cause : RootCause ε} (hfails : g.Fails policy cwd directories t task cause) :
    Ends t (task :: rest) (g.tried policy cwd directories t task) (some (g.failureOf task cause))
  | next {t u : FileTree κ} {task : Category × g.Node} {rest : List (Category × g.Node)}
    {failure : Option (RootFailure ε)} (hworks : ∀ cause, ¬g.Fails policy cwd directories t task cause)
    (hrest : Ends (g.tried policy cwd directories t task) rest u failure) :
    Ends t (task :: rest) u failure

theorem Ends.append (h : g.Ends policy cwd directories t tasks u none)
    (h' : g.Ends policy cwd directories u more v failure) :
    g.Ends policy cwd directories t (tasks ++ more) v failure := by
  generalize hnone : (none : Option (RootFailure ε)) = ending at h
  induction h with
  | done => exact h'
  | failed hfails => cases hnone
  | next hworks _ ih => exact .next hworks (ih h' hnone)

theorem Ends.append_of_failure {f : RootFailure ε}
    (h : g.Ends policy cwd directories t tasks u (some f)) (more : List (Category × g.Node)) :
    g.Ends policy cwd directories t (tasks ++ more) u (some f) := by
  generalize hsome : some f = ending at h ⊢
  induction h with
  | done => cases hsome
  | failed hfails => exact .failed hfails
  | next hworks _ ih => exact .next hworks (ih hsome)

/-- What a run reports is the failure of a type whose turn had come. -/
theorem Ends.failsAtTurn {f : RootFailure ε} (h : g.Ends policy cwd directories t tasks u (some f)) :
    ∃ task cause, g.FailsAtTurn policy cwd directories t tasks task cause ∧
      f = g.failureOf task cause := by
  generalize hsome : some f = ending at h
  induction h with
  | done => cases hsome
  | failed hfails =>
    cases hsome
    exact ⟨_, _, failsAtTurn_cons_iff.2 (.inl ⟨rfl, hfails⟩), rfl⟩
  | next _ _ ih =>
    obtain ⟨task, cause, hfails, hf⟩ := ih hsome
    exact ⟨task, cause, failsAtTurn_cons_iff.2 (.inr hfails), hf⟩

/-- In a run without a failure no type fails, and all are tried. -/
theorem Ends.works (h : g.Ends policy cwd directories t tasks u none) :
    u = tasks.foldl (g.tried policy cwd directories) t ∧
      ∀ task cause, ¬g.FailsAtTurn policy cwd directories t tasks task cause := by
  generalize hnone : (none : Option (RootFailure ε)) = ending at h
  induction h with
  | done => exact ⟨rfl, fun _ _ => not_failsAtTurn_nil⟩
  | failed _ => cases hnone
  | next hworks _ ih =>
    obtain ⟨hu, hrest⟩ := ih hnone
    refine ⟨hu, fun task cause hfails => ?_⟩
    obtain ⟨rfl, hthis⟩ | hlater := failsAtTurn_cons_iff.1 hfails
    · exact hworks cause hthis
    · exact hrest task cause hlater

/-- A file that a run leaves is an old one or holds the text of one of the types. -/
theorem Ends.file {l : Location} {d : κ} (h : g.Ends policy cwd directories t tasks u failure)
    (hfile : u.find? l = some (.file d)) :
    t.find? l = some (.file d) ∨
      ∃ task ∈ tasks, ∃ text, g.fileText policy task.2 = .ok text ∧ d = TextContent.ofText text := by
  have hone : ∀ (t : FileTree κ) (task : Category × g.Node),
      (g.tried policy cwd directories t task).find? l = some (.file d) →
        t.find? l = some (.file d) ∨
          ∃ text, g.fileText policy task.2 = .ok text ∧ d = TextContent.ofText text := by
    intro t task htried
    unfold tried at htried
    unfold fileText
    cases hartifact : g.artifact policy task.2 with
    | error e =>
      rw [hartifact] at htried
      exact .inl htried
    | ok a =>
      rw [hartifact] at htried
      exact (file_of_writeOutput htried).imp_right fun hd => ⟨a.text policy, rfl, hd⟩
  induction h with
  | done => exact .inl hfile
  | failed _ => exact (hone _ _ hfile).imp_right fun htext => ⟨_, List.mem_cons_self, htext⟩
  | next _ _ ih =>
    obtain hold | ⟨task, htask, htext⟩ := ih hfile
    · exact (hone _ _ hold).imp_right fun htext => ⟨_, List.mem_cons_self, htext⟩
    · exact .inr ⟨task, List.mem_cons_of_mem _ htask, htext⟩

variable (policy cwd directories) in
/-- The types of a category are written in such a run. -/
theorem ends_writeRoots (category : Category) (t : FileTree κ) (roots : List g.Node) :
    ∃ failure, g.Ends policy cwd directories t (roots.map (Prod.mk category))
        (g.writeRoots policy cwd category (directories.of category) t roots).files failure ∧
      (g.writeRoots policy cwd category (directories.of category) t roots).result =
        match failure with
        | none => .ok (roots.map (g.filePath (directories.of category)))
        | some f => .error (.root f) := by
  induction roots generalizing t with
  | nil => exact ⟨none, .done, rfl⟩
  | cons s rest ih =>
    unfold writeRoots
    obtain ⟨cause, hfails, hwrite⟩ | ⟨hworks, hwrite⟩ :=
      writeRoot_cases policy cwd directories t (category, s)
    · dsimp only at hwrite
      rw [hwrite]
      exact ⟨some (g.failureOf (category, s) cause), .failed hfails, rfl⟩
    · dsimp only at hwrite
      obtain ⟨failure, hrest, hresult⟩ := ih (g.tried policy cwd directories t (category, s))
      rw [hwrite]
      refine ⟨failure, .next hworks hrest, ?_⟩
      dsimp only
      rw [hresult]
      cases failure <;> rfl

/-!
## Types with plain stems
-/

/-- The tree holds the directories of the types. -/
def HasDirectories (directories : OutputDirectories) (cwd : Location) (t : FileTree κ)
    (tasks : List (Category × g.Node)) : Prop :=
  ∀ task ∈ tasks,
    t.lookup cwd (directories.of task.1) = .ok ((directories.of task.1).locate cwd, some .directory)

theorem sameDirectories_tried (hplain : '/' ∉ (g.stem task.2).toList)
    (hlookup : t.lookup cwd (directories.of task.1) =
      .ok ((directories.of task.1).locate cwd, some .directory)) :
    SameDirectories t (g.tried policy cwd directories t task) := by
  unfold tried
  cases g.artifact policy task.2 with
  | error e => exact .refl t
  | ok a => exact sameDirectories_writeOutput hlookup (isPlain_fileName hplain)

/-- Whether a type fails does not depend on the files that are there. -/
theorem fails_iff_of_sameDirectories {cause : RootCause ε} (hsame : SameDirectories t u)
    (hplain : '/' ∉ (g.stem task.2).toList)
    (hlookup : t.lookup cwd (directories.of task.1) =
      .ok ((directories.of task.1).locate cwd, some .directory)) :
    g.Fails policy cwd directories t task cause ↔ g.Fails policy cwd directories u task cause := by
  have hwrites : ∀ c : κ, (t.writeOutput cwd (g.filePath (directories.of task.1) task.2) c).2 =
      (u.writeOutput cwd (g.filePath (directories.of task.1) task.2) c).2 :=
    fun c => hsame.writeOutput_join hlookup (isPlain_fileName hplain)
  constructor
  · intro h
    cases h with
    | properties hartifact => exact .properties hartifact
    | write hartifact hwrite => exact .write hartifact (hwrites _ ▸ hwrite)
  · intro h
    cases h with
    | properties hartifact => exact .properties hartifact
    | write hartifact hwrite => exact .write hartifact ((hwrites _).symm ▸ hwrite)

/-- A type of a plain stem fails when its turn comes just if it fails before all others. -/
theorem failsAtTurn_iff_of_plain {cause : RootCause ε}
    (hplain : ∀ task ∈ tasks, '/' ∉ (g.stem task.2).toList)
    (hdirectories : HasDirectories directories cwd t tasks) :
    g.FailsAtTurn policy cwd directories t tasks task cause ↔
      task ∈ tasks ∧ g.Fails policy cwd directories t task cause := by
  induction tasks generalizing t with
  | nil => exact ⟨fun h => (not_failsAtTurn_nil h).elim, fun h => (List.not_mem_nil h.1).elim⟩
  | cons first rest ih =>
    obtain ⟨hfirst, hrest⟩ := List.forall_mem_cons.1 hplain
    obtain ⟨hthere, hthere'⟩ := List.forall_mem_cons.1 hdirectories
    have hsame : SameDirectories t (g.tried policy cwd directories t first) :=
      sameDirectories_tried hfirst hthere
    rw [failsAtTurn_cons_iff, ih hrest fun other hother => hsame.lookup (hthere' other hother),
      List.mem_cons]
    constructor
    · rintro (⟨rfl, hfails⟩ | ⟨hmem, hfails⟩)
      · exact ⟨.inl rfl, hfails⟩
      · exact ⟨.inr hmem,
          (fails_iff_of_sameDirectories hsame (hrest _ hmem) (hthere' _ hmem)).2 hfails⟩
    · rintro ⟨rfl | hmem, hfails⟩
      · exact .inl ⟨rfl, hfails⟩
      · exact .inr ⟨hmem,
          (fails_iff_of_sameDirectories hsame (hrest _ hmem) (hthere' _ hmem)).1 hfails⟩

/-!
## Generations
-/

/-- The directories of the categories that have types are made. -/
def MakesDirectories (g : TypeGraph ε) (cwd : Location) (directories : OutputDirectories)
    (roots : List g.Node) (files made : FileTree κ) : Prop :=
  ∃ u, g.makeDirectoryOf cwd directories.interfaces (g.ofCategory .interfaces roots) files =
      (u, .ok ()) ∧
    g.makeDirectoryOf cwd directories.enumerations (g.ofCategory .enumerations roots) u =
      (made, .ok ())

/-- What comes of the manifests that the policy asks for. -/
def manifestsResult (g : TypeGraph ε) (policy : Policy) (cwd : Location)
    (directories : OutputDirectories) (roots : List g.Node) (t : FileTree κ) :
    Except (GenerationError ε) (List Path) :=
  if policy.manifests then
    (g.writeManifests cwd directories (g.ofCategory .interfaces roots)
      (g.ofCategory .enumerations roots) t).2
  else .ok []

variable {files made : FileTree κ} {describe : ε → String}

/-- A manifest that cannot be written is no failure of a type. -/
theorem manifestsResult_ne_root (f : RootFailure ε) :
    g.manifestsResult policy cwd directories roots t ≠ .error (.root f) := by
  have hone : ∀ (directory : Path) (types : List g.Node) (t : FileTree κ),
      (g.writeManifest cwd directory types t).2 ≠ .error (.root f) := by
    intro directory types t h
    unfold writeManifest at h
    split at h
    · cases h
    · dsimp only at h
      split at h <;> cases h
  intro h
  unfold manifestsResult writeManifests at h
  split at h
  · cases hfirst : g.writeManifest cwd directories.interfaces (g.ofCategory .interfaces roots) t with
    | mk u first =>
      rw [hfirst] at h
      cases first with
      | error e => exact hone _ _ _ ((congrArg Prod.snd hfirst).trans h)
      | ok first =>
        dsimp only at h
        cases hsecond : g.writeManifest cwd directories.enumerations
          (g.ofCategory .enumerations roots) u with
        | mk v second =>
          rw [hsecond] at h
          cases second with
          | error e => exact hone _ _ _ ((congrArg Prod.snd hsecond).trans h)
          | ok second => cases h
  · cases h

variable (policy cwd directories roots) in
/-- When the directories are there, all types are tried up to the first that fails, and the manifests
come last. -/
theorem ends_generateFiles (t : FileTree κ) :
    ∃ u failure, g.Ends policy cwd directories t (g.tasks roots) u failure ∧
      match failure with
      | some f =>
        (g.generateFiles policy cwd directories (g.ofCategory .interfaces roots)
            (g.ofCategory .enumerations roots) t).files = u ∧
          (g.generateFiles policy cwd directories (g.ofCategory .interfaces roots)
            (g.ofCategory .enumerations roots) t).result = .error (.root f)
      | none =>
        (g.generateFiles policy cwd directories (g.ofCategory .interfaces roots)
            (g.ofCategory .enumerations roots) t).result =
          (g.manifestsResult policy cwd directories roots u).map fun manifestFiles =>
            { interfaceFiles := sortPaths
                ((g.ofCategory .interfaces roots).map (g.filePath directories.interfaces))
              enumFiles := sortPaths
                ((g.ofCategory .enumerations roots).map (g.filePath directories.enumerations))
              manifestFiles } := by
  unfold generateFiles TypeGraph.tasks
  obtain ⟨first, hfirst, hresult⟩ :=
    ends_writeRoots policy cwd directories .interfaces t (g.ofCategory .interfaces roots)
  dsimp only [OutputDirectories.of] at hfirst hresult
  cases hwritten : g.writeRoots policy cwd .interfaces directories.interfaces t
    (g.ofCategory .interfaces roots) with
  | mk u events result =>
    rw [hwritten] at hfirst hresult
    dsimp only at hfirst hresult
    subst hresult
    cases first with
    | some f => exact ⟨u, some f, hfirst.append_of_failure _, rfl, rfl⟩
    | none =>
      obtain ⟨second, hsecond, hresult⟩ :=
        ends_writeRoots policy cwd directories .enumerations u (g.ofCategory .enumerations roots)
      dsimp only [OutputDirectories.of] at hsecond hresult
      cases hwritten' : g.writeRoots policy cwd .enumerations directories.enumerations u
        (g.ofCategory .enumerations roots) with
      | mk v more result =>
        rw [hwritten'] at hsecond hresult
        dsimp only at hsecond hresult
        subst hresult
        refine ⟨v, second, hfirst.append hsecond, ?_⟩
        cases second with
        | some f =>
          dsimp only
          rw [hwritten']
          exact ⟨rfl, rfl⟩
        | none =>
          dsimp only
          rw [hwritten']
          unfold manifestsResult
          dsimp only
          split <;> rfl

variable (policy describe) in
/-- A generation whose directories are made goes on with the files. -/
theorem generate_of_made (h : g.MakesDirectories cwd directories roots files made) :
    (g.generate policy cwd directories describe roots files).files =
        (g.generateFiles policy cwd directories (g.ofCategory .interfaces roots)
          (g.ofCategory .enumerations roots) made).files ∧
      (g.generate policy cwd directories describe roots files).result =
        (g.generateFiles policy cwd directories (g.ofCategory .interfaces roots)
          (g.ofCategory .enumerations roots) made).result := by
  obtain ⟨u, hinterfaces, henumerations⟩ := h
  cases roots with
  | nil =>
    cases hinterfaces
    cases henumerations
    unfold generate generateFiles
    cases policy.manifests <;>
      simp [ofCategory, writeRoots, writeManifests, writeManifest, sortPaths, Except.map]
  | cons s rest =>
    unfold generate
    rw [if_neg (by simp)]
    dsimp only
    rw [hinterfaces]
    dsimp only
    rw [henumerations]
    exact ⟨rfl, rfl⟩

omit [TextContent κ] in
theorem lookup_of_makeDirectoryOf {directory : Path}
    (h : g.makeDirectoryOf cwd directory roots t = (u, .ok ())) (hne : roots ≠ []) :
    u.lookup cwd directory = .ok (directory.locate cwd, some .directory) := by
  unfold makeDirectoryOf at h
  rw [if_neg (by simpa using hne)] at h
  split at h
  · rename_i v hmade
    cases h
    exact lookup_of_ensureDirectory (makeOutput_eq_ok hmade)
  · cases h

omit [TextContent κ] in
/-- Making a directory keeps what is there and makes no file. -/
theorem makeDirectoryOf_keeps {directory : Path}
    (h : g.makeDirectoryOf cwd directory roots t = (u, .ok ())) :
    t.IsExtendedBy u ∧ ∀ l d, u.find? l = some (.file d) → t.find? l = some (.file d) := by
  unfold makeDirectoryOf at h
  split at h
  · cases h
    exact ⟨.refl t, fun _ _ hfile => hfile⟩
  · split at h
    · rename_i v hmade
      cases h
      have hensured := makeOutput_eq_ok hmade
      have hextended := ensureDirectory_isExtendedBy t cwd directory
      rw [hensured] at hextended
      refine ⟨hextended, fun l d hfile => ?_⟩
      have hafter : (t.ensureDirectory cwd directory).1.find? l = some (.file d) := by
        rw [hensured]
        exact hfile
      exact file_of_ensureDirectory hafter
    · cases h

omit [TextContent κ] in
/-- Once the directories are made, those of all tasks are there. -/
theorem hasDirectories_of_made (h : g.MakesDirectories cwd directories roots files made) :
    HasDirectories directories cwd made (g.tasks roots) := by
  obtain ⟨u, hinterfaces, henumerations⟩ := h
  intro task htask
  unfold TypeGraph.tasks at htask
  rcases List.mem_append.1 htask with h | h
  · obtain ⟨s, hs, rfl⟩ := List.mem_map.1 h
    have hlookup := lookup_of_makeDirectoryOf hinterfaces (List.ne_nil_of_mem hs)
    have hextended := (makeDirectoryOf_keeps henumerations).1
    have hkept := hextended _ _ (lookup_eq_ok hlookup).2.symm
    exact (lookup_of_keepsDirectories hextended.keepsDirectories hlookup).trans (by rw [hkept]; rfl)
  · obtain ⟨s, hs, rfl⟩ := List.mem_map.1 h
    exact lookup_of_makeDirectoryOf henumerations (List.ne_nil_of_mem hs)

theorem label_eq_enum_iff {kind : TypeKind} {category : Category}
    (h : kind.category? = some category) : category.label = "enum" ↔ kind = .enumeration := by
  cases kind <;> cases h <;> decide

variable (describe) in
/-- A type that fails when its turn comes is the reason of a reported failure. -/
theorem root_of_failsAtTurn (hmade : g.MakesDirectories cwd directories roots files made)
    {cause : RootCause ε}
    (h : g.FailsAtTurn policy cwd directories made (g.tasks roots) task cause) :
    ∃ failure, (g.generate policy cwd directories describe roots files).result =
      .error (.root failure) := by
  obtain ⟨u, failure, hends, houtcome⟩ := ends_generateFiles policy cwd directories roots made
  cases failure with
  | none => exact absurd h (hends.works.2 task cause)
  | some f => exact ⟨f, (generate_of_made policy describe hmade).2.trans houtcome.2⟩

/-- When no type fails, what comes of a generation is a matter of the manifests. -/
theorem result_of_works (hmade : g.MakesDirectories cwd directories roots files made)
    (hworks : ∀ task cause,
      ¬g.FailsAtTurn policy cwd directories made (g.tasks roots) task cause) :
    (g.generate policy cwd directories describe roots files).result =
      (g.manifestsResult policy cwd directories roots
        ((g.tasks roots).foldl (g.tried policy cwd directories) made)).map fun manifestFiles =>
          { interfaceFiles := sortPaths
              ((g.ofCategory .interfaces roots).map (g.filePath directories.interfaces))
            enumFiles := sortPaths
              ((g.ofCategory .enumerations roots).map (g.filePath directories.enumerations))
            manifestFiles } := by
  obtain ⟨u, failure, hends, houtcome⟩ := ends_generateFiles policy cwd directories roots made
  cases failure with
  | none =>
    obtain ⟨rfl, -⟩ := hends.works
    exact (generate_of_made policy describe hmade).2.trans houtcome
  | some f =>
    obtain ⟨task, cause, hfails, -⟩ := hends.failsAtTurn
    exact absurd hfails (hworks task cause)

/-- A generation that reports a type has tried the types up to this one, and nothing else. -/
theorem ends_of_root (hmade : g.MakesDirectories cwd directories roots files made)
    {f : RootFailure ε} (h : (g.generate policy cwd directories describe roots files).result =
      .error (.root f)) :
    g.Ends policy cwd directories made (g.tasks roots)
      (g.generate policy cwd directories describe roots files).files (some f) := by
  obtain ⟨hfiles, hresult⟩ := generate_of_made policy describe hmade
  obtain ⟨u, failure, hends, houtcome⟩ := ends_generateFiles policy cwd directories roots made
  cases failure with
  | none =>
    rw [hresult, houtcome] at h
    cases hmanifests : g.manifestsResult policy cwd directories roots u with
    | ok paths =>
      rw [hmanifests] at h
      cases h
    | error e =>
      rw [hmanifests] at h
      cases h
      exact absurd hmanifests (manifestsResult_ne_root f)
  | some f' =>
    obtain ⟨rfl, hf⟩ := houtcome
    rw [hresult, hf] at h
    cases h
    rw [hfiles]
    exact hends

/-- A generation whose directories are made fails for a type exactly when a type fails when its turn
comes.  It reports one of these types, as an enumeration if it is one, with the type's own cause, and
leaves no manifest that was not there.  When no type fails, the paths of all types are returned unless
a manifest that the policy asks for cannot be written.  Among types of plain stems those fail that fail
in the tree with the directories. -/
theorem generate_fails_iff (g : TypeGraph ε) (policy : Policy) (cwd : Location)
    (directories : OutputDirectories) (describe : ε → String) (roots : List g.Node)
    {files made : FileTree κ} (hmade : g.MakesDirectories cwd directories roots files made) :
    ((∃ failure, (g.generate policy cwd directories describe roots files).result =
        .error (.root failure)) ↔
      ∃ task cause, g.FailsAtTurn policy cwd directories made (g.tasks roots) task cause) ∧
    (∀ failure, (g.generate policy cwd directories describe roots files).result =
        .error (.root failure) →
      (∃ category, ∃ t ∈ roots,
        g.FailsAtTurn policy cwd directories made (g.tasks roots) (category, t) failure.cause ∧
        failure.fullName = (g.descriptor t).fullName ∧
        (failure.category.label = "enum" ↔ (g.descriptor t).kind = .enumeration)) ∧
      ∀ l names, (g.generate policy cwd directories describe roots files).files.find? l =
          some (.file (TextContent.ofText (Manifest.text names))) →
        files.find? l = some (.file (TextContent.ofText (Manifest.text names)))) ∧
    ((∀ task cause, ¬g.FailsAtTurn policy cwd directories made (g.tasks roots) task cause) →
      (∀ manifestFiles, g.manifestsResult policy cwd directories roots
          ((g.tasks roots).foldl (g.tried policy cwd directories) made) = .ok manifestFiles →
        ∃ result, (g.generate policy cwd directories describe roots files).result = .ok result ∧
          result.interfaceFiles.Perm
            ((g.ofCategory .interfaces roots).map (g.filePath directories.interfaces)) ∧
          result.enumFiles.Perm
            ((g.ofCategory .enumerations roots).map (g.filePath directories.enumerations)) ∧
          result.manifestFiles = manifestFiles) ∧
      ∀ e, g.manifestsResult policy cwd directories roots
          ((g.tasks roots).foldl (g.tried policy cwd directories) made) = .error e →
        (g.generate policy cwd directories describe roots files).result = .error e) ∧
    (g.HasPlainStems roots → ∀ task cause,
      g.FailsAtTurn policy cwd directories made (g.tasks roots) task cause ↔
        task ∈ g.tasks roots ∧ g.Fails policy cwd directories made task cause) := by
  refine ⟨⟨?_, ?_⟩, fun failure h => ⟨?_, fun l names hfile => ?_⟩, fun hworks => ⟨?_, ?_⟩, ?_⟩
  · rintro ⟨failure, h⟩
    obtain ⟨task, cause, hfails, -⟩ := (ends_of_root hmade h).failsAtTurn
    exact ⟨task, cause, hfails⟩
  · rintro ⟨task, cause, hfails⟩
    exact root_of_failsAtTurn describe hmade hfails
  · obtain ⟨task, cause, hfails, rfl⟩ := (ends_of_root hmade h).failsAtTurn
    obtain ⟨hroot, hcategory⟩ := mem_tasks_iff.1 hfails.mem
    exact ⟨task.1, task.2, hroot, hfails, rfl, label_eq_enum_iff hcategory⟩
  · rcases (ends_of_root hmade h).file hfile with hold | ⟨other, -, text, htext, hsame⟩
    · obtain ⟨v, hinterfaces, henumerations⟩ := hmade
      exact (makeDirectoryOf_keeps hinterfaces).2 l _
        ((makeDirectoryOf_keeps henumerations).2 l _ hold)
    · exact absurd (TextContent.ofText_inj hsame).symm (fileText_ne_manifest htext names)
  · intro manifestFiles hmanifests
    rw [result_of_works hmade hworks, hmanifests]
    exact ⟨_, rfl, List.mergeSort_perm _ _, List.mergeSort_perm _ _, rfl⟩
  · intro e hmanifests
    rw [result_of_works hmade hworks, hmanifests]
    rfl
  · intro hplain task cause
    exact failsAtTurn_iff_of_plain (fun task htask => hplain _ (mem_tasks_iff.1 htask).1)
      (hasDirectories_of_made hmade)

/-- Directories for both categories, with a directory in the place of a file. -/
def blockedTree (name : String) : FileTree Content where
  entries := [(["models"], .directory), (["enums"], .directory), (["enums", name], .directory)]

/-- A generation with manifests into such a tree. -/
def blockedOutcome (name : String) (roots : List (Fin 3)) :
    GenerationOutcome Content (Fin 3) String Generated :=
  kinds.generate { manifests := true } [] (spelledDirectories "models" "enums") id roots
    (blockedTree name)

theorem makesDirectories_blockedTree (name : String) :
    kinds.MakesDirectories [] (spelledDirectories "models" "enums") [(0 : Fin 3)] (blockedTree name)
      (blockedTree name) :=
  ⟨blockedTree name, rfl, rfl⟩

/-- The file of `Genre` cannot be written, and `Genre` is reported. -/
theorem generate_of_blockedGenre :
    kinds.MakesDirectories [] (spelledDirectories "models" "enums") [(0 : Fin 3)]
        (blockedTree "genre.ts") (blockedTree "genre.ts") ∧
      ∃ failure, (blockedOutcome "genre.ts" [0]).result = .error (.root failure) ∧
        failure.fullName = "app.Genre" ∧ failure.category.label = "enum" := by
  have hmade := makesDirectories_blockedTree "genre.ts"
  obtain ⟨hiff, hfailure, -⟩ := generate_fails_iff kinds { manifests := true } []
    (spelledDirectories "models" "enums") id [(0 : Fin 3)] hmade
  have hfails : kinds.Fails { manifests := true } [] (spelledDirectories "models" "enums")
      (blockedTree "genre.ts") (.enumerations, (0 : Fin 3))
      (.write (.artifact (.ofString "enums/genre.ts") .isDirectory)) :=
    .write (artifact_of_enumeration rfl) (by decide +kernel)
  obtain ⟨failure, hresult⟩ := hiff.2 ⟨_, _, [], [], rfl, hfails⟩
  obtain ⟨⟨category, t, ht, -, hname, hlabel⟩, -⟩ := hfailure failure hresult
  obtain rfl := List.mem_singleton.1 ht
  exact ⟨hmade, failure, hresult, hname, hlabel.2 rfl⟩

/-- Whether a generation fails, and not for one of its types. -/
def endsAtOutput {κ ν ε α : Type} (o : GenerationOutcome κ ν ε α) : Bool :=
  match o.result with
  | .error (.output _) => true
  | _ => false

/-- When only the manifest cannot be written, no type fails, and yet no paths are returned. -/
theorem blockedManifest_ends_generation :
    kinds.MakesDirectories [] (spelledDirectories "models" "enums") [(0 : Fin 3)]
        (blockedTree "index.ts") (blockedTree "index.ts") ∧
      (∀ task cause, ¬kinds.FailsAtTurn { manifests := true } []
        (spelledDirectories "models" "enums") (blockedTree "index.ts")
        (kinds.tasks [(0 : Fin 3)]) task cause) ∧
      ∀ result, (blockedOutcome "index.ts" [0]).result ≠ .ok result := by
  have hends : endsAtOutput (blockedOutcome "index.ts" [0]) = true := by decide +kernel
  unfold endsAtOutput at hends
  have hmade := makesDirectories_blockedTree "index.ts"
  refine ⟨hmade, fun task cause hfails => ?_, fun result hok => ?_⟩
  · obtain ⟨failure, hfailure⟩ := root_of_failsAtTurn id hmade hfails
    change (blockedOutcome "index.ts" [0]).result = _ at hfailure
    rw [hfailure] at hends
    cases hends
  · rw [hok] at hends
    cases hends

end TypeExport.TypeGraph

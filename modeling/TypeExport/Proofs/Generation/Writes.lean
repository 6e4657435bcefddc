import TypeExport.Generation.Files
import TypeExport.Proofs.File.Sequence

/-!
# The writes of a generation

A generation that succeeds has made the directories of the categories that have types, and written
the files of its tasks, in the order in which they were done, and then the manifests.  It reports the
paths of these files.  One worker does the tasks as they are handed out: first the interfaces, then
the enumerations.
-/

namespace TypeExport

theorem exists_ok_of_isSome {ε α : Type} {x : Except ε α} (h : x.toOption.isSome = true) :
    ∃ a, x = .ok a := by
  cases x with
  | error e => cases h
  | ok a => exact ⟨a, rfl⟩

namespace TypeGraph

open FileTree

variable {κ ε : Type} [TextContent κ] (g : TypeGraph ε) (policy : Policy) (cwd : Location)

/-- The files of some types and what is written to them. -/
def rootWrites (directory : Path) (roots : List g.Node) : List (Path × κ) :=
  roots.filterMap fun t =>
    match g.fileText policy t with
    | .ok text => some (g.filePath directory t, TextContent.ofText text)
    | .error _ => none

/-- The manifest of a category that has types. -/
def manifestWrite (directory : Path) (roots : List g.Node) : List (Path × κ) :=
  if roots.isEmpty then []
  else
    [(directory.join (.ofString ("index" ++ fileExtension)),
      TextContent.ofText (Manifest.text (roots.map fun t => (g.descriptor t).targetName)))]

/-- The manifests of both categories, if the policy asks for them. -/
def manifestWrites (directories : OutputDirectories) (roots : List g.Node) : List (Path × κ) :=
  if policy.manifests then
    g.manifestWrite directories.interfaces (g.ofCategory .interfaces roots) ++
      g.manifestWrite directories.enumerations (g.ofCategory .enumerations roots)
  else []

/-- All files of a generation, in the order in which they are written. -/
def writes (directories : OutputDirectories) (roots : List g.Node) : List (Path × κ) :=
  g.rootWrites policy directories.interfaces (g.ofCategory .interfaces roots) ++
    g.rootWrites policy directories.enumerations (g.ofCategory .enumerations roots) ++
    g.manifestWrites policy directories roots

/-- The files of tasks and what is written to them. -/
def taskWrites (directories : OutputDirectories) (order : List (Category × g.Node)) :
    List (Path × κ) :=
  order.flatMap fun task => g.rootWrites policy (directories.of task.1) [task.2]

/-- All files of a generation that does its tasks in an order. -/
def writesIn (directories : OutputDirectories) (order : List (Category × g.Node))
    (roots : List g.Node) : List (Path × κ) :=
  g.taskWrites policy directories order ++ g.manifestWrites policy directories roots

/-- The directory of a category that has types. -/
def directoryOf (directory : Path) (roots : List g.Node) : List Path :=
  if roots.isEmpty then [] else [directory]

/-- The directories that a generation makes: those of the categories, and the one above each file. -/
def madeIn (κ : Type) [TextContent κ] (directories : OutputDirectories)
    (order : List (Category × g.Node)) (roots : List g.Node) : List Path :=
  g.directoryOf directories.interfaces (g.ofCategory .interfaces roots) ++
    g.directoryOf directories.enumerations (g.ofCategory .enumerations roots) ++
    (g.writesIn policy directories order roots : List (Path × κ)).map fun w => w.1.parent

def made (κ : Type) [TextContent κ] (directories : OutputDirectories) (roots : List g.Node) :
    List Path :=
  g.directoryOf directories.interfaces (g.ofCategory .interfaces roots) ++
    g.directoryOf directories.enumerations (g.ofCategory .enumerations roots) ++
    (g.writes policy directories roots : List (Path × κ)).map fun w => w.1.parent

def taskPaths (directories : OutputDirectories) (order : List (Category × g.Node)) :
    List (Category × Path) :=
  order.map fun task => (task.1, g.filePath (directories.of task.1) task.2)

/-- What a generation reports when it succeeds. -/
def reportedIn (κ : Type) [TextContent κ] (directories : OutputDirectories)
    (order : List (Category × g.Node)) (roots : List g.Node) : Generated where
  interfaceFiles := sortPaths (pathsOf .interfaces (g.taskPaths directories order))
  enumFiles := sortPaths (pathsOf .enumerations (g.taskPaths directories order))
  manifestFiles := (g.manifestWrites policy directories roots : List (Path × κ)).map Prod.fst

def reported (κ : Type) [TextContent κ] (directories : OutputDirectories) (roots : List g.Node) :
    Generated where
  interfaceFiles :=
    sortPaths ((g.ofCategory .interfaces roots).map (g.filePath directories.interfaces))
  enumFiles :=
    sortPaths ((g.ofCategory .enumerations roots).map (g.filePath directories.enumerations))
  manifestFiles := (g.manifestWrites policy directories roots : List (Path × κ)).map Prod.fst

variable {g policy cwd} {directory : Path} {files u : FileTree κ} {ds : List Path}
  {ws : List (Path × κ)} {P : List Path → List (Path × κ) → FileTree κ → Prop}

theorem mem_tasks_iff {roots : List g.Node} {task : Category × g.Node} :
    task ∈ g.tasks roots ↔ task.2 ∈ roots ∧ (g.descriptor task.2).kind.category? = some task.1 := by
  obtain ⟨category, s⟩ := task
  unfold tasks ofCategory
  rw [List.mem_append, List.mem_map, List.mem_map]
  cases category with
  | interfaces => simp
  | enumerations => simp

/-- A type is written to its path with its text, if it has one. -/
theorem mem_rootWrites_iff {roots : List g.Node} {p : Path} {c : κ} :
    (p, c) ∈ g.rootWrites policy directory roots ↔
      ∃ t ∈ roots, ∃ text, g.fileText policy t = .ok text ∧ p = g.filePath directory t ∧
        c = TextContent.ofText text := by
  unfold rootWrites
  rw [List.mem_filterMap]
  constructor
  · rintro ⟨t, ht, hwrite⟩
    split at hwrite
    · rename_i text htext
      obtain ⟨hp, hc⟩ := Prod.mk.inj (Option.some.inj hwrite)
      exact ⟨t, ht, text, htext, hp.symm, hc.symm⟩
    · cases hwrite
  · rintro ⟨t, ht, text, htext, hp, hc⟩
    exact ⟨t, ht, by rw [htext, hp, hc]⟩

theorem mem_manifestWrite_iff {roots : List g.Node} {p : Path} {c : κ} :
    (p, c) ∈ g.manifestWrite directory roots ↔
      roots ≠ [] ∧ p = directory.join (.ofString ("index" ++ fileExtension)) ∧
        c = TextContent.ofText (Manifest.text (roots.map fun t => (g.descriptor t).targetName)) := by
  unfold manifestWrite
  cases roots with
  | nil => simp
  | cons t rest => simp

/-- The manifests are those of the categories that have types. -/
theorem mem_manifestWrites_iff {directories : OutputDirectories} {roots : List g.Node} {p : Path}
    {c : κ} :
    (p, c) ∈ g.manifestWrites policy directories roots ↔
      policy.manifests = true ∧ ∃ category, g.ofCategory category roots ≠ [] ∧
        p = (directories.of category).join (.ofString ("index" ++ fileExtension)) ∧
        c = TextContent.ofText (Manifest.text ((g.ofCategory category roots).map fun t =>
          (g.descriptor t).targetName)) := by
  unfold manifestWrites
  split
  · rename_i hmanifests
    rw [List.mem_append, mem_manifestWrite_iff, mem_manifestWrite_iff]
    constructor
    · rintro (h | h)
      · exact ⟨hmanifests, .interfaces, h⟩
      · exact ⟨hmanifests, .enumerations, h⟩
    · rintro ⟨-, category, h⟩
      cases category with
      | interfaces => exact .inl h
      | enumerations => exact .inr h
  · rename_i hmanifests
    exact ⟨fun h => (List.not_mem_nil h).elim, fun h => absurd h.1 hmanifests⟩

/-- A type that is written has a text, and the text is written to its path. -/
theorem writeRoot_eq_ok {category : Category} {t : g.Node} {path : Path}
    (h : g.writeRoot policy cwd category directory files t = (u, .ok path)) :
    path = g.filePath directory t ∧ ∃ text, g.fileText policy t = .ok text ∧
      files.writeOutput cwd (g.filePath directory t) (TextContent.ofText text) = (u, none) := by
  unfold writeRoot at h
  cases htext : g.fileText policy t with
  | error e => simp [htext] at h
  | ok text =>
    simp only [htext] at h
    split at h
    · rename_i u' hwrite
      obtain ⟨hu, hpath⟩ := Prod.mk.inj h
      rw [hu] at hwrite
      exact ⟨(Except.ok.inj hpath).symm, text, rfl, hwrite⟩
    · simp at h

theorem rootWrites_cons (directory : Path) (t : g.Node) (rest : List g.Node) :
    (g.rootWrites policy directory (t :: rest) : List (Path × κ)) =
      g.rootWrites policy directory [t] ++ g.rootWrites policy directory rest := by
  unfold rootWrites
  rw [← List.filterMap_append, List.singleton_append]

theorem rootWrites_singleton {t : g.Node} {text : String} (htext : g.fileText policy t = .ok text)
    (directory : Path) :
    (g.rootWrites policy directory [t] : List (Path × κ)) =
      [(g.filePath directory t, TextContent.ofText text)] := by
  simp [rootWrites, htext]

theorem taskWrites_map (directories : OutputDirectories) (category : Category)
    (roots : List g.Node) :
    (g.taskWrites policy directories (roots.map (Prod.mk category)) : List (Path × κ)) =
      g.rootWrites policy (directories.of category) roots := by
  unfold taskWrites
  induction roots with
  | nil => rfl
  | cons t rest ih =>
    rw [rootWrites_cons, List.map_cons, List.flatMap_cons, ih]

theorem mem_taskWrites_iff {directories : OutputDirectories} {order : List (Category × g.Node)}
    {p : Path} {c : κ} :
    (p, c) ∈ g.taskWrites policy directories order ↔
      ∃ task ∈ order, ∃ text, g.fileText policy task.2 = .ok text ∧
        p = g.filePath (directories.of task.1) task.2 ∧ c = TextContent.ofText text := by
  unfold taskWrites
  simp only [List.mem_flatMap, mem_rootWrites_iff, List.mem_singleton, exists_eq_left]

/-- The tasks are written one after the other. -/
theorem of_writeTasks (hkeeps : KeepsUp cwd P) {directories : OutputDirectories}
    {order : List (Category × g.Node)} {written : List (Category × Path)}
    (h : (g.writeTasks policy cwd directories files order).result = .ok written)
    (hP : P ds ws files) :
    written = g.taskPaths directories order ∧
      (∀ task ∈ order, ∃ text, g.fileText policy task.2 = .ok text) ∧
      P (ds ++ (g.taskWrites (κ := κ) policy directories order).map fun w => w.1.parent)
        (ws ++ g.taskWrites policy directories order)
        (g.writeTasks policy cwd directories files order).files := by
  induction order generalizing files ds ws written with
  | nil =>
    cases h
    exact ⟨rfl, fun t ht => (List.not_mem_nil ht).elim, by simpa [taskWrites, writeTasks] using hP⟩
  | cons task rest ih =>
    obtain ⟨category, t⟩ := task
    unfold writeTasks at h ⊢
    cases hwrite : g.writeRoot policy cwd category (directories.of category) files t with
    | mk u result =>
      cases result with
      | error failure => simp [hwrite] at h
      | ok path =>
        obtain ⟨rfl, text, htext, houtput⟩ := writeRoot_eq_ok hwrite
        simp only [hwrite] at h ⊢
        cases hrest : (g.writeTasks policy cwd directories u rest).result with
        | error e => simp [hrest, Except.map] at h
        | ok more =>
          rw [hrest] at h
          cases h
          obtain ⟨hpaths, htexts, hdone⟩ := ih hrest (hkeeps.output _ _ _ _ _ _ hP houtput)
          have hcons : (g.taskWrites policy directories ((category, t) :: rest) : List (Path × κ)) =
              (g.filePath (directories.of category) t, TextContent.ofText text) ::
                g.taskWrites policy directories rest := by
            unfold taskWrites
            rw [List.flatMap_cons, rootWrites_singleton htext, List.singleton_append]
          refine ⟨by rw [hpaths]; rfl, fun task htask => ?_, ?_⟩
          · rcases List.mem_cons.1 htask with rfl | htask
            · exact ⟨text, htext⟩
            · exact htexts task htask
          · rw [hcons]
            simpa using hdone

omit [TextContent κ] in
/-- What making and writing keep up holds after the directory of a category is made. -/
theorem of_makeDirectoryOf (hkeeps : KeepsUp cwd P) {roots : List g.Node}
    (h : g.makeDirectoryOf cwd directory roots files = (u, .ok ())) (hP : P ds ws files) :
    P (ds ++ g.directoryOf directory roots) ws u := by
  unfold makeDirectoryOf at h
  unfold directoryOf
  split at h
  · rename_i hempty
    cases h
    rw [if_pos hempty, List.append_nil]
    exact hP
  · rename_i hempty
    rw [if_neg hempty]
    split at h
    · rename_i v hmade
      cases h
      exact hkeeps.make _ _ _ _ _ hP (makeOutput_eq_ok hmade)
    · simp at h

/-- What making and writing keep up holds after the manifest of a category is written. -/
theorem of_writeManifest (hkeeps : KeepsUp cwd P) {roots : List g.Node} {paths : List Path}
    (h : g.writeManifest cwd directory roots files = (u, .ok paths)) (hP : P ds ws files) :
    paths = (g.manifestWrite (κ := κ) directory roots).map Prod.fst ∧
      P (ds ++ (g.manifestWrite (κ := κ) directory roots).map fun w => w.1.parent)
        (ws ++ g.manifestWrite directory roots) u := by
  unfold writeManifest at h
  unfold manifestWrite
  split at h
  · rename_i hempty
    cases h
    simp only [if_pos hempty, List.map_nil, List.append_nil]
    exact ⟨trivial, hP⟩
  · rename_i hempty
    simp only [if_neg hempty]
    dsimp only at h
    split at h
    · rename_i v hwrite
      cases h
      exact ⟨rfl, hkeeps.output _ _ _ _ _ _ hP hwrite⟩
    · simp at h

/-- The manifests are written after the files of the types. -/
theorem of_writeManifests (hkeeps : KeepsUp cwd P) {directories : OutputDirectories}
    {interfaces enumerations : List g.Node} {paths : List Path}
    (h : g.writeManifests cwd directories interfaces enumerations files = (u, .ok paths))
    (hP : P ds ws files) :
    let manifests : List (Path × κ) := g.manifestWrite directories.interfaces interfaces ++
      g.manifestWrite directories.enumerations enumerations
    paths = manifests.map Prod.fst ∧
      P (ds ++ manifests.map fun w => w.1.parent) (ws ++ manifests) u := by
  unfold writeManifests at h
  split at h
  · simp at h
  · rename_i v first hfirst
    obtain ⟨rfl, hv⟩ := of_writeManifest hkeeps hfirst hP
    split at h
    · simp at h
    · rename_i w second hsecond
      obtain ⟨rfl, hw⟩ := of_writeManifest hkeeps hsecond hv
      cases h
      simp only [List.map_append, ← List.append_assoc]
      exact ⟨trivial, hw⟩

/-- What making and writing keep up holds after a generation, for all that it makes and writes; and all
tasks have texts. -/
theorem of_completeTasks (hkeeps : KeepsUp cwd P) {directories : OutputDirectories}
    {order : List (Category × g.Node)} {roots : List g.Node} {result : Generated}
    (h : (g.completeTasks policy cwd directories order roots files).result = .ok result)
    (hP : P ds [] files) :
    result = g.reportedIn policy κ directories order roots ∧
      (∀ task ∈ order, ∃ text, g.fileText policy task.2 = .ok text) ∧
      P (ds ++ (g.writesIn (κ := κ) policy directories order roots).map fun w => w.1.parent)
        (g.writesIn policy directories order roots)
        (g.completeTasks policy cwd directories order roots files).files := by
  unfold completeTasks at h ⊢
  split at h
  · cases h
  · rename_i v events written hwritten
    obtain ⟨rfl, htexts, hv⟩ := of_writeTasks hkeeps (congrArg GenerationOutcome.result hwritten) hP
    rw [hwritten] at hv
    dsimp only
    unfold reportedIn writesIn manifestWrites
    by_cases hmanifests : policy.manifests = true
    · simp only [if_pos hmanifests] at h ⊢
      cases hmanifest : g.writeManifests cwd directories (g.ofCategory .interfaces roots)
          (g.ofCategory .enumerations roots) v with
      | mk u manifests =>
        rw [hmanifest] at h
        cases manifests with
        | error e => cases h
        | ok paths =>
          cases h
          obtain ⟨rfl, hu⟩ := of_writeManifests hkeeps hmanifest hv
          exact ⟨rfl, htexts, by simpa using hu⟩
    · simp only [if_neg hmanifests, List.append_nil, List.map_nil] at h ⊢
      cases h
      exact ⟨rfl, htexts, by simpa using hv⟩

/-- What keeps up with directories and files keeps up with a generation that succeeds, in whatever
order it does its tasks. -/
theorem of_generateIn (hkeeps : KeepsUp cwd P) {directories : OutputDirectories}
    {describe : ε → String} {order : List (Category × g.Node)} {roots : List g.Node}
    (horder : order.Perm (g.tasks roots)) {result : Generated}
    (h : (g.generateIn order policy cwd directories describe roots files).result = .ok result)
    (hP : P [] [] files) :
    result = g.reportedIn policy κ directories order roots ∧
      (∀ task ∈ order, ∃ text, g.fileText policy task.2 = .ok text) ∧
      P (g.madeIn policy κ directories order roots) (g.writesIn policy directories order roots)
        (g.generateIn order policy cwd directories describe roots files).files := by
  unfold generateIn at h ⊢
  by_cases hempty : roots.isEmpty = true
  · rw [if_pos hempty] at h ⊢
    obtain rfl := List.isEmpty_iff.1 hempty
    obtain rfl : order = [] := horder.eq_nil
    cases h
    refine ⟨?_, fun task htask => (List.not_mem_nil htask).elim, ?_⟩
    · simp [reportedIn, taskPaths, pathsOf, ofCategory, sortPaths, manifestWrites, manifestWrite]
    · simpa [madeIn, directoryOf, writesIn, ofCategory, taskWrites, manifestWrites, manifestWrite]
        using hP
  · rw [if_neg hempty] at h ⊢
    dsimp only at h ⊢
    split at h
    · cases h
    · rename_i v hinterfaces
      split at h
      · cases h
      · rename_i w henumerations
        have hv := of_makeDirectoryOf hkeeps hinterfaces hP
        have hw := of_makeDirectoryOf hkeeps henumerations hv
        exact of_completeTasks hkeeps h hw

/-!
## One worker

One worker does the tasks as they are handed out.
-/

/-- The tasks of one category are its types, one by one. -/
theorem writeTasks_map (policy : Policy) (cwd : Location) (directories : OutputDirectories)
    (category : Category) (files : FileTree κ) (roots : List g.Node) :
    g.writeTasks policy cwd directories files (roots.map (Prod.mk category)) =
      match g.writeRoots policy cwd category (directories.of category) files roots with
      | { files, events, result } =>
        { files, events, result := result.map (List.map (Prod.mk category)) } := by
  induction roots generalizing files with
  | nil => rfl
  | cons t rest ih =>
    rw [List.map_cons]
    unfold writeTasks writeRoots
    cases g.writeRoot policy cwd category (directories.of category) files t with
    | mk u result =>
      cases result with
      | error failure => rfl
      | ok path =>
        dsimp only
        rw [ih]
        cases g.writeRoots policy cwd category (directories.of category) u rest with
        | mk v events result => cases result <;> rfl

/-- Tasks are done in parts: the later ones only if the earlier ones succeed. -/
theorem writeTasks_append (policy : Policy) (cwd : Location) (directories : OutputDirectories)
    (files : FileTree κ) (first rest : List (Category × g.Node)) :
    g.writeTasks policy cwd directories files (first ++ rest) =
      match g.writeTasks policy cwd directories files first with
      | { files, events, result := .error e } => { files, events, result := .error e }
      | { files, events, result := .ok written } =>
        match g.writeTasks policy cwd directories files rest with
        | { files, events := more, result } =>
          { files, events := events ++ more, result := result.map (written ++ ·) } := by
  induction first generalizing files with
  | nil =>
    rw [List.nil_append, writeTasks.eq_1]
    dsimp only
    cases g.writeTasks policy cwd directories files rest with
    | mk u more result => cases result <;> rfl
  | cons task first ih =>
    obtain ⟨category, t⟩ := task
    rw [List.cons_append, writeTasks, writeTasks]
    cases g.writeRoot policy cwd category (directories.of category) files t with
    | mk u result =>
      cases result with
      | error failure => rfl
      | ok path =>
        dsimp only
        rw [ih]
        cases g.writeTasks policy cwd directories u first with
        | mk v events written =>
          cases written with
          | error e => rfl
          | ok written =>
            cases hrest : g.writeTasks policy cwd directories v rest with
            | mk w more result => cases result <;> simp [hrest, Except.map, List.append_assoc]

theorem pathsOf_map (category other : Category) (paths : List Path) :
    pathsOf category (paths.map (Prod.mk other)) = if other = category then paths else [] := by
  unfold pathsOf
  by_cases h : other = category
  · simp [h, List.filter_map, Function.comp_def]
  · simp [h, List.filter_map, Function.comp_def]

theorem pathsOf_append (category : Category) (first rest : List (Category × Path)) :
    pathsOf category (first ++ rest) = pathsOf category first ++ pathsOf category rest := by
  unfold pathsOf
  rw [List.filter_append, List.map_append]

/-- In the order of the types, the tasks are done as files are generated. -/
theorem completeTasks_tasks (policy : Policy) (cwd : Location) (directories : OutputDirectories)
    (roots : List g.Node) (files : FileTree κ) :
    g.completeTasks policy cwd directories (g.tasks roots) roots files =
      g.generateFiles policy cwd directories (g.ofCategory .interfaces roots)
        (g.ofCategory .enumerations roots) files := by
  unfold completeTasks generateFiles tasks
  rw [writeTasks_append, writeTasks_map]
  dsimp only [OutputDirectories.of]
  cases g.writeRoots policy cwd .interfaces directories.interfaces files
      (g.ofCategory .interfaces roots) with
  | mk u events interfaceFiles =>
    cases interfaceFiles with
    | error e => rfl
    | ok interfaceFiles =>
      dsimp only [Except.map]
      rw [writeTasks_map]
      dsimp only [OutputDirectories.of]
      cases g.writeRoots policy cwd .enumerations directories.enumerations u
          (g.ofCategory .enumerations roots) with
      | mk v more enumFiles =>
        cases enumFiles with
        | error e => rfl
        | ok enumFiles =>
          dsimp only [Except.map]
          simp only [pathsOf_append, pathsOf_map, reduceCtorEq, if_true, if_false,
            List.append_nil, List.nil_append]

/-- One worker does the tasks as they are handed out. -/
theorem generateIn_tasks (policy : Policy) (cwd : Location) (directories : OutputDirectories)
    (describe : ε → String) (roots : List g.Node) (files : FileTree κ) :
    g.generateIn (g.tasks roots) policy cwd directories describe roots files =
      g.generate policy cwd directories describe roots files := by
  unfold generateIn generate
  simp only [completeTasks_tasks]

theorem writesIn_tasks (directories : OutputDirectories) (roots : List g.Node) :
    (g.writesIn policy directories (g.tasks roots) roots : List (Path × κ)) =
      g.writes policy directories roots := by
  have hsplit : ∀ first rest, (g.taskWrites policy directories (first ++ rest) : List (Path × κ)) =
      g.taskWrites policy directories first ++ g.taskWrites policy directories rest :=
    fun _ _ => List.flatMap_append
  unfold writesIn writes tasks
  rw [hsplit, taskWrites_map, taskWrites_map]
  rfl

/-- In the order of the types, the report of the tasks is the report of the types. -/
theorem reportedIn_tasks (κ : Type) [TextContent κ] (policy : Policy)
    (directories : OutputDirectories) (roots : List g.Node) :
    g.reportedIn policy κ directories (g.tasks roots) roots =
      g.reported policy κ directories roots := by
  have hpaths : ∀ category (roots : List g.Node),
      g.taskPaths directories (roots.map (Prod.mk category)) =
        (roots.map (g.filePath (directories.of category))).map (Prod.mk category) := by
    intro category roots
    simp [taskPaths, Function.comp_def]
  have hboth : g.taskPaths directories (g.tasks roots) =
      ((g.ofCategory .interfaces roots).map (g.filePath directories.interfaces)).map
          (Prod.mk .interfaces) ++
        ((g.ofCategory .enumerations roots).map (g.filePath directories.enumerations)).map
          (Prod.mk .enumerations) := by
    unfold tasks taskPaths
    rw [List.map_append]
    exact congrArg₂ _ (hpaths .interfaces _) (hpaths .enumerations _)
  unfold reportedIn reported
  simp only [hboth, pathsOf_append, pathsOf_map, reduceCtorEq, if_true, if_false,
    List.append_nil, List.nil_append]

/-- What keeps up with directories and files keeps up with a generation that succeeds. -/
theorem of_generate (hkeeps : KeepsUp cwd P) {directories : OutputDirectories}
    {describe : ε → String} {roots : List g.Node} {result : Generated}
    (h : (g.generate policy cwd directories describe roots files).result = .ok result)
    (hP : P [] [] files) :
    result = g.reported policy κ directories roots ∧
      (∀ category, ∀ t ∈ g.ofCategory category roots, ∃ text, g.fileText policy t = .ok text) ∧
      P (g.made policy κ directories roots) (g.writes policy directories roots)
        (g.generate policy cwd directories describe roots files).files := by
  rw [← generateIn_tasks] at h ⊢
  obtain ⟨hresult, htexts, hdone⟩ := of_generateIn hkeeps (.refl _) h hP
  rw [reportedIn_tasks] at hresult
  unfold madeIn at hdone
  rw [writesIn_tasks] at hdone
  refine ⟨hresult, fun category t ht => htexts (category, t) ?_, hdone⟩
  rw [mem_tasks_iff]
  simpa [ofCategory] using ht

/-- The tree after a successful generation reflects all that it has written. -/
theorem reflects_generate {directories : OutputDirectories} {describe : ε → String}
    {roots : List g.Node} {result : Generated}
    (h : (g.generate policy cwd directories describe roots files).result = .ok result) :
    (∀ category, ∀ t ∈ g.ofCategory category roots, ∃ text, g.fileText policy t = .ok text) ∧
      (g.generate policy cwd directories describe roots files).files.Reflects cwd
        (g.writes policy directories roots) :=
  (of_generate (keepsUp_reflects cwd) h (Reflects.nil files)).2

end TypeGraph

end TypeExport

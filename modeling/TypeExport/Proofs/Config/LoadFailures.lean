import TypeExport.Command.Perform
import TypeExport.Proofs.Action
import TypeExport.Proofs.Scan.FirstIndex

/-!
# Failures to load a configuration

A failure is one of the configuration, or one of its surroundings: of the home directories, the file,
its bytes, the settings or an output path.  Step by step, the failures of the surroundings are left
out exactly if the surroundings give what the step looks up.  A command reports only the failures of
the configuration.
-/

namespace TypeExport

namespace Config

theorem pure_eq {ε α : Type} (a : α) : (pure a : Except ε α) = .ok a :=
  rfl

theorem throw_eq {ε α : Type} (e : ε) : (throw e : Except ε α) = .error e :=
  rfl

theorem isOk_map_iff {ε α β : Type} {x : Except ε α} {f : α → β} :
    (∃ b, f <$> x = .ok b) ↔ ∃ a, x = .ok a := by
  cases x with
  | error e =>
    constructor <;>
    · rintro ⟨_, h⟩
      cases h
  | ok a => exact ⟨fun _ => ⟨a, rfl⟩, fun _ => ⟨f a, rfl⟩⟩

theorem isOk_bind_iff {ε α β : Type} {x : Except ε α} {f : α → Except ε β} :
    (∃ b, x >>= f = .ok b) ↔ ∃ a, x = .ok a ∧ ∃ b, f a = .ok b := by
  simp only [bind_eq_ok_iff]
  rw [exists_comm]
  simp only [exists_and_left]

/-- No failure but one of the configuration. -/
def FailsReported {α : Type} (x : Except LoadError α) : Prop :=
  ∀ e, x = .error e → e.isInvalid = true

section Results

variable {α β : Type} {x : Except LoadError α} {e : LoadError} {a : α}

theorem failsReported_ok (a : α) : FailsReported (.ok a) := by
  intro e he
  cases he

theorem failsReported_error_iff : FailsReported (.error e : Except LoadError α) ↔
    e.isInvalid = true := by
  constructor
  · exact fun h => h e rfl
  · intro h e' he
    cases he
    exact h

/-- A failure of the surroundings is left out if there is a value, and only then if no other failure
is possible. -/
theorem failsReported_iff_exists (h : ∀ e, x = .error e → e.isInvalid = false) :
    FailsReported x ↔ ∃ a, x = .ok a := by
  cases x with
  | ok a => exact ⟨fun _ => ⟨a, rfl⟩, fun _ => failsReported_ok a⟩
  | error e =>
    rw [failsReported_error_iff, h e rfl]
    constructor
    · exact fun he => (Bool.false_ne_true he).elim
    · rintro ⟨a, ha⟩
      cases ha

/-- All failures of a sequence are reported just if those of both steps are. -/
theorem failsReported_bind_iff {f : α → Except LoadError β} :
    FailsReported (x >>= f) ↔ FailsReported x ∧ ∀ a, x = .ok a → FailsReported (f a) := by
  cases x with
  | error e =>
    constructor
    · exact fun h => ⟨failsReported_error_iff.2 (h e rfl), fun a ha => by cases ha⟩
    · rintro ⟨h, -⟩ e' he
      cases he
      exact h e rfl
  | ok a =>
    rw [bind_ok]
    constructor
    · refine fun h => ⟨failsReported_ok a, fun a' ha => ?_⟩
      cases ha
      exact h
    · exact fun h => h.2 a rfl

end Results

section File

variable {κ : Type} {env : Environment} {files : FileTree κ} {name : String} {path : Path}

/-- Where a configuration is looked for, its home directory written out: at an absolute path as it is,
and else in the working directory or beside the program.  If nothing stands at either, it is looked
for in the working directory. -/
inductive IsFoundAt (env : Environment) (files : FileTree κ) (p : Path) : Path → Prop
  | absolute (habsolute : p.isAbsolute = true) : IsFoundAt env files p p
  | nearby (hrelative : p.isAbsolute = false)
    (hthere : files.pathExists env.workingDirectory
      ((Path.ofLocation env.workingDirectory).join p) = .ok true) :
    IsFoundAt env files p ((Path.ofLocation env.workingDirectory).join p)
  | bundled (hrelative : p.isAbsolute = false)
    (hmissing : files.pathExists env.workingDirectory
      ((Path.ofLocation env.workingDirectory).join p) = .ok false)
    (hthere : files.pathExists env.workingDirectory
      ((Path.ofLocation env.programDirectory).join p) = .ok true) :
    IsFoundAt env files p ((Path.ofLocation env.programDirectory).join p)
  | nowhere (hrelative : p.isAbsolute = false)
    (hmissing : files.pathExists env.workingDirectory
      ((Path.ofLocation env.workingDirectory).join p) = .ok false)
    (hmissing' : files.pathExists env.workingDirectory
      ((Path.ofLocation env.programDirectory).join p) = .ok false) :
    IsFoundAt env files p ((Path.ofLocation env.workingDirectory).join p)

/-- The path of a configuration needs the home directory that it names, and a relative one has to be
looked up. -/
theorem filePath_eq_ok_iff : filePath env files name = .ok path ↔
    ∃ p, env.expandHome (Path.ofString name) = some p ∧ IsFoundAt env files p path := by
  unfold filePath
  cases hhome : env.expandHome (Path.ofString name) with
  | none => simp [throw_eq]
  | some p =>
    simp only [Option.some.injEq, exists_eq_left']
    constructor
    · intro h
      split at h
      · rename_i habsolute
        cases h
        exact .absolute habsolute
      · rename_i hrelative
        rw [Bool.not_eq_true] at hrelative
        obtain ⟨there, hthere, h⟩ := bind_eq_ok_iff.1 h
        cases there with
        | true =>
          cases h
          exact .nearby hrelative (mapError_eq_ok_iff.1 hthere)
        | false =>
          obtain ⟨there', hthere', h⟩ := bind_eq_ok_iff.1 h
          cases there' with
          | true =>
            cases h
            exact .bundled hrelative (mapError_eq_ok_iff.1 hthere) (mapError_eq_ok_iff.1 hthere')
          | false =>
            cases h
            exact .nowhere hrelative (mapError_eq_ok_iff.1 hthere) (mapError_eq_ok_iff.1 hthere')
    · intro h
      cases h with
      | absolute habsolute => rw [if_pos habsolute]; rfl
      | nearby hrelative hthere =>
        rw [if_neg (by simp [hrelative]), hthere]
        rfl
      | bundled hrelative hmissing hthere =>
        rw [if_neg (by simp [hrelative]), hmissing, hthere]
        rfl
      | nowhere hrelative hmissing hmissing' =>
        rw [if_neg (by simp [hrelative]), hmissing, hmissing']
        rfl

/-- No failure to find the file is one of the configuration. -/
theorem filePath_failsReported_iff :
    FailsReported (filePath env files name) ↔ ∃ path, filePath env files name = .ok path := by
  have hexists : ∀ q e, (files.pathExists env.workingDirectory q).mapError LoadError.unreadable =
      .error e → e.isInvalid = false := by
    intro q e he
    cases hq : files.pathExists env.workingDirectory q with
    | ok there => rw [hq] at he; cases he
    | error cause => rw [hq] at he; cases he; rfl
  refine failsReported_iff_exists fun e he => ?_
  unfold filePath at he
  cases hhome : env.expandHome (Path.ofString name) with
  | none =>
    rw [hhome] at he
    cases he
    rfl
  | some p =>
    rw [hhome] at he
    dsimp only at he
    split at he
    · cases he
    · obtain he | ⟨there, -, he⟩ := bind_eq_error_iff.1 he
      · exact hexists _ _ he
      · cases there with
        | true => cases he
        | false =>
          obtain he | ⟨there', -, he⟩ := bind_eq_error_iff.1 he
          · exact hexists _ _ he
          · cases there' <;> cases he

theorem pathExists_of_read {cwd : Location} {path : Path} {content : κ}
    (h : files.read cwd path = .ok content) : files.pathExists cwd path = .ok true := by
  unfold FileTree.read at h
  unfold FileTree.pathExists
  split at h
  all_goals cases h
  rename_i hlookup
  rw [hlookup]
  rfl

variable [TextContent κ]

/-- What is opened is a file, or nothing stands there. -/
theorem openFile_failsReported_iff : FailsReported (openFile env files path) ↔
    files.pathExists env.workingDirectory path = .ok false ∨
      ∃ content, files.read env.workingDirectory path = .ok content := by
  unfold openFile FileTree.pathExists FileTree.read
  cases files.lookup env.workingDirectory path with
  | error e => cases e <;> simp [FailsReported, LoadError.isInvalid]
  | ok found =>
    obtain ⟨l, entry⟩ := found
    match entry with
    | none => simp [FailsReported, LoadError.isInvalid]
    | some .directory => simp [FailsReported, LoadError.isInvalid]
    | some (.file content) => simp [FailsReported]

/-- A file is opened if it can be read. -/
theorem openFile_eq_ok_iff {bytes : List UInt8} : openFile env files path = .ok bytes ↔
    ∃ content, files.read env.workingDirectory path = .ok content ∧
      TextContent.bytes content = bytes := by
  unfold openFile FileTree.pathExists FileTree.read
  cases files.lookup env.workingDirectory path with
  | error e => cases e <;> simp
  | ok found =>
    obtain ⟨l, entry⟩ := found
    match entry with
    | none => simp
    | some .directory => simp
    | some (.file content) => simp

end File

section Document

/-- The bytes are those of a text that is read as a document or else malformed: no integer in it has
too many digits, and it is not nested too deep. -/
def IsReadable (env : Environment) (bytes : List UInt8) : Prop :=
  ∃ text, Utf8.decode? bytes = some text ∧
    ∀ e, Json.readWithin env.nestingLimit (stripChars (unifyLines text)) = .error e → e = .malformed

/-- The configuration in the bytes of a file that satisfies the schema. -/
def ofBytes (env : Environment) (bytes : List UInt8) : Except LoadError (Config CodeText) :=
  readDocument env bytes >>= ofDocument

variable {env : Environment} {bytes : List UInt8}

/-- Every failure to read a document is reported just if its bytes can be read at all. -/
theorem readDocument_failsReported_iff :
    FailsReported (readDocument env bytes) ↔ IsReadable env bytes := by
  unfold readDocument IsReadable
  cases Utf8.decode? bytes with
  | none =>
    constructor
    · exact fun h => (Bool.false_ne_true (h .notText rfl)).elim
    · rintro ⟨text, htext, -⟩
      cases htext
  | some text =>
    dsimp only
    cases hread : Json.readWithin env.nestingLimit (stripChars (unifyLines text)) with
    | ok document => simp [FailsReported, pure_eq, hread]
    | error e => cases e <;> simp [FailsReported, throw_eq, hread, LoadError.isInvalid]

theorem ofDocument_failsReported (document : Json) : FailsReported (ofDocument document) := by
  intro e he
  unfold ofDocument at he
  split at he
  · cases he
    rfl
  · split at he
    · cases he
    · cases he
      rfl

theorem ofBytes_failsReported_iff :
    FailsReported (ofBytes env bytes) ↔ IsReadable env bytes := by
  unfold ofBytes
  rw [failsReported_bind_iff, readDocument_failsReported_iff]
  exact and_iff_left fun document _ => ofDocument_failsReported document

end Document

section Surroundings

variable {κ : Type} {env : Environment} {files : FileTree κ} {c c' : Config CodeText}

theorem withConnection_isOk_iff : (∃ c', withConnection env c = .ok c') ↔
    (c.connection = [] → ∃ s, Settings.ofEnvironment env = .ok s) := by
  unfold withConnection
  by_cases hempty : c.connection = []
  · rw [if_pos (by simp [hempty])]
    cases Settings.ofEnvironment env <;> simp [hempty]
  · rw [if_neg (by simpa using hempty)]
    simp [hempty]

theorem withConnection_failsReported_iff : FailsReported (withConnection env c) ↔
    ∃ c', withConnection env c = .ok c' := by
  refine failsReported_iff_exists fun e he => ?_
  unfold withConnection at he
  split at he
  · split at he
    · cases he
      rfl
    · cases he
  · cases he

/-- The connection is all that the environment replaces. -/
theorem exists_of_withConnection (h : withConnection env c = .ok c') :
    ∃ connection, c' = { c with connection } := by
  unfold withConnection at h
  split at h
  · split at h
    · cases h
    · cases h
      exact ⟨_, rfl⟩
  · cases h
    exact ⟨c.connection, rfl⟩

def reviewedPaths (c : Config CodeText) : List CodeText :=
  ((if c.sources.isEmpty then [] else [c.moduleDirectory]) ++
    if c.targets.isEmpty then [] else [c.interfaceDirectory, c.enumDirectory]).filter
      fun path => !isBlank path

def IsReviewable (env : Environment) (files : FileTree κ) (path : CodeText) : Prop :=
  ∃ l b, outputLocation env path = .ok l ∧
    files.pathExists env.workingDirectory (Path.ofLocation l) = .ok b

/-- An output path has a location if its text has no lone surrogate and no null, and its home is known.
-/
theorem outputLocation_eq_ok_iff {path : CodeText} {l : Location} :
    outputLocation env path = .ok l ↔ ∃ text p, path.toString? = some text ∧
      env.expandHome (Path.ofString text) = some p ∧ FileTree.hasNull p = false ∧
      p.locate env.workingDirectory = l := by
  unfold outputLocation
  cases path.toString? with
  | none =>
    constructor
    · intro h
      cases h
    · rintro ⟨_, _, h, -⟩
      cases h
  | some text =>
    dsimp only
    cases hhome : env.expandHome (Path.ofString text) with
    | none =>
      constructor
      · intro h
        cases h
      · rintro ⟨_, _, htext, h, -⟩
        rw [← Option.some.inj htext, hhome] at h
        cases h
    | some p =>
      dsimp only
      cases hnull : FileTree.hasNull p with
      | true =>
        constructor
        · intro h
          cases h
        · rintro ⟨_, _, htext, h, hnone, -⟩
          rw [← Option.some.inj htext, hhome] at h
          rw [← Option.some.inj h, hnull] at hnone
          cases hnone
      | false =>
        constructor
        · intro h
          cases h
          exact ⟨text, p, rfl, hhome, hnull, rfl⟩
        · rintro ⟨_, _, htext, h, -, rfl⟩
          rw [← Option.some.inj htext, hhome] at h
          rw [← Option.some.inj h]
          rfl

theorem directoryRemarks_isOk_iff (setting : String) {path : CodeText} :
    (∃ remarks, directoryRemarks env files setting path = .ok remarks) ↔
      IsReviewable env files path := by
  unfold directoryRemarks IsReviewable
  rw [isOk_bind_iff]
  refine exists_congr fun l => ?_
  cases files.pathExists env.workingDirectory (Path.ofLocation l) with
  | error e => simp [throw_eq]
  | ok b => cases b <;> simp [pure_eq]

/-- A blank output path is not looked up. -/
theorem reviewOutput_isOk_iff {setting : String} {path : CodeText} {fault : Fault} :
    (∃ review, reviewOutput env files setting path fault = .ok review) ↔
      (isBlank path = false → IsReviewable env files path) := by
  unfold reviewOutput
  cases isBlank path with
  | true => simp [pure_eq]
  | false =>
    rw [← directoryRemarks_isOk_iff setting]
    simp [isOk_map_iff]

/-- Sources can be reviewed if the directory of their modules can be looked up. -/
theorem reviewSources_isOk_iff : (∃ review, reviewSources env files c = .ok review) ↔
    (c.sources ≠ [] → isBlank c.moduleDirectory = false →
      IsReviewable env files c.moduleDirectory) := by
  unfold reviewSources
  cases hsources : c.sources with
  | nil => simp [pure_eq]
  | cons source sources =>
    cases isBlank c.moduleDirectory with
    | true => simp [pure_eq]
    | false =>
      rw [← directoryRemarks_isOk_iff "pythonEnumsOutputPath"]
      simp [isOk_map_iff]

theorem reviewTargets_isOk_iff : (∃ review, reviewTargets env files c = .ok review) ↔
    (c.targets ≠ [] → ∀ path ∈ [c.interfaceDirectory, c.enumDirectory], isBlank path = false →
      IsReviewable env files path) := by
  unfold reviewTargets
  cases hsources : c.targets with
  | nil => simp [pure_eq]
  | cons target targets =>
    simp [isOk_bind_iff, isOk_map_iff, reviewOutput_isOk_iff]

theorem mem_reviewedPaths_iff {path : CodeText} : path ∈ c.reviewedPaths ↔
    ((c.sources ≠ [] ∧ path = c.moduleDirectory) ∨
      (c.targets ≠ [] ∧ path ∈ [c.interfaceDirectory, c.enumDirectory])) ∧
    isBlank path = false := by
  unfold reviewedPaths
  rw [List.mem_filter, List.mem_append]
  cases hsources : c.sources <;> cases htargets : c.targets <;> simp

/-- A review is possible exactly if its output paths can be looked up. -/
theorem review_isOk_iff : (∃ review, c.review env files = .ok review) ↔
    ∀ path ∈ c.reviewedPaths, IsReviewable env files path := by
  have hparts : (∃ review, c.review env files = .ok review) ↔
      (∃ review, reviewSources env files c = .ok review) ∧
        ∃ review, reviewTargets env files c = .ok review := by
    unfold review
    simp [isOk_bind_iff, isOk_map_iff]
  rw [hparts, reviewSources_isOk_iff, reviewTargets_isOk_iff]
  constructor
  · rintro ⟨hsources, htargets⟩ path hpath
    obtain ⟨⟨hne, rfl⟩ | ⟨hne, hmem⟩, hblank⟩ := mem_reviewedPaths_iff.1 hpath
    · exact hsources hne hblank
    · exact htargets hne path hmem hblank
  · intro h
    refine ⟨fun hne hblank => ?_, fun hne path hmem hblank => ?_⟩
    · exact h _ (mem_reviewedPaths_iff.2 ⟨.inl ⟨hne, rfl⟩, hblank⟩)
    · exact h path (mem_reviewedPaths_iff.2 ⟨.inr ⟨hne, hmem⟩, hblank⟩)

/-- A configuration that is reviewed fails with its faults. -/
theorem accept_failsReported_iff : FailsReported (accept env files c).2 ↔
    ∀ path ∈ c.reviewedPaths, IsReviewable env files path := by
  rw [← review_isOk_iff]
  unfold accept
  cases c.review env files with
  | error e => simp [FailsReported, LoadError.isInvalid]
  | ok review =>
    dsimp only
    split <;> simp [FailsReported, LoadError.isInvalid]

/-- What the surroundings have to give a configuration: the settings, if it leaves the connection to
them, and the directories that its review looks up. -/
structure IsServed (env : Environment) (files : FileTree κ) (c : Config CodeText) : Prop where
  settings : c.connection = [] → ∃ s, Settings.ofEnvironment env = .ok s
  outputs : ∀ path ∈ c.reviewedPaths, IsReviewable env files path

/-- The steps with a configuration that has been read. -/
theorem served_failsReported_iff :
    FailsReported (withConnection env c >>= fun c => (accept env files c).2) ↔
      c.IsServed env files := by
  rw [failsReported_bind_iff, withConnection_failsReported_iff]
  constructor
  · rintro ⟨⟨c', hc'⟩, haccept⟩
    have hreview := accept_failsReported_iff.1 (haccept c' hc')
    obtain ⟨connection, rfl⟩ := exists_of_withConnection hc'
    exact ⟨withConnection_isOk_iff.1 ⟨_, hc'⟩, hreview⟩
  · rintro ⟨hsettings, houtputs⟩
    refine ⟨withConnection_isOk_iff.2 hsettings, fun c' hc' => ?_⟩
    obtain ⟨connection, rfl⟩ := exists_of_withConnection hc'
    exact accept_failsReported_iff.2 houtputs

end Surroundings

section Loads

variable {κ : Type} [TextContent κ] {env : Environment} {files : FileTree κ} {name : String}

/-- What the surroundings have to give a load: the home directory that the path names, and where the
configuration is looked for nothing or a file of readable text; a configuration in it must be served. -/
def Answers (env : Environment) (files : FileTree κ) (name : String) : Prop :=
  ∃ p path, env.expandHome (Path.ofString name) = some p ∧ IsFoundAt env files p path ∧
    (files.pathExists env.workingDirectory path = .ok false ∨
      ∃ content, files.read env.workingDirectory path = .ok content ∧
        IsReadable env (TextContent.bytes content) ∧
        ∀ c, ofBytes env (TextContent.bytes content) = .ok c → c.IsServed env files)

omit [TextContent κ] in
/-- A load is the sequence of its steps. -/
theorem result_of_started (env : Environment) (files : FileTree κ)
    (x : Except LoadError (Config CodeText)) (start : LogLine) :
    (match x with
      | .error e => (([start], .error e) : List LogLine × Except LoadError (Config CodeText))
      | .ok c => (start :: (accept env files c).1, (accept env files c).2)).2 =
    x >>= fun c => (accept env files c).2 := by
  cases x <;> rfl

/-- A configuration is found, opened, read, connected and accepted, in this order. -/
theorem load_result (env : Environment) (files : FileTree κ) (name : String) :
    (load env files name).2 = (filePath env files name >>= fun path =>
      openFile env files path >>= fun bytes => ofBytes env bytes >>= fun c =>
        withConnection env c >>= fun c => (accept env files c).2) := by
  unfold load
  cases filePath env files name with
  | error e => rfl
  | ok path =>
    calc
      _ = ((openFile env files path >>= readConfig env) >>= fun c => (accept env files c).2) :=
        result_of_started env files _ _
      _ = (openFile env files path >>= fun bytes => ofBytes env bytes >>= fun c =>
          withConnection env c >>= fun c => (accept env files c).2) := by
        unfold readConfig ofBytes
        simp only [bind_assoc]

/-- A load fails with nothing but failures of the configuration exactly if the surroundings give it
what it looks up. -/
theorem load_failsReported_iff :
    FailsReported (load env files name).2 ↔ Answers env files name := by
  have hbytes : ∀ bytes, FailsReported (ofBytes env bytes >>= fun c =>
      withConnection env c >>= fun c => (accept env files c).2) ↔
        IsReadable env bytes ∧ ∀ c, ofBytes env bytes = .ok c → c.IsServed env files := by
    intro bytes
    rw [failsReported_bind_iff, ofBytes_failsReported_iff]
    simp only [served_failsReported_iff]
  rw [load_result, failsReported_bind_iff, filePath_failsReported_iff]
  constructor
  · rintro ⟨⟨path, hpath⟩, hsteps⟩
    have hopens := hsteps path hpath
    rw [failsReported_bind_iff, openFile_failsReported_iff] at hopens
    obtain ⟨hfile, hrest⟩ := hopens
    obtain ⟨p, hp, hfound⟩ := filePath_eq_ok_iff.1 hpath
    refine ⟨p, path, hp, hfound, hfile.imp_right ?_⟩
    rintro ⟨content, hread⟩
    have hgiven := hrest _ (openFile_eq_ok_iff.2 ⟨content, hread, rfl⟩)
    exact ⟨content, hread, (hbytes _).1 hgiven⟩
  · rintro ⟨p, path, hp, hfound, hfile⟩
    have hpath : filePath env files name = .ok path := filePath_eq_ok_iff.2 ⟨p, hp, hfound⟩
    refine ⟨⟨_, hpath⟩, fun path' hpath' => ?_⟩
    rw [hpath] at hpath'
    cases hpath'
    rw [failsReported_bind_iff, openFile_failsReported_iff]
    refine ⟨hfile.imp_right fun ⟨content, hread, _⟩ => ⟨content, hread⟩, fun bytes hopen => ?_⟩
    obtain ⟨content, hread, rfl⟩ := openFile_eq_ok_iff.1 hopen
    obtain hnone | ⟨content', hread', hgiven⟩ := hfile
    · rw [pathExists_of_read hread] at hnone
      cases hnone
    · rw [hread] at hread'
      cases hread'
      exact (hbytes _).2 hgiven

end Loads

end Config

namespace Command

variable {imp : Importer} {name : String} {e : Config.LoadError}

/-- How a command ends that has no configuration. -/
structure EndsUnloaded (files : FileTree Content) (e : Config.LoadError) (o : CommandOutcome) :
    Prop where
  files : o.files = files
  reported : e.isInvalid = true → o.ending = .failed ∧
    ∃ front, o.complaint = front ++ complaintOf e.message e.inner?
  crashed : e.isInvalid = false → o.ending = .crashed (.load e) ∧ o.complaint = []

theorem endsUnloaded (files : FileTree Content) (log : List LogLine) (e : Config.LoadError) :
    EndsUnloaded files e (unloaded files log e) := by
  cases e with
  | notFound path => exact ⟨rfl, fun _ => ⟨rfl, _, rfl⟩, nofun⟩
  | malformed | schema v | mismatch ms | rules faults =>
    exact ⟨rfl, fun _ => ⟨rfl, [], rfl⟩, nofun⟩
  | noHome | unreadable cause | notText | tooLarge cause | settings cause | output cause =>
    exact ⟨rfl, nofun, fun _ => ⟨rfl, rfl⟩⟩

theorem performOn_of_error (task : Task)
    (h : (Config.load imp.environment imp.files name).2 = .error e) :
    ∃ log, performOn imp task name = unloaded imp.files log e := by
  unfold performOn
  cases hload : Config.load imp.environment imp.files name with
  | mk log result =>
    rw [hload] at h
    dsimp only at h
    subst h
    exact ⟨log, rfl⟩

/-- A directory where the configuration should be. -/
def configDirectory : Importer :=
  .ofEntries [] [([Config.standardFile], .directory)]

end Command

end TypeExport

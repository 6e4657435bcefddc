import TypeExport.Proofs.Action
import TypeExport.Proofs.Lookup.FailingSource
import TypeExport.Proofs.Run.EnumRun

/-!
# Runs that fail before they generate

Only the last step of a run writes target files.  A run that fails in the lookups or in the scan
leaves the modules of the sources before the failure, the directories on the way to them and what
the databases leave.  An interpreter may keep compiled modules beside their files, so nothing is said
of what stands in a directory for these.
-/

namespace TypeExport

namespace Runs

open EnumSource

variable {α β : Type} {s : RunState} {imp : Importer} {c : Config String} {cwd : Location}
  {files : FileTree Content}

/-- Scans leave the files alone, also when they fail. -/
theorem ends_ofScans (x : Scans α) (s : RunState) : Ends (ofScans x) s fun result t =>
    t.files = s.files ∧ ∀ e, result = .error e → ∃ cause, e = .scan cause := by
  unfold ofScans
  rw [ends_mk_iff]
  refine ⟨rfl, fun e he => ?_⟩
  change (x.run.run s.session).1.mapError RunError.scan = .error e at he
  cases hresult : (x.run.run s.session).1 with
  | ok a =>
    rw [hresult] at he
    cases he
  | error cause =>
    rw [hresult] at he
    cases he
    exact ⟨cause, rfl⟩

theorem ends_report (line : LogLine) (s : RunState) :
    Ends (report line) s fun result t => result = .ok ⟨⟩ ∧ t.files = s.files :=
  ⟨rfl, rfl⟩

/-- What a step after the lookups may end with: if its scans fail, the files are as they were. -/
def KeepsUnlessGenerating (files : FileTree Content) : Except RunError α → RunState → Prop
  | .error (.lookup _), _ => False
  | .error (.scan _), t => t.files = files
  | .error (.generation _), _ | .ok _, _ => True

/-- Scans in front of a step. -/
theorem keeps_scans_bind {x : Scans α} {f : α → Runs β} (hfiles : s.files = files)
    (h : ∀ a t, t.files = files → Ends (f a) t (KeepsUnlessGenerating files)) :
    Ends (ofScans x >>= f) s (KeepsUnlessGenerating files) := by
  refine (ends_ofScans x s).bind (fun a t ht => h a t (ht.1.trans hfiles)) fun e t ht => ?_
  obtain ⟨cause, rfl⟩ := ht.2 e rfl
  exact ht.1.trans hfiles

theorem keeps_report_bind {f : Unit → Runs β} {line : LogLine} (hfiles : s.files = files)
    (h : ∀ t, t.files = files → Ends (f ⟨⟩) t (KeepsUnlessGenerating files)) :
    Ends (report line >>= f) s (KeepsUnlessGenerating files) :=
  keeps_scans_bind hfiles fun _ => h

/-- A step in front of what cannot fail. -/
theorem keeps_bind {x : Runs α} {f : α → Runs β} (h : Ends x s (KeepsUnlessGenerating files))
    (hf : ∀ a t, Ends (f a) t fun result _ => ∃ b, result = .ok b) :
    Ends (x >>= f) s (KeepsUnlessGenerating files) := by
  refine h.bind (fun a t _ => (hf a t).imp fun result u hresult => ?_) fun e t he => ?_
  · obtain ⟨b, rfl⟩ := hresult
    trivial
  · cases e <;> exact he

theorem keeps_generate (imp : Importer) (c : Config String) (roots : List ClassRef)
    (hfiles : s.files = files) : Ends (generate imp c roots) s (KeepsUnlessGenerating files) := by
  unfold generate
  apply keeps_scans_bind hfiles
  intro u t _
  rw [ends_mk_iff]
  dsimp only
  cases (u.graph.generate c.policy imp.environment.workingDirectory c.outputDirectories
    Failure.message (roots.map fun t => u.node (some t)) t.files).result <;> trivial

/-- A step that ends in a failure of the scan has changed no file. -/
theorem keeps_generationStep (imp : Importer) (c : Config String) (roots : List ClassRef)
    (hfiles : s.files = files) :
    Ends (generationStep imp c roots) s (KeepsUnlessGenerating files) := by
  unfold generationStep
  by_cases hroots : roots.isEmpty = true
  · rw [if_pos hroots]
    apply keeps_report_bind hfiles
    intro t _
    trivial
  · rw [if_neg hroots]
    apply keeps_report_bind hfiles
    intro t ht
    apply keeps_scans_bind ht
    intro available t ht
    apply keeps_report_bind ht
    intro t ht
    exact keeps_bind (keeps_generate imp c roots ht) fun generated t => ⟨generated, rfl⟩

/-- Neither has the step of the scan with the generation behind it. -/
theorem keeps_scanStep (imp : Importer) (c : Config String) (s : RunState) :
    Ends (scanStep imp c) s (KeepsUnlessGenerating s.files) := by
  unfold scanStep
  by_cases htargets : c.targets.isEmpty = true
  · rw [if_pos htargets]
    apply keeps_report_bind rfl
    intro t _
    trivial
  · rw [if_neg htargets]
    apply keeps_report_bind rfl
    intro t ht
    rw [ends_bind_iff, ends_get_iff]
    apply keeps_scans_bind ht
    intro roots t ht
    apply keeps_report_bind ht
    intro t ht
    exact keeps_bind (keeps_generationStep _ c roots ht) fun generated t => ⟨_, rfl⟩

/-- The first step ends as the lookups do. -/
theorem ends_lookupStep (imp : Importer) (c : Config String) (s : RunState) :
    Ends (lookupStep imp c) s fun result t =>
      let outcome := lookupsIn imp c s.files
      t.files = outcome.files ∧ result = outcome.result.mapError .lookup := by
  unfold lookupStep
  by_cases hsources : c.sources.isEmpty = true
  · have hnone : lookupsIn imp c s.files =
        { files := s.files, log := [.info "No database enums configured to generate"],
          result := .ok [] } := by
      unfold lookupsIn generateEnums generateOpened
      rw [if_pos hsources]
    rw [if_pos hsources, hnone]
    exact ⟨rfl, rfl⟩
  · rw [if_neg hsources]
    refine (ends_report _ s).bind (fun _ t ht => ?_) fun e t ht => by cases ht.1
    rw [← ht.2]
    unfold writeLookups
    rw [ends_bind_iff, ends_mk_iff]
    dsimp only
    unfold lookupsIn
    cases hresult : (generateEnums imp.databases imp.environment.workingDirectory c.connection
      c.moduleDirectory c.sources t.files).result <;> exact ⟨rfl, rfl⟩

/-- A run fails in its lookups exactly if they fail, and a failure that is not one of the generation
leaves what the lookups leave. -/
theorem ends_steps (imp : Importer) (c : Config String) (s : RunState) :
    Ends (steps imp c) s fun result t =>
      let outcome := lookupsIn imp c s.files
      (∀ cause, result = .error (.lookup cause) ↔ outcome.result = .error cause) ∧
        ∀ e, result = .error e → (∀ cause, e ≠ .generation cause) → t.files = outcome.files := by
  unfold steps
  refine (ends_report _ s).bind (fun _ t ht => ?_) fun e t ht => by cases ht.1
  rw [← ht.2]
  dsimp only
  refine (ends_lookupStep _ c t).bind (fun paths u hu => ?_) fun e u hu => ?_
  · obtain ⟨hfiles, hresult⟩ := hu
    have hok := mapError_eq_ok_iff.1 hresult.symm
    rw [ends_bind_iff, hok, ← hfiles]
    refine (keeps_scanStep imp c u).imp fun result v hv => ?_
    cases result with
    | ok found => exact ⟨fun cause => iff_of_false (by rintro ⟨⟩) (by rintro ⟨⟩), by rintro e ⟨⟩⟩
    | error e =>
      cases e with
      | lookup cause => exact hv.elim
      | scan cause =>
        refine ⟨fun cause => iff_of_false (by rintro ⟨⟩) (by rintro ⟨⟩), ?_⟩
        rintro e ⟨⟩ -
        exact hv
      | generation cause =>
        refine ⟨fun cause => iff_of_false (by rintro ⟨⟩) (by rintro ⟨⟩), ?_⟩
        rintro e ⟨⟩ hearly
        exact absurd rfl (hearly cause)
  · obtain ⟨hfiles, hresult⟩ := hu
    refine ⟨fun cause => ?_, fun _ _ _ => hfiles⟩
    cases houtcome : (lookupsIn imp c t.files).result with
    | ok paths =>
      rw [houtcome] at hresult
      cases hresult
    | error failure =>
      rw [houtcome] at hresult
      cases hresult
      simp only [Except.error.injEq, RunError.lookup.injEq]

end Runs

namespace Config

open EnumSource

def lookups (imp : Importer) (c : Config String) : LookupOutcome Content (List Path) :=
  Runs.lookupsIn imp c imp.files

/-- The locations that the module of a source reaches: its place and those on the way to it. -/
def reached (imp : Importer) (c : Config String) (source : EnumSource String) : List Location :=
  source.place imp.environment.workingDirectory c.moduleDirectory ::
    (source.filePath c.moduleDirectory).parent.way imp.environment.workingDirectory

/-- Whether a location is not in a directory for compiled modules. -/
def IsOutsideCaches (l : Location) : Prop :=
  "__pycache__" ∉ l

/-- Since the connection was opened nothing is touched but the modules of some sources and the
directories that lead to them.  So no target file is, and of the target directories only those that a
module reaches. -/
structure TouchesOnly (imp : Importer) (c : Config String) (modules : List (EnumSource String))
    (opened after : FileTree Content) : Prop where
  changed : ∀ l, IsOutsideCaches l → after.find? l ≠ opened.find? l →
    ∃ source ∈ modules, l = source.place imp.environment.workingDirectory c.moduleDirectory ∨
      l ∈ c.reached imp source ∧ opened.find? l = none ∧ after.find? l = some .directory
  targetFiles : ∀ l name, IsOutsideCaches l → l.getLast? = some (name ++ fileExtension) →
    ∀ content, after.find? l = some (.file content) ↔ opened.find? l = some (.file content)
  targetDirectories : ∀ d ∈ [c.outputDirectories.interfaces, c.outputDirectories.enumerations],
    (∀ source ∈ modules, ∀ l ∈ c.reached imp source,
      ¬d.locate imp.environment.workingDirectory <+: l) →
    ∀ l, IsOutsideCaches l → d.locate imp.environment.workingDirectory <+: l →
      after.find? l = opened.find? l

variable {imp : Importer} {c : Config String} {opened : FileTree Content}
  {fetch : Fetch}

/-- The extensions of modules and of target files are different. -/
theorem moduleExtension_ne_fileExtension (base name : String) :
    base ++ Importer.moduleExtension ≠ name ++ fileExtension := by
  apply toList_ne_of_getLast
  simp [Importer.moduleExtension, fileExtension]

/-- What the writes of the modules leave differs only where modules are written, and in caches. -/
theorem touchesOnly_of_afterWrites {modules : List (EnumSource String)}
    {writes : List (Path × Content)} {after : FileTree Content}
    (hwrites : ∀ w ∈ writes, ∃ source ∈ modules, w.1 = source.filePath c.moduleDirectory)
    (hafter : ∀ l, IsOutsideCaches l →
      after.find? l = opened.afterWrites imp.environment.workingDirectory writes l) :
    c.TouchesOnly imp modules opened after := by
  have hcases (l : Location) (hl : IsOutsideCaches l) :
      (∃ source ∈ modules, l = source.place imp.environment.workingDirectory c.moduleDirectory) ∨
        after.find? l = opened.find? l ∨
        (∃ source ∈ modules, l ∈ c.reached imp source) ∧ opened.find? l = none ∧
          after.find? l = some .directory := by
    rw [hafter l hl]
    rcases FileTree.afterWrites_cases opened imp.environment.workingDirectory writes l with
      ⟨w, hw, rfl⟩ | hsame | ⟨⟨w, hw, hl⟩, hnone, hmade⟩
    · obtain ⟨source, hsource, hpath⟩ := hwrites w hw
      exact .inl ⟨source, hsource, by rw [hpath]; rfl⟩
    · exact .inr (.inl hsame)
    · obtain ⟨source, hsource, hpath⟩ := hwrites w hw
      rw [hpath] at hl
      exact .inr (.inr ⟨⟨source, hsource, List.mem_cons_of_mem _ hl⟩, hnone, hmade⟩)
  refine ⟨fun l hcaches hl => ?_, fun l name hcaches hname content => ?_,
    fun d _ hmodules l hcaches hl => ?_⟩
  · rcases hcases l hcaches with
      ⟨source, hsource, hplace⟩ | hsame | ⟨⟨source, hsource, hway⟩, hnone, hmade⟩
    · exact ⟨source, hsource, .inl hplace⟩
    · exact absurd hsame hl
    · exact ⟨source, hsource, .inr ⟨hway, hnone, hmade⟩⟩
  · rcases hcases l hcaches with ⟨source, -, hplace⟩ | hsame | ⟨-, hnone, hmade⟩
    · obtain ⟨base, hbase⟩ := getLast?_place imp.environment.workingDirectory c.moduleDirectory
        source
      rw [hplace, hbase, Option.some_inj] at hname
      exact absurd hname (moduleExtension_ne_fileExtension base name)
    · rw [hsame]
    · rw [hnone, hmade]
      exact iff_of_false (by rintro ⟨⟩) (by rintro ⟨⟩)
  · rcases hcases l hcaches with
      ⟨source, hsource, hplace⟩ | hsame | ⟨⟨source, hsource, hway⟩, -, -⟩
    · rw [hplace] at hl
      exact absurd hl (hmodules source hsource _ List.mem_cons_self)
    · exact hsame
    · exact absurd hl (hmodules source hsource l hway)

/-- A run with a source that has no table, between two that have one. -/
def missingTable : Config String :=
  { kindConfig "BookKind" with
    sources := [kindSource "BookKind", { kindSource "Ghost" with table := "ghosts" },
      kindSource "Late"] }

/-- A run whose modules go to the directory of the target enums, and whose target is not there. -/
def sharedDirectory : Config String :=
  { kindConfig "BookKind" with
    moduleDirectory := "ts"
    targets := ["ghost"] }

def isQueryFailure {α : Type} : Except LookupError α → Bool
  | .error (.query _ _) => true
  | _ => false

theorem exists_query_of_isQueryFailure {α : Type} {result : Except LookupError α}
    (h : isQueryFailure result = true) :
    ∃ source cause, result = .error (.query source cause) := by
  unfold isQueryFailure at h
  split at h
  · exact ⟨_, _, rfl⟩
  · cases h

theorem opens_kindImporter {c : Config String} (hconnection : c.connection = "sqlite:///app.db")
    (hsources : c.sources ≠ []) :
    Opens kindImporter.databases kindImporter.environment.workingDirectory c.connection
      kindImporter.files c.sources kindImporter.files (Connection.database kindDatabase).fetch := by
  obtain ⟨masked, hmask⟩ : ∃ masked, Url.mask "sqlite:///app.db" = .ok masked :=
    exists_ok_of_isSome (by decide +kernel)
  rw [hconnection]
  exact .opened hsources hmask (connect_kindImporter masked)

def isScanFailure {α : Type} : Except RunError α → Bool
  | .error (.scan _) => true
  | _ => false

theorem exists_scan_of_isScanFailure {α : Type} {result : Except RunError α}
    (h : isScanFailure result = true) : ∃ cause, result = .error (.scan cause) := by
  unfold isScanFailure at h
  split at h
  · exact ⟨_, rfl⟩
  · cases h

end Config

end TypeExport

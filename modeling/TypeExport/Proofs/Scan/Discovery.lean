import TypeExport.Proofs.Generation.RootOrder
import TypeExport.Proofs.Scan.FirstIndex

/-!
# Roots

The targets of a request are loaded twice before the roots are taken: once for the index, and once for
the roots themselves.  The roots are the marked classes of the modules of the second time, the first
of every full name.  Entries that are redundant both times change nothing.
-/

namespace TypeExport

namespace World

variable {w : World} {all classes : List ClassRef} {seen others : List String}

/-- The classes are the first of every full name, in order. -/
structure IsFirstOfEach (w : World) (all classes : List ClassRef) : Prop where
  names : classes.map w.fullName = (all.map w.fullName).eraseDups
  first : ∀ c ∈ classes, (all.find? fun d => w.fullName d == w.fullName c) = some c

theorem IsFirstOfEach.nodup (h : w.IsFirstOfEach all classes) : (classes.map w.fullName).Nodup := by
  rw [h.names]
  exact nodup_eraseDups _

/-- The names and the list that they are taken from determine the classes. -/
theorem IsFirstOfEach.unique {classes' : List ClassRef} (h : w.IsFirstOfEach all classes)
    (h' : w.IsFirstOfEach all classes') : classes = classes' := by
  have hfound : ∀ {l}, w.IsFirstOfEach all l →
      l.map some = (all.map w.fullName).eraseDups.map fun n =>
        all.find? fun d => w.fullName d == n := by
    intro l hl
    rw [← hl.names, List.map_map]
    exact List.map_congr_left fun c hc => (hl.first c hc).symm
  refine List.map_injective_iff.2 (Option.some_injective _) ?_
  rw [hfound h, hfound h']

theorem firstOfName_cons (w : World) (seen : List String) (c : ClassRef) (rest : List ClassRef) :
    w.firstOfName seen (c :: rest) =
      if w.fullName c ∈ seen then w.firstOfName seen rest
      else c :: w.firstOfName (w.fullName c :: seen) rest := by
  rw [firstOfName]
  simp only [List.contains_iff_mem]

/-- Only which names are seen counts. -/
theorem firstOfName_congr (h : ∀ n, n ∈ seen ↔ n ∈ others) :
    w.firstOfName seen all = w.firstOfName others all := by
  induction all generalizing seen others with
  | nil => rfl
  | cons c rest ih =>
    have hmore : ∀ n, n ∈ w.fullName c :: seen ↔ n ∈ w.fullName c :: others := fun n => by
      rw [List.mem_cons, List.mem_cons, h]
    simp only [firstOfName_cons, h, ih h, ih hmore]

/-- Of two lists the second one counts only for the names that are new. -/
theorem firstOfName_append (w : World) (seen : List String) (all more : List ClassRef) :
    w.firstOfName seen (all ++ more) = w.firstOfName seen all ++
      w.firstOfName ((w.firstOfName seen all).map w.fullName ++ seen) more := by
  induction all generalizing seen with
  | nil => rfl
  | cons c rest ih =>
    rw [List.cons_append, firstOfName_cons, firstOfName_cons]
    split
    · exact ih seen
    · rw [ih, List.cons_append, List.map_cons, List.cons_append]
      congr 2
      refine firstOfName_congr fun n => ?_
      simp only [List.mem_append, List.mem_cons]
      tauto

/-- The roots of targets are found as those of all their modules. -/
theorem rootsOf_classes (w : World) (seen : List String) (targets : List LoadedTarget) :
    (w.rootsOf seen targets).flatMap (·.2) =
      w.firstOfName seen (w.markedClasses (targets.flatMap (·.modules))) := by
  induction targets generalizing seen with
  | nil => rfl
  | cons t rest ih =>
    have hsplit : w.markedClasses ((t :: rest).flatMap (·.modules)) =
        w.markedClasses t.modules ++ w.markedClasses (rest.flatMap (·.modules)) := by
      unfold markedClasses
      rw [List.flatMap_cons, List.flatMap_append, List.filter_append]
    rw [hsplit, firstOfName_append]
    unfold rootsOf
    rw [List.flatMap_cons, ih]

/-- The names that are left are the new ones, each once. -/
theorem names_firstOfName (w : World) (seen : List String) (all : List ClassRef) :
    (w.firstOfName seen all).map w.fullName = ((all.map w.fullName).removeAll seen).eraseDups := by
  induction all generalizing seen with
  | nil => rfl
  | cons c rest ih =>
    rw [firstOfName_cons, List.map_cons]
    unfold List.removeAll at ih ⊢
    split
    · rename_i hseen
      rw [List.filter_cons_of_neg (by simp [hseen]), ih]
    · rename_i hseen
      rw [List.filter_cons_of_pos (by simp [hseen]), List.eraseDups_cons, List.map_cons, ih,
        List.filter_filter]
      congr 2
      refine List.filter_congr fun n _ => ?_
      rw [List.elem_cons]
      cases n == w.fullName c <;> rfl

/-- A class that is left is the first one of its name. -/
theorem find?_of_mem_firstOfName {c : ClassRef} (h : c ∈ w.firstOfName seen all) :
    w.fullName c ∉ seen ∧ (all.find? fun d => w.fullName d == w.fullName c) = some c := by
  induction all generalizing seen with
  | nil => exact (List.not_mem_nil h).elim
  | cons d rest ih =>
    rw [firstOfName_cons] at h
    split at h
    · rename_i hseen
      obtain ⟨hnew, hfind⟩ := ih h
      have hne : w.fullName d ≠ w.fullName c := fun hdc => hnew (hdc ▸ hseen)
      exact ⟨hnew, by rw [List.find?_cons_of_neg (by simpa using hne), hfind]⟩
    · rename_i hseen
      rcases List.mem_cons.1 h with rfl | h
      · exact ⟨hseen, List.find?_cons_of_pos (by simp)⟩
      · obtain ⟨hnew, hfind⟩ := ih h
        rw [List.mem_cons, not_or] at hnew
        exact ⟨hnew.2, by rw [List.find?_cons_of_neg (by simpa using Ne.symm hnew.1), hfind]⟩

theorem isFirstOfEach_firstOfName (w : World) (all : List ClassRef) :
    w.IsFirstOfEach all (w.firstOfName [] all) where
  names := by
    rw [names_firstOfName]
    exact congrArg List.eraseDups (List.filter_eq_self.2 fun _ _ => rfl)
  first _ hc := (find?_of_mem_firstOfName hc).2

theorem isFirstOfEach_iff : w.IsFirstOfEach all classes ↔ classes = w.firstOfName [] all := by
  constructor
  · exact fun h => h.unique (isFirstOfEach_firstOfName w all)
  · rintro rfl
    exact isFirstOfEach_firstOfName w all

end World

/-- The session without the targets that its indexes are for. -/
def Session.anonymous (s : Session) : Session :=
  { s with indexes := s.indexes.map fun (_, i) => ([], i) }

namespace Scans

variable {imp : Importer} {texts others : List String} {s t : Session}

/-- Reports the roots of loaded targets and gives them. -/
def reportRoots (i : ClassIndex) (targets : List LoadedTarget) : Scans (List ClassRef) := do
  let u ← describing i
  let found := u.world.rootsOf [] targets
  for (target, classes) in found do
    report (foundLine target classes.length)
  let all := found.flatMap (·.2)
  report (totalLine (all.map fun c => u.describe (some c)))
  return all

theorem roots_eq (imp : Importer) (texts : List String) :
    roots imp texts = (do
      let i ← index imp texts
      let targets ← load imp texts
      reportRoots i targets) :=
  rfl

/-- Reporting what was found adds one line for each target. -/
theorem gives_reports (found : List (Target × List ClassRef)) (s : Session) :
    Gives (forIn found PUnit.unit fun entry _ => do
        report (foundLine entry.1 entry.2.length)
        pure (.yield ⟨⟩) : Scans PUnit) s ⟨⟩
      { s with log := s.log ++ found.map fun entry => foundLine entry.1 entry.2.length } := by
  induction found generalizing s with
  | nil =>
    rw [List.map_nil, List.append_nil]
    exact gives_pure PUnit.unit s
  | cons entry rest ih =>
    refine gives_each_cons (gives_report _ s) ?_
    have hrest := ih { s with log := s.log ++ [foundLine entry.1 entry.2.length] }
    rw [List.append_assoc] at hrest
    exact hrest

/-- The lines about the roots of loaded targets. -/
def rootLines (u : Universe) (targets : List LoadedTarget) : List LogLine :=
  let found := u.world.rootsOf [] targets
  (found.map fun entry => foundLine entry.1 entry.2.length) ++
    [totalLine ((found.flatMap (·.2)).map fun c => u.describe (some c))]

theorem gives_reportRoots (i : ClassIndex) (targets : List LoadedTarget) (s : Session) :
    Gives (reportRoots i targets) s ((s.world.rootsOf [] targets).flatMap (·.2))
      { s with log := s.log ++
        rootLines { world := s.world, index := i, broken := s.broken } targets } := by
  unfold reportRoots
  refine (gives_describing i s).bind ((gives_reports _ s).bind ((gives_report _ _).bind ?_))
  unfold rootLines
  rw [← List.append_assoc]
  exact gives_pure _ _

/-- Two requests end alike: with the same roots or the same failure, in sessions that differ at most
in the texts that an index is for. -/
def SameRoots (imp : Importer) (s : Session) (texts others : List String) : Prop :=
  ((roots imp texts).run.run s).1 = ((roots imp others).run.run s).1 ∧
    ((roots imp texts).run.run s).2.anonymous = ((roots imp others).run.run s).2.anonymous

/-- How a request ends when the first load succeeds. -/
theorem roots_run (hindexes : s.indexes = []) {first : List LoadedTarget}
    (hfirst : Gives (load imp texts) s first t) :
    (roots imp texts).run.run s =
      match (load imp texts).run.run t with
      | (.ok second, v) =>
        (.ok ((v.world.rootsOf [] second).flatMap (·.2)),
          { v with
            indexes := [(texts, indexOfTargets t.world first)]
            log := v.log ++ rootLines
              { world := v.world, index := indexOfTargets t.world first, broken := v.broken }
              second })
      | (.error e, v) =>
        (.error e, { v with indexes := [(texts, indexOfTargets t.world first)] }) := by
  have hnone : s.indexes.lookup texts = none := by rw [hindexes]; rfl
  have hindex := (gives_index_iff hnone).2 ⟨first, t, hfirst, rfl, rfl⟩
  rw [hindexes, List.nil_append] at hindex
  have hload := load_run_withIndexes imp texts t [(texts, indexOfTargets t.world first)]
  rw [roots_eq, hindex.run_bind]
  cases hsecond : (load imp texts).run.run t with
  | mk result v =>
    rw [hsecond] at hload
    cases result with
    | error e =>
      rw [ExceptT.run_bind, StateT.run_bind, hload]
      rfl
    | ok second =>
      have hagain : Gives (load imp texts)
        { t with indexes := [(texts, indexOfTargets t.world first)] } second
        { v with indexes := [(texts, indexOfTargets t.world first)] } := hload
      exact hagain.run_bind.trans (gives_reportRoots _ second _)

/-- The roots are those of the second load. -/
theorem gives_roots_iff (hindexes : s.indexes = []) {classes : List ClassRef} {w : World} :
    (∃ t, Gives (roots imp texts) s classes t ∧ t.world = w) ↔
      ∃ first u second v, Gives (load imp texts) s first u ∧ Gives (load imp texts) u second v ∧
        v.world = w ∧ classes = (w.rootsOf [] second).flatMap (·.2) := by
  constructor
  · rintro ⟨t, hroots, rfl⟩
    obtain ⟨i, u', hindex, -⟩ := hroots.of_bind
    obtain ⟨first, u, hfirst, -, -⟩ := (gives_index_iff (by rw [hindexes]; rfl)).1 hindex
    unfold Gives at hroots
    rw [roots_run hindexes hfirst] at hroots
    cases hsecond : (load imp texts).run.run u with
    | mk result v =>
      rw [hsecond] at hroots
      cases result with
      | error e => cases hroots
      | ok second =>
        cases hroots
        exact ⟨first, u, second, v, hfirst, hsecond, rfl, rfl⟩
  · rintro ⟨first, u, second, v, hfirst, hsecond, rfl, rfl⟩
    have hrun := roots_run hindexes hfirst
    unfold Gives at hsecond
    rw [hsecond] at hrun
    exact ⟨_, hrun, rfl⟩

/-- Requests end alike when both of their loads do. -/
theorem sameRoots_of_load (hindexes : s.indexes = [])
    (hfirst : (load imp texts).run.run s = (load imp others).run.run s)
    (hsecond : ∀ targets t, Gives (load imp others) s targets t →
      (load imp texts).run.run t = (load imp others).run.run t) :
    SameRoots imp s texts others := by
  unfold SameRoots
  cases hload : (load imp others).run.run s with
  | mk result t =>
    cases result with
    | error e =>
      have hfails : ∀ texts', (load imp texts').run.run s = (.error e, t) →
          (roots imp texts').run.run s = (.error e, t) := by
        intro texts' h
        rw [roots_eq, ExceptT.run_bind, StateT.run_bind, index_run (by rw [hindexes]; rfl), h]
        rfl
      rw [hfails others hload, hfails texts (hfirst.trans hload)]
      exact ⟨rfl, rfl⟩
    | ok first =>
      rw [roots_run hindexes hload, roots_run hindexes (hfirst.trans hload), hsecond first t hload]
      cases (load imp others).run.run t with
      | mk result v => cases result <;> exact ⟨rfl, rfl⟩

theorem load_eq_of_requested (h : Catalog.requested texts = Catalog.requested others) :
    load imp texts = load imp others := by
  unfold load
  simp only [Catalog.load_eq, h]

theorem load_run_of_isRedundant {before after : List String} {x : String}
    (h : imp.IsRedundant s.progress before x after) :
    (load imp (before ++ x :: after)).run.run s = (load imp (before ++ after)).run.run s := by
  rw [load_run, load_run, h.load_run]

theorem gives_load {catalog : Catalog} {targets : List LoadedTarget} {p : Progress}
    (h : Gives (Catalog.load imp s.catalog texts) s.progress (catalog, targets) p) :
    Gives (load imp texts) s targets { s with world := p.world, log := p.log, catalog } := by
  unfold Gives at h ⊢
  rw [load_run, h]

/-- Paths that were loaded once are not loaded again. -/
theorem load_again_of_paths
    (hpaths : ∀ x ∈ texts, Text.allBlank x = true ∨ ∃ target, imp.NamesPath x target)
    {targets : List LoadedTarget} (h : Gives (load imp texts) s targets t) :
    Gives (load imp texts) t targets t := by
  unfold Gives at h ⊢
  rw [load_run] at h
  cases hload : (Catalog.load imp s.catalog texts).run.run s.progress with
  | mk result p =>
    rw [hload] at h
    cases result with
    | error e => cases h
    | ok loaded =>
      obtain ⟨catalog, found⟩ := loaded
      cases h
      exact gives_load (Catalog.load_again_of_paths
        (fun x hx => (hpaths x hx).imp_right fun ⟨target, hx⟩ => ⟨target, hx.finds⟩) hload p)

/-- Three files with a marked class each; two of them are found as the module of one name, one on
the search path and one after it was loaded. -/
def shelves : Importer :=
  .ofEntries [[], ["lib"]]
    [(["lib"], .directory), (["lib", "a"], .directory), (["x"], .directory),
      (["lib", "a", "__init__.py"], .file (.ofStatements [.plainClass "Foo" true [] []])),
      (["x", "a.py"], .file (.ofStatements [.plainClass "Bar" true [] []])),
      (["z.py"], .file (.ofStatements [.plainClass "Zed" true [] []]))]

theorem namesPath_of_shelves {text : String} {l : Location}
    (h : (text, l) ∈ [("lib/a/__init__.py", ["lib", "a", "__init__.py"]), ("x/a.py", ["x", "a.py"]),
      ("z.py", ["z.py"]), ("./z.py", ["z.py"])]) :
    shelves.NamesPath text { text, kind := .file, origin := .place l } := by
  simp only [List.mem_cons, List.not_mem_nil, or_false, Prod.mk.injEq] at h
  obtain ⟨rfl, rfl⟩ | ⟨rfl, rfl⟩ | ⟨rfl, rfl⟩ | ⟨rfl, rfl⟩ := h
  all_goals exact ⟨by decide +kernel, by decide +kernel, rfl⟩

/-- The module of the name is found at the place of the first file, and its entry moves a root. -/
theorem rootNames_of_shelves :
    Succeeds (["lib/a/__init__.py", "a"].mapM shelves.findTarget) Session.empty.progress
        (fun targets _ => targets.map (·.origin) =
          [.place ["lib", "a", "__init__.py"], .place ["lib", "a", "__init__.py"]]) ∧
      Succeeds (roots shelves ["lib/a/__init__.py", "z.py", "x/a.py"]) .empty (fun classes t =>
        classes.map t.world.fullName = ["__init__.Foo", "z.Zed", "a.Bar"]) ∧
      Succeeds (roots shelves ["lib/a/__init__.py", "a", "z.py", "x/a.py"]) .empty fun classes t =>
        classes.map t.world.fullName = ["__init__.Foo", "a.Bar", "z.Zed"] := by
  decide +kernel

/-- A file that is loaded under the name of its own package. -/
def nested : Importer :=
  .ofEntries [[]]
    [(["__init__"], .directory), (["__init__", "__init__.py"], .file (.ofStatements [])),
      (["__init__", "q.py"], .file (.ofStatements [.plainClass "Foo" true [] []]))]

end Scans

end TypeExport

import TypeExport.Proofs.Renumbering.Loading
import TypeExport.Proofs.Renumbering.Mirrors
import TypeExport.Proofs.Scan.Requests

/-!
# Files that fail when they are loaded

The files of a directory are loaded one after the other.  One that fails and leaves nothing that
others can see is reported, and all that is loaded behind it is what it would have been without the
file, up to the numbers of classes and modules.
-/

/-!
## What a run leaves behind

A run that fails may leave classes and modules that nothing leads to.  A world with such leftovers
mirrors the same worlds as before, with other numbers for what is still to come.
-/

namespace TypeExport

/-- What was there is as it was.  New classes are mapped on new bases alone. -/
structure World.KeepsModules (w v : World) : Prop where
  modules : w.modules <+: v.modules
  mapped : ∀ i m, w.classes.length ≤ i → v.mapping? (.defined i) = some m →
    ∃ j, m.base = .defined j ∧ w.classes.length ≤ j ∧ j < v.classes.length

/-- What was there is as it was, and the register is the same for every name. -/
structure World.LeavesAlone (w v : World) : Prop extends w.KeepsModules v where
  registry : ∀ name, v.registry.lookup name = w.registry.lookup name

/-- Numbers that stay as they are below `n` and lead on behind `m`. -/
theorem exists_numbers (ρ : Nat ↪ Nat) {n m : Nat} (hbelow : ∀ i < n, ρ i < m) :
    ∃ ρ' : Nat ↪ Nat, (∀ i < n, ρ' i = ρ i) ∧ ∀ k, ρ' (n + k) = m + k := by
  let f : Nat → Nat := fun i => if i < n then ρ i else m + (i - n)
  have hf : Function.Injective f := by
    intro i j hij
    by_cases hi : i < n <;> by_cases hj : j < n <;> simp only [f, hi, hj, if_true, if_false] at hij
    · exact ρ.injective hij
    · have := hbelow i hi
      omega
    · have := hbelow j hj
      omega
    · omega
  refine ⟨⟨f, hf⟩, fun i hi => if_pos hi, fun k => ?_⟩
  show f (n + k) = m + k
  simp [f]

namespace World

variable {ρ τ σ : Nat ↪ Nat} {w w' v : World}

/-- Every class of the first world has the number of one in the second world. -/
theorem Mirrors.class_lt (h : w.Mirrors ρ τ w') {i : Nat} (hi : i < w.classes.length) :
    ρ i < w'.classes.length := by
  have hsome := h.class? ρ h.agrees i
  rw [List.getElem?_eq_getElem hi] at hsome
  obtain ⟨hlt, -⟩ := List.getElem?_eq_some_iff.1 hsome
  exact hlt

theorem Mirrors.module_lt (h : w.Mirrors ρ τ w') {i : Nat} (hi : i < w.modules.length) :
    τ i < w'.modules.length := by
  have hsome := h.module? ρ h.agrees i
  rw [List.getElem?_eq_getElem hi] at hsome
  obtain ⟨hlt, -⟩ := List.getElem?_eq_some_iff.1 hsome
  exact hlt

/-- No class of the leftovers is mapped on a class that was there, or on one that is still to come. -/
theorem LeavesAlone.mappedOn (hleaves : w'.LeavesAlone v) (hclasses : w'.classes <+: v.classes)
    {base : ClassRef} (hbase : ∀ j, base = .defined j → j < w'.classes.length ∨
      v.classes.length ≤ j) :
    Relations.mappedOn v base = Relations.mappedOn w' base := by
  obtain ⟨more, hmore⟩ := hclasses
  have hlength : v.classes.length = w'.classes.length + more.length := by
    rw [← hmore, List.length_append]
  have hsame : ∀ i < w'.classes.length, v.mapping? (.defined i) = w'.mapping? (.defined i) := by
    intro i hi
    show (v.classes[i]?).bind _ = (w'.classes[i]?).bind _
    rw [← hmore, List.getElem?_append_left hi]
  have hnew : ∀ i m, w'.classes.length ≤ i → v.mapping? (.defined i) = some m → m.base ≠ base := by
    intro i m hi hm hmapped
    obtain ⟨j, hj, hlow, hhigh⟩ := hleaves.mapped i m hi hm
    rcases hbase j (hmapped.symm.trans hj) with hlt | hge <;> omega
  unfold Relations.mappedOn
  rw [hlength, List.range_add, List.map_append, List.filterMap_append]
  have hfirst : ((List.range w'.classes.length).map ClassRef.defined).filterMap (fun c =>
        (v.mapping? c).bind fun m => if m.base = base then some (c, m) else none) =
      ((List.range w'.classes.length).map ClassRef.defined).filterMap fun c =>
        (w'.mapping? c).bind fun m => if m.base = base then some (c, m) else none := by
    refine List.filterMap_congr fun c hc => ?_
    obtain ⟨i, hi, rfl⟩ := List.mem_map.1 hc
    rw [hsame i (List.mem_range.1 hi)]
  have hrest : (((List.range more.length).map (w'.classes.length + ·)).map
      ClassRef.defined).filterMap (fun c =>
        (v.mapping? c).bind fun m => if m.base = base then some (c, m) else none) = [] := by
    rw [List.filterMap_eq_nil_iff]
    intro c hc
    rw [List.map_map] at hc
    obtain ⟨i, -, rfl⟩ := List.mem_map.1 hc
    rw [Option.bind_eq_none_iff]
    exact fun m hm => if_neg (hnew _ m (Nat.le_add_right _ _) hm)
  rw [hfirst, hrest, List.append_nil]

/-- A world with leftovers mirrors the same world, with the same numbers for what is there. -/
theorem Mirrors.leave (h : w.Mirrors ρ τ w')
    (hregistry : ∀ name i, w.registry.lookup name = some i → i < w.modules.length)
    (hclasses : w'.classes <+: v.classes) (hleaves : w'.LeavesAlone v) :
    ∃ ρ' τ' : Nat ↪ Nat, w.Mirrors ρ' τ' v ∧ (∀ i < w.classes.length, ρ' i = ρ i) ∧
      ∀ i < w.modules.length, τ' i = τ i := by
  have hmore : w'.classes.length ≤ v.classes.length := hclasses.length_le
  have hmoreModules : w'.modules.length ≤ v.modules.length := hleaves.modules.length_le
  obtain ⟨ρ', hold, hnext⟩ := exists_numbers ρ fun i hi => (h.class_lt hi).trans_le hmore
  obtain ⟨τ', holdModules, hnextModules⟩ :=
    exists_numbers τ fun i hi => (h.module_lt hi).trans_le hmoreModules
  have hfirst : ρ' w.classes.length = v.classes.length := hnext 0
  -- numbers that agree with the new ones agree with the old ones, as the next class came later
  have hagrees : ∀ σ, AgreesBelow ρ' w.classes.length σ → AgreesBelow ρ w.classes.length σ := by
    intro σ hσ
    refine ⟨fun i hi => (hσ.1 i hi).trans (hold i hi), fun i hi => ?_⟩
    rw [h.nextClass_eq]
    exact hmore.trans (hfirst ▸ hσ.2 i hi)
  refine ⟨ρ', τ', ⟨hnext, hnextModules, fun σ hσ i => ?_, fun σ hσ i => ?_, fun name => ?_,
    fun σ hσ base => ?_⟩, hold, holdModules⟩
  · rcases Nat.lt_or_ge i w.classes.length with hi | hi
    · rw [hσ.1 i hi, hold i hi, ← h.class? σ (hagrees σ hσ), (hagrees σ hσ).1 i hi]
      obtain ⟨more, hmore⟩ := hclasses
      rw [← hmore, List.getElem?_append_left (h.class_lt hi)]
    · have hbehind := hσ.2 i hi
      rw [hfirst] at hbehind
      rw [List.getElem?_eq_none hbehind, List.getElem?_eq_none hi]
      rfl
  · rcases Nat.lt_or_ge i w.modules.length with hi | hi
    · rw [holdModules i hi, ← h.module? σ (hagrees σ hσ)]
      obtain ⟨more, hmore⟩ := hleaves.modules
      rw [← hmore, List.getElem?_append_left (h.module_lt hi)]
    · obtain ⟨k, rfl⟩ := Nat.exists_eq_add_of_le hi
      rw [hnextModules, List.getElem?_eq_none (Nat.le_add_right _ _), List.getElem?_eq_none hi]
      rfl
  · rw [hleaves.registry, h.lookup]
    cases hname : w.registry.lookup name with
    | none => rfl
    | some i => exact congrArg some (holdModules i (hregistry name i hname)).symm
  · rw [hleaves.mappedOn hclasses, h.mappedOn σ (hagrees σ hσ)]
    intro j hj
    cases base with
    | standard name => cases hj
    | defined i =>
      cases hj
      rcases Nat.lt_or_ge i w.classes.length with hi | hi
      · rw [(hagrees σ hσ).1 i hi]
        exact .inl (h.class_lt hi)
      · exact .inr (hfirst ▸ hσ.2 i hi)

end World

/-!
## Directories with such a file
-/

section Sequences

variable {ε σ α β γ : Type} {s t : σ}

theorem gives_map_iff {x : ExceptT ε (StateM σ) α} {f : α → β} {b : β} :
    Gives (f <$> x) s b t ↔ ∃ a, Gives x s a t ∧ b = f a := by
  rw [map_eq_pure_bind]
  constructor
  · intro h
    obtain ⟨a, u, ha, hb⟩ := h.of_bind
    obtain ⟨rfl, rfl⟩ := (gives_pure _ _).unique hb
    exact ⟨a, ha, rfl⟩
  · rintro ⟨a, ha, rfl⟩
    exact ha.bind (gives_pure _ t)

theorem gives_bind_iff {x : ExceptT ε (StateM σ) α} {f : α → ExceptT ε (StateM σ) β} {b : β} :
    Gives (x >>= f) s b t ↔ ∃ a u, Gives x s a u ∧ Gives (f a) u b t :=
  ⟨Gives.of_bind, fun ⟨_, _, ha, hb⟩ => ha.bind hb⟩

/-- An action over a list gives what it gives for the first item and for the rest. -/
theorem gives_mapM_cons_iff {a : α} {rest : List α} {f : α → ExceptT ε (StateM σ) γ}
    {cs : List γ} : Gives ((a :: rest).mapM f) s cs t ↔
      ∃ c u more, Gives (f a) s c u ∧ Gives (rest.mapM f) u more t ∧ cs = c :: more := by
  rw [List.mapM_cons]
  constructor
  · intro h
    obtain ⟨c, u, hc, h⟩ := h.of_bind
    obtain ⟨more, v, hmore, h⟩ := h.of_bind
    obtain ⟨rfl, rfl⟩ := (gives_pure _ _).unique h
    exact ⟨c, u, more, hc, hmore, rfl⟩
  · rintro ⟨c, u, more, hc, hmore, rfl⟩
    exact hc.bind (hmore.bind (gives_pure _ t))

/-- Over two lists it gives what it gives for one after the other. -/
theorem gives_mapM_append_iff {first rest : List α} {f : α → ExceptT ε (StateM σ) γ}
    {cs : List γ} : Gives ((first ++ rest).mapM f) s cs t ↔
      ∃ c u more, Gives (first.mapM f) s c u ∧ Gives (rest.mapM f) u more t ∧ cs = c ++ more := by
  rw [List.mapM_append]
  constructor
  · intro h
    obtain ⟨c, u, hc, h⟩ := h.of_bind
    obtain ⟨more, v, hmore, h⟩ := h.of_bind
    obtain ⟨rfl, rfl⟩ := (gives_pure _ _).unique h
    exact ⟨c, u, more, hc, hmore, rfl⟩
  · rintro ⟨c, u, more, hc, hmore, rfl⟩
    exact hc.bind (hmore.bind (gives_pure _ t))

end Sequences

namespace LoadedTarget

/-- A target with the modules and failures of another one behind its own. -/
def append (t u : LoadedTarget) : LoadedTarget :=
  { t with modules := t.modules ++ u.modules, failures := t.failures ++ u.failures }

variable {w : World} {directory : Location} {t u : LoadedTarget}

theorem append_assoc (s t u : LoadedTarget) : (s.append t).append u = s.append (t.append u) := by
  unfold append
  rw [List.append_assoc, List.append_assoc]

theorem append_addModule (t : LoadedTarget) (target : Target) (h : ModuleHandle) :
    t.append (addModule { target } h) = t.addModule h := by
  unfold append addModule
  rw [List.append_nil, List.nil_append]

theorem append_addFailure (t : LoadedTarget) (target : Target) (text : String) :
    t.append (addFailure { target } text) = t.addFailure text := by
  unfold append addFailure
  rw [List.append_nil, List.nil_append]

theorem Records.append {outcomes more : List (String × Bool)}
    (ht : t.Records w directory outcomes) (hu : u.Records w directory more) :
    (t.append u).Records w directory (outcomes ++ more) where
  modules := by
    show (t.modules ++ u.modules).map _ = _
    rw [List.map_append, ht.modules, hu.modules, List.filter_append, List.map_append]
  failures := by
    show t.failures ++ u.failures = _
    rw [ht.failures, hu.failures, List.filter_append, List.map_append]

end LoadedTarget

namespace Importer

variable {imp : Importer} {directory : Location} {target : Target} {t : LoadedTarget}
  {p q : Progress}

/-- What files add to a target does not depend on what it has. -/
theorem loadFiles_eq (imp : Importer) (directory : Location) (t : LoadedTarget)
    (names : List String) : imp.loadFiles directory t names =
      t.append <$> imp.loadFiles directory { target := t.target } names := by
  induction names generalizing t with
  | nil =>
    rw [loadFiles, loadFiles, map_pure]
    unfold LoadedTarget.append
    rw [List.append_nil, List.append_nil]
  | cons name rest ih =>
    rw [loadFiles, loadFiles, map_bind]
    refine bind_congr fun result => ?_
    cases result with
    | ok h =>
      dsimp only
      rw [ih, ih (LoadedTarget.addModule _ h), Functor.map_map]
      refine congrArg (· <$> _) (funext fun u => ?_)
      rw [← LoadedTarget.append_assoc, LoadedTarget.append_addModule]
    | error f =>
      dsimp only
      rw [map_bind]
      refine bind_congr fun _ => ?_
      rw [ih, ih (LoadedTarget.addFailure _ _), Functor.map_map]
      refine congrArg (· <$> _) (funext fun u => ?_)
      rw [← LoadedTarget.append_assoc, LoadedTarget.append_addFailure]

/-- Files are loaded in parts, one part after the other. -/
theorem loadFiles_append (imp : Importer) (directory : Location) (t : LoadedTarget)
    (names more : List String) : imp.loadFiles directory t (names ++ more) =
      imp.loadFiles directory t names >>= fun t => imp.loadFiles directory t more := by
  induction names generalizing t with
  | nil =>
    rw [loadFiles, List.nil_append]
    exact (pure_bind t fun t => imp.loadFiles directory t more).symm
  | cons name rest ih =>
    rw [List.cons_append, loadFiles, loadFiles, bind_assoc]
    refine bind_congr fun result => ?_
    cases result with
    | ok h => exact ih _
    | error f =>
      dsimp only
      rw [bind_assoc]
      exact bind_congr fun _ => ih _

/-- The files of a directory are loaded in two parts. -/
theorem gives_loadFiles_append_iff {names more : List String} :
    Gives (imp.loadFiles directory { target } (names ++ more)) p t q ↔
      ∃ a u b, Gives (imp.loadFiles directory { target } names) p a u ∧
        Gives (imp.loadFiles directory { target } more) u b q ∧ t = a.append b := by
  rw [loadFiles_append, gives_bind_iff]
  constructor
  · rintro ⟨a, u, ha, ht⟩
    rw [loadFiles_eq, gives_map_iff, target_of_loadFiles ha] at ht
    obtain ⟨b, hb, rfl⟩ := ht
    exact ⟨a, u, b, ha, hb, rfl⟩
  · rintro ⟨a, u, b, ha, hb, rfl⟩
    refine ⟨a, u, ha, ?_⟩
    rw [loadFiles_eq, gives_map_iff, target_of_loadFiles ha]
    exact ⟨b, hb, rfl⟩

/-- Loading the file in the world ends with an ordinary failure, and what is left of it is left
aside. -/
def FailsAlone (imp : Importer) (l : Location) (w : World) : Prop :=
  Ends (imp.loadFile l) w fun result v =>
    (∃ f : Failure, result = .error f ∧ f.isOrdinary = true) ∧ w.LeavesAlone v

/-- A file that fails adds its path to the failures. -/
theorem gives_loadFiles_of_failsAlone (target : Target) {file : String}
    (h : imp.FailsAlone (directory ++ [file]) p.world) :
    ∃ q, Gives (imp.loadFiles directory { target } [file]) p
        (LoadedTarget.addFailure { target } (Path.ofLocation (directory ++ [file])).text) q ∧
      p.world.LeavesAlone q.world ∧ p.world.classes <+: q.world.classes := by
  obtain ⟨⟨f, hf, hordinary⟩, hleaves⟩ := h
  have hgrows := imp.keepsClasses_loadFile (directory ++ [file]) p.world
  unfold Ends at hgrows
  generalize hrun : (imp.loadFile (directory ++ [file])).run.run p.world = ending at *
  obtain ⟨result, v⟩ := ending
  have hpart : Gives (Loads.part (imp.loadFile (directory ++ [file]))) p (.error f)
      { p with world := v } := by
    unfold Gives
    rw [Loads.part_run, hrun]
    dsimp only at hf ⊢
    rw [hf, Loads.ofPart, if_pos hordinary]
  refine ⟨{ world := v, log := p.log ++ [skipLine target.text file f] }, ?_, hleaves, hgrows⟩
  rw [loadFiles]
  refine hpart.bind ((gives_modify _ _).bind ?_)
  rw [loadFiles]
  exact gives_pure _ _

theorem loadTarget_of_directory (imp : Importer) (hkind : target.kind = .directory)
    (hplace : target.origin = .place directory) :
    imp.loadTarget target = imp.loadDirectory target directory := by
  obtain ⟨text, kind, origin⟩ := target
  cases hkind
  cases hplace
  rfl

theorem gives_loadFiles_of_loadDirectory (h : Gives (imp.loadDirectory target directory) p t q) :
    ∃ u : Progress, u.world = p.world ∧
      Gives (imp.loadFiles directory { target } (imp.publicFiles directory)) u t q := by
  unfold loadDirectory at h
  dsimp only at h
  split at h
  · obtain ⟨_, u, hreport, h⟩ := h.of_bind
    obtain ⟨-, rfl⟩ := hreport.unique (gives_modify _ p)
    refine ⟨_, ?_, h⟩
    rfl
  · exact ⟨p, rfl, h⟩

theorem gives_loadDirectory_of_loadFiles (hfiles : imp.publicFiles directory ≠ [])
    (h : Gives (imp.loadFiles directory { target } (imp.publicFiles directory)) p t q) :
    Gives (imp.loadDirectory target directory) p t q := by
  unfold loadDirectory
  dsimp only
  rw [if_neg (by simpa using hfiles)]
  exact h

section Broken

variable {imp' : Importer} {runs : Location → Prop} {ρ τ : Nat ↪ Nat} {p' : Progress}
  {kept : List ModuleOutline} {file : String} {before after : List String}

/-- A directory is loaded with a broken file as it is without it, and the file is one more failure
at its place. -/
theorem gives_loadDirectory_of_failsAlone (hoff : imp.AgreesOff imp' (directory ++ [file]))
    (hclosed : imp.IsClosed runs) (hl : ¬runs (directory ++ [file]))
    (hfiles : imp.publicFiles directory = before ++ after)
    (hfiles' : imp'.publicFiles directory = before ++ file :: after)
    (hnames : ∀ name ∈ before ++ after, runs (directory ++ [name]))
    (hmirrors : p.world.Mirrors ρ τ p'.world)
    (hw : imp.Consistent (directory ++ [file]) kept [] p.world)
    (hfails : ∀ t q, Gives (imp'.loadFiles directory { target } before) p' t q →
      imp'.FailsAlone (directory ++ [file]) q.world)
    (h : Gives (imp.loadDirectory target directory) p t q) :
    ∃ (ρ' τ' : Nat ↪ Nat) (t' : LoadedTarget) (q' : Progress),
      Gives (imp'.loadDirectory target directory) p' t' q' ∧
      q.world.Mirrors ρ' τ' q'.world ∧ (∀ i < p.world.modules.length, τ' i = τ i) ∧
      imp.Consistent (directory ++ [file]) kept [] q.world ∧
      p.world.outlines <+: q.world.outlines ∧
      t.target = target ∧ t'.target = target ∧
      t'.modules = t.modules.map (ModuleHandle.renumber τ') ∧
      ∃ first rest, first.map (·.1) = before ∧ rest.map (·.1) = after ∧
        t.Records q.world directory (first ++ rest) ∧
        t'.Records q'.world directory (first ++ (file, false) :: rest) := by
  obtain ⟨r, hr, hload⟩ := gives_loadFiles_of_loadDirectory h
  rw [hfiles, gives_loadFiles_append_iff] at hload
  obtain ⟨a, u, b, ha, hb, rfl⟩ := hload
  -- the files before the broken one
  rw [← hr] at hmirrors hw
  obtain ⟨u', ha', hu, hpost⟩ := (follows_loadFiles hoff hclosed hl
    (fun name hname => hnames name (List.mem_append_left _ hname)) hmirrors hw
    (LoadedTarget.records_nil r.world directory target)).gives ha
  obtain ⟨huw, hmore, hatarget, first, hfirst, harecords⟩ := hpost a rfl
  rw [List.nil_append] at harecords
  -- the broken file
  obtain ⟨v', hbroken, hleaves, hgrows⟩ :=
    gives_loadFiles_of_failsAlone target (hfails _ _ ha')
  have hregistry : ∀ name i, u.world.registry.lookup name = some i →
      i < u.world.modules.length := by
    intro name i hi
    obtain ⟨m, hm, -⟩ := huw.outline hi
    exact (List.getElem?_eq_some_iff.1 hm).1
  obtain ⟨ρ', τ', hv, -, hsame⟩ := hu.leave hregistry hgrows hleaves
  -- the files behind it
  obtain ⟨q', hb', hq, hpost⟩ := (follows_loadFiles hoff hclosed hl
    (fun name hname => hnames name (List.mem_append_right _ hname)) hv huw
    (LoadedTarget.records_nil u.world directory target)).gives hb
  obtain ⟨hqw, hlater, hbtarget, rest, hrest, hbrecords⟩ := hpost b rfl
  rw [List.nil_append] at hbrecords
  have hastays : a.renumber τ = a.renumber τ' :=
    (LoadedTarget.renumber_congr hsame harecords.standsIn).symm
  refine ⟨ρ', τ', (a.renumber τ').append ((LoadedTarget.addFailure { target }
    (Path.ofLocation (directory ++ [file])).text).append (b.renumber τ')), q', ?_, hq, ?_, hqw,
    hr ▸ hmore.trans hlater, hatarget, hatarget, ?_, first, rest, hfirst, hrest, ?_, ?_⟩
  · refine gives_loadDirectory_of_loadFiles (by simp [hfiles']) ?_
    rw [hfiles', gives_loadFiles_append_iff]
    refine ⟨_, u', _, hastays ▸ ha', ?_, rfl⟩
    exact gives_loadFiles_append_iff.2 ⟨_, v', _, hbroken, hb', rfl⟩
  · intro i hi
    have hlength := hmore.length_le
    rw [hr, World.outlines, World.outlines, List.length_map, List.length_map] at hlength
    exact hsame i (hi.trans_le hlength)
  · show _ ++ _ = List.map _ (_ ++ _)
    rw [List.map_append]
    rfl
  · exact (harecords.mono hlater).append hbrecords
  · refine ((harecords.mono hlater).renumber hq).append ?_
    exact ((LoadedTarget.records_nil _ _ _).addFailure file).append (hbrecords.renumber hq)

/-- How a target is loaded without the file and with it: as before, but the directory of the file has
one more failure, at the place of the file. -/
structure GainsFailure (imp imp' : Importer) (directory : Location) (file : String) (w w' : World)
    (t t' : LoadedTarget) : Prop where
  target : t'.target = t.target
  modules : t'.modules.map (fun h => (h.name w', h.source? w')) =
    t.modules.map fun h => (h.name w, h.source? w)
  loadsBefore : imp.LoadsAs w t.target t
  loadsAfter : imp'.LoadsAs w' t.target t'
  elsewhere : t.target.origin ≠ .place directory → t'.failures = t.failures
  here : t.target.origin = .place directory → ∃ first rest : List (String × Bool),
    (first ++ rest).map (·.1) = imp.publicFiles directory ∧
    (first ++ (file, false) :: rest).map (·.1) = imp'.publicFiles directory ∧
    t.Records w directory (first ++ rest) ∧
    t'.Records w' directory (first ++ (file, false) :: rest)

theorem map_names_sources {w w' : World} (hmirrors : w.Mirrors ρ τ w')
    (modules : List ModuleHandle) :
    (modules.map (ModuleHandle.renumber τ)).map (fun h => (h.name w', h.source? w')) =
      modules.map fun h => (h.name w, h.source? w) := by
  rw [List.map_map]
  exact List.map_congr_left fun h _ =>
    Prod.ext (ModuleHandle.name_mirrors hmirrors h) (ModuleHandle.source?_mirrors hmirrors h)

/-- A target at another place gains no failure, and its modules keep up with the numbers. -/
theorem LoadsAs.gainsFailure {w w' : World} (ht : imp.LoadsAs w target t)
    (hmirrors : w.Mirrors ρ τ w') (halike : imp.ReadsAlike imp' target)
    (horigin : target.origin ≠ .place directory) :
    GainsFailure imp imp' directory file w w' t (t.renumber τ) := by
  obtain ⟨rfl, ht'⟩ := ht
  refine ⟨rfl, map_names_sources hmirrors t.modules, ⟨rfl, ht'⟩, ⟨rfl, ?_⟩, fun _ => rfl,
    fun h => absurd h horigin⟩
  unfold ReadsAlike at halike
  split at ht'
  · rename_i d hkind hplace
    rw [hkind, hplace] at halike
    obtain ⟨outcomes, hnames, hrecords⟩ := ht'
    exact ⟨outcomes, hnames.trans halike.symm, hrecords.renumber hmirrors⟩
  · refine ⟨?_, ht'.2⟩
    rw [← ht'.1]
    show (t.modules.map _).map _ = _
    rw [List.map_map]
    exact List.map_congr_left fun h _ => ModuleHandle.source?_mirrors hmirrors h
  · exact ht'.elim

/-- The directory of the file gains the failure, as its records show. -/
theorem gainsFailure_of_records {w w' : World} {t' : LoadedTarget}
    {first rest : List (String × Bool)} (hkind : t.target.kind = .directory)
    (hplace : t.target.origin = .place directory) (hmirrors : w.Mirrors ρ τ w')
    (htarget : t'.target = t.target) (hmodules : t'.modules = t.modules.map (ModuleHandle.renumber τ))
    (hnames : (first ++ rest).map (·.1) = imp.publicFiles directory)
    (hnames' : (first ++ (file, false) :: rest).map (·.1) = imp'.publicFiles directory)
    (hrecords : t.Records w directory (first ++ rest))
    (hfailures : t'.failures = ((first ++ (file, false) :: rest).filter (!·.2)).map fun outcome =>
      (Path.ofLocation (directory ++ [outcome.1])).text) :
    GainsFailure imp imp' directory file w w' t t' := by
  have hrecords' : t'.Records w' directory (first ++ (file, false) :: rest) := by
    refine ⟨?_, hfailures⟩
    rw [hmodules, ← LoadedTarget.renumber_modules, (hrecords.renumber hmirrors).modules]
    simp
  refine ⟨htarget, ?_, ⟨rfl, ?_⟩, ⟨htarget, ?_⟩, fun h => absurd hplace h,
    fun _ => ⟨first, rest, hnames, hnames', hrecords, hrecords'⟩⟩
  · rw [hmodules]
    exact map_names_sources hmirrors t.modules
  · rw [hkind, hplace]
    exact ⟨_, hnames, hrecords⟩
  · rw [hkind, hplace]
    exact ⟨_, hnames', hrecords'⟩

/-- Targets at other places are loaded as before. -/
theorem gainsFailure_of_elsewhere {w w' : World} {targets : List Target} {loaded : List LoadedTarget}
    (hmirrors : w.Mirrors ρ τ w')
    (halike : ∀ other ∈ targets, imp.ReadsAlike imp' other ∧ other.origin ≠ .place directory)
    (hloaded : List.Forall₂ (imp.LoadsAs w) targets loaded) :
    List.Forall₂ (fun t t' => t'.modules = t.modules.map (ModuleHandle.renumber τ) ∧
      GainsFailure imp imp' directory file w w' t t') loaded
      (loaded.map (LoadedTarget.renumber τ)) := by
  rw [List.forall₂_map_right_iff, List.forall₂_same]
  intro t ht
  obtain ⟨other, hother, hload⟩ := exists_left_of_mem hloaded ht
  obtain ⟨hread, horigin⟩ := halike other hother
  exact ⟨rfl, hload.gainsFailure hmirrors hread horigin⟩

/-- All targets of a request are loaded as before. -/
theorem gives_loadTargets_of_failsAlone {earlier later : List Target}
    {loaded : List LoadedTarget} (hoff : imp.AgreesOff imp' (directory ++ [file]))
    (hclosed : imp.IsClosed runs) (hl : ¬runs (directory ++ [file]))
    (hfiles : imp.publicFiles directory = before ++ after)
    (hfiles' : imp'.publicFiles directory = before ++ file :: after)
    (hkind : target.kind = .directory) (hplace : target.origin = .place directory)
    (halike : ∀ other ∈ earlier ++ later, imp.ReadsAlike imp' other ∧
      other.origin ≠ .place directory)
    (hruns : ∀ other ∈ earlier ++ target :: later, ∀ k, imp.IsFileOf other k → runs k)
    (hmirrors : p.world.Mirrors ρ τ p'.world)
    (hw : imp.Consistent (directory ++ [file]) kept [] p.world)
    (hfails : ∀ loaded u t q, Gives (earlier.mapM imp'.loadTarget) p' loaded u →
      Gives (imp'.loadFiles directory { target } before) u t q →
      imp'.FailsAlone (directory ++ [file]) q.world)
    (h : Gives ((earlier ++ target :: later).mapM imp.loadTarget) p loaded q) :
    ∃ (ρ' τ' : Nat ↪ Nat) (loaded' : List LoadedTarget) (q' : Progress),
      Gives ((earlier ++ target :: later).mapM imp'.loadTarget) p' loaded' q' ∧
      q.world.Mirrors ρ' τ' q'.world ∧
      imp.Consistent (directory ++ [file]) kept [] q.world ∧
      List.Forall₂ (fun t t' => t'.modules = t.modules.map (ModuleHandle.renumber τ') ∧
        GainsFailure imp imp' directory file q.world q'.world t t') loaded loaded' := by
  have hnames : ∀ name ∈ before ++ after, runs (directory ++ [name]) := by
    intro name hname
    refine hruns target (List.mem_append_right _ List.mem_cons_self) _ ?_
    unfold IsFileOf
    rw [hkind, hplace]
    exact ⟨name, hfiles ▸ hname, rfl⟩
  rw [gives_mapM_append_iff] at h
  obtain ⟨first, u, more, hfirst, hmore, rfl⟩ := h
  rw [gives_mapM_cons_iff] at hmore
  obtain ⟨t, v, rest, ht, hrest, rfl⟩ := hmore
  rw [imp.loadTarget_of_directory hkind hplace] at ht
  obtain ⟨u', hfirst', hu, hpost⟩ := (follows_loadTargets hoff hclosed hl
    (fun other hother => ⟨(halike other (List.mem_append_left _ hother)).1,
      hruns other (List.mem_append_left _ hother)⟩) hmirrors hw).gives hfirst
  obtain ⟨huw, -, hfirstAs⟩ := hpost first rfl
  obtain ⟨ρ', τ', t', v', ht', hv, hsame, hvw, hafter, htarget, htarget', hmodules, ones, rest',
    hones, hrest', hrecords, hrecords'⟩ :=
    gives_loadDirectory_of_failsAlone hoff hclosed hl hfiles hfiles' hnames hu huw
      (fun t q hq => hfails _ _ _ _ hfirst' hq) ht
  obtain ⟨q', hlater', hq, hpost⟩ := (follows_loadTargets hoff hclosed hl
    (fun other hother => ⟨(halike other (List.mem_append_right _ hother)).1,
      hruns other (List.mem_append_right _ (List.mem_cons_of_mem _ hother))⟩) hv hvw).gives hrest
  obtain ⟨hqw, hlast, hrestAs⟩ := hpost rest rfl
  have hfirstStays :
      first.map (LoadedTarget.renumber τ) = first.map (LoadedTarget.renumber τ') := by
    refine List.map_congr_left fun t ht => ?_
    obtain ⟨_, -, hload⟩ := exists_left_of_mem hfirstAs ht
    exact (LoadedTarget.renumber_congr hsame hload.standsIn).symm
  refine ⟨ρ', τ', first.map (LoadedTarget.renumber τ') ++ t' :: rest.map (LoadedTarget.renumber τ'),
    q', ?_, hq, hqw, ?_⟩
  · exact gives_mapM_append_iff.2 ⟨_, u', _, hfirstStays ▸ hfirst', gives_mapM_cons_iff.2
      ⟨t', v', _, imp'.loadTarget_of_directory hkind hplace ▸ ht', hlater', rfl⟩, rfl⟩
  · have hhere : GainsFailure imp imp' directory file q.world q'.world t t' := by
      refine gainsFailure_of_records (htarget ▸ hkind) (htarget ▸ hplace) hq
        (htarget'.trans htarget.symm) hmodules ?_ ?_ (hrecords.mono hlast) hrecords'.failures
      · rw [List.map_append, hones, hrest', hfiles]
      · rw [List.map_append, List.map_cons, hones, hrest', hfiles']
    have hfirst : List.Forall₂ (imp.LoadsAs q.world) earlier first :=
      hfirstAs.imp fun _ _ h => h.mono (hafter.trans hlast)
    refine List.rel_append (gainsFailure_of_elsewhere hq (fun other h => ?_) hfirst)
      (.cons ⟨hmodules, hhere⟩ (gainsFailure_of_elsewhere hq (fun other h => ?_) hrestAs))
    · exact halike other (List.mem_append_left _ h)
    · exact halike other (List.mem_append_right _ h)

end Broken

end Importer

end TypeExport

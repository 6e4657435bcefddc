import TypeExport.Proofs.Renumbering.Running
import TypeExport.Proofs.Renumbering.Targets

/-!
# Imports and targets in worlds that mirror others

Two importers that differ in one file import the same modules and load the same other files, if no
module that runs imports that file.  The bound on how many modules run at once is never met.
-/

namespace TypeExport.Importer

variable {imp imp' : Importer} {runs : Location → Prop} {l : Location} {ρ τ : Nat ↪ Nat}
  {w w' : World} {name : String}
  {kept : List ModuleOutline} {running : List String} {load load' : String → Defines ModuleHandle}

/-- Running the file of a module, which is taken off the register if it fails. -/
theorem follows_runFile (hoff : imp.AgreesOff imp' l) (hclosed : imp.IsClosed runs) (hl : ¬runs l)
    {inner : List String} (hload : SourceModule.LoadsFollow imp runs l ρ τ kept inner load load')
    {k : Location} (hk : runs k) (hmirrors : w.Mirrors ρ τ w')
    (hw : imp.Consistent l kept inner w) (index : Nat)
    (hleave : ∀ v, imp.Consistent l kept inner v → imp.Consistent l kept running v)
    (hname : name ∉ running) :
    SourceModule.StepFollows imp l ρ τ kept running (imp.runFile load index name k)
      (imp'.runFile load' (τ index) name k) w w' := by
  unfold runFile
  refine Follows.tryCatch (P := fun _ v => imp.Consistent l kept inner v) ?_
    (fun _ v => hleave v) ?_
  · rw [hoff.sourceAt fun h => hl (h ▸ hk)]
    cases hmodule : imp.sourceAt k with
    | error f => exact follows_throw hmirrors hw
    | ok m =>
      obtain ⟨content, hcontent, hsource⟩ := exists_content_of_sourceAt hmodule
      exact SourceModule.follows_run hoff.installed hload (hclosed k content m hk hcontent hsource)
        hmirrors hw index name
  · intro f t t' _ (ht : t.Mirrors ρ τ t') htw
    refine Follows.bind (f := fun _ => id) (P := fun _ v => imp.Consistent l kept running v)
      (follows_modify (Nat.le_refl _) (ht.unregister name) ((hleave t htw).unregister hname)) ?_
      fun _ _ => id
    intro _ u _ u' _ hu _ huw
    exact follows_throw hu huw

/-- A module is bound in its package alike. -/
theorem follows_bindInOwner (hinstalled : imp'.installed = imp.installed)
    (hmirrors : w.Mirrors ρ τ w') (hw : imp.Consistent l kept running w) (name : String) :
    SourceModule.StepFollows imp l ρ τ kept running (modify (imp.bindInOwner · name))
      (modify (imp'.bindInOwner · name)) w w' := by
  have hbound : (imp.bindInOwner w name).Mirrors ρ τ (imp'.bindInOwner w' name) ∧
      imp.Consistent l kept running (imp.bindInOwner w name) := by
    unfold bindInOwner
    rw [registered?_mirrors hmirrors hinstalled]
    cases imp.registered? w (World.frontPart name) with
    | none => exact ⟨hmirrors, hw⟩
    | some h =>
      cases h with
      | outside _ => exact ⟨hmirrors, hw⟩
      | inside i => exact ⟨hmirrors.bind (fun _ _ => rfl) i _, hw.bind i _ _⟩
  exact follows_modify
    (Nat.le_of_eq (congrArg List.length (imp.classes_bindInOwner w name).symm)) hbound.1 hbound.2

/-- The end of an import. -/
theorem follows_finish (hinstalled : imp'.installed = imp.installed)
    (hmirrors : w.Mirrors ρ τ w') (hw : imp.Consistent l kept running w) (index : Nat)
    (name : String) :
    SourceModule.StepFollows imp l ρ τ kept running
      (do
        modify (·.changeModule index fun m => { m with ready := true })
        modify (imp.bindInOwner · name))
      (do
        modify (·.changeModule (τ index) fun m => { m with ready := true })
        modify (imp'.bindInOwner · name)) w w' := by
  refine Follows.bind (f := fun _ => id) (P := fun _ v => imp.Consistent l kept running v)
    (follows_modify (Nat.le_of_eq (congrArg List.length (w.classes_changeModule index _).symm))
      (hmirrors.changeModule (fun _ _ _ => rfl) index)
      (hw.changeModule (f := fun m => { m with ready := true }) (fun _ => rfl) index)) ?_
    fun _ _ => id
  intro _ t _ t' _ ht _ htw
  exact follows_bindInOwner hinstalled ht htw name

/-- A module is imported alike by importers that differ in a file which it does not reach. -/
theorem follows_importOne (hoff : imp.AgreesOff imp' l) (hclosed : imp.IsClosed runs) (hl : ¬runs l)
    (hload : ∀ inner, inner.length = running.length + 1 →
      SourceModule.LoadsFollow imp runs l ρ τ kept inner load load')
    (hname : imp.RunsOnly runs name) (hmirrors : w.Mirrors ρ τ w')
    (hw : imp.Consistent l kept running w) :
    SourceModule.StepFollows imp l ρ τ kept running (imp.importOne load name)
      (imp'.importOne load' name) w w' := by
  unfold importOne
  apply follows_get_bind
  dsimp only
  rw [registered?_mirrors hmirrors hoff.installed, Option.isNone_map]
  split
  · rename_i hnone
    have hnew : name ∉ running := fun hmem => by
      have hsome := hw.registered?_isSome (hw.registered name hmem)
      rw [Option.isNone_iff_eq_none.1 hnone] at hsome
      cases hsome
    refine (follows_ofWorld (f := fun _ => id) (x := fun w => imp.find w name)
      (Q := fun result v => w = v ∧ imp.find w name = result) hmirrors (fun σ _ => ?_)
      ⟨rfl, rfl⟩).bind ?_ fun _ v hv => hv.1 ▸ hw
    · rw [Except.map_id, id_eq]
      exact hoff.find hmirrors hw fun h => hl (hname l h)
    rintro found _ found' t' - ht hfound ⟨rfl, hfind⟩
    have ht : w.Mirrors ρ τ t' := ht
    obtain rfl : found' = found := hfound ρ ht.agrees
    cases found' with
    | none => exact follows_throw ht hw
    | some found =>
      have hplaced := isPlaced_of_find hw hfind
      obtain ⟨source, directories⟩ := found
      rw [← hmirrors.nextModule_eq]
      have hsource : source ≠ .file l := fun h => hl (hname l (hplaced.file l h).2)
      refine Follows.bind (f := fun _ => id)
        (P := fun _ v => imp.Consistent l kept running v ∧ (v.registry.lookup name).isSome)
        (follows_modify (Nat.le_refl _) (ht.addModule fun _ _ => rfl)
          ⟨hw.addModule hplaced.directories hsource, ?_⟩) ?_ fun _ _ hv => hv.1
      · show ((Keyed.put name w.modules.length w.registry).lookup name).isSome
        rw [Keyed.lookup_put, if_pos rfl]
        rfl
      rintro _ t _ t₁' - ht₁ - ⟨htw, hregistered⟩
      have hfinish : ∀ u u', (u : World).Mirrors ρ τ u' → imp.Consistent l kept running u → _ :=
        fun u u' hu huw => follows_finish hoff.installed hu huw w.modules.length name
      dsimp only
      cases source with
      | file k =>
        obtain ⟨⟨content, hk⟩, hreach⟩ := hplaced.file k rfl
        refine Follows.bind (f := fun _ => id) (follows_runFile hoff hclosed hl
          (hload (name :: running) rfl) (hname k hreach) ht₁
          (htw.start hnew hregistered hk hreach) w.modules.length (fun v hv => hv.finish) hnew) ?_
          fun _ _ => id
        intro _ u _ u' _ hu _ huw
        exact hfinish u u' hu huw
      | directories => exact hfinish t t₁' ht₁ htw
      | library => exact hfinish t t₁' ht₁ htw
  · exact follows_pure hmirrors (fun _ _ => rfl) hw

/-- So many modules cannot be running at once. -/
theorem length_running_lt (hw : imp.Consistent l kept running w) : running.length < imp.depth :=
  calc running.length
    _ ≤ imp.searchPath.length * (imp.files.entries.length * 2) :=
      length_le_of_reaches hw.nodup hw.reaching
    _ = 2 * imp.searchPath.length * imp.files.entries.length := by
      rw [← Nat.mul_assoc, Nat.mul_comm, ← Nat.mul_assoc]
    _ < imp.depth := Nat.lt_add_of_pos_right (by decide)

/-- More modules can be running where there are more files. -/
theorem AgreesOff.depth_le (hoff : imp.AgreesOff imp' l) : imp.depth ≤ imp'.depth := by
  unfold depth
  rw [hoff.searchPath]
  exact Nat.add_le_add_right (Nat.mul_le_mul_left _ hoff.entries) _

/-- Importing does the same in both worlds, whatever modules are running: where they are `running`,
the bound on the depth leaves as many steps as are needed. -/
theorem follows_importWithin (hoff : imp.AgreesOff imp' l) (hclosed : imp.IsClosed runs) (hl : ¬runs l)
    {further : Nat} (depth : Nat) :
    ∀ running : List String, running.length + depth = imp.depth →
      SourceModule.LoadsFollow imp runs l ρ τ kept running (imp.importWithin depth)
        (imp'.importWithin (depth + further)) := by
  induction depth with
  | zero =>
    intro running hlength source hsource w w' hmirrors hw
    have hlt := length_running_lt hw
    omega
  | succ depth ih =>
    intro running hlength source hsource w w' hmirrors hw
    rw [Nat.succ_add, importWithin, importWithin]
    apply follows_get_bind
    have hpending : imp'.pending w' source = imp.pending w source := by
      unfold pending
      simp only [registered?_mirrors hmirrors hoff.installed, Option.isNone_map]
    rw [hpending]
    refine Follows.bind (f := fun _ => id) (P := fun _ v => imp.Consistent l kept running v)
      (follows_forIn (fun n hn v v' _ hv hvw => ?_) hmirrors hw) ?_
      fun _ _ hv => ⟨hv, fun _ h => by cases h⟩
    · have hmem : n ∈ namesAbove source :=
        List.mem_reverse.1 ((List.takeWhile_prefix _).subset (List.mem_reverse.1 hn))
      refine (follows_importOne hoff hclosed hl (fun inner hinner => ih inner (by omega))
        (hsource n hmem) hv hvw).bind ?_ fun _ _ => id
      intro _ u _ u' _ hu _ huw
      exact follows_pure hu (fun _ _ => rfl) huw
    · intro _ v _ v' _ hv _ hvw
      apply follows_get_bind
      have hv : v.Mirrors ρ τ v' := hv
      rw [registered?_mirrors hv hoff.installed]
      cases hregistered : imp.registered? v source with
      | none => exact follows_throw hv ⟨hvw, fun _ h => by cases h⟩
      | some h =>
        refine follows_pure hv (fun _ _ => rfl) ⟨hvw, fun h' hsame => ?_⟩
        cases hsame
        exact hregistered

/-- Loading another file ends alike in both worlds, and gives its module. -/
theorem follows_loadFile (hoff : imp.AgreesOff imp' l) (hclosed : imp.IsClosed runs) (hl : ¬runs l)
    {k : Location} (hk : runs k)
    (hmirrors : w.Mirrors ρ τ w') (hw : imp.Consistent l kept [] w) :
    Follows id ρ τ (fun _ => ModuleHandle.renumber τ)
      (fun result v => imp.Consistent l kept [] v ∧ ∀ h, result = .ok h →
        ∃ i o, h = .inside i ∧ v.outlines[i]? = some o ∧ o.source = .file k)
      (imp.loadFile k) (imp'.loadFile k) w w' := by
  have hname : imp'.fileModuleName w' k = imp.fileModuleName w k := by
    unfold fileModuleName
    dsimp only
    rw [registered?_mirrors hmirrors hoff.installed, hoff.digest]
    cases imp.registered? w (Path.stem (k.getLast?.getD "")) with
    | none => rfl
    | some h =>
      cases h with
      | outside _ => rfl
      | inside i =>
        simp only [Option.map_some, ModuleHandle.renumber, hmirrors.module? ρ hmirrors.agrees,
          Option.any_map]
        rfl
  unfold loadFile
  apply follows_get_bind
  dsimp only
  rw [hname, ← hmirrors.nextModule_eq]
  split
  · exact follows_throw hmirrors ⟨hw, fun _ h => by cases h⟩
  · let m : ImportedModule :=
      { name := imp.fileModuleName w k, source := .file k, directories := none, names := [],
        ready := true }
    have hother : k ≠ l := fun h => hl (h ▸ hk)
    have hadded : imp.Consistent l (w.addModule m).outlines [] (w.addModule m) :=
      (hw.addModule (fun _ h => by cases h) fun h =>
        hother (ModuleSource.file.inj h)).keepAll
    have hkept : kept <+: (w.addModule m).outlines :=
      hw.prior.trans (World.outlines_addModule w m ▸ List.prefix_append _ _)
    have hlast : (w.addModule m).outlines[w.modules.length]? = some m.outline := by
      have hlength : w.outlines.length = w.modules.length := List.length_map _
      rw [World.outlines_addModule, ← hlength, List.getElem?_concat_length]
    refine Follows.bind (f := fun _ => id)
      (P := fun _ v => imp.Consistent l (w.addModule m).outlines [] v)
      (follows_modify (Nat.le_refl _) (hmirrors.addModule fun _ _ => rfl) hadded) ?_
      fun _ _ hv => ⟨hv.mono hkept, fun _ h => by cases h⟩
    intro _ t _ t' _ ht _ htw
    have hload : SourceModule.LoadsFollow imp runs l ρ τ (w.addModule m).outlines []
        (imp.importWithin imp.depth) (imp'.importWithin imp'.depth) := by
      rw [← Nat.add_sub_cancel' hoff.depth_le]
      exact follows_importWithin hoff hclosed hl imp.depth [] (Nat.zero_add _)
    refine Follows.bind (f := fun _ => id) (follows_runFile hoff hclosed hl hload hk ht htw
      w.modules.length (fun v hv => hv) List.not_mem_nil) ?_
      fun _ _ hv => ⟨hv.mono hkept, fun _ h => by cases h⟩
    intro _ u _ u' _ hu _ huw
    refine follows_pure hu (fun _ _ => rfl) ⟨huw.mono hkept, fun h hsame => ?_⟩
    cases hsame
    obtain ⟨hlt, -⟩ := List.getElem?_eq_some_iff.1 hlast
    obtain ⟨more, hmore⟩ := huw.prior
    refine ⟨_, m.outline, rfl, ?_, rfl⟩
    rw [← hmore, List.getElem?_append_left hlt, hlast]

end TypeExport.Importer

/-!
## Loaded targets

What is loaded tells which files of a directory there were: those of its modules, and those that failed.
-/

namespace TypeExport

def ModuleHandle.source? (w : World) : ModuleHandle → Option ModuleSource
  | .outside _ => none
  | .inside index => (w.modules[index]?).map (·.source)

namespace LoadedTarget

/-- The files of a directory and whether each of them was loaded: the modules are those of the files
that were, and the failures are the paths of the others, in the order of the files. -/
structure Records (w : World) (directory : Location) (outcomes : List (String × Bool))
    (t : LoadedTarget) : Prop where
  modules : t.modules.map (·.source? w) =
    (outcomes.filter (·.2)).map fun outcome => some (.file (directory ++ [outcome.1]))
  failures : t.failures = (outcomes.filter (!·.2)).map fun outcome =>
    (Path.ofLocation (directory ++ [outcome.1])).text

/-- All modules of the target are there. -/
def StandsIn (w : World) (t : LoadedTarget) : Prop :=
  ∀ h ∈ t.modules, (h.source? w).isSome

end LoadedTarget

variable {ε S α β : Type} {ρ τ τ' : Nat ↪ Nat} {w w' v : World} {directory : Location}
  {outcomes : List (String × Bool)} {t : LoadedTarget}

namespace ModuleHandle

theorem source?_mirrors (h : w.Mirrors ρ τ w') (m : ModuleHandle) :
    (m.renumber τ).source? w' = m.source? w := by
  cases m with
  | outside name => rfl
  | inside i =>
    show (w'.modules[τ i]?).map _ = (w.modules[i]?).map _
    rw [h.module? ρ h.agrees]
    cases w.modules[i]? <;> rfl

/-- What a module comes from does not change when modules are added. -/
theorem source?_of_prefix (h : w.outlines <+: v.outlines) {m : ModuleHandle} {source : ModuleSource}
    (hm : m.source? w = some source) : m.source? v = some source := by
  have houtlines : ∀ (w : World) (i : Nat),
      (w.modules[i]?).map (·.source) = (w.outlines[i]?).map (·.source) := by
    intro w i
    unfold World.outlines
    rw [List.getElem?_map, Option.map_map]
    rfl
  cases m with
  | outside name => cases hm
  | inside i =>
    unfold source? at hm ⊢
    dsimp only at hm ⊢
    rw [houtlines] at hm ⊢
    obtain ⟨o, ho, hsource⟩ := Option.map_eq_some_iff.1 hm
    obtain ⟨hlt, -⟩ := List.getElem?_eq_some_iff.1 ho
    obtain ⟨more, hmore⟩ := h
    rw [← hmore, List.getElem?_append_left hlt, ho, Option.map_some, hsource]

/-- Numbers that agree on the modules that are there. -/
theorem renumber_congr (h : ∀ i < w.modules.length, τ' i = τ i) {m : ModuleHandle}
    (hm : (m.source? w).isSome) : m.renumber τ' = m.renumber τ := by
  cases m with
  | outside name => rfl
  | inside i =>
    obtain ⟨o, ho, -⟩ := Option.map_eq_some_iff.1 (Option.isSome_iff_exists.1 hm).choose_spec
    exact congrArg inside (h i (List.getElem?_eq_some_iff.1 ho).1)

end ModuleHandle

namespace LoadedTarget

theorem records_nil (w : World) (directory : Location) (target : Target) :
    Records w directory [] { target } where
  modules := rfl
  failures := rfl

theorem renumber_congr (h : ∀ i < w.modules.length, τ' i = τ i) (ht : t.StandsIn w) :
    t.renumber τ' = t.renumber τ := by
  unfold renumber
  exact congrArg (fun modules => { t with modules })
    (List.map_congr_left fun m hm => ModuleHandle.renumber_congr h (ht m hm))

namespace Records

theorem standsIn (ht : t.Records w directory outcomes) : t.StandsIn w := by
  intro m hm
  have hmem : m.source? w ∈ t.modules.map (·.source? w) := List.mem_map_of_mem hm
  rw [ht.modules] at hmem
  obtain ⟨outcome, -, hsource⟩ := List.mem_map.1 hmem
  rw [← hsource]
  rfl

theorem mono (ht : t.Records w directory outcomes) (h : w.outlines <+: v.outlines) :
    t.Records v directory outcomes where
  modules := by
    rw [← ht.modules]
    refine List.map_congr_left fun m hm => ?_
    obtain ⟨source, hsource⟩ := Option.isSome_iff_exists.1 (ht.standsIn m hm)
    rw [hsource, ModuleHandle.source?_of_prefix h hsource]
  failures := ht.failures

theorem renumber (ht : t.Records w directory outcomes) (h : w.Mirrors ρ τ w') :
    (t.renumber τ).Records w' directory outcomes where
  modules := by
    rw [← ht.modules]
    show (t.modules.map _).map _ = _
    rw [List.map_map]
    exact List.map_congr_left fun m _ => ModuleHandle.source?_mirrors h m
  failures := ht.failures

theorem addModule (ht : t.Records w directory outcomes) {name : String} {m : ModuleHandle}
    (hm : m.source? w = some (.file (directory ++ [name]))) :
    (t.addModule m).Records w directory (outcomes ++ [(name, true)]) where
  modules := by
    show (t.modules ++ [m]).map _ = _
    rw [List.map_append, ht.modules, List.filter_append, List.map_append, List.map_singleton, hm]
    rfl
  failures := by
    show t.failures = _
    rw [ht.failures, List.filter_append]
    simp

theorem addFailure (ht : t.Records w directory outcomes) (name : String) :
    (t.addFailure (Path.ofLocation (directory ++ [name])).text).Records w directory
      (outcomes ++ [(name, false)]) where
  modules := by
    show t.modules.map _ = _
    rw [ht.modules, List.filter_append]
    simp
  failures := by
    show t.failures ++ _ = _
    rw [ht.failures, List.filter_append, List.map_append]
    rfl

end Records

end LoadedTarget

/-- When the first action succeeds, the second one does. -/
theorem Follows.gives {world : S → World} {f : (Nat ↪ Nat) → α → α} {P : Except ε α → S → Prop}
    {x x' : ExceptT ε (StateM S) α} {s s' t : S} {a : α} (h : Follows world ρ τ f P x x' s s')
    (hx : Gives x s a t) :
    ∃ t', Gives x' s' (f ρ a) t' ∧ (world t).Mirrors ρ τ (world t') ∧ P (.ok a) t := by
  obtain ⟨u, t', -, hmirrors, h | h⟩ := h.runs
  · obtain ⟨e, hs, -⟩ := h
    unfold Gives at hx
    rw [hs] at hx
    cases hx
  · obtain ⟨b, b', hs, hs', hP, hb⟩ := h
    obtain ⟨rfl, rfl⟩ := hx.unique hs
    refine ⟨t', ?_, hmirrors, hP⟩
    rw [← hb ρ hmirrors.agrees]
    exact hs'

namespace Loads

variable {f : (Nat ↪ Nat) → α → α} {P : Except Failure α → World → Prop} {d d' : Defines α}
  {p p' : Progress}

/-- A failure that is not ordinary ends the scan. -/
def ofPart : Except Failure α → Except ScanError (Except Failure α)
  | .ok a => .ok (.ok a)
  | .error f => if f.isOrdinary then .ok (.error f) else .error (.source f)

/-- A part of a scan runs as a definition does, and only ordinary failures are kept. -/
theorem part_run (d : Defines α) (p : Progress) :
    (part d).run.run p =
      (ofPart (d.run.run p.world).1, { p with world := (d.run.run p.world).2 }) := by
  have hattempt : (attempt d).run.run p =
      (.ok (d.run.run p.world).1, { p with world := (d.run.run p.world).2 }) := rfl
  unfold part
  rw [ExceptT.run_bind, StateT.run_bind, hattempt]
  cases (d.run.run p.world).1 with
  | ok a => rfl
  | error f =>
    show (if f.isOrdinary then pure (.error f) else throw (.source f) :
      Loads (Except Failure α)).run.run _ = (ite _ _ _, _)
    split <;> rfl

/-- Parts of targets follow one another as their definitions do. -/
theorem follows_part (h : Follows id ρ τ f P d d' p.world p'.world) :
    Follows Progress.world ρ τ (fun σ => Except.map (f σ))
      (fun result q => ∀ r, result = .ok r → P r q.world) (part d) (part d') p p' where
  grows := by
    rw [part_run]
    exact h.grows
  mirrors := by
    rw [part_run, part_run]
    exact h.mirrors
  result σ hσ := by
    rw [part_run] at hσ
    rw [part_run, part_run, h.result σ hσ]
    cases (d.run.run p.world).1 with
    | ok a => rfl
    | error e =>
      show ite _ _ _ = (ite _ _ _ : Except ScanError (Except Failure α)).map _
      split <;> rfl
  ends := by
    have hends := h.ends
    unfold Ends at hends ⊢
    rw [part_run]
    intro r hr
    cases hresult : (d.run.run p.world).1 with
    | ok a =>
      rw [hresult] at hr hends
      cases hr
      exact hends
    | error e =>
      rw [hresult] at hr hends
      unfold ofPart at hr
      dsimp only at hr
      split at hr
      · cases hr
        exact hends
      · cases hr

theorem follows_report {P : Except ScanError Unit → Progress → Prop}
    (hmirrors : p.world.Mirrors ρ τ p'.world) (line line' : LogLine)
    (hP : P (.ok ⟨⟩) { p with log := p.log ++ [line] }) :
    Follows Progress.world ρ τ (fun _ => id) P (report line) (report line') p p' :=
  follows_modify (Nat.le_refl _) hmirrors hP

end Loads

namespace Importer

variable {imp imp' : Importer} {runs : Location → Prop} {l : Location} {kept : List ModuleOutline}
  {p p' : Progress}

/-- What a target is loaded as: a directory with its public files, and a file as itself. -/
def LoadsAs (imp : Importer) (w : World) (target : Target) (t : LoadedTarget) : Prop :=
  t.target = target ∧
    match target.kind, target.origin with
    | .directory, .place directory => ∃ outcomes, outcomes.map (·.1) = imp.publicFiles directory ∧
        t.Records w directory outcomes
    | .file, .place k => t.modules.map (·.source? w) = [some (.file k)] ∧ t.failures = []
    | _, _ => False

theorem LoadsAs.standsIn {target : Target} (ht : imp.LoadsAs w target t) : t.StandsIn w := by
  obtain ⟨-, ht⟩ := ht
  split at ht
  · obtain ⟨outcomes, -, hrecords⟩ := ht
    exact hrecords.standsIn
  · intro m hm
    have hmem : m.source? w ∈ t.modules.map (·.source? w) := List.mem_map_of_mem hm
    rw [ht.1] at hmem
    rw [List.mem_singleton.1 hmem]
    rfl
  · exact ht.elim

/-- A loaded target stays what it is when modules are added. -/
theorem LoadsAs.mono {target : Target} (ht : imp.LoadsAs w target t)
    (h : w.outlines <+: v.outlines) : imp.LoadsAs v target t := by
  have hstands := ht.standsIn
  obtain ⟨htarget, ht⟩ := ht
  refine ⟨htarget, ?_⟩
  split at ht
  · obtain ⟨outcomes, hnames, hrecords⟩ := ht
    exact ⟨outcomes, hnames, hrecords.mono h⟩
  · refine ⟨?_, ht.2⟩
    rw [← ht.1]
    refine List.map_congr_left fun m hm => ?_
    obtain ⟨source, hsource⟩ := Option.isSome_iff_exists.1 (hstands m hm)
    rw [hsource, ModuleHandle.source?_of_prefix h hsource]
  · exact ht

/-- The files that are loaded for a target at a path. -/
def IsFileOf (imp : Importer) (target : Target) (k : Location) : Prop :=
  match target.kind, target.origin with
  | .directory, .place directory => ∃ name ∈ imp.publicFiles directory, k = directory ++ [name]
  | .file, .place place => k = place
  | _, _ => False

/-- A target at a path with the same files for both importers. -/
def ReadsAlike (imp imp' : Importer) (target : Target) : Prop :=
  match target.kind, target.origin with
  | .directory, .place directory => imp'.publicFiles directory = imp.publicFiles directory
  | .file, .place _ => True
  | _, _ => False

section Alike

variable (hoff : imp.AgreesOff imp' l) (hclosed : imp.IsClosed runs) (hl : ¬runs l)
include hoff hclosed hl

/-- A file that is loaded for a target. -/
theorem follows_partFile {k : Location} (hk : runs k) (hmirrors : p.world.Mirrors ρ τ p'.world)
    (hw : imp.Consistent l kept [] p.world) :
    Follows Progress.world ρ τ (fun _ => Except.map (ModuleHandle.renumber τ))
      (fun result q => ∀ r, result = .ok r → imp.Consistent l kept [] q.world ∧
        p.world.outlines <+: q.world.outlines ∧
        ∀ h, r = .ok h → h.source? q.world = some (.file k))
      (Loads.part (imp.loadFile k)) (Loads.part (imp'.loadFile k)) p p' := by
  refine (Loads.follows_part
    (follows_loadFile hoff hclosed hl hk hmirrors hw.keepAll)).imp ?_
  intro result q hq r hr
  obtain ⟨hconsistent, hmodule⟩ := hq r hr
  refine ⟨hconsistent.mono hw.prior, hconsistent.prior, fun h hh => ?_⟩
  obtain ⟨i, o, rfl, ho, hsource⟩ := hmodule h hh
  rw [World.outlines, List.getElem?_map, Option.map_eq_some_iff] at ho
  obtain ⟨m, hm, rfl⟩ := ho
  show (q.world.modules[i]?).map _ = _
  rw [hm, Option.map_some]
  exact congrArg some hsource

/-- The files of a directory. -/
theorem follows_loadFiles {names : List String} (hnames : ∀ name ∈ names, runs (directory ++ [name]))
    (hmirrors : p.world.Mirrors ρ τ p'.world) (hw : imp.Consistent l kept [] p.world)
    (ht : t.Records p.world directory outcomes) :
    Follows Progress.world ρ τ (fun _ => LoadedTarget.renumber τ)
      (fun result q => ∀ t', result = .ok t' → imp.Consistent l kept [] q.world ∧
        p.world.outlines <+: q.world.outlines ∧ t'.target = t.target ∧
        ∃ more, more.map (·.1) = names ∧ t'.Records q.world directory (outcomes ++ more))
      (imp.loadFiles directory t names) (imp'.loadFiles directory (t.renumber τ) names) p p' := by
  induction names generalizing t p p' outcomes with
  | nil =>
    refine follows_pure hmirrors (fun _ _ => rfl) fun t' ht' => ?_
    cases ht'
    exact ⟨hw, List.prefix_refl _, rfl, [], rfl, by rwa [List.append_nil]⟩
  | cons name rest ih =>
    rw [loadFiles, loadFiles]
    refine (follows_partFile hoff hclosed hl (hnames name List.mem_cons_self) hmirrors
      hw).bind ?_ fun _ _ _ _ h => by cases h
    intro r q r' q' _ (hq : q.world.Mirrors ρ τ q'.world) hr hpost
    obtain ⟨hqw, hmore, hsource⟩ := hpost r rfl
    obtain rfl : r' = r.map (ModuleHandle.renumber τ) := hr ρ hq.agrees
    have hrest : ∀ name ∈ rest, runs (directory ++ [name]) :=
      fun name hname => hnames name (List.mem_cons_of_mem _ hname)
    have hbefore : t.Records q.world directory outcomes := ht.mono hmore
    cases r with
    | ok h =>
      have hthis := hbefore.addModule (hsource h rfl)
      have hsame : (t.renumber τ).addModule (h.renumber τ) = (t.addModule h).renumber τ := by
        unfold LoadedTarget.addModule LoadedTarget.renumber
        rw [List.map_append]
        rfl
      show Follows _ _ _ _ _ (imp.loadFiles directory (t.addModule h) rest)
        (imp'.loadFiles directory ((t.renumber τ).addModule (h.renumber τ)) rest) q q'
      rw [hsame]
      refine (ih hrest hq hqw hthis).imp fun result u hu t' ht' => ?_
      obtain ⟨huw, hlater, htarget, more, hmap, hrecords⟩ := hu t' ht'
      refine ⟨huw, hmore.trans hlater, htarget, (name, true) :: more, by rw [List.map_cons, hmap], ?_⟩
      rwa [List.append_assoc] at hrecords
    | error f =>
      refine Follows.bind (f := fun _ => id) (P := fun _ u => u.world = q.world)
        (Loads.follows_report hq _ _ rfl) ?_ fun _ _ _ _ h => by cases h
      intro _ u _ u' _ hu _ (huq : u.world = q.world)
      have hthis := hbefore.addFailure name
      rw [← huq] at hthis hqw
      refine (ih hrest hu hqw hthis).imp fun result v hv t' ht' => ?_
      obtain ⟨hvw, hlater, htarget, more, hmap, hrecords⟩ := hv t' ht'
      refine ⟨hvw, hmore.trans (huq ▸ hlater), htarget, (name, false) :: more,
        by rw [List.map_cons, hmap], ?_⟩
      rwa [List.append_assoc] at hrecords

/-- A directory with the same files for both importers. -/
theorem follows_loadDirectory (target : Target)
    (hfiles : imp'.publicFiles directory = imp.publicFiles directory)
    (hnames : ∀ name ∈ imp.publicFiles directory, runs (directory ++ [name]))
    (hmirrors : p.world.Mirrors ρ τ p'.world) (hw : imp.Consistent l kept [] p.world) :
    Follows Progress.world ρ τ (fun _ => LoadedTarget.renumber τ)
      (fun result q => ∀ t', result = .ok t' → imp.Consistent l kept [] q.world ∧
        p.world.outlines <+: q.world.outlines ∧ t'.target = target ∧
        ∃ outcomes, outcomes.map (·.1) = imp.publicFiles directory ∧
          t'.Records q.world directory outcomes)
      (imp.loadDirectory target directory) (imp'.loadDirectory target directory) p p' := by
  have hload : ∀ {q q' : Progress}, q.world.Mirrors ρ τ q'.world → q.world = p.world → _ :=
    fun {q _} hq (hqp : q.world = p.world) =>
      follows_loadFiles hoff hclosed hl hnames hq (hqp ▸ hw)
        (LoadedTarget.records_nil q.world directory target)
  unfold loadDirectory
  dsimp only
  rw [hfiles]
  split
  · refine Follows.bind (f := fun _ => id) (P := fun _ u => u.world = p.world)
      (Loads.follows_report hmirrors _ _ rfl) ?_ fun _ _ _ _ h => by cases h
    intro _ u _ u' _ hu _ (hup : u.world = p.world)
    have h := hload hu hup
    rw [hup] at h
    exact h
  · exact hload hmirrors rfl

/-- A target with the same files for both importers. -/
theorem follows_loadTarget {target : Target} (htarget : imp.ReadsAlike imp' target)
    (hruns : ∀ k, imp.IsFileOf target k → runs k)
    (hmirrors : p.world.Mirrors ρ τ p'.world) (hw : imp.Consistent l kept [] p.world) :
    Follows Progress.world ρ τ (fun _ => LoadedTarget.renumber τ)
      (fun result q => ∀ t', result = .ok t' → imp.Consistent l kept [] q.world ∧
        p.world.outlines <+: q.world.outlines ∧ imp.LoadsAs q.world target t')
      (imp.loadTarget target) (imp'.loadTarget target) p p' := by
  obtain ⟨text, kind, origin⟩ := target
  unfold ReadsAlike at htarget
  dsimp only at htarget
  split at htarget
  · refine (follows_loadDirectory hoff hclosed hl _ htarget
      (fun name hname => hruns _ ⟨name, hname, rfl⟩) hmirrors hw).imp ?_
    intro result q hq t' ht'
    obtain ⟨hqw, hmore, hsame, hrecords⟩ := hq t' ht'
    exact ⟨hqw, hmore, hsame, hrecords⟩
  · unfold loadTarget
    dsimp only
    refine (follows_partFile hoff hclosed hl (hruns _ rfl) hmirrors hw).bind ?_
      fun _ _ _ _ h => by cases h
    intro r q r' q' _ (hq : q.world.Mirrors ρ τ q'.world) hr hpost
    obtain ⟨hqw, hmore, hsource⟩ := hpost r rfl
    obtain rfl : r' = r.map (ModuleHandle.renumber τ) := hr ρ hq.agrees
    cases r with
    | error f => exact follows_throw hq fun _ h => by cases h
    | ok h =>
      refine follows_pure hq (fun _ _ => rfl) fun t' ht' => ?_
      cases ht'
      refine ⟨hqw, hmore, rfl, ?_, rfl⟩
      rw [List.map_singleton, hsource h rfl]
  · exact htarget.elim

/-- Targets with the same files for both importers, one after the other. -/
theorem follows_loadTargets {targets : List Target}
    (htargets : ∀ target ∈ targets, imp.ReadsAlike imp' target ∧
      ∀ k, imp.IsFileOf target k → runs k)
    (hmirrors : p.world.Mirrors ρ τ p'.world) (hw : imp.Consistent l kept [] p.world) :
    Follows Progress.world ρ τ (fun _ => List.map (LoadedTarget.renumber τ))
      (fun result q => ∀ loaded, result = .ok loaded → imp.Consistent l kept [] q.world ∧
        p.world.outlines <+: q.world.outlines ∧
        List.Forall₂ (imp.LoadsAs q.world) targets loaded)
      (targets.mapM imp.loadTarget) (targets.mapM imp'.loadTarget) p p' := by
  induction targets generalizing p p' with
  | nil =>
    refine follows_pure hmirrors (fun _ _ => rfl) fun loaded h => ?_
    cases h
    exact ⟨hw, List.prefix_refl _, .nil⟩
  | cons target rest ih =>
    rw [List.mapM_cons, List.mapM_cons]
    obtain ⟨hread, hruns⟩ := htargets target List.mem_cons_self
    refine (follows_loadTarget hoff hclosed hl hread hruns hmirrors hw).bind ?_
      fun _ _ _ _ h => by cases h
    intro t q t' q' _ (hq : q.world.Mirrors ρ τ q'.world) ht hpost
    obtain ⟨hqw, hmore, hfirst⟩ := hpost t rfl
    obtain rfl : t' = t.renumber τ := ht ρ hq.agrees
    refine (ih (fun target h => htargets target (List.mem_cons_of_mem _ h)) hq hqw).bind ?_
      fun _ _ _ _ h => by cases h
    intro loaded u loaded' u' _ (hu : u.world.Mirrors ρ τ u'.world) hloaded hrest
    obtain ⟨huw, hlater, hall⟩ := hrest loaded rfl
    obtain rfl : loaded' = loaded.map (LoadedTarget.renumber τ) := hloaded ρ hu.agrees
    refine follows_pure hu (fun _ _ => rfl) fun result h => ?_
    cases h
    exact ⟨huw, hmore.trans hlater, .cons (hfirst.mono hlater) hall⟩

end Alike

end Importer

end TypeExport

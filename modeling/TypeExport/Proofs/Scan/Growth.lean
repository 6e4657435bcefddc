import Mathlib.Order.Defs.Unbundled
import TypeExport.Proofs.Action
import TypeExport.Proofs.Scan.FirstIndex
import TypeExport.Scan.Import

/-!
# What imports keep

An import runs modules, which define classes, give names their values and import further modules.  A
relation between the world before and the world after holds for every import, whether it succeeds or
fails, if it holds for these steps, and for a module that joins the world and is taken off the register
again when it fails.
-/

namespace TypeExport

/-- Whatever the action ends with, the state that it leaves is related to the one it starts in. -/
def Keeps {ε σ α : Type} (R : σ → σ → Prop) (x : ExceptT ε (StateM σ) α) : Prop :=
  ∀ s, Ends x s fun _ t => R s t

section Actions

variable {ε σ α β : Type} {R : σ → σ → Prop}

theorem keeps_modify {f : σ → σ} (h : ∀ s, R s (f s)) :
    Keeps R (modify f : ExceptT ε (StateM σ) PUnit) :=
  h

variable [IsPreorder σ R]

theorem keeps_pure (a : α) : Keeps R (pure a : ExceptT ε (StateM σ) α) :=
  fun s => refl_of R s

theorem keeps_throw (e : ε) : Keeps R (throw e : ExceptT ε (StateM σ) α) :=
  fun s => refl_of R s

theorem keeps_get : Keeps R (get : ExceptT ε (StateM σ) σ) :=
  fun s => refl_of R s

/-- An action that only reads the state. -/
theorem keeps_mk {f : σ → Except ε α} :
    Keeps R (ExceptT.mk fun s => (f s, s) : ExceptT ε (StateM σ) α) :=
  fun s => refl_of R s

theorem Keeps.bind {x : ExceptT ε (StateM σ) α} {f : α → ExceptT ε (StateM σ) β}
    (hx : Keeps R x) (hf : ∀ a, Keeps R (f a)) : Keeps R (x >>= f) := by
  intro s
  apply (hx s).bind
  · intro a t ht
    exact (hf a t).imp fun _ _ hu => trans_of R ht hu
  · exact fun _ _ ht => ht

theorem Keeps.tryCatch {x : ExceptT ε (StateM σ) α} {handler : ε → ExceptT ε (StateM σ) α}
    (hx : Keeps R x) (hhandler : ∀ e, Keeps R (handler e)) : Keeps R (tryCatch x handler) := by
  intro s
  rw [ends_tryCatch_iff]
  refine (hx s).imp fun result t ht => ?_
  cases result with
  | ok a => exact ht
  | error e => exact (hhandler e t).imp fun _ _ hu => trans_of R ht hu

theorem keeps_forIn {γ : Type} {l : List γ} {f : γ → PUnit → ExceptT ε (StateM σ) (ForInStep PUnit)}
    (h : ∀ c, Keeps R (f c ⟨⟩)) : Keeps R (forIn l PUnit.unit f) := by
  induction l with
  | nil => exact keeps_pure PUnit.unit
  | cons c rest ih =>
    rw [List.forIn_cons]
    apply (h c).bind
    intro step
    cases step with
    | done b => exact keeps_pure b
    | yield b => exact ih

theorem keeps_mapM {γ : Type} {l : List γ} {f : γ → ExceptT ε (StateM σ) α}
    (h : ∀ c, Keeps R (f c)) : Keeps R (l.mapM f) := by
  induction l with
  | nil =>
    rw [List.mapM_nil]
    exact keeps_pure []
  | cons c rest ih =>
    rw [List.mapM_cons]
    exact (h c).bind fun a => ih.bind fun more => keeps_pure (a :: more)

end Actions

/-- A relation between worlds that holds for the steps of imports.  A module only joins the world if its
name is not registered and leads to it; whatever runs then, it may be taken off the register. -/
structure Importer.KeptByImports (imp : Importer) (R : World → World → Prop) : Prop where
  addClass : ∀ w info, R w (w.addClass info)
  bind : ∀ w index name value, R w (w.bind index name value)
  ready : ∀ w index, R w (w.changeModule index fun m => { m with ready := true })
  imported : ∀ {w v : World} {m : ImportedModule} {found : FoundModule},
    imp.registered? w m.name = none → imp.find w m.name = .ok (some found) →
      R (w.addModule m) v → R w v ∧ R w (v.unregister m.name)

variable {imp : Importer} {R : World → World → Prop} [IsPreorder World R]
  {load : String → Defines ModuleHandle}

section Definitions

variable {α : Type}

theorem keeps_ofWorld (f : World → Except Failure α) : Keeps R (Defines.ofWorld f) :=
  keeps_get.bind fun w => keeps_mk (f := fun _ => f w)

theorem ends_ofWorld_iff {f : World → Except Failure α} {w : World}
    {Q : Except Failure α → World → Prop} : Ends (Defines.ofWorld f) w Q ↔ Q (f w) w :=
  Iff.rfl

omit [IsPreorder World R] in
theorem Importer.KeptByImports.bindName (hR : imp.KeptByImports R) (index : Nat) (name : String)
    (value : Hint) : Keeps R (modify (·.bind index name value) : Defines PUnit) :=
  keeps_modify fun w => hR.bind w index name value

namespace ClassDefinition

/-- The new class comes last. -/
theorem keeps_make (hR : imp.KeptByImports R) (scope : Scope) (definition : ClassDefinition)
    (written : List Hint) (bases : List ClassRef) (metaclass : String) (body : ClassBody) :
    Keeps R (make scope definition written bases metaclass body) := by
  intro w
  have hread : ∀ {β : Type} (f : World → Except Failure β),
      Ends (Defines.ofWorld f) w fun _ v => w = v := fun f => by
    unfold Defines.ofWorld
    rw [ends_bind_iff, ends_get_iff]
    rfl
  have hfails : ∀ (e : Failure) (v : World), w = v → R w v := by
    rintro e _ rfl
    exact refl_of R w
  unfold make
  rw [ends_bind_iff, ends_get_iff]
  apply (hread _).bind _ hfails
  rintro actual _ rfl
  apply (hread _).bind _ hfails
  rintro frame _ rfl
  refine Ends.bind (P := fun _ v => w = v) ?_ ?_ hfails
  · rfl
  rintro finished _ rfl
  exact hR.addClass w _

mutual

/-- What imports keep, the definition of a class keeps. -/
theorem keeps_define (hR : imp.KeptByImports R) (scope : Scope) :
    ∀ definition, Keeps R (define scope definition)
  | .mk name form bases parameters marker fields members nested abstractMethods methods table
      admitsUnmapped => by
    rw [define]
    apply (keeps_ofWorld _).bind
    intro written
    apply (keeps_ofWorld _).bind
    intro resolved
    apply (keeps_ofWorld _).bind
    intro metaclass
    apply (keeps_defineAll hR (scope.within name) name nested).bind
    intro inside
    apply (keeps_ofWorld _).bind
    intro body
    exact keeps_make hR _ _ _ _ _ _

/-- So do the definitions of a list of classes. -/
theorem keeps_defineAll (hR : imp.KeptByImports R) (scope : Scope) (owner : String) :
    ∀ definitions, Keeps R (defineAll scope owner definitions)
  | [] => by
    rw [defineAll]
    exact keeps_pure _
  | d :: rest => by
    rw [defineAll]
    apply (keeps_define hR scope d).bind
    intro c
    apply (keeps_defineAll hR _ owner rest).bind
    intro others
    exact keeps_pure _

end

end ClassDefinition

end Definitions

namespace SourceModule

theorem keeps_loadInside (hload : ∀ name, Keeps R (load name)) (package name : String) :
    Keeps R (loadInside load package name) := by
  unfold loadInside
  apply Keeps.tryCatch
  · exact (hload _).bind fun _ => keeps_pure _
  · intro f
    split
    · exact keeps_throw f
    · exact keeps_pure _

theorem keeps_importedValue (imp : Importer) (h : ModuleHandle) (name : String) :
    Keeps R (importedValue imp h name) := by
  unfold importedValue
  apply keeps_get.bind
  intro w
  split
  · exact keeps_pure _
  · dsimp only
    split
    · exact keeps_pure _
    · exact keeps_throw _

theorem foldl_bind_kept (hR : imp.KeptByImports R) (index : Nat) (names : List (String × Hint))
    (w : World) : R w (names.foldl (fun w entry => w.bind index entry.1 entry.2) w) := by
  induction names generalizing w with
  | nil => exact refl_of R w
  | cons entry rest ih => exact trans_of R (hR.bind w index entry.1 entry.2) (ih _)

/-- Imports one name, or all public names of the module. -/
def importName (imp : Importer) (index : Nat) (h : ModuleHandle) (entry : String × String) :
    Defines (ForInStep PUnit) := do
  if entry.1 = "*" then
    let w ← get
    set ((h.publicNames w).foldl (fun w entry => w.bind index entry.1 entry.2) w)
    pure (.yield ⟨⟩)
  else
    let v ← importedValue imp h entry.1
    modify (·.bind index entry.2 v)
    pure (.yield ⟨⟩)

theorem keeps_importName (hR : imp.KeptByImports R) (index : Nat) (h : ModuleHandle)
    (entry : String × String) : Keeps R (importName imp index h entry) := by
  unfold importName
  split
  · intro w
    exact foldl_bind_kept hR index _ w
  · exact (keeps_importedValue imp h entry.1).bind fun v =>
      (hR.bindName index entry.2 v).bind fun _ => keeps_pure _

theorem keeps_importWhole (hR : imp.KeptByImports R) (hload : ∀ name, Keeps R (load name))
    (index : Nat) (source : String) : Keeps R (importWhole load index source) := by
  unfold importWhole
  exact (hload source).bind fun _ => hR.bindName index _ _

/-- So does an import of names, if loading does. -/
theorem keeps_importNames (hR : imp.KeptByImports R) (hload : ∀ name, Keeps R (load name))
    (index : Nat) (source : String) (names : List (String × String)) :
    Keeps R (importNames load imp index source names) := by
  unfold importNames
  apply (hload source).bind
  intro h
  have hnames : Keeps R (forIn names PUnit.unit fun entry _ => importName imp index h entry) :=
    keeps_forIn fun entry => keeps_importName hR index h entry
  apply keeps_get.bind
  intro w
  dsimp only
  split
  · refine Keeps.bind (keeps_forIn fun entry => ?_) fun _ =>
      hnames.bind fun _ => keeps_pure _
    apply keeps_get.bind
    intro w
    split
    · exact (keeps_loadInside hload _ _).bind fun _ => keeps_pure _
    · exact keeps_pure _
  · exact hnames.bind fun _ => keeps_pure _

/-- So does a statement. -/
theorem keeps_runStatement (hR : imp.KeptByImports R) (hload : ∀ name, Keeps R (load name))
    (index : Nat) (scope : Scope) (s : Statement) :
    Keeps R (runStatement load imp index scope s) := by
  cases s with
  | importModule source => exact keeps_importWhole hR hload index source
  | importNames source first others => exact keeps_importNames hR hload index source _
  | bind name value => exact (keeps_ofWorld _).bind fun v => hR.bindName index name v
  | compute value => exact (keeps_ofWorld _).bind fun _ => keeps_pure _
  | newType name base => exact (keeps_ofWorld _).bind fun v => hR.bindName index name _
  | raise kind message => exact keeps_get.bind fun w => keeps_throw _
  | define definition =>
    exact (ClassDefinition.keeps_define hR scope definition).bind fun c => hR.bindName index _ _

/-- So does a whole module. -/
theorem keeps_run (hR : imp.KeptByImports R) (hload : ∀ name, Keeps R (load name)) (index : Nat)
    (name : String) (m : SourceModule) : Keeps R (run load imp index name m) := by
  unfold run
  apply Keeps.bind
  · exact keeps_forIn fun entry => (hR.bindName index entry.1 _).bind fun _ => keeps_pure _
  intro _
  apply Keeps.bind
  · exact keeps_forIn fun id => (hR.bindName index id _).bind fun _ => keeps_pure _
  intro _
  apply Keeps.bind
  · exact keeps_forIn fun s =>
      (keeps_runStatement hR hload index _ s).bind fun _ => keeps_pure _
  intro _
  exact keeps_pure _

end SourceModule

namespace Importer

/-- A file runs up to its end or fails.  If it fails its name is taken off the register. -/
theorem ends_runFile (hR : imp.KeptByImports R) (hload : ∀ name, Keeps R (load name)) (index : Nat)
    (name : String) (l : Location) (w : World) :
    Ends (imp.runFile load index name l) w fun result v =>
      match result with
      | .ok _ => R w v
      | .error _ => ∃ u, R w u ∧ v = u.unregister name := by
  unfold runFile
  rw [ends_tryCatch_iff]
  apply Ends.imp (P := fun _ u => R w u)
  · split
    · exact keeps_throw _ w
    · exact SourceModule.keeps_run hR hload index name _ w
  · intro result u hu
    cases result with
    | ok a => exact hu
    | error f => exact ⟨u, hu, rfl⟩

theorem bindInOwner_kept (hR : imp.KeptByImports R) (w : World) (name : String) :
    R w (imp.bindInOwner w name) := by
  unfold bindInOwner
  split
  · exact hR.bind w _ _ _
  · exact refl_of R w

/-- The end of an import: the module is ready, and bound in the one above it. -/
theorem keeps_finish (hR : imp.KeptByImports R) (index : Nat) (name : String) :
    Keeps R (do
      modify (·.changeModule index fun m => { m with ready := true })
      modify (imp.bindInOwner · name) : Defines PUnit) :=
  (keeps_modify fun w => hR.ready w index).bind fun _ =>
    keeps_modify fun w => bindInOwner_kept hR w name

/-- So does the import of one module, if those inside it do. -/
theorem keeps_importOne (hR : imp.KeptByImports R) (hload : ∀ name, Keeps R (load name))
    (name : String) : Keeps R (imp.importOne load name) := by
  intro w
  unfold importOne
  rw [ends_bind_iff, ends_get_iff]
  dsimp only
  split
  · rename_i hregistered
    have hnew : imp.registered? w name = none := Option.isNone_iff_eq_none.1 hregistered
    rw [ends_bind_iff, ends_ofWorld_iff]
    cases hfind : imp.find w name with
    | error f => exact refl_of R w
    | ok found? =>
      cases found? with
      | none => exact refl_of R w
      | some found =>
        obtain ⟨source, directories⟩ := found
        dsimp only
        let m : ImportedModule := { name, source, directories, names := [], ready := false }
        have himported : ∀ v, R (w.addModule m) v → R w v ∧ R w (v.unregister name) :=
          fun v hv => hR.imported (m := m) hnew hfind hv
        rw [ends_bind_iff, ends_modify_iff]
        cases source with
        | file l =>
          dsimp only
          apply (ends_runFile hR hload w.modules.length name l (w.addModule m)).bind
          · intro _ u hu
            exact (keeps_finish hR w.modules.length name u).imp fun _ v hv =>
              (himported v (trans_of R hu hv)).1
          · rintro f v ⟨u, hu, rfl⟩
            exact (himported u hu).2
        | directories =>
          exact (keeps_finish hR w.modules.length name (w.addModule m)).imp fun _ v hv =>
            (himported v hv).1
        | library =>
          exact (keeps_finish hR w.modules.length name (w.addModule m)).imp fun _ v hv =>
            (himported v hv).1
  · exact refl_of R w

/-- By induction on the depth, so does every import. -/
theorem keeps_importWithin (hR : imp.KeptByImports R) (depth : Nat) (name : String) :
    Keeps R (imp.importWithin depth name) := by
  induction depth generalizing name with
  | zero => exact keeps_throw _
  | succ depth ih =>
    rw [importWithin]
    apply keeps_get.bind
    intro w
    apply Keeps.bind
    · exact keeps_forIn fun n => (keeps_importOne hR ih n).bind fun _ => keeps_pure _
    intro _
    apply keeps_get.bind
    intro v
    split
    · exact keeps_pure _
    · exact keeps_throw _

end Importer

end TypeExport

/-!
## Classes that stay

Once it is defined, a class stays in the world as it is.  Importing and scanning only define further
classes, also if they fail.
-/

namespace TypeExport

/-- Whatever the action ends with, the classes of the world are still there, in front of new ones. -/
def KeepsClasses {ε σ α : Type} (world : σ → World) (x : ExceptT ε (StateM σ) α) : Prop :=
  ∀ s, Ends x s fun _ t => (world s).classes <+: (world t).classes

section Actions

variable {ε σ α β : Type} {world : σ → World}

instance (world : σ → World) :
    IsPreorder σ fun s t => (world s).classes <+: (world t).classes where
  refl s := List.prefix_refl (world s).classes
  trans _ _ _ h h' := h.trans h'

theorem keepsClasses_pure (a : α) : KeepsClasses world (pure a : ExceptT ε (StateM σ) α) :=
  keeps_pure a

theorem keepsClasses_throw (e : ε) : KeepsClasses world (throw e : ExceptT ε (StateM σ) α) :=
  keeps_throw e

theorem keepsClasses_throw_bind (e : ε) (f : α → ExceptT ε (StateM σ) β) :
    KeepsClasses world (throw e >>= f) :=
  keeps_throw e

theorem keepsClasses_get : KeepsClasses world (get : ExceptT ε (StateM σ) σ) :=
  keeps_get

theorem keepsClasses_modify {f : σ → σ} (h : ∀ s, (world s).classes <+: (world (f s)).classes) :
    KeepsClasses world (modify f : ExceptT ε (StateM σ) PUnit) :=
  h

/-- An action that only reads the state. -/
theorem keepsClasses_mk {f : σ → Except ε α} :
    KeepsClasses world (ExceptT.mk fun s => (f s, s) : ExceptT ε (StateM σ) α) :=
  keeps_mk

theorem KeepsClasses.bind {x : ExceptT ε (StateM σ) α} {f : α → ExceptT ε (StateM σ) β}
    (hx : KeepsClasses world x) (hf : ∀ a, KeepsClasses world (f a)) :
    KeepsClasses world (x >>= f) :=
  Keeps.bind (R := fun s t => (world s).classes <+: (world t).classes) hx hf

theorem keepsClasses_mapM {γ : Type} {l : List γ} {f : γ → ExceptT ε (StateM σ) α}
    (h : ∀ c, KeepsClasses world (f c)) : KeepsClasses world (l.mapM f) :=
  keeps_mapM (R := fun s t => (world s).classes <+: (world t).classes) h

end Actions

section Modules

theorem World.classes_changeModule (w : World) (index : Nat) (f : ImportedModule → ImportedModule) :
    (w.changeModule index f).classes = w.classes := by
  unfold changeModule
  split <;> rfl

theorem World.classes_bind (w : World) (index : Nat) (name : String) (value : Hint) :
    (w.bind index name value).classes = w.classes :=
  w.classes_changeModule index _

theorem SourceModule.classes_foldl_bind (index : Nat) (names : List (String × Hint)) (w : World) :
    (names.foldl (fun w entry => w.bind index entry.1 entry.2) w).classes = w.classes := by
  induction names generalizing w with
  | nil => rfl
  | cons entry rest ih =>
    rw [List.foldl_cons, ih]
    exact w.classes_bind index entry.1 entry.2

theorem keepsClasses_ofWorld {α : Type} (f : World → Except Failure α) :
    KeepsClasses id (Defines.ofWorld f) :=
  keeps_ofWorld (R := fun w v => w.classes <+: v.classes) f

namespace Importer

theorem classes_bindInOwner (imp : Importer) (w : World) (name : String) :
    (imp.bindInOwner w name).classes = w.classes := by
  unfold bindInOwner
  split
  · exact w.classes_bind _ _ _
  · rfl

/-- Classes are only added. -/
theorem keptByImports_classes (imp : Importer) :
    imp.KeptByImports fun w v => w.classes <+: v.classes where
  addClass w info := List.prefix_append w.classes [info]
  bind w index name value := (w.classes_bind index name value).symm ▸ List.prefix_refl w.classes
  ready w index := (w.classes_changeModule index _).symm ▸ List.prefix_refl w.classes
  imported _ _ h := ⟨h, h⟩

theorem keepsClasses_importWithin (imp : Importer) (depth : Nat) (name : String) :
    KeepsClasses id (imp.importWithin depth name) :=
  keeps_importWithin imp.keptByImports_classes depth name

theorem keepsClasses_runFile (imp : Importer) (index : Nat) (name : String) (l : Location) :
    KeepsClasses id (imp.runFile (imp.importWithin imp.depth) index name l) := by
  intro w
  apply (ends_runFile imp.keptByImports_classes
    (keeps_importWithin imp.keptByImports_classes imp.depth) index name l w).imp
  intro result v h
  cases result with
  | ok _ => exact h
  | error _ =>
    obtain ⟨u, hu, rfl⟩ := h
    exact hu

/-- Loading a file takes no class away. -/
theorem keepsClasses_loadFile (imp : Importer) (l : Location) :
    KeepsClasses id (imp.loadFile l) := by
  unfold loadFile
  apply keepsClasses_get.bind
  intro w
  dsimp only
  split
  · exact keepsClasses_throw _
  · apply (keepsClasses_modify fun w => List.prefix_refl w.classes).bind
    intro _
    apply (imp.keepsClasses_runFile _ _ l).bind
    intro _
    exact keepsClasses_pure _

/-- Neither does looking for a module. -/
theorem keepsClasses_locateModule (imp : Importer) (name : String) :
    KeepsClasses id (imp.locateModule name) := by
  unfold locateModule
  dsimp only
  split
  · exact keepsClasses_throw_bind _ _
  split
  · exact keepsClasses_throw_bind _ _
  apply keepsClasses_get.bind
  intro w
  split
  · exact keepsClasses_pure _
  · split
    · apply (imp.keepsClasses_importWithin _ _).bind
      intro _
      exact (keepsClasses_ofWorld _).bind fun found => keepsClasses_pure _
    · exact (keepsClasses_ofWorld _).bind fun found => keepsClasses_pure _

end Importer

end Modules

section Targets

variable {α : Type}

theorem keepsClasses_attempt {d : Defines α} (h : KeepsClasses id d) :
    KeepsClasses Progress.world (Loads.attempt d) :=
  fun p => h p.world

theorem keepsClasses_part {d : Defines α} (h : KeepsClasses id d) :
    KeepsClasses Progress.world (Loads.part d) := by
  unfold Loads.part
  apply (keepsClasses_attempt h).bind
  intro result
  split
  · exact keepsClasses_pure _
  · split
    · exact keepsClasses_pure _
    · exact keepsClasses_throw _

theorem keepsClasses_loadsReport (line : LogLine) :
    KeepsClasses Progress.world (Loads.report line) :=
  keepsClasses_modify fun p => List.prefix_refl p.world.classes

namespace Importer

variable (imp : Importer)

/-- Finding a target takes no class away. -/
theorem keepsClasses_findTarget (written : String) :
    KeepsClasses Progress.world (imp.findTarget written) := by
  unfold findTarget
  dsimp only
  apply KeepsClasses.bind
  · unfold Loads.ofFile
    split
    · exact keepsClasses_pure _
    · exact keepsClasses_throw _
  intro isPath
  split
  · exact keepsClasses_mk (f := fun _ => imp.findPath _)
  · unfold findModule
    apply (keepsClasses_attempt (imp.keepsClasses_locateModule _)).bind
    intro result
    split
    · exact keepsClasses_pure _
    · exact keepsClasses_throw _
    · split
      · exact keepsClasses_throw _
      · exact keepsClasses_throw _

theorem keepsClasses_loadFiles (directory : Location) (t : LoadedTarget) (names : List String) :
    KeepsClasses Progress.world (imp.loadFiles directory t names) := by
  induction names generalizing t with
  | nil => exact keepsClasses_pure t
  | cons name rest ih =>
    unfold loadFiles
    apply (keepsClasses_part (imp.keepsClasses_loadFile _)).bind
    intro result
    split
    · exact ih _
    · exact (keepsClasses_loadsReport _).bind fun _ => ih _

theorem keepsClasses_takeModule (name : String) (t : LoadedTarget) :
    KeepsClasses Progress.world (imp.takeModule name t) := by
  unfold takeModule
  apply (keepsClasses_part (imp.keepsClasses_importWithin imp.depth name)).bind
  intro result
  split
  · exact keepsClasses_pure _
  · exact (keepsClasses_loadsReport _).bind fun _ => keepsClasses_pure _

/-- Going into a package takes no class away if its modules do not. -/
theorem keepsClasses_enterPackage {depth : Nat} {name : String}
    (hbelow : ∀ h t, KeepsClasses Progress.world (imp.loadBelow depth name h t))
    (isPackage : Bool) (t : LoadedTarget) :
    KeepsClasses Progress.world (imp.enterPackage depth name isPackage t) := by
  unfold enterPackage
  split
  · apply (keepsClasses_part (imp.keepsClasses_importWithin imp.depth name)).bind
    intro result
    split
    · exact hbelow _ t
    · exact (keepsClasses_loadsReport _).bind fun _ => keepsClasses_pure _
  · exact keepsClasses_pure t

/-- Nor do all the modules below a name together. -/
theorem keepsClasses_loadWords {depth : Nat} (hbelow : ∀ owner h t,
      KeepsClasses Progress.world (imp.loadBelow depth owner h t))
    (owner : String) (t : LoadedTarget) (words : List (String × Bool)) :
    KeepsClasses Progress.world (imp.loadWords depth owner t words) := by
  induction words generalizing t with
  | nil =>
    rw [loadWords]
    exact keepsClasses_pure t
  | cons entry rest ih =>
    obtain ⟨word, isPackage⟩ := entry
    rw [loadWords_cons]
    apply (imp.keepsClasses_takeModule _ t).bind
    intro taken
    apply (imp.keepsClasses_enterPackage (hbelow _) isPackage taken).bind
    intro entered
    exact ih entered

theorem keepsClasses_loadBelow (depth : Nat) (owner : String) (h : ModuleHandle)
    (t : LoadedTarget) : KeepsClasses Progress.world (imp.loadBelow depth owner h t) := by
  induction depth generalizing owner h t with
  | zero =>
    rw [loadBelow]
    exact keepsClasses_pure t
  | succ depth ih =>
    rw [loadBelow]
    apply keepsClasses_get.bind
    intro p
    exact imp.keepsClasses_loadWords ih owner t _

/-- Loading a target takes no class away. -/
theorem keepsClasses_loadTarget (target : Target) :
    KeepsClasses Progress.world (imp.loadTarget target) := by
  have hpackage : KeepsClasses Progress.world (imp.loadPackage target) := by
    unfold loadPackage
    apply (keepsClasses_part (imp.keepsClasses_importWithin imp.depth _)).bind
    intro result
    split
    · exact keepsClasses_throw _
    · dsimp only
      apply keepsClasses_get.bind
      intro p
      split
      · exact keepsClasses_pure _
      · exact imp.keepsClasses_loadBelow _ _ _ _
  unfold loadTarget
  split
  · unfold loadDirectory
    dsimp only
    split
    · exact (keepsClasses_loadsReport _).bind fun _ => imp.keepsClasses_loadFiles _ _ _
    · exact imp.keepsClasses_loadFiles _ _ _
  · apply (keepsClasses_part (imp.keepsClasses_loadFile _)).bind
    intro result
    split
    · exact keepsClasses_pure _
    · exact keepsClasses_throw _
  · exact hpackage

end Importer

end Targets

theorem Catalog.keepsClasses_load (imp : Importer) (catalog : Catalog) (texts : List String) :
    KeepsClasses Progress.world (Catalog.load imp catalog texts) := by
  rw [load_eq]
  apply (keepsClasses_mapM imp.keepsClasses_findTarget).bind
  intro targets
  unfold complete
  apply (keepsClasses_mapM imp.keepsClasses_loadTarget).bind
  intro loaded
  exact keepsClasses_pure _

namespace Scans

variable (imp : Importer) (texts : List String)

theorem keepsClasses_load : KeepsClasses Session.world (load imp texts) := by
  intro s
  have hload := Catalog.keepsClasses_load imp s.catalog texts s.progress
  unfold Ends at hload ⊢
  rw [load_run]
  cases hrun : (Catalog.load imp s.catalog texts).run.run s.progress with
  | mk result p =>
    rw [hrun] at hload
    cases result <;> exact hload

theorem keepsClasses_report (line : LogLine) : KeepsClasses Session.world (report line) :=
  keepsClasses_modify fun s => List.prefix_refl s.world.classes

theorem keepsClasses_availableClasses :
    KeepsClasses Session.world (availableClasses imp texts) :=
  (keepsClasses_load imp texts).bind fun _ => keepsClasses_get.bind fun _ => keepsClasses_pure _

/-- Neither does making an index. -/
theorem keepsClasses_index : KeepsClasses Session.world (index imp texts) := by
  unfold index
  apply keepsClasses_get.bind
  intro s
  split
  · exact keepsClasses_pure _
  · apply (keepsClasses_availableClasses imp texts).bind
    intro classes
    apply keepsClasses_get.bind
    intro t
    exact (keepsClasses_modify fun s => List.prefix_refl s.world.classes).bind fun _ =>
      keepsClasses_pure _

theorem keepsClasses_describing (i : ClassIndex) : KeepsClasses Session.world (describing i) :=
  keepsClasses_get.bind fun _ => keepsClasses_pure _

theorem keepsClasses_available : KeepsClasses Session.world (available imp texts) := by
  unfold available
  apply (keepsClasses_index imp texts).bind
  intro i
  apply (keepsClasses_availableClasses imp texts).bind
  intro classes
  apply (keepsClasses_describing i).bind
  intro u
  exact (keepsClasses_report _).bind fun _ => keepsClasses_pure _

end Scans

end TypeExport

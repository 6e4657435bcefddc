import TypeExport.Proofs.Renumbering.Running
import TypeExport.Proofs.Scan.Discovery

/-!
# Loaded targets in worlds that mirror others

The modules of loaded targets define the same classes in both worlds, up to numbers, and the classes
are shown alike: with the same descriptors, and with properties of the same types.
-/

namespace TypeExport

/-- A loaded target with its modules under other numbers. -/
def LoadedTarget.renumber (τ : Nat ↪ Nat) (t : LoadedTarget) : LoadedTarget :=
  { t with modules := t.modules.map (ModuleHandle.renumber τ) }

theorem LoadedTarget.renumber_modules (τ : Nat ↪ Nat) (t : LoadedTarget) :
    (t.renumber τ).modules = t.modules.map (ModuleHandle.renumber τ) :=
  rfl

namespace Universe

variable (u : Universe)

/-- A property with the descriptors of its types. -/
def shownProperty (p : ClassProperty) : Property Descriptor :=
  { name := p.name, shape := p.shape.map u.describe, navigation := p.navigation,
    ignored := p.ignored }

/-- A class as it is shown: its descriptor, and its properties with the descriptors of their
types. -/
def shown (c : ClassRef) : Descriptor × Except Failure (List (Property Descriptor)) :=
  (u.describe (some c), (u.properties (some c)).map (List.map u.shownProperty))

end Universe

variable {ρ τ : Nat ↪ Nat} {w w' : World}

theorem Shape.map_map {ι κ μ : Type} (f : ι → κ) (g : κ → μ) (s : Shape ι) :
    (s.map f).map g = s.map (g ∘ f) := by
  induction s with
  | direct t => rfl
  | nullable s ih => exact congrArg Shape.nullable ih
  | array s ih => exact congrArg Shape.array ih
  | dictionary k v ihk ihv => exact congrArg₂ Shape.dictionary ihk ihv

/-- Classes are shown alike with the same index of names. -/
theorem Universe.shown_renumber (h : Renumbers ρ w w') {i i' : ClassIndex}
    (hnames : i'.names = i.names) (hread : i.read = []) (hread' : i'.read = []) (c : ClassRef) :
    ({ world := w', index := i', broken := [] } : Universe).shown (c.renumber ρ) =
      ({ world := w, index := i, broken := [] } : Universe).shown c := by
  have hdescribe : ∀ t : Option ClassRef,
      ({ world := w', index := i', broken := [] } : Universe).describe
        (t.map (ClassRef.renumber ρ)) =
      ({ world := w, index := i, broken := [] } : Universe).describe t := by
    intro t
    unfold Universe.describe
    rw [hnames]
    exact World.describeType_renumber h i.names t
  have hproperty : ∀ p : ClassProperty,
      ({ world := w', index := i', broken := [] } : Universe).shownProperty
        (renumberProperty ρ p) =
      ({ world := w, index := i, broken := [] } : Universe).shownProperty p := by
    intro p
    have hshape := Shape.map_map (Option.map (ClassRef.renumber ρ))
      ({ world := w', index := i', broken := [] } : Universe).describe p.shape
    rw [show ({ world := w', index := i', broken := [] } : Universe).describe ∘
      Option.map (ClassRef.renumber ρ) = _ from funext hdescribe] at hshape
    unfold Universe.shownProperty
    exact congrArg (fun s => (Property.mk p.name s p.navigation p.ignored : Property Descriptor))
      hshape
  have hproperties :
      ({ world := w', index := i', broken := [] } : Universe).properties (some (c.renumber ρ)) =
      (({ world := w, index := i, broken := [] } : Universe).properties (some c)).map
        (List.map (renumberProperty ρ)) := by
    unfold Universe.properties
    rw [Option.bind_some, Option.bind_some, hread, hread']
    exact World.typeProperties_renumber h (some c)
  unfold Universe.shown
  refine Prod.ext (hdescribe (some c)) ?_
  dsimp only
  rw [hproperties]
  cases ({ world := w, index := i, broken := [] } : Universe).properties (some c) with
  | error e => rfl
  | ok properties =>
    refine congrArg Except.ok ?_
    rw [List.map_map]
    exact List.map_congr_left fun p _ => hproperty p

namespace Renumbers

theorem isAvailable (h : Renumbers ρ w w') (c : ClassRef) :
    w'.isAvailable (c.renumber ρ) = w.isAvailable c := by
  have hparameters : w'.parameters (c.renumber ρ) = w.parameters c := by
    unfold World.parameters
    rw [h.info]
    cases w.info? c <;> rfl
  unfold World.isAvailable
  rw [h.shortName, World.isAbstract_renumber h, hparameters, h.isProtocol]

theorem firstOfName (h : Renumbers ρ w w') (seen : List String) (classes : List ClassRef) :
    w'.firstOfName seen (classes.map (ClassRef.renumber ρ)) =
      (w.firstOfName seen classes).map (ClassRef.renumber ρ) := by
  induction classes generalizing seen with
  | nil => rfl
  | cons c rest ih =>
    rw [List.map_cons, World.firstOfName, World.firstOfName, h.fullName, ih, ih]
    split <;> rfl

end Renumbers

namespace World.Mirrors

variable (h : w.Mirrors ρ τ w')
include h

theorem renumbers_self : Renumbers ρ w w' :=
  h.renumbers h.agrees

/-- A module has the same classes, up to the numbers. -/
theorem classesOf (m : ModuleHandle) :
    w'.classesOf (m.renumber τ) = (w.classesOf m).map (ClassRef.renumber ρ) := by
  have hnames : w'.namesOf (m.renumber τ) = renumberValues ρ (w.namesOf m) := by
    cases m with
    | outside name => rfl
    | inside i =>
      show ((w'.modules[τ i]?).map (·.names)).getD [] =
        renumberValues ρ (((w.modules[i]?).map (·.names)).getD [])
      rw [h.module? ρ h.agrees]
      cases w.modules[i]? <;> rfl
  unfold World.classesOf
  rw [hnames, renumberValues, List.filterMap_map, List.map_filterMap]
  refine List.filterMap_congr fun entry _ => ?_
  obtain ⟨name, v⟩ := entry
  cases v
  case type c =>
    simp only [Function.comp_apply, Prod.map_apply, id_eq, Hint.renumber,
      h.renumbers_self.moduleName, ModuleHandle.name_mirrors h]
    split <;> rfl
  all_goals rfl

theorem flatMap_classesOf (modules : List ModuleHandle) :
    (modules.map (ModuleHandle.renumber τ)).flatMap w'.classesOf =
      (modules.flatMap w.classesOf).map (ClassRef.renumber ρ) := by
  rw [List.flatMap_map, List.map_flatMap]
  exact congrArg (List.flatMap · modules) (funext h.classesOf)

theorem availableClasses (modules : List ModuleHandle) :
    w'.availableClasses (modules.map (ModuleHandle.renumber τ)) =
      (w.availableClasses modules).map (ClassRef.renumber ρ) := by
  unfold World.availableClasses
  rw [h.flatMap_classesOf, List.filter_map]
  exact congrArg (fun p => List.map _ (List.filter p _)) (funext h.renumbers_self.isAvailable)

theorem markedClasses (modules : List ModuleHandle) :
    w'.markedClasses (modules.map (ModuleHandle.renumber τ)) =
      (w.markedClasses modules).map (ClassRef.renumber ρ) := by
  unfold World.markedClasses
  rw [h.flatMap_classesOf, List.filter_map]
  exact congrArg (fun p => List.map _ (List.filter p _))
    (funext fun c => congrArg Option.isSome (World.marker?_renumber h.renumbers_self c))

section Modules

variable {loaded loaded' : List LoadedTarget}
  (hmodules : loaded'.flatMap (·.modules) =
    (loaded.flatMap (·.modules)).map (ModuleHandle.renumber τ))
include hmodules

/-- The modules of the targets, each name once. -/
theorem modules :
    Catalog.modules w' loaded' = (Catalog.modules w loaded).map (ModuleHandle.renumber τ) := by
  have hfold : ∀ modules found : List ModuleHandle,
      (modules.map (ModuleHandle.renumber τ)).foldl (fun found m =>
        if (found.map (·.name w')).contains (m.name w') then found else m :: found)
          (found.map (ModuleHandle.renumber τ)) =
      (modules.foldl (fun found m =>
        if (found.map (·.name w)).contains (m.name w) then found else m :: found) found).map
          (ModuleHandle.renumber τ) := by
    intro modules
    induction modules with
    | nil => exact fun _ => rfl
    | cons m rest ih =>
      intro found
      have hnames : (found.map (ModuleHandle.renumber τ)).map (·.name w') =
          found.map (·.name w) := by
        rw [List.map_map]
        exact List.map_congr_left fun m _ => ModuleHandle.name_mirrors h m
      rw [List.map_cons, List.foldl_cons, List.foldl_cons, hnames, ModuleHandle.name_mirrors h]
      split
      · exact ih found
      · exact ih (m :: found)
  unfold Catalog.modules
  rw [hmodules, List.map_reverse]
  exact congrArg List.reverse (hfold _ [])

theorem availableClasses_modules : w'.availableClasses (Catalog.modules w' loaded') =
    (w.availableClasses (Catalog.modules w loaded)).map (ClassRef.renumber ρ) := by
  rw [h.modules hmodules, h.availableClasses]

/-- The index of the targets has the same names. -/
theorem indexOfTargets : Scans.indexOfTargets w' loaded' = Scans.indexOfTargets w loaded := by
  unfold Scans.indexOfTargets World.indexOf
  rw [h.availableClasses_modules hmodules, List.flatMap_map]
  refine congrArg (fun names => ({ names } : ClassIndex)) ?_
  refine congrArg (List.flatMap · _) (funext fun c => ?_)
  rw [h.renumbers_self.fullName, h.renumbers_self.shortName]

/-- The roots of the targets. -/
theorem rootsOf : (w'.rootsOf [] loaded').flatMap (·.2) =
    ((w.rootsOf [] loaded).flatMap (·.2)).map (ClassRef.renumber ρ) := by
  rw [World.rootsOf_classes, World.rootsOf_classes, hmodules, h.markedClasses,
    h.renumbers_self.firstOfName]

end Modules

end World.Mirrors

end TypeExport

import TypeExport.Proofs.Run.FailingRun
import TypeExport.Proofs.Scan.Discovery
import TypeExport.Proofs.Scan.FirstIndex
import TypeExport.Proofs.Scan.Growth

/-!
# The roots of a run

A run generates the roots that belong to a category.  Classes that derive from a mapped primitive
belong to none: such roots are discovered and counted, but no file is written for them.
-/

/-!
## Origins of classes

The index of a request holds names and no classes.  A class counts as scanned when it has a name in
common with an available class of the loaded modules, also if no loaded module defines it.
-/

namespace TypeExport

namespace World

/-- A module has the class among its names, and the class says that it is of this module. -/
def Defines (w : World) (h : ModuleHandle) (c : ClassRef) : Prop :=
  (∃ name, (name, Hint.type c) ∈ w.namesOf h) ∧ w.moduleName c = h.name w

/-- A class that can be written out: public, without open methods or parameters, no protocol. -/
structure IsPresentable (w : World) (c : ClassRef) : Prop where
  isPublic : (w.shortName c).toList.head? ≠ some '_'
  isConcrete : w.isAbstract c = false
  isClosed : w.parameters c = []
  isNoProtocol : w.isProtocol c = false

/-- A class of one of some modules that can be written out. -/
def IsAvailableIn (w : World) (modules : List ModuleHandle) (c : ClassRef) : Prop :=
  (∃ h ∈ modules, w.Defines h c) ∧ w.IsPresentable c

/-- A class of `v` is found under a name of a class of `w`. -/
def SharesName (v w : World) (c k : ClassRef) : Prop :=
  ∃ name ∈ [v.fullName c, v.shortName c], name ∈ [w.fullName k, w.shortName k]

variable {v w : World} {modules : List ModuleHandle} {c k : ClassRef}

theorem sharesName_refl (w : World) (c : ClassRef) : w.SharesName w c c :=
  ⟨w.fullName c, List.mem_cons_self, List.mem_cons_self⟩

/-- The classes of a module are those that it defines. -/
theorem mem_classesOf_iff {h : ModuleHandle} : c ∈ w.classesOf h ↔ w.Defines h c := by
  unfold classesOf Defines
  rw [List.mem_filterMap]
  constructor
  · intro hc
    obtain ⟨⟨name, value⟩, hvalue, hdefined⟩ := hc
    cases value with
    | type d =>
      dsimp only at hdefined
      split at hdefined
      · rename_i hmodule
        cases hdefined
        exact ⟨⟨name, hvalue⟩, hmodule⟩
      · cases hdefined
    | _ => cases hdefined
  · intro hc
    obtain ⟨⟨name, hvalue⟩, hmodule⟩ := hc
    exact ⟨(name, .type c), hvalue, if_pos hmodule⟩

theorem isAvailable_iff : w.isAvailable c = true ↔ w.IsPresentable c := by
  unfold isAvailable
  simp only [Bool.and_eq_true, bne_iff_ne, Bool.not_eq_true', List.isEmpty_iff]
  constructor
  · intro h
    exact ⟨h.1.1.1, h.1.1.2, h.1.2, h.2⟩
  · intro h
    exact ⟨⟨⟨h.isPublic, h.isConcrete⟩, h.isClosed⟩, h.isNoProtocol⟩

theorem mem_availableClasses_iff :
    c ∈ w.availableClasses modules ↔ w.IsAvailableIn modules c := by
  unfold availableClasses IsAvailableIn
  rw [List.mem_filter, List.mem_flatMap, isAvailable_iff]
  simp only [mem_classesOf_iff]

/-- Classes of every kind are described by their name and their origin. -/
theorem describe_common (w : World) (names : List String) (c : ClassRef) :
    (w.describe names c).fullName = w.fullName c ∧
      (w.describe names c).origin = if w.isScanned names c then .scanned else .external := by
  unfold describe
  dsimp only
  split
  · exact ⟨rfl, rfl⟩
  · split
    · exact ⟨rfl, rfl⟩
    · split <;> exact ⟨rfl, rfl⟩

theorem origin_describe (names : List String) (c : ClassRef) :
    (w.describe names c).origin = .scanned ↔ w.isScanned names c = true := by
  rw [(w.describe_common names c).2]
  split <;> simp [*]

/-- The names of an index are those of its classes. -/
theorem mem_names_indexOf {classes : List ClassRef} {name : String} :
    name ∈ (w.indexOf classes).names ↔
      ∃ k ∈ classes, name ∈ [w.fullName k, w.shortName k] :=
  List.mem_flatMap

/-- A class counts as scanned if it shares a name with one of the index, and is neither abstract nor of
a standard module. -/
theorem isScanned_indexOf {classes : List ClassRef} :
    v.isScanned (w.indexOf classes).names c = true ↔
      Primitive.isStandardModule (v.moduleName c) = false ∧ v.isAbstract c = false ∧
        ∃ k ∈ classes, SharesName v w c k := by
  unfold isScanned
  simp only [Bool.and_eq_true, Bool.or_eq_true, Bool.not_eq_true', List.contains_iff_mem,
    mem_names_indexOf, and_assoc]
  refine and_congr_right fun _ => and_congr_right fun _ => ?_
  constructor
  · intro h
    rcases h with ⟨k, hk, hname⟩ | ⟨k, hk, hname⟩
    · exact ⟨k, hk, _, List.mem_cons_self, hname⟩
    · exact ⟨k, hk, _, List.mem_cons_of_mem _ List.mem_cons_self, hname⟩
  · intro h
    obtain ⟨k, hk, name, hmem, hname⟩ := h
    rcases List.mem_cons.1 hmem with rfl | hmem
    · exact .inl ⟨k, hk, hname⟩
    · exact .inr ⟨k, hk, List.mem_singleton.1 hmem ▸ hname⟩

end World

namespace Scans

open World

variable {imp : Importer} {texts : List String} {s t : Session} {i : ClassIndex}

/-- A class counts as scanned exactly if it is concrete, not of a standard module, and has a name in
common with an available class of the loaded modules; the available classes do.  So classes that no
loaded module defines are told apart from the scanned ones only if they share no name with them. -/
theorem origin_scanned_iff (hnew : s.indexes.lookup texts = none)
    (hindex : Gives (index imp texts) s i t) :
    ∃ targets u, Gives (load imp texts) s targets u ∧ u.world = t.world ∧
      (∀ v c, (v.describe i.names c).origin = .scanned ↔
        Primitive.isStandardModule (v.moduleName c) = false ∧ v.isAbstract c = false ∧
          ∃ k, t.world.IsAvailableIn (Catalog.modules t.world targets) k ∧
            SharesName v t.world c k) ∧
      ∀ c, ((t.world.describe i.names c).origin = .scanned ↔
          t.world.IsAvailableIn (Catalog.modules t.world targets) c ∧
            Primitive.isStandardModule (t.world.moduleName c) = false) ↔
        (t.world.isAbstract c = false →
          Primitive.isStandardModule (t.world.moduleName c) = false →
          ∀ k, t.world.IsAvailableIn (Catalog.modules t.world targets) k →
            SharesName t.world t.world c k →
            t.world.IsAvailableIn (Catalog.modules t.world targets) c) := by
  obtain ⟨targets, u, hload, hi, ht⟩ := (gives_index_iff hnew).1 hindex
  have hworld : u.world = t.world := by rw [ht]
  have hscanned : ∀ v c, (v.describe i.names c).origin = .scanned ↔
      Primitive.isStandardModule (v.moduleName c) = false ∧ v.isAbstract c = false ∧
        ∃ k, t.world.IsAvailableIn (Catalog.modules t.world targets) k ∧
          SharesName v t.world c k := by
    intro v c
    rw [origin_describe, hi, hworld]
    unfold indexOfTargets
    rw [isScanned_indexOf]
    simp only [mem_availableClasses_iff]
  refine ⟨targets, u, hload, hworld, hscanned, fun c => ?_⟩
  rw [hscanned]
  constructor
  · intro hiff hconcrete hmodule k hk hshares
    exact (hiff.1 ⟨hmodule, hconcrete, k, hk, hshares⟩).1
  · intro honly
    constructor
    · rintro ⟨hmodule, hconcrete, k, hk, hshares⟩
      exact ⟨honly hconcrete hmodule k hk hshares, hmodule⟩
    · rintro ⟨havailable, hmodule⟩
      exact ⟨hmodule, havailable.2.isConcrete, c, havailable, sharesName_refl _ c⟩

/-- A shop with users of its own, whose orders are of the users of another module. -/
def storefront : Importer :=
  .ofEntries [[]]
    [(["other.py"], .file (.ofStatements [.plainClass "User" false [] [("secret", .name "str")]])),
      (["shop.py"], .file (.ofStatements [.importNames "other" ("User", "Buyer") [],
        .plainClass "User" false [] [("login", .name "str")],
        .plainClass "Order" true [] [("buyer", .name "Buyer")]]))]

theorem load_of_storefront :
    Succeeds (load storefront ["shop.py"]) .empty fun targets u =>
      u.world.availableClasses (Catalog.modules u.world targets) = [.defined 1, .defined 2] ∧
        u.world.fullName (.defined 0) = "other.User" ∧
        u.world.shortName (.defined 0) = u.world.shortName (.defined 1) ∧
        Primitive.isStandardModule (u.world.moduleName (.defined 0)) = false ∧
        u.world.isAbstract (.defined 0) = false := by
  decide +kernel

/-- The users of the module that is not scanned count as scanned. -/
theorem other_user_counts_as_scanned :
    Session.empty.indexes.lookup ["shop.py"] = none ∧
    ∃ i t targets u, Gives (index storefront ["shop.py"]) .empty i t ∧
      Gives (load storefront ["shop.py"]) .empty targets u ∧
      t.world.fullName (.defined 0) = "other.User" ∧
      ¬t.world.IsAvailableIn (Catalog.modules t.world targets) (.defined 0) ∧
      (t.world.describe i.names (.defined 0)).origin = .scanned := by
  obtain ⟨targets, u, hload, havailable, hname, hshort, hmodule, hconcrete⟩ := load_of_storefront
  have hindex := (gives_index_iff (s := .empty) rfl).2 ⟨targets, u, hload, rfl, rfl⟩
  obtain ⟨targets', u', hload', hworld, hscanned, -⟩ := origin_scanned_iff rfl hindex
  obtain ⟨rfl, rfl⟩ := hload.unique hload'
  have hin : ∀ c, u.world.IsAvailableIn (Catalog.modules u.world targets) c ↔
      c = .defined 1 ∨ c = .defined 2 := by
    intro c
    rw [← mem_availableClasses_iff, havailable]
    simp
  refine ⟨rfl, _, _, targets, u, hindex, hload, hname, ?_, ?_⟩
  · rw [← hworld, hin]
    simp
  · rw [hscanned, ← hworld]
    refine ⟨hmodule, hconcrete, .defined 1, (hin _).2 (.inl rfl), u.world.shortName (.defined 0), ?_⟩
    rw [hshort]
    simp

end Scans

end TypeExport

/-!
## Roots without a category
-/

namespace TypeExport

namespace World

variable {w : World} {c : ClassRef}

/-- A class that is a mapped primitive or has one, `object` apart, among its ancestors. -/
def DerivesPrimitive (w : World) (c : ClassRef) : Prop :=
  Primitive.isPrimitive (w.fullName c) = true ∨
    ∃ k ∈ w.order c, k ≠ objectClass ∧ Primitive.isPrimitive (w.fullName k) = true

theorem derivesPrimitive_iff : w.DerivesPrimitive c ↔
    Primitive.isPrimitive (w.fullName c) = true ∨ (w.primitiveBase? c).isSome = true := by
  unfold DerivesPrimitive primitiveBase?
  rw [List.find?_isSome]
  apply or_congr_right
  simp only [List.mem_map, List.mem_filter, bne_iff_ne]
  constructor
  · rintro ⟨k, hk, hobject, hprimitive⟩
    exact ⟨_, ⟨k, ⟨hk, hobject⟩, rfl⟩, hprimitive⟩
  · rintro ⟨_, ⟨k, ⟨hk, hobject⟩, rfl⟩, hprimitive⟩
    exact ⟨k, hk, hobject, hprimitive⟩

/-- The kind of a class is a matter of the world alone. -/
theorem kind_describe_eq_primitive_iff (names : List String) :
    (w.describe names c).kind = .primitive ↔
      w.isEnumeration c = false ∧ w.DerivesPrimitive c := by
  rw [derivesPrimitive_iff]
  unfold describe
  dsimp only
  by_cases henumeration : w.isEnumeration c = true
  · rw [if_pos henumeration]
    simp [henumeration]
  rw [if_neg henumeration]
  by_cases hprimitive : Primitive.isPrimitive (w.fullName c) = true
  · rw [if_pos hprimitive]
    simp [henumeration, hprimitive]
  rw [if_neg hprimitive]
  cases hbase : w.primitiveBase? c with
  | some base => simp [henumeration]
  | none =>
    dsimp only
    split <;> simp [hprimitive]

/-- The names of the scanned classes only have a say in the origin. -/
theorem describe_names (w : World) (names : List String) (c : ClassRef) :
    w.describe names c =
      { w.describe [] c with origin := (w.describe names c).origin } := by
  unfold describe
  dsimp only
  split
  · rfl
  · split
    · rfl
    · split <;> rfl

theorem fileStem_describe (w : World) (names : List String) (c : ClassRef) :
    (w.describe names c).fileStem = (w.describe [] c).fileStem := by
  rw [w.describe_names names c]
  unfold Descriptor.fileStem Descriptor.targetName
  dsimp only

theorem category?_describe (w : World) (names : List String) (c : ClassRef) :
    (w.describe names c).kind.category? = (w.describe [] c).kind.category? := by
  rw [w.describe_names names c]

end World

namespace TypeKind

theorem category?_eq_none_iff {kind : TypeKind} : kind.category? = none ↔ kind = .primitive := by
  cases kind <;> decide

end TypeKind

/-- The path of the file of a described type; a primitive has none. -/
def OutputDirectories.fileOf? (directories : OutputDirectories) (d : Descriptor) : Option Path :=
  d.kind.category?.map fun category =>
    (directories.of category).join (.ofString (d.fileStem ++ fileExtension))

namespace TypeGraph

variable {ε α : Type} {g : TypeGraph ε}

/-- The members of two categories are together those that have one. -/
theorem perm_of_categories (category? : α → Option Category) (file : Category → α → Path)
    (l : List α) :
    ((l.filter fun a => category? a = some .interfaces).map (file .interfaces) ++
      (l.filter fun a => category? a = some .enumerations).map (file .enumerations)).Perm
      (l.filterMap fun a => (category? a).map fun category => file category a) := by
  induction l with
  | nil => exact .refl _
  | cons a rest ih =>
    rw [List.filter_cons, List.filter_cons, List.filterMap_cons]
    cases category? a with
    | none => simpa using ih
    | some category =>
      cases category with
      | interfaces => simpa using ih
      | enumerations => simpa using List.perm_middle.trans (ih.cons _)

/-- A generation reports the files of the types that have a category. -/
theorem reported_perm (policy : Policy) (κ : Type) [TextContent κ]
    (directories : OutputDirectories) (roots : List g.Node) :
    ((g.reported policy κ directories roots).interfaceFiles ++
      (g.reported policy κ directories roots).enumFiles).Perm
      (roots.filterMap fun t => directories.fileOf? (g.descriptor t)) :=
  ((List.mergeSort_perm _ _).append (List.mergeSort_perm _ _)).trans
    (perm_of_categories (fun t => (g.descriptor t).kind.category?)
      (fun category t => g.filePath (directories.of category) t) roots)

end TypeGraph

/-- The path of the file of a root. -/
def Config.rootFile? (c : Config String) (w : World) (r : ClassRef) : Option Path :=
  c.outputDirectories.fileOf? (w.describe [] r)

theorem Config.rootFile?_eq (c : Config String) (w : World) (names : List String) (r : ClassRef) :
    c.outputDirectories.fileOf? (w.describe names r) = c.rootFile? w r := by
  unfold Config.rootFile? OutputDirectories.fileOf?
  rw [World.category?_describe, World.fileStem_describe]

theorem Config.rootFile?_isSome_iff {c : Config String} {w : World} {r : ClassRef} :
    (c.rootFile? w r).isSome = true ↔ w.isEnumeration r = true ∨ ¬w.DerivesPrimitive r := by
  unfold Config.rootFile? OutputDirectories.fileOf?
  rw [Option.isSome_map, Option.isSome_iff_ne_none, Ne, TypeKind.category?_eq_none_iff,
    World.kind_describe_eq_primitive_iff, not_and_or, Bool.not_eq_false]

namespace Universe

variable {u : Universe} {r : ClassRef}

/-- A class that the world knows is its own node. -/
theorem descriptor_rootNode (h : (u.world.info? r).isSome = true) :
    u.graph.descriptor (u.rootNode r) = u.world.describe u.index.names r := by
  have hmem : (u.describe (some r)).fullName ∈ u.fullNames := by
    have hfull : (u.describe (some r)).fullName = u.world.fullName r :=
      (u.world.describe_common u.index.names r).1
    cases r with
    | standard name => cases h
    | defined k =>
      have hlt : k < u.world.classes.length := (List.getElem?_eq_some_iff.1
        (Option.some_get h).symm).1
      rw [hfull]
      refine List.mem_append_left _ (List.mem_cons_of_mem _ (List.mem_map.2 ⟨k, ?_, rfl⟩))
      exact List.mem_range.2 hlt
  have hnode : u.node (some r) = ⟨some r, hmem⟩ := dif_pos hmem
  show u.describe (u.node (some r)).val = _
  rw [hnode]
  rfl

/-- A generation of known classes reports the files of those that have one. -/
theorem reported_roots (c : Config String) {roots : List ClassRef}
    (h : ∀ r ∈ roots, (u.world.info? r).isSome = true) :
    let result := u.graph.reported c.policy Content c.outputDirectories (roots.map u.rootNode)
    (result.interfaceFiles ++ result.enumFiles).Perm (roots.filterMap (c.rootFile? u.world)) := by
  intro result
  have hperm := TypeGraph.reported_perm c.policy Content c.outputDirectories (roots.map u.rootNode)
  rw [List.filterMap_map] at hperm
  have hfiles : roots.filterMap
      ((fun t => c.outputDirectories.fileOf? (u.graph.descriptor t)) ∘ u.rootNode) =
      roots.filterMap (c.rootFile? u.world) := by
    apply List.filterMap_congr
    intro r hr
    rw [Function.comp_apply, descriptor_rootNode (h r hr), c.rootFile?_eq]
  rw [hfiles] at hperm
  exact hperm

end Universe

namespace Runs

variable {α : Type} {imp : Importer} {c : Config String} {roots : List ClassRef} {s t : RunState}

theorem gives_ofScans_iff {x : Scans α} {a : α} : Gives (ofScans x) s a t ↔
    ∃ session, Gives x s.session a session ∧ t = { s with session } := by
  constructor
  · intro h
    have hsucceeds : Succeeds (ofScans x) s fun b u => b = a ∧ u = t := ⟨a, t, h, rfl, rfl⟩
    unfold ofScans at hsucceeds
    rw [succeeds_mk_iff] at hsucceeds
    obtain ⟨b, hresult, rfl, ht⟩ := hsucceeds
    exact ⟨_, Prod.ext (mapError_eq_ok_iff.1 hresult) rfl, ht.symm⟩
  · rintro ⟨session, hx, rfl⟩
    exact gives_ofScans hx

theorem of_report {line : LogLine} {x : Unit} (h : Gives (report line) s x t) :
    t = { s with session.log := s.session.log ++ [line] } :=
  (h.unique (gives_ofScans (Scans.gives_report line s.session))).2

/-- The universe of an index in a session. -/
def universeOf (session : Session) (i : ClassIndex) : Universe :=
  { world := session.world, index := i, broken := session.broken }

/-- A generation that succeeds reports what the graph of the described classes gives. -/
theorem of_generate {result : Generated} {i : ClassIndex}
    (hindex : s.session.indexes.lookup c.targets = some i)
    (h : Gives (generate imp c roots) s result t) :
    result = (universeOf s.session i).graph.reported c.policy Content c.outputDirectories
      (roots.map (universeOf s.session i).rootNode) := by
  have hdescribes : Gives (do Scans.describing (← Scans.index imp c.targets)) s.session
      (universeOf s.session i) s.session :=
    (Scans.gives_index_of_lookup hindex).bind (Scans.gives_describing i s.session)
  unfold generate at h
  obtain ⟨u, v, hu, hgenerated⟩ := h.of_bind
  obtain ⟨rfl, rfl⟩ := hu.unique (gives_ofScans hdescribes)
  have hsucceeds : Succeeds _ s fun b _ => b = result := ⟨result, t, hgenerated, rfl⟩
  rw [succeeds_mk_iff] at hsucceeds
  obtain ⟨b, hresult, rfl⟩ := hsucceeds
  exact (TypeGraph.of_generate (FileTree.keepsUp_reflects _) (mapError_eq_ok_iff.1 hresult)
    (FileTree.Reflects.nil _)).1

/-- The lookups leave the files that they have written, and only report to the session. -/
theorem of_lookupStep {paths : List Path} (h : Gives (lookupStep imp c) s paths t) :
    t.files = (lookupsIn imp c s.files).files ∧ ∃ log, t.session = { s.session with log } := by
  constructor
  · have hends := (ends_lookupStep imp c s).of_gives h
    exact hends.1
  · unfold lookupStep at h
    split at h
    · obtain ⟨_, u, hreport, hpure⟩ := h.of_bind
      obtain ⟨-, rfl⟩ := hpure.unique (gives_pure _ _)
      rw [of_report hreport]
      exact ⟨_, rfl⟩
    · obtain ⟨_, u, hstart, hrest⟩ := h.of_bind
      obtain ⟨written, v, hwritten, hend⟩ := hrest.of_bind
      obtain ⟨_, u', hreport, hpure⟩ := hend.of_bind
      obtain ⟨-, rfl⟩ := hpure.unique (gives_pure _ _)
      have hv : v = ((writeLookups imp c).run.run u).2 := by
        unfold Gives at hwritten
        rw [hwritten]
      rw [of_report hreport, hv, of_report hstart]
      exact ⟨_, rfl⟩

/-- Without roots nothing is generated. -/
theorem of_generationStep_nil {result : Generated}
    (h : Gives (generationStep imp c []) s result t) : result = {} := by
  obtain ⟨_, u, -, hpure⟩ := h.of_bind
  exact (hpure.unique (gives_pure _ u)).1

/-- The roots are generated in the world that the available types are described in. -/
theorem of_generationStep {result : Generated} (hne : roots ≠ [])
    (h : Gives (generationStep imp c roots) s result t) :
    ∃ log types v, Gives (Scans.available imp c.targets) { s.session with log } types v ∧
      ∃ u : Universe, u.world = v.world ∧
        result = u.graph.reported c.policy Content c.outputDirectories (roots.map u.rootNode) := by
  unfold generationStep at h
  rw [if_neg (by simpa using hne)] at h
  obtain ⟨_, s₁, hstart, hrest⟩ := h.of_bind
  obtain ⟨types, s₂, havailable, hgenerates⟩ := hrest.of_bind
  obtain ⟨_, s₃, hreport, hgenerate⟩ := hgenerates.of_bind
  obtain ⟨generated, s₄, hgenerated, hend⟩ := hgenerate.of_bind
  obtain ⟨_, s₅, -, hpure⟩ := hend.of_bind
  obtain ⟨rfl, -⟩ := hpure.unique (gives_pure _ s₅)
  rw [of_report hstart] at havailable
  obtain ⟨v, htypes, rfl⟩ := gives_ofScans_iff.1 havailable
  obtain ⟨i, hindex⟩ := Scans.lookup_of_available htypes
  rw [of_report hreport] at hgenerated
  exact ⟨_, types, v, htypes, _, rfl, of_generate hindex hgenerated⟩

/-- The roots are those of the targets in the files that are there. -/
theorem of_scanStep {n : Nat} {result : Generated} (htargets : c.targets ≠ [])
    (h : Gives (scanStep imp c) s (n, result) t) :
    ∃ log roots v log', n = roots.length ∧
      Gives (Scans.roots { imp with files := s.files } c.targets) { s.session with log } roots v ∧
      Gives (generationStep { imp with files := s.files } c roots)
        { s with session := { v with log := log' } } result t := by
  unfold scanStep at h
  rw [if_neg (by simpa using htargets)] at h
  obtain ⟨_, s₁, hstart, hrest⟩ := h.of_bind
  obtain ⟨s₂, s₃, hget, hscans⟩ := hrest.of_bind
  obtain ⟨rfl, rfl⟩ := hget.unique (gives_get s₁)
  obtain ⟨roots, s₄, hroots, hreports⟩ := hscans.of_bind
  obtain ⟨_, s₅, hreport, hgenerates⟩ := hreports.of_bind
  obtain ⟨generated, s₆, hgenerated, hpure⟩ := hgenerates.of_bind
  obtain ⟨hresult, rfl⟩ := hpure.unique (gives_pure _ s₆)
  obtain ⟨rfl, rfl⟩ := Prod.mk.inj hresult
  rw [of_report hstart] at hroots
  obtain ⟨v, hfound, rfl⟩ := gives_ofScans_iff.1 hroots
  rw [of_report hreport, of_report hstart] at hgenerated
  exact ⟨_, roots, v, _, rfl, hfound, hgenerated⟩

/-- A run succeeds as its steps do. -/
theorem result_eq_ok_iff {summary : RunSummary} : (runWorkflow imp c).result = .ok summary ↔
    ∃ t, Gives (steps imp c) { files := imp.files, session := .empty } summary t := by
  unfold runWorkflow Gives
  generalize (steps imp c).run.run { files := imp.files, session := .empty } = outcome
  obtain ⟨result, t⟩ := outcome
  constructor
  · intro h
    cases h
    exact ⟨t, rfl⟩
  · rintro ⟨u, h⟩
    cases h
    rfl

/-- The lookups of a run leave its session fresh. -/
theorem of_steps {summary : RunSummary}
    (h : Gives (steps imp c) { files := imp.files, session := .empty } summary t) :
    ∃ s, s.files = (lookupsIn imp c imp.files).files ∧ s.session.IsFresh ∧
      Gives (scanStep imp c) s (summary.discovered, summary.generated) t := by
  obtain ⟨_, s₁, hstart, hrest⟩ := h.of_bind
  obtain ⟨paths, s₂, hlookups, hscans⟩ := hrest.of_bind
  obtain ⟨⟨discovered, generated⟩, s₃, hscan, hpure⟩ := hscans.of_bind
  obtain ⟨rfl, rfl⟩ := hpure.unique (gives_pure _ s₃)
  rw [of_report hstart] at hlookups
  obtain ⟨hfiles, log, hsession⟩ := of_lookupStep hlookups
  refine ⟨s₂, hfiles, ?_, hscan⟩
  rw [hsession]
  exact ⟨rfl, rfl, rfl⟩

end Runs

/-- A run finds roots after its lookups, in a fresh session.  They are generated in a world that has
all classes from before, and further ones if describing the available types defines any. -/
def Config.FindsRoots (c : Config String) (imp : Importer) (roots : List ClassRef) (v : World) :
    Prop :=
  ∃ files s t, files = (Runs.lookupsIn imp c imp.files).files ∧
    s.IsFresh ∧ Gives (Scans.roots { imp with files } c.targets) s roots t ∧
    t.world.classes <+: v.classes ∧ (roots ≠ [] → ∃ log types u,
      Gives (Scans.available { imp with files } c.targets) { t with log } types u ∧ u.world = v)

theorem World.info?_of_prefix {w v : World} {r : ClassRef} (h : w.classes <+: v.classes)
    (hr : (w.info? r).isSome = true) : (v.info? r).isSome = true := by
  cases r with
  | standard name => cases hr
  | defined i =>
    obtain ⟨info, hinfo⟩ := Option.isSome_iff_exists.1 hr
    obtain ⟨more, hmore⟩ := h
    obtain ⟨hlt, -⟩ := List.getElem?_eq_some_iff.1 hinfo
    show (v.classes[i]?).isSome = true
    rw [← hmore, List.getElem?_append_left hlt]
    exact hr

/-- Roots are marked, so the world knows them. -/
theorem Scans.info?_of_roots {imp : Importer} {texts : List String} {s t : Session}
    {roots : List ClassRef} (hindexes : s.indexes = []) (h : Gives (Scans.roots imp texts) s roots t) :
    ∀ r ∈ roots, (t.world.info? r).isSome = true := by
  intro r hr
  obtain ⟨_, _, second, _, _, _, _, hclasses⟩ := (gives_roots_iff hindexes).1 ⟨t, h, rfl⟩
  rw [hclasses, World.rootsOf_classes] at hr
  have hmarked := List.mem_of_find?_eq_some (World.find?_of_mem_firstOfName hr).2
  unfold World.markedClasses World.marker? at hmarked
  have hmarker := (List.mem_filter.1 hmarked).2
  cases hinfo : t.world.info? r with
  | some info => rfl
  | none =>
    rw [hinfo] at hmarker
    cases hmarker

/-- Describing the available types loses no class. -/
theorem Scans.prefix_of_available {imp : Importer} {texts : List String} {s t : Session}
    {types : List (String × Descriptor)} (h : Gives (available imp texts) s types t) :
    s.world.classes <+: t.world.classes :=
  Ends.of_gives (keepsClasses_available imp texts s) h

/-- The scan counts the roots that it finds, and reports the files of those that have one. -/
theorem Config.findsRoots_of_scanStep {imp : Importer} {c : Config String} {s t : RunState} {n : Nat}
    {result : Generated} (htargets : c.targets ≠ [])
    (hfiles : s.files = (Runs.lookupsIn imp c imp.files).files)
    (hfresh : s.session.IsFresh) (h : Gives (Runs.scanStep imp c) s (n, result) t) :
    ∃ roots v, c.FindsRoots imp roots v ∧ n = roots.length ∧
      (result.interfaceFiles ++ result.enumFiles).Perm (roots.filterMap (c.rootFile? v)) := by
  obtain ⟨log, roots, u, log', hcount, hroots, hgenerated⟩ := Runs.of_scanStep htargets h
  have hknown := Scans.info?_of_roots (hfresh.withLog log).indexes hroots
  by_cases hne : roots = []
  · subst hne
    refine ⟨[], u.world, ⟨s.files, _, u, hfiles, hfresh.withLog log, hroots,
      List.prefix_refl _, fun hne => absurd rfl hne⟩, hcount, ?_⟩
    rw [Runs.of_generationStep_nil hgenerated]
    exact .refl _
  · obtain ⟨log'', types, v, havailable, described, hdescribed, hreported⟩ :=
      Runs.of_generationStep hne hgenerated
    have hkeeps : u.world.classes <+: described.world.classes :=
      hdescribed ▸ Scans.prefix_of_available (s := { u with log := log'' }) havailable
    refine ⟨roots, described.world, ⟨s.files, _, u, hfiles, hfresh.withLog log, hroots, hkeeps,
      fun _ => ⟨log'', types, v, havailable, hdescribed.symm⟩⟩, hcount, ?_⟩
    rw [hreported]
    exact Universe.reported_roots c fun r hr => World.info?_of_prefix hkeeps (hknown r hr)

/-- A run that succeeds counts all roots that it finds, and writes one file for each that is an
enumeration or does not derive from a mapped primitive.  So as many files are written as roots are
discovered exactly if there are no other roots. -/
theorem Config.discovered_eq_total_iff (imp : Importer) (c : Config String) {summary : RunSummary}
    (h : (runWorkflow imp c).result = .ok summary) :
    (c.targets = [] → summary.discovered = 0 ∧ summary.generated.total = 0) ∧
    (c.targets ≠ [] → ∃ roots v, c.FindsRoots imp roots v ∧
      summary.discovered = roots.length ∧
      (summary.generated.interfaceFiles ++ summary.generated.enumFiles).Perm
        (roots.filterMap (c.rootFile? v)) ∧
      (summary.discovered = summary.generated.total ↔
        ∀ r ∈ roots, v.isEnumeration r = true ∨ ¬v.DerivesPrimitive r)) := by
  obtain ⟨t, hsteps⟩ := Runs.result_eq_ok_iff.1 h
  obtain ⟨s, hfiles, hfresh, hscan⟩ := Runs.of_steps hsteps
  constructor
  · intro htargets
    unfold Runs.scanStep at hscan
    rw [if_pos (by simp [htargets])] at hscan
    obtain ⟨_, u, -, hpure⟩ := hscan.of_bind
    obtain ⟨hresult, -⟩ := hpure.unique (gives_pure _ u)
    obtain ⟨hdiscovered, hgenerated⟩ := Prod.mk.inj hresult
    rw [hdiscovered, hgenerated]
    exact ⟨rfl, rfl⟩
  · intro htargets
    obtain ⟨roots, v, hfinds, hdiscovered, hperm⟩ :=
      findsRoots_of_scanStep htargets hfiles hfresh hscan
    have htotal : summary.generated.total = (roots.filterMap (c.rootFile? v)).length := by
      rw [← hperm.length_eq, List.length_append]
      rfl
    refine ⟨roots, v, hfinds, hdiscovered, hperm, ?_⟩
    rw [hdiscovered, htotal, List.length_filterMap_eq_countP, eq_comm, List.countP_eq_length]
    simp only [Config.rootFile?_isSome_iff]

/-- A module with an enumeration and a class of texts, both marked. -/
def mailroom : Importer :=
  .ofEntries [[]]
    [(["mail.py"], .file (.module
      { prelude := [("enum", "enum")], deferred := false, typeVariables := []
        body := [
          .define (.mk "Size" .enumeration [.attribute (.name "enum") "Enum"] [] (some none) []
            [("SMALL", .int 1)] [] [] [] none false),
          .plainClass "Email" true [.name "str"] []] } []))]

def mailConfig : Config String where
  connection := ""
  targets := ["mail.py"]
  interfaceDirectory := "models"
  enumDirectory := "ts"
  moduleDirectory := "enums"
  sources := []
  manifests := false
  camelCaseKeys := true
  header := false
  dropNavigation := true
  inlineNested := true
  keepIgnored := true
  typeMappings := []

theorem steps_of_mailroom : Succeeds (Runs.steps mailroom mailConfig)
    { files := mailroom.files, session := .empty } fun summary _ =>
      summary.discovered = 2 ∧ summary.generated.total = 1 := by
  decide +kernel

/-- The class of texts is discovered, and no file is written for it. -/
theorem email_is_not_written : ∃ summary, (runWorkflow mailroom mailConfig).result = .ok summary ∧
    summary.discovered = 2 ∧ summary.generated.total = 1 ∧
    ∃ roots v, mailConfig.FindsRoots mailroom roots v ∧ roots.length = 2 ∧
      ∃ r ∈ roots, v.isEnumeration r = false ∧ v.DerivesPrimitive r := by
  obtain ⟨summary, t, hsteps, hdiscovered, htotal⟩ := steps_of_mailroom
  have hresult : (runWorkflow mailroom mailConfig).result = .ok summary :=
    Runs.result_eq_ok_iff.2 ⟨t, hsteps⟩
  obtain ⟨-, hroots⟩ := Config.discovered_eq_total_iff mailroom mailConfig hresult
  obtain ⟨roots, v, hfinds, hlength, -, hiff⟩ := hroots (by decide)
  have hsome : ¬∀ r ∈ roots, v.isEnumeration r = true ∨ ¬v.DerivesPrimitive r := by
    rw [← hiff, hdiscovered, htotal]
    decide
  rw [not_forall] at hsome
  obtain ⟨r, hr⟩ := hsome
  rw [Classical.not_imp, not_or, not_not, Bool.not_eq_true] at hr
  exact ⟨summary, hresult, hdiscovered, htotal, roots, v, hfinds, hlength ▸ hdiscovered, r, hr⟩

end TypeExport

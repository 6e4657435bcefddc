import Mathlib.Data.List.Basic
import Mathlib.Data.List.Nodup
import TypeExport.Proofs.Translation.Closure

/-!
# Names of declarations

An artifact declares each source type once, but under its target name, and types of different modules
may share one.  The declared names differ exactly if the target names of the declared types do.  A
property refers to a type by its target name as well, so it is such types that make a reference
ambiguous.
-/

/-!
## The fields of a declaration

The fields of a declaration are those of the kept properties of its type, in order, and each of them
is a function of its property and of the policy.  A draft has no part in the target type of a shape:
what was seen before decides only whether an interface is collected.
-/

namespace TypeExport.TypeGraph

open Visit

variable {ε : Type} {g : TypeGraph ε} {policy : Policy}

/-- The target type of a shape is the stateless one in every draft. -/
theorem resolve_eq_typeText {b : Draft g} {shape : Shape g.Node} {text : String}
    (h : (g.resolve policy b shape).1 = .ok text) : text = g.typeText policy shape := by
  have hresult := ((resolves g policy).1 b shape).1
  rw [h] at hresult
  exact (outcome_eq_ok hresult.symm).2.symm

/-- Only a required type that stands by itself is not optional. -/
theorem isOptional_eq_false_iff {p : Property g.Node} :
    g.isOptional p = false ↔
      (∃ t, p.shape = .direct t ∧ (g.descriptor t).required = true) ∧ p.ignored = false := by
  unfold isOptional
  cases p.shape with
  | direct t =>
    rw [Bool.or_eq_false_iff, Bool.not_eq_false']
    constructor
    · rintro ⟨hrequired, hignored⟩
      exact ⟨⟨t, rfl, hrequired⟩, hignored⟩
    · rintro ⟨⟨s, hs, hrequired⟩, hignored⟩
      cases hs
      exact ⟨hrequired, hignored⟩
  | nullable s => simp
  | array s => simp
  | dictionary k v => simp

section Root

variable {root : g.Node} {properties : List (Property g.Node)} {a : Artifact}

/-- A declaration is the interface of its type, with the stateless fields. -/
theorem exists_eq_interfaceOf (hp : g.properties root = .ok properties)
    (ha : Declares g policy root properties a) {d : Declaration} (hd : d ∈ a.declarations) :
    ∃ t others, g.Reached policy root t ∧ g.properties t = .ok others ∧
      d = interfaceOf policy (g.descriptor t) (g.fields policy others) d.exported := by
  rcases List.mem_append.1 hd with hd | hd
  · obtain ⟨v, hv, others, hothers, rfl⟩ := (mem_nested_iff ha).1 hd
    exact ⟨v.node, others, .inr (transGen_of_mem_visitsBelow hp hv), hothers, rfl⟩
  · rw [List.mem_singleton.1 hd, ha.root_eq]
    exact ⟨root, properties, .inl rfl, hp, rfl⟩

end Root

/-- The declarations of an artifact are those of a translation without a state: the fields of each
one are the kept properties of its type in their order, with the stateless target types. -/
theorem declarations_eq_stateless (g : TypeGraph ε) (policy : Policy) (root : g.Node)
    (hname : g.IsDetermined) (hkind : (g.descriptor root).kind ≠ .enumeration)
    (hread : ∀ t, g.Reached policy root t → ∃ properties, g.properties t = .ok properties) :
    ∃ a, g.artifact policy root = .ok a ∧
      (∀ d ∈ a.declarations,
        (∃ t, g.Reached policy root t ∧ (g.descriptor t).fullName = d.source) ∧
        ∀ t, (g.descriptor t).fullName = d.source → ∃ properties,
          g.properties t = .ok properties ∧
          d.fields = (properties.filter policy.keeps).map (fun p =>
            { name := p.name, typeText := g.typeText policy p.shape, optional := g.isOptional p }) ∧
          d = interfaceOf policy (g.descriptor t) d.fields d.exported) ∧
      (∀ p : Property g.Node, g.isOptional p = false ↔
        (∃ t, p.shape = .direct t ∧ (g.descriptor t).required = true) ∧ p.ignored = false) ∧
      ∀ (b : Draft g) (shape : Shape g.Node) (text : String),
        (g.resolve policy b shape).1 = .ok text → text = g.typeText policy shape := by
  obtain ⟨properties, hp⟩ := hread root (.inl rfl)
  have hn := failure?_visitsBelow hp hread
  obtain ⟨a, hrun, ha⟩ := artifact_of_visits hkind hp hn
  refine ⟨a, hrun, fun d hd => ?_, fun p => isOptional_eq_false_iff,
    fun b shape text => resolve_eq_typeText⟩
  obtain ⟨s, others, hs, hothers, heq⟩ := exists_eq_interfaceOf hp ha hd
  have hsource : d.source = (g.descriptor s).fullName := congrArg Declaration.source heq
  have hfields : d.fields = g.fields policy others := congrArg Declaration.fields heq
  refine ⟨⟨s, hs, hsource.symm⟩, fun t ht => ?_⟩
  obtain ⟨hdescriptor, hproperties⟩ := hname t s (ht.trans hsource)
  refine ⟨others, hproperties.trans hothers, hfields, ?_⟩
  rw [hdescriptor, hfields]
  exact heq

theorem declarations_of_ring :
    ring.IsDetermined ∧ (ring.descriptor (0 : Fin 4)).kind ≠ .enumeration ∧
      (∀ t : Fin 4, ring.Reached {} (0 : Fin 4) t → ∃ properties, ring.properties t = .ok properties) ∧
      ∃ a, ring.artifact {} (0 : Fin 4) = .ok a ∧ ∀ d ∈ a.declarations,
        ∀ t : Fin 4, (ring.descriptor t).fullName = d.source → ∃ properties,
          ring.properties t = .ok properties ∧ d.fields = ring.fields {} properties := by
  obtain ⟨a, hrun, hfields, -, -⟩ := declarations_eq_stateless ring {} (0 : Fin 4)
    ring_isDetermined (by decide) ring_properties_of_reached
  refine ⟨ring_isDetermined, by decide, ring_properties_of_reached, a, hrun, fun d hd t ht => ?_⟩
  obtain ⟨properties, hp, heq, -⟩ := (hfields d hd).2 t ht
  exact ⟨properties, hp, heq⟩

end TypeExport.TypeGraph

/-!
## Target names that differ
-/

namespace TypeExport.TypeGraph

open Visit

variable {ε : Type} (g : TypeGraph ε)

/-- A type that an artifact declares: the root and, unless that is an enumeration, what it reaches. -/
def IsDeclared (policy : Policy) (root t : g.Node) : Prop :=
  t = root ∨ (g.descriptor root).kind ≠ .enumeration ∧ g.Reached policy root t

/-- A kept property of `s` is written with the target name of `t`, which is an enumeration or a type
that is inlined. -/
def Refers (policy : Policy) (s t : g.Node) : Prop :=
  policy.mapping? (g.descriptor t) = none ∧
    ((g.descriptor t).kind = .enumeration ∨
      IsInlined policy (g.descriptor t) ∧ policy.inlineNested = true) ∧
    ∃ properties, g.properties s = .ok properties ∧
      ∃ p ∈ properties, policy.keeps p = true ∧ g.Holds p.shape t

variable {g} {policy : Policy} {root : g.Node} {a : Artifact}

theorem isDeclared_root : g.IsDeclared policy root root :=
  .inl rfl

theorem isDeclared_iff_reached (hkind : (g.descriptor root).kind ≠ .enumeration) {t : g.Node} :
    g.IsDeclared policy root t ↔ g.Reached policy root t := by
  constructor
  · rintro (rfl | ⟨-, ht⟩)
    · exact .inl rfl
    · exact ht
  · exact fun ht => .inr ⟨hkind, ht⟩

/-- The artifact of an enumeration is its declaration. -/
theorem artifact_of_enumeration (hkind : (g.descriptor root).kind = .enumeration) :
    g.artifact policy root = .ok { root := enumerationOf policy (g.descriptor root) } := by
  unfold artifact translate
  rw [if_pos hkind]

/-- Every artifact of a type that is no enumeration comes from visits without a failure. -/
theorem visits_of_artifact (hkind : (g.descriptor root).kind ≠ .enumeration)
    (h : g.artifact policy root = .ok a) :
    ∃ properties, g.properties root = .ok properties ∧
      failure? (g.visitsBelow policy root properties) = none ∧
      Declares g policy root properties a := by
  obtain ⟨properties, hp, ha⟩ := declares_of_artifact hkind h
  refine ⟨properties, hp, ?_, ha⟩
  cases hn : failure? (g.visitsBelow policy root properties) with
  | none => rfl
  | some e =>
    rw [artifact_of_failure hkind hp hn] at h
    cases h

/-- The sources of the declarations are the root and the visited types. -/
theorem nodup_sources (h : g.artifact policy root = .ok a) :
    (a.declarations.map (·.source)).Nodup := by
  by_cases hkind : (g.descriptor root).kind = .enumeration
  · rw [artifact_of_enumeration hkind] at h
    cases h
    exact List.nodup_singleton _
  · obtain ⟨properties, hp, hn, ha⟩ := visits_of_artifact hkind h
    have hnested := ha.nested_perm.map (·.source)
    rw [source_of_mem_collected hn] at hnested
    unfold Artifact.declarations
    rw [List.map_append, List.map_singleton, ha.root_eq]
    refine List.Nodup.append (hnested.nodup_iff.2 (nodup_walk _ _)) (List.nodup_singleton _) ?_
    intro name hname hroot
    obtain ⟨v, hv, rfl⟩ := List.mem_map.1 (hnested.mem_iff.1 hname)
    exact fullName_not_mem_of_mem_walk hv hroot

/-- A declaration has the names of a declared type. -/
theorem exists_isDeclared (h : g.artifact policy root = .ok a) {d : Declaration}
    (hd : d ∈ a.declarations) :
    ∃ t, g.IsDeclared policy root t ∧ d.source = (g.descriptor t).fullName ∧
      d.target = (g.descriptor t).targetName := by
  by_cases hkind : (g.descriptor root).kind = .enumeration
  · rw [artifact_of_enumeration hkind] at h
    cases h
    rw [List.mem_singleton.1 hd]
    exact ⟨root, isDeclared_root, rfl, rfl⟩
  · obtain ⟨properties, hp, -, ha⟩ := visits_of_artifact hkind h
    obtain ⟨t, others, ht, -, heq⟩ := exists_eq_interfaceOf hp ha hd
    exact ⟨t, .inr ⟨hkind, ht⟩, congrArg Declaration.source heq, congrArg Declaration.target heq⟩

/-- A declared type has a declaration with its names. -/
theorem exists_declaration_of_isDeclared (hname : g.IsDetermined)
    (h : g.artifact policy root = .ok a) {t : g.Node} (ht : g.IsDeclared policy root t) :
    ∃ d ∈ a.declarations, d.source = (g.descriptor t).fullName ∧
      d.target = (g.descriptor t).targetName := by
  by_cases hkind : (g.descriptor root).kind = .enumeration
  · obtain rfl | ⟨hne, -⟩ := ht
    · rw [artifact_of_enumeration hkind] at h
      cases h
      exact ⟨_, List.mem_singleton_self _, rfl, rfl⟩
    · exact absurd hkind hne
  · obtain ⟨properties, hp, hn, ha⟩ := visits_of_artifact hkind h
    exact exists_declaration hname hp hn ha ((isDeclared_iff_reached hkind).1 ht)

/-- The declared names differ from one another exactly if no two declared types share one. -/
theorem nodup_targets_iff (hname : g.IsDetermined) (h : g.artifact policy root = .ok a) :
    (a.declarations.map (·.target)).Nodup ↔
      ∀ s t, g.IsDeclared policy root s → g.IsDeclared policy root t →
        (g.descriptor s).targetName = (g.descriptor t).targetName →
        (g.descriptor s).fullName = (g.descriptor t).fullName := by
  have hsources := nodup_sources h
  constructor
  · intro htargets s t hs ht hsame
    obtain ⟨d, hd, hsource, htarget⟩ := exists_declaration_of_isDeclared hname h hs
    obtain ⟨e, he, hsource', htarget'⟩ := exists_declaration_of_isDeclared hname h ht
    have heq : d = e :=
      List.inj_on_of_nodup_map htargets hd he (htarget.trans (hsame.trans htarget'.symm))
    rw [← hsource, ← hsource', heq]
  · intro hdistinct
    refine List.Nodup.map_on (fun d hd e he hsame => ?_) hsources.of_map
    obtain ⟨s, hs, hsource, htarget⟩ := exists_isDeclared h hd
    obtain ⟨t, ht, hsource', htarget'⟩ := exists_isDeclared h he
    refine List.inj_on_of_nodup_map hsources hd he ?_
    rw [hsource, hsource']
    exact hdistinct s t hs ht (htarget.symm.trans (hsame.trans htarget'))

/-- A reference is the target name of its type. -/
theorem Refers.typeText {s t : g.Node} (h : g.Refers policy s t) :
    g.typeText policy (.direct t) = (g.descriptor t).targetName := by
  obtain ⟨hmapping, hkind, -⟩ := h
  unfold TypeGraph.typeText Policy.typeName
  rw [hmapping]
  dsimp only
  rcases hkind with hkind | ⟨hinlined, hnested⟩
  · rw [if_pos hkind]
  · have hinline : (g.descriptor t).isInlined = true := by
      simp [Descriptor.isInlined, hinlined.kind, hinlined.origin]
    rw [if_neg (by simp [hinlined.kind]), if_pos hinline, if_pos hnested]

/-- What a reached type refers to is an enumeration, or reached as well. -/
theorem Refers.reached {s t : g.Node} (h : g.Refers policy s t) (hs : g.Reached policy root s)
    (hkind : (g.descriptor t).kind ≠ .enumeration) : g.Reached policy root t := by
  obtain ⟨-, hkind' | ⟨hinlined, hnested⟩, hholds⟩ := h
  · exact absurd hkind' hkind
  · have hedge : g.Inlines policy s t := ⟨hinlined, hholds⟩
    refine .inr ⟨hnested, ?_⟩
    obtain rfl | ⟨-, hsteps⟩ := hs
    · exact .single hedge
    · exact hsteps.tail hedge

/-- Below a root that is no enumeration, none is reached. -/
theorem Reached.kind_ne_enumeration (hkind : (g.descriptor root).kind ≠ .enumeration) {t : g.Node}
    (ht : g.Reached policy root t) : (g.descriptor t).kind ≠ .enumeration := by
  obtain rfl | ⟨-, hsteps⟩ := ht
  · exact hkind
  · obtain ⟨_, -, hinlines⟩ := Relation.TransGen.tail'_iff.1 hsteps
    rw [hinlines.1.kind]
    exact nofun

/-- The artifact of a type that is no enumeration declares none. -/
theorem source_ne_of_enumeration (hname : g.IsDetermined) (h : g.artifact policy root = .ok a)
    (hkind : (g.descriptor root).kind ≠ .enumeration) {t : g.Node}
    (ht : (g.descriptor t).kind = .enumeration) {d : Declaration} (hd : d ∈ a.declarations) :
    d.source ≠ (g.descriptor t).fullName := by
  intro hsame
  obtain ⟨u, hu, hsource, -⟩ := exists_isDeclared h hd
  refine ((isDeclared_iff_reached hkind).1 hu).kind_ne_enumeration hkind ?_
  rw [(hname u t (hsource.symm.trans hsame)).1, ht]

/-- The declarations of an artifact are of different source types.  Their names differ exactly if
the declared types have different target names.  A reference is the target name of its type.  A class
is declared under it, and an enumeration is not declared; no declaration of another type has the name
unless another declared type has it. -/
theorem declared_names_distinct_iff (g : TypeGraph ε) (policy : Policy) (root : g.Node)
    (hname : g.IsDetermined) (h : g.artifact policy root = .ok a) :
    (a.declarations.map (·.source)).Nodup ∧
    ((a.declarations.map (·.target)).Nodup ↔
      ∀ s t, g.IsDeclared policy root s → g.IsDeclared policy root t →
        (g.descriptor s).targetName = (g.descriptor t).targetName →
        (g.descriptor s).fullName = (g.descriptor t).fullName) ∧
    ∀ s t, (g.descriptor root).kind ≠ .enumeration → g.Reached policy root s →
      g.Refers policy s t →
      g.typeText policy (.direct t) = (g.descriptor t).targetName ∧
      ((g.descriptor t).kind ≠ .enumeration → ∃ d ∈ a.declarations,
        d.source = (g.descriptor t).fullName ∧ d.target = (g.descriptor t).targetName) ∧
      ((g.descriptor t).kind = .enumeration →
        ∀ d ∈ a.declarations, d.source ≠ (g.descriptor t).fullName) ∧
      ((∀ d ∈ a.declarations, d.target = (g.descriptor t).targetName →
          d.source = (g.descriptor t).fullName) ↔
        ∀ u, g.IsDeclared policy root u →
          (g.descriptor u).targetName = (g.descriptor t).targetName →
          (g.descriptor u).fullName = (g.descriptor t).fullName) := by
  refine ⟨nodup_sources h, nodup_targets_iff hname h, fun s t hkind hs hrefers =>
    ⟨hrefers.typeText, fun hclass => ?_,
      fun henumeration _ => source_ne_of_enumeration hname h hkind henumeration,
      fun honly u hu hsame => ?_, fun honly d hd hsame => ?_⟩⟩
  · exact exists_declaration_of_isDeclared hname h
      ((isDeclared_iff_reached hkind).2 (hrefers.reached hs hclass))
  · obtain ⟨d, hd, hsource, htarget⟩ := exists_declaration_of_isDeclared hname h hu
    rw [← hsource]
    exact honly d hd (htarget.trans hsame)
  · obtain ⟨u, hu, hsource, htarget⟩ := exists_isDeclared h hd
    rw [hsource]
    exact honly u hu (htarget.symm.trans hsame)

theorem exists_artifact_of_ring : ∃ a, ring.artifact {} (0 : Fin 4) = .ok a := by
  obtain ⟨properties, hp⟩ := ring_properties_of_reached 0 (.inl rfl)
  obtain ⟨a, ha, -⟩ : ∃ a, ring.artifact {} (0 : Fin 4) = .ok a ∧ Declares ring {} _ properties a :=
    artifact_of_visits (by decide) hp (failure?_visitsBelow hp ring_properties_of_reached)
  exact ⟨a, ha⟩

/-- In the ring the names differ, so `C` stands for one type. -/
theorem declared_names_of_ring :
    ring.IsDetermined ∧ ∃ a, ring.artifact {} (0 : Fin 4) = .ok a ∧
      (a.declarations.map (·.target)).Nodup ∧
      ring.Refers {} (0 : Fin 4) (2 : Fin 4) ∧
      ∀ d ∈ a.declarations, d.target = "C" → d.source = "app.C" := by
  have hnames : ∀ s t : Fin 4, (ring.descriptor s).targetName = (ring.descriptor t).targetName →
      (ring.descriptor s).fullName = (ring.descriptor t).fullName := by
    decide
  have hrefers : ring.Refers {} (0 : Fin 4) (2 : Fin 4) :=
    ⟨rfl, .inr ⟨⟨rfl, rfl, rfl, rfl⟩, rfl⟩, _, rfl, _, List.mem_cons_of_mem _ List.mem_cons_self,
      rfl, .nullable (.direct _)⟩
  obtain ⟨a, ha⟩ := exists_artifact_of_ring
  obtain ⟨-, htargets, hreferences⟩ :=
    declared_names_distinct_iff ring {} (0 : Fin 4) ring_isDetermined ha
  obtain ⟨-, -, -, honly⟩ := hreferences (0 : Fin 4) (2 : Fin 4) (by decide) (.inl rfl) hrefers
  exact ⟨ring_isDetermined, a, ha, htargets.2 fun s t _ _ => hnames s t, hrefers,
    honly.2 fun u _ => hnames u (2 : Fin 4)⟩

/-- A class with properties of two classes that have one short name. -/
def twins : TypeGraph String where
  Node := Fin 3
  descriptor t :=
    { fullName := ["app.Root", "x.Item", "y.Item"][t], shortName := ["Root", "Item", "Item"][t]
      kind := .record, origin := .scanned }
  properties t :=
    match t with
    | 0 => .ok [{ name := "a", shape := .direct 1 }, { name := "b", shape := .direct 2 }]
    | _ => .ok []
  fullNames := ["app.Root", "x.Item", "y.Item"]
  fullName_mem t := List.getElem_mem _

theorem twins_isDetermined : twins.IsDetermined := by
  have hinj : ∀ s t : Fin 3, (twins.descriptor s).fullName = (twins.descriptor t).fullName → s = t := by
    decide
  intro s t h
  rw [hinj s t h]
  exact ⟨rfl, rfl⟩

theorem exists_artifact_of_twins : ∃ a, twins.artifact {} (0 : Fin 3) = .ok a := by
  have hread : ∀ t : Fin 3, ∃ properties, twins.properties t = .ok properties
    | 0 | 1 | 2 => ⟨_, rfl⟩
  obtain ⟨properties, hp⟩ := hread 0
  obtain ⟨a, ha, -⟩ : ∃ a, twins.artifact {} (0 : Fin 3) = .ok a ∧ Declares twins {} _ properties a :=
    artifact_of_visits (by decide) hp (failure?_visitsBelow hp fun t _ => hread t)
  exact ⟨a, ha⟩

/-- The twins are declared under one name. -/
theorem twins_share_name :
    twins.IsDetermined ∧ ∃ a, twins.artifact {} (0 : Fin 3) = .ok a ∧
      ¬(a.declarations.map (·.target)).Nodup := by
  have hfirst : twins.Inlines {} (0 : Fin 3) (1 : Fin 3) :=
    ⟨⟨rfl, rfl, rfl, rfl⟩, _, rfl, _, List.mem_cons_self, rfl, .direct _⟩
  have hsecond : twins.Inlines {} (0 : Fin 3) (2 : Fin 3) :=
    ⟨⟨rfl, rfl, rfl, rfl⟩, _, rfl, _, List.mem_cons_of_mem _ List.mem_cons_self, rfl, .direct _⟩
  have hdeclared : ∀ t : Fin 3, twins.Inlines {} (0 : Fin 3) t → twins.IsDeclared {} (0 : Fin 3) t :=
    fun t hedge => .inr ⟨by decide, .inr ⟨rfl, .single hedge⟩⟩
  obtain ⟨a, ha⟩ := exists_artifact_of_twins
  refine ⟨twins_isDetermined, a, ha, fun htargets => ?_⟩
  have hsame := (nodup_targets_iff twins_isDetermined ha).1 htargets (1 : Fin 3) (2 : Fin 3)
    (hdeclared 1 hfirst) (hdeclared 2 hsecond) rfl
  exact absurd hsame (by decide)

end TypeExport.TypeGraph

/-!
## Policies that keep more properties

A policy that keeps more properties and is otherwise the same inlines whatever was inlined before, so
an artifact only gains declarations and fields.  What a field says does not change.
-/

namespace TypeExport

/-- The policy with other choices about the properties that are kept. -/
def Policy.withFilters (policy : Policy) (dropNavigation keepIgnored : Bool) : Policy :=
  { policy with dropNavigation, keepIgnored }

namespace TypeGraph

open Relation Visit

variable {ε : Type} {g : TypeGraph ε} {policy : Policy} {drop keep : Bool}

/-- Filters that drop less keep what was kept. -/
theorem keeps_withFilters {ι : Type} {p : Property ι}
    (hdrop : drop = true → policy.dropNavigation = true)
    (hkeep : policy.keepIgnored = true → keep = true) (h : policy.keeps p = true) :
    (policy.withFilters drop keep).keeps p = true := by
  simp only [Policy.keeps, Policy.withFilters, Bool.and_eq_true, Bool.or_eq_true,
    Bool.not_eq_true', Bool.and_eq_false_iff] at h ⊢
  obtain ⟨hnavigation, hignored⟩ := h
  refine ⟨?_, hignored.imp_right hkeep⟩
  rcases hnavigation with hnone | hplain
  · refine .inl (Bool.eq_false_iff.2 fun h => ?_)
    rw [hdrop h] at hnone
    cases hnone
  · exact .inr hplain

/-- What a field says of its property does not depend on which properties are kept. -/
theorem fieldOf_withFilters (p : Property g.Node) :
    g.fieldOf (policy.withFilters drop keep) p = g.fieldOf policy p := by
  have htext : ∀ shape : Shape g.Node,
      g.typeText (policy.withFilters drop keep) shape = g.typeText policy shape := by
    intro shape
    induction shape with
    | direct t => rfl
    | nullable s ih => exact ih
    | array s ih => exact congrArg (· ++ "[]") ih
    | dictionary k v _ ih => rw [typeText, typeText, ih]
  unfold fieldOf
  rw [htext]

theorem fields_sublist (hdrop : drop = true → policy.dropNavigation = true)
    (hkeep : policy.keepIgnored = true → keep = true) (properties : List (Property g.Node)) :
    (g.fields policy properties).Sublist (g.fields (policy.withFilters drop keep) properties) := by
  have hsame : g.fieldOf (policy.withFilters drop keep) = g.fieldOf policy :=
    funext fieldOf_withFilters
  unfold fields
  rw [hsame]
  exact (List.monotone_filter_right properties fun _ => keeps_withFilters hdrop hkeep).map _

theorem Inlines.withFilters {t u : g.Node} (hdrop : drop = true → policy.dropNavigation = true)
    (hkeep : policy.keepIgnored = true → keep = true) (h : g.Inlines policy t u) :
    g.Inlines (policy.withFilters drop keep) t u := by
  obtain ⟨⟨hkind, horigin, hfull, hshort⟩, properties, hp, p, hmem, hkeeps, hholds⟩ := h
  exact ⟨⟨hkind, horigin, hfull, hshort⟩, properties, hp, p, hmem,
    keeps_withFilters hdrop hkeep hkeeps, hholds⟩

theorem mem_nested_sources_iff {root : g.Node} {properties : List (Property g.Node)} {a : Artifact}
    (hname : g.IsDetermined) (hp : g.properties root = .ok properties)
    (hn : failure? (g.visitsBelow policy root properties) = none)
    (ha : Declares g policy root properties a) {name : String} :
    name ∈ a.nested.map (·.source) ↔ policy.inlineNested = true ∧
      name ≠ (g.descriptor root).fullName ∧
        ∃ t, TransGen (g.Inlines policy) root t ∧ (g.descriptor t).fullName = name := by
  have hsources := ha.nested_perm.map (·.source)
  rw [source_of_mem_collected hn] at hsources
  rw [hsources.mem_iff, List.mem_map, mem_sources_iff hname hp hn]

/-- Keeping more properties adds declarations and fields and takes none away: what stood beside the
root still does, and the fields of a declaration are among the later ones, in order and unchanged. -/
theorem artifact_of_kept_more (g : TypeGraph ε) (policy : Policy) (root : g.Node)
    (drop keep : Bool) (hname : g.IsDetermined)
    (hread : ∀ t, ∃ properties, g.properties t = .ok properties)
    (hdrop : drop = true → policy.dropNavigation = true)
    (hkeep : policy.keepIgnored = true → keep = true) :
    ∃ a b, g.artifact policy root = .ok a ∧
      g.artifact (policy.withFilters drop keep) root = .ok b ∧
      (∀ name ∈ a.nested.map (·.source), name ∈ b.nested.map (·.source)) ∧
      ∀ d ∈ a.declarations, ∀ e ∈ b.declarations, d.source = e.source →
        d.fields.Sublist e.fields := by
  by_cases hkind : (g.descriptor root).kind = .enumeration
  · refine ⟨_, _, artifact_of_enumeration hkind, artifact_of_enumeration hkind,
      fun name hmem => hmem, fun d hd e he _ => ?_⟩
    rw [List.mem_singleton.1 hd, List.mem_singleton.1 he]
    exact .refl _
  · obtain ⟨properties, hp⟩ := hread root
    have hn : failure? (g.visitsBelow policy root properties) = none :=
      failure?_visitsBelow hp fun t _ => hread t
    have hn' : failure? (g.visitsBelow (policy.withFilters drop keep) root properties) = none :=
      failure?_visitsBelow hp fun t _ => hread t
    obtain ⟨a, hrun, ha⟩ := artifact_of_visits hkind hp hn
    obtain ⟨b, hrun', hb⟩ := artifact_of_visits hkind hp hn'
    have hedges : g.Inlines policy ≤ g.Inlines (policy.withFilters drop keep) :=
      fun _ _ => Inlines.withFilters hdrop hkeep
    refine ⟨a, b, hrun, hrun', fun name hmem => ?_, fun d hd e he hsource => ?_⟩
    · rw [mem_nested_sources_iff hname hp hn ha] at hmem
      obtain ⟨hnested, hne, t, hsteps, ht⟩ := hmem
      exact (mem_nested_sources_iff hname hp hn' hb).2
        ⟨hnested, hne, t, TransGen.mono hedges _ _ hsteps, ht⟩
    · obtain ⟨s, others, -, hothers, hd⟩ := exists_eq_interfaceOf hp ha hd
      obtain ⟨t, more, -, hmore, he⟩ := exists_eq_interfaceOf hp hb he
      -- one name, so one list of properties behind both declarations
      have hst : (g.descriptor s).fullName = (g.descriptor t).fullName := by
        rw [hd, he] at hsource
        exact hsource
      have hsame : others = more := by
        rw [(hname s t hst).2, hmore] at hothers
        exact (Except.ok.inj hothers).symm
      rw [hd, he, hsame]
      exact fields_sublist hdrop hkeep more

/-- Three classes: `app.Order` has a navigation to `app.User` and an ignored `app.Note`, and
`app.User` has a navigation back. -/
def orders : TypeGraph String where
  Node := Fin 3
  descriptor t :=
    { fullName := ["app.Order", "app.User", "app.Note"][t], shortName := ["Order", "User", "Note"][t]
      kind := .record, origin := .scanned }
  properties t :=
    match t with
    | 0 => .ok [{ name := "user", shape := .nullable (.direct 1), navigation := true },
                { name := "self", shape := .direct 0 },
                { name := "note", shape := .direct 2, ignored := true }]
    | 1 => .ok [{ name := "orders", shape := .array (.direct 0), navigation := true }]
    | 2 => .ok []
  fullNames := ["app.Order", "app.User", "app.Note"]
  fullName_mem t := List.getElem_mem _

theorem orders_isDetermined : orders.IsDetermined := by
  have hinj : ∀ s t : Fin 3,
      (orders.descriptor s).fullName = (orders.descriptor t).fullName → s = t := by
    decide
  intro s t h
  rw [hinj s t h]
  exact ⟨rfl, rfl⟩

theorem orders_properties (t : Fin 3) : ∃ properties, orders.properties t = .ok properties := by
  match t with
  | 0 => exact ⟨_, rfl⟩
  | 1 => exact ⟨_, rfl⟩
  | 2 => exact ⟨_, rfl⟩

/-- The ignored note is kept as before, and the navigation to the user comes in front of it. -/
theorem artifact_of_orders :
    orders.IsDetermined ∧ (∀ t : Fin 3, ∃ properties, orders.properties t = .ok properties) ∧
      (false = true → ({} : Policy).dropNavigation = true) ∧
      (({} : Policy).keepIgnored = true → true = true) ∧
      ∃ a b, orders.artifact {} (0 : Fin 3) = .ok a ∧
        orders.artifact (({} : Policy).withFilters false true) (0 : Fin 3) = .ok b ∧
        (∀ name ∈ a.nested.map (·.source), name ∈ b.nested.map (·.source)) ∧
        ∀ d ∈ a.declarations, ∀ e ∈ b.declarations, d.source = e.source →
          d.fields.Sublist e.fields := by
  have hdrop : false = true → ({} : Policy).dropNavigation = true := fun _ => rfl
  have hkeep : ({} : Policy).keepIgnored = true → true = true := fun _ => rfl
  exact ⟨orders_isDetermined, orders_properties, hdrop, hkeep,
    artifact_of_kept_more orders {} (0 : Fin 3) false true orders_isDetermined orders_properties
      hdrop hkeep⟩

end TypeGraph

end TypeExport

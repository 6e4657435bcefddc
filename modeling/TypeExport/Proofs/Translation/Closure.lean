import Mathlib.Logic.Relation
import TypeExport.Proofs.Translation.Agreement

/-!
# The declarations of an artifact are a closure

A type inlines another one when a kept property of it holds the other at a place that is resolved.
The interfaces beside the root are those of the types that the root inlines through any number of
steps, the root itself apart, and each of them stands there once.
-/

namespace TypeExport.TypeGraph

open Relation Visit

variable {ε : Type} (g : TypeGraph ε)

/-- A shape holds a type at a place that is resolved: not in a key, and not in a dictionary whose
keys are no texts. -/
inductive Holds : Shape g.Node → g.Node → Prop where
  | direct (t : g.Node) : Holds (.direct t) t
  | nullable {s : Shape g.Node} {t : g.Node} : Holds s t → Holds (.nullable s) t
  | array {s : Shape g.Node} {t : g.Node} : Holds s t → Holds (.array s) t
  | value {k : g.Node} {s : Shape g.Node} {t : g.Node}
      (key : (g.descriptor k).primitiveName = Primitive.textKey) :
      Holds s t → Holds (.dictionary (.direct k) s) t

/-- A type of the scanned modules that is a class and that the policy does not map. -/
structure IsInlined (policy : Policy) (d : Descriptor) : Prop where
  kind : d.kind = .record
  origin : d.origin = .scanned
  fullName : policy.typeMappings.lookup d.fullName = none
  shortName : policy.typeMappings.lookup d.shortName = none

/-- The inline edges: a kept property of `t` holds the inlined type `u`. -/
def Inlines (policy : Policy) (t u : g.Node) : Prop :=
  IsInlined policy (g.descriptor u) ∧ ∃ properties, g.properties t = .ok properties ∧
    ∃ p ∈ properties, policy.keeps p = true ∧ g.Holds p.shape u

/-- The types whose properties an artifact takes: the root, and what it inlines if declarations are
nested. -/
def Reached (policy : Policy) (root t : g.Node) : Prop :=
  t = root ∨ policy.inlineNested = true ∧ TransGen (g.Inlines policy) root t

/-- The full name of a type determines what is known of it. -/
def IsDetermined : Prop :=
  ∀ s t, (g.descriptor s).fullName = (g.descriptor t).fullName →
    g.descriptor s = g.descriptor t ∧ g.properties s = g.properties t

variable {g} {policy : Policy}

theorem isTextKey_iff {key : Shape g.Node} :
    g.isTextKey key = true ↔
      ∃ k, key = .direct k ∧ (g.descriptor k).primitiveName = Primitive.textKey := by
  cases key with
  | direct k => simp [isTextKey]
  | nullable s => simp [isTextKey]
  | array s => simp [isTextKey]
  | dictionary k v => simp [isTextKey]

/-- A type needs a declaration if it is inlined and the policy inlines. -/
theorem needsDeclaration_iff {d : Descriptor} :
    policy.needsDeclaration d = true ↔ IsInlined policy d ∧ policy.inlineNested = true := by
  have hmapping : policy.mapping? d = none ↔
      policy.typeMappings.lookup d.fullName = none ∧
        policy.typeMappings.lookup d.shortName = none := by
    unfold Policy.mapping?
    cases policy.typeMappings.lookup d.fullName <;> simp
  have hinlined : d.isInlined = true ↔ d.kind = .record ∧ d.origin = .scanned := by
    simp [Descriptor.isInlined]
  unfold Policy.needsDeclaration
  rw [Bool.and_eq_true, Bool.and_eq_true, Option.isNone_iff_eq_none, hmapping, hinlined]
  constructor
  · rintro ⟨⟨⟨hfull, hshort⟩, hkind, horigin⟩, hnested⟩
    exact ⟨⟨hkind, horigin, hfull, hshort⟩, hnested⟩
  · rintro ⟨h, hnested⟩
    exact ⟨⟨⟨h.fullName, h.shortName⟩, h.kind, h.origin⟩, hnested⟩

/-- A shape needs the declarations of the inlined types that it holds. -/
theorem mem_mentions_iff {s : Shape g.Node} {u : g.Node} :
    u ∈ g.mentions policy s ↔
      g.Holds s u ∧ IsInlined policy (g.descriptor u) ∧ policy.inlineNested = true := by
  induction s with
  | direct t =>
    rw [mentions, ← needsDeclaration_iff]
    split
    · rename_i h
      rw [List.mem_singleton]
      constructor
      · rintro rfl
        exact ⟨.direct u, h⟩
      · rintro ⟨hholds, -⟩
        cases hholds
        rfl
    · rename_i h
      refine ⟨fun hmem => (List.not_mem_nil hmem).elim, ?_⟩
      rintro ⟨hholds, hneeds⟩
      cases hholds
      exact absurd hneeds h
  | nullable s ih =>
    rw [mentions, ih]
    exact and_congr_left fun _ => ⟨.nullable, fun h => by cases h; assumption⟩
  | array s ih =>
    rw [mentions, ih]
    exact and_congr_left fun _ => ⟨.array, fun h => by cases h; assumption⟩
  | dictionary k v _ ih =>
    rw [mentions]
    split
    · rename_i hkey
      obtain ⟨k, rfl, hk⟩ := isTextKey_iff.1 hkey
      rw [ih]
      exact and_congr_left fun _ => ⟨.value hk, fun h => by cases h; assumption⟩
    · rename_i hkey
      refine ⟨fun hmem => (List.not_mem_nil hmem).elim, ?_⟩
      rintro ⟨hholds, -⟩
      cases hholds with
      | value hk _ => exact absurd (isTextKey_iff.2 ⟨_, rfl, hk⟩) hkey

/-- What the properties of a type need declared are the types that it inlines. -/
theorem mem_needs_iff {t u : g.Node} {properties : List (Property g.Node)}
    (hp : g.properties t = .ok properties) :
    u ∈ g.needs policy properties ↔ g.Inlines policy t u ∧ policy.inlineNested = true := by
  unfold needs mentionsOf Inlines
  simp only [List.mem_flatMap, List.mem_filter, mem_mentions_iff]
  constructor
  · rintro ⟨p, ⟨hmem, hkeeps⟩, hholds, hinlined, hnested⟩
    exact ⟨⟨hinlined, properties, hp, p, hmem, hkeeps, hholds⟩, hnested⟩
  · rintro ⟨⟨hinlined, others, hothers, p, hmem, hkeeps, hholds⟩, hnested⟩
    rw [hp] at hothers
    cases hothers
    exact ⟨p, ⟨hmem, hkeeps⟩, hholds, hinlined, hnested⟩

/-- Soundness of a walk: every visited type is inlined by a pending one, through any number of
steps. -/
theorem reflTransGen_of_mem_walk {seen : List String} {pending : List g.Node} {v : g.Visit}
    (h : v ∈ g.walk policy seen pending) :
    ∃ t ∈ pending, ReflTransGen (g.Inlines policy) t v.node := by
  fun_induction walk g policy seen pending with
  | case1 seen => cases h
  | case2 seen t rest hseen ih =>
    obtain ⟨u, hu, hstep⟩ := ih h
    exact ⟨u, List.mem_cons_of_mem _ hu, hstep⟩
  | case3 seen t rest hseen e he =>
    rw [List.mem_singleton] at h
    exact ⟨t, List.mem_cons_self, by rw [h]⟩
  | case4 seen t rest hseen properties hp ih =>
    rcases List.mem_cons.1 h with rfl | h
    · exact ⟨t, List.mem_cons_self, .refl⟩
    · obtain ⟨u, hu, hstep⟩ := ih h
      rcases List.mem_append.1 hu with hneeds | hrest
      · exact ⟨t, List.mem_cons_self, .head ((mem_needs_iff hp).1 hneeds).1 hstep⟩
      · exact ⟨u, List.mem_cons_of_mem _ hrest, hstep⟩

/-- Completeness of a walk that meets no failure, as an invariant: all pending names and all names
that a visited type needs have been seen in the end, also while some of them are still pending. -/
theorem closed_walk {seen : List String} {pending : List g.Node}
    (hn : failure? (g.walk policy seen pending) = none) :
    (∀ t ∈ pending, (g.descriptor t).fullName ∈ seenAfter seen (g.walk policy seen pending)) ∧
    ∀ v ∈ g.walk policy seen pending, ∀ properties, v.properties = .ok properties →
      ∀ u ∈ g.needs policy properties,
        (g.descriptor u).fullName ∈ seenAfter seen (g.walk policy seen pending) := by
  fun_induction walk g policy seen pending with
  | case1 seen => exact ⟨fun _ h => (List.not_mem_nil h).elim, fun _ h => (List.not_mem_nil h).elim⟩
  | case2 seen t rest hseen ih =>
    obtain ⟨hpending, hclosed⟩ := ih hn
    refine ⟨fun u hu => ?_, hclosed⟩
    rcases List.mem_cons.1 hu with rfl | hu
    · exact mem_seenAfter.2 (.inl hseen)
    · exact hpending u hu
  | case3 seen t rest hseen e he => cases hn
  | case4 seen t rest hseen properties hp ih =>
    obtain ⟨hpending, hclosed⟩ := ih hn
    have hstep : ∀ {name visits},
        name ∈ seenAfter ((g.descriptor t).fullName :: seen) visits →
          name ∈ seenAfter seen (⟨t, .ok properties⟩ :: visits) := fun h => h
    refine ⟨fun u hu => ?_, fun v hv others hothers u hu => ?_⟩
    · rcases List.mem_cons.1 hu with rfl | hu
      · exact hstep (mem_seenAfter.2 (.inl List.mem_cons_self))
      · exact hstep (hpending u (List.mem_append_right _ hu))
    · rcases List.mem_cons.1 hv with rfl | hv
      · cases hothers
        exact hstep (hpending u (List.mem_append_left _ hu))
      · exact hstep (hclosed v hv others hothers u hu)

/-- The visits beside the root: those of the types that its properties need. -/
def visitsBelow (g : TypeGraph ε) (policy : Policy) (root : g.Node)
    (properties : List (Property g.Node)) : List g.Visit :=
  g.walk policy [(g.descriptor root).fullName] (g.needs policy properties)

/-- An artifact holds the interface of its root and those that the visits below it collect. -/
structure Declares (g : TypeGraph ε) (policy : Policy) (root : g.Node)
    (properties : List (Property g.Node)) (a : Artifact) : Prop where
  root_eq : a.root = interfaceOf policy (g.descriptor root) (g.fields policy properties) true
  nested_perm : a.nested.Perm
    (((g.visitsBelow policy root properties).filterMap (Visit.collected policy)).map (·.2))

section Root

variable {root : g.Node} {properties : List (Property g.Node)} {a : Artifact}

/-- The artifact of a type whose walk meets no failure. -/
theorem artifact_of_visits (hkind : (g.descriptor root).kind ≠ .enumeration)
    (hp : g.properties root = .ok properties)
    (hn : failure? (g.visitsBelow policy root properties) = none) :
    ∃ a, g.artifact policy root = .ok a ∧ Declares g policy root properties a := by
  obtain ⟨hresult, hfollows⟩ :=
    resolveFields_spec g policy (Draft.start root) properties
  have hfields := hresult.trans (outcome_of_none _ hn)
  unfold artifact translate
  simp only [if_neg hkind, hp]
  rw [hfields]
  have hperm := (hfollows.nested (Draft.isSound_start root) hn).map (·.2)
  exact ⟨_, rfl, rfl, (List.mergeSort_perm _ _).trans hperm⟩

/-- A failure of the walk is one of the translation. -/
theorem artifact_of_failure (hkind : (g.descriptor root).kind ≠ .enumeration)
    (hp : g.properties root = .ok properties) {e : ε}
    (hn : failure? (g.visitsBelow policy root properties) = some e) :
    g.artifact policy root = .error e := by
  have hresult := (resolveFields_spec g policy (Draft.start root) properties).1
  have hfields := hresult.trans (outcome_of_failure _ hn)
  unfold artifact translate
  simp only [if_neg hkind, hp]
  rw [hfields]
  rfl

/-- Every artifact of a type that is no enumeration comes from a walk that meets no failure. -/
theorem declares_of_artifact (hkind : (g.descriptor root).kind ≠ .enumeration)
    (h : g.artifact policy root = .ok a) :
    ∃ properties, g.properties root = .ok properties ∧ Declares g policy root properties a := by
  cases hp : g.properties root with
  | error e =>
    unfold artifact translate at h
    simp only [if_neg hkind, hp] at h
    cases h
  | ok properties =>
    cases hn : failure? (g.visitsBelow policy root properties) with
    | none =>
      obtain ⟨b, hrun, hb⟩ := artifact_of_visits hkind hp hn
      rw [h] at hrun
      cases hrun
      exact ⟨properties, rfl, hb⟩
    | some e =>
      rw [artifact_of_failure hkind hp hn] at h
      cases h

/-- The visits of a walk that starts below the root are of types that the root inlines. -/
theorem transGen_of_mem_visitsBelow (hp : g.properties root = .ok properties) {v : g.Visit}
    (hv : v ∈ g.visitsBelow policy root properties) :
    policy.inlineNested = true ∧ TransGen (g.Inlines policy) root v.node := by
  obtain ⟨t, ht, hsteps⟩ := reflTransGen_of_mem_walk hv
  obtain ⟨hedge, hnested⟩ := (mem_needs_iff hp).1 ht
  exact ⟨hnested, .head' hedge hsteps⟩

theorem failure?_visitsBelow (hp : g.properties root = .ok properties)
    (hread : ∀ t, g.Reached policy root t → ∃ properties, g.properties t = .ok properties) :
    failure? (g.visitsBelow policy root properties) = none := by
  rw [failure?_eq_none_iff]
  intro v hv
  rw [properties_of_mem_walk hv]
  exact hread v.node (.inr (transGen_of_mem_visitsBelow hp hv))

/-- Every type that the root inlines has a visited name, or that of the root. -/
theorem mem_seenAfter_of_transGen (hname : g.IsDetermined) (hp : g.properties root = .ok properties)
    (hn : failure? (g.visitsBelow policy root properties) = none)
    (hnested : policy.inlineNested = true) {t : g.Node} (ht : TransGen (g.Inlines policy) root t) :
    (g.descriptor t).fullName ∈
      seenAfter [(g.descriptor root).fullName] (g.visitsBelow policy root properties) := by
  obtain ⟨hpending, hclosed⟩ := closed_walk hn
  have hroot : ∀ u, g.Inlines policy root u → (g.descriptor u).fullName ∈
      seenAfter [(g.descriptor root).fullName] (g.visitsBelow policy root properties) :=
    fun u hedge => hpending u ((mem_needs_iff hp).2 ⟨hedge, hnested⟩)
  induction ht with
  | single hedge => exact hroot _ hedge
  | @tail s u _ hedge ih =>
    -- the type that was visited under the name of `s` has the same properties
    have hsame : ∀ r, (g.descriptor r).fullName = (g.descriptor s).fullName →
        g.Inlines policy r u := by
      rintro r hr
      obtain ⟨hinlined, others, hothers, hp⟩ := hedge
      exact ⟨hinlined, others, by rw [(hname r s hr).2, hothers], hp⟩
    rcases mem_seenAfter.1 ih with hmem | ⟨v, hv, hvname⟩
    · exact hroot u (hsame root (List.mem_singleton.1 hmem).symm)
    · have hedge' := hsame v.node hvname
      obtain ⟨-, others, hothers, -⟩ := hedge'
      have hproperties := (properties_of_mem_walk hv).trans hothers
      exact hclosed v hv others hproperties u ((mem_needs_iff hothers).2 ⟨hsame v.node hvname, hnested⟩)

theorem source_of_mem_collected {visits : List g.Visit} (hn : failure? visits = none) :
    ((visits.filterMap (Visit.collected policy)).map (·.2)).map (·.source) =
      visits.map Visit.fullName := by
  induction visits with
  | nil => rfl
  | cons v visits ih =>
    obtain ⟨t, e | properties⟩ := v
    · cases hn
    · rw [List.filterMap_cons]
      exact congrArg (_ :: ·) (ih hn)

/-- The visited types are those that the root inlines, however far away, the root itself apart. -/
theorem mem_sources_iff (hname : g.IsDetermined) (hp : g.properties root = .ok properties)
    (hn : failure? (g.visitsBelow policy root properties) = none) {name : String} :
    (∃ v ∈ g.visitsBelow policy root properties, v.fullName = name) ↔
      policy.inlineNested = true ∧ name ≠ (g.descriptor root).fullName ∧
        ∃ t, TransGen (g.Inlines policy) root t ∧ (g.descriptor t).fullName = name := by
  constructor
  · rintro ⟨v, hv, rfl⟩
    obtain ⟨hnested, hsteps⟩ := transGen_of_mem_visitsBelow hp hv
    refine ⟨hnested, fun heq => ?_, v.node, hsteps, rfl⟩
    exact fullName_not_mem_of_mem_walk hv (List.mem_singleton.2 heq)
  · rintro ⟨hnested, hne, t, hsteps, rfl⟩
    rcases mem_seenAfter.1 (mem_seenAfter_of_transGen hname hp hn hnested hsteps) with hmem | hv
    · exact absurd (List.mem_singleton.1 hmem) hne
    · exact hv

/-- The interfaces beside the root are the ones that the visits collect. -/
theorem mem_nested_iff (ha : Declares g policy root properties a) {d : Declaration} :
    d ∈ a.nested ↔ ∃ v ∈ g.visitsBelow policy root properties, ∃ others,
      g.properties v.node = .ok others ∧
        d = interfaceOf policy (g.descriptor v.node) (g.fields policy others) false := by
  rw [ha.nested_perm.mem_iff, List.mem_map]
  constructor
  · rintro ⟨entry, hentry, rfl⟩
    obtain ⟨v, hv, hcollected⟩ := List.mem_filterMap.1 hentry
    have hsame := properties_of_mem_walk hv
    unfold Visit.collected at hcollected
    split at hcollected
    · rename_i others hothers
      cases hcollected
      exact ⟨v, hv, others, hsame.symm.trans hothers, rfl⟩
    · cases hcollected
  · rintro ⟨v, hv, others, hothers, rfl⟩
    have hsame := (properties_of_mem_walk hv).trans hothers
    refine ⟨(v.fullName, _), List.mem_filterMap.2 ⟨v, hv, ?_⟩, rfl⟩
    unfold Visit.collected
    rw [hsame]
    rfl

end Root

/-- The declarations of an artifact hold every inlined type that one of them mentions, and nothing
that none of them mentions. -/
structure IsClosure (g : TypeGraph ε) (policy : Policy) (a : Artifact) : Prop where
  /-- What the type of a declaration inlines is declared, too, under the name of the mention. -/
  declared : policy.inlineNested = true → ∀ d ∈ a.declarations, ∀ t,
    (g.descriptor t).fullName = d.source → ∀ u, g.Inlines policy t u →
      ∃ e ∈ a.declarations, e.source = (g.descriptor u).fullName ∧
        e.target = (g.descriptor u).targetName
  /-- What is declared beside the root is inlined by the type of a declaration. -/
  needed : ∀ d ∈ a.nested, ∃ e ∈ a.declarations, ∃ t u,
    (g.descriptor t).fullName = e.source ∧ (g.descriptor u).fullName = d.source ∧
      g.Inlines policy t u

section Root

variable {root : g.Node} {properties : List (Property g.Node)} {a : Artifact}

/-- Every type that is reached has a declaration. -/
theorem exists_declaration (hname : g.IsDetermined) (hp : g.properties root = .ok properties)
    (hn : failure? (g.visitsBelow policy root properties) = none)
    (ha : Declares g policy root properties a) {t : g.Node} (ht : g.Reached policy root t) :
    ∃ e ∈ a.declarations, e.source = (g.descriptor t).fullName ∧
      e.target = (g.descriptor t).targetName := by
  by_cases hsame : (g.descriptor t).fullName = (g.descriptor root).fullName
  · refine ⟨a.root, List.mem_append_right _ List.mem_cons_self, ?_⟩
    rw [ha.root_eq, (hname t root hsame).1]
    exact ⟨rfl, rfl⟩
  · obtain rfl | ⟨hnested, hsteps⟩ := ht
    · exact absurd rfl hsame
    · obtain ⟨v, hv, hvname⟩ := (mem_sources_iff hname hp hn).2 ⟨hnested, hsame, t, hsteps, rfl⟩
      obtain ⟨others, hothers⟩ := failure?_eq_none_iff.1 hn v hv
      have hmem := (mem_nested_iff ha).2
        ⟨v, hv, others, (properties_of_mem_walk hv).symm.trans hothers, rfl⟩
      refine ⟨_, List.mem_append_left _ hmem, hvname, ?_⟩
      rw [← (hname v.node t hvname).1]
      rfl

/-- Every declaration is of a type that is reached. -/
theorem exists_reached (hp : g.properties root = .ok properties)
    (ha : Declares g policy root properties a) {d : Declaration} (hd : d ∈ a.declarations) :
    ∃ t, g.Reached policy root t ∧ (g.descriptor t).fullName = d.source := by
  rcases List.mem_append.1 hd with hd | hd
  · obtain ⟨v, hv, others, -, rfl⟩ := (mem_nested_iff ha).1 hd
    exact ⟨v.node, .inr (transGen_of_mem_visitsBelow hp hv), rfl⟩
  · rw [List.mem_singleton.1 hd, ha.root_eq]
    exact ⟨root, .inl rfl, rfl⟩

/-- What the visits declare is closed: every needed type is declared, with the text of its properties.
-/
theorem isClosure_of_visits (hname : g.IsDetermined) (hp : g.properties root = .ok properties)
    (hn : failure? (g.visitsBelow policy root properties) = none)
    (ha : Declares g policy root properties a) :
    IsClosure g policy a where
  declared := by
    intro hnested d hd t ht u hedge
    obtain ⟨s, hs, hsource⟩ := exists_reached hp ha hd
    have hedge' : g.Inlines policy s u := by
      obtain ⟨hinlined, others, hothers, hrest⟩ := hedge
      exact ⟨hinlined, others, by rw [(hname s t (hsource.trans ht.symm)).2, hothers], hrest⟩
    refine exists_declaration hname hp hn ha (.inr ⟨hnested, ?_⟩)
    obtain rfl | ⟨-, hsteps⟩ := hs
    · exact .single hedge'
    · exact hsteps.tail hedge'
  needed := by
    intro d hd
    obtain ⟨v, hv, others, -, rfl⟩ := (mem_nested_iff ha).1 hd
    obtain ⟨hnested, hsteps⟩ := transGen_of_mem_visitsBelow hp hv
    obtain ⟨s, hs, hedge⟩ := TransGen.tail'_iff.1 hsteps
    have hreached : g.Reached policy root s := by
      rcases reflTransGen_iff_eq_or_transGen.1 hs with heq | hs
      · exact .inl heq
      · exact .inr ⟨hnested, hs⟩
    obtain ⟨e, he, hsource, -⟩ := exists_declaration hname hp hn ha hreached
    exact ⟨e, he, s, v.node, hsource.symm, rfl, hedge⟩

end Root

/-- The interfaces beside the root are those of the types that the root inlines through one or more
steps, each once and without the root itself. -/
theorem nested_sources_eq_reachable (g : TypeGraph ε) (policy : Policy) (root : g.Node)
    (hname : g.IsDetermined) (hkind : (g.descriptor root).kind ≠ .enumeration)
    (hread : ∀ t, g.Reached policy root t → ∃ properties, g.properties t = .ok properties) :
    ∃ a, g.artifact policy root = .ok a ∧
      (a.nested.map (·.source)).Nodup ∧
      (policy.inlineNested = true → ∀ name, name ∈ a.nested.map (·.source) ↔
        name ≠ (g.descriptor root).fullName ∧
          ∃ t, TransGen (g.Inlines policy) root t ∧ (g.descriptor t).fullName = name) ∧
      (policy.inlineNested = false → a.nested = []) ∧
      IsClosure g policy a := by
  obtain ⟨properties, hp⟩ := hread root (.inl rfl)
  have hn := failure?_visitsBelow hp hread
  obtain ⟨a, hrun, ha⟩ := artifact_of_visits hkind hp hn
  have hsources := ha.nested_perm.map (·.source)
  rw [source_of_mem_collected hn] at hsources
  refine ⟨a, hrun, hsources.nodup_iff.2 (nodup_walk _ _), fun hnested name => ?_, fun hnested => ?_,
    isClosure_of_visits hname hp hn ha⟩
  · rw [hsources.mem_iff, List.mem_map, mem_sources_iff hname hp hn]
    exact ⟨fun h => h.2, fun h => ⟨hnested, h⟩⟩
  · refine List.eq_nil_iff_forall_not_mem.2 fun d hd => ?_
    obtain ⟨v, hv, -⟩ := (mem_nested_iff ha).1 hd
    have hnested' := (transGen_of_mem_visitsBelow hp hv).1
    rw [hnested] at hnested'
    cases hnested'

/-- Four classes: a ring through `app.A` and `app.B`, a class `app.C` that both mention and that
mentions itself, and a class `app.D` that stands only in a dictionary without text keys and whose
properties cannot be read. -/
def ring : TypeGraph String where
  Node := Fin 4
  descriptor t :=
    { fullName := ["app.A", "app.B", "app.C", "app.D"][t], shortName := ["A", "B", "C", "D"][t]
      kind := .record, origin := .scanned }
  properties t :=
    match t with
    | 0 => .ok [{ name := "bs", shape := .array (.direct 1) },
                { name := "c", shape := .nullable (.direct 2) },
                { name := "ds", shape := .dictionary (.direct 3) (.direct 3) }]
    | 1 => .ok [{ name := "a", shape := .direct 0 }, { name := "c", shape := .direct 2 }]
    | 2 => .ok [{ name := "self", shape := .direct 2 }]
    | 3 => .error "no properties"
  fullNames := ["app.A", "app.B", "app.C", "app.D"]
  fullName_mem t := List.getElem_mem _

/-- Four classes, two of which cannot be read: `app.A` mentions `app.B` and then `app.C`, and `app.B`
mentions `app.A` and then `app.D`. -/
def halfRead : TypeGraph String where
  Node := Fin 4
  descriptor t :=
    { fullName := ["app.A", "app.B", "app.C", "app.D"][t], shortName := ["A", "B", "C", "D"][t]
      kind := .record, origin := .scanned }
  properties t :=
    match t with
    | 0 => .ok [{ name := "b", shape := .direct 1 }, { name := "c", shape := .direct 2 }]
    | 1 => .ok [{ name := "a", shape := .direct 0 }, { name := "ds", shape := .array (.direct 3) }]
    | 2 => .error "no properties of C"
    | 3 => .error "no properties of D"
  fullNames := ["app.A", "app.B", "app.C", "app.D"]
  fullName_mem t := List.getElem_mem _

theorem ring_isDetermined : ring.IsDetermined := by
  have hinj : ∀ s t : Fin 4, (ring.descriptor s).fullName = (ring.descriptor t).fullName → s = t := by
    decide
  intro s t h
  rw [hinj s t h]
  exact ⟨rfl, rfl⟩

/-- The classes of the ring need no declaration of `app.D`. -/
theorem ring_needs (s : Fin 4) (properties : List (Property ring.Node))
    (hp : ring.properties s = .ok properties) :
    ∀ u ∈ ring.needs {} properties, u ≠ (3 : Fin 4) := by
  have hlist : ∀ us : List (Fin 4), (∀ u ∈ us, u ≠ 3) → ∀ u ∈ us, u ≠ (3 : Fin 4) := fun _ h => h
  match s, hp with
  | 0, hp =>
    cases hp
    exact hlist [1, 2] (by decide)
  | 1, hp =>
    cases hp
    exact hlist [0, 2] (by decide)
  | 2, hp =>
    cases hp
    exact hlist [2] (by decide)
  | 3, hp => cases hp

/-- All properties in the ring can be read. -/
theorem ring_properties_of_reached (t : Fin 4) (h : ring.Reached {} (0 : Fin 4) t) :
    ∃ properties, ring.properties t = .ok properties := by
  have hne : t ≠ (3 : Fin 4) := by
    obtain rfl | ⟨-, hsteps⟩ := h
    · decide
    · obtain ⟨s, -, hedge⟩ := TransGen.tail'_iff.1 hsteps
      obtain ⟨-, properties, hp, -⟩ := id hedge
      exact ring_needs s properties hp t ((mem_needs_iff hp).2 ⟨hedge, rfl⟩)
  match t with
  | 0 => exact ⟨_, rfl⟩
  | 1 => exact ⟨_, rfl⟩
  | 2 => exact ⟨_, rfl⟩
  | 3 => exact absurd rfl hne

/-- In a ring of four types the root comes back to itself and is not nested. -/
theorem nested_sources_of_ring :
    ring.IsDetermined ∧ (ring.descriptor (0 : Fin 4)).kind ≠ .enumeration ∧
      (∀ t : Fin 4, ring.Reached {} (0 : Fin 4) t → ∃ properties, ring.properties t = .ok properties) ∧
      ∃ a, ring.artifact {} (0 : Fin 4) = .ok a ∧ (a.nested.map (·.source)).Nodup ∧
        (∀ name, name ∈ a.nested.map (·.source) ↔
          name ≠ "app.A" ∧ ∃ t : Fin 4, TransGen (ring.Inlines {}) (0 : Fin 4) t ∧
            (ring.descriptor t).fullName = name) ∧
        IsClosure ring {} a := by
  obtain ⟨a, hrun, hnodup, hmem, -, hclosure⟩ := nested_sources_eq_reachable ring {} (0 : Fin 4)
    ring_isDetermined (by decide) ring_properties_of_reached
  exact ⟨ring_isDetermined, by decide, ring_properties_of_reached, a, hrun, hnodup, hmem rfl,
    hclosure⟩

end TypeExport.TypeGraph

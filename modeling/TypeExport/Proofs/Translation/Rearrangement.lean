import Mathlib.Data.List.Sort
import TypeExport.Proofs.Translation.Closure

/-!
# The order of properties

When the properties of types are put into another order, a walk meets the inlined types in another
order, too.  The inline edges stay the same, so the same interfaces are collected, and sorting them
by target name and full name forgets the walk.  Only the fields of each declaration move, together
with the properties.
-/

namespace TypeExport

/-- Outcomes of reading properties that are the same up to the order of the properties. -/
inductive Rearranged {ε α : Type} : Except ε (List α) → Except ε (List α) → Prop
  | ok {l l' : List α} : l.Perm l' → Rearranged (.ok l) (.ok l')
  | error (e : ε) : Rearranged (.error e) (.error e)

namespace Rearranged

variable {ε α : Type} {x y : Except ε (List α)}

theorem symm (h : Rearranged x y) : Rearranged y x := by
  cases h with
  | ok hperm => exact .ok hperm.symm
  | error e => exact .error e

theorem perm {l : List α} (h : Rearranged x y) (hx : x = .ok l) : ∃ l', y = .ok l' ∧ l.Perm l' := by
  cases h with
  | ok hperm =>
    cases hx
    exact ⟨_, rfl, hperm⟩
  | error e => cases hx

end Rearranged

theorem declaredBefore_iff {d e : Declaration} :
    declaredBefore d e = true ↔ d.target < e.target ∨ d.target = e.target ∧ d.source ≤ e.source := by
  simp [declaredBefore]

theorem declaredBefore_trans {d e f : Declaration} (h : declaredBefore d e = true)
    (h' : declaredBefore e f = true) : declaredBefore d f = true := by
  rw [declaredBefore_iff] at h h' ⊢
  rcases h with h | ⟨heq, h⟩
  · rcases h' with h' | ⟨heq', -⟩
    · exact .inl (String.lt_trans h h')
    · exact .inl (heq' ▸ h)
  · rcases h' with h' | ⟨heq', h'⟩
    · exact .inl (heq ▸ h')
    · exact .inr ⟨heq.trans heq', String.le_trans h h'⟩

theorem declaredBefore_total (d e : Declaration) :
    (declaredBefore d e || declaredBefore e d) = true := by
  rw [Bool.or_eq_true, declaredBefore_iff, declaredBefore_iff]
  by_cases hlt : d.target < e.target
  · exact .inl (.inl hlt)
  by_cases heq : d.target = e.target
  · exact (String.le_total d.source e.source).imp (fun h => .inr ⟨heq, h⟩)
      fun h => .inr ⟨heq.symm, h⟩
  · exact .inr (.inl (Std.lt_of_le_of_ne (String.not_lt.1 hlt) (Ne.symm heq)))

/-- The name that a declaration gives and the one of the type that it declares. -/
def Declaration.key (d : Declaration) : String × String :=
  (d.target, d.source)

/-- The strict order of target names; equal ones are told apart by full names. -/
def KeyBefore (k k' : String × String) : Prop :=
  k.1 < k'.1 ∨ k.1 = k'.1 ∧ k.2 < k'.2

instance : Std.Asymm KeyBefore := by
  refine ⟨fun k k' h => ?_⟩
  rintro (h' | ⟨heq, h'⟩)
  · rcases h with h | ⟨heq, -⟩
    · exact String.lt_irrefl _ (String.lt_trans h h')
    · rw [heq] at h'
      exact String.lt_irrefl _ h'
  · rcases h with h | ⟨-, h⟩
    · rw [heq] at h
      exact String.lt_irrefl _ h
    · exact String.lt_irrefl _ (String.lt_trans h h')

theorem forall₂_of_map_eq {α β : Type} {f : α → β} {R : α → α → Prop} {l l' : List α}
    (h : l.map f = l'.map f) (hR : ∀ a ∈ l, ∀ b ∈ l', f a = f b → R a b) : List.Forall₂ R l l' := by
  induction l generalizing l' with
  | nil =>
    rw [List.map_nil, eq_comm, List.map_eq_nil_iff] at h
    rw [h]
    exact .nil
  | cons a l ih =>
    obtain ⟨b, l', rfl, hb, hrest⟩ := List.map_eq_cons_iff.1 h.symm
    refine .cons (hR a List.mem_cons_self b List.mem_cons_self hb.symm) (ih hrest.symm ?_)
    exact fun c hc d hd => hR c (List.mem_cons_of_mem _ hc) d (List.mem_cons_of_mem _ hd)

namespace TypeGraph

open Relation Visit

variable {ε : Type} {g : TypeGraph ε} {policy : Policy}

/-- The graph of the same types with other properties. -/
abbrev withProperties (g : TypeGraph ε) (ps : g.Node → Except ε (List (Property g.Node))) :
    TypeGraph ε :=
  { g with properties := ps }

theorem pairwise_orderedNested (b : Draft g) :
    b.orderedNested.Pairwise fun d e => declaredBefore d e = true := by
  unfold Draft.orderedNested
  exact @List.pairwise_mergeSort Declaration declaredBefore (fun _ _ _ => declaredBefore_trans)
    declaredBefore_total _

section Artifact

variable {root : g.Node} {properties : List (Property g.Node)} {a : Artifact}

/-- The interfaces beside the root are sorted. -/
theorem pairwise_nested (h : g.artifact policy root = .ok a) :
    a.nested.Pairwise fun d e => declaredBefore d e = true := by
  unfold artifact translate at h
  by_cases hkind : (g.descriptor root).kind = .enumeration
  · simp only [if_pos hkind] at h
    cases h
    exact .nil
  · cases hp : g.properties root with
    | error e =>
      simp only [if_neg hkind, hp] at h
      cases h
    | ok properties =>
      simp only [if_neg hkind, hp] at h
      generalize g.resolveFields policy (.start root) (properties.filter policy.keeps) = result at h
      obtain ⟨fields, b⟩ := result
      cases fields with
      | error e => cases h
      | ok fields =>
        cases h
        exact pairwise_orderedNested b.val

/-- No two interfaces are of one type, so they are strictly sorted. -/
theorem pairwise_keys (h : g.artifact policy root = .ok a)
    (hn : failure? (g.visitsBelow policy root properties) = none)
    (ha : Declares g policy root properties a) : (a.nested.map (·.key)).Pairwise KeyBefore := by
  have hsources := ha.nested_perm.map (·.source)
  rw [source_of_mem_collected hn] at hsources
  have hdifferent : a.nested.Pairwise fun d e => d.source ≠ e.source :=
    List.pairwise_map.1 (hsources.nodup_iff.2 (nodup_walk _ _))
  rw [List.pairwise_map]
  refine ((pairwise_nested h).and hdifferent).imp ?_
  rintro d e ⟨hbefore, hne⟩
  exact (declaredBefore_iff.1 hbefore).imp_right fun ⟨heq, hle⟩ =>
    ⟨heq, Std.lt_of_le_of_ne hle hne⟩

/-- The keys beside the root are those of the inlined types. -/
theorem mem_keys_iff (hname : g.IsDetermined) (hp : g.properties root = .ok properties)
    (hn : failure? (g.visitsBelow policy root properties) = none)
    (ha : Declares g policy root properties a) {k : String × String} :
    k ∈ a.nested.map (·.key) ↔
      policy.inlineNested = true ∧ ∃ t, TransGen (g.Inlines policy) root t ∧
        (g.descriptor t).fullName ≠ (g.descriptor root).fullName ∧
          k = ((g.descriptor t).targetName, (g.descriptor t).fullName) := by
  rw [List.mem_map]
  constructor
  · rintro ⟨d, hd, rfl⟩
    obtain ⟨v, hv, others, -, rfl⟩ := (mem_nested_iff ha).1 hd
    obtain ⟨hnested, hsteps⟩ := transGen_of_mem_visitsBelow hp hv
    have hne : v.fullName ≠ (g.descriptor root).fullName :=
      fun heq => fullName_not_mem_of_mem_walk hv (List.mem_singleton.2 heq)
    exact ⟨hnested, v.node, hsteps, hne, rfl⟩
  · rintro ⟨hnested, t, hsteps, hne, rfl⟩
    obtain ⟨v, hv, hvname⟩ := (mem_sources_iff hname hp hn).2 ⟨hnested, hne, t, hsteps, rfl⟩
    obtain ⟨others, hothers⟩ := failure?_eq_none_iff.1 hn v hv
    refine ⟨_, (mem_nested_iff ha).2
      ⟨v, hv, others, (properties_of_mem_walk hv).symm.trans hothers, rfl⟩, ?_⟩
    rw [← (hname v.node t hvname).1]
    rfl

end Artifact

section Rearranged

variable (ps : g.Node → Except ε (List (Property g.Node)))

theorem Holds.withProperties {s : Shape g.Node} {t : g.Node} (h : g.Holds s t) :
    (g.withProperties ps).Holds s t := by
  induction h with
  | direct t => exact Holds.direct (g := g.withProperties ps) t
  | nullable _ ih => exact Holds.nullable (g := g.withProperties ps) ih
  | array _ ih => exact Holds.array (g := g.withProperties ps) ih
  | value hkey _ ih => exact Holds.value (g := g.withProperties ps) hkey ih

/-- The places of a shape that are resolved do not depend on any properties. -/
theorem holds_withProperties_iff {s : Shape g.Node} {t : g.Node} :
    (g.withProperties ps).Holds s t ↔ g.Holds s t :=
  ⟨fun h => h.withProperties (g := g.withProperties ps) g.properties, fun h => h.withProperties ps⟩

/-- The inline edges do not depend on the order of the properties. -/
theorem inlines_withProperties (policy : Policy) (h : ∀ t, Rearranged (g.properties t) (ps t)) :
    (g.withProperties ps).Inlines policy = g.Inlines policy := by
  funext t u
  refine propext ⟨?_, ?_⟩
  · rintro ⟨hinlined, properties, hp, p, hmem, hkeeps, hholds⟩
    obtain ⟨others, hothers, hperm⟩ := (h t).symm.perm hp
    exact ⟨hinlined, others, hothers, p, hperm.mem_iff.1 hmem, hkeeps,
      (holds_withProperties_iff ps).1 hholds⟩
  · rintro ⟨hinlined, properties, hp, p, hmem, hkeeps, hholds⟩
    obtain ⟨others, hothers, hperm⟩ := (h t).perm hp
    exact ⟨hinlined, others, hothers, p, hperm.mem_iff.1 hmem, hkeeps,
      (holds_withProperties_iff ps).2 hholds⟩

theorem isTextKey_withProperties (k : Shape g.Node) :
    (g.withProperties ps).isTextKey k = g.isTextKey k := by
  cases k <;> rfl

theorem typeText_withProperties (policy : Policy) (s : Shape g.Node) :
    (g.withProperties ps).typeText policy s = g.typeText policy s := by
  induction s with
  | direct t => rfl
  | nullable s ih => exact ih
  | array s ih => exact congrArg (· ++ "[]") ih
  | dictionary k v _ ih =>
    rw [typeText, typeText, isTextKey_withProperties ps k, ih]

theorem isOptional_withProperties (p : Property g.Node) :
    (g.withProperties ps).isOptional p = g.isOptional p := by
  unfold isOptional
  cases p.shape <;> rfl

/-- A property has the same field in every order. -/
theorem fields_withProperties (policy : Policy) (properties : List (Property g.Node)) :
    (g.withProperties ps).fields policy properties = g.fields policy properties := by
  refine List.map_congr_left fun p _ => ?_
  unfold fieldOf
  rw [typeText_withProperties ps policy, isOptional_withProperties ps]

end Rearranged

/-- Declarations of one type that differ at most in the order of their fields: those of an interface
stand in the orders of the properties, and an enumeration has none. -/
structure SameUpToOrder (g : TypeGraph ε) (ps : g.Node → Except ε (List (Property g.Node)))
    (policy : Policy) (d e : Declaration) : Prop where
  target : e.target = d.target
  source : e.source = d.source
  kind : e.kind = d.kind
  exported : e.exported = d.exported
  members : e.members = d.members
  perm : d.fields.Perm e.fields
  fields : d.kind = .interface → ∃ t properties others, (g.descriptor t).fullName = d.source ∧
    g.properties t = .ok properties ∧ ps t = .ok others ∧ properties.Perm others ∧
    d.fields = g.fields policy properties ∧ e.fields = g.fields policy others

section Rearranged

variable {ps : g.Node → Except ε (List (Property g.Node))}

/-- Interfaces of rearranged properties have the same fields in another order. -/
theorem sameUpToOrder_interfaceOf {t u : g.Node} {properties others : List (Property g.Node)}
    (hname : g.IsDetermined) (hps : ∀ t, Rearranged (g.properties t) (ps t))
    (ht : g.properties t = .ok properties) (hu : ps u = .ok others)
    (htu : (g.descriptor t).fullName = (g.descriptor u).fullName) (exported : Bool) :
    SameUpToOrder g ps policy
      (interfaceOf policy (g.descriptor t) (g.fields policy properties) exported)
      (interfaceOf policy (g.descriptor u) ((g.withProperties ps).fields policy others) exported) := by
  obtain ⟨hdescriptor, hproperties⟩ := hname t u htu
  rw [hproperties] at ht
  obtain ⟨others', hothers', hperm⟩ := (hps u).perm ht
  rw [hu] at hothers'
  cases hothers'
  rw [fields_withProperties ps policy, hdescriptor]
  exact {
    target := rfl
    source := rfl
    kind := rfl
    exported := rfl
    members := rfl
    perm := (hperm.filter _).map _
    fields := fun _ => ⟨u, properties, others, rfl, ht, hu, hperm, rfl, rfl⟩ }

end Rearranged

/-- Putting the properties of types into another order changes neither which interfaces stand beside
the root nor their order, which is strictly ascending.  The fields of every declaration move with the
properties. -/
theorem artifact_of_rearranged (g : TypeGraph ε) (policy : Policy) (root : g.Node)
    (ps : g.Node → Except ε (List (Property g.Node))) (hname : g.IsDetermined)
    (hname' : (g.withProperties ps).IsDetermined) (hps : ∀ t, Rearranged (g.properties t) (ps t))
    (hread : (g.descriptor root).kind ≠ .enumeration →
      ∀ t, g.Reached policy root t → ∃ properties, g.properties t = .ok properties) :
    ∃ a b, g.artifact policy root = .ok a ∧ (g.withProperties ps).artifact policy root = .ok b ∧
      a.nested.map (·.key) = b.nested.map (·.key) ∧
      (a.nested.map (·.key)).Pairwise KeyBefore ∧
      List.Forall₂ (SameUpToOrder g ps policy) a.declarations b.declarations := by
  by_cases hkind : (g.descriptor root).kind = .enumeration
  · refine ⟨{ root := enumerationOf policy (g.descriptor root) },
      { root := enumerationOf policy (g.descriptor root) }, ?_, ?_, rfl, .nil, ?_⟩
    · unfold artifact translate
      simp only [if_pos hkind]
    · unfold artifact translate
      simp only [if_pos hkind]
    · refine .cons ?_ .nil
      exact ⟨rfl, rfl, rfl, rfl, rfl, .refl _, fun h => by cases h⟩
  · obtain ⟨properties, hp⟩ := hread hkind root (.inl rfl)
    obtain ⟨others, hothers, hperm⟩ := (hps root).perm hp
    have hedges : (g.withProperties ps).Inlines policy = g.Inlines policy :=
      inlines_withProperties ps policy hps
    have hread' : ∀ t, (g.withProperties ps).Reached policy root t →
        ∃ properties, ps t = .ok properties := by
      intro t ht
      have hreached : g.Reached policy root t := by
        unfold Reached at ht ⊢
        rw [hedges] at ht
        exact ht
      obtain ⟨l, hl⟩ := hread hkind t hreached
      obtain ⟨l', hl', -⟩ := (hps t).perm hl
      exact ⟨l', hl'⟩
    have hn := failure?_visitsBelow hp (hread hkind)
    have hn' := failure?_visitsBelow (g := g.withProperties ps) hothers hread'
    obtain ⟨a, hrun, ha⟩ := artifact_of_visits hkind hp hn
    obtain ⟨b, hrun', hb⟩ := artifact_of_visits (g := g.withProperties ps) hkind hothers hn'
    have hkeys := pairwise_keys hrun hn ha
    have hkeys' := pairwise_keys hrun' hn' hb
    have hsame : a.nested.map (·.key) = b.nested.map (·.key) := by
      have hmem : ∀ k, k ∈ a.nested.map (·.key) ↔ k ∈ b.nested.map (·.key) := by
        intro k
        rw [mem_keys_iff hname hp hn ha, mem_keys_iff hname' hothers hn' hb, hedges]
      exact hkeys.eq_of_mem_iff hkeys' hmem
    refine ⟨a, b, hrun, hrun', hsame, hkeys, ?_⟩
    refine List.rel_append (forall₂_of_map_eq hsame fun d hd e he hkey => ?_) (.cons ?_ .nil)
    · obtain ⟨v, -, l, hl, rfl⟩ := (mem_nested_iff ha).1 hd
      obtain ⟨w, -, l', hl', rfl⟩ := (mem_nested_iff hb).1 he
      exact sameUpToOrder_interfaceOf hname hps hl hl' (congrArg Prod.snd hkey) false
    · rw [ha.root_eq, hb.root_eq]
      exact sameUpToOrder_interfaceOf hname hps hp hothers rfl true

/-- The properties of the ring, last ones first. -/
def ringReversed (t : ring.Node) : Except String (List (Property ring.Node)) :=
  (ring.properties t).map List.reverse

theorem ringReversed_isDetermined : (ring.withProperties ringReversed).IsDetermined := by
  intro s t h
  obtain ⟨hdescriptor, hproperties⟩ := ring_isDetermined s t h
  refine ⟨hdescriptor, ?_⟩
  show ringReversed s = ringReversed t
  unfold ringReversed
  rw [hproperties]

theorem rearranged_ringReversed (t : ring.Node) :
    Rearranged (ring.properties t) (ringReversed t) := by
  unfold ringReversed
  cases ring.properties t with
  | ok properties => exact .ok (List.reverse_perm properties).symm
  | error e => exact .error e

/-- The ring with the properties of each type reversed. -/
theorem artifact_of_ringReversed :
    ring.IsDetermined ∧ (ring.withProperties ringReversed).IsDetermined ∧
      (∀ t, Rearranged (ring.properties t) (ringReversed t)) ∧
      (∀ t : Fin 4, ring.Reached {} (0 : Fin 4) t →
        ∃ properties, ring.properties t = .ok properties) ∧
      ∃ a b, ring.artifact {} (0 : Fin 4) = .ok a ∧
        (ring.withProperties ringReversed).artifact {} (0 : Fin 4) = .ok b ∧
        a.nested.map (·.key) = b.nested.map (·.key) ∧
        (a.nested.map (·.key)).Pairwise KeyBefore ∧
        List.Forall₂ (SameUpToOrder ring ringReversed {}) a.declarations b.declarations :=
  ⟨ring_isDetermined, ringReversed_isDetermined, rearranged_ringReversed, ring_properties_of_reached,
    artifact_of_rearranged ring {} (0 : Fin 4) ringReversed ring_isDetermined
      ringReversed_isDetermined rearranged_ringReversed fun _ => ring_properties_of_reached⟩

end TypeGraph

end TypeExport

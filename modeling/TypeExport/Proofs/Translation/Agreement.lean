import TypeExport.Proofs.Keyed
import TypeExport.Proofs.Translation.Reference

/-!
# Drafts follow walks

A draft carries a state through the resolution of every shape, and a walk carries none.  Resolving a
shape gives the stateless target type unless the walk from the seen names meets a failure, which is
then the result.  The names, the reads and the collected interfaces of the draft are those of the
visited types.  Everything that is said of an artifact can so be said of a walk.
-/

namespace TypeExport

namespace TypeGraph

variable {ε : Type} {g : TypeGraph ε} {policy : Policy}

open Visit

namespace Draft

/-- Every collected interface has a name that was seen. -/
def IsSound (b : Draft g) : Prop :=
  ∀ entry ∈ b.nested, entry.1 ∈ b.seen

/-- What the visits make of a draft.  The interfaces are collected when the visit of a type ends, so
their order is not that of the visits. -/
structure Follows (policy : Policy) (b : Draft g) (visits : List g.Visit) (c : Draft g) : Prop where
  seen : c.seen = seenAfter b.seen visits
  reads : c.reads = b.reads ++ visits.map (·.node)
  nested : b.IsSound → failure? visits = none →
    c.nested.Perm (b.nested ++ visits.filterMap (Visit.collected policy))

theorem Follows.refl (b : Draft g) : Follows policy b [] b where
  seen := rfl
  reads := by simp
  nested _ _ := by simp

theorem fst_mem_of_mem_collected {visits : List g.Visit} {entry : String × Declaration}
    (h : entry ∈ visits.filterMap (Visit.collected policy)) :
    ∃ v ∈ visits, v.fullName = entry.1 := by
  obtain ⟨⟨t, properties⟩, hv, hentry⟩ := List.mem_filterMap.1 h
  cases properties with
  | error e => cases hentry
  | ok properties => cases hentry; exact ⟨_, hv, rfl⟩

theorem Follows.isSound {b c : Draft g} {visits : List g.Visit} (h : Follows policy b visits c)
    (hn : failure? visits = none) (hb : b.IsSound) : c.IsSound := by
  intro entry hentry
  rw [h.seen, mem_seenAfter]
  rcases List.mem_append.1 ((h.nested hb hn).mem_iff.1 hentry) with hmem | hmem
  · exact .inl (hb entry hmem)
  · exact .inr (fst_mem_of_mem_collected hmem)

theorem Follows.trans {b c d : Draft g} {first more : List g.Visit} (h : failure? first = none)
    (hbc : Follows policy b first c) (hcd : Follows policy c more d) :
    Follows policy b (first ++ more) d where
  seen := by rw [hcd.seen, hbc.seen, seenAfter_append]
  reads := by rw [hcd.reads, hbc.reads, List.map_append, List.append_assoc]
  nested hb hm := by
    rw [failure?_append_of_none h] at hm
    rw [List.filterMap_append, ← List.append_assoc]
    exact (hcd.nested (hbc.isSound h hb) hm).trans ((hbc.nested hb h).append_right _)

/-- A failed list of visits says nothing of the interfaces. -/
theorem Follows.of_failure {b c : Draft g} {visits : List g.Visit} {e : ε}
    (hseen : c.seen = seenAfter b.seen visits) (hreads : c.reads = b.reads ++ visits.map (·.node))
    (h : failure? visits = some e) : Follows policy b visits c where
  seen := hseen
  reads := hreads
  nested _ hn := by rw [h] at hn; cases hn

theorem IsSound.visit {b : Draft g} (hb : b.IsSound) (t : g.Node) : (b.visit t).val.IsSound :=
  fun entry hentry => List.mem_cons_of_mem _ (hb entry hentry)

theorem isSound_start (t : g.Node) : (start t).IsSound := by
  intro entry hentry
  cases hentry

/-- Collecting the interface of a type after what it needs completes its visit. -/
theorem Follows.collected {b c : Draft g} {t : g.Node} {properties : List (Property g.Node)}
    {seen : List String} {pending : List g.Node}
    (hseen : (b.visit t).val.seen = seen) (ht : (g.descriptor t).fullName ∉ b.seen)
    (hn : failure? (g.walk policy seen pending) = none)
    (h : Follows policy (b.visit t).val (g.walk policy seen pending) c) :
    Follows policy b (⟨t, .ok properties⟩ :: g.walk policy seen pending)
      (c.collected policy t (g.fields policy properties)).val where
  seen := h.seen
  reads := by
    show c.reads = _
    rw [h.reads]
    simp [Draft.visit]
  nested hb _ := by
    have hperm := h.nested (hb.visit t) hn
    have hfresh : (g.descriptor t).fullName ∉ c.nested.map Prod.fst := by
      intro hmem
      obtain ⟨entry, hentry, hname⟩ := List.mem_map.1 hmem
      rcases List.mem_append.1 (hperm.mem_iff.1 hentry) with hold | hnew
      · exact ht (hname ▸ hb entry hold)
      · obtain ⟨v, hv, hvname⟩ := fst_mem_of_mem_collected hnew
        refine fullName_not_mem_of_mem_walk hv ?_
        rw [hvname, hname, ← hseen]
        exact List.mem_cons_self
    have hput := Keyed.put_of_not_mem hfresh
      (interfaceOf policy (g.descriptor t) (g.fields policy properties) false)
    show (Keyed.put _ _ c.nested).Perm _
    rw [hput, List.filterMap_cons]
    simp only [Visit.collected, Visit.fullName]
    refine (List.perm_append_singleton _ _).trans ?_
    exact (hperm.cons _).trans List.perm_middle.symm

end Draft

open Draft

theorem outcome_map {α β : Type} (visits : List g.Visit) (a : α) (f : α → β) :
    (outcome visits a).map f = outcome visits (f a) := by
  unfold outcome
  split <;> rfl

theorem outcome_eq_ok {α : Type} {visits : List g.Visit} {a b : α}
    (h : outcome visits a = .ok b) : failure? visits = none ∧ a = b := by
  unfold outcome at h
  split at h
  · cases h
  · cases h
    exact ⟨‹_›, rfl⟩

theorem outcome_eq_error {α : Type} {visits : List g.Visit} {a : α} {e : ε}
    (h : outcome visits a = .error e) : failure? visits = some e := by
  unfold outcome at h
  split at h
  · cases h
    assumption
  · cases h

theorem outcome_of_failure {α : Type} {visits : List g.Visit} {e : ε} (a : α)
    (h : failure? visits = some e) : outcome visits a = .error e := by
  simp only [outcome, h]

theorem outcome_of_none {α : Type} {visits : List g.Visit} (a : α)
    (h : failure? visits = none) : outcome visits a = .ok a := by
  simp only [outcome, h]

/-- A resolution from `b` that gives `a` and needs `pending`. -/
def Resolves {α : Type} (policy : Policy) (b : Draft g) (pending : List g.Node) (a : α)
    (result : Except ε α × b.Later) : Prop :=
  result.1 = outcome (g.walk policy b.seen pending) a ∧
    Follows policy b (g.walk policy b.seen pending) result.2.val

theorem Resolves.pure {α : Type} (b : Draft g) (a : α) :
    Resolves policy b [] a (.ok a, b.unchanged) := by
  unfold Resolves
  rw [show g.walk policy b.seen [] = [] by rw [walk]]
  exact ⟨rfl, Follows.refl b⟩

theorem Resolves.map {α β : Type} {b : Draft g} {pending : List g.Node} {a : α}
    {result : Except ε α × b.Later} (h : Resolves policy b pending a result) (f : α → β) :
    Resolves policy b pending (f a) (result.1.map f, result.2) := by
  refine ⟨?_, h.2⟩
  rw [h.1, outcome_map]

theorem not_isInlined_of_enumeration {d : Descriptor} (h : d.kind = .enumeration) :
    ¬d.isInlined = true := by
  simp [Descriptor.isInlined, h]

theorem mapping?_of_needsDeclaration {d : Descriptor} (h : policy.needsDeclaration d = true) :
    policy.mapping? d = none ∧ ¬d.kind = .enumeration ∧ d.isInlined = true ∧
      policy.inlineNested = true := by
  simp only [Policy.needsDeclaration, Bool.and_eq_true, Option.isNone_iff_eq_none] at h
  obtain ⟨⟨hmap, hinlined⟩, hnested⟩ := h
  exact ⟨hmap, fun hkind => not_isInlined_of_enumeration hkind hinlined, hinlined, hnested⟩

theorem needsDeclaration_of_mapping? {d : Descriptor} (hmap : policy.mapping? d = none)
    (hinlined : d.isInlined = true) (hnested : policy.inlineNested = true) :
    policy.needsDeclaration d = true := by
  simp [Policy.needsDeclaration, hmap, hinlined, hnested]

section Types

variable {b : Draft g} {t : g.Node}

/-- A type without a declaration is resolved to its name, and the draft stays. -/
theorem resolveType_of_not (h : ¬policy.needsDeclaration (g.descriptor t) = true) :
    g.resolveType policy b t = (.ok (policy.typeName (g.descriptor t)), b.unchanged) := by
  rw [resolveType, Policy.typeName]
  cases hmap : policy.mapping? (g.descriptor t) with
  | some text => rfl
  | none =>
    by_cases hkind : (g.descriptor t).kind = .enumeration
    · simp only [if_pos hkind]
    by_cases hinlined : (g.descriptor t).isInlined = true
    · have hnested : ¬policy.inlineNested = true :=
        fun hnested => h (needsDeclaration_of_mapping? hmap hinlined hnested)
      simp only [if_neg hkind, if_pos hinlined, if_neg hnested]
    · simp only [if_neg hkind, if_neg hinlined]

/-- A type with a declaration is resolved to its target name when its interface is collected. -/
theorem resolveType_of_needs (h : policy.needsDeclaration (g.descriptor t) = true) :
    g.resolveType policy b t =
      ((g.collect policy b t).1.map fun _ => (g.descriptor t).targetName,
        (g.collect policy b t).2) := by
  obtain ⟨hmap, hkind, hinlined, hnested⟩ := mapping?_of_needsDeclaration h
  rw [resolveType, hmap]
  simp only [if_neg hkind, if_pos hinlined, if_pos hnested]

theorem typeName_of_needs (h : policy.needsDeclaration (g.descriptor t) = true) :
    policy.typeName (g.descriptor t) = (g.descriptor t).targetName := by
  obtain ⟨hmap, hkind, hinlined, hnested⟩ := mapping?_of_needsDeclaration h
  rw [Policy.typeName, hmap]
  simp only [if_neg hkind, if_pos hinlined, if_pos hnested]

theorem resolves_type_of_not (h : ¬policy.needsDeclaration (g.descriptor t) = true) :
    Resolves policy b (g.mentions policy (.direct t)) (g.typeText policy (.direct t))
      (g.resolveType policy b t) := by
  rw [resolveType_of_not h, mentions, if_neg h, typeText]
  exact Resolves.pure b _

theorem resolves_type_of_needs (h : policy.needsDeclaration (g.descriptor t) = true)
    (hcollect : Resolves policy b [t] () (g.collect policy b t)) :
    Resolves policy b (g.mentions policy (.direct t)) (g.typeText policy (.direct t))
      (g.resolveType policy b t) := by
  rw [resolveType_of_needs h, mentions, if_pos h, typeText, typeName_of_needs h]
  exact hcollect.map fun _ => (g.descriptor t).targetName

end Types

variable (g policy)

/-- Every part of a translation follows the walk over the types that it needs. -/
theorem resolves :
    (∀ (b : Draft g) shape,
      Resolves policy b (g.mentions policy shape) (g.typeText policy shape)
        (g.resolve policy b shape)) ∧
    (∀ (b : Draft g) t,
      Resolves policy b (g.mentions policy (.direct t)) (g.typeText policy (.direct t))
        (g.resolveType policy b t)) ∧
    (∀ (b : Draft g) t, Resolves policy b [t] () (g.collect policy b t)) ∧
    (∀ (b : Draft g) properties,
      Resolves policy b (g.mentionsOf policy properties) (properties.map (g.fieldOf policy))
        (g.resolveFields policy b properties)) := by
  refine resolve.mutual_induct g policy _ _ _ _ ?nullable ?array ?dictionary ?openKey ?direct
    ?mapped ?enumeration ?inlined ?notNested ?primitive ?seen ?unreadable ?failed ?collected
    ?nil ?stops ?cons
  case nullable =>
    intro b inner ih
    rw [resolve]
    exact ih
  case array =>
    intro b element text c hrun ih
    rw [resolve, hrun]
    have h := ih
    rw [hrun] at h
    exact h.map (· ++ "[]")
  case dictionary =>
    intro b key value hkey text c hrun ih
    rw [resolve, if_pos hkey, hrun, mentions, if_pos hkey, typeText, if_pos hkey]
    have h := ih
    rw [hrun] at h
    exact h.map fun text => "Record<string, " ++ text ++ ">"
  case openKey =>
    intro b key value hkey
    rw [resolve, if_neg hkey, mentions, if_neg hkey, typeText, if_neg hkey]
    exact Resolves.pure b _
  case direct =>
    intro b t ih
    rw [resolve]
    exact ih
  case mapped =>
    intro b t _ text hmap
    have hmap : policy.mapping? (g.descriptor t) = some text := hmap
    refine resolves_type_of_not fun hneeds => ?_
    rw [(mapping?_of_needsDeclaration hneeds).1] at hmap
    cases hmap
  case enumeration =>
    intro b t _ _ hkind
    exact resolves_type_of_not fun hneeds => (mapping?_of_needsDeclaration hneeds).2.1 hkind
  case inlined =>
    intro b t _ hmap _ hinlined hnested _ _ _ ih
    exact resolves_type_of_needs (needsDeclaration_of_mapping? hmap hinlined hnested) ih
  case notNested =>
    intro b t _ _ _ _ hnested
    exact resolves_type_of_not fun hneeds => hnested (mapping?_of_needsDeclaration hneeds).2.2.2
  case primitive =>
    intro b t _ _ _ hinlined
    exact resolves_type_of_not fun hneeds => hinlined (mapping?_of_needsDeclaration hneeds).2.2.1
  case seen =>
    intro b t hseen
    rw [collect, if_pos hseen]
    have h : Resolves policy b [] () (.ok (), b.unchanged) := Resolves.pure b ()
    unfold Resolves at h ⊢
    rw [walk_of_seen hseen]
    exact h
  case unreadable =>
    intro b t hseen e he
    rw [collect, if_neg hseen, he]
    unfold Resolves
    rw [walk_of_error hseen he]
    exact ⟨rfl, Follows.of_failure rfl rfl rfl⟩
  case failed =>
    intro b t hseen properties hp e c hrun ih
    rw [collect, if_neg hseen, hp]
    simp only [hrun]
    obtain ⟨hresult, hfollows⟩ := ih
    rw [hrun] at hresult hfollows
    have hfailure := outcome_eq_error hresult.symm
    unfold Resolves
    rw [walk_of_ok hseen hp, List.append_nil]
    refine ⟨(outcome_of_failure _ hfailure).symm, Follows.of_failure hfollows.seen ?_ hfailure⟩
    show c.val.reads = _
    rw [hfollows.reads]
    simp [Draft.visit, needs]
  case collected =>
    intro b t hseen properties hp fields c hrun ih
    rw [collect, if_neg hseen, hp]
    simp only [hrun]
    obtain ⟨hresult, hfollows⟩ := ih
    rw [hrun] at hresult hfollows
    obtain ⟨hnone, hfields⟩ := outcome_eq_ok hresult.symm
    unfold Resolves
    rw [walk_of_ok hseen hp, List.append_nil, ← hfields]
    exact ⟨(outcome_of_none _ hnone).symm, hfollows.collected rfl hseen hnone⟩
  case nil =>
    intro b
    rw [resolveFields]
    exact Resolves.pure b _
  case stops =>
    intro b p rest e c hrun ih
    rw [resolveFields, hrun]
    obtain ⟨hresult, hfollows⟩ := ih
    rw [hrun] at hresult hfollows
    have hfailure := outcome_eq_error hresult.symm
    unfold Resolves mentionsOf
    rw [List.flatMap_cons, walk_append, hfailure]
    exact ⟨(outcome_of_failure _ hfailure).symm, hfollows⟩
  case cons =>
    intro b p rest typeText c hrun fields d hmore ih ihmore
    rw [resolveFields, hrun]
    simp only [hmore]
    obtain ⟨hresult, hfollows⟩ := ih
    rw [hrun] at hresult hfollows
    obtain ⟨hnone, htext⟩ := outcome_eq_ok hresult.symm
    have hrest := ihmore
    rw [hmore] at hrest
    have hseen : c.val.seen = seenAfter b.seen (g.walk policy b.seen (g.mentions policy p.shape)) :=
      hfollows.seen
    unfold Resolves mentionsOf
    rw [List.flatMap_cons, walk_append, hnone, ← hseen]
    refine ⟨?_, hfollows.trans hnone hrest.2⟩
    have hfields : fields = outcome _ (rest.map (g.fieldOf policy)) := hrest.1
    show fields.map _ = _
    rw [hfields, outcome_map]
    unfold outcome
    rw [failure?_append_of_none hnone]
    simp only [List.map_cons, fieldOf, htext]
    rfl

/-- Resolving fields gives the stateless fields, or the failure that the walk meets. -/
theorem resolveFields_spec (b : Draft g) (properties : List (Property g.Node)) :
    Resolves policy b (g.needs policy properties) (g.fields policy properties)
      (g.resolveFields policy b (properties.filter policy.keeps)) :=
  (resolves g policy).2.2.2 b _

end TypeGraph

end TypeExport

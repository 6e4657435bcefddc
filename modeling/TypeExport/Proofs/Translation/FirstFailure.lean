import TypeExport.Proofs.Translation.Closure

/-!
# Which failure ends a translation

A path leads from a type through inlined types and never comes back to a name.  It is given by the
positions of the properties that it takes, and paths are ordered by the first position in which they
differ.  A translation fails exactly when a path leads to a type whose properties cannot be read,
and the first of these paths ends at the type whose failure is reported.
-/

namespace TypeExport

/-- The order of paths: the first position in which they differ decides, and a path comes before
those that go on from its end. -/
def NotAfter (a b : List Nat) : Prop :=
  ¬List.Lex (· < ·) b a

namespace NotAfter

variable {a b c : List Nat}

theorem refl (a : List Nat) : NotAfter a a :=
  @List.le_refl Nat _ _ a

theorem trans (h : NotAfter a b) (h' : NotAfter b c) : NotAfter a c :=
  @List.le_trans Nat _ _ _ _ _ _ _ h h'

theorem antisymm (h : NotAfter a b) (h' : NotAfter b a) : a = b :=
  @List.le_antisymm Nat _ _ _ _ h h'

theorem append_left (h : NotAfter b c) (a : List Nat) : NotAfter (a ++ b) (a ++ c) :=
  @List.append_left_le Nat _ _ _ a _ _ h

theorem cons {i j : Nat} (h : i < j) (a b : List Nat) : NotAfter (i :: a) (j :: b) :=
  (@List.cons_le_cons_iff Nat _ _ _ i j a b).2 (.inl h)

theorem append_right (a b : List Nat) : NotAfter a (a ++ b) :=
  @List.IsPrefix.le Nat _ _ a _ (List.prefix_append a b)

end NotAfter

/-- All that goes on from `a` comes before all that goes on from `b`. -/
def StaysBefore (a b : List Nat) : Prop :=
  ∀ p q, NotAfter (a ++ p) (b ++ q)

theorem StaysBefore.append {a b : List Nat} (h : StaysBefore a b) (c : List Nat) :
    StaysBefore (a ++ c) b := by
  intro p q
  rw [List.append_assoc]
  exact h (c ++ p) q

theorem staysBefore_of_lt {i j : Nat} (h : i < j) (a : List Nat) :
    StaysBefore (a ++ [i]) (a ++ [j]) := by
  intro p q
  rw [List.append_assoc, List.append_assoc]
  exact (NotAfter.cons h p q).append_left a

namespace TypeGraph

open Relation Visit

variable {ε : Type} (g : TypeGraph ε) (policy : Policy)

/-- One step of a path: the kept property of `t` at a position holds the inlined type `u`. -/
structure InlinesAt (t : g.Node) (i : Nat) (u : g.Node) : Prop where
  nested : policy.inlineNested = true
  inlined : IsInlined policy (g.descriptor u)
  holds : ∃ properties, g.properties t = .ok properties ∧
    ∃ p, properties[i]? = some p ∧ policy.keeps p = true ∧ g.Holds p.shape u

/-- A path of positions leads from `t` to `f` and meets no name twice and none of the `blocked`
ones. -/
inductive Leads : (blocked : List String) → g.Node → List Nat → g.Node → Prop
  | here {blocked : List String} {t : g.Node} :
      (g.descriptor t).fullName ∉ blocked → Leads blocked t [] t
  | step {blocked : List String} {t u f : g.Node} {i : Nat} {path : List Nat} :
      (g.descriptor t).fullName ∉ blocked → g.InlinesAt policy t i u →
        Leads ((g.descriptor t).fullName :: blocked) u path f → Leads blocked t (i :: path) f

/-- A path leads from `t` to a type whose properties cannot be read. -/
def FailsAt (blocked : List String) (t : g.Node) (path : List Nat) (e : ε) : Prop :=
  ∃ f, g.Leads policy blocked t path f ∧ g.properties f = .error e

/-- The failure at the end of the first path that leads to one. -/
def FailsFirst (root : g.Node) (e : ε) : Prop :=
  ∃ path, g.FailsAt policy [] root path e ∧
    ∀ other e', g.FailsAt policy [] root other e' → NotAfter path other

variable {g policy}

/-- A shape holds one type at most. -/
theorem Holds.unique {s : Shape g.Node} {t u : g.Node} (ht : g.Holds s t) (hu : g.Holds s u) :
    t = u := by
  induction ht with
  | direct t =>
    cases hu
    rfl
  | nullable _ ih =>
    cases hu with
    | nullable hu => exact ih hu
  | array _ ih =>
    cases hu with
    | array hu => exact ih hu
  | value _ _ ih =>
    cases hu with
    | value _ hu => exact ih hu

/-- The positions of a step determine where it leads. -/
theorem InlinesAt.unique {t u v : g.Node} {i : Nat} (hu : g.InlinesAt policy t i u)
    (hv : g.InlinesAt policy t i v) : u = v := by
  obtain ⟨properties, hp, p, hi, -, hholds⟩ := hu.holds
  obtain ⟨others, hothers, q, hj, -, hholds'⟩ := hv.holds
  rw [hp] at hothers
  cases hothers
  rw [hi] at hj
  cases hj
  exact hholds.unique hholds'

theorem InlinesAt.inlines {t u : g.Node} {i : Nat} (h : g.InlinesAt policy t i u) :
    g.Inlines policy t u := by
  obtain ⟨properties, hp, p, hi, hkeeps, hholds⟩ := h.holds
  exact ⟨h.inlined, properties, hp, p, List.mem_of_getElem? hi, hkeeps, hholds⟩

namespace Leads

variable {blocked less : List String} {s t f : g.Node} {path : List Nat}

theorem start_free (h : g.Leads policy blocked t path f) : (g.descriptor t).fullName ∉ blocked := by
  cases h with
  | here hfree => exact hfree
  | step hfree _ _ => exact hfree

/-- A path is at its end, or it takes one step first. -/
theorem eq_or_step (h : g.Leads policy blocked t path f) :
    path = [] ∧ f = t ∨ ∃ i rest u, path = i :: rest ∧ g.InlinesAt policy t i u ∧
      g.Leads policy ((g.descriptor t).fullName :: blocked) u rest f := by
  cases h with
  | here _ => exact .inl ⟨rfl, rfl⟩
  | step _ hstep hrest => exact .inr ⟨_, _, _, rfl, hstep, hrest⟩

/-- Fewer names may be blocked. -/
theorem mono (h : g.Leads policy blocked t path f) (hless : ∀ name ∈ less, name ∈ blocked) :
    g.Leads policy less t path f := by
  induction h generalizing less with
  | here hfree => exact .here fun hmem => hfree (hless _ hmem)
  | step hfree hstep _ ih =>
    refine .step (fun hmem => hfree (hless _ hmem)) hstep (ih fun name hname => ?_)
    rcases List.mem_cons.1 hname with rfl | hname
    · exact List.mem_cons_self
    · exact List.mem_cons_of_mem _ (hless name hname)

/-- The positions of a path determine where it ends. -/
theorem unique {f' : g.Node} (h : g.Leads policy blocked t path f)
    (h' : g.Leads policy less t path f') : f = f' := by
  induction h generalizing less with
  | here _ =>
    cases h'
    rfl
  | step _ hstep _ ih =>
    cases h' with
    | step _ hstep' h' =>
      obtain rfl := hstep.unique hstep'
      exact ih h'

/-- Where a path leads to is inlined, through any number of steps. -/
theorem reflTransGen (h : g.Leads policy blocked t path f) :
    ReflTransGen (g.Inlines policy) t f := by
  induction h with
  | here _ => exact .refl
  | step _ hstep _ ih => exact .head hstep.inlines ih

theorem reached (h : g.Leads policy blocked t path f) : g.Reached policy t f := by
  cases h with
  | here _ => exact .inl rfl
  | step _ hstep hrest => exact .inr ⟨hstep.nested, .head' hstep.inlines hrest.reflTransGen⟩

/-- A path keeps off a name, or a part of it starts there. -/
theorem avoids_or_passes (h : g.Leads policy blocked t path f) (name : String) :
    g.Leads policy (name :: blocked) t path f ∨
      ∃ s rest, (g.descriptor s).fullName = name ∧ g.Leads policy blocked s rest f := by
  induction h with
  | @here blocked t hfree =>
    by_cases hname : (g.descriptor t).fullName = name
    · exact .inr ⟨t, [], hname, .here hfree⟩
    · exact .inl (.here (List.not_mem_cons_of_ne_of_not_mem hname hfree))
  | @step blocked t u f i path hfree hstep hrest ih =>
    by_cases hname : (g.descriptor t).fullName = name
    · exact .inr ⟨t, i :: path, hname, .step hfree hstep hrest⟩
    · rcases ih with havoids | ⟨s, rest, hs, hpasses⟩
      · refine .inl (.step (List.not_mem_cons_of_ne_of_not_mem hname hfree) hstep (havoids.mono ?_))
        intro n hn
        rw [List.mem_cons, List.mem_cons] at hn ⊢
        exact or_left_comm.1 hn
      · exact .inr ⟨s, rest, hs, hpasses.mono fun n hn => List.mem_cons_of_mem _ hn⟩

end Leads

variable (g) in
/-- A place of a walk: the path from its start, and the type there. -/
abbrev Place : Type :=
  List Nat × g.Node

/-- The places behind the properties of a type, in order. -/
def placesBelow (g : TypeGraph ε) (policy : Policy) (address : List Nat)
    (properties : List (Property g.Node)) : List g.Place :=
  properties.zipIdx.flatMap fun entry =>
    if policy.keeps entry.1 then
      (g.mentions policy entry.1.shape).map fun u => (address ++ [entry.2], u)
    else []

/-- The places below a type hold the types that its properties need. -/
theorem map_snd_placesBelow (address : List Nat) (properties : List (Property g.Node)) :
    (g.placesBelow policy address properties).map (·.2) = g.needs policy properties := by
  unfold placesBelow needs mentionsOf
  generalize 0 = first
  induction properties generalizing first with
  | nil => rfl
  | cons p rest ih =>
    rw [List.zipIdx_cons, List.flatMap_cons, List.map_append, ih, List.filter_cons]
    cases policy.keeps p with
    | true =>
      rw [if_pos rfl, if_pos rfl, List.flatMap_cons, List.map_map]
      exact congrArg (· ++ _) (List.map_id _)
    | false => rfl

/-- A place below a type is an index under which it inlines another one. -/
theorem mem_placesBelow_iff {t u : g.Node} {address b : List Nat}
    {properties : List (Property g.Node)} (hp : g.properties t = .ok properties) :
    (b, u) ∈ g.placesBelow policy address properties ↔
      ∃ i, b = address ++ [i] ∧ g.InlinesAt policy t i u := by
  unfold placesBelow
  rw [List.mem_flatMap]
  constructor
  · rintro ⟨⟨p, i⟩, hmem, hplace⟩
    split at hplace
    · rename_i hkeeps
      obtain ⟨v, hv, heq⟩ := List.mem_map.1 hplace
      cases heq
      obtain ⟨hholds, hinlined, hnested⟩ := mem_mentions_iff.1 hv
      exact ⟨i, rfl, hnested, hinlined, properties, hp, p, List.mem_zipIdx_iff_getElem?.1 hmem,
        hkeeps, hholds⟩
    · cases hplace
  · rintro ⟨i, rfl, hnested, hinlined, others, hothers, p, hi, hkeeps, hholds⟩
    rw [hp] at hothers
    cases hothers
    refine ⟨(p, i), List.mem_zipIdx_iff_getElem?.2 hi, ?_⟩
    rw [if_pos hkeeps]
    exact List.mem_map_of_mem (mem_mentions_iff.2 ⟨hholds, hinlined, hnested⟩)

/-- A shape mentions one type at most. -/
theorem length_mentions_le (policy : Policy) (s : Shape g.Node) :
    (g.mentions policy s).length ≤ 1 := by
  induction s with
  | direct t =>
    rw [mentions]
    split <;> simp
  | nullable s ih => exact ih
  | array s ih => exact ih
  | dictionary k v _ ih =>
    rw [mentions]
    split
    · exact ih
    · exact Nat.zero_le _

/-- The places behind properties stand in the order of the properties. -/
theorem pairwise_placesBelow (address : List Nat) (properties : List (Property g.Node)) :
    (g.placesBelow policy address properties).Pairwise fun a b => StaysBefore a.1 b.1 := by
  have hpositions : properties.zipIdx.Pairwise fun a b => a.2 < b.2 := by
    rw [← List.pairwise_map, List.zipIdx_map_snd]
    exact List.pairwise_lt_range'
  unfold placesBelow
  rw [List.pairwise_flatMap]
  constructor
  · rintro ⟨p, i⟩ -
    split
    · match hlist : g.mentions policy p.shape with
      | [] => exact .nil
      | [u] => exact List.pairwise_singleton _ _
      | u :: v :: rest =>
        have hle := length_mentions_le policy p.shape
        rw [hlist] at hle
        simp at hle
    · exact .nil
  · refine hpositions.imp fun {a b} hlt x hx y hy => ?_
    split at hx
    · split at hy
      · obtain ⟨u, -, rfl⟩ := List.mem_map.1 hx
        obtain ⟨v, -, rfl⟩ := List.mem_map.1 hy
        exact staysBefore_of_lt hlt address
      · cases hy
    · cases hx

/-- A path from one of some places leads to a type whose properties cannot be read; `address` is
the place and the path together. -/
def FailsBehind (policy : Policy) (blocked : List String) (places : List g.Place)
    (address : List Nat) (e : ε) : Prop :=
  ∃ place ∈ places, ∃ path, address = place.1 ++ path ∧ g.FailsAt policy blocked place.2 path e

theorem FailsBehind.later {blocked : List String} {place : g.Place} {places : List g.Place}
    {address : List Nat} {e : ε} (h : FailsBehind policy blocked places address e) :
    FailsBehind policy blocked (place :: places) address e := by
  obtain ⟨other, hmem, hrest⟩ := h
  exact ⟨other, List.mem_cons_of_mem _ hmem, hrest⟩

section Visit

variable {blocked : List String} {place : g.Place} {places : List g.Place} {address : List Nat}
  {e : ε} {properties : List (Property g.Node)}

/-- What fails behind the properties of a type or later fails behind the type or later. -/
theorem FailsBehind.of_below (hfree : (g.descriptor place.2).fullName ∉ blocked)
    (hp : g.properties place.2 = .ok properties)
    (h : FailsBehind policy ((g.descriptor place.2).fullName :: blocked)
      (g.placesBelow policy place.1 properties ++ places) address e) :
    FailsBehind policy blocked (place :: places) address e := by
  obtain ⟨⟨b, u⟩, hmem, path, rfl, f, hleads, hfails⟩ := h
  rcases List.mem_append.1 hmem with hbelow | hlater
  · obtain ⟨i, rfl, hstep⟩ := (mem_placesBelow_iff hp).1 hbelow
    exact ⟨place, List.mem_cons_self, i :: path, List.append_assoc _ _ _, f,
      .step hfree hstep hleads, hfails⟩
  · exact .later ⟨(b, u), hlater, path, rfl, f,
      hleads.mono fun n hn => List.mem_cons_of_mem _ hn, hfails⟩

/-- What fails behind a type that can be read fails behind its properties. -/
theorem FailsAt.below {t : g.Node} {path : List Nat} (h : g.FailsAt policy blocked t path e)
    (hp : g.properties t = .ok properties) (address : List Nat) (places : List g.Place) :
    FailsBehind policy ((g.descriptor t).fullName :: blocked)
      (g.placesBelow policy address properties ++ places) (address ++ path) e := by
  obtain ⟨f, hleads, hfails⟩ := h
  cases hleads with
  | here hfree =>
    rw [hp] at hfails
    cases hfails
  | @step _ _ u _ i path hfree hstep hrest =>
    refine ⟨(address ++ [i], u), List.mem_append_left _ ?_, path, ?_, f, hrest, hfails⟩
    · exact (mem_placesBelow_iff hp).2 ⟨i, rfl, hstep⟩
    · exact (List.append_assoc address [i] path).symm

/-- What fails behind a type or later is not before all that fails behind its properties or later:
a later path that passes the type goes on from there on an earlier path, too. -/
theorem FailsBehind.exists_below (hname : g.IsDetermined)
    (hp : g.properties place.2 = .ok properties)
    (hbefore : ∀ later ∈ places, StaysBefore place.1 later.1)
    (h : FailsBehind policy blocked (place :: places) address e) :
    ∃ earlier e', NotAfter earlier address ∧
      FailsBehind policy ((g.descriptor place.2).fullName :: blocked)
        (g.placesBelow policy place.1 properties ++ places) earlier e' := by
  obtain ⟨other, hmem, path, rfl, hfails⟩ := h
  rcases List.mem_cons.1 hmem with rfl | hlater
  · exact ⟨_, e, .refl _, hfails.below hp other.1 places⟩
  · obtain ⟨f, hleads, hfailed⟩ := hfails
    rcases hleads.avoids_or_passes (g.descriptor place.2).fullName with
      havoids | ⟨s, rest, hs, hpasses⟩
    · exact ⟨_, e, .refl _, other, List.mem_append_right _ hlater, path, rfl, f, havoids, hfailed⟩
    · have hsame := (hname s place.2 hs).2
      have hbehind : FailsBehind policy ((g.descriptor s).fullName :: blocked)
          (g.placesBelow policy place.1 properties ++ places) (place.1 ++ rest) e :=
        FailsAt.below ⟨f, hpasses, hfailed⟩ (hsame.trans hp) place.1 places
      rw [hs] at hbehind
      exact ⟨_, e, hbefore other hlater rest path, hbehind⟩

end Visit

/-- A walk that meets a failure meets the first one behind its places. -/
theorem failsBehind_of_failure? (hname : g.IsDetermined) {seen : List String}
    {pending : List g.Node} {places : List g.Place} {e : ε} (hpending : places.map (·.2) = pending)
    (hbefore : places.Pairwise fun a b => StaysBefore a.1 b.1)
    (h : failure? (g.walk policy seen pending) = some e) :
    ∃ address, FailsBehind policy seen places address e ∧
      ∀ other e', FailsBehind policy seen places other e' → NotAfter address other := by
  fun_induction walk g policy seen pending generalizing places with
  | case1 seen => cases h
  | case2 seen t rest hseen ih =>
    obtain ⟨place, places, rfl, rfl, rfl⟩ := List.map_eq_cons_iff.1 hpending
    obtain ⟨address, hfails, hfirst⟩ := ih rfl hbefore.of_cons h
    refine ⟨address, hfails.later, fun other e' hother => hfirst other e' ?_⟩
    obtain ⟨behind, hmem, path, rfl, f, hleads, hfailed⟩ := hother
    rcases List.mem_cons.1 hmem with rfl | hmem
    · exact absurd hseen hleads.start_free
    · exact ⟨behind, hmem, path, rfl, f, hleads, hfailed⟩
  | case3 seen t rest hseen e' he =>
    obtain ⟨place, places, rfl, rfl, rfl⟩ := List.map_eq_cons_iff.1 hpending
    cases h
    refine ⟨place.1, ⟨place, List.mem_cons_self, [], (List.append_nil _).symm, place.2,
      .here hseen, he⟩, ?_⟩
    rintro other - ⟨behind, hmem, path, rfl, -⟩
    rcases List.mem_cons.1 hmem with rfl | hmem
    · exact .append_right _ _
    · have hstays := (List.pairwise_cons.1 hbefore).1 behind hmem [] path
      rw [List.append_nil] at hstays
      exact hstays
  | case4 seen t rest hseen properties hp ih =>
    obtain ⟨place, places, rfl, rfl, rfl⟩ := List.map_eq_cons_iff.1 hpending
    obtain ⟨hplace, hplaces⟩ := List.pairwise_cons.1 hbefore
    have hbelow : (g.placesBelow policy place.1 properties ++ places).Pairwise
        fun a b => StaysBefore a.1 b.1 := by
      refine List.pairwise_append.2 ⟨pairwise_placesBelow _ _, hplaces, ?_⟩
      rintro ⟨b, u⟩ hmem later hlater
      obtain ⟨i, rfl, -⟩ := (mem_placesBelow_iff hp).1 hmem
      exact (hplace later hlater).append [i]
    have hnext : (g.placesBelow policy place.1 properties ++ places).map (·.2) =
        g.needs policy properties ++ places.map (·.2) := by
      rw [List.map_append, map_snd_placesBelow]
    obtain ⟨address, hfails, hfirst⟩ := ih hnext hbelow h
    refine ⟨address, hfails.of_below hseen hp, fun other e' hother => ?_⟩
    obtain ⟨earlier, e'', hearlier, hbehind⟩ := hother.exists_below hname hp hplace
    exact (hfirst earlier e'' hbehind).trans hearlier

section Root

variable {root : g.Node} {properties : List (Property g.Node)} {e : ε}

/-- The translation of a type that is no enumeration fails as the walk from it does. -/
theorem artifact_eq_error_iff (hkind : (g.descriptor root).kind ≠ .enumeration) :
    g.artifact policy root = .error e ↔ failure? (g.walk policy [] [root]) = some e := by
  have hfree : (g.descriptor root).fullName ∉ ([] : List String) := List.not_mem_nil
  cases hp : g.properties root with
  | error e' =>
    unfold artifact translate
    simp only [if_neg hkind, hp, walk_of_error hfree hp, failure?, Except.error.injEq,
      Option.some.injEq]
  | ok properties =>
    rw [walk_of_ok hfree hp, List.append_nil, failure?]
    constructor
    · intro h
      cases hn : failure? (g.visitsBelow policy root properties) with
      | none =>
        obtain ⟨a, hrun, -⟩ := artifact_of_visits hkind hp hn
        rw [hrun] at h
        cases h
      | some e' =>
        rw [artifact_of_failure hkind hp hn] at h
        cases h
        exact hn
    · exact artifact_of_failure hkind hp

/-- The types whose properties a translation takes. -/
theorem reads_eq (hkind : (g.descriptor root).kind ≠ .enumeration)
    (hp : g.properties root = .ok properties) :
    g.reads policy root = root :: (g.visitsBelow policy root properties).map (·.node) := by
  have hfollows := (resolveFields_spec g policy (Draft.start root) properties).2
  unfold reads translate
  simp only [if_neg hkind, hp]
  exact hfollows.reads

/-- Only the properties of the root and of inlined types are read. -/
theorem reached_of_mem_reads {t : g.Node} (h : t ∈ g.reads policy root) :
    t = root ∨ policy.inlineNested = true ∧ ∃ s, g.Reached policy root s ∧ g.Inlines policy s t := by
  by_cases hkind : (g.descriptor root).kind = .enumeration
  · unfold reads translate at h
    simp only [if_pos hkind] at h
    cases h
  · cases hp : g.properties root with
    | error e =>
      unfold reads translate at h
      simp only [if_neg hkind, hp] at h
      exact .inl (List.mem_singleton.1 h)
    | ok properties =>
      rw [reads_eq hkind hp] at h
      rcases List.mem_cons.1 h with rfl | h
      · exact .inl rfl
      · obtain ⟨v, hv, rfl⟩ := List.mem_map.1 h
        obtain ⟨hnested, hsteps⟩ := transGen_of_mem_visitsBelow hp hv
        obtain ⟨s, hs, hedge⟩ := TransGen.tail'_iff.1 hsteps
        refine .inr ⟨hnested, s, ?_, hedge⟩
        exact (reflTransGen_iff_eq_or_transGen.1 hs).imp_right fun hs => ⟨hnested, hs⟩

/-- A failure that can be reached makes the translation fail. -/
theorem exists_error_of_reached (hname : g.IsDetermined)
    (hkind : (g.descriptor root).kind ≠ .enumeration) {t : g.Node} (ht : g.Reached policy root t)
    (hfails : g.properties t = .error e) : ∃ e', g.artifact policy root = .error e' := by
  cases hrun : g.artifact policy root with
  | error e' => exact ⟨e', rfl⟩
  | ok a =>
    -- every type of a reached name would have been read
    obtain ⟨properties, hp, -⟩ := declares_of_artifact hkind hrun
    have hn : failure? (g.visitsBelow policy root properties) = none := by
      cases hn : failure? (g.visitsBelow policy root properties) with
      | none => rfl
      | some e' =>
        rw [artifact_of_failure hkind hp hn] at hrun
        cases hrun
    obtain rfl | ⟨hnested, hsteps⟩ := ht
    · rw [hp] at hfails
      cases hfails
    · rcases mem_seenAfter.1 (mem_seenAfter_of_transGen hname hp hn hnested hsteps) with
        hmem | ⟨v, hv, hvname⟩
      · have hroot := (hname t root (List.mem_singleton.1 hmem)).2
        rw [hp, hfails] at hroot
        cases hroot
      · obtain ⟨others, hothers⟩ := failure?_eq_none_iff.1 hn v hv
        rw [properties_of_mem_walk hv, (hname v.node t hvname).2, hfails] at hothers
        cases hothers

/-- What a translation reports is the first failure. -/
theorem failsFirst_of_artifact (hname : g.IsDetermined)
    (hkind : (g.descriptor root).kind ≠ .enumeration) (h : g.artifact policy root = .error e) :
    g.FailsFirst policy root e := by
  have hwalk := (artifact_eq_error_iff hkind).1 h
  have hplace : ∀ {address e'}, FailsBehind policy [] [([], root)] address e' ↔
      g.FailsAt policy [] root address e' := by
    intro address e'
    constructor
    · rintro ⟨place, hmem, path, rfl, hfails⟩
      rw [List.mem_singleton.1 hmem] at hfails ⊢
      exact hfails
    · intro hfails
      exact ⟨([], root), List.mem_singleton.2 rfl, address, rfl, hfails⟩
  have hbefore : [(([], root) : g.Place)].Pairwise fun a b => StaysBefore a.1 b.1 :=
    List.pairwise_singleton _ _
  obtain ⟨address, hfails, hfirst⟩ := failsBehind_of_failure? hname rfl hbefore hwalk
  exact ⟨address, hplace.1 hfails, fun other e' hother => hfirst other e' (hplace.2 hother)⟩

theorem FailsFirst.unique {e' : ε} (h : g.FailsFirst policy root e)
    (h' : g.FailsFirst policy root e') : e = e' := by
  obtain ⟨path, ⟨f, hleads, hfails⟩, hfirst⟩ := h
  obtain ⟨path', ⟨f', hleads', hfails'⟩, hfirst'⟩ := h'
  obtain rfl := (hfirst path' e' ⟨f', hleads', hfails'⟩).antisymm
    (hfirst' path e ⟨f, hleads, hfails⟩)
  rw [hleads.unique hleads', hfails'] at hfails
  cases hfails
  rfl

end Root

/-- A translation fails exactly when the properties of a reached type cannot be read, and it reports
the first one of these failures.  An enumeration is always translated, and nothing is read but the
root and types that are inlined. -/
theorem artifact_fails_iff_reached (g : TypeGraph ε) (policy : Policy) (root : g.Node)
    (hname : g.IsDetermined) :
    ((g.descriptor root).kind = .enumeration →
      (∃ a, g.artifact policy root = .ok a) ∧ g.reads policy root = []) ∧
    ((g.descriptor root).kind ≠ .enumeration →
      ((∃ e, g.artifact policy root = .error e) ↔
        ∃ t, g.Reached policy root t ∧ ∃ e, g.properties t = .error e) ∧
      ∀ e, g.artifact policy root = .error e ↔ g.FailsFirst policy root e) ∧
    ∀ t ∈ g.reads policy root, t = root ∨
      policy.inlineNested = true ∧ ∃ s, g.Reached policy root s ∧ g.Inlines policy s t := by
  refine ⟨fun hkind => ?_, fun hkind => ⟨⟨?_, ?_⟩, fun e => ⟨?_, ?_⟩⟩, fun t => reached_of_mem_reads⟩
  · unfold artifact reads translate
    simp only [if_pos hkind]
    exact ⟨⟨_, rfl⟩, trivial⟩
  · rintro ⟨e, he⟩
    obtain ⟨path, ⟨f, hleads, hfails⟩, -⟩ := failsFirst_of_artifact hname hkind he
    exact ⟨f, hleads.reached, e, hfails⟩
  · rintro ⟨t, ht, e, hfails⟩
    exact exists_error_of_reached hname hkind ht hfails
  · exact failsFirst_of_artifact hname hkind
  · intro hfirst
    obtain ⟨path, ⟨f, hleads, hfails⟩, -⟩ := id hfirst
    obtain ⟨e', he'⟩ := exists_error_of_reached hname hkind hleads.reached hfails
    rw [he', hfirst.unique (failsFirst_of_artifact hname hkind he')]

theorem halfRead_isDetermined : halfRead.IsDetermined := by
  have hinj : ∀ s t : Fin 4,
      (halfRead.descriptor s).fullName = (halfRead.descriptor t).fullName → s = t := by
    decide
  intro s t h
  rw [hinj s t h]
  exact ⟨rfl, rfl⟩

/-- The class `app.C` stands nearer to the root, but `app.D` comes first. -/
theorem halfRead_failsFirst : halfRead.FailsFirst {} (0 : Fin 4) "no properties of D" := by
  have hinlined : ∀ t : Fin 4, IsInlined {} (halfRead.descriptor t) := by
    intro t
    exact ⟨rfl, rfl, rfl, rfl⟩
  have hb : halfRead.InlinesAt {} (0 : Fin 4) 0 (1 : Fin 4) :=
    ⟨rfl, hinlined 1, _, rfl, _, rfl, rfl, .direct _⟩
  have ha : halfRead.InlinesAt {} (1 : Fin 4) 0 (0 : Fin 4) :=
    ⟨rfl, hinlined 0, _, rfl, _, rfl, rfl, .direct _⟩
  have hd : halfRead.InlinesAt {} (1 : Fin 4) 1 (3 : Fin 4) :=
    ⟨rfl, hinlined 3, _, rfl, _, rfl, rfl, .array (.direct _)⟩
  have hleads : halfRead.Leads {} [] (0 : Fin 4) [0, 1] (3 : Fin 4) :=
    .step (by decide) hb (.step (by decide) hd (.here (by decide)))
  refine ⟨[0, 1], ⟨(3 : Fin 4), hleads, rfl⟩, ?_⟩
  rintro other e ⟨f, hother, hfails⟩
  rcases hother.eq_or_step with ⟨-, rfl⟩ | ⟨i, path, u, rfl, hstep, hrest⟩
  · cases hfails
  cases i with
  | succ i => exact .cons (Nat.succ_pos i) _ _
  | zero =>
    obtain rfl := hb.unique hstep
    refine NotAfter.append_left ?_ [0]
    rcases hrest.eq_or_step with ⟨-, rfl⟩ | ⟨j, path, v, rfl, hstep, hrest⟩
    · cases hfails
    match j with
    | 0 =>
      obtain rfl := ha.unique hstep
      exact absurd (List.mem_cons_of_mem _ List.mem_cons_self) hrest.start_free
    | 1 => exact .append_right [1] path
    | j + 2 => exact .cons (Nat.succ_lt_succ (Nat.succ_pos j)) _ _

theorem artifact_of_halfRead :
    halfRead.IsDetermined ∧ (halfRead.descriptor (0 : Fin 4)).kind ≠ .enumeration ∧
      halfRead.artifact {} (0 : Fin 4) = .error "no properties of D" ∧
      ∀ t : Fin 4, t ∈ halfRead.reads {} (0 : Fin 4) → t = (0 : Fin 4) ∨
        ∃ s, halfRead.Reached {} (0 : Fin 4) s ∧ halfRead.Inlines {} s t := by
  obtain ⟨-, hfails, hreads⟩ := artifact_fails_iff_reached halfRead {} (0 : Fin 4)
    halfRead_isDetermined
  have hkind : (halfRead.descriptor (0 : Fin 4)).kind ≠ .enumeration := by decide
  refine ⟨halfRead_isDetermined, hkind, ((hfails hkind).2 _).2 halfRead_failsFirst, fun t ht => ?_⟩
  exact (hreads t ht).imp_right fun h => h.2

end TypeGraph

end TypeExport

import TypeExport.Annotation.Forward
import TypeExport.Proofs.Keyed
import TypeExport.Scan.Description

/-!
# Annotations that fail beside others

The hints of a class are those of its annotations and of its ancestors' annotations, whether all of
them are evaluated together or each alone: each name stands at one place, and the annotation that
counts for it is the same.  So one annotation that fails changes another's hint only through a name
that is both an attribute of the class and a name of its module.
-/

/-!
## Names with more meanings

An annotation that has a value keeps it when more names have meanings.  So two ways of finding
meanings give one value to an annotation that only uses names on which they agree.
-/

namespace TypeExport

/-- The second succeeds where the first does, with the same value. -/
def Refines {ε α : Type} (x y : Except ε α) : Prop :=
  ∀ a, x = .ok a → y = .ok a

namespace Refines

variable {ε α β : Type} {x y : Except ε α}

theorem refl (x : Except ε α) : Refines x x :=
  fun _ h => h

theorem error (e : ε) (y : Except ε α) : Refines (.error e) y :=
  fun _ h => by cases h

theorem bind {f g : α → Except ε β} (h : Refines x y) (hf : ∀ a, Refines (f a) (g a)) :
    Refines (x >>= f) (y >>= g) := by
  intro b hb
  cases hx : x with
  | error e =>
    rw [hx] at hb
    cases hb
  | ok a =>
    rw [hx] at hb
    rw [h a hx]
    exact hf a b hb

theorem mapM {f g : α → Except ε β} (hf : ∀ a, Refines (f a) (g a)) (l : List α) :
    Refines (l.mapM f) (l.mapM g) := by
  induction l with
  | nil => exact refl _
  | cons a l ih =>
    rw [List.mapM_cons, List.mapM_cons]
    apply (hf a).bind
    intro b
    apply ih.bind
    intro bs
    exact refl _

end Refines

/-- Names that have a meaning have the same one. -/
def ExtendsMeanings (lookup lookup' : String → Option Hint) : Prop :=
  ∀ name h, lookup name = some h → lookup' name = some h

variable {w : World} {lookup lookup' : String → Option Hint}

namespace Expr

mutual

/-- More meanings of names leave the values of expressions that have one. -/
theorem evaluate_refines (h : ExtendsMeanings lookup lookup') :
    ∀ e : Expr, Refines (e.evaluate w lookup) (e.evaluate w lookup')
  | .name id => by
    rw [evaluate, evaluate]
    cases hname : lookup id with
    | none => exact .error _ _
    | some meaning =>
      rw [h id meaning hname]
      exact .refl _
  | .attribute owner id => by
    rw [evaluate, evaluate]
    exact (evaluate_refines h owner).bind fun _ => .refl _
  | .subscript owner index => by
    rw [evaluate, evaluate]
    apply (evaluate_refines h owner).bind
    intro owner
    exact (evaluate_refines h index).bind fun _ => .refl _
  | .call f arguments => by
    rw [evaluate, evaluate]
    apply (evaluate_refines h f).bind
    intro f
    exact (evaluateAll_refines h arguments).bind fun _ => .refl _
  | .binary op left right => by
    rw [evaluate, evaluate]
    apply (evaluate_refines h left).bind
    intro left
    exact (evaluate_refines h right).bind fun _ => .refl _
  | .negative operand => by
    rw [evaluate, evaluate]
    exact (evaluate_refines h operand).bind fun _ => .refl _
  | .constant v => by
    cases v <;> exact .refl _
  | .ellipsis => .refl _
  | .list items => by
    rw [evaluate, evaluate]
    exact (evaluateAll_refines h items).bind fun _ => .refl _
  | .tuple items => by
    rw [evaluate, evaluate]
    exact (evaluateAll_refines h items).bind fun _ => .refl _
  | .function => .refl _
  | .display keyed => .refl _

theorem evaluateAll_refines (h : ExtendsMeanings lookup lookup') :
    ∀ es : List Expr, Refines (evaluateAll w lookup es) (evaluateAll w lookup' es)
  | [] => .refl _
  | e :: rest => by
    rw [evaluateAll, evaluateAll]
    apply (evaluate_refines h e).bind
    intro _
    exact (evaluateAll_refines h rest).bind fun _ => .refl _

end

end Expr

namespace Hint

/-- More meanings of names leave the hints that texts are resolved to. -/
theorem resolveFrom_refines (h : ExtendsMeanings lookup lookup') (depth : Nat) :
    ∀ (guard : List String) (hint : Hint),
      Refines (resolveFrom w lookup depth guard hint) (resolveFrom w lookup' depth guard hint) := by
  induction depth with
  | zero => exact fun guard hint => .refl _
  | succ depth ih =>
    intro guard hint
    cases hint with
    | forward s special =>
      rw [resolveFrom, resolveFrom]
      split
      · exact .refl _
      · cases Expr.read? s with
        | none => exact .refl _
        | some e =>
          apply (Expr.evaluate_refines h e).bind
          intro value
          apply Refines.bind (.refl _)
          intro argument
          exact ih (s :: guard) argument
    | union members native =>
      rw [resolveFrom, resolveFrom]
      exact (Refines.mapM (ih guard) members).bind fun _ => .refl _
    | applied origin arguments native =>
      rw [resolveFrom, resolveFrom]
      apply Refines.bind (.refl _)
      intro opened
      exact (Refines.mapM (ih guard) opened).bind fun _ => .refl _
    | formed name arguments =>
      rw [resolveFrom, resolveFrom]
      exact (Refines.mapM (ih guard) arguments).bind fun _ => .refl _
    | annotated inner notes =>
      rw [resolveFrom, resolveFrom]
      exact (ih guard inner).bind fun _ => .refl _
    | classVariable inner =>
      rw [resolveFrom, resolveFrom]
      exact (ih guard inner).bind fun _ => .refl _
    | final inner =>
      rw [resolveFrom, resolveFrom]
      exact (ih guard inner).bind fun _ => .refl _
    | _ => exact .refl _

/-- An annotation that has a value keeps it when more names have meanings. -/
theorem ofAnnotation_refines (h : ExtendsMeanings lookup lookup') (hint : Hint) :
    Refines (Hint.ofAnnotation w lookup hint) (Hint.ofAnnotation w lookup' hint) := by
  unfold ofAnnotation resolve
  apply Refines.bind (.refl _)
  intro annotation
  exact resolveFrom_refines h resolutionDepth [] annotation

end Hint

end TypeExport

/-!
## Hints of classes
-/

namespace TypeExport.World

variable (w : World)

def ownAnnotations (c : ClassRef) : List (String × ClassRef × Hint) :=
  (w.annotations c).map fun (name, typeHint) => (name, c, typeHint)

/-- The annotations of a class and its ancestors, the remotest first. -/
def allAnnotations (c : ClassRef) : List (String × ClassRef × Hint) :=
  (w.order c).reverse.flatMap w.ownAnnotations

/-- The annotations that count, each with the class that has it: the last one of a name, at the
place of the first. -/
def annotationTable (c : ClassRef) : List (String × ClassRef × Hint) :=
  Keyed.putAll (w.allAnnotations c) []

/-- All annotations of a class and its ancestors can be evaluated by `evaluate`. -/
def Evaluates (evaluate : ClassRef → Hint → Except Failure Hint) (c : ClassRef) : Prop :=
  ∀ a ∈ w.allAnnotations c, ∃ h, evaluate a.2.1 a.2.2 = .ok h

/-- Names with a meaning that is the same in both ways of evaluating annotations. -/
def SharesMeanings (c : ClassRef) (meanings : String → Option Hint) : Prop :=
  ExtendsMeanings meanings (w.jointMeaning c) ∧ ExtendsMeanings meanings (w.separateMeaning c)

variable {w : World} {c : ClassRef} {evaluate : ClassRef → Hint → Except Failure Hint}
  {table : List (String × Hint)}

/-- An annotation that only needs shared meanings has one hint in both ways. -/
theorem jointHint_of_sharesMeanings {meanings : String → Option Hint} {typeHint h : Hint}
    (hshared : w.SharesMeanings c meanings)
    (hvalue : Hint.ofAnnotation w meanings typeHint = .ok h) :
    w.jointHint c typeHint = .ok h :=
  Hint.ofAnnotation_refines hshared.1 typeHint h hvalue

theorem separateHint_of_sharesMeanings {meanings : String → Option Hint} {typeHint h : Hint}
    (hshared : w.SharesMeanings c meanings)
    (hvalue : Hint.ofAnnotation w meanings typeHint = .ok h) :
    w.separateHint c typeHint = .ok h := by
  rw [separateHint, Hint.ofAnnotation_refines hshared.2 typeHint h hvalue]

section Tables

def namedHint (evaluate : ClassRef → Hint → Except Failure Hint)
    (a : String × ClassRef × Hint) : Except Failure (String × Hint) := do
  return (a.1, ← evaluate a.2.1 a.2.2)

/-- A named hint is there if its annotation can be evaluated. -/
theorem namedHint_eq_ok_iff {a : String × ClassRef × Hint} {entry : String × Hint} :
    namedHint evaluate a = .ok entry ↔
      SameKey (fun a h => evaluate a.1 a.2 = .ok h) a entry := by
  obtain ⟨name, k, typeHint⟩ := a
  obtain ⟨name', h⟩ := entry
  simp only [namedHint, SameKey]
  cases evaluate k typeHint with
  | error f =>
    constructor
    · intro hentry
      cases hentry
    · rintro ⟨_, hentry⟩
      cases hentry
  | ok value =>
    constructor
    · intro hentry
      cases hentry
      exact ⟨rfl, rfl⟩
    · rintro ⟨rfl, hentry⟩
      cases hentry
      rfl

theorem ownHints_eq_mapM :
    w.ownHints evaluate c = (w.ownAnnotations c).mapM (namedHint evaluate) := by
  rw [ownHints, ownAnnotations, List.mapM_map]
  rfl

theorem collectHints_eq_mapM :
    w.collectHints evaluate c =
      (Keyed.putAll · []) <$> (w.allAnnotations c).mapM (namedHint evaluate) := by
  have hown : w.ownHints evaluate = fun k => (w.ownAnnotations k).mapM (namedHint evaluate) :=
    funext fun _ => ownHints_eq_mapM
  rw [collectHints, allAnnotations, mapM_flatMap, hown, Functor.map_map]
  rfl

/-- The table of the hints is that of the annotations, entry by entry. -/
theorem forall₂_of_collectHints (h : w.collectHints evaluate c = .ok table) :
    List.Forall₂ (SameKey fun a h => evaluate a.1 a.2 = .ok h) (w.annotationTable c) table := by
  rw [collectHints_eq_mapM] at h
  cases hall : (w.allAnnotations c).mapM (namedHint evaluate) with
  | error f =>
    rw [hall] at h
    cases h
  | ok entries =>
    rw [hall] at h
    cases h
    apply forall₂_putAll
    exact (mapM_eq_ok_iff.1 hall).imp fun _ _ hentry => namedHint_eq_ok_iff.1 hentry

/-- There are hints if every annotation can be evaluated. -/
theorem exists_collectHints_iff :
    (∃ table, w.collectHints evaluate c = .ok table) ↔ w.Evaluates evaluate c := by
  have hentries : (∃ entries, (w.allAnnotations c).mapM (namedHint evaluate) = .ok entries) ↔
      w.Evaluates evaluate c := by
    simp only [mapM_eq_ok_iff, exists_forall₂_iff, namedHint_eq_ok_iff, Evaluates]
    apply forall₂_congr
    intro a _
    constructor
    · rintro ⟨entry, _, h⟩
      exact ⟨entry.2, h⟩
    · rintro ⟨h, hvalue⟩
      exact ⟨(a.1, h), rfl, hvalue⟩
  rw [← hentries, collectHints_eq_mapM]
  cases (w.allAnnotations c).mapM (namedHint evaluate) with
  | error f => simp [Functor.map, Except.map]
  | ok entries => simp [Functor.map, Except.map]

theorem nodup_annotationTable (w : World) (c : ClassRef) :
    ((w.annotationTable c).map Prod.fst).Nodup :=
  Keyed.nodup_keys_putAll List.nodup_nil

end Tables

/-- How the hint under a name follows from the annotation that counts for the name. -/
structure FollowsAnnotation (w : World) (c : ClassRef) (a : String × ClassRef × Hint)
    (entry : String × Hint) : Prop where
  name_eq : entry.1 = a.1
  together : w.Evaluates w.jointHint c → w.jointHint a.2.1 a.2.2 = .ok entry.2
  alone : ¬ w.Evaluates w.jointHint c → w.separateHint a.2.1 a.2.2 = .ok entry.2
  shared : ∀ meanings h, w.SharesMeanings a.2.1 meanings →
    Hint.ofAnnotation w meanings a.2.2 = .ok h → entry.2 = h

theorem exists_hints_iff : (∃ table, w.hints c = .ok table) ↔
    w.Evaluates w.jointHint c ∨ w.Evaluates w.separateHint c := by
  rw [← exists_collectHints_iff, ← exists_collectHints_iff, hints]
  cases w.collectHints w.jointHint c with
  | ok table => simp
  | error f => simp

/-- The hints of a class are those of its annotations, in order. -/
theorem followsAnnotation_of_hints (h : w.hints c = .ok table) :
    List.Forall₂ (w.FollowsAnnotation c) (w.annotationTable c) table := by
  rw [hints] at h
  cases htogether : w.collectHints w.jointHint c with
  | ok joint =>
    rw [htogether] at h
    cases h
    have hevaluates : w.Evaluates w.jointHint c := exists_collectHints_iff.1 ⟨table, htogether⟩
    apply (forall₂_of_collectHints htogether).imp
    rintro a entry ⟨hname, hhint⟩
    refine ⟨hname.symm, fun _ => hhint, fun hnot => (hnot hevaluates).elim, ?_⟩
    intro meanings h hshared hvalue
    have hjoint := jointHint_of_sharesMeanings hshared hvalue
    rw [hhint] at hjoint
    cases hjoint
    rfl
  | error f =>
    rw [htogether] at h
    have hnot : ¬ w.Evaluates w.jointHint c := by
      rw [← exists_collectHints_iff, htogether]
      rintro ⟨_, hjoint⟩
      cases hjoint
    apply (forall₂_of_collectHints h).imp
    rintro a entry ⟨hname, hhint⟩
    refine ⟨hname.symm, fun hall => (hnot hall).elim, fun _ => hhint, ?_⟩
    intro meanings h hshared hvalue
    have hseparate := separateHint_of_sharesMeanings hshared hvalue
    rw [hhint] at hseparate
    cases hseparate
    rfl

/-- What a class declares under a name that has a hint is that hint. -/
theorem mem_hints_of_declared {broken : List ClassRef} {d : Declared} {name : String} {h : Hint}
    (hvalidated : w.isValidated c = false) (hdeclared : w.declared broken c = .ok d)
    (hhints : w.hints c = .ok table) (hname : name ∈ table.map Prod.fst)
    (hmem : (name, h) ∈ d.hints) : (name, h) ∈ table := by
  rw [declared, if_neg (Bool.eq_false_iff.1 hvalidated), hhints] at hdeclared
  cases hfields : w.recordFields? c with
  | some fields =>
    rw [hfields] at hdeclared
    cases hdeclared
    obtain ⟨f, _, hf⟩ := List.mem_map.1 hmem
    cases hf
    cases hlookup : table.lookup f.name with
    | some value =>
      obtain ⟨before, behind, htable, -⟩ := List.lookup_eq_some_iff.1 hlookup
      rw [htable]
      exact List.mem_append_right _ List.mem_cons_self
    | none =>
      obtain ⟨entry, hentry, heq⟩ := List.mem_map.1 hname
      have hne := List.lookup_eq_none_iff.1 hlookup entry hentry
      simp [heq] at hne
  | none =>
    cases hmapping : w.mapping? c with
    | some m =>
      rw [hfields, hmapping] at hdeclared
      by_cases hknown : w.knowsRelations broken m = true
      · simp only [if_pos hknown] at hdeclared
        cases hdeclared
        exact List.mem_of_mem_filter hmem
      · simp only [if_neg hknown] at hdeclared
        cases hdeclared
        exact List.mem_of_mem_filter hmem
    | none =>
      rw [hfields, hmapping] at hdeclared
      cases hdeclared
      exact hmem

theorem Declared.name_of_property? {d : Declared} {name : String} {h : Hint} {p : ClassProperty}
    (hp : d.property? name h = some p) : p.name = name := by
  simp only [property?] at hp
  split at hp
  · cases hp
  · cases hp
    rfl

/-- A property is that of the hint under its name. -/
theorem property_of_hint {broken : List ClassRef} {d : Declared}
    {properties : List ClassProperty} {p : ClassProperty}
    (hdeclared : w.declared broken c = .ok d)
    (hproperties : w.propertiesOf broken c = .ok properties) (hp : p ∈ properties) :
    ∃ h, (p.name, h) ∈ d.hints ∧ d.property? p.name h = some p := by
  rw [propertiesOf, hdeclared] at hproperties
  cases hproperties
  obtain ⟨⟨name, h⟩, hmem, hproperty⟩ := List.mem_filterMap.1 hp
  rw [Declared.name_of_property? hproperty]
  exact ⟨h, hmem, hproperty⟩

/-- The hint of a name and the property of that name only depend on the annotation that counts for
the name, if it only needs meanings that both ways of evaluating share. -/
theorem property_of_sharesMeanings {meanings : String → Option Hint} {a : String × ClassRef × Hint}
    {h : Hint} {broken : List ClassRef} {d : Declared} {properties : List ClassProperty}
    {p : ClassProperty} (ha : a ∈ w.annotationTable c)
    (hshared : w.SharesMeanings a.2.1 meanings)
    (hvalue : Hint.ofAnnotation w meanings a.2.2 = .ok h) (hvalidated : w.isValidated c = false)
    (hdeclared : w.declared broken c = .ok d)
    (hproperties : w.propertiesOf broken c = .ok properties) (hp : p ∈ properties)
    (hname : p.name = a.1) : d.property? a.1 h = some p := by
  obtain ⟨h', hmem, hproperty⟩ := property_of_hint hdeclared hproperties hp
  obtain ⟨table, htable⟩ : ∃ table, w.hints c = .ok table := by
    rw [declared, if_neg (Bool.eq_false_iff.1 hvalidated)] at hdeclared
    cases hhints : w.hints c with
    | ok table => exact ⟨table, rfl⟩
    | error f =>
      rw [hhints] at hdeclared
      cases hdeclared
  have hfollows := followsAnnotation_of_hints htable
  obtain ⟨entry, hentry, hentryFollows⟩ := exists_right_of_mem hfollows ha
  have hkey : p.name ∈ table.map Prod.fst := by
    rw [hname, ← hentryFollows.name_eq]
    exact List.mem_map_of_mem hentry
  have hmem' := mem_hints_of_declared hvalidated hdeclared htable hkey hmem
  obtain ⟨a', ha', hfollows'⟩ := exists_left_of_mem hfollows hmem'
  -- No name stands twice in the table, so the hint found is that of the annotation given.
  have hsame : a' = a := by
    apply List.inj_on_of_nodup_map (nodup_annotationTable w c) ha' ha
    rw [← hfollows'.name_eq, ← hname]
  subst hsame
  rw [← hname, ← hfollows'.shared meanings h hshared hvalue]
  exact hproperty

/-- A class has hints if all its annotations can be evaluated together, or each alone up to failures
that are tolerated.  In both cases the names stand in one order and each takes its hint from one
annotation; the hint, and with it the property, is the same in both unless the annotation needs a
name of which the class and its module have different meanings. -/
theorem hints_follow_annotations (w : World) (c : ClassRef) :
    ((∃ table, w.hints c = .ok table) ↔
      w.Evaluates w.jointHint c ∨ w.Evaluates w.separateHint c) ∧
    (∀ table, w.hints c = .ok table →
      List.Forall₂ (w.FollowsAnnotation c) (w.annotationTable c) table) ∧
    ∀ a ∈ w.annotationTable c, ∀ meanings h, w.SharesMeanings a.2.1 meanings →
      Hint.ofAnnotation w meanings a.2.2 = .ok h → w.isValidated c = false →
      ∀ broken d properties, w.declared broken c = .ok d →
        w.propertiesOf broken c = .ok properties →
        ∀ p ∈ properties, p.name = a.1 → d.property? a.1 h = some p := by
  refine ⟨exists_hints_iff, fun table => followsAnnotation_of_hints, ?_⟩
  intro a ha meanings h hshared hvalue hvalidated broken d properties hdeclared hproperties p hp
  exact property_of_sharesMeanings ha hshared hvalue hvalidated hdeclared hproperties hp

/-- A class with a date, whose attribute of the same name is null, and an annotation that cannot be
evaluated. -/
def eventWorld : World :=
  { classes := [{
      moduleName := "calendars"
      qualifiedName := "Event"
      shortName := "Event"
      order := [.defined 0, objectClass]
      storage := objectClass
      metaclass := "builtins.type"
      marker := none
      parameters := []
      isProtocol := false
      abstractMethods := []
      annotations := [("date", .text "date"), ("ghost", .text "Ghost")]
      attributes := [("date", .constant .null)]
      members := []
      recordFields := none
      validatedFields := none
      mapping := none }]
    modules := [{
      name := "calendars"
      source := .library
      directories := none
      names := [("date", .standard "datetime.date"), ("Event", .type (.defined 0))]
      ready := true }]
    registry := [("calendars", 0)] }

/-- The date takes the class of the null value for its hint, though it is a date where all
annotations are evaluated together. -/
theorem hints_of_eventWorld :
    eventWorld.jointHint (.defined 0) (.text "date") = .ok (.standard "datetime.date") ∧
    eventWorld.hints (.defined 0) = .ok [("date", Hint.nullType), ("ghost", .text "Ghost")] ∧
    ¬ eventWorld.Evaluates eventWorld.jointHint (.defined 0) := by
  have hannotations : eventWorld.annotationTable (.defined 0) =
      [("date", .defined 0, .text "date"), ("ghost", .defined 0, .text "Ghost")] := rfl
  have hhints : eventWorld.hints (.defined 0) =
      .ok [("date", Hint.nullType), ("ghost", .text "Ghost")] := rfl
  refine ⟨rfl, hhints, fun htogether => ?_⟩
  have hfollows := (hints_follow_annotations eventWorld (.defined 0)).2.1 _ hhints
  rw [hannotations] at hfollows
  obtain ⟨hdate, -⟩ := List.forall₂_cons.1 hfollows
  have hjoint : (.ok (.standard "datetime.date") : Except Failure Hint) = .ok Hint.nullType :=
    hdate.together htogether
  simp [Hint.nullType, Hint.standard] at hjoint

end TypeExport.World

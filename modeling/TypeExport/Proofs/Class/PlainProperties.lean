import TypeExport.Proofs.Class.Hints

/-!
# Properties of plain classes

The properties of a class that has nothing but annotations are those of the names that the class and
its ancestors annotate, in the order in which the names come first when the remotest ancestor is the
first.  The property of a name is made from the annotation of the name that is nearest to the class,
and from nothing else.
-/

/-!
## Class variables
-/

namespace TypeExport.Hint

/-- A hint that declares a class variable, below notes and other layers.  A text that was not evaluated
declares one if it begins so, blanks apart. -/
inductive IsClassVariable : Hint → Prop
  | form : IsClassVariable (.form "ClassVar")
  | classVariable {inner : Hint} : IsClassVariable (.classVariable inner)
  | text {s : String} {blanks word rest : List Char}
    (hblanks : ∀ c ∈ blanks, Text.blankChar c = true) (hword : word ∈ classVariableWords)
    (hs : s.toList = blanks ++ (word ++ rest)) : IsClassVariable (.text s)
  | annotated {inner : Hint} {notes : List Hint} (h : IsClassVariable inner) :
    IsClassVariable (.annotated inner notes)
  | final {inner : Hint} (h : IsClassVariable inner) : IsClassVariable (.final inner)
  | mapped {inner : Hint} {rest : List Hint} {native : Bool} (h : IsClassVariable inner) :
    IsClassVariable (.applied mappedClass (inner :: rest) native)
  | newType {name : String} {base : Hint} (h : IsClassVariable base) :
    IsClassVariable (.newType name base)

/-- The words in front of a text say whether it declares a class variable. -/
theorem declaresClassVariable_iff {s : String} :
    declaresClassVariable s = true ↔ IsClassVariable (.text s) := by
  have hletter : ∀ word ∈ classVariableWords, word.head?.all Text.blankChar = false := by
    decide
  unfold declaresClassVariable
  rw [List.any_eq_true]
  constructor
  · rintro ⟨word, hword, hprefix⟩
    obtain ⟨rest, hrest⟩ := List.isPrefixOf_iff_prefix.1 hprefix
    have hblanks : ∀ c ∈ s.toList.takeWhile Text.blankChar, Text.blankChar c = true :=
      List.all_eq_true.1 List.all_takeWhile
    have hs : s.toList = s.toList.takeWhile Text.blankChar ++ (word ++ rest) := by
      rw [hrest]
      exact List.takeWhile_append_dropWhile.symm
    exact .text hblanks hword hs
  · intro h
    cases h with
    | @text _ blanks word rest hblanks hword hs =>
      refine ⟨word, hword, List.isPrefixOf_iff_prefix.2 ⟨rest, ?_⟩⟩
      have hhead := hletter word hword
      cases word with
      | nil => cases hhead
      | cons c tail =>
        have hfirst : Text.blankChar c = false := hhead
        unfold Text.trimLeft
        rw [hs, List.dropWhile_append_of_pos hblanks, List.cons_append,
          List.dropWhile_cons_of_neg (Bool.eq_false_iff.1 hfirst)]

mutual

/-- The layers of a hint say whether it declares a class variable. -/
theorem isClassVariable_layers_iff :
    ∀ h : Hint, h.layers.isClassVariable = true ↔ h.IsClassVariable
  | .annotated inner notes => by
    rw [layers]
    refine (isClassVariable_layers_iff inner).trans ⟨.annotated, fun h => ?_⟩
    cases h with
    | annotated h => exact h
  | .final inner => by
    rw [layers]
    refine (isClassVariable_layers_iff inner).trans ⟨.final, fun h => ?_⟩
    cases h with
    | final h => exact h
  | .classVariable inner => by
    rw [layers]
    exact ⟨fun _ => .classVariable, fun _ => rfl⟩
  | .newType name base => by
    rw [layers]
    refine (isClassVariable_layers_iff base).trans ⟨.newType, fun h => ?_⟩
    cases h with
    | newType h => exact h
  | .text s => by
    rw [layers]
    exact declaresClassVariable_iff
  | .applied origin arguments native => by
    rw [layers]
    split
    · rename_i horigin
      rw [horigin, isClassVariable_firstLayers_iff arguments]
      constructor
      · rintro ⟨inner, rest, rfl, h⟩
        exact .mapped h
      · intro h
        cases h with
        | mapped h => exact ⟨_, _, rfl, h⟩
    · rename_i horigin
      constructor
      · intro h
        cases h
      · intro h
        cases h with
        | mapped h => exact absurd rfl horigin
  | .form name => by
    by_cases hname : name = "ClassVar"
    · subst hname
      exact ⟨fun _ => .form, fun _ => rfl⟩
    · have hcore : (layers (.form name)).isClassVariable = false := by
        unfold layers
        split <;> simp_all
      rw [hcore]
      refine ⟨nofun, fun h => ?_⟩
      cases h
      exact absurd rfl hname
  | .type _ => ⟨nofun, nofun⟩
  | .alias _ => ⟨nofun, nofun⟩
  | .union _ _ => ⟨nofun, nofun⟩
  | .formed _ _ => ⟨nofun, nofun⟩
  | .typeVariable _ => ⟨nofun, nofun⟩
  | .forward _ _ => ⟨nofun, nofun⟩
  | .constant _ => ⟨nofun, nofun⟩
  | .ellipsis => ⟨nofun, nofun⟩
  | .module _ => ⟨nofun, nofun⟩
  | .list _ => ⟨nofun, nofun⟩
  | .tuple _ => ⟨nofun, nofun⟩
  | .note _ => ⟨nofun, nofun⟩
  | .valueOf _ => ⟨nofun, nofun⟩
  | .other => ⟨nofun, nofun⟩

/-- The first of some arguments decides. -/
theorem isClassVariable_firstLayers_iff :
    ∀ hs : List Hint, (firstLayers hs).isClassVariable = true ↔
      ∃ inner rest, hs = inner :: rest ∧ inner.IsClassVariable
  | [] => by
    rw [firstLayers]
    simp
  | inner :: rest => by
    rw [firstLayers, isClassVariable_layers_iff inner]
    constructor
    · exact fun h => ⟨inner, rest, rfl, h⟩
    · rintro ⟨_, _, heq, h⟩
      cases heq
      exact h

end

end TypeExport.Hint

/-!
## Names and annotations along the linearisation
-/

namespace TypeExport.World

variable {w : World} {c : ClassRef} {broken : List ClassRef} {properties : List ClassProperty}

/-- The names that a class and its ancestors annotate, in the order in which they come first, the
remotest ancestor first. -/
def annotatedNames (w : World) (c : ClassRef) : List String :=
  ((w.order c).reverse.flatMap fun k => (w.annotations k).map Prod.fst).eraseDups

/-- The annotation of a name that is nearest to a class, with the class that has it. -/
def nearestAnnotation? (w : World) (c : ClassRef) (name : String) : Option (ClassRef × Hint) :=
  (w.order c).findSome? fun k => ((w.annotations k).reverse.lookup name).map (Prod.mk k)

theorem keys_annotationTable (w : World) (c : ClassRef) :
    (w.annotationTable c).map Prod.fst = w.annotatedNames c := by
  unfold annotationTable annotatedNames allAnnotations
  rw [Keyed.keys_putAll, List.map_flatMap]
  simp only [ownAnnotations, List.map_map, Function.comp_def]

/-- The annotation that counts for a name is the nearest one. -/
theorem lookup_annotationTable (w : World) (c : ClassRef) (name : String) :
    (w.annotationTable c).lookup name = w.nearestAnnotation? c name := by
  have hown : ∀ k, (w.ownAnnotations k).reverse.lookup name =
      ((w.annotations k).reverse.lookup name).map (Prod.mk k) := by
    intro k
    unfold ownAnnotations
    rw [← List.map_reverse]
    induction (w.annotations k).reverse with
    | nil => rfl
    | cons entry rest ih =>
      obtain ⟨key, typeHint⟩ := entry
      rw [List.map_cons, List.lookup_cons, List.lookup_cons, ih]
      cases name == key <;> rfl
  unfold annotationTable nearestAnnotation? allAnnotations
  rw [Keyed.lookup_putAll, List.reverse_flatMap, List.reverse_reverse, lookup_flatMap]
  simp only [Function.comp_apply, hown, List.lookup_nil, Option.or_none]

/-- What counts for a name: the value of its nearest annotation, together with all others if they all
have values, and alone otherwise. -/
structure IsHintOf (w : World) (c : ClassRef) (name : String) (k : ClassRef) (typeHint h : Hint) :
    Prop where
  nearest : w.nearestAnnotation? c name = some (k, typeHint)
  together : w.Evaluates w.jointHint c → w.jointHint k typeHint = .ok h
  alone : ¬w.Evaluates w.jointHint c → w.separateHint k typeHint = .ok h

/-- The hints of a class stand under the annotated names, each from the nearest annotation. -/
theorem hints_eq_map {table : List (String × Hint)} (h : w.hints c = .ok table) :
    ∃ hint : String → Hint,
      (∀ name ∈ w.annotatedNames c, ∃ k typeHint, w.IsHintOf c name k typeHint (hint name)) ∧
      table = (w.annotatedNames c).map fun name => (name, hint name) := by
  have hfollows := followsAnnotation_of_hints h
  have hkeys : table.map Prod.fst = w.annotatedNames c := by
    have hsame : List.Forall₂ (· = ·) ((w.annotationTable c).map Prod.fst) (table.map Prod.fst) := by
      rw [List.forall₂_map_left_iff, List.forall₂_map_right_iff]
      exact hfollows.imp fun _ _ hentry => hentry.name_eq.symm
    rw [← keys_annotationTable]
    exact (List.forall₂_eq_eq_eq ▸ hsame :
      (w.annotationTable c).map Prod.fst = table.map Prod.fst).symm
  have hnodup : (table.map Prod.fst).Nodup := by
    rw [hkeys]
    exact nodup_eraseDups _
  refine ⟨fun name => (table.lookup name).getD .any, fun name hname => ?_, ?_⟩
  · rw [← hkeys] at hname
    obtain ⟨⟨key, h⟩, hentry, hkey⟩ := List.mem_map.1 hname
    obtain rfl : key = name := hkey
    obtain ⟨⟨other, k, typeHint⟩, ha, hthis⟩ := exists_left_of_mem hfollows hentry
    obtain rfl : key = other := hthis.name_eq
    have hnearest := Keyed.lookup_of_mem (nodup_annotationTable w c) ha
    rw [lookup_annotationTable] at hnearest
    have hhint : (table.lookup key).getD .any = h := by
      rw [Keyed.lookup_of_mem hnodup hentry]
      rfl
    dsimp only
    rw [hhint]
    exact ⟨k, typeHint, hnearest, hthis.together, hthis.alone⟩
  · rw [← hkeys]
    exact Keyed.eq_map_lookup hnodup .any

/-!
## Properties
-/

/-- A class that has nothing but annotations to say what its properties are. -/
structure IsPlain (w : World) (c : ClassRef) : Prop where
  isValidated : w.isValidated c = false
  recordFields : w.recordFields? c = none
  mapping : w.mapping? c = none
  kind : (w.describe [] c).kind = .record ∨ (w.describe [] c).kind = .interface

/-- Names that give properties do not begin with a low line, and their hints declare no class
variable. -/
def IsShown (name : String) (h : Hint) : Prop :=
  name.toList.head? ≠ some '_' ∧ ¬h.IsClassVariable

instance (h : Hint) : Decidable h.IsClassVariable :=
  decidable_of_iff _ (Hint.isClassVariable_layers_iff h)

instance (name : String) (h : Hint) : Decidable (IsShown name h) :=
  inferInstanceAs (Decidable (_ ∧ _))

/-- The property that a hint gives under a name. -/
def ownProperty (name : String) (h : Hint) : ClassProperty where
  name := name
  shape := h.shape
  navigation := h.layers.notes.any Hint.isReference && !h.layers.isFinal
  ignored := h.layers.notes.any Hint.isIgnore

/-- A class without relations shows the property of a hint that is shown. -/
theorem property?_eq (name : String) (h : Hint) (hints : List (String × Hint)) :
    ({ hints } : Declared).property? name h =
      if IsShown name h then some (ownProperty name h) else none := by
  unfold Declared.property?
  by_cases hshown : IsShown name h
  · have hclass : h.layers.isClassVariable = false := by
      rw [← Bool.not_eq_true, Hint.isClassVariable_layers_iff]
      exact hshown.2
    rw [if_pos hshown]
    simp [hshown.1, hclass, ownProperty]
  · have hhidden : name.toList.head? = some '_' ∨ h.layers.isClassVariable = true := by
      rw [Hint.isClassVariable_layers_iff]
      unfold IsShown at hshown
      tauto
    rw [if_neg hshown]
    rcases hhidden with hprivate | hclass
    · simp [hprivate]
    · simp [hclass]

/-- The properties of a plain class are those of its hints that are shown. -/
theorem typeProperties_eq (hplain : w.IsPlain c) (broken : List ClassRef) :
    w.typeProperties broken (some c) =
      (w.hints c).map fun hints => hints.filterMap fun (name, h) =>
        if IsShown name h then some (ownProperty name h) else none := by
  have hown : w.typeProperties broken (some c) = w.propertiesOf broken c := by
    rw [typeProperties]
    rcases hplain.kind with hkind | hkind
    · rw [hkind]
    · rw [hkind]
  rw [hown]
  unfold propertiesOf declared
  rw [if_neg (by simp [hplain.isValidated]), hplain.recordFields, hplain.mapping]
  cases w.hints c with
  | error f => rfl
  | ok hints =>
    refine congrArg Except.ok (congrArg (List.filterMap · hints) (funext fun entry => ?_))
    exact property?_eq entry.1 entry.2 hints

/-- The properties that are shown are those of the shown names. -/
theorem filterMap_property (hint : String → Hint) (names : List String) :
    ((names.map fun name => (name, hint name)).filterMap fun (name, h) =>
        if IsShown name h then some (ownProperty name h) else none) =
      (names.filter fun name => IsShown name (hint name)).map fun name =>
        ownProperty name (hint name) := by
  induction names with
  | nil => rfl
  | cons name rest ih =>
    rw [List.map_cons, List.filterMap_cons, ih]
    by_cases hshown : IsShown name (hint name)
    · simp only [if_pos hshown]
      rw [List.filter_cons_of_pos (by simpa using hshown), List.map_cons]
    · simp only [if_neg hshown]
      rw [List.filter_cons_of_neg (by simpa using hshown)]

theorem exists_plainProperties_iff (hplain : w.IsPlain c) (broken : List ClassRef) :
    (∃ properties, w.typeProperties broken (some c) = .ok properties) ↔
      w.Evaluates w.jointHint c ∨ w.Evaluates w.separateHint c := by
  rw [typeProperties_eq hplain broken, ← exists_hints_iff]
  cases w.hints c with
  | error f => exact ⟨nofun, nofun⟩
  | ok table => exact ⟨fun _ => ⟨table, rfl⟩, fun _ => ⟨_, rfl⟩⟩

/-- A plain class has properties if all its annotations can be evaluated together, or each alone up
to failures that are tolerated.  In both cases they are those of the annotated names that are shown,
in the order in which the names come first from the remotest ancestor to the class itself; no name
stands twice, none begins with a low line, and each property is made from the nearest annotation of
its name. -/
theorem plainProperties_in_order (hplain : w.IsPlain c) (broken : List ClassRef) :
    ((∃ properties, w.typeProperties broken (some c) = .ok properties) ↔
      w.Evaluates w.jointHint c ∨ w.Evaluates w.separateHint c) ∧
    ∀ properties, w.typeProperties broken (some c) = .ok properties →
      (properties.map (·.name)).Nodup ∧
      (∀ p ∈ properties, p.name.toList.head? ≠ some '_') ∧
      ∃ hint : String → Hint,
        (∀ name ∈ w.annotatedNames c, ∃ k typeHint, w.IsHintOf c name k typeHint (hint name)) ∧
        properties = ((w.annotatedNames c).filter fun name => IsShown name (hint name)).map
          fun name => ownProperty name (hint name) := by
  refine ⟨exists_plainProperties_iff hplain broken, fun properties hproperties => ?_⟩
  rw [typeProperties_eq hplain broken] at hproperties
  obtain ⟨table, htable, rfl⟩ : ∃ table, w.hints c = .ok table ∧
      properties = table.filterMap fun entry =>
        if IsShown entry.1 entry.2 then some (ownProperty entry.1 entry.2) else none := by
    cases hhints : w.hints c with
    | error f =>
      rw [hhints] at hproperties
      cases hproperties
    | ok table =>
      rw [hhints] at hproperties
      cases hproperties
      exact ⟨table, rfl, rfl⟩
  obtain ⟨hint, hnearest, rfl⟩ := hints_eq_map htable
  have heq := filterMap_property hint (w.annotatedNames c)
  refine ⟨?_, ?_, hint, hnearest, heq⟩
  · rw [heq, List.map_map]
    have hnames : (fun p : ClassProperty => p.name) ∘ (fun name => ownProperty name (hint name)) =
        id := rfl
    rw [hnames, List.map_id]
    exact (nodup_eraseDups _).filter _
  · intro p hp
    rw [heq] at hp
    obtain ⟨name, hname, rfl⟩ := List.mem_map.1 hp
    exact (of_decide_eq_true (List.mem_filter.1 hname).2).1

/-- A class with nothing but annotations. -/
def annotatedClass (moduleName name : String) (order : List ClassRef)
    (annotations : List (String × Hint)) : ClassInfo where
  moduleName
  qualifiedName := name
  shortName := name
  order
  storage := objectClass
  metaclass := "builtins.type"
  marker := none
  parameters := []
  isProtocol := false
  abstractMethods := []
  annotations
  attributes := []
  members := []
  recordFields := none
  validatedFields := none
  mapping := none

def ofModule (name : String) (classes : List ClassInfo) : World where
  classes
  modules := [{
    name
    source := .library
    directories := none
    names := classes.mapIdx fun i c => (c.shortName, .type (.defined i))
    ready := true }]
  registry := [(name, 0)]

/-- A book that redeclares names of a record: one that was a class variable there, and one that
becomes a class variable.  One annotation cannot be evaluated. -/
def libraryWorld : World :=
  .ofModule "library" [
    annotatedClass "library" "Record" [.defined 0, objectClass]
      [("kind", .text "ClassVar[str]"), ("label", .type (.standard "builtins.str")),
        ("_cache", .type (.standard "builtins.str")), ("shelf", .type (.standard "builtins.int"))],
    annotatedClass "library" "Book" [.defined 1, .defined 0, objectClass]
      [("author", .text "Author"), ("shelf", .form "ClassVar"),
        ("kind", .type (.standard "builtins.int"))]]

/-- The kind of a record stays at its place when a book gives it another annotation, and the shelf
is gone. -/
theorem properties_of_libraryWorld :
    libraryWorld.IsPlain (.defined 1) ∧
    libraryWorld.annotatedNames (.defined 1) = ["kind", "label", "_cache", "shelf", "author"] ∧
    ∃ properties, libraryWorld.typeProperties [] (some (.defined 1)) = .ok properties ∧
      properties.map (·.name) = ["kind", "label", "author"] ∧
      (properties.map (·.name)).Nodup := by
  have hplain : libraryWorld.IsPlain (.defined 1) := ⟨rfl, rfl, rfl, .inl rfl⟩
  have hnames : (libraryWorld.typeProperties [] (some (.defined 1))).map
      (fun properties => properties.map (·.name)) = .ok ["kind", "label", "author"] := by
    decide +kernel
  refine ⟨hplain, by decide, ?_⟩
  cases hproperties : libraryWorld.typeProperties [] (some (.defined 1)) with
  | error f =>
    rw [hproperties] at hnames
    cases hnames
  | ok properties =>
    rw [hproperties] at hnames
    exact ⟨properties, rfl, Except.ok.inj hnames,
      ((plainProperties_in_order hplain []).2 _ hproperties).1⟩

/-- A ledger with one annotation, a text with a blank in front of the words for class variables. -/
def ledgerWorld : World :=
  .ofModule "ledger" [
    annotatedClass "ledger" "Ledger" [.defined 0, objectClass] [("count", .text " ClassVar[int]")]]

/-- The text is not evaluated and does not begin as one that declares a class variable, but the
property is missing. -/
theorem blankClassVariable_hidden :
    ledgerWorld.IsPlain (.defined 0) ∧
    ledgerWorld.annotatedNames (.defined 0) = ["count"] ∧
    ledgerWorld.hints (.defined 0) = .ok [("count", .text " ClassVar[int]")] ∧
    (∀ word ∈ Hint.classVariableWords, ¬word <+: " ClassVar[int]".toList) ∧
    ledgerWorld.typeProperties [] (some (.defined 0)) = .ok [] := by
  have hplain : ledgerWorld.IsPlain (.defined 0) := ⟨rfl, rfl, rfl, .inl rfl⟩
  have hhints : ledgerWorld.hints (.defined 0) = .ok [("count", .text " ClassVar[int]")] := rfl
  refine ⟨hplain, rfl, hhints, by decide, ?_⟩
  rw [typeProperties_eq hplain, hhints]
  rfl

end TypeExport.World

import TypeExport.Proofs.Renumbering.Body
import TypeExport.Scan.Discovery
import TypeExport.Scan.Universe

/-!
# Descriptions in a renumbered world

The classes of a renumbered world are described alike: they have the same descriptors, and their
properties have the same shapes up to the numbers of classes.
-/

namespace TypeExport

variable {σ : Nat ↪ Nat} {w w' : World}

def Layers.renumber (σ : Nat ↪ Nat) (l : Layers) : Layers :=
  { l with core := l.core.renumber σ, notes := l.notes.map (Hint.renumber σ) }

namespace Hint

theorem renumber_eq_mappedClass_iff {c : ClassRef} : c.renumber σ = mappedClass ↔ c = mappedClass :=
  ClassRef.renumber_eq_standard_iff

/-- The layers of a hint keep up with the numbers. -/
theorem layers_renumber (h : Hint) : (h.renumber σ).layers = h.layers.renumber σ := by
  induction h using parts_induction with
  | applied c hs native ih =>
    rw [renumber, renumberAll_eq_map, layers, layers]
    by_cases hmapped : c = mappedClass
    · rw [if_pos (renumber_eq_mappedClass_iff.2 hmapped), if_pos hmapped]
      cases hs with
      | nil => rfl
      | cons first rest => exact ih first List.mem_cons_self
    · rw [if_neg (renumber_eq_mappedClass_iff.not.2 hmapped), if_neg hmapped]
      simp [Layers.renumber, renumber]
  | annotated h notes ih _ =>
    rw [renumber, renumberAll_eq_map, layers, layers, ih]
    simp [Layers.renumber]
  | classVariable h ih => rw [renumber, layers, layers, ih]; rfl
  | final h ih => rw [renumber, layers, layers, ih]; rfl
  | newType name h ih => rw [renumber, layers, layers, ih]
  | atom h hatom =>
    cases h with
    | form name =>
      show (form name).layers = _
      unfold layers
      split <;> first
        | rfl
        | contradiction
    | _ => first
      | rfl
      | cases hatom
  | _ => simp [renumber, layers, Layers.renumber]

/-- Whether a hint is a mapped one does not depend on numbers. -/
theorem isMapped_renumber (h : Hint) : (h.renumber σ).isMapped = h.isMapped := by
  induction h using parts_induction with
  | applied c hs native ih => exact ClassRef.renumber_beq_standard
  | annotated h notes ih _ =>
    rw [renumber]
    cases h with
    | text s => rfl
    | _ => exact ih
  | atom h hatom =>
    cases h with
    | _ => first
      | rfl
      | cases hatom
  | _ => rfl

theorem isReference_renumber (h : Hint) : (h.renumber σ).isReference = h.isReference := by
  cases h <;> rfl

theorem isIgnore_renumber (h : Hint) : (h.renumber σ).isIgnore = h.isIgnore := by
  cases h <;> rfl

/-- The shape with its classes under other numbers. -/
abbrev renumberShape (σ : Nat ↪ Nat) : ClassShape → ClassShape :=
  Shape.map (Option.map (ClassRef.renumber σ))

theorem containerKind_renumber (c : ClassRef) :
    containerKind (c.renumber σ) = containerKind c := by
  cases c <;> rfl

theorem isEllipsis_renumber (h : Hint) : isEllipsis (h.renumber σ) = isEllipsis h := by
  cases h <;> rfl

theorem shapeOfApplied_renumber (c : ClassRef) (arguments : List (Hint × ClassShape)) :
    shapeOfApplied (c.renumber σ) (arguments.map (Prod.map (renumber σ) (renumberShape σ))) =
      renumberShape σ (shapeOfApplied c arguments) := by
  unfold shapeOfApplied
  rw [containerKind_renumber]
  rcases arguments with _ | ⟨⟨h, first⟩, _ | ⟨⟨k, second⟩, _ | ⟨third, rest⟩⟩⟩ <;>
    cases containerKind c <;> try rfl
  simp only [List.map_cons, List.map_nil, Prod.map_apply, isEllipsis_renumber]
  split <;> rfl

theorem notNull_renumber (members : List (Hint × ClassShape)) :
    (members.map (Prod.map (renumber σ) (renumberShape σ))).filter (fun (h, _) => !h.isNullType) =
      (members.filter fun (h, _) => !h.isNullType).map
        (Prod.map (renumber σ) (renumberShape σ)) :=
  filter_map_of_eq (p := fun (h, _) => !h.isNullType)
    (fun entry => congrArg not (isNullType_renumber entry.1)) members

theorem shapeOfUnion_renumber (members : List (Hint × ClassShape)) :
    shapeOfUnion (members.map (Prod.map (renumber σ) (renumberShape σ))) =
      renumberShape σ (shapeOfUnion members) := by
  unfold shapeOfUnion
  dsimp only
  rw [notNull_renumber, List.length_map, List.length_map]
  split
  · rfl
  · generalize members.filter (fun (h, _) => !h.isNullType) = rest
    rcases rest with _ | ⟨one, _ | ⟨two, rest⟩⟩ <;> rfl

theorem shapeOfClass_renumber (c : ClassRef) :
    shapeOfClass (c.renumber σ) = renumberShape σ (shapeOfClass c) := by
  have happlied : shapeOfApplied (c.renumber σ) [] = renumberShape σ (shapeOfApplied c []) :=
    shapeOfApplied_renumber c []
  unfold shapeOfClass
  rw [containerKind_renumber, happlied]
  cases containerKind c <;> rfl

theorem shapeOfAlias_renumber (a : AliasForm) :
    renumberShape σ (shapeOfAlias a) = shapeOfAlias a := by
  cases a with
  | generic origin parameters => exact (shapeOfApplied_renumber (.standard origin) []).symm
  | _ => rfl

/-- The shape of a hint keeps up with the numbers. -/
theorem shape_renumber (h : Hint) : (h.renumber σ).shape = renumberShape σ h.shape := by
  have hall : ∀ hs : List Hint, (∀ h ∈ hs, (h.renumber σ).shape = renumberShape σ h.shape) →
      (hs.map (renumber σ)).zip (shapes (hs.map (renumber σ))) =
        (hs.zip (shapes hs)).map (Prod.map (renumber σ) (renumberShape σ)) := by
    intro hs
    induction hs with
    | nil => exact fun _ => rfl
    | cons h rest ih =>
      intro hmem
      rw [List.map_cons, shapes, shapes, List.zip_cons_cons, List.zip_cons_cons, List.map_cons,
        ih fun k hk => hmem k (List.mem_cons_of_mem _ hk), hmem h List.mem_cons_self]
      rfl
  induction h using parts_induction with
  | type c => exact shapeOfClass_renumber c
  | union hs native ih =>
    rw [renumber, renumberAll_eq_map, shape, shape, hall hs ih, shapeOfUnion_renumber]
  | applied c hs native ih =>
    rw [renumber, renumberAll_eq_map, shape, shape]
    by_cases hmapped : c = mappedClass
    · rw [if_pos (renumber_eq_mappedClass_iff.2 hmapped), if_pos hmapped]
      cases hs with
      | nil => rfl
      | cons first rest => exact ih first List.mem_cons_self
    · rw [if_neg (renumber_eq_mappedClass_iff.not.2 hmapped), if_neg hmapped, hall hs ih,
        shapeOfApplied_renumber]
  | annotated h notes ih _ => rw [renumber, shape, shape, ih]
  | classVariable h ih => rw [renumber, shape, shape, ih]
  | final h ih => rw [renumber, shape, shape, ih]
  | newType name h ih => rw [renumber, shape, shape, ih]
  | atom h hatom =>
    cases h with
    | form name =>
      show (form name).shape = _
      unfold shape
      split <;> first
        | rfl
        | contradiction
    | «alias» a => exact (shapeOfAlias_renumber a).symm
    | _ => first
      | rfl
      | cases hatom
  | _ => rfl

end Hint

/-- A property with its classes under other numbers. -/
def renumberProperty (σ : Nat ↪ Nat) (p : ClassProperty) : ClassProperty :=
  { p with shape := Hint.renumberShape σ p.shape }

namespace World

theorem jointMeaning_renumber (h : Renumbers σ w w') (c : ClassRef) :
    RenumbersMeanings σ (w.jointMeaning c) (w'.jointMeaning (c.renumber σ)) := by
  intro name
  simp only [jointMeaning, h.moduleName, h.lookup_names, h.lookup_attributes, Option.map_or,
    Expr.builtIn?_renumber]

theorem separateMeaning_renumber (h : Renumbers σ w w') (c : ClassRef) :
    RenumbersMeanings σ (w.separateMeaning c) (w'.separateMeaning (c.renumber σ)) := by
  intro name
  simp only [separateMeaning, h.moduleName, h.lookup_names, h.lookup_attributes, Option.map_or,
    Expr.builtIn?_renumber]

theorem separateHint_renumber (h : Renumbers σ w w') (c : ClassRef) (hint : Hint) :
    w'.separateHint (c.renumber σ) (hint.renumber σ) =
      (w.separateHint c hint).map (Hint.renumber σ) := by
  unfold separateHint
  rw [Hint.ofAnnotation_renumber h (separateMeaning_renumber h c)]
  cases Hint.ofAnnotation w (w.separateMeaning c) hint with
  | ok value => rfl
  | error f =>
    dsimp only [Except.map]
    split <;> rfl

/-- So do the hints of a class, if annotations are evaluated alike. -/
theorem collectHints_renumber (h : Renumbers σ w w')
    {evaluate evaluate' : ClassRef → Hint → Except Failure Hint}
    (heval : ∀ c hint, evaluate' (c.renumber σ) (hint.renumber σ) =
      (evaluate c hint).map (Hint.renumber σ)) (c : ClassRef) :
    w'.collectHints evaluate' (c.renumber σ) =
      (w.collectHints evaluate c).map (renumberValues σ) := by
  have hown : ∀ k : ClassRef, w'.ownHints evaluate' (k.renumber σ) =
      (w.ownHints evaluate k).map (renumberValues σ) := by
    intro k
    unfold ownHints
    rw [h.annotations]
    apply mapM_eq_map
    rintro ⟨name, hint⟩ -
    exact bind_eq_map (heval k hint) fun _ => rfl
  unfold collectHints
  rw [h.order, ← List.map_reverse]
  apply bind_eq_map (mapM_eq_map fun k _ => hown k)
  intro all
  refine congrArg Except.ok ?_
  rw [← List.map_flatten]
  exact Keyed.putAll_map_values (Hint.renumber σ) all.flatten []

theorem hints_renumber (h : Renumbers σ w w') (c : ClassRef) :
    w'.hints (c.renumber σ) = (w.hints c).map (renumberValues σ) := by
  have hjoint : ∀ (c : ClassRef) (hint : Hint), w'.jointHint (c.renumber σ) (hint.renumber σ) =
      (w.jointHint c hint).map (Hint.renumber σ) := fun c hint =>
    Hint.ofAnnotation_renumber h (jointMeaning_renumber h c) hint
  unfold hints
  rw [collectHints_renumber h hjoint, collectHints_renumber h (separateHint_renumber h)]
  cases w.collectHints w.jointHint c <;> rfl

end World

namespace Relations

theorem named_renumber (h : Renumbers σ w w') (mapped : List (ClassRef × Mapping)) (name : String) :
    (mapped.map (Prod.map (ClassRef.renumber σ) (Mapping.renumber σ))).filter
        (fun (c, _) => w'.shortName c == name) =
      (mapped.filter fun (c, _) => w.shortName c == name).map
        (Prod.map (ClassRef.renumber σ) (Mapping.renumber σ)) := by
  rw [List.filter_map]
  simp only [Function.comp_def, Prod.map_fst, h.shortName]

theorem byName?_renumber (h : Renumbers σ w w') (base : ClassRef) (name : String) :
    byName? w' (base.renumber σ) name = (byName? w base name).map (ClassRef.renumber σ) := by
  unfold byName?
  rw [h.mappedOn, named_renumber h]
  generalize (mappedOn w base).filter (fun (c, _) => w.shortName c == name) = found
  rcases found with _ | ⟨one, _ | ⟨two, rest⟩⟩ <;> rfl

theorem meaning_renumber (h : Renumbers σ w w') (base c : ClassRef) :
    RenumbersMeanings σ (meaning w base c) (meaning w' (base.renumber σ) (c.renumber σ)) := by
  intro name
  simp only [meaning, h.moduleName, h.lookup_names, byName?_renumber h, Option.map_or,
    Option.map_map, Expr.builtIn?_renumber]
  rfl

theorem classOf_applied_renumber (c : ClassRef) (arguments : List Hint) (native : Bool) :
    classOf ((Hint.applied c arguments native).renumber σ) =
      (classOf (.applied c arguments native)).map (ClassRef.renumber σ) := by
  rw [Hint.renumber, Hint.renumberAll_eq_map, classOf, classOf, List.getLast?_map]
  cases arguments.getLast? with
  | none => rfl
  | some last => cases last <;> rfl

/-- So does the class at the other end of a hint. -/
theorem classOf_renumber (hint : Hint) :
    classOf (hint.renumber σ) = (classOf hint).map (ClassRef.renumber σ) := by
  induction hint using Hint.parts_induction with
  | union hs native ih =>
    have hrest : (hs.map (Hint.renumber σ)).filter (!·.isNullType) =
        (hs.filter (!·.isNullType)).map (Hint.renumber σ) :=
      filter_map_of_eq (p := fun k => !k.isNullType)
        (fun k => congrArg not (Hint.isNullType_renumber k)) hs
    rw [Hint.renumber, Hint.renumberAll_eq_map, classOf, classOf, hrest]
    generalize hs.filter (!·.isNullType) = rest
    rcases rest with _ | ⟨one, _ | ⟨two, rest⟩⟩
    · rfl
    · cases one with
      | applied c arguments native =>
        have happlied := classOf_applied_renumber (σ := σ) c arguments native
        rw [Hint.renumber] at happlied
        rw [List.map_cons, List.map_nil, Hint.renumber]
        exact happlied
      | _ => rfl
    · cases one <;> rfl
  | applied c arguments native _ => exact classOf_applied_renumber c arguments native
  | annotated h notes ih _ => rw [Hint.renumber, classOf, classOf, ih]
  | atom h hatom =>
    cases h with
    | _ => first
      | rfl
      | cases hatom
  | _ => rfl

theorem targetOf_renumber (h : Renumbers σ w w') (base c : ClassRef) (r : Relation) :
    targetOf w' (base.renumber σ) (c.renumber σ) (r.renumber σ) =
      (targetOf w base c r).map (ClassRef.renumber σ) := by
  have hhint : (r.renumber σ).typeHint = r.typeHint.renumber σ := rfl
  unfold targetOf
  rw [hhint, Hint.resolve_renumber h (meaning_renumber h base c)]
  cases Hint.resolve w (meaning w base c) r.typeHint with
  | error f => rfl
  | ok hint => exact classOf_renumber hint

theorem references_renumber (h : Renumbers σ w w') (base : ClassRef) (fromTable toTable : String) :
    references w' (base.renumber σ) fromTable toTable = references w base fromTable toTable := by
  unfold references
  rw [h.mappedOn, List.filter_map, List.flatMap_map]
  rfl

theorem isJoined_renumber (h : Renumbers σ w w') (base : ClassRef) (a b : String) :
    isJoined w' (base.renumber σ) a b = isJoined w base a b := by
  unfold isJoined
  simp only [references_renumber h]

/-- Whether a relation leads back does not depend on numbers. -/
theorem leadsBack_renumber (h : Renumbers σ w w') (base c target : ClassRef) (m : Mapping)
    (name : String) :
    leadsBack w' (base.renumber σ) (c.renumber σ) (target.renumber σ) (m.renumber σ) name =
      leadsBack w base c target m name := by
  have hfind : (m.renumber σ).relations.find? (·.name == name) =
      (m.relations.find? (·.name == name)).map (Relation.renumber σ) :=
    List.find?_map
  unfold leadsBack
  rw [hfind]
  cases m.relations.find? (·.name == name) with
  | none => rfl
  | some r =>
    dsimp only [Option.map_some]
    rw [targetOf_renumber h]
    cases targetOf w base target r with
    | none => rfl
    | some back => exact congrArg₂ or (h.derives back c) (h.derives c back)

/-- Whether a relation can be followed does not depend on numbers. -/
theorem isSound_renumber (h : Renumbers σ w w') (base c : ClassRef) (m : Mapping) (r : Relation) :
    isSound w' (base.renumber σ) (c.renumber σ) (m.renumber σ) (r.renumber σ) =
      isSound w base c m r := by
  unfold isSound
  rw [targetOf_renumber h]
  cases targetOf w base c r with
  | none => rfl
  | some target =>
    dsimp only [Option.map_some]
    rw [h.mapping?]
    cases w.mapping? target with
    | none => rfl
    | some m' =>
      have hbase : ((m'.renumber σ).base == base.renumber σ) = (m'.base == base) :=
        ClassRef.renumber_beq_renumber
      have hjoined : isJoined w' (base.renumber σ) (m.renumber σ).table (m'.renumber σ).table =
          isJoined w base m.table m'.table := isJoined_renumber h base m.table m'.table
      dsimp only [Option.map_some]
      rw [hbase, hjoined]
      cases hcounter : r.counterpart with
      | none => rw [show (r.renumber σ).counterpart = none from hcounter]
      | some name =>
        rw [show (r.renumber σ).counterpart = some name from hcounter]
        dsimp only
        rw [leadsBack_renumber h]
        rfl

theorem areSound_renumber (h : Renumbers σ w w') (base : ClassRef) :
    areSound w' (base.renumber σ) = areSound w base := by
  unfold areSound
  rw [h.mappedOn, List.all_map]
  refine congrArg (List.all (mappedOn w base)) (funext fun entry => ?_)
  show (entry.2.renumber σ).relations.all _ = entry.2.relations.all _
  show (entry.2.relations.map (Relation.renumber σ)).all _ = _
  rw [List.all_map]
  exact congrArg (List.all entry.2.relations)
    (funext fun r => isSound_renumber h base entry.1 entry.2 r)

end Relations

namespace World

theorem marker?_renumber (h : Renumbers σ w w') (c : ClassRef) :
    w'.marker? (c.renumber σ) = w.marker? c := by
  unfold marker?
  rw [h.info]
  cases w.info? c <;> rfl

theorem members_renumber (h : Renumbers σ w w') (c : ClassRef) :
    w'.members (c.renumber σ) = w.members c := by
  unfold members
  rw [h.map_info fun _ => rfl]

theorem isAbstract_renumber (h : Renumbers σ w w') (c : ClassRef) :
    w'.isAbstract (c.renumber σ) = w.isAbstract c := by
  unfold isAbstract
  rw [h.abstractMethods]

theorem isScanned_renumber (h : Renumbers σ w w') (names : List String) (c : ClassRef) :
    w'.isScanned names (c.renumber σ) = w.isScanned names c := by
  unfold isScanned
  rw [h.moduleName, isAbstract_renumber h, h.fullName, h.shortName]

theorem primitiveBase?_renumber (h : Renumbers σ w w') (c : ClassRef) :
    w'.primitiveBase? (c.renumber σ) = w.primitiveBase? c := by
  have hothers : ((w.order c).map (ClassRef.renumber σ)).filter (· != objectClass) =
      ((w.order c).filter (· != objectClass)).map (ClassRef.renumber σ) :=
    filter_map_of_eq (p := (· != objectClass))
      (fun _ => congrArg not ClassRef.renumber_beq_standard) (w.order c)
  unfold primitiveBase?
  rw [h.order, hothers, List.map_map]
  exact congrArg (List.find? Primitive.isPrimitive)
    (List.map_congr_left fun k _ => h.fullName k)

theorem describe_renumber (h : Renumbers σ w w') (names : List String) (c : ClassRef) :
    w'.describe names (c.renumber σ) = w.describe names c := by
  unfold describe
  rw [h.fullName, h.shortName, marker?_renumber h, isScanned_renumber h, h.isEnumeration,
    members_renumber h, primitiveBase?_renumber h, h.isProtocol]

theorem describeType_renumber (h : Renumbers σ w w') (names : List String) (t : Option ClassRef) :
    w'.describeType names (t.map (ClassRef.renumber σ)) = w.describeType names t := by
  cases t with
  | none => rfl
  | some c => exact describe_renumber h names c

/-- What a class declares, with the classes under other numbers. -/
def Declared.renumber (σ : Nat ↪ Nat) (d : Declared) : Declared :=
  { d with
    hints := renumberValues σ d.hints
    unknownBase := d.unknownBase.map (ClassRef.renumber σ) }

theorem knowsRelations_renumber (h : Renumbers σ w w') (m : Mapping) :
    w'.knowsRelations [] (m.renumber σ) = w.knowsRelations [] m :=
  congrArg (true && ·) (Relations.areSound_renumber h m.base)

theorem mapped_renumberValues (hints : List (String × Hint)) :
    (renumberValues σ hints).filter (fun (_, hint) => hint.isMapped) =
      renumberValues σ (hints.filter fun (_, hint) => hint.isMapped) :=
  filter_map_of_eq (p := fun (_, hint) => hint.isMapped)
    (fun entry => Hint.isMapped_renumber entry.2) hints

/-- What a class declares keeps up with the numbers. -/
theorem declared_renumber (h : Renumbers σ w w') (c : ClassRef) :
    w'.declared [] (c.renumber σ) = (w.declared [] c).map (Declared.renumber σ) := by
  unfold declared
  rw [h.isValidated]
  dsimp only
  split
  · rw [h.validatedFields]
    have hhints : ((w.validatedFields c).map (ValidatedField.renumber σ)).map
          (fun f => (f.name, if f.notes.isEmpty then f.hint else .annotated f.hint f.notes)) =
        renumberValues σ ((w.validatedFields c).map fun f =>
          (f.name, if f.notes.isEmpty then f.hint else .annotated f.hint f.notes)) := by
      rw [renumberValues, List.map_map, List.map_map]
      refine List.map_congr_left fun f _ => Prod.ext rfl ?_
      simp only [Function.comp_apply, ValidatedField.renumber, Prod.map_snd, List.isEmpty_map]
      split
      · rfl
      · rw [Hint.renumber, Hint.renumberAll_eq_map]
    have hignored : (((w.validatedFields c).map (ValidatedField.renumber σ)).filter
          (·.excluded)).map (·.name) =
        ((w.validatedFields c).filter (·.excluded)).map (·.name) := by
      rw [List.filter_map, List.map_map]
      rfl
    exact congrArg₂ (fun hints ignored => Except.ok ({ hints, ignored } : Declared))
      hhints hignored
  · apply bind_eq_map (hints_renumber h c)
    intro hints
    rw [h.recordFields?, h.mapping?]
    cases w.recordFields? c with
    | some fields =>
      have hhints : (fields.filter (·.role == .plain)).map
            (fun f => (f.name, ((renumberValues σ hints).lookup f.name).getD .any)) =
          renumberValues σ ((fields.filter (·.role == .plain)).map fun f =>
            (f.name, (hints.lookup f.name).getD .any)) := by
        rw [renumberValues, renumberValues, List.map_map]
        refine List.map_congr_left fun f _ => Prod.ext rfl ?_
        rw [lookup_map_values]
        simp only [Function.comp_apply, Prod.map_snd]
        cases hints.lookup f.name <;> rfl
      exact congrArg (fun shown => Except.ok ({
        hints := shown
        ignored := ((fields.filter (·.role == .plain)).filter (·.ignored)).map (·.name) }
          : Declared)) hhints
    | none =>
      cases w.mapping? c with
      | none => rfl
      | some m =>
        dsimp only [Option.map_some]
        have hnames : (m.renumber σ).relations.map (·.name) = m.relations.map (·.name) := by
          show (m.relations.map _).map _ = _
          rw [List.map_map]
          rfl
        rw [knowsRelations_renumber h, mapped_renumberValues, hnames]
        split <;> rfl

/-- So does a property of a class, if it is shown. -/
theorem Declared.property?_renumber (d : Declared) (name : String) (hint : Hint) :
    (d.renumber σ).property? name (hint.renumber σ) =
      (d.property? name hint).map (renumberProperty σ) := by
  have href : (hint.layers.renumber σ).notes.any Hint.isReference =
      hint.layers.notes.any Hint.isReference := by
    simp only [Layers.renumber, List.any_map, Function.comp_def, Hint.isReference_renumber]
  have hignore : (hint.layers.renumber σ).notes.any Hint.isIgnore =
      hint.layers.notes.any Hint.isIgnore := by
    simp only [Layers.renumber, List.any_map, Function.comp_def, Hint.isIgnore_renumber]
  unfold property?
  dsimp only
  rw [Hint.layers_renumber, Hint.shape_renumber, href, hignore]
  rw [apply_ite (Option.map (renumberProperty σ))]
  rfl

theorem propertiesOf_renumber (h : Renumbers σ w w') (c : ClassRef) :
    w'.propertiesOf [] (c.renumber σ) =
      (w.propertiesOf [] c).map (List.map (renumberProperty σ)) := by
  apply bind_eq_map (declared_renumber h c)
  intro d
  refine congrArg Except.ok ?_
  show (renumberValues σ d.hints).filterMap _ = _
  rw [renumberValues, List.filterMap_map, List.map_filterMap]
  exact congrArg (List.filterMap · d.hints)
    (funext fun entry => Declared.property?_renumber d entry.1 entry.2)

theorem typeProperties_renumber (h : Renumbers σ w w') (t : Option ClassRef) :
    w'.typeProperties [] (t.map (ClassRef.renumber σ)) =
      (w.typeProperties [] t).map (List.map (renumberProperty σ)) := by
  cases t with
  | none => rfl
  | some c =>
    rw [Option.map_some, typeProperties, typeProperties, describe_renumber h,
      propertiesOf_renumber h]
    cases (w.describe [] c).kind <;> rfl

end World

end TypeExport

import TypeExport.Proofs.Renumbering.Body

/-!
# Renumbered validated and mapped classes

The fields of a validated record, and the table and the relations of a mapped class, are the same in a
renumbered world, up to the numbers of classes.
-/

namespace TypeExport

/-- Two searches that agree item by item agree on a list. -/
theorem filterMapM_eq_map {ε α α' β β' : Type} {e : α → α'} {k : β → β'} {l : List α}
    {g : α → Except ε (Option β)} {g' : α' → Except ε (Option β')}
    (hg : ∀ a ∈ l, g' (e a) = (g a).map (Option.map k)) :
    (l.map e).filterMapM g' = (l.filterMapM g).map (List.map k) := by
  induction l with
  | nil => rfl
  | cons a rest ih =>
    rw [List.map_cons, List.filterMapM_cons, List.filterMapM_cons]
    apply bind_eq_map (hg a List.mem_cons_self)
    intro b
    have hrest := ih fun a ha => hg a (List.mem_cons_of_mem _ ha)
    cases b with
    | none => exact hrest
    | some b => exact bind_eq_map hrest fun _ => rfl

namespace Validated

variable {σ : Nat ↪ Nat} {w w' : World}

theorem meaning_renumber (h : Renumbers σ w w') (c : ClassRef) :
    RenumbersMeanings σ (meaning w c) (meaning w' (c.renumber σ)) := by
  intro name
  unfold meaning
  rw [h.shortName]
  split
  · rfl
  · simp only [h.lookup_attributes, h.moduleName, h.lookup_names, Option.map_or,
      Expr.builtIn?_renumber]

theorem hintOf_renumber (h : Renumbers σ w w') (c : ClassRef) (hint : Hint) :
    hintOf w' (c.renumber σ) (hint.renumber σ) =
      (hintOf w c hint).map (Prod.map (Hint.renumber σ) id) := by
  unfold hintOf
  rw [Hint.ofAnnotation_renumber h (meaning_renumber h c)]
  cases Hint.ofAnnotation w (meaning w c) hint with
  | ok v => rfl
  | error f =>
    cases f with
    | undefinedName name => exact bind_eq_map (Hint.asType_renumber true hint) fun _ => rfl
    | _ => rfl

/-- The type and the notes of a field keep up with the numbers. -/
theorem separate_renumber (h : Hint) :
    separate (h.renumber σ) =
      Prod.map (Hint.renumber σ) (List.map (Hint.renumber σ)) (separate h) := by
  induction h using Hint.parts_induction with
  | annotated inner notes ih _ =>
    simp only [Hint.renumber, Hint.renumberAll_eq_map, separate, ih, Prod.map, List.map_append]
  | final inner ih => exact ih
  | atom h hatom =>
    cases h with
    | form name =>
      by_cases hname : name = "Final"
      · subst hname
        rfl
      · have hother : separate (.form name) = (.form name, []) := by
          unfold separate
          split <;> simp_all
        show separate (.form name) = _
        rw [hother]
        rfl
    | _ => first
      | rfl
      | cases hatom
  | _ => simp [separate, Hint.renumber]

theorem isFinal_renumber (h : Hint) : isFinal (h.renumber σ) = isFinal h := by
  induction h using Hint.parts_induction with
  | annotated inner notes ih _ => exact ih
  | atom h hatom =>
    cases h <;> first
      | rfl
      | cases hatom
  | _ => rfl

theorem isClassVariable_renumber (h : Hint) : isClassVariable (h.renumber σ) = isClassVariable h := by
  cases h <;> rfl

theorem inherited_renumber (h : Renumbers σ w w') (above : List ClassRef) :
    inherited w' (above.map (ClassRef.renumber σ)) =
      (inherited w above).map (Prod.map id (ValidatedField.renumber σ)) := by
  unfold inherited
  rw [← List.map_reverse, List.flatMap_map, ← Keyed.putAll_map_values, List.map_flatMap]
  simp only [h.validatedFields, List.map_map]
  rfl

theorem annotations_renumber (h : Renumbers σ w w') (order : List ClassRef) :
    annotations w' (order.map (ClassRef.renumber σ)) =
      (annotations w order).map
        (Prod.map id (Prod.map (ClassRef.renumber σ) (Hint.renumber σ))) := by
  unfold annotations
  rw [← List.map_reverse, List.flatMap_map, ← Keyed.putAll_map_values, List.map_flatMap]
  simp only [h.annotations, renumberValues, List.map_map]
  rfl

theorem any_isExcluded_renumber (value : Option BodyValue) :
    (value.map (BodyValue.renumber σ)).any isExcluded = value.any isExcluded := by
  cases value with
  | none => rfl
  | some v => cases v <;> rfl

/-- So does the field of an annotation. -/
theorem fieldOf_renumber (h : Renumbers σ w w') (c : ClassRef) (above : List ClassRef)
    (body : ClassBody) (name : String) (owner : ClassRef) (hint : Hint) :
    fieldOf w' (c.renumber σ) (above.map (ClassRef.renumber σ)) (body.renumber σ) name
        (owner.renumber σ) (hint.renumber σ) =
      (fieldOf w c above body name owner hint).map
        (Option.map (Prod.map (ValidatedField.renumber σ) id)) := by
  unfold fieldOf
  split
  · rfl
  apply bind_eq_map (hintOf_renumber h owner hint)
  rintro ⟨hint, complete⟩
  simp only [Prod.map_apply, isClassVariable_renumber, ClassBody.lookup_names_renumber,
    Option.isSome_map, isFinal_renumber, inherited_renumber h, lookup_map_values,
    ClassRef.renumber_beq_renumber, separate_renumber, any_isExcluded_renumber]
  split
  · rfl
  split
  · rfl
  cases (inherited w above).lookup name with
  | none => rfl
  | some f => cases owner == c || (body.names.lookup name).isSome <;> rfl

/-- Whether a class can be checked against does not depend on its number. -/
theorem isCheckedClass_renumber (h : Renumbers σ w w') (c : ClassRef) :
    isCheckedClass w' (c.renumber σ) = isCheckedClass w c := by
  cases c with
  | standard name => rfl
  | defined i =>
    have henumeration := h.isEnumeration (.defined i)
    have hvalidated := h.isValidated (.defined i)
    have hrecord := h.recordFields? (.defined i)
    have hmetaclass := h.metaclass (.defined i)
    have hfields := h.lookup_attributes (.defined i) "_fields"
    unfold isCheckedClass
    simp only [ClassRef.renumber] at *
    rw [henumeration, hvalidated, hrecord, hmetaclass, hfields, Option.isSome_map]

/-- Whether a hint can be checked against does not depend on numbers. -/
theorem isChecked_renumber (h : Renumbers σ w w') (hint : Hint) :
    isChecked w' (hint.renumber σ) = isChecked w hint := by
  have hall : ∀ hs : List Hint, (∀ h ∈ hs, isChecked w' (h.renumber σ) = isChecked w h) →
      areChecked w' (hs.map (Hint.renumber σ)) = areChecked w hs := by
    intro hs
    induction hs with
    | nil => exact fun _ => rfl
    | cons k rest ih =>
      intro hmem
      rw [List.map_cons, areChecked, areChecked, hmem k List.mem_cons_self,
        ih fun k hk => hmem k (List.mem_cons_of_mem _ hk)]
  induction hint using Hint.parts_induction with
  | type c => exact isCheckedClass_renumber h c
  | union hs native ih => simp [Hint.renumber, isChecked, hall hs ih]
  | applied c hs native ih =>
    simp [Hint.renumber, isChecked, hall hs ih, isCheckedClass_renumber h]
  | annotated inner notes ih _ => exact ih
  | final inner ih => exact ih
  | newType name base ih => exact ih
  | atom hint hatom =>
    cases hint <;> first
      | rfl
      | cases hatom
  | _ => rfl

/-- Whether a name may do without an annotation does not depend on numbers. -/
theorem mayBeBare_renumber (body : ClassBody) (methods : List String) (name : String)
    (v : BodyValue) :
    mayBeBare (body.renumber σ) methods name (v.renumber σ) = mayBeBare body methods name v := by
  unfold mayBeBare
  rw [ClassBody.lookup_annotations_renumber, Option.isSome_map]
  congr 1
  cases v with
  | hint hint =>
    cases hint with
    | type c => cases c <;> rfl
    | _ => rfl
  | _ => rfl

theorem anyBare_renumber (body : ClassBody) (methods : List String) :
    (body.renumber σ).names.any (fun (name, v) => !mayBeBare (body.renumber σ) methods name v) =
      body.names.any fun (name, v) => !mayBeBare body methods name v := by
  show (body.names.map _).any _ = _
  rw [List.any_map]
  exact congrArg (List.any body.names) (funext fun entry =>
    congrArg not (mayBeBare_renumber body methods entry.1 entry.2))

theorem allChecked_renumber (h : Renumbers σ w w') (fields : List (ValidatedField × Bool)) :
    (fields.map (Prod.map (ValidatedField.renumber σ) id)).all
      (fun (f, _) => isChecked w' f.hint) = fields.all fun (f, _) => isChecked w f.hint := by
  rw [List.all_map]
  exact congrArg (List.all fields) (funext fun f => isChecked_renumber h f.1.hint)

/-- The fields of a validated record keep up with the numbers. -/
theorem fieldsOf_renumber (h : Renumbers σ w w') (c : ClassRef) (above : List ClassRef)
    (body : ClassBody) (methods : List String) :
    fieldsOf w' (c.renumber σ) (above.map (ClassRef.renumber σ)) (body.renumber σ) methods =
      (fieldsOf w c above body methods).map (List.map (ValidatedField.renumber σ)) := by
  unfold fieldsOf
  rw [anyBare_renumber, ← List.map_cons, annotations_renumber h]
  split
  · rfl
  apply bind_eq_map (filterMapM_eq_map (k := Prod.map (ValidatedField.renumber σ) id)
    fun entry _ => fieldOf_renumber h c above body entry.1 entry.2.1 entry.2.2)
  intro fields
  have hcomplete : (fields.map (Prod.map (ValidatedField.renumber σ) id)).all (·.2) =
      fields.all (·.2) := by
    rw [List.all_map]
    rfl
  rw [hcomplete, allChecked_renumber h, List.map_map]
  split
  · rfl
  · refine congrArg Except.ok ?_
    rw [List.map_map]
    rfl

theorem attributesOf_renumber (fields : List ValidatedField) (names : List (String × BodyValue)) :
    attributesOf (fields.map (ValidatedField.renumber σ))
        (names.map (Prod.map id (BodyValue.renumber σ))) =
      renumberValues σ (attributesOf fields names) := by
  unfold attributesOf renumberValues
  rw [List.filterMap_map, List.map_filterMap]
  refine List.filterMap_congr fun entry _ => ?_
  obtain ⟨name, v⟩ := entry
  have hnames : (fields.map (ValidatedField.renumber σ)).any (·.name == name) =
      fields.any (·.name == name) := by
    rw [List.any_map]
    rfl
  simp only [Function.comp_def, Prod.map_apply, id_eq, hnames, BodyValue.meaning_renumber]
  split <;> rfl

end Validated

end TypeExport

/-!
## Mapped classes
-/

namespace TypeExport.Mapped

variable {σ : Nat ↪ Nat} {w w' : World}

def Reading.renumber (σ : Nat ↪ Nat) : Reading → Reading
  | .mapped inner => .mapped (inner.renumber σ)
  | r => r

def Attribute.renumber (σ : Nat ↪ Nat) : Attribute → Attribute
  | .relation r => .relation (r.renumber σ)
  | a => a

theorem baseOf_renumber (h : Renumbers σ w w') (above : List ClassRef) :
    baseOf w' (above.map (ClassRef.renumber σ)) = (baseOf w above).map (ClassRef.renumber σ) := by
  have hbase : ∀ k : ClassRef, (k.renumber σ != declarativeBase) = (k != declarativeBase) :=
    fun k => congrArg not ClassRef.renumber_beq_standard
  have hderives : ∀ k : ClassRef, w'.derives (k.renumber σ) declarativeBase =
      w.derives k declarativeBase := fun k => h.derives k declarativeBase
  unfold baseOf
  rw [List.find?_map]
  simp only [Function.comp_def, hbase, hderives, h.mapping?, Option.isNone_map]

theorem parentOf_renumber (h : Renumbers σ w w') (above : List ClassRef) :
    parentOf w' (above.map (ClassRef.renumber σ)) =
      (parentOf w above).map (Mapping.renumber σ) := by
  unfold parentOf
  rw [List.findSome?_map, List.map_findSome?]
  exact congrArg (List.findSome? · above) (funext h.mapping?)

theorem innerOf_renumber (h : Renumbers σ w w') {lookup lookup' : String → Option Hint}
    (hlookup : RenumbersMeanings σ lookup lookup') (e : Expr) :
    innerOf w' lookup' e = (innerOf w lookup e).renumber σ := by
  unfold innerOf
  rw [Expr.evaluate_renumber h hlookup]
  cases e.evaluate w lookup with
  | error f => rfl
  | ok v => cases v <;> rfl

/-- What a hint says about a mapped attribute keeps up with the numbers. -/
theorem readHint_renumber (hint : Hint) :
    readHint (hint.renumber σ) = (readHint hint).renumber σ := by
  cases hint with
  | applied c arguments native =>
    have hc : c.renumber σ = Hint.mappedClass ↔ c = Hint.mappedClass :=
      ClassRef.renumber_eq_standard_iff
    simp only [Hint.renumber, Hint.renumberAll_eq_map, readHint, hc]
    split
    · rcases arguments with _ | ⟨first, _ | ⟨second, rest⟩⟩ <;> rfl
    · rfl
  | form name =>
    show readHint (.form name) = _
    unfold readHint
    dsimp only
    split <;> rfl
  | _ => rfl

theorem read_of_ne {lookup : String → Option Hint} {hint : Hint} (h : ∀ s, hint ≠ .text s) :
    read w lookup hint = readHint hint := by
  cases hint with
  | text s => exact absurd rfl (h s)
  | _ => rfl

/-- A text that spells no type arguments is read as a whole. -/
theorem read_text_of_ne {lookup : String → Option Hint} {s : String} {e : Expr}
    (hread : Expr.read? s = some e) (hne : ∀ owner index, e ≠ .subscript owner index) :
    read w lookup (.text s) =
      match e.evaluate w lookup with
      | .ok v => readHint v
      | .error _ => .unmapped := by
  unfold read
  dsimp only
  rw [hread]
  cases e with
  | subscript owner index => exact absurd rfl (hne owner index)
  | _ => rfl

/-- So does what an annotation says, whose names mean the same. -/
theorem read_renumber (h : Renumbers σ w w') {lookup lookup' : String → Option Hint}
    (hlookup : RenumbersMeanings σ lookup lookup') (hint : Hint) :
    read w' lookup' (hint.renumber σ) = (read w lookup hint).renumber σ := by
  by_cases htext : ∀ s, hint ≠ .text s
  · have htext' : ∀ s, hint.renumber σ ≠ .text s := fun s heq =>
      htext s (Expr.renumber_eq_text_iff.1 heq)
    rw [read_of_ne htext, read_of_ne htext', readHint_renumber]
  push Not at htext
  obtain ⟨s, rfl⟩ := htext
  show read w' lookup' (.text s) = _
  cases hread : Expr.read? s with
  | none =>
    unfold read
    dsimp only
    rw [hread]
    rfl
  | some e =>
    by_cases hne : ∀ owner index, e ≠ .subscript owner index
    · rw [read_text_of_ne hread hne, read_text_of_ne hread hne, Expr.evaluate_renumber h hlookup]
      cases e.evaluate w lookup with
      | error f => rfl
      | ok v => exact readHint_renumber v
    push Not at hne
    obtain ⟨owner, index, rfl⟩ := hne
    unfold read
    dsimp only
    rw [hread]
    dsimp only
    rw [Expr.evaluate_renumber h hlookup]
    cases owner.evaluate w lookup with
    | error f =>
      dsimp only [Except.map]
      split <;> rfl
    | ok v =>
      cases v with
      | type c =>
        have hc : c.renumber σ = Hint.mappedClass ↔ c = Hint.mappedClass :=
          ClassRef.renumber_eq_standard_iff
        simp only [Except.map, Hint.renumber, hc, innerOf_renumber h hlookup]
        split <;> rfl
      | form name =>
        dsimp only [Except.map, Hint.renumber]
        split <;> rfl
      | _ => rfl

theorem meaning_renumber (h : Renumbers σ w w') (c : ClassRef) :
    RenumbersMeanings σ (meaning w c) (meaning w' (c.renumber σ)) := by
  intro name
  simp only [meaning, h.lookup_attributes, h.moduleName, h.lookup_names, Option.map_or,
    Expr.builtIn?_renumber]

/-- Whether there is a column type does not depend on numbers. -/
theorem hasColumnType_renumber (h : Renumbers σ w w') (hint : Hint) :
    hasColumnType w' (hint.renumber σ) = hasColumnType w hint := by
  have hall : ∀ hs : List Hint, (∀ h ∈ hs, hasColumnType w' (h.renumber σ) = hasColumnType w h) →
      haveColumnType w' (hs.map (Hint.renumber σ)) = haveColumnType w hs := by
    intro hs
    induction hs with
    | nil => exact fun _ => rfl
    | cons k rest ih =>
      intro hmem
      rw [List.map_cons, haveColumnType, haveColumnType, hmem k List.mem_cons_self,
        ih fun k hk => hmem k (List.mem_cons_of_mem _ hk)]
  induction hint using Hint.parts_induction with
  | type c =>
    have hderives : w'.derivesStandard (c.renumber σ) = w.derivesStandard c :=
      funext (h.derivesStandard c)
    simp only [Hint.renumber, hasColumnType, hderives, h.isEnumeration]
  | union hs native ih => simp [Hint.renumber, hasColumnType, hall hs ih]
  | annotated inner notes ih _ => exact ih
  | final inner ih => exact ih
  | newType name base ih => exact ih
  | atom hint hatom =>
    cases hint <;> first
      | rfl
      | cases hatom
  | _ => rfl

theorem isOpen_renumber (value : Option BodyValue) :
    isOpen (value.map (BodyValue.renumber σ)) = isOpen value := by
  cases value with
  | none => rfl
  | some v =>
    cases v with
    | hint hint =>
      cases hint with
      | constant v => cases v <;> rfl
      | _ => rfl
    | _ => rfl

theorem checkContainer_renumber (h : Renumbers σ w w') (hint : Hint) :
    checkContainer w' (hint.renumber σ) = checkContainer w hint := by
  cases hint with
  | applied c arguments native =>
    simp only [Hint.renumber, checkContainer, h.abstractMethods]
  | _ => rfl

theorem columnOf_renumber (h : Renumbers σ w w') (c : ClassRef) (name : String) (inner : Hint) :
    columnOf w' (c.renumber σ) name (inner.renumber σ) =
      (columnOf w c name inner).map (Attribute.renumber σ) := by
  unfold columnOf
  apply bind_eq_map (Hint.resolve_renumber h (meaning_renumber h c) inner)
  intro hint
  rw [hasColumnType_renumber h]
  split <;> rfl

/-- The attribute of an annotation keeps up with the numbers. -/
theorem attributeOf_renumber (h : Renumbers σ w w') (c : ClassRef) (name : String) (inner : Hint)
    (value : Option BodyValue) :
    attributeOf w' (c.renumber σ) name (inner.renumber σ) (value.map (BodyValue.renumber σ)) =
      (attributeOf w c name inner value).map (Attribute.renumber σ) := by
  have hopen : ∀ value : Option BodyValue,
      (if isOpen (value.map (BodyValue.renumber σ)) then
        columnOf w' (c.renumber σ) name (inner.renumber σ) else return .none) =
      (if isOpen value then columnOf w c name inner
        else return .none : Except Failure Attribute).map (Attribute.renumber σ) := by
    intro value
    rw [isOpen_renumber]
    split
    · exact columnOf_renumber h c name inner
    · rfl
  unfold attributeOf
  cases value with
  | none => exact hopen none
  | some v =>
    cases v with
    | relation counterpart =>
      dsimp only [Option.map_some, BodyValue.renumber]
      rw [checkContainer_renumber h]
      cases checkContainer w inner <;> rfl
    | column mark =>
      dsimp only [Option.map_some, BodyValue.renumber]
      split
      · apply bind_eq_map (columnOf_renumber h c name inner)
        intro _
        rfl
      · rfl
    | hint v => exact hopen (some (.hint v))
    | record standard hasFactory ignored => exact hopen (some (.record standard hasFactory ignored))
    | validated excluded => exact hopen (some (.validated excluded))

/-- So does an attribute of the class itself. -/
theorem ownAttribute_renumber (h : Renumbers σ w w') (c : ClassRef) (admitsUnmapped : Bool)
    (body : ClassBody) (name : String) (hint : Hint) :
    ownAttribute w' (c.renumber σ) admitsUnmapped (body.renumber σ) name (hint.renumber σ) =
      (ownAttribute w c admitsUnmapped body name hint).map (Attribute.renumber σ) := by
  unfold ownAttribute
  rw [read_renumber h (meaning_renumber h c), ClassBody.lookup_names_renumber]
  split
  · rfl
  cases read w (meaning w c) hint with
  | mapped inner => exact attributeOf_renumber h c name inner _
  | unreadable => rfl
  | classVariable => rfl
  | unmapped =>
    dsimp only [Reading.renumber]
    rw [isOpen_renumber]
    cases body.names.lookup name with
    | none =>
      dsimp only [Option.map_none]
      split <;> rfl
    | some v =>
      cases v with
      | column mark => rfl
      | _ =>
        dsimp only [Option.map_some, BodyValue.renumber]
        split <;> rfl

theorem annotations_renumber (h : Renumbers σ w w') (ancestors : List ClassRef) :
    Keyed.putAll ((ancestors.map (ClassRef.renumber σ)).flatMap fun k =>
      (w'.annotations k).map fun (name, typeHint) => (name, k, typeHint)) [] =
    (Keyed.putAll (ancestors.flatMap fun k =>
      (w.annotations k).map fun (name, typeHint) => (name, k, typeHint)) []).map
        (Prod.map id (Prod.map (ClassRef.renumber σ) (Hint.renumber σ))) := by
  rw [List.flatMap_map, ← Keyed.putAll_map_values, List.map_flatMap]
  simp only [h.annotations, renumberValues, List.map_map]
  rfl

/-- So do the attributes of ancestors that are not mapped. -/
theorem mixedIn_renumber (h : Renumbers σ w w') (above : List ClassRef) (body : ClassBody) :
    mixedIn w' (above.map (ClassRef.renumber σ)) (body.renumber σ) =
      (mixedIn w above body).map (List.map (Attribute.renumber σ)) := by
  have hancestors : (above.map (ClassRef.renumber σ)).reverse.filter
      (fun k => !w'.derives k declarativeBase) =
      (above.reverse.filter fun k => !w.derives k declarativeBase).map (ClassRef.renumber σ) := by
    rw [← List.map_reverse, List.filter_map]
    exact congrArg (fun p => (above.reverse.filter p).map (ClassRef.renumber σ))
      (funext fun k => congrArg not (h.derives k declarativeBase))
  unfold mixedIn
  dsimp only
  rw [hancestors, annotations_renumber h]
  apply mapM_eq_map
  rintro ⟨name, k, hint⟩ -
  simp only [Prod.map_apply, id_eq, ClassBody.lookup_annotations_renumber,
    ClassBody.lookup_names_renumber, Option.isSome_map, read_renumber h (meaning_renumber h k),
    h.lookup_attributes, Option.isNone_map]
  split
  · rfl
  cases read w (meaning w k) hint with
  | mapped inner =>
    dsimp only [Reading.renumber]
    split
    · exact columnOf_renumber h k name inner
    · rfl
  | _ => rfl

theorem columnsIn_renumber (attributes : List Attribute) :
    columnsIn (attributes.map (Attribute.renumber σ)) = columnsIn attributes := by
  unfold columnsIn
  rw [filterMap_map_of_eq]
  intro a
  cases a <;> rfl

theorem relationsIn_renumber (attributes : List Attribute) :
    relationsIn (attributes.map (Attribute.renumber σ)) =
      (relationsIn attributes).map (Relation.renumber σ) := by
  unfold relationsIn
  rw [List.filterMap_map, List.map_filterMap]
  refine List.filterMap_congr fun a _ => ?_
  cases a <;> rfl

/-- The tables of a base are those of the classes that are mapped on it. -/
theorem hasTable_eq_any (w : World) (base : ClassRef) (table : String) :
    hasTable w base table = (Relations.mappedOn w base).any fun (_, m) => m.table == table := by
  rw [Bool.eq_iff_iff]
  unfold hasTable Relations.mappedOn World.mapping?
  simp only [List.any_eq_true, Option.any_eq_true, List.mem_filterMap, List.mem_map,
    List.mem_range, Bool.and_eq_true, beq_iff_eq]
  constructor
  · rintro ⟨info, hinfo, m, hm, hbase, htable⟩
    obtain ⟨i, hi, rfl⟩ := List.mem_iff_getElem.1 hinfo
    refine ⟨(.defined i, m), ⟨.defined i, ⟨i, hi, rfl⟩, ?_⟩, htable⟩
    simp [World.info?, List.getElem?_eq_getElem hi, hm, hbase]
  · rintro ⟨⟨c, m⟩, ⟨_, ⟨i, hi, rfl⟩, hbind⟩, htable⟩
    simp only [World.info?, List.getElem?_eq_getElem hi, Option.bind_some, Option.bind_eq_some_iff]
      at hbind
    obtain ⟨n, hn, hsome⟩ := hbind
    split at hsome
    · next hbase =>
      cases hsome
      exact ⟨_, List.getElem_mem hi, m, hn, hbase, htable⟩
    · cases hsome

theorem hasTable_renumber (h : Renumbers σ w w') (base : ClassRef) (table : String) :
    hasTable w' (base.renumber σ) table = hasTable w base table := by
  rw [hasTable_eq_any, hasTable_eq_any, h.mappedOn, List.any_map]
  rfl

/-- The columns that a body defines without an annotation. -/
def bareColumns (body : ClassBody) : List Attribute :=
  body.names.filterMap fun (name, v) =>
    match v, body.annotations.lookup name with
    | .column mark, none => some (.column { name, isKey := mark.isKey, target := mark.target })
    | _, _ => none

/-- The mapping on a base of a class with given columns and relations. -/
def mappingWith (w : World) (base : ClassRef) (parent : Option Mapping) (table : Option String)
    (columns : List Column) (relations : List Relation) : Except Failure (Option Mapping) := do
  if (columns.map (·.name) ++ relations.map (·.name)).any fun name =>
      name == "metadata" || name == "registry" then
    throw (.library "InvalidRequestError")
  match parent, table with
  | none, none => throw (.library "InvalidRequestError")
  | some parent, none =>
    return some { parent with
      columns := parent.columns ++ columns, relations := parent.relations ++ relations }
  | parent, some table =>
    if hasTable w base table then throw (.library "InvalidRequestError")
    if !columns.any (·.isKey) then throw (.library "ArgumentError")
    match parent with
    | none => return some { base, table, columns, relations }
    | some parent =>
      if columns.any fun c => c.target.any fun t => targetTable t == parent.table then
        return some { base, table, columns, relations := parent.relations ++ relations }
      else throw (.library "NoForeignKeysError")

/-- A mapping in four steps: the base, the attributes of ancestors, those of the class, and all
together. -/
theorem mappingOf_eq (w : World) (c : ClassRef) (above : List ClassRef) (body : ClassBody)
    (table : Option String) (admitsUnmapped : Bool) :
    mappingOf w c above body table admitsUnmapped =
      match baseOf w above with
      | none => .ok none
      | some base => (do
        let mixed ← mixedIn w above body
        let own ← body.annotations.mapM fun (name, typeHint) =>
          ownAttribute w c admitsUnmapped body name typeHint
        let attributes := mixed ++ own ++ bareColumns body
        mappingWith w base (parentOf w above) table (columnsIn attributes)
          (relationsIn attributes)) := by
  unfold mappingOf
  cases baseOf w above <;> rfl

theorem bareColumns_renumber (body : ClassBody) :
    bareColumns (body.renumber σ) = (bareColumns body).map (Attribute.renumber σ) := by
  unfold bareColumns
  show (body.names.map _).filterMap _ = _
  rw [List.filterMap_map, List.map_filterMap]
  refine List.filterMap_congr fun entry _ => ?_
  obtain ⟨name, v⟩ := entry
  simp only [Function.comp_def, Prod.map_apply, id_eq, ClassBody.lookup_annotations_renumber]
  cases v <;> cases body.annotations.lookup name <;> rfl

/-- The table of some columns and relations keeps up with the numbers. -/
theorem mappingWith_renumber (h : Renumbers σ w w') (base : ClassRef) (parent : Option Mapping)
    (table : Option String) (columns : List Column) (relations : List Relation) :
    mappingWith w' (base.renumber σ) (parent.map (Mapping.renumber σ)) table columns
        (relations.map (Relation.renumber σ)) =
      (mappingWith w base parent table columns relations).map
        (Option.map (Mapping.renumber σ)) := by
  have hnames : (relations.map (Relation.renumber σ)).map (·.name) = relations.map (·.name) := by
    rw [List.map_map]
    rfl
  unfold mappingWith
  dsimp only
  rw [hnames]
  split
  · rfl
  cases parent with
  | none =>
    cases table with
    | none => rfl
    | some table =>
      dsimp only [Option.map_none]
      rw [hasTable_renumber h]
      split
      · rfl
      · split <;> rfl
  | some parent =>
    have hrelations : ∀ base table columns,
        Mapping.mk (base.renumber σ) table columns
          ((parent.renumber σ).relations ++ relations.map (Relation.renumber σ)) =
        (Mapping.mk base table columns (parent.relations ++ relations)).renumber σ :=
      fun _ _ _ => congrArg (Mapping.mk _ _ _) List.map_append.symm
    cases table with
    | none => exact congrArg (fun m => Except.ok (some m)) (hrelations parent.base _ _)
    | some table =>
      dsimp only [Option.map_some]
      rw [hasTable_renumber h, show (parent.renumber σ).table = parent.table from rfl]
      split
      · rfl
      split
      · rfl
      split
      · exact congrArg (fun m => Except.ok (some m)) (hrelations base table columns)
      · rfl

/-- So does the mapping of a class. -/
theorem mappingOf_renumber (h : Renumbers σ w w') (c : ClassRef) (above : List ClassRef)
    (body : ClassBody) (table : Option String) (admitsUnmapped : Bool) :
    mappingOf w' (c.renumber σ) (above.map (ClassRef.renumber σ)) (body.renumber σ) table
        admitsUnmapped =
      (mappingOf w c above body table admitsUnmapped).map (Option.map (Mapping.renumber σ)) := by
  have hown : (body.renumber σ).annotations.mapM (fun (name, typeHint) =>
      ownAttribute w' (c.renumber σ) admitsUnmapped (body.renumber σ) name typeHint) =
      (body.annotations.mapM fun (name, typeHint) =>
        ownAttribute w c admitsUnmapped body name typeHint).map
          (List.map (Attribute.renumber σ)) :=
    mapM_eq_map fun entry _ => ownAttribute_renumber h c admitsUnmapped body entry.1 entry.2
  rw [mappingOf_eq, mappingOf_eq, baseOf_renumber h, parentOf_renumber h]
  cases baseOf w above with
  | none => rfl
  | some base =>
    apply bind_eq_map (mixedIn_renumber h above body)
    intro mixed
    apply bind_eq_map hown
    intro own
    dsimp only
    rw [bareColumns_renumber, ← List.map_append, ← List.map_append, columnsIn_renumber,
      relationsIn_renumber]
    exact mappingWith_renumber h base (parentOf w above) table _ _

theorem attributesOf_renumber (m : Option Mapping) (names : List (String × BodyValue)) :
    attributesOf (m.map (Mapping.renumber σ)) (names.map (Prod.map id (BodyValue.renumber σ))) =
      renumberValues σ (attributesOf m names) := by
  have hnames : (names.map (Prod.map id (BodyValue.renumber σ))).map
      (fun (name, v) => (name, v.meaning)) =
      renumberValues σ (names.map fun (name, v) => (name, v.meaning)) := by
    rw [renumberValues, List.map_map, List.map_map]
    exact List.map_congr_left fun entry _ =>
      Prod.ext rfl (BodyValue.meaning_renumber entry.2)
  have hmapped : ∀ names : List String, names.map (fun name => (name, Hint.other)) =
      renumberValues σ (names.map fun name => (name, Hint.other)) := by
    intro names
    rw [renumberValues, List.map_map]
    rfl
  unfold attributesOf
  rw [hnames]
  cases m with
  | none => exact @Keyed.putAll_map_values String Hint Hint _ (Hint.renumber σ) [] _
  | some m =>
    have hrelations : (m.renumber σ).relations.map (·.name) = m.relations.map (·.name) := by
      show (m.relations.map _).map _ = _
      rw [List.map_map]
      rfl
    dsimp only [Option.map_some, Option.elim]
    rw [hrelations, show (m.renumber σ).columns = m.columns from rfl]
    refine (congrArg (Keyed.putAll · _) (hmapped _)).trans ?_
    exact @Keyed.putAll_map_values String Hint Hint _ (Hint.renumber σ) _ _

end TypeExport.Mapped

import TypeExport.Class.Record
import TypeExport.Proofs.Action
import TypeExport.Proofs.Renumbering.Expression

/-!
# Renumbered bases and bodies

What the bases and the body of a class fix is the same in a renumbered world, up to the numbers of
classes.
-/

namespace TypeExport

section Merge

variable {α β : Type} [DecidableEq α] [DecidableEq β] {f : α → β}

theorem contains_map (hf : f.Injective) (l : List α) (a : α) :
    (l.map f).contains (f a) = l.contains a := by
  rw [Bool.eq_iff_iff, List.contains_iff_mem, List.contains_iff_mem, List.mem_map_of_injective hf]

theorem eraseDups_map (hf : f.Injective) : ∀ l : List α, (l.map f).eraseDups = l.eraseDups.map f
  | [] => rfl
  | a :: rest => by
    have hfilter : (rest.map f).filter (fun b => !b == f a) =
        (rest.filter fun b => !b == a).map f := by
      rw [List.filter_map]
      simp only [Function.comp_def, beq_eq_decide, hf.eq_iff]
    rw [List.map_cons, List.eraseDups_cons, List.eraseDups_cons, hfilter, List.map_cons,
      eraseDups_map hf (rest.filter fun b => !b == a)]
termination_by l => l.length
decreasing_by exact Nat.lt_succ_of_le (List.length_filter_le _ _)

namespace Linearization

theorem isFree_map (hf : f.Injective) (lists : List (List α)) (a : α) :
    isFree (lists.map (List.map f)) (f a) = isFree lists a := by
  unfold isFree
  rw [List.all_map]
  simp only [Function.comp_def, ← List.map_tail, contains_map hf]

theorem choose_map (hf : f.Injective) (lists : List (List α)) :
    choose (lists.map (List.map f)) = (choose lists).map f := by
  have hheads : (lists.map (List.map f)).filterMap List.head? =
      (lists.filterMap List.head?).map f := by
    rw [List.filterMap_map, List.map_filterMap]
    simp only [Function.comp_def, List.head?_map]
  unfold choose
  rw [hheads, List.find?_map]
  simp only [Function.comp_def, isFree_map hf]

/-- Different classes stay different, so lists advance alike. -/
theorem advance_map (hf : f.Injective) (a : α) (lists : List (List α)) :
    advance (f a) (lists.map (List.map f)) = (advance a lists).map (List.map f) := by
  have hrest : ∀ l : List α, (if (l.map f).head? = some (f a) then (l.map f).tail else l.map f) =
      (if l.head? = some a then l.tail else l).map f := by
    intro l
    cases l with
    | nil => rfl
    | cons b rest =>
      simp only [List.map_cons, List.head?_cons, Option.some.injEq, hf.eq_iff, List.tail_cons]
      split <;> rfl
  have hmap : (lists.map (List.map f)).map (fun l => if l.head? = some (f a) then l.tail else l) =
      (lists.map fun l => if l.head? = some a then l.tail else l).map (List.map f) := by
    rw [List.map_map, List.map_map]
    exact List.map_congr_left fun l _ => hrest l
  unfold advance
  rw [hmap, List.filter_map]
  simp only [Function.comp_def, List.isEmpty_map]

/-- The merge of linearisations keeps up with the numbers. -/
theorem mergeWith_map (hf : f.Injective) (fuel : Nat) (lists : List (List α)) :
    mergeWith fuel (lists.map (List.map f)) = (mergeWith fuel lists).map (List.map f) := by
  induction fuel generalizing lists with
  | zero => cases lists <;> rfl
  | succ fuel ih =>
    cases lists with
    | nil => rfl
    | cons l rest =>
      show mergeWith (fuel + 1) (l.map f :: rest.map (List.map f)) = _
      rw [mergeWith, mergeWith, ← List.map_cons, choose_map hf]
      cases choose (l :: rest) with
      | none => rfl
      | some a =>
        dsimp only [Option.map_some]
        rw [advance_map hf, ih]
        cases mergeWith fuel (advance a (l :: rest)) <;> rfl
      all_goals exact List.cons_ne_nil _ _

theorem merge_map (hf : f.Injective) (lists : List (List α)) :
    merge (lists.map (List.map f)) = (merge lists).map (List.map f) := by
  have hfull : (lists.map (List.map f)).filter (!·.isEmpty) =
      (lists.filter (!·.isEmpty)).map (List.map f) := by
    rw [List.filter_map]
    simp only [Function.comp_def, List.isEmpty_map]
  unfold merge
  dsimp only
  rw [hfull, ← List.map_flatten, List.length_map, mergeWith_map hf]

end Linearization

end Merge

namespace World

variable {σ : Nat ↪ Nat} {w w' : World}

theorem orderAbove_renumber (h : Renumbers σ w w') (bases : List ClassRef) :
    w'.orderAbove (bases.map (ClassRef.renumber σ)) =
      (w.orderAbove bases).map (List.map (ClassRef.renumber σ)) := by
  unfold orderAbove
  rw [← Linearization.merge_map (ClassRef.renumber_injective σ), List.map_append, List.map_map,
    List.map_map]
  simp only [Function.comp_def, h.order, List.map_cons, List.map_nil]

theorem isTypeOf_renumber (c : ClassRef) (h : Hint) :
    isTypeOf (c.renumber σ) (h.renumber σ) = isTypeOf c h := by
  cases h <;> simp [isTypeOf, Hint.renumber]

theorem any_isTypeOf_renumber (c : ClassRef) (hs : List Hint) :
    (hs.map (Hint.renumber σ)).any (isTypeOf (c.renumber σ)) = hs.any (isTypeOf c) := by
  rw [List.any_map]
  simp only [Function.comp_def, isTypeOf_renumber]

theorem isAliasBase_renumber (h : Hint) : isAliasBase (h.renumber σ) = isAliasBase h := by
  cases h <;> rfl

theorem isGenericBase_renumber (h : Renumbers σ w w') (hint : Hint) :
    w'.isGenericBase (hint.renumber σ) = w.isGenericBase hint := by
  unfold isGenericBase
  rw [isAliasBase_renumber]
  cases hint with
  | type c => exact congrArg _ (h.derives c genericClass)
  | _ => rfl

theorem containerBases_renumber (h : Renumbers σ w w') (all later : List Hint) (c : ClassRef) :
    w'.containerBases (all.map (Hint.renumber σ)) (later.map (Hint.renumber σ)) (c.renumber σ) =
      (w.containerBases all later c).map (ClassRef.renumber σ) := by
  unfold containerBases
  rw [any_isTypeOf_renumber, List.any_map, List.map_append]
  simp only [Function.comp_def, isGenericBase_renumber h]
  congr 1 <;> split <;> rfl

/-- The bases that a hint stands for keep up with the numbers. -/
theorem basesOf_renumber (h : Renumbers σ w w') (all later : List Hint) (hint : Hint) :
    w'.basesOf (all.map (Hint.renumber σ)) (later.map (Hint.renumber σ)) (hint.renumber σ) =
      (w.basesOf all later hint).map (List.map (ClassRef.renumber σ)) := by
  have hcontainer : ∀ name : String,
      w'.containerBases (all.map (Hint.renumber σ)) (later.map (Hint.renumber σ))
        (.standard name) = (w.containerBases all later (.standard name)).map
          (ClassRef.renumber σ) :=
    fun name => containerBases_renumber h all later (.standard name)
  cases hint with
  | type c => rfl
  | «alias» a =>
    cases a with
    | generic origin count => exact congrArg Except.ok (hcontainer origin)
    | tuple => exact congrArg Except.ok (hcontainer "builtins.tuple")
    | callable => exact congrArg Except.ok (hcontainer "collections.abc.Callable")
  | applied c arguments native =>
    simp only [Hint.renumber, basesOf]
    have hgeneric : c.renumber σ = genericClass ↔ c = genericClass :=
      ClassRef.renumber_eq_standard_iff
    cases native with
    | true => rfl
    | false =>
      simp only [hgeneric, Bool.false_eq_true, if_false]
      split
      · have hprotocol : (all.map (Hint.renumber σ)).any (isTypeOf protocolClass) =
            all.any (isTypeOf protocolClass) := any_isTypeOf_renumber protocolClass all
        rw [hprotocol, List.any_map]
        simp only [Function.comp_def, isAliasBase_renumber]
        split <;> rfl
      · cases c with
        | defined i => rfl
        | standard name =>
          have hderives : w'.derives (.standard name) genericClass =
              w.derives (.standard name) genericClass := h.derives (.standard name) genericClass
          simp only [ClassRef.renumber_standard, hderives, hcontainer]
          split <;> rfl
  | _ => rfl

/-- So do the bases of all hints together. -/
theorem basesFrom_renumber (h : Renumbers σ w w') (all hints : List Hint) :
    w'.basesFrom (all.map (Hint.renumber σ)) (hints.map (Hint.renumber σ)) =
      (w.basesFrom all hints).map (List.map (ClassRef.renumber σ)) := by
  induction hints with
  | nil => rfl
  | cons hint later ih =>
    rw [List.map_cons, basesFrom, basesFrom]
    apply bind_eq_map (basesOf_renumber h all later hint)
    intro first
    apply bind_eq_map ih
    intro more
    exact congrArg Except.ok List.map_append.symm

theorem resolveBases_renumber (h : Renumbers σ w w') (hints : List Hint) :
    w'.resolveBases (hints.map (Hint.renumber σ)) =
      (w.resolveBases hints).map (List.map (ClassRef.renumber σ)) :=
  basesFrom_renumber h hints hints

theorem commonMetaclass_renumber (h : Renumbers σ w w') (bases : List ClassRef) :
    w'.commonMetaclass (bases.map (ClassRef.renumber σ)) = w.commonMetaclass bases := by
  unfold commonMetaclass
  rw [List.foldlM_map]
  simp only [h.metaclass]

theorem commonStorage_renumber (h : Renumbers σ w w') (bases : List ClassRef) :
    w'.commonStorage (bases.map (ClassRef.renumber σ)) =
      (w.commonStorage bases).map (Prod.map (ClassRef.renumber σ) (ClassRef.renumber σ)) := by
  refine foldlM_eq_map (f := Prod.map (ClassRef.renumber σ) (ClassRef.renumber σ)) ?_
    (objectClass, objectClass)
  rintro ⟨storage, origin⟩ c -
  simp only [Prod.map_apply, h.storage, h.derives]
  split
  · rfl
  · split <;> rfl

theorem isSized_renumber (c : ClassRef) : isSized (c.renumber σ) = isSized c := by
  cases c <;> rfl

theorem isClosed_renumber (c : ClassRef) : isClosed (c.renumber σ) = isClosed c := by
  cases c <;> rfl

/-- The type parameters of a class do not depend on numbers. -/
theorem parametersOf_renumber (hints : List Hint) :
    parametersOf (hints.map (Hint.renumber σ)) = parametersOf hints := by
  have hgeneric : (hints.map (Hint.renumber σ)).any (isTypeOf genericClass) =
      hints.any (isTypeOf genericClass) := any_isTypeOf_renumber genericClass hints
  unfold parametersOf
  dsimp only
  rw [hgeneric, filterMap_map_of_eq, filter_map_of_eq, Hint.variablesOf_renumber]
  · intro h
    cases h <;> rfl
  · intro h
    cases h with
    | applied c arguments native =>
      cases native with
      | true => rfl
      | false =>
        have hc : c.renumber σ = genericClass ↔ c = genericClass :=
          ClassRef.renumber_eq_standard_iff
        simp only [Hint.renumber, Hint.renumberAll_eq_map, Hint.variablesOf_renumber, hc]
    | _ => rfl

theorem admitsProtocol_renumber (h : Renumbers σ w w') (c : ClassRef) :
    w'.admitsProtocol (c.renumber σ) = w.admitsProtocol c := by
  have hderives : w'.derives (c.renumber σ) genericClass = w.derives c genericClass :=
    h.derives c genericClass
  have hobject : (c.renumber σ == objectClass) = (c == objectClass) :=
    ClassRef.renumber_beq_standard
  have hgeneric : (c.renumber σ == genericClass) = (c == genericClass) :=
    ClassRef.renumber_beq_standard
  unfold admitsProtocol
  rw [hderives, hobject, hgeneric, h.moduleName, h.shortName, h.isProtocol]

/-- What the bases fix keeps up with the numbers. -/
theorem frame_renumber (h : Renumbers σ w w') (hints : List Hint) (bases : List ClassRef) :
    w'.frame (hints.map (Hint.renumber σ)) (bases.map (ClassRef.renumber σ)) =
      (w.frame hints bases).map (ClassFrame.renumber σ) := by
  have hgeneric : ∀ order : List ClassRef,
      (order.map (ClassRef.renumber σ)).contains genericClass = order.contains genericClass :=
    fun order => contains_map (ClassRef.renumber_injective σ) order genericClass
  have hprotocol : (bases.map (ClassRef.renumber σ)).contains protocolClass =
      bases.contains protocolClass :=
    contains_map (ClassRef.renumber_injective σ) bases protocolClass
  unfold frame
  simp only [List.any_map, List.all_map, Function.comp_def, isClosed_renumber,
    admitsProtocol_renumber h, orderAbove_renumber h, hprotocol]
  split
  · rfl
  cases w.orderAbove bases with
  | none => rfl
  | some order =>
    have horder : (if (order.map (ClassRef.renumber σ)).isEmpty then [objectClass]
        else order.map (ClassRef.renumber σ)) =
        (if order.isEmpty then [objectClass] else order).map (ClassRef.renumber σ) := by
      rw [List.isEmpty_map]
      split <;> rfl
    dsimp only [Option.map_some]
    rw [horder, hgeneric]
    generalize (if order.isEmpty then [objectClass] else order) = order
    apply bind_eq_map (commonStorage_renumber h bases)
    rintro ⟨storage, origin⟩
    have hstorage : (if isSized (origin.renumber σ) then none else some (storage.renumber σ)) =
        (if isSized origin then none else some storage).map (ClassRef.renumber σ) := by
      rw [isSized_renumber]
      split <;> rfl
    dsimp only [Prod.map_apply]
    rw [hstorage, parametersOf_renumber]
    generalize (if isSized origin then none else some storage) = storage
    split
    · cases parametersOf hints with
      | error f => rfl
      | ok parameters =>
        rw [bind_ok, bind_ok]
        split <;> rfl
    · rw [pure_bind, pure_bind]
      split <;> rfl

theorem isStored_renumber (h : Renumbers σ w w') (c : ClassRef) :
    w'.isStored (c.renumber σ) = w.isStored c := by
  have hobject : ((w.storage c).renumber σ == objectClass) = (w.storage c == objectClass) :=
    ClassRef.renumber_beq_standard
  unfold isStored bne
  rw [h.storage, hobject]

theorem dataTypeOf_renumber (h : Renumbers σ w w') (c : ClassRef) :
    w'.dataTypeOf (c.renumber σ) = (w.dataTypeOf c).map (ClassRef.renumber σ) := by
  unfold dataTypeOf
  rw [h.isEnumeration, h.order, isStored_renumber h, List.find?_map]
  simp only [Function.comp_def, h.isEnumeration, isStored_renumber h]
  split
  · rfl
  · split <;> rfl

theorem dataType_renumber (h : Renumbers σ w w') (bases : List ClassRef) :
    w'.dataType (bases.map (ClassRef.renumber σ)) =
      (w.dataType bases).map (Option.map (ClassRef.renumber σ)) := by
  have hall : (bases.map (ClassRef.renumber σ)).filterMap w'.dataTypeOf =
      (bases.filterMap w.dataTypeOf).map (ClassRef.renumber σ) := by
    rw [List.filterMap_map, List.map_filterMap]
    simp only [Function.comp_def, dataTypeOf_renumber h]
  unfold dataType
  rw [hall, eraseDups_map (ClassRef.renumber_injective σ)]
  rcases (bases.filterMap w.dataTypeOf).eraseDups with _ | ⟨c, _ | ⟨d, rest⟩⟩ <;> rfl

/-- What makes the values of members does not depend on numbers. -/
theorem valueMaker_renumber (h : Renumbers σ w w') (bases : List ClassRef) :
    w'.valueMaker (bases.map (ClassRef.renumber σ)) = w.valueMaker bases := by
  unfold valueMaker
  rw [dataType_renumber h, List.any_map]
  simp only [Function.comp_def, h.derivesStandard]
  cases w.dataType bases with
  | error f => rfl
  | ok type =>
    cases type with
    | none => rfl
    | some c =>
      simp only [Except.map, bind_ok, Option.map_some, h.derivesStandard]

theorem hasMembers_renumber (h : Renumbers σ w w') (c : ClassRef) :
    w'.hasMembers (c.renumber σ) = w.hasMembers c := by
  unfold hasMembers
  rw [h.info, h.isEnumeration]
  cases w.info? c <;> rfl

theorem checkEnumeration_renumber (h : Renumbers σ w w') (bases : List ClassRef) :
    w'.checkEnumeration (bases.map (ClassRef.renumber σ)) = w.checkEnumeration bases := by
  unfold checkEnumeration
  simp only [List.any_map, Function.comp_def, h.order, hasMembers_renumber h, List.getLast?_map]
  split
  · rfl
  · cases bases.getLast? with
    | none => rfl
    | some last =>
      dsimp only [Option.map_some]
      rw [h.isEnumeration]

end World

/-!
## Renumbered class bodies

Running the body of a class in a renumbered world gives the same names and annotations, up to the
numbers of classes, and so the same fields of a data record.
-/

variable {σ : Nat ↪ Nat} {w w' : World}

theorem optionMapM_eq_map {ε α β β' : Type} {k : β → β'} {o : Option α} {g : α → Except ε β}
    {g' : α → Except ε β'} (hg : ∀ a, g' a = (g a).map k) :
    o.mapM g' = (o.mapM g).map (Option.map k) := by
  cases o with
  | none => rfl
  | some a =>
    rw [Option.mapM_some, Option.mapM_some, hg]
    cases g a <;> rfl

theorem BodyValue.meaning_renumber (v : BodyValue) :
    (v.renumber σ).meaning = v.meaning.renumber σ := by
  cases v <;> rfl

namespace Scope

theorem meaning_renumber (h : Renumbers σ w w') (scope : Scope) (names : List (String × Hint)) :
    RenumbersMeanings σ (scope.meaning w names)
      ((scope.renumber σ).meaning w' (renumberValues σ names)) := by
  intro name
  simp only [meaning, renumber, lookup_map_values, h.lookup_names, Option.map_or,
    Expr.builtIn?_renumber]

theorem evaluate_renumber (h : Renumbers σ w w') (scope : Scope) (e : Expr) :
    (scope.renumber σ).evaluate w' e = (scope.evaluate w e).map (Hint.renumber σ) :=
  Expr.evaluate_renumber h (meaning_renumber h scope scope.names) _

end Scope

namespace ClassBody

theorem meanings_renumber (body : ClassBody) :
    (body.renumber σ).meanings = renumberValues σ body.meanings := by
  unfold meanings renumber renumberValues
  rw [List.map_map, List.map_map]
  refine List.map_congr_left fun entry _ => ?_
  exact Prod.ext rfl (BodyValue.meaning_renumber entry.2)

theorem lookup_names_renumber (body : ClassBody) (name : String) :
    (body.renumber σ).names.lookup name = (body.names.lookup name).map (BodyValue.renumber σ) :=
  lookup_map_values _ _ name

theorem lookup_annotations_renumber (body : ClassBody) (name : String) :
    (body.renumber σ).annotations.lookup name =
      (body.annotations.lookup name).map (Hint.renumber σ) :=
  lookup_map_values _ _ name

theorem evaluate_renumber (h : Renumbers σ w w') (scope : Scope) (owner : String)
    (body : ClassBody) (e : Expr) :
    (body.renumber σ).evaluate w' (scope.renumber σ) owner e =
      (body.evaluate w scope owner e).map (Hint.renumber σ) := by
  unfold evaluate
  rw [meanings_renumber]
  exact Expr.evaluate_renumber h (Scope.meaning_renumber h scope body.meanings) _

/-- The value of a field keeps up with the numbers. -/
theorem fieldValue_renumber (h : Renumbers σ w w') (scope : Scope) (owner : String)
    (form : ClassForm) (body : ClassBody) (f : FieldDefinition) :
    (body.renumber σ).fieldValue w' (scope.renumber σ) owner form f =
      (body.fieldValue w scope owner form f).map (Option.map (BodyValue.renumber σ)) := by
  unfold fieldValue
  apply bind_eq_map (optionMapM_eq_map (evaluate_renumber h scope owner body))
  intro standard
  apply bind_eq_map (optionMapM_eq_map fun name =>
    evaluate_renumber h scope owner body (.name name))
  intro _
  cases f.relation with
  | some counterpart => rfl
  | none =>
    cases f.column with
    | some mark => rfl
    | none =>
      cases f.excluded with
      | some excluded => rfl
      | none =>
        dsimp only
        rw [Option.isSome_map]
        split
        · split
          · rfl
          · split <;> rfl
        · cases standard with
          | some v => rfl
          | none => cases f.typeHint <;> rfl

theorem addAnnotation_renumber (body : ClassBody) (name : String) (h : Hint) :
    ({ body.renumber σ with
      annotations := Keyed.put name (h.renumber σ) (body.renumber σ).annotations } : ClassBody) =
      ({ body with annotations := Keyed.put name h body.annotations } : ClassBody).renumber σ :=
  congrArg (ClassBody.mk _) (Keyed.put_map_values _ _ _ _)

theorem addName_renumber (body : ClassBody) (name : String) (v : BodyValue) :
    ({ body.renumber σ with
      names := Keyed.put name (v.renumber σ) (body.renumber σ).names } : ClassBody) =
      ({ body with names := Keyed.put name v body.names } : ClassBody).renumber σ :=
  congrArg (ClassBody.mk · _) (Keyed.put_map_values _ _ _ _)

theorem addValue_renumber (body : ClassBody) (name : String) (value : Option BodyValue) :
    (match value.map (BodyValue.renumber σ) with
      | some v => { body.renumber σ with names := Keyed.put name v (body.renumber σ).names }
      | none => body.renumber σ) =
      (match value with
      | some v => { body with names := Keyed.put name v body.names }
      | none => body : ClassBody).renumber σ := by
  cases value with
  | none => rfl
  | some v => exact addName_renumber body _ v

/-- So does a body with one more field. -/
theorem addField_renumber (h : Renumbers σ w w') (scope : Scope) (owner : String)
    (form : ClassForm) (body : ClassBody) (f : FieldDefinition) :
    addField w' (scope.renumber σ) owner form (body.renumber σ) f =
      (addField w scope owner form body f).map (renumber σ) := by
  unfold addField
  apply bind_eq_map (fieldValue_renumber h scope owner form body f)
  intro value
  have hname := addValue_renumber (σ := σ) body (Name.inClass owner f.name) value
  cases value
  all_goals
    refine bind_eq_map (congrArg Except.ok hname) fun body => ?_
    cases f.typeHint with
    | none => rfl
    | some e =>
      dsimp only
      rw [show (scope.renumber σ).deferred = scope.deferred from rfl]
      split
      · exact congrArg Except.ok (addAnnotation_renumber body _ (.text e.text))
      · apply bind_eq_map (evaluate_renumber h scope owner body e)
        exact fun h => congrArg Except.ok (addAnnotation_renumber body _ h)

theorem bodyValues_renumber (entries : List (String × Hint)) :
    (renumberValues σ entries).map (fun (name, h) => (name, BodyValue.hint h)) =
      (entries.map fun (name, h) => (name, BodyValue.hint h)).map
        (Prod.map id (BodyValue.renumber σ)) := by
  rw [renumberValues, List.map_map, List.map_map]
  rfl

theorem putNames_renumber (body : ClassBody) (entries : List (String × Hint)) :
    (body.renumber σ).putNames (renumberValues σ entries) = (body.putNames entries).renumber σ := by
  unfold putNames renumber
  dsimp only
  rw [bodyValues_renumber, Keyed.putAll_map_values]

/-- Values without classes of their own are put as they are. -/
theorem putNames_of_fixed {body : ClassBody} {entries : List (String × Hint)}
    (h : ∀ entry ∈ entries, entry.2.renumber σ = entry.2) :
    (body.renumber σ).putNames entries = (body.putNames entries).renumber σ := by
  have hentries : renumberValues σ entries = entries.map id :=
    List.map_congr_left fun entry hmem => Prod.ext rfl (h entry hmem)
  rw [← putNames_renumber, hentries, List.map_id]

/-- So does the body of a whole class. -/
theorem run_renumber (h : Renumbers σ w w') (scope : Scope) (owner : String) (form : ClassForm)
    (nested : List (String × Hint)) (fields : List FieldDefinition)
    (members : List (String × Value)) (methods : List String) :
    run w' (scope.renumber σ) owner form (renumberValues σ nested) fields members methods =
      (run w scope owner form nested fields members methods).map (renumber σ) := by
  have hfields : ∀ body : ClassBody,
      fields.foldlM (addField w' (scope.renumber σ) owner form) (body.renumber σ) =
        (fields.foldlM (addField w scope owner form) body).map (renumber σ) := by
    intro body
    have hall := foldlM_eq_map (f := renumber σ) (e := id) (l := fields)
      (fun body f _ => addField_renumber h scope owner form body f) body
    rwa [List.map_id] at hall
  unfold run
  have hstart : ClassBody.putNames {} (renumberValues σ nested) =
      (ClassBody.putNames {} nested).renumber σ :=
    putNames_renumber {} nested
  dsimp only
  rw [hstart]
  apply bind_eq_map (hfields _)
  intro body
  rw [putNames_of_fixed, putNames_of_fixed]
  · rfl
  · simp only [List.forall_mem_map]
    exact fun _ _ => rfl
  · simp only [List.forall_mem_map]
    rintro ⟨name, v⟩ -
    cases v <;> rfl

end ClassBody

/-- What the words in front of a text mean keeps up with the numbers. -/
theorem LeadingWords.meaning?_renumber (h : Renumbers σ w w') (moduleName standard : String)
    (l : LeadingWords) :
    l.meaning? w' moduleName standard =
      (l.meaning? w moduleName standard).map (Hint.renumber σ) := by
  unfold meaning?
  cases l.module with
  | none => exact h.lookup_names moduleName l.word
  | some m =>
    dsimp only
    rw [h.lookup_names]
    cases (w.names moduleName).lookup m with
    | none => rfl
    | some v =>
      cases v with
      | module name =>
        simp only [Option.map_some, Hint.renumber]
        split
        · cases StandardName.find? standard l.word with
          | none => rfl
          | some n => exact congrArg some (Expr.hintOfName_renumber l.word n).symm
        · rfl
      | _ => rfl

namespace Record

theorem isClassVariable_renumber (h : Hint) : isClassVariable (h.renumber σ) = isClassVariable h := by
  cases h <;> rfl

theorem isArgument_renumber (h : Hint) : isArgument (h.renumber σ) = isArgument h := by
  cases h with
  | type c => exact ClassRef.renumber_beq_standard
  | applied c arguments native => exact ClassRef.renumber_beq_standard
  | _ => rfl

/-- Whether a hint is of a kind does not depend on numbers. -/
theorem isOfKind_renumber (h : Renumbers σ w w') (moduleName standard : String)
    {holds : Hint → Bool} (hholds : ∀ h : Hint, holds (h.renumber σ) = holds h) (hint : Hint) :
    isOfKind w' moduleName standard holds (hint.renumber σ) =
      isOfKind w moduleName standard holds hint := by
  cases hint with
  | text s =>
    show isOfKind w' moduleName standard holds (.text s) = _
    unfold isOfKind
    dsimp only
    cases LeadingWords.ofText? s with
    | none => rfl
    | some l =>
      dsimp only
      rw [LeadingWords.meaning?_renumber h, Option.any_map]
      simp only [hholds]
  | _ => exact hholds _

theorem roleOf_renumber (h : Renumbers σ w w') (moduleName : String) (hint : Hint) :
    roleOf w' moduleName (hint.renumber σ) = roleOf w moduleName hint := by
  unfold roleOf
  rw [isOfKind_renumber h _ _ isClassVariable_renumber, isOfKind_renumber h _ _ isArgument_renumber]

theorem mutableClass?_renumber (h : Renumbers σ w w') (hint : Hint) :
    mutableClass? w' (hint.renumber σ) = (mutableClass? w hint).map (ClassRef.renumber σ) := by
  cases hint with
  | valueOf c =>
    have hderives : w'.derivesStandard (c.renumber σ) = w.derivesStandard c :=
      funext (h.derivesStandard c)
    simp only [Hint.renumber, mutableClass?, h.recordFields?, h.isValidated, hderives]
    split <;> rfl
  | _ => rfl

theorem shownClass_renumber (h : Renumbers σ w w') (c : ClassRef) :
    shownClass w' (c.renumber σ) = shownClass w c := by
  cases c with
  | standard name => rfl
  | defined i =>
    have hname := h.fullName (.defined i)
    unfold shownClass
    simp only [ClassRef.renumber] at hname ⊢
    rw [hname]

/-- A standard value is refused alike. -/
theorem checkStandard_renumber (h : Renumbers σ w w') (name : String) (role : FieldRole)
    (standard : Option Hint) :
    checkStandard w' name role (standard.map (Hint.renumber σ)) =
      checkStandard w name role standard := by
  have hclass : (standard.map (Hint.renumber σ)).bind (mutableClass? w') =
      (standard.bind (mutableClass? w)).map (ClassRef.renumber σ) := by
    cases standard with
    | none => rfl
    | some hint => exact mutableClass?_renumber h hint
  unfold checkStandard
  rw [hclass]
  cases role with
  | plain =>
    cases standard.bind (mutableClass? w) with
    | none => rfl
    | some c =>
      dsimp only [Option.map_some]
      rw [shownClass_renumber h]
  | _ => rfl

theorem fieldOf_renumber (h : Renumbers σ w w') (c : ClassRef) (body : ClassBody) (name : String)
    (hint : Hint) :
    fieldOf w' (c.renumber σ) (body.renumber σ) name (hint.renumber σ) =
      fieldOf w c body name hint := by
  unfold fieldOf
  rw [h.moduleName, roleOf_renumber h, ClassBody.lookup_names_renumber, h.attribute?]
  cases body.names.lookup name with
  | none => simp only [Option.map_none, checkStandard_renumber h, Option.isSome_map]
  | some v =>
    cases v <;> simp only [Option.map_some, BodyValue.renumber, checkStandard_renumber h,
      Option.isSome_map]

theorem inherited_renumber (h : Renumbers σ w w') (order : List ClassRef) :
    inherited w' (order.map (ClassRef.renumber σ)) = inherited w order := by
  unfold inherited
  rw [← List.map_reverse, List.flatMap_map]
  simp only [h.recordFields?]

theorem isRecordValue_renumber (v : BodyValue) : isRecordValue (v.renumber σ) = isRecordValue v := by
  cases v <;> rfl

theorem ownFields_renumber (h : Renumbers σ w w') (c : ClassRef) (body : ClassBody) :
    (body.renumber σ).annotations.mapM (fun (name, typeHint) =>
      fieldOf w' (c.renumber σ) (body.renumber σ) name typeHint) =
      body.annotations.mapM fun (name, typeHint) => fieldOf w c body name typeHint := by
  show (renumberValues σ body.annotations).mapM _ = _
  rw [renumberValues, List.mapM_map]
  exact congrArg (List.mapM · body.annotations) (funext fun entry =>
    fieldOf_renumber h c body entry.1 entry.2)

theorem anyBare_renumber (body : ClassBody) :
    (body.renumber σ).names.any (fun (name, v) =>
      isRecordValue v && ((body.renumber σ).annotations.lookup name).isNone) =
      body.names.any fun (name, v) =>
        isRecordValue v && (body.annotations.lookup name).isNone := by
  simp only [ClassBody.lookup_annotations_renumber, Option.isNone_map]
  show (body.names.map _).any _ = _
  rw [List.any_map]
  exact congrArg (List.any body.names) (funext fun entry =>
    congrArg (· && _) (isRecordValue_renumber entry.2))

theorem fieldsOf_renumber (h : Renumbers σ w w') (c : ClassRef) (above : List ClassRef)
    (body : ClassBody) :
    fieldsOf w' (c.renumber σ) (above.map (ClassRef.renumber σ)) (body.renumber σ) =
      fieldsOf w c above body := by
  unfold fieldsOf
  rw [ownFields_renumber h, anyBare_renumber, inherited_renumber h]

theorem attributesOf_renumber (names : List (String × BodyValue)) :
    attributesOf (names.map (Prod.map id (BodyValue.renumber σ))) =
      renumberValues σ (attributesOf names) := by
  unfold attributesOf renumberValues
  rw [List.filterMap_map, List.map_filterMap]
  refine List.filterMap_congr fun entry _ => ?_
  obtain ⟨name, v⟩ := entry
  cases v with
  | record standard hasFactory ignored => cases standard <;> rfl
  | _ => rfl

end Record

end TypeExport

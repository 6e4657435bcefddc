import TypeExport.Proofs.Renumbering.Attributes
import TypeExport.Proofs.Renumbering.Mirrors

/-!
# Renumbered definitions of classes

A class definition makes the same class in a renumbered world, up to the numbers of classes.
-/

namespace TypeExport.ClassDefinition

variable {σ : Nat ↪ Nat} {w w' : World}

theorem bind_eq_map_of_same {ε α β β' : Type} {k : β → β'} {x : Except ε α} {g : α → Except ε β}
    {g' : α → Except ε β'} (hg : ∀ a, g' a = (g a).map k) : x >>= g' = (x >>= g).map k := by
  cases x with
  | error e => rfl
  | ok a => exact hg a

/-- Hints without classes of the world that are not among others. -/
theorem filter_absent_renumber {own : List Hint} (hown : ∀ h ∈ own, h.renumber σ = h)
    (hints : List Hint) :
    own.filter (fun h => !(hints.map (Hint.renumber σ)).any (Hint.same h)) =
      (own.filter fun h => !hints.any (Hint.same h)).map (Hint.renumber σ) := by
  have hsame : own.filter (fun h => !(hints.map (Hint.renumber σ)).any (Hint.same h)) =
      own.filter fun h => !hints.any (Hint.same h) := by
    refine List.filter_congr fun h hmem => ?_
    rw [List.any_map]
    refine congrArg (fun p => !hints.any p) (funext fun k => ?_)
    show Hint.same h (k.renumber σ) = Hint.same h k
    rw [← hown h hmem, Hint.same_renumber, hown h hmem]
  have hfixed : ∀ h ∈ own.filter (fun h => !hints.any (Hint.same h)), h.renumber σ = id h :=
    fun h hmem => hown h (List.mem_of_mem_filter hmem)
  rw [hsame, List.map_congr_left hfixed, List.map_id]

/-- The bases as they are written keep up with the numbers. -/
theorem writtenBases_renumber (h : Renumbers σ w w') (scope : Scope) (form : ClassForm)
    (bases : List Expr) (parameters : List String) :
    writtenBases w' (scope.renumber σ) form bases parameters =
      (writtenBases w scope form bases parameters).map (List.map (Hint.renumber σ)) := by
  have hbases : bases.mapM ((scope.renumber σ).evaluate w') =
      (bases.mapM (scope.evaluate w)).map (List.map (Hint.renumber σ)) := by
    have hall := mapM_eq_map (f := id) (l := bases) fun e _ => Scope.evaluate_renumber h scope e
    rwa [List.map_id] at hall
  have harguments : (parameters.mapM fun name => (scope.renumber σ).evaluate w' (.name name)) =
      (parameters.mapM fun name => scope.evaluate w (.name name)).map
        (List.map (Hint.renumber σ)) := by
    have hall := mapM_eq_map (f := Expr.name) (l := parameters)
      fun name _ => Scope.evaluate_renumber h scope (.name name)
    rwa [List.mapM_map] at hall
  unfold writtenBases
  apply bind_eq_map hbases
  intro hints
  apply bind_eq_map harguments
  intro arguments
  have hgeneric : (if (arguments.map (Hint.renumber σ)).isEmpty then [] else
        [Hint.applied World.genericClass (arguments.map (Hint.renumber σ)) false]) =
      (if arguments.isEmpty then [] else
        [Hint.applied World.genericClass arguments false]).map (Hint.renumber σ) := by
    cases arguments with
    | nil => rfl
    | cons first rest => simp [Hint.renumber, World.genericClass]
  refine congrArg Except.ok ?_
  rw [List.map_append, List.map_append, ← hgeneric, ← filter_absent_renumber]
  · rw [List.isEmpty_map]
  · cases form with
    | validated => cases hints <;> simp [Hint.standard, Hint.renumber]
    | mappedBase | protocol | abstract =>
      simp [Hint.standard, Hint.renumber, Mapped.declarativeBase, World.protocolClass]
    | _ => simp

theorem implements_renumber (h : Renumbers σ w w') (c : ClassRef) (name : String) :
    implements w' (c.renumber σ) name = implements w c name := by
  have hstored : (w'.storage (c.renumber σ) != World.objectClass) =
      (w.storage c != World.objectClass) := World.isStored_renumber h c
  unfold implements
  rw [h.lookup_attributes, h.info, h.abstractMethods, hstored, Option.isSome_map,
    Option.isNone_map]

theorem isLeftOpen_renumber (h : Renumbers σ w w') (above : List ClassRef) (name : String) :
    isLeftOpen w' (above.map (ClassRef.renumber σ)) name = isLeftOpen w above name := by
  unfold isLeftOpen
  rw [List.find?_map]
  simp only [Function.comp_def, h.abstractMethods, implements_renumber h]
  cases above.find? fun k => (w.abstractMethods k).contains name || implements w k name with
  | none => rfl
  | some k =>
    dsimp only [Option.map_some]
    rw [h.abstractMethods]

theorem abstractNames_renumber (h : Renumbers σ w w') (bases above : List ClassRef)
    (metaclass : String) (body : ClassBody) (own : List String) :
    abstractNames w' (bases.map (ClassRef.renumber σ)) (above.map (ClassRef.renumber σ)) metaclass
        (body.renumber σ) own =
      abstractNames w bases above metaclass body own := by
  unfold abstractNames
  simp only [List.flatMap_map, h.abstractMethods, ClassBody.lookup_names_renumber,
    Option.isNone_map, isLeftOpen_renumber h]

/-- So does what is known of a class before its form is looked at. -/
theorem blank_renumber (scope : Scope) (name : String) (frame : ClassFrame) (metaclass : String)
    (marker : Option (Option String)) (self : ClassRef) (abstractMethods : List String)
    (body : ClassBody) :
    blank (scope.renumber σ) name (frame.renumber σ) metaclass marker (self.renumber σ)
        abstractMethods (body.renumber σ) =
      (blank scope name frame metaclass marker self abstractMethods body).renumber σ := by
  have hstorage : (frame.storage.map (ClassRef.renumber σ)).getD (self.renumber σ) =
      (frame.storage.getD self).renumber σ := by
    cases frame.storage <;> rfl
  unfold blank ClassInfo.renumber ClassFrame.renumber
  rw [ClassBody.meanings_renumber]
  simp only [hstorage]
  rfl

theorem constant?_renumber (v : BodyValue) : constant? (v.renumber σ) = constant? v := by
  cases v with
  | hint hint => cases hint <;> rfl
  | _ => rfl

theorem laterMembers_renumber (body : ClassBody) (written : List (String × Value)) :
    (body.renumber σ).names.filterMap (fun (name, v) =>
      if (written.lookup name).isSome then none else (constant? v).map fun v => (name, v)) =
    body.names.filterMap fun (name, v) =>
      if (written.lookup name).isSome then none else (constant? v).map fun v => (name, v) := by
  show (body.names.map _).filterMap _ = _
  refine filterMap_map_of_eq (fun entry => ?_) body.names
  simp only [Prod.map_fst, Prod.map_snd, id_eq, constant?_renumber]

theorem memberHints_renumber (self : ClassRef) (names : List String)
    (attributes : List (String × Hint)) :
    (renumberValues σ attributes).map (fun (name, h) =>
      (name, if names.contains name then Hint.valueOf (self.renumber σ) else h)) =
    renumberValues σ (attributes.map fun (name, h) =>
      (name, if names.contains name then Hint.valueOf self else h)) := by
  rw [renumberValues, renumberValues, List.map_map, List.map_map]
  refine List.map_congr_left fun entry _ => Prod.ext rfl ?_
  show (if names.contains entry.1 then _ else _) = Hint.renumber σ (if _ then _ else _)
  split <;> rfl

/-- A class is made an enumeration alike under other numbers. -/
theorem asEnumeration_renumber (h : Renumbers σ w w') (bases : List ClassRef) (self : ClassRef)
    (body : ClassBody) (members : List (String × Value)) (info : ClassInfo) :
    asEnumeration w' (bases.map (ClassRef.renumber σ)) (self.renumber σ) (body.renumber σ) members
        (info.renumber σ) =
      (asEnumeration w bases self body members info).map (ClassInfo.renumber σ) := by
  unfold asEnumeration
  dsimp only
  rw [laterMembers_renumber, World.valueMaker_renumber h]
  refine bind_eq_map_of_same fun names => ?_
  refine bind_eq_map_of_same fun _ => ?_
  refine bind_eq_map_of_same fun maker => ?_
  refine bind_eq_map_of_same fun members => ?_
  exact congrArg (fun attributes => Except.ok
    { info.renumber σ with members := members, attributes := attributes })
    (memberHints_renumber self names info.attributes)

theorem checkTuple_renumber (body : ClassBody) :
    checkTuple (body.renumber σ) = checkTuple body := by
  have hnames : (body.renumber σ).annotations.map (·.1) = body.annotations.map (·.1) := by
    show (body.annotations.map _).map _ = _
    rw [List.map_map]
    rfl
  unfold checkTuple
  rw [hnames]
  simp only [ClassBody.lookup_names_renumber, Option.isSome_map]

theorem checkedAnnotations_renumber (body : ClassBody) :
    checkedAnnotations (body.renumber σ) =
      (checkedAnnotations body).map (renumberValues σ) := by
  unfold checkedAnnotations
  apply mapM_eq_map
  rintro ⟨name, hint⟩ -
  exact bind_eq_map (Hint.asArgument_renumber false hint) fun _ => rfl

/-- A class is made a named tuple alike. -/
theorem asTuple_renumber (body : ClassBody) (info : ClassInfo) :
    asTuple (body.renumber σ) (info.renumber σ) =
      (asTuple body info).map (ClassInfo.renumber σ) := by
  unfold asTuple
  rw [checkTuple_renumber]
  cases checkTuple body with
  | error f => rfl
  | ok _ =>
    apply bind_eq_map (checkedAnnotations_renumber body)
    intro annotations
    refine congrArg Except.ok ?_
    have hfields : (annotations.map (Prod.map id (Hint.renumber σ))).map
          (fun entry : String × Hint => (entry.1, Hint.other)) ++ [("_fields", Hint.other)] =
        (annotations.map (fun entry : String × Hint => (entry.1, Hint.other)) ++
          [("_fields", Hint.other)]).map (Prod.map id (Hint.renumber σ)) := by
      rw [List.map_append, List.map_map, List.map_map]
      rfl
    rw [hfields]
    exact congrArg (fun attributes => { info.renumber σ with
      annotations := renumberValues σ annotations, attributes := attributes })
      (Keyed.putAll_map_values (Hint.renumber σ) _ info.attributes)

/-- A class is made a typed table alike. -/
theorem asTypedTable_renumber (h : Renumbers σ w w') (bases : List ClassRef) (body : ClassBody)
    (info : ClassInfo) :
    asTypedTable w' (bases.map (ClassRef.renumber σ)) (body.renumber σ) (info.renumber σ) =
      (asTypedTable w bases body info).map (ClassInfo.renumber σ) := by
  unfold asTypedTable
  apply bind_eq_map (checkedAnnotations_renumber body)
  intro own
  refine congrArg Except.ok ?_
  have hinherited : (bases.map (ClassRef.renumber σ)).flatMap w'.annotations =
      (bases.flatMap w.annotations).map (Prod.map id (Hint.renumber σ)) := by
    simp only [List.flatMap_map, List.map_flatMap, h.annotations]
  rw [hinherited, ← List.map_append]
  exact congrArg (fun annotations => { info.renumber σ with annotations := annotations })
    (Keyed.putAll_map_values (Hint.renumber σ) _ [])

/-- The bases that a class is really made of keep up with the numbers. -/
theorem actualBases_renumber (h : Renumbers σ w w') (making : Making) (bases : List ClassRef) :
    actualBases w' making (bases.map (ClassRef.renumber σ)) =
      (actualBases w making bases).map (List.map (ClassRef.renumber σ)) := by
  have hgeneric : (bases.map (ClassRef.renumber σ)).filter (· == World.genericClass) =
      (bases.filter (· == World.genericClass)).map (ClassRef.renumber σ) :=
    filter_map_of_eq (p := (· == World.genericClass))
      (fun _ => ClassRef.renumber_beq_standard) bases
  have hothers : (bases.map (ClassRef.renumber σ)).filter (· != World.genericClass) =
      (bases.filter (· != World.genericClass)).map (ClassRef.renumber σ) :=
    filter_map_of_eq (p := (· != World.genericClass))
      (fun _ => congrArg not ClassRef.renumber_beq_standard) bases
  have hderives : ∀ c, w'.derives (ClassRef.renumber σ c) World.genericClass =
      w.derives c World.genericClass := fun c => h.derives c World.genericClass
  unfold actualBases
  rw [hgeneric, hothers]
  cases making with
  | tuple =>
    dsimp only
    rw [List.isEmpty_map]
    split <;> rfl
  | typedTable =>
    simp only [List.all_map, List.any_map, Function.comp_def, h.metaclass, hderives]
    split
    · split <;> rfl
    · rfl
  | _ => rfl

theorem prepare_renumber (h : Renumbers σ w w') (form : ClassForm) (bases : List ClassRef) :
    prepare w' form (bases.map (ClassRef.renumber σ)) = prepare w form bases := by
  unfold prepare
  rw [World.commonMetaclass_renumber h, World.checkEnumeration_renumber h]

/-- The form of a class is completed alike. -/
theorem complete_renumber (h : Renumbers σ w w') (making : Making) (bases above : List ClassRef)
    (self : ClassRef) (body : ClassBody) (definition : ClassDefinition) (info : ClassInfo) :
    complete w' making (bases.map (ClassRef.renumber σ)) (above.map (ClassRef.renumber σ))
        (self.renumber σ) (body.renumber σ) definition (info.renumber σ) =
      (complete w making bases above self body definition info).map (ClassInfo.renumber σ) := by
  cases making with
  | tuple => exact asTuple_renumber body info
  | typedTable => exact asTypedTable_renumber h bases body info
  | enumeration => exact asEnumeration_renumber h bases self body definition.members info
  | validated =>
    apply bind_eq_map (Validated.fieldsOf_renumber h self above body _)
    intro fields
    refine congrArg Except.ok ?_
    have hattributes := Validated.attributesOf_renumber (σ := σ) fields body.names
    unfold ClassInfo.renumber
    rw [← hattributes]
    rfl
  | mapped =>
    apply bind_eq_map (Mapped.mappingOf_renumber h self above body _ _)
    intro mapping
    refine congrArg Except.ok ?_
    have hattributes := Mapped.attributesOf_renumber (σ := σ) mapping body.names
    unfold ClassInfo.renumber
    rw [← hattributes]
    rfl
  | plain => rfl

/-- What a data record adds is the same up to the numbers. -/
theorem completeRecord_renumber (h : Renumbers σ w w') (form : ClassForm) (above : List ClassRef)
    (self : ClassRef) (body : ClassBody) (info : ClassInfo) :
    completeRecord w' form (above.map (ClassRef.renumber σ)) (self.renumber σ) (body.renumber σ)
        (info.renumber σ) =
      (completeRecord w form above self body info).map (ClassInfo.renumber σ) := by
  unfold completeRecord
  split
  · rw [Record.fieldsOf_renumber h]
    cases Record.fieldsOf w self above body with
    | error f => rfl
    | ok fields =>
      refine congrArg Except.ok ?_
      unfold ClassInfo.renumber
      dsimp only
      rw [← Record.attributesOf_renumber]
      rfl
  · rfl

end TypeExport.ClassDefinition

/-!
## Definitions in worlds that mirror others

A class definition defines the same classes in a world that mirrors another one.
-/

namespace TypeExport.ClassDefinition

variable {ρ τ σ : Nat ↪ Nat} {w w' : World}

/-- What is known of the class of a body once it is made. -/
def finished (w : World) (scope : Scope) (definition : ClassDefinition) (written : List Hint)
    (bases : List ClassRef) (metaclass : String) (body : ClassBody) : Except Failure ClassInfo := do
  let making := makingOf definition.form metaclass
  let actual ← actualBases w making bases
  let frame ← w.frame written actual
  let self := ClassRef.defined w.classes.length
  let own := if World.tracksAbstract metaclass then
    definition.abstractMethods.map (Name.inClass definition.name) else []
  let metaclass := if making = .typedTable then typedTableMetaclass else metaclass
  let info := blank scope definition.name frame metaclass definition.marker self
    (abstractNames w actual frame.order metaclass body own) body
  let provisional := w.addClass info
  let info ← complete provisional making bases frame.order self body definition info
  completeRecord (provisional.putClass w.classes.length info) definition.form frame.order self
    body info

theorem run_except_bind {α β : Type} (x : Except Failure α) (k : α → Defines β) (w : World) :
    ((ExceptT.mk (pure x) : Defines α) >>= k).run.run w = match x with
      | .ok a => (k a).run.run w
      | .error f => (.error f, w) := by
  cases x <;> rfl

theorem run_ofWorld_bind {α β : Type} (x : World → Except Failure α) (k : α → Defines β)
    (w : World) : (Defines.ofWorld x >>= k).run.run w = match x w with
      | .ok a => (k a).run.run w
      | .error f => (.error f, w) := by
  rw [← run_except_bind]
  rfl

theorem run_get_bind {β : Type} (k : World → Defines β) (w : World) :
    (get >>= k).run.run w = (k w).run.run w :=
  rfl

/-- Making a class adds it to the world, or fails and leaves the world alone. -/
theorem make_run (scope : Scope) (definition : ClassDefinition) (written : List Hint)
    (bases : List ClassRef) (metaclass : String) (body : ClassBody) (w : World) :
    (make scope definition written bases metaclass body).run.run w =
      match finished w scope definition written bases metaclass body with
      | .ok info => (.ok (.defined w.classes.length), w.addClass info)
      | .error f => (.error f, w) := by
  unfold make finished
  refine (run_get_bind _ w).trans ?_
  refine (run_ofWorld_bind (fun w => actualBases w (makingOf definition.form metaclass) bases)
    _ w).trans ?_
  dsimp only
  cases actualBases w (makingOf definition.form metaclass) bases with
  | error f => rfl
  | ok actual =>
    refine (run_ofWorld_bind (fun w => w.frame written actual) _ w).trans ?_
    rw [bind_ok]
    cases w.frame written actual with
    | error f => rfl
    | ok frame =>
      rw [bind_ok]
      refine (run_except_bind _ _ w).trans ?_
      cases complete _ _ bases frame.order _ body definition _ with
      | error f => rfl
      | ok info =>
        rw [bind_ok]
        cases completeRecord _ _ frame.order _ body info <;> rfl

theorem putClass_addClass (w : World) (info info' : ClassInfo) :
    (w.addClass info).putClass w.classes.length info' = w.addClass info' := by
  unfold World.addClass World.putClass
  rw [List.set_append_right _ _ (Nat.le_refl _), Nat.sub_self]
  rfl

/-- What is known of a finished class keeps up with the numbers, its own included. -/
theorem finished_renumber (h : w.Mirrors ρ τ w')
    (hσ : AgreesBelow ρ (w.classes.length + 1) σ) (scope : Scope) (definition : ClassDefinition)
    (written : List Hint) (bases : List ClassRef) (metaclass : String) (body : ClassBody) :
    finished w' (scope.renumber σ) definition (written.map (Hint.renumber σ))
        (bases.map (ClassRef.renumber σ)) metaclass (body.renumber σ) =
      (finished w scope definition written bases metaclass body).map (ClassInfo.renumber σ) := by
  have hless : AgreesBelow ρ w.classes.length σ := h.agrees_of_le (Nat.le_succ _) hσ
  have hw := h.renumbers hless
  have hself : ClassRef.defined w'.classes.length =
      (ClassRef.defined w.classes.length).renumber σ := by
    show _ = ClassRef.defined (σ w.classes.length)
    rw [hσ.1 _ (Nat.lt_succ_self _), h.nextClass_eq]
  have hadd := h.renumbers_addClass hσ
  unfold finished
  dsimp only
  apply bind_eq_map (actualBases_renumber hw _ bases)
  intro actual
  apply bind_eq_map (World.frame_renumber hw written actual)
  intro frame
  have hblank : ∀ metaclass own, blank (scope.renumber σ) definition.name (frame.renumber σ)
        metaclass definition.marker (.defined w'.classes.length)
        (abstractNames w' (actual.map (ClassRef.renumber σ)) (frame.renumber σ).order metaclass
          (body.renumber σ) own) (body.renumber σ) =
      (blank scope definition.name frame metaclass definition.marker (.defined w.classes.length)
        (abstractNames w actual frame.order metaclass body own) body).renumber σ := by
    intro metaclass own
    rw [hself, ← blank_renumber]
    congr 1
    exact abstractNames_renumber hw actual frame.order metaclass body own
  rw [hblank, hself]
  apply bind_eq_map (complete_renumber (hadd _) _ bases frame.order _ body definition _)
  intro info
  rw [putClass_addClass, putClass_addClass]
  exact completeRecord_renumber (hadd info) definition.form frame.order _ body info

/-- An action keeps the modules and what is registered. -/
def KeepsModules {α : Type} (w : World) (_ : Except Failure α) (v : World) : Prop :=
  v.modules = w.modules ∧ v.registry = w.registry

/-- Making a class in worlds that mirror each other leaves such worlds, and the class in both. -/
theorem follows_make (h : w.Mirrors ρ τ w') {scope scope' : Scope} {definition : ClassDefinition}
    {written written' : List Hint} {bases bases' : List ClassRef} {metaclass : String}
    {body body' : ClassBody}
    (hscope : ∀ σ, AgreesBelow ρ w.classes.length σ → scope' = scope.renumber σ)
    (hwritten : ∀ σ, AgreesBelow ρ w.classes.length σ → written' = written.map (Hint.renumber σ))
    (hbases : ∀ σ, AgreesBelow ρ w.classes.length σ → bases' = bases.map (ClassRef.renumber σ))
    (hbody : ∀ σ, AgreesBelow ρ w.classes.length σ → body' = body.renumber σ) :
    Follows id ρ τ ClassRef.renumber (KeepsModules w)
      (make scope definition written bases metaclass body)
      (make scope' definition written' bases' metaclass body') w w' := by
  have hfinished : ∀ σ, AgreesBelow ρ (w.classes.length + 1) σ →
      finished w' scope' definition written' bases' metaclass body' =
        (finished w scope definition written bases metaclass body).map (ClassInfo.renumber σ) := by
    intro σ hσ
    have hless : AgreesBelow ρ w.classes.length σ := h.agrees_of_le (Nat.le_succ _) hσ
    rw [hscope σ hless, hwritten σ hless, hbases σ hless, hbody σ hless]
    exact finished_renumber h hσ scope definition written bases metaclass body
  have hrun := make_run scope definition written bases metaclass body w
  have hrun' := make_run scope' definition written' bases' metaclass body' w'
  have hρ : AgreesBelow ρ (w.classes.length + 1) ρ := h.agrees_self (Nat.le_succ _)
  cases hresult : finished w scope definition written bases metaclass body with
  | error f =>
    rw [hfinished ρ hρ] at hrun'
    rw [hresult] at hrun hrun'
    exact (follows_throw h ⟨rfl, rfl⟩).of_runs (Nat.le_refl _) hrun hrun'
  | ok info =>
    have hlength : (w.addClass info).classes.length = w.classes.length + 1 := List.length_append
    have hadd : (w.addClass info).Mirrors ρ τ (w'.addClass (info.renumber ρ)) := by
      refine h.addClass fun σ hσ => ?_
      have hsame := (hfinished ρ hρ).symm.trans (hfinished σ hσ)
      rw [hresult] at hsame
      exact Except.ok.inj hsame
    rw [hfinished ρ hρ] at hrun'
    rw [hresult] at hrun hrun'
    have hgives : Follows id ρ τ ClassRef.renumber (KeepsModules w)
        (pure (ClassRef.defined w.classes.length)) (pure (ClassRef.defined w'.classes.length))
        (w.addClass info) (w'.addClass (info.renumber ρ)) := by
      refine follows_pure hadd (fun σ hσ => ?_) ⟨rfl, rfl⟩
      show _ = ClassRef.defined (σ w.classes.length)
      rw [hσ.1 _ (hlength ▸ Nat.lt_succ_self _), h.nextClass_eq]
    exact hgives.of_runs (hlength ▸ Nat.le_succ _) hrun hrun'

mutual

/-- Defining a class, where the scopes are the same up to numbers. -/
theorem follows_define : ∀ (definition : ClassDefinition) {scope scope' : Scope} {w w' : World},
    w.Mirrors ρ τ w' →
    (∀ σ, AgreesBelow ρ w.classes.length σ → scope' = scope.renumber σ) →
    Follows id ρ τ ClassRef.renumber (KeepsModules w) (define scope definition)
      (define scope' definition) w w'
  | .mk name form bases parameters marker fields members nested abstractMethods methods table
      admitsUnmapped, scope, scope', w, w', h, hscope => by
    rw [define, define]
    refine (follows_ofWorld (f := fun σ => List.map (Hint.renumber σ)) h (fun σ hσ => ?_)
      (Q := fun _ v => w = v) rfl).bind ?_ fun _ _ hv => hv ▸ ⟨rfl, rfl⟩
    · rw [hscope σ hσ]
      exact writtenBases_renumber (h.renumbers hσ) scope form bases parameters
    rintro written _ written' w₁' - h₁ hwritten rfl
    refine (follows_ofWorld (f := fun σ => List.map (ClassRef.renumber σ)) h₁ (fun σ hσ => ?_)
      (Q := fun _ v => w = v) rfl).bind ?_ fun _ _ hv => hv ▸ ⟨rfl, rfl⟩
    · rw [hwritten σ hσ]
      exact World.resolveBases_renumber (h₁.renumbers hσ) written
    rintro resolved _ resolved' w₂' - h₂ hresolved rfl
    refine (follows_ofWorld (f := fun _ => id) h₂ (fun σ hσ => ?_)
      (Q := fun _ v => w = v) rfl).bind ?_ fun _ _ hv => hv ▸ ⟨rfl, rfl⟩
    · rw [hresolved σ hσ, Except.map_id]
      exact prepare_renumber (h₂.renumbers hσ) form resolved
    rintro metaclass _ metaclass' w₃' - h₃ hmetaclass rfl
    obtain rfl : metaclass' = metaclass := hmetaclass ρ h₃.agrees
    refine (follows_defineAll nested name h₃ (fun σ hσ => ?_)).bind ?_ fun _ _ hv => hv
    · rw [hscope σ hσ]
      rfl
    rintro inside t inside' t' hgrows ht hinside hkeeps
    have hless : ∀ {σ}, AgreesBelow ρ t.classes.length σ → AgreesBelow ρ w.classes.length σ :=
      fun hσ => h₃.agrees_of_le hgrows hσ
    refine (follows_ofWorld (f := ClassBody.renumber) ht (fun σ hσ => ?_)
      (Q := fun _ v => t = v) rfl).bind ?_ fun _ _ hv => hv ▸ hkeeps
    · rw [hscope σ (hless hσ), hinside σ hσ]
      exact ClassBody.run_renumber (ht.renumbers hσ) (scope.within name) name form inside fields
        members (abstractMethods ++ methods)
    rintro body _ body' t₁' - ht₁ hbody rfl
    exact (follows_make ht₁ (fun σ hσ => hscope σ (hless hσ)) (fun σ hσ => hwritten σ (hless hσ))
      (fun σ hσ => hresolved σ (hless hσ)) hbody).imp
      fun _ v hv => ⟨hv.1.trans hkeeps.1, hv.2.trans hkeeps.2⟩

/-- So does defining a list of classes, with the classes inside them. -/
theorem follows_defineAll : ∀ (definitions : List ClassDefinition) (owner : String)
    {scope scope' : Scope} {w w' : World}, w.Mirrors ρ τ w' →
    (∀ σ, AgreesBelow ρ w.classes.length σ → scope' = scope.renumber σ) →
    Follows id ρ τ renumberValues (KeepsModules w) (defineAll scope owner definitions)
      (defineAll scope' owner definitions) w w'
  | [], owner, scope, scope', w, w', h, hscope => by
    rw [defineAll, defineAll]
    exact follows_pure h (fun _ _ => rfl) ⟨rfl, rfl⟩
  | d :: rest, owner, scope, scope', w, w', h, hscope => by
    rw [defineAll, defineAll]
    refine (follows_define d h hscope).bind ?_ fun _ _ hv => hv
    rintro c t c' t' hgrows ht hc hkeeps
    refine (follows_defineAll rest owner ht (fun σ hσ => ?_)).bind ?_
      fun _ _ hv => ⟨hv.1.trans hkeeps.1, hv.2.trans hkeeps.2⟩
    · rw [hscope σ (h.agrees_of_le hgrows hσ), hc σ hσ]
      have hnames : renumberValues σ (scope.names ++ [(Name.inClass owner d.name, .type c)]) =
          renumberValues σ scope.names ++
            [(Name.inClass owner d.name, .type (c.renumber σ))] := List.map_append
      unfold Scope.renumber
      rw [hnames]
    rintro others u others' u' hmore hu hothers hkeeps'
    refine follows_pure hu (fun σ hσ => ?_) ⟨hkeeps'.1.trans hkeeps.1, hkeeps'.2.trans hkeeps.2⟩
    rw [hc σ (ht.agrees_of_le hmore hσ), hothers σ hσ]
    rfl

end

end TypeExport.ClassDefinition

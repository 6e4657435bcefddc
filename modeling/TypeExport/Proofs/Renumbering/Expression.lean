import TypeExport.Proofs.Renumbering.Basic

/-!
# Renumbered values of expressions

A form with arguments, and with it every expression, has the same value in a renumbered world, up to
the numbers of classes.
-/

namespace TypeExport.Hint

variable {σ : Nat ↪ Nat}

/-- Types put in place of type variables keep their numbers. -/
theorem substitute_renumber (types : List (String × Hint)) (h : Hint) :
    substitute (renumberValues σ types) (h.renumber σ) = (substitute types h).renumber σ := by
  have hall : ∀ hs : List Hint,
      (∀ h ∈ hs, substitute (renumberValues σ types) (h.renumber σ) =
        (substitute types h).renumber σ) →
      substituteAll (renumberValues σ types) (hs.map (renumber σ)) =
        (substituteAll types hs).map (renumber σ) := by
    intro hs
    induction hs with
    | nil => exact fun _ => rfl
    | cons h rest ih =>
      intro hmem
      rw [List.map_cons, substituteAll, substituteAll, List.map_cons, hmem h List.mem_cons_self,
        ih fun k hk => hmem k (List.mem_cons_of_mem _ hk)]
  induction h using parts_induction with
  | union hs native ih => simp [renumber, substitute, hall hs ih]
  | applied c hs native ih => simp [renumber, substitute, hall hs ih]
  | annotated h hs ih _ => simp [renumber, substitute, ih]
  | classVariable h ih => simp [renumber, substitute, ih]
  | final h ih => simp [renumber, substitute, ih]
  | atom h hatom =>
    cases h with
    | typeVariable name =>
      show ((renumberValues σ types).lookup name).getD _ = _
      rw [lookup_map_values, substitute]
      cases types.lookup name <;> rfl
    | _ => first
      | rfl
      | cases hatom
  | _ => rfl

theorem annotate_renumber (inner : Hint) (notes : List Hint) :
    annotate (inner.renumber σ) (notes.map (renumber σ)) = (annotate inner notes).renumber σ := by
  cases inner <;> simp [annotate, renumber]

/-- A form for functions takes arguments alike. -/
theorem callableOf_renumber (native : Bool) (arguments : List Hint) :
    callableOf native (arguments.map (renumber σ)) =
      (callableOf native arguments).map (renumber σ) := by
  rcases arguments with _ | ⟨first, _ | ⟨result, _ | ⟨third, rest⟩⟩⟩
  · rfl
  · cases first <;> rfl
  · cases native with
    | true => cases first <;> simp [callableOf, pure, Except.pure, Except.map, renumber, bind,
        Except.bind, callableClass]
    | false =>
      cases first with
      | list parameters =>
        simp only [List.map_cons, List.map_nil, renumber, renumberAll_eq_map, callableOf]
        apply bind_eq_map (asArgument_renumber false result)
        intro result
        apply bind_eq_map (mapM_asType_renumber false parameters)
        intro parameters
        simp [pure, Except.pure, Except.map, renumber, callableClass]
      | _ =>
        apply bind_eq_map (asArgument_renumber false result)
        intro result
        rfl
  · cases first <;> rfl

/-- A form for tuples takes arguments alike. -/
theorem tupleOf_renumber (arguments : List Hint) :
    tupleOf (arguments.map (renumber σ)) = (tupleOf arguments).map (renumber σ) := by
  have hall : (do
      return .applied (.standard "builtins.tuple")
        (← (arguments.map (renumber σ)).mapM (asArgument false)) false : Except Failure Hint) =
      (do
        return .applied (.standard "builtins.tuple") (← arguments.mapM (asArgument false)) false :
          Except Failure Hint).map (renumber σ) := by
    apply bind_eq_map (mapM_asArgument_renumber false arguments)
    intro arguments
    simp [pure, Except.pure, Except.map, renumber]
  unfold tupleOf
  rw [← List.map_reverse]
  rcases arguments.reverse with _ | ⟨last, _ | ⟨first, rest⟩⟩
  · exact hall
  · cases last <;> exact hall
  · cases last with
    | ellipsis =>
      have hrest := mapM_asArgument_renumber (σ := σ) false (first :: rest).reverse
      rw [List.map_reverse] at hrest
      apply bind_eq_map hrest
      intro arguments
      simp [pure, Except.pure, Except.map, renumber]
    | _ => exact hall

def variadicForms : List String := ["Union", "Literal", "Concatenate"]

def unaryForms : List String :=
  ["Optional", "ClassVar", "Final", "Required", "NotRequired", "Unpack", "TypeGuard"]

theorem applyForm_of_not {name : String} {arguments : List Hint} {several : Bool}
    (hvariadic : name ∉ variadicForms)
    (hunary : ¬ (name ∈ unaryForms ∧ arguments.length = 1 ∧ several = false)) :
    applyForm name arguments several = .error .illTyped := by
  unfold variadicForms at hvariadic
  unfold unaryForms at hunary
  unfold applyForm
  split <;> simp_all [throw, throwThe, MonadExceptOf.throw]

/-- Every form takes arguments alike, whatever their numbers. -/
theorem applyForm_renumber (name : String) (arguments : List Hint) (several : Bool) :
    applyForm name (arguments.map (renumber σ)) several =
      (applyForm name arguments several).map (renumber σ) := by
  have hone : ∀ (f : Hint → Hint) (h : Hint), (∀ h, f (h.renumber σ) = (f h).renumber σ) →
      (do return f (← asArgument false (h.renumber σ)) : Except Failure Hint) =
        (do return f (← asArgument false h) : Except Failure Hint).map (renumber σ) := by
    intro f h hf
    apply bind_eq_map (asArgument_renumber false h)
    intro h
    exact congrArg Except.ok (hf h)
  by_cases hvariadic : name ∈ variadicForms
  · simp only [variadicForms, List.mem_cons, List.not_mem_nil, or_false] at hvariadic
    obtain rfl | rfl | rfl := hvariadic
    · exact unionOf_renumber arguments
    · simp [applyForm, pure, Except.pure, Except.map, renumber]
    · simp [applyForm, pure, Except.pure, Except.map, renumber]
  · by_cases hunary : name ∈ unaryForms ∧ arguments.length = 1 ∧ several = false
    · obtain ⟨hname, hlength, rfl⟩ := hunary
      obtain ⟨h, rfl⟩ := List.length_eq_one_iff.1 hlength
      simp only [unaryForms, List.mem_cons, List.not_mem_nil, or_false] at hname
      obtain rfl | rfl | rfl | rfl | rfl | rfl | rfl := hname
      · exact unionOf_renumber [h, nullType]
      · exact hone .classVariable h fun _ => rfl
      · exact hone .final h fun _ => rfl
      · exact hone (.formed "Required" [·]) h fun _ => rfl
      · exact hone (.formed "NotRequired" [·]) h fun _ => rfl
      · exact hone (.formed "Unpack" [·]) h fun _ => rfl
      · exact hone (.formed "TypeGuard" [·]) h fun _ => rfl
    · rw [applyForm_of_not hvariadic hunary,
        applyForm_of_not hvariadic (by rwa [List.length_map])]
      rfl

/-- So does every alias. -/
theorem applyAlias_renumber (arguments : List Hint) (a : AliasForm) :
    applyAlias (arguments.map (renumber σ)) a = (applyAlias arguments a).map (renumber σ) := by
  cases a with
  | generic origin count =>
    apply bind_eq_map (mapM_asArgument_renumber false arguments)
    intro arguments
    rw [List.length_map]
    split
    · simp [pure, Except.pure, Except.map, renumber]
    · rfl
  | tuple => exact tupleOf_renumber arguments
  | callable => exact callableOf_renumber false arguments

theorem isVariable_renumber (h : Hint) : isVariable (h.renumber σ) = isVariable h := by
  cases h <;> rfl

/-- So does a hint with type variables. -/
theorem applyTypes_renumber (h : Hint) (arguments : List Hint) :
    applyTypes (h.renumber σ) (arguments.map (renumber σ)) =
      (applyTypes h arguments).map (renumber σ) := by
  unfold applyTypes
  rw [typeVariables_renumber]
  apply bind_eq_map (mapM_asArgument_renumber false arguments)
  intro arguments
  rw [List.length_map]
  split
  · rfl
  · rw [List.zip_map_right, substitute_renumber]
    rfl

section World

variable {w w' : World}

theorem isFree_renumber (c : ClassRef) : isFree (c.renumber σ) = isFree c := by
  cases c <;> rfl

theorem subscription_renumber (h : Renumbers σ w w') (c : ClassRef) :
    subscription w' (c.renumber σ) = subscription w c := by
  unfold subscription
  rw [h.derivesStandard, h.order, List.any_map]
  simp only [Function.comp_def, isFree_renumber]
  split
  · cases c with
    | standard name => rfl
    | defined i => exact congrArg Subscription.checked (congrArg _ (h.parameters (.defined i)))
  · rfl

/-- So does every class. -/
theorem applyClass_renumber (h : Renumbers σ w w') (c : ClassRef) (arguments : List Hint)
    (several : Bool) :
    applyClass w' (c.renumber σ) (arguments.map (renumber σ)) several =
      (applyClass w c arguments several).map (renumber σ) := by
  have hcallable : c.renumber σ = callableClass ↔ c = callableClass :=
    ClassRef.renumber_eq_standard_iff
  unfold applyClass
  simp only [ClassRef.renumber_eq_standard_iff, hcallable, h.isEnumeration, subscription_renumber h,
    List.isEmpty_map, List.all_map, distinct_renumber, List.length_map, Function.comp_def,
    isVariable_renumber]
  by_cases hannotated : c = .standard "typing.Annotated"
  · simp only [if_pos hannotated]
    rcases arguments with _ | ⟨inner, _ | ⟨first, rest⟩⟩
    · rfl
    · rfl
    · apply bind_eq_map (asArgument_renumber true inner)
      intro inner
      exact congrArg Except.ok (annotate_renumber inner (first :: rest))
  simp only [if_neg hannotated]
  by_cases hc : c = callableClass
  · simp only [if_pos hc]
    exact callableOf_renumber true arguments
  simp only [if_neg hc]
  split
  · split
    · rfl
    · simp [pure, Except.pure, Except.map, renumber]
  split
  · rcases arguments with _ | ⟨first, _ | ⟨second, rest⟩⟩
    · rfl
    · cases first with
      | text name =>
        cases several with
        | false =>
          simp only [List.map_cons, List.map_nil, renumber, h.attribute?, Option.isSome_map]
          split <;> rfl
        | true => rfl
      | _ => rfl
    · cases first <;> rfl
  split
  · rfl
  · simp [pure, Except.pure, Except.map, renumber]
  · apply bind_eq_map (mapM_asType_renumber false arguments)
    intro arguments
    rw [List.length_map]
    split
    · simp [pure, Except.pure, Except.map, renumber]
    · rfl

/-- Arguments in brackets behind a hint are taken alike. -/
theorem subscript_renumber (h : Renumbers σ w w') (head : Hint) (arguments : List Hint)
    (several : Bool) :
    subscript w' (head.renumber σ) (arguments.map (renumber σ)) several =
      (subscript w head arguments several).map (renumber σ) := by
  cases head with
  | form name => exact applyForm_renumber name arguments several
  | «alias» a => exact applyAlias_renumber arguments a
  | type c => exact applyClass_renumber h c arguments several
  | applied c hs native => exact applyTypes_renumber (.applied c hs native) arguments
  | union hs native => exact applyTypes_renumber (.union hs native) arguments
  | annotated inner notes => exact applyTypes_renumber (.annotated inner notes) arguments
  | classVariable inner => exact applyTypes_renumber (.classVariable inner) arguments
  | final inner => exact applyTypes_renumber (.final inner) arguments
  | _ => rfl

end World

end TypeExport.Hint

/-!
## Names with the same meanings

An expression has the same value in a renumbered world if its names have the same meanings there, up
to the numbers of classes.
-/

namespace TypeExport

/-- Names mean the same up to the numbers of classes. -/
def RenumbersMeanings (σ : Nat ↪ Nat) (lookup lookup' : String → Option Hint) : Prop :=
  ∀ name, lookup' name = (lookup name).map (Hint.renumber σ)

variable {σ : Nat ↪ Nat} {w w' : World} {lookup lookup' : String → Option Hint}

namespace Expr

theorem hintOfName_renumber (name : String) (n : StandardName) :
    (hintOfName name n).renumber σ = hintOfName name n := by
  cases n <;> rfl

theorem builtIn?_renumber (name : String) :
    (builtIn? name).map (Hint.renumber σ) = builtIn? name := by
  unfold builtIn?
  split
  · rfl
  · cases StandardName.find? "builtins" name with
    | none => rfl
    | some n => exact congrArg some (hintOfName_renumber name n)

/-- The value behind a point keeps up with the numbers. -/
theorem attributeOf_renumber (h : Renumbers σ w w') (owner : Hint) (id : String) :
    attributeOf w' (owner.renumber σ) id = (attributeOf w owner id).map (Hint.renumber σ) := by
  cases owner with
  | module m =>
    show attributeOf w' (.module m) id = _
    unfold attributeOf
    dsimp only
    rw [h.lookup_names]
    cases (w.names m).lookup id with
    | some v => rfl
    | none =>
      cases StandardName.find? m id with
      | none => rfl
      | some n => exact congrArg Except.ok (hintOfName_renumber id n).symm
  | type c =>
    show attributeOf w' (.type (c.renumber σ)) id = _
    unfold attributeOf
    dsimp only
    rw [h.attribute?, h.shortName]
    cases w.attribute? c id <;> rfl
  | _ => rfl

theorem isNumber_renumber (h : Hint) : isNumber (h.renumber σ) = isNumber h := by
  cases h <;> rfl

theorem isZero_renumber (h : Hint) : isZero (h.renumber σ) = isZero h := by
  cases h <;> rfl

theorem renumber_eq_text_iff {h : Hint} {s : String} :
    h.renumber σ = .text s ↔ h = .text s := by
  cases h <;> simp [Hint.renumber]

/-- An operator other than `|` does not look into its operands, unless two texts are added. -/
theorem combine_of_ne {op : Operator} {a b : Hint} :
    op ≠ .alternative → (∀ s t, op = .add → a = .text s → b ≠ .text t) → combine op a b =
      if isNumber a && isNumber b then
        if divides op && isZero b then .error .zeroDivision else .ok .other
      else
        match a, b with
        | .other, _ | _, .other | .valueOf _, _ | _, .valueOf _ => .ok .other
        | _, _ => .error .illTyped := by
  intro halternative hadd
  unfold combine
  split
  · exact absurd rfl halternative
  · exact absurd rfl (hadd _ _ rfl rfl)
  · rfl

/-- So does the value of two operands. -/
theorem combine_renumber (op : Operator) (a b : Hint) :
    combine op (a.renumber σ) (b.renumber σ) = (combine op a b).map (Hint.renumber σ) := by
  by_cases halternative : op = .alternative
  · rw [halternative]
    exact Hint.alternative_renumber a b
  by_cases hadd : ∀ s t, op = .add → a = .text s → b ≠ .text t
  · rw [combine_of_ne halternative hadd, combine_of_ne halternative (by
      intro s t
      rw [renumber_eq_text_iff, ne_eq, renumber_eq_text_iff]
      exact hadd s t), isNumber_renumber, isNumber_renumber, isZero_renumber]
    split
    · split <;> rfl
    · cases a <;> first
        | rfl
        | (cases b <;> rfl)
  · push Not at hadd
    obtain ⟨s, t, rfl, rfl, rfl⟩ := hadd
    rfl

/-- So does the value of a call. -/
theorem callOf_renumber (f : Hint) (arguments : List Hint) :
    callOf (f.renumber σ) (arguments.map (Hint.renumber σ)) =
      (callOf f arguments).map (Hint.renumber σ) := by
  cases f with
  | type c =>
    cases c with
    | defined i => rfl
    | standard name =>
      show callOf (.type (.standard name)) _ = _
      by_cases hreference : name = "typegen.markers.ForeignKey"
      · subst hreference
        rcases arguments with _ | ⟨first, _ | ⟨second, rest⟩⟩
        · rfl
        · cases first with
          | constant v => cases v <;> rfl
          | _ => rfl
        · cases first with
          | constant v => cases v <;> rfl
          | _ => rfl
      by_cases hignore : name = "typegen.markers.JsonIgnore"
      · subst hignore
        cases arguments <;> rfl
      have hother : ∀ arguments : List Hint, callOf (.type (.standard name)) arguments =
          .ok (.valueOf (.standard name)) := by
        intro arguments
        unfold callOf
        split <;> simp_all
      rw [hother, hother]
      rfl
  | _ => rfl

theorem indexItems_renumber (h : Hint) :
    indexItems (h.renumber σ) =
      ((indexItems h).1.map (Hint.renumber σ), (indexItems h).2) := by
  cases h <;> simp [indexItems, Hint.renumber]

mutual

/-- Where names mean the same up to the numbers of classes, so do expressions. -/
theorem evaluate_renumber (h : Renumbers σ w w') (hlookup : RenumbersMeanings σ lookup lookup') :
    ∀ e : Expr, e.evaluate w' lookup' = (e.evaluate w lookup).map (Hint.renumber σ)
  | .name id => by
    rw [evaluate, evaluate, hlookup id]
    cases lookup id <;> rfl
  | .attribute owner id => by
    rw [evaluate, evaluate]
    exact bind_eq_map (evaluate_renumber h hlookup owner) fun owner =>
      attributeOf_renumber h owner id
  | .subscript owner index => by
    rw [evaluate, evaluate]
    apply bind_eq_map (evaluate_renumber h hlookup owner)
    intro owner
    apply bind_eq_map (evaluate_renumber h hlookup index)
    intro index
    rw [indexItems_renumber]
    exact Hint.subscript_renumber h owner _ _
  | .call f arguments => by
    rw [evaluate, evaluate]
    apply bind_eq_map (evaluate_renumber h hlookup f)
    intro f
    exact bind_eq_map (evaluateAll_renumber h hlookup arguments) (callOf_renumber f)
  | .binary op left right => by
    rw [evaluate, evaluate]
    apply bind_eq_map (evaluate_renumber h hlookup left)
    intro left
    exact bind_eq_map (evaluate_renumber h hlookup right) (combine_renumber op left)
  | .negative operand => by
    rw [evaluate, evaluate]
    apply bind_eq_map (evaluate_renumber h hlookup operand)
    intro operand
    rw [isNumber_renumber]
    split <;> rfl
  | .constant v => by
    cases v <;> rfl
  | .ellipsis => rfl
  | .list items => by
    rw [evaluate, evaluate]
    apply bind_eq_map (evaluateAll_renumber h hlookup items)
    intro items
    simp [pure, Except.pure, Except.map, Hint.renumber]
  | .tuple items => by
    rw [evaluate, evaluate]
    apply bind_eq_map (evaluateAll_renumber h hlookup items)
    intro items
    simp [pure, Except.pure, Except.map, Hint.renumber]
  | .function => rfl
  | .display keyed => rfl

theorem evaluateAll_renumber (h : Renumbers σ w w') (hlookup : RenumbersMeanings σ lookup lookup') :
    ∀ es : List Expr, evaluateAll w' lookup' es =
      (evaluateAll w lookup es).map (List.map (Hint.renumber σ))
  | [] => rfl
  | e :: rest => by
    rw [evaluateAll, evaluateAll]
    apply bind_eq_map (evaluate_renumber h hlookup e)
    intro first
    apply bind_eq_map (evaluateAll_renumber h hlookup rest)
    intro more
    rfl

end

end Expr

namespace Hint

theorem openTexts_renumber (native : Bool) (arguments : List Hint) :
    openTexts native (arguments.map (renumber σ)) =
      (openTexts native arguments).map (List.map (renumber σ)) := by
  cases native with
  | false => rfl
  | true =>
    apply mapM_eq_map
    intro h _
    cases h with
    | text s => exact (forwardOf_map σ s false).symm
    | _ => rfl

/-- Where names mean the same up to the numbers of classes, so do hints with texts in them. -/
theorem resolveFrom_renumber (h : Renumbers σ w w') (hlookup : RenumbersMeanings σ lookup lookup')
    (depth : Nat) : ∀ (guard : List String) (hint : Hint),
      resolveFrom w' lookup' depth guard (hint.renumber σ) =
        (resolveFrom w lookup depth guard hint).map (renumber σ) := by
  induction depth with
  | zero => exact fun _ _ => rfl
  | succ depth ih =>
    intro guard hint
    have hparts : ∀ hs : List Hint, (hs.map (renumber σ)).mapM (resolveFrom w' lookup' depth guard) =
        (hs.mapM (resolveFrom w lookup depth guard)).map (List.map (renumber σ)) :=
      fun hs => mapM_eq_map fun h _ => ih guard h
    cases hint with
    | forward s special =>
      show resolveFrom w' lookup' (depth + 1) guard (.forward s special) = _
      rw [resolveFrom, resolveFrom]
      split
      · rfl
      · cases Expr.read? s with
        | none => rfl
        | some e =>
          apply bind_eq_map (Expr.evaluate_renumber h hlookup e)
          intro value
          exact bind_eq_map (asArgument_renumber special value) (ih (s :: guard))
    | union members native =>
      simp only [renumber, renumberAll_eq_map, resolveFrom]
      exact bind_eq_map (hparts members) (joinTypes_renumber native)
    | applied origin arguments native =>
      simp only [renumber, renumberAll_eq_map, resolveFrom]
      apply bind_eq_map (openTexts_renumber native arguments)
      intro opened
      apply bind_eq_map (hparts opened)
      intro resolved
      simp [pure, Except.pure, Except.map, renumber]
    | formed name arguments =>
      simp only [renumber, renumberAll_eq_map, resolveFrom]
      apply bind_eq_map (hparts arguments)
      intro resolved
      simp [pure, Except.pure, Except.map, renumber]
    | annotated inner notes =>
      simp only [renumber, renumberAll_eq_map, resolveFrom]
      apply bind_eq_map (ih guard inner)
      intro inner
      exact congrArg Except.ok (annotate_renumber inner notes)
    | classVariable inner => exact bind_eq_map (ih guard inner) fun _ => rfl
    | final inner => exact bind_eq_map (ih guard inner) fun _ => rfl
    | _ => rfl

theorem resolve_renumber (h : Renumbers σ w w') (hlookup : RenumbersMeanings σ lookup lookup')
    (hint : Hint) :
    resolve w' lookup' (hint.renumber σ) = (resolve w lookup hint).map (renumber σ) :=
  resolveFrom_renumber h hlookup resolutionDepth [] hint

theorem ofAnnotation_renumber (h : Renumbers σ w w') (hlookup : RenumbersMeanings σ lookup lookup')
    (hint : Hint) :
    ofAnnotation w' lookup' (hint.renumber σ) =
      ( ofAnnotation w lookup hint).map (renumber σ) :=
  bind_eq_map (asType_renumber true hint) (resolve_renumber h hlookup)

end Hint

end TypeExport

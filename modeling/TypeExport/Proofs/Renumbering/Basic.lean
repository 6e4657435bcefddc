import Mathlib.Data.List.Basic
import Mathlib.Logic.Embedding.Basic
import TypeExport.Class.Definition
import TypeExport.Class.Relations

/-!
# Renumbered classes

The classes of a world are known by number.  Another world may have the same classes under other
numbers; what is said about classes is then the same up to the numbers.
-/

namespace TypeExport

namespace ClassRef

variable {σ : Nat ↪ Nat} {c d : ClassRef} {name : String}

/-- The class under its other number. -/
def renumber (σ : Nat ↪ Nat) : ClassRef → ClassRef
  | .standard fullName => .standard fullName
  | .defined index => .defined (σ index)

@[simp] theorem renumber_standard : (standard name).renumber σ = .standard name :=
  rfl

@[simp] theorem renumber_inj : c.renumber σ = d.renumber σ ↔ c = d := by
  cases c <;> cases d <;> simp [renumber]

@[simp] theorem renumber_eq_standard_iff : c.renumber σ = .standard name ↔ c = .standard name := by
  cases c <;> simp [renumber]

@[simp] theorem renumber_beq_renumber : (c.renumber σ == d.renumber σ) = (c == d) := by
  rw [Bool.eq_iff_iff, beq_iff_eq, beq_iff_eq, renumber_inj]

@[simp] theorem renumber_beq_standard : (c.renumber σ == .standard name) = (c == .standard name) := by
  rw [Bool.eq_iff_iff, beq_iff_eq, beq_iff_eq, renumber_eq_standard_iff]

theorem renumber_injective (σ : Nat ↪ Nat) : Function.Injective (renumber σ) :=
  fun _ _ => renumber_inj.1

end ClassRef

namespace Hint

mutual

/-- The hint with its classes under other numbers. -/
def renumber (σ : Nat ↪ Nat) : Hint → Hint
  | .type c => .type (c.renumber σ)
  | .union members native => .union (renumberAll σ members) native
  | .applied origin arguments native =>
    .applied (origin.renumber σ) (renumberAll σ arguments) native
  | .formed name arguments => .formed name (renumberAll σ arguments)
  | .annotated inner notes => .annotated (renumber σ inner) (renumberAll σ notes)
  | .classVariable inner => .classVariable (renumber σ inner)
  | .final inner => .final (renumber σ inner)
  | .newType name base => .newType name (renumber σ base)
  | .list items => .list (renumberAll σ items)
  | .tuple items => .tuple (renumberAll σ items)
  | .valueOf c => .valueOf (c.renumber σ)
  | h => h

def renumberAll (σ : Nat ↪ Nat) : List Hint → List Hint
  | [] => []
  | h :: rest => renumber σ h :: renumberAll σ rest

end

@[simp] theorem renumberAll_eq_map (σ : Nat ↪ Nat) (hs : List Hint) :
    renumberAll σ hs = hs.map (renumber σ) := by
  induction hs with
  | nil => rfl
  | cons h rest ih => rw [renumberAll, List.map_cons, ih]

/-- Whether a hint neither is nor has a class or a part. -/
def isAtom : Hint → Bool
  | .type _ | .union _ _ | .applied _ _ _ | .formed _ _ | .annotated _ _ | .classVariable _ => false
  | .final _ | .newType _ _ | .list _ | .tuple _ | .valueOf _ => false
  | _ => true

/-- What holds of a hint if it holds of its parts. -/
theorem parts_induction {P : Hint → Prop}
    (type : ∀ c, P (.type c)) (union : ∀ hs native, (∀ h ∈ hs, P h) → P (.union hs native))
    (applied : ∀ c hs native, (∀ h ∈ hs, P h) → P (.applied c hs native))
    (formed : ∀ name hs, (∀ h ∈ hs, P h) → P (.formed name hs))
    (annotated : ∀ h hs, P h → (∀ h ∈ hs, P h) → P (.annotated h hs))
    (classVariable : ∀ h, P h → P (.classVariable h)) (final : ∀ h, P h → P (.final h))
    (newType : ∀ name h, P h → P (.newType name h)) (list : ∀ hs, (∀ h ∈ hs, P h) → P (.list hs))
    (tuple : ∀ hs, (∀ h ∈ hs, P h) → P (.tuple hs)) (valueOf : ∀ c, P (.valueOf c))
    (atom : ∀ h, h.isAtom = true → P h) (h : Hint) : P h := by
  induction h using Hint.rec (motive_2 := fun hs => ∀ h ∈ hs, P h) with
  | type c => exact type c
  | union hs native ih => exact union hs native ih
  | applied c hs native ih => exact applied c hs native ih
  | formed name hs ih => exact formed name hs ih
  | annotated h hs ih ihs => exact annotated h hs ih ihs
  | classVariable h ih => exact classVariable h ih
  | final h ih => exact final h ih
  | newType name h ih => exact newType name h ih
  | list hs ih => exact list hs ih
  | tuple hs ih => exact tuple hs ih
  | valueOf c => exact valueOf c
  | nil h hmem => cases hmem
  | cons first rest ih ihs h hmem => exact List.forall_mem_cons.2 ⟨ih, ihs⟩ h hmem
  | _ => exact atom _ rfl

end Hint

section Data

variable (σ : Nat ↪ Nat)

/-- The values of names, with their classes under other numbers. -/
abbrev renumberValues (l : List (String × Hint)) : List (String × Hint) :=
  l.map (Prod.map id (Hint.renumber σ))

def ValidatedField.renumber (f : ValidatedField) : ValidatedField :=
  { f with hint := f.hint.renumber σ, notes := f.notes.map (Hint.renumber σ) }

def Relation.renumber (r : Relation) : Relation :=
  { r with typeHint := r.typeHint.renumber σ }

def Mapping.renumber (m : Mapping) : Mapping :=
  { m with base := m.base.renumber σ, relations := m.relations.map (Relation.renumber σ) }

def ClassInfo.renumber (info : ClassInfo) : ClassInfo :=
  { info with
    order := info.order.map (ClassRef.renumber σ)
    storage := info.storage.renumber σ
    annotations := renumberValues σ info.annotations
    attributes := renumberValues σ info.attributes
    validatedFields := info.validatedFields.map (List.map (ValidatedField.renumber σ))
    mapping := info.mapping.map (Mapping.renumber σ) }

def ImportedModule.renumber (m : ImportedModule) : ImportedModule :=
  { m with names := renumberValues σ m.names }

def BodyValue.renumber : BodyValue → BodyValue
  | .hint h => .hint (h.renumber σ)
  | .record standard hasFactory ignored =>
    .record (standard.map (Hint.renumber σ)) hasFactory ignored
  | v => v

def ClassBody.renumber (body : ClassBody) : ClassBody :=
  { names := body.names.map (Prod.map id (BodyValue.renumber σ))
    annotations := renumberValues σ body.annotations }

def Scope.renumber (scope : Scope) : Scope :=
  { scope with names := renumberValues σ scope.names }

def ClassFrame.renumber (frame : ClassFrame) : ClassFrame :=
  { frame with
    order := frame.order.map (ClassRef.renumber σ)
    storage := frame.storage.map (ClassRef.renumber σ) }

end Data

/-- The second world knows the classes and the names of the first one under other numbers.  It may
know more classes, which are mapped on bases of their own. -/
structure Renumbers (σ : Nat ↪ Nat) (w w' : World) : Prop where
  info : ∀ c, w'.info? (c.renumber σ) = (w.info? c).map (ClassInfo.renumber σ)
  names : ∀ name, w'.names name = renumberValues σ (w.names name)
  mappedOn : ∀ base, Relations.mappedOn w' (base.renumber σ) =
    (Relations.mappedOn w base).map (Prod.map (ClassRef.renumber σ) (Mapping.renumber σ))

/-!
## Classes of a renumbered world

What a world says about a class, the renumbered world says about the class under its other number.
-/

section Lists

variable {α β γ : Type}

theorem lookup_map_values [BEq α] (f : β → γ) (l : List (α × β)) (a : α) :
    (l.map (Prod.map id f)).lookup a = (l.lookup a).map f := by
  induction l with
  | nil => rfl
  | cons entry rest ih =>
    obtain ⟨k, v⟩ := entry
    rw [List.map_cons, Prod.map_apply, id_eq, List.lookup_cons, List.lookup_cons, ih]
    cases a == k <;> rfl

theorem Keyed.put_map_values [DecidableEq α] (f : β → γ) (l : List (α × β)) (a : α) (b : β) :
    Keyed.put a (f b) (l.map (Prod.map id f)) = (Keyed.put a b l).map (Prod.map id f) := by
  induction l with
  | nil => rfl
  | cons entry rest ih =>
    obtain ⟨k, v⟩ := entry
    rw [List.map_cons, Prod.map_apply, id_eq, Keyed.put, Keyed.put, ih]
    split <;> rfl

theorem Keyed.putAll_map_values [DecidableEq α] (f : β → γ) (entries l : List (α × β)) :
    Keyed.putAll (entries.map (Prod.map id f)) (l.map (Prod.map id f)) =
      (Keyed.putAll entries l).map (Prod.map id f) := by
  unfold Keyed.putAll
  induction entries generalizing l with
  | nil => rfl
  | cons entry rest ih =>
    rw [List.map_cons, List.foldl_cons, List.foldl_cons, ← ih]
    exact congrArg (List.foldl _ · _) (Keyed.put_map_values f l entry.1 entry.2)

/-- What is picked from a changed list, if it does not depend on the change. -/
theorem filterMap_map_of_eq {f : α → α} {g : α → Option β} (h : ∀ a, g (f a) = g a) (l : List α) :
    (l.map f).filterMap g = l.filterMap g := by
  rw [List.filterMap_map]
  exact congrArg (List.filterMap · l) (funext h)

theorem filter_map_of_eq {f : α → α} {p : α → Bool} (h : ∀ a, p (f a) = p a) (l : List α) :
    (l.map f).filter p = (l.filter p).map f := by
  rw [List.filter_map]
  exact congrArg (fun p => (List.filter p l).map f) (funext h)

end Lists

namespace Renumbers

variable {σ : Nat ↪ Nat} {w w' : World}

theorem fullName (h : Renumbers σ w w') (c : ClassRef) :
    w'.fullName (c.renumber σ) = w.fullName c := by
  cases c with
  | standard name => rfl
  | defined i =>
    unfold World.fullName
    rw [h.info]
    cases w.info? (.defined i) <;> rfl

theorem shortName (h : Renumbers σ w w') (c : ClassRef) :
    w'.shortName (c.renumber σ) = w.shortName c := by
  cases c with
  | standard name => rfl
  | defined i =>
    unfold World.shortName
    rw [h.info]
    cases w.info? (.defined i) <;> rfl

theorem moduleName (h : Renumbers σ w w') (c : ClassRef) :
    w'.moduleName (c.renumber σ) = w.moduleName c := by
  cases c with
  | standard name => rfl
  | defined i =>
    unfold World.moduleName
    rw [h.info]
    cases w.info? (.defined i) <;> rfl

theorem metaclass (h : Renumbers σ w w') (c : ClassRef) :
    w'.metaclass (c.renumber σ) = w.metaclass c := by
  cases c with
  | standard name => rfl
  | defined i =>
    unfold World.metaclass
    rw [h.info]
    cases w.info? (.defined i) <;> rfl

theorem storage (h : Renumbers σ w w') (c : ClassRef) :
    w'.storage (c.renumber σ) = (w.storage c).renumber σ := by
  cases c with
  | standard name => rfl
  | defined i =>
    unfold World.storage
    rw [h.info]
    cases w.info? (.defined i) <;> rfl

theorem isProtocol (h : Renumbers σ w w') (c : ClassRef) :
    w'.isProtocol (c.renumber σ) = w.isProtocol c := by
  cases c with
  | standard name => rfl
  | defined i =>
    unfold World.isProtocol
    rw [h.info]
    cases w.info? (.defined i) <;> rfl

theorem abstractMethods (h : Renumbers σ w w') (c : ClassRef) :
    w'.abstractMethods (c.renumber σ) = w.abstractMethods c := by
  cases c with
  | standard name => rfl
  | defined i =>
    unfold World.abstractMethods
    rw [h.info]
    cases w.info? (.defined i) <;> rfl

/-- The linearisation of a class keeps up with the numbers. -/
theorem order (h : Renumbers σ w w') (c : ClassRef) :
    w'.order (c.renumber σ) = (w.order c).map (ClassRef.renumber σ) := by
  cases c with
  | standard name =>
    unfold World.order
    rw [ClassRef.renumber_standard]
    dsimp only
    split
    · rfl
    · simp [World.objectClass, Function.comp_def]
  | defined i =>
    unfold World.order
    rw [h.info]
    cases w.info? (.defined i) <;> rfl

/-- What is read off the info of a class is the same if renumbering leaves it alone. -/
theorem map_info {α : Type} (h : Renumbers σ w w') {f : ClassInfo → α}
    (hf : ∀ info, f (info.renumber σ) = f info) (c : ClassRef) :
    (w'.info? (c.renumber σ)).map f = (w.info? c).map f := by
  rw [h.info]
  cases w.info? c with
  | none => rfl
  | some info => exact congrArg some (hf info)

theorem parameters (h : Renumbers σ w w') (c : ClassRef) :
    w'.parameters (c.renumber σ) = w.parameters c := by
  unfold World.parameters
  rw [h.map_info fun _ => rfl]

theorem attributes (h : Renumbers σ w w') (c : ClassRef) :
    w'.attributes (c.renumber σ) = renumberValues σ (w.attributes c) := by
  unfold World.attributes
  rw [h.info]
  cases w.info? c <;> rfl

theorem annotations (h : Renumbers σ w w') (c : ClassRef) :
    w'.annotations (c.renumber σ) = renumberValues σ (w.annotations c) := by
  unfold World.annotations
  rw [h.info]
  cases w.info? c <;> rfl

theorem validatedFields (h : Renumbers σ w w') (c : ClassRef) :
    w'.validatedFields (c.renumber σ) =
      (w.validatedFields c).map (ValidatedField.renumber σ) := by
  unfold World.validatedFields
  rw [h.info]
  cases w.info? c with
  | none => rfl
  | some info =>
    show (info.validatedFields.map (List.map (ValidatedField.renumber σ))).getD [] = _
    cases hfields : info.validatedFields <;> simp [hfields]

theorem mapping? (h : Renumbers σ w w') (c : ClassRef) :
    w'.mapping? (c.renumber σ) = (w.mapping? c).map (Mapping.renumber σ) := by
  unfold World.mapping?
  rw [h.info]
  cases w.info? c <;> rfl

theorem derives (h : Renumbers σ w w') (c ancestor : ClassRef) :
    w'.derives (c.renumber σ) (ancestor.renumber σ) = w.derives c ancestor := by
  unfold World.derives
  rw [h.order, Bool.eq_iff_iff, List.contains_iff_mem, List.contains_iff_mem,
    List.mem_map_of_injective (ClassRef.renumber_injective σ)]

theorem derivesStandard (h : Renumbers σ w w') (c : ClassRef) (name : String) :
    w'.derivesStandard (c.renumber σ) name = w.derivesStandard c name :=
  h.derives c (.standard name)

theorem isEnumeration (h : Renumbers σ w w') (c : ClassRef) :
    w'.isEnumeration (c.renumber σ) = w.isEnumeration c :=
  h.derivesStandard c _

theorem isValidated (h : Renumbers σ w w') (c : ClassRef) :
    w'.isValidated (c.renumber σ) = w.isValidated c :=
  h.derivesStandard c _

theorem lookup_attributes (h : Renumbers σ w w') (c : ClassRef) (name : String) :
    (w'.attributes (c.renumber σ)).lookup name =
      ((w.attributes c).lookup name).map (Hint.renumber σ) := by
  rw [h.attributes, lookup_map_values]

theorem lookup_names (h : Renumbers σ w w') (m name : String) :
    (w'.names m).lookup name = ((w.names m).lookup name).map (Hint.renumber σ) := by
  rw [h.names, lookup_map_values]

theorem attribute? (h : Renumbers σ w w') (c : ClassRef) (name : String) :
    w'.attribute? (c.renumber σ) name = (w.attribute? c name).map (Hint.renumber σ) := by
  unfold World.attribute?
  rw [h.order, List.findSome?_map, List.map_findSome?]
  exact congrArg (List.findSome? · _) (funext fun k => h.lookup_attributes k name)

theorem recordFields? (h : Renumbers σ w w') (c : ClassRef) :
    w'.recordFields? (c.renumber σ) = w.recordFields? c := by
  unfold World.recordFields?
  rw [h.order, List.findSome?_map]
  refine congrArg (List.findSome? · _) (funext fun k => ?_)
  show (w'.info? (k.renumber σ)).bind _ = _
  rw [h.info]
  cases w.info? k <;> rfl

end Renumbers

/-!
## Renumbered hints

Forms take their arguments apart and put them together without a look at the numbers of classes.
-/

section Results

variable {ε α α' β β' : Type} {f : α → α'} {k : β → β'}

/-- Steps that go on alike after results that are alike. -/
theorem bind_eq_map {x : Except ε α} {x' : Except ε α'} {g : α → Except ε β}
    {g' : α' → Except ε β'} (hx : x' = x.map f) (hg : ∀ a, g' (f a) = (g a).map k) :
    x' >>= g' = (x >>= g).map k := by
  subst hx
  cases x with
  | error e => rfl
  | ok a => exact hg a

theorem mapM_eq_map {l : List α} {g : α → Except ε β} {g' : α' → Except ε β'}
    (hg : ∀ a ∈ l, g' (f a) = (g a).map k) : (l.map f).mapM g' = (l.mapM g).map (List.map k) := by
  induction l with
  | nil => rfl
  | cons a rest ih =>
    rw [List.map_cons, List.mapM_cons, List.mapM_cons]
    apply bind_eq_map (hg a List.mem_cons_self)
    intro b
    apply bind_eq_map (ih fun a ha => hg a (List.mem_cons_of_mem _ ha))
    intro bs
    rfl

theorem foldlM_eq_map {γ γ' : Type} {e : γ → γ'} {l : List γ} {g : α → γ → Except ε α}
    {g' : α' → γ' → Except ε α'} (hg : ∀ a, ∀ c ∈ l, g' (f a) (e c) = (g a c).map f) (a : α) :
    (l.map e).foldlM g' (f a) = (l.foldlM g a).map f := by
  induction l generalizing a with
  | nil => rfl
  | cons c rest ih =>
    rw [List.map_cons, List.foldlM_cons, List.foldlM_cons]
    apply bind_eq_map (hg a c List.mem_cons_self)
    exact fun b => ih (fun a c hc => hg a c (List.mem_cons_of_mem _ hc)) b

end Results

namespace Hint

variable {σ : Nat ↪ Nat}

theorem forwardOf_map (σ : Nat ↪ Nat) (s : String) (special : Bool) :
    (forwardOf s special).map (renumber σ) = forwardOf s special := by
  unfold forwardOf
  split
  · rfl
  · split <;> rfl

theorem asType_renumber (special : Bool) (h : Hint) :
    asType special (h.renumber σ) = (asType special h).map (renumber σ) := by
  cases h with
  | constant v => cases v <;> rfl
  | text s => exact (forwardOf_map σ s special).symm
  | _ => rfl

theorem isArgument_renumber (special : Bool) (h : Hint) :
    isArgument special (h.renumber σ) = isArgument special h := by
  cases h with
  | type c => cases c <;> rfl
  | applied c arguments native => cases c <;> rfl
  | annotated inner notes => cases inner <;> rfl
  | _ => rfl

theorem asArgument_renumber (special : Bool) (h : Hint) :
    asArgument special (h.renumber σ) = (asArgument special h).map (renumber σ) := by
  apply bind_eq_map (asType_renumber special h)
  intro h
  rw [isArgument_renumber]
  split <;> rfl

theorem mapM_asArgument_renumber (special : Bool) (hs : List Hint) :
    (hs.map (renumber σ)).mapM (asArgument special) =
      (hs.mapM (asArgument special)).map (List.map (renumber σ)) :=
  mapM_eq_map fun h _ => asArgument_renumber special h

theorem mapM_asType_renumber (special : Bool) (hs : List Hint) :
    (hs.map (renumber σ)).mapM (asType special) =
      (hs.mapM (asType special)).map (List.map (renumber σ)) :=
  mapM_eq_map fun h _ => asType_renumber special h

theorem isNullType_renumber (h : Hint) : (h.renumber σ).isNullType = h.isNullType := by
  cases h with
  | type c => cases c <;> rfl
  | _ => rfl

theorem unionMembers_renumber (h : Hint) :
    unionMembers (h.renumber σ) = (unionMembers h).map (renumber σ) := by
  cases h with
  | union members native => exact renumberAll_eq_map σ members
  | _ => rfl

theorem isList_renumber (h : Hint) : isList (h.renumber σ) = isList h := by
  cases h <;> rfl

/-- Hints are the same under other numbers just if they were the same. -/
theorem same_renumber (a b : Hint) : same (a.renumber σ) (b.renumber σ) = same a b := by
  have hall : ∀ as bs : List Hint,
      (∀ a ∈ as, ∀ b, same (a.renumber σ) (b.renumber σ) = same a b) →
      sameAll (renumberAll σ as) (renumberAll σ bs) = sameAll as bs := by
    intro as
    induction as with
    | nil =>
      intro bs _
      cases bs <;> rfl
    | cons a as ih =>
      intro bs h
      cases bs with
      | nil => rfl
      | cons b bs =>
        rw [renumberAll, renumberAll, sameAll, sameAll, h a List.mem_cons_self b,
          ih bs fun a ha => h a (List.mem_cons_of_mem _ ha)]
  -- hints of two forms are different on both sides
  induction a using parts_induction generalizing b with
  | type c =>
    cases b with
    | type d => exact ClassRef.renumber_beq_renumber
    | _ => rfl
  | union as native ih =>
    cases b with
    | union bs native' => exact hall as bs ih
    | _ => rfl
  | applied c as native ih =>
    cases b with
    | applied d bs native' =>
      show (_ && _ && _) = (_ && _ && _)
      rw [ClassRef.renumber_beq_renumber, hall as bs ih]
    | _ => rfl
  | formed name as ih =>
    cases b with
    | formed name' bs => exact congrArg (name == name' && ·) (hall as bs ih)
    | _ => rfl
  | annotated a as iha ih =>
    cases b with
    | annotated b bs =>
      show (_ && _) = (_ && _)
      rw [iha b, hall as bs ih]
    | _ => rfl
  | classVariable a ih =>
    cases b with
    | classVariable b => exact ih b
    | _ => rfl
  | final a ih =>
    cases b with
    | final b => exact ih b
    | _ => rfl
  | newType name a ih =>
    cases b with
    | newType name' b => exact congrArg (name == name' && ·) (ih b)
    | _ => rfl
  | list as ih =>
    cases b with
    | list bs => exact hall as bs ih
    | _ => rfl
  | tuple as ih =>
    cases b with
    | tuple bs => exact hall as bs ih
    | _ => rfl
  | valueOf c => cases b <;> rfl
  | atom a h =>
    cases a <;> first
      | (cases b <;> rfl)
      | cases h

theorem distinct_renumber (hs : List Hint) :
    distinct (hs.map (renumber σ)) = (distinct hs).map (renumber σ) := by
  induction hs with
  | nil => rfl
  | cons h rest ih =>
    rw [List.map_cons, distinct, distinct, ih, List.map_cons, List.filter_map]
    simp only [Function.comp_def, same_renumber]

/-- A union keeps up with the numbers of its members. -/
theorem joinTypes_renumber (native : Bool) (types : List Hint) :
    joinTypes native (types.map (renumber σ)) = (joinTypes native types).map (renumber σ) := by
  have hmembers : (types.map (renumber σ)).flatMap unionMembers =
      (types.flatMap unionMembers).map (renumber σ) := by
    simp only [List.flatMap_map, List.map_flatMap, unionMembers_renumber]
  unfold joinTypes
  dsimp only
  rw [hmembers, distinct_renumber, List.any_map]
  simp only [Function.comp_def, isList_renumber]
  split
  · rfl
  · rcases distinct (types.flatMap unionMembers) with _ | ⟨one, _ | ⟨second, more⟩⟩
    · rfl
    · rfl
    · simp [Except.map, renumber]

theorem unionOf_renumber (types : List Hint) :
    unionOf (types.map (renumber σ)) = (unionOf types).map (renumber σ) :=
  bind_eq_map (mapM_asArgument_renumber false types) (joinTypes_renumber false)

theorem isNativeOperand_renumber (h : Hint) : isNativeOperand (h.renumber σ) = isNativeOperand h := by
  cases h <;> rfl

theorem isFormOperand_renumber (h : Hint) : isFormOperand (h.renumber σ) = isFormOperand h := by
  cases h <;> rfl

theorem isNull_renumber (h : Hint) : isNull (h.renumber σ) = isNull h := by
  cases h <;> rfl

/-- So does `a | b`, or it fails alike. -/
theorem alternative_renumber (a b : Hint) :
    alternative (a.renumber σ) (b.renumber σ) = (alternative a b).map (renumber σ) := by
  have hplain : ∀ h : Hint, (if isNull (h.renumber σ) then nullType else h.renumber σ) =
      (if isNull h then nullType else h).renumber σ := fun h => by
    rw [isNull_renumber]
    split <;> rfl
  unfold alternative
  simp only [isNativeOperand_renumber, isFormOperand_renumber, isNull_renumber a,
    isNull_renumber b]
  split
  · split
    · rfl
    · have hjoin := joinTypes_renumber (σ := σ) true
        [if isNull a then nullType else a, if isNull b then nullType else b]
      rw [← hjoin, List.map_cons, List.map_singleton, ← hplain a, ← hplain b, isNull_renumber,
        isNull_renumber]
  · split
    · exact unionOf_renumber [a, b]
    · rfl

/-- Type variables have no numbers. -/
theorem typeVariables_renumber (h : Hint) : typeVariables (h.renumber σ) = typeVariables h := by
  have hall : ∀ hs : List Hint, (∀ h ∈ hs, typeVariables (h.renumber σ) = typeVariables h) →
      variablesOf (hs.map (renumber σ)) = variablesOf hs := by
    intro hs
    induction hs with
    | nil => exact fun _ => rfl
    | cons h rest ih =>
      intro hmem
      rw [List.map_cons, variablesOf, variablesOf, hmem h List.mem_cons_self,
        ih fun k hk => hmem k (List.mem_cons_of_mem _ hk)]
  induction h using parts_induction with
  | type c => rfl
  | union hs native ih => simp [renumber, typeVariables, hall hs ih]
  | applied c hs native ih => simp [renumber, typeVariables, hall hs ih]
  | formed name hs ih => rfl
  | annotated h hs ih _ => simp [renumber, typeVariables, ih]
  | classVariable h ih => simp [renumber, typeVariables, ih]
  | final h ih => simp [renumber, typeVariables, ih]
  | newType name h ih => rfl
  | list hs ih => rfl
  | tuple hs ih => rfl
  | valueOf c => rfl
  | atom h hatom =>
    cases h <;> first
      | rfl
      | cases hatom

theorem variablesOf_renumber (hs : List Hint) :
    variablesOf (hs.map (renumber σ)) = variablesOf hs := by
  induction hs with
  | nil => rfl
  | cons h rest ih => rw [List.map_cons, variablesOf, variablesOf, typeVariables_renumber, ih]

end Hint

end TypeExport

import TypeExport.Declaration.Render
import TypeExport.Descriptor.Resolution
import TypeExport.Descriptor.Unseen
import TypeExport.Keyed

/-!
# Drafts of artifacts

Resolving a shape gives its target type and, on the way, collects the interfaces of the types that
are inlined there.  A type is marked as seen before its own properties are resolved, so that types
may refer to one another, and no full name is collected twice.  What was done before a failure stays
in the draft.
-/

/-!
## Declarations of types

A type that is no enumeration is declared as an interface, and an enumeration by its members.  The
interfaces that an artifact holds beside its root are ordered by their target names and then by
their full names.
-/

namespace TypeExport

/-- A declaration with its text prepared. -/
def prepared (policy : Policy) (d : Declaration) : Declaration :=
  { d with body := d.render policy }

def interfaceOf (policy : Policy) (d : Descriptor) (fields : List Field) (exported : Bool) :
    Declaration :=
  prepared policy
    { target := d.targetName, kind := .interface, source := d.fullName, exported, fields }

def enumerationOf (policy : Policy) (d : Descriptor) : Declaration :=
  prepared policy
    { target := d.targetName, kind := .enumeration, source := d.fullName, exported := true,
      members := d.members }

/-- The order of the needed declarations. -/
def declaredBefore (a b : Declaration) : Bool :=
  decide (a.target < b.target) || (a.target == b.target && decide (a.source ≤ b.source))

end TypeExport

/-!
## What a translation has gathered
-/

namespace TypeExport.TypeGraph

variable {ε : Type} (g : TypeGraph ε)

/-- What a translation has gathered: the names that it has seen, the collected interfaces by full
name, and the types whose properties it has read, in order. -/
structure Draft where
  seen : List String
  nested : List (String × Declaration)
  reads : List g.Node

namespace Draft

variable {g}

/-- The drafts that have seen all that `b` has. -/
abbrev Later (b : Draft g) : Type :=
  { c : Draft g // ∀ name ∈ b.seen, name ∈ c.seen }

def unchanged (b : Draft g) : b.Later :=
  ⟨b, fun _ h => h⟩

def Later.andThen {b : Draft g} (c : b.Later) (d : c.val.Later) : b.Later :=
  ⟨d.val, fun name h => d.property name (c.property name h)⟩

/-- The draft when the properties of a type are about to be read. -/
def visit (b : Draft g) (t : g.Node) : b.Later :=
  ⟨{ b with seen := (g.descriptor t).fullName :: b.seen, reads := b.reads ++ [t] },
    fun _ h => List.mem_cons_of_mem _ h⟩

/-- The draft with the interface of a type. -/
def collected (b : Draft g) (policy : Policy) (t : g.Node) (fields : List Field) : b.Later :=
  let d := g.descriptor t
  ⟨{ b with nested := Keyed.put d.fullName (interfaceOf policy d fields false) b.nested },
    fun _ h => h⟩

/-- The draft of an artifact whose root is `t`. -/
def start (t : g.Node) : Draft g :=
  { seen := [(g.descriptor t).fullName], nested := [], reads := [t] }

/-- The collected interfaces in the order in which they are written. -/
def orderedNested (b : Draft g) : List Declaration :=
  (b.nested.map (·.2)).mergeSort declaredBefore

theorem unseen_visit_lt {b : Draft g} {t : g.Node} (h : (g.descriptor t).fullName ∉ b.seen) :
    g.unseen (b.visit t).val.seen < g.unseen b.seen :=
  g.unseen_lt h

end Draft

variable (policy : Policy)

mutual

/-- The target type of a shape; the interfaces that it needs are collected. -/
def resolve (b : Draft g) (shape : Shape g.Node) : Except ε String × b.Later :=
  match shape with
  | .nullable inner => resolve b inner
  | .array element =>
    let (text, c) := resolve b element
    (text.map (· ++ "[]"), c)
  | .dictionary key value =>
    if g.isTextKey key then
      let (text, c) := resolve b value
      (text.map fun text => "Record<string, " ++ text ++ ">", c)
    else (.ok openDictionary, b.unchanged)
  | .direct t => resolveType b t
termination_by (g.unseen b.seen, sizeOf shape + 1)

/-- The target type of a type; the interface of an inlined type is collected. -/
def resolveType (b : Draft g) (t : g.Node) : Except ε String × b.Later :=
  let d := g.descriptor t
  match policy.mapping? d with
  | some text => (.ok text, b.unchanged)
  | none =>
    if d.kind = .enumeration then (.ok d.targetName, b.unchanged)
    else if d.isInlined then
      if policy.inlineNested then
        let (done, c) := collect b t
        (done.map fun _ => d.targetName, c)
      else (.ok Primitive.fallback, b.unchanged)
    else (.ok (Primitive.targetType d.primitiveName), b.unchanged)
termination_by (g.unseen b.seen, 1)

/-- Collects the interface of a type unless its name has been seen. -/
def collect (b : Draft g) (t : g.Node) : Except ε Unit × b.Later :=
  if (g.descriptor t).fullName ∈ b.seen then (.ok (), b.unchanged)
  else
    match g.properties t with
    | .error e => (.error e, b.visit t)
    | .ok properties =>
      match resolveFields (b.visit t).val (properties.filter policy.keeps) with
      | (.error e, c) => (.error e, (b.visit t).andThen c)
      | (.ok fields, c) => (.ok (), ((b.visit t).andThen c).andThen (c.val.collected policy t fields))
termination_by (g.unseen b.seen, 0)
decreasing_by
  exact Prod.Lex.left _ _ (Draft.unseen_visit_lt ‹_›)

/-- The fields of properties, in order. -/
def resolveFields (b : Draft g) (properties : List (Property g.Node)) :
    Except ε (List Field) × b.Later :=
  match properties with
  | [] => (.ok [], b.unchanged)
  | p :: rest =>
    match resolve b p.shape with
    | (.error e, c) => (.error e, c)
    | (.ok typeText, c) =>
      let (fields, d) := resolveFields c.val rest
      (fields.map ({ name := p.name, typeText, optional := g.isOptional p } :: ·), c.andThen d)
termination_by (g.unseen b.seen, sizeOf properties)
decreasing_by
  · refine Prod.Lex.right _ ?_
    cases p
    simp only [List.cons.sizeOf_spec, Property.mk.sizeOf_spec]
    omega
  · rcases Nat.lt_or_eq_of_le (g.unseen_le c.property) with h | h
    · exact Prod.Lex.left _ _ h
    · rw [h]
      exact Prod.Lex.right _ (by simp only [List.cons.sizeOf_spec]; omega)

end

/-- The artifact of a type, and the types whose properties were read for it.  The artifact of an
enumeration is its declaration. -/
def translate (root : g.Node) : Except ε Artifact × List g.Node :=
  let d := g.descriptor root
  if d.kind = .enumeration then (.ok { root := enumerationOf policy d }, [])
  else
    match g.properties root with
    | .error e => (.error e, [root])
    | .ok properties =>
      let (fields, b) := g.resolveFields policy (.start root) (properties.filter policy.keeps)
      (fields.map fun fields =>
        { root := interfaceOf policy d fields true, nested := b.val.orderedNested }, b.val.reads)

/-- The artifact of a type. -/
def artifact (root : g.Node) : Except ε Artifact :=
  (g.translate policy root).1

/-- The types whose properties the artifact of a type takes. -/
def reads (root : g.Node) : List g.Node :=
  (g.translate policy root).2

end TypeExport.TypeGraph

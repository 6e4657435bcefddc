import TypeExport.Declaration.Draft

/-!
# Translation without a state

The target type of a shape depends on the policy and on the descriptors in the shape, and on nothing
else.  The types that need declarations are visited depth first, each full name once, and the walk
stops at the first type whose properties cannot be read.  Nothing is shared here between resolving
a shape and collecting declarations.
-/

namespace TypeExport

namespace Policy

/-- The target type of a source type. -/
def typeName (policy : Policy) (d : Descriptor) : String :=
  match policy.mapping? d with
  | some text => text
  | none =>
    if d.kind = .enumeration then d.targetName
    else if d.isInlined then if policy.inlineNested then d.targetName else Primitive.fallback
    else Primitive.targetType d.primitiveName

/-- Whether a mention of the type needs a declaration of it. -/
def needsDeclaration (policy : Policy) (d : Descriptor) : Bool :=
  (policy.mapping? d).isNone && d.isInlined && policy.inlineNested

end Policy

namespace TypeGraph

variable {ε : Type} (g : TypeGraph ε)

/-- The target type of a shape. -/
def typeText (policy : Policy) : Shape g.Node → String
  | .direct t => policy.typeName (g.descriptor t)
  | .nullable s => typeText policy s
  | .array s => typeText policy s ++ "[]"
  | .dictionary k v =>
    if g.isTextKey k then "Record<string, " ++ typeText policy v ++ ">" else openDictionary

/-- The field of a property. -/
def fieldOf (policy : Policy) (p : Property g.Node) : Field :=
  { name := p.name, typeText := g.typeText policy p.shape, optional := g.isOptional p }

/-- The fields of an interface: those of the kept properties, in order. -/
def fields (policy : Policy) (properties : List (Property g.Node)) : List Field :=
  (properties.filter policy.keeps).map (g.fieldOf policy)

/-- The types that a shape needs declared, from left to right. -/
def mentions (policy : Policy) : Shape g.Node → List g.Node
  | .direct t => if policy.needsDeclaration (g.descriptor t) then [t] else []
  | .nullable s => mentions policy s
  | .array s => mentions policy s
  | .dictionary k v => if g.isTextKey k then mentions policy v else []

/-- The types that properties need declared, in order. -/
def mentionsOf (policy : Policy) (properties : List (Property g.Node)) : List g.Node :=
  properties.flatMap fun p => g.mentions policy p.shape

/-- The types that the kept properties need declared, in order. -/
def needs (policy : Policy) (properties : List (Property g.Node)) : List g.Node :=
  g.mentionsOf policy (properties.filter policy.keeps)

/-- A visited type and the outcome of reading its properties. -/
structure Visit where
  node : g.Node
  properties : Except ε (List (Property g.Node))

/-- Visits the pending types and all they need, apart from the names already seen. -/
def walk (policy : Policy) (seen : List String) (pending : List g.Node) : List g.Visit :=
  match pending with
  | [] => []
  | t :: rest =>
    if (g.descriptor t).fullName ∈ seen then walk policy seen rest
    else
      match g.properties t with
      | .error e => [⟨t, .error e⟩]
      | .ok properties =>
        ⟨t, .ok properties⟩ ::
          walk policy ((g.descriptor t).fullName :: seen) (g.needs policy properties ++ rest)
termination_by (g.unseen seen, pending.length)
decreasing_by
  · exact Prod.Lex.right _ (by simp)
  · exact Prod.Lex.left _ _ (g.unseen_lt ‹_›)

namespace Visit

variable {g}

/-- The full name of a visited type. -/
def fullName (v : g.Visit) : String :=
  (g.descriptor v.node).fullName

/-- The interface that a visit collects, by full name; a failed one collects none. -/
def collected (policy : Policy) (v : g.Visit) : Option (String × Declaration) :=
  match v.properties with
  | .ok properties =>
    some (v.fullName, interfaceOf policy (g.descriptor v.node) (g.fields policy properties) false)
  | .error _ => none

/-- The failure that ends a list of visits. -/
def failure? : List g.Visit → Option ε
  | [] => none
  | ⟨_, .error e⟩ :: _ => some e
  | ⟨_, .ok _⟩ :: rest => failure? rest

/-- A value unless the visits end in a failure. -/
def outcome {α : Type} (visits : List g.Visit) (a : α) : Except ε α :=
  match failure? visits with
  | some e => .error e
  | none => .ok a

/-- The names that have been seen after some visits. -/
def seenAfter (seen : List String) (visits : List g.Visit) : List String :=
  visits.foldl (fun seen v => v.fullName :: seen) seen

/-- After some visits the names of the visited types are seen, and no others. -/
theorem mem_seenAfter {seen : List String} {visits : List g.Visit} {name : String} :
    name ∈ seenAfter seen visits ↔ name ∈ seen ∨ ∃ v ∈ visits, v.fullName = name := by
  induction visits generalizing seen with
  | nil => simp [seenAfter]
  | cons v visits ih =>
    unfold seenAfter at ih ⊢
    rw [List.foldl_cons, ih, List.mem_cons]
    constructor
    · rintro ((rfl | h) | ⟨w, hw, rfl⟩)
      · exact .inr ⟨v, List.mem_cons_self, rfl⟩
      · exact .inl h
      · exact .inr ⟨w, List.mem_cons_of_mem _ hw, rfl⟩
    · rintro (h | ⟨w, hw, rfl⟩)
      · exact .inl (.inr h)
      · rcases List.mem_cons.1 hw with rfl | hw
        · exact .inl (.inl rfl)
        · exact .inr ⟨w, hw, rfl⟩

theorem seenAfter_append (seen : List String) (first more : List g.Visit) :
    seenAfter seen (first ++ more) = seenAfter (seenAfter seen first) more := by
  unfold seenAfter
  rw [List.foldl_append]

theorem failure?_append_of_none {first more : List g.Visit} (h : failure? first = none) :
    failure? (first ++ more) = failure? more := by
  induction first with
  | nil => rfl
  | cons v first ih =>
    obtain ⟨t, _ | properties⟩ := v
    · simp [failure?] at h
    · exact ih h

theorem failure?_eq_none_iff {visits : List g.Visit} :
    failure? visits = none ↔ ∀ v ∈ visits, ∃ properties, v.properties = .ok properties := by
  induction visits with
  | nil => simp [failure?]
  | cons v visits ih =>
    obtain ⟨t, _ | properties⟩ := v
    · simp [failure?]
    · simp [failure?, ih]

end Visit

open Visit

variable {g} {policy : Policy}

theorem walk_of_seen {seen : List String} {t : g.Node} {rest : List g.Node}
    (h : (g.descriptor t).fullName ∈ seen) :
    g.walk policy seen (t :: rest) = g.walk policy seen rest := by
  rw [walk, if_pos h]

theorem walk_of_error {seen : List String} {t : g.Node} {rest : List g.Node} {e : ε}
    (h : (g.descriptor t).fullName ∉ seen) (he : g.properties t = .error e) :
    g.walk policy seen (t :: rest) = [⟨t, .error e⟩] := by
  rw [walk, if_neg h, he]

theorem walk_of_ok {seen : List String} {t : g.Node} {rest : List g.Node}
    {properties : List (Property g.Node)} (h : (g.descriptor t).fullName ∉ seen)
    (hp : g.properties t = .ok properties) :
    g.walk policy seen (t :: rest) = ⟨t, .ok properties⟩ ::
      g.walk policy ((g.descriptor t).fullName :: seen) (g.needs policy properties ++ rest) := by
  rw [walk, if_neg h, hp]

/-- A walk over two lists stops in the first one, or goes on with the second. -/
theorem walk_append (seen : List String) (first more : List g.Node) :
    g.walk policy seen (first ++ more) =
      match failure? (g.walk policy seen first) with
      | some _ => g.walk policy seen first
      | none => g.walk policy seen first ++
          g.walk policy (seenAfter seen (g.walk policy seen first)) more := by
  fun_induction walk g policy seen first with
  | case1 seen => simp [failure?, seenAfter]
  | case2 seen t rest hseen ih => rw [List.cons_append, walk_of_seen hseen, ih]
  | case3 seen t rest hseen e he => rw [List.cons_append, walk_of_error hseen he]; simp [failure?]
  | case4 seen t rest hseen properties hp ih =>
    rw [List.cons_append, walk_of_ok hseen hp, ← List.append_assoc, ih]
    simp only [failure?]
    split
    · rfl
    · rfl

/-- No visited name was seen before. -/
theorem fullName_not_mem_of_mem_walk {seen : List String} {pending : List g.Node} {v : g.Visit}
    (h : v ∈ g.walk policy seen pending) : v.fullName ∉ seen := by
  fun_induction walk g policy seen pending with
  | case1 seen => simp at h
  | case2 seen t rest hseen ih => exact ih h
  | case3 seen t rest hseen e he =>
    rw [List.mem_singleton] at h
    rw [h]
    exact hseen
  | case4 seen t rest hseen properties hp ih =>
    rcases List.mem_cons.1 h with rfl | h
    · exact hseen
    · exact fun hmem => ih h (List.mem_cons_of_mem _ hmem)

/-- The visited names differ from one another. -/
theorem nodup_walk (seen : List String) (pending : List g.Node) :
    ((g.walk policy seen pending).map Visit.fullName).Nodup := by
  fun_induction walk g policy seen pending with
  | case1 seen => exact List.nodup_nil
  | case2 seen t rest hseen ih => exact ih
  | case3 seen t rest hseen e he => simp
  | case4 seen t rest hseen properties hp ih =>
    rw [List.map_cons, List.nodup_cons]
    refine ⟨fun hmem => ?_, ih⟩
    obtain ⟨v, hv, hname⟩ := List.mem_map.1 hmem
    exact fullName_not_mem_of_mem_walk hv (hname ▸ List.mem_cons_self)

/-- What a visit says of its type is what the graph says. -/
theorem properties_of_mem_walk {seen : List String} {pending : List g.Node} {v : g.Visit}
    (h : v ∈ g.walk policy seen pending) : v.properties = g.properties v.node := by
  fun_induction walk g policy seen pending with
  | case1 seen => simp at h
  | case2 seen t rest hseen ih => exact ih h
  | case3 seen t rest hseen e he =>
    rw [List.mem_singleton] at h
    rw [h, he]
  | case4 seen t rest hseen properties hp ih =>
    rcases List.mem_cons.1 h with rfl | h
    · exact hp.symm
    · exact ih h

end TypeGraph

end TypeExport

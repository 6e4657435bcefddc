import Mathlib
import TypeExport.Proofs.Translation.FirstFailure
import TypeExport.Proofs.Translation.TargetNames

/-!
# How a translation proceeds

The rules of a translation, one for each way in which a shape, a type, an interface or a list of
fields is resolved.  They carry no measure and no bound.  Still everything that there is to resolve
ends in one way under them, whatever the graph and whatever has been gathered before, and it ends as
the translation does.  The rules count how often the fields of a type are resolved: once for the root
and once for each interface beside it.
-/

namespace TypeExport.TypeGraph

open Visit

/-- What a translation gathers: the seen names, and the collected interfaces by full name. -/
structure Gathered where
  seen : List String
  nested : List (String × Declaration)

/-- The state in which a name has been seen. -/
def Gathered.see (m : Gathered) (name : String) : Gathered :=
  { m with seen := name :: m.seen }

/-- The state with a collected interface. -/
def Gathered.collect (m : Gathered) (name : String) (d : Declaration) : Gathered :=
  { m with nested := Keyed.put name d m.nested }

section Rules

variable {ε : Type} (g : TypeGraph ε)

/-- What there is to resolve: a shape, a type, the interface of a type, all fields of a type, or the
fields of some properties. -/
inductive Task where
  | shape (s : Shape g.Node)
  | type (t : g.Node)
  | interface (t : g.Node)
  | allFields (t : g.Node)
  | fields (properties : List (Property g.Node))

/-- What resolving gives: a target type, nothing but a collected interface, or fields. -/
abbrev Task.Value {g : TypeGraph ε} : g.Task → Type
  | .shape _ | .type _ => String
  | .interface _ => Unit
  | .allFields _ | .fields _ => List Field

/-- How resolving ends: the result, what has been gathered, and the types all fields of which were
resolved on the way, in order and as often as they were. -/
structure Ending (α : Type) where
  result : Except ε α
  after : Gathered
  resolved : List g.Node

variable {g}

/-- An ending at once. -/
def Ending.done {α : Type} (m : Gathered) (a : α) : g.Ending α :=
  { result := .ok a, after := m, resolved := [] }

def Ending.map {α β : Type} (f : α → β) (e : g.Ending α) : g.Ending β :=
  { result := e.result.map f, after := e.after, resolved := e.resolved }

/-- Something to resolve ends in some way when it starts from what has been gathered. -/
inductive Evaluates (policy : Policy) :
    Gathered → (task : g.Task) → g.Ending task.Value → Prop
  | nullable {m : Gathered} {s : Shape g.Node} {e : g.Ending String} :
      Evaluates policy m (.shape s) e → Evaluates policy m (.shape (.nullable s)) e
  | array {m : Gathered} {s : Shape g.Node} {e : g.Ending String} :
      Evaluates policy m (.shape s) e →
        Evaluates policy m (.shape (.array s)) (e.map (· ++ "[]"))
  | dictionary {m : Gathered} {k v : Shape g.Node} {e : g.Ending String} :
      g.isTextKey k = true → Evaluates policy m (.shape v) e →
        Evaluates policy m (.shape (.dictionary k v))
          (e.map fun text => "Record<string, " ++ text ++ ">")
  | openKey {m : Gathered} {k v : Shape g.Node} :
      ¬g.isTextKey k = true →
        Evaluates policy m (.shape (.dictionary k v)) (.done m openDictionary)
  | direct {m : Gathered} {t : g.Node} {e : g.Ending String} :
      Evaluates policy m (.type t) e → Evaluates policy m (.shape (.direct t)) e
  | mapped {m : Gathered} {t : g.Node} {text : String} :
      policy.mapping? (g.descriptor t) = some text →
        Evaluates policy m (.type t) (.done m text)
  | enumeration {m : Gathered} {t : g.Node} :
      policy.mapping? (g.descriptor t) = none → (g.descriptor t).kind = .enumeration →
        Evaluates policy m (.type t) (.done m (g.descriptor t).targetName)
  | inlined {m : Gathered} {t : g.Node} {e : g.Ending Unit} :
      policy.needsDeclaration (g.descriptor t) = true → Evaluates policy m (.interface t) e →
        Evaluates policy m (.type t) (e.map fun _ => (g.descriptor t).targetName)
  | notNested {m : Gathered} {t : g.Node} :
      policy.mapping? (g.descriptor t) = none → (g.descriptor t).isInlined = true →
        ¬policy.inlineNested = true →
          Evaluates policy m (.type t) (.done m Primitive.fallback)
  | primitive {m : Gathered} {t : g.Node} :
      policy.mapping? (g.descriptor t) = none → ¬(g.descriptor t).kind = .enumeration →
        ¬(g.descriptor t).isInlined = true →
          Evaluates policy m (.type t)
            (.done m (Primitive.targetType (g.descriptor t).primitiveName))
  | seen {m : Gathered} {t : g.Node} :
      (g.descriptor t).fullName ∈ m.seen → Evaluates policy m (.interface t) (.done m ())
  | failed {m after : Gathered} {t : g.Node} {e : ε} {resolved : List g.Node} :
      (g.descriptor t).fullName ∉ m.seen →
        Evaluates policy (m.see (g.descriptor t).fullName) (.allFields t)
          ⟨.error e, after, resolved⟩ →
          Evaluates policy m (.interface t) ⟨.error e, after, resolved⟩
  | collected {m after : Gathered} {t : g.Node} {fields : List Field} {resolved : List g.Node} :
      (g.descriptor t).fullName ∉ m.seen →
        Evaluates policy (m.see (g.descriptor t).fullName) (.allFields t)
          ⟨.ok fields, after, resolved⟩ →
          Evaluates policy m (.interface t)
            ⟨.ok (), after.collect (g.descriptor t).fullName
              (interfaceOf policy (g.descriptor t) fields false), resolved⟩
  | unreadable {m : Gathered} {t : g.Node} {e : ε} :
      g.properties t = .error e → Evaluates policy m (.allFields t) ⟨.error e, m, [t]⟩
  | readable {m after : Gathered} {t : g.Node} {properties : List (Property g.Node)}
      {result : Except ε (List Field)} {resolved : List g.Node} :
      g.properties t = .ok properties →
        Evaluates policy m (.fields (properties.filter policy.keeps)) ⟨result, after, resolved⟩ →
          Evaluates policy m (.allFields t) ⟨result, after, t :: resolved⟩
  | nil {m : Gathered} : Evaluates policy m (.fields []) (.done m [])
  | stops {m after : Gathered} {p : Property g.Node} {rest : List (Property g.Node)} {e : ε}
      {resolved : List g.Node} :
      Evaluates policy m (.shape p.shape) ⟨.error e, after, resolved⟩ →
        Evaluates policy m (.fields (p :: rest)) ⟨.error e, after, resolved⟩
  | cons {m between after : Gathered} {p : Property g.Node} {rest : List (Property g.Node)}
      {typeText : String} {fields : Except ε (List Field)} {first more : List g.Node} :
      Evaluates policy m (.shape p.shape) ⟨.ok typeText, between, first⟩ →
        Evaluates policy between (.fields rest) ⟨fields, after, more⟩ →
          Evaluates policy m (.fields (p :: rest))
            ⟨fields.map ({ name := p.name, typeText, optional := g.isOptional p } :: ·), after,
              first ++ more⟩

end Rules

variable {ε : Type} {g : TypeGraph ε} {policy : Policy}

/-- What a draft has gathered. -/
def Draft.gathered (b : Draft g) : Gathered :=
  { seen := b.seen, nested := b.nested }

/-- A part of the translation ends as the rules say, and in no other way. -/
def Follows (policy : Policy) (b : Draft g) (task : g.Task)
    (result : Except ε task.Value × b.Later) : Prop :=
  ∃ resolved, result.2.val.reads = b.reads ++ resolved ∧
    ∀ e, Evaluates policy b.gathered task e ↔ e = ⟨result.1, result.2.val.gathered, resolved⟩

/-- A step that ends at once. -/
theorem follows_done {b : Draft g} {task : g.Task} {a : task.Value}
    (h : ∀ e, Evaluates policy b.gathered task e ↔ e = .done b.gathered a) :
    Follows policy b task (.ok a, b.unchanged) :=
  ⟨[], (List.append_nil _).symm, h⟩

/-- A step that changes the value of another one. -/
theorem Follows.map {b : Draft g} {task other : g.Task} {result : Except ε task.Value × b.Later}
    {f : task.Value → other.Value} (h : Follows policy b task result)
    (hrule : ∀ e, Evaluates policy b.gathered other e ↔
      ∃ e', Evaluates policy b.gathered task e' ∧ e = e'.map f) :
    Follows policy b other (result.1.map f, result.2) := by
  obtain ⟨resolved, hreads, hends⟩ := h
  refine ⟨resolved, hreads, fun e => ?_⟩
  rw [hrule]
  constructor
  · rintro ⟨e', he', rfl⟩
    rw [(hends e').1 he']
    rfl
  · rintro rfl
    exact ⟨_, (hends _).2 rfl, rfl⟩

section Inversion

variable {m : Gathered} {t : g.Node}

/-- A type that is not inlined has one target type, and nothing is resolved for it. -/
theorem evaluates_type_iff_of_not (h : ¬policy.needsDeclaration (g.descriptor t) = true)
    {e : g.Ending String} :
    Evaluates policy m (.type t) e ↔ e = .done m (policy.typeName (g.descriptor t)) := by
  constructor
  · intro he
    cases he with
    | mapped hmap => simp only [Policy.typeName, hmap]
    | enumeration hmap hkind => simp only [Policy.typeName, hmap, if_pos hkind]
    | inlined hneeds => exact absurd hneeds h
    | notNested hmap hinlined hnested =>
      have hkind := fun hkind => not_isInlined_of_enumeration hkind hinlined
      simp only [Policy.typeName, hmap, if_neg hkind, if_pos hinlined, if_neg hnested]
    | primitive hmap hkind hinlined =>
      simp only [Policy.typeName, hmap, if_neg hkind, if_neg hinlined]
  · rintro rfl
    cases hmap : policy.mapping? (g.descriptor t) with
    | some text =>
      simp only [Policy.typeName, hmap]
      exact .mapped hmap
    | none =>
      by_cases hkind : (g.descriptor t).kind = .enumeration
      · simp only [Policy.typeName, hmap, if_pos hkind]
        exact .enumeration hmap hkind
      · by_cases hinlined : (g.descriptor t).isInlined = true
        · have hnested : ¬policy.inlineNested = true :=
            fun hnested => h (needsDeclaration_of_mapping? hmap hinlined hnested)
          simp only [Policy.typeName, hmap, if_neg hkind, if_pos hinlined, if_neg hnested]
          exact .notNested hmap hinlined hnested
        · simp only [Policy.typeName, hmap, if_neg hkind, if_neg hinlined]
          exact .primitive hmap hkind hinlined

/-- A type that needs a declaration evaluates to its name, after its interface. -/
theorem evaluates_type_iff_of_needs (h : policy.needsDeclaration (g.descriptor t) = true)
    {e : g.Ending String} :
    Evaluates policy m (.type t) e ↔ ∃ e', Evaluates policy m (.interface t) e' ∧
      e = e'.map fun _ => (g.descriptor t).targetName := by
  obtain ⟨hmap, hkind, hinlined, hnested⟩ := mapping?_of_needsDeclaration h
  constructor
  · intro he
    cases he with
    | mapped hsome => rw [hmap] at hsome; cases hsome
    | enumeration _ hkind' => exact absurd hkind' hkind
    | inlined _ he => exact ⟨_, he, rfl⟩
    | notNested _ _ hnested' => exact absurd hnested hnested'
    | primitive _ _ hinlined' => exact absurd hinlined hinlined'
  · rintro ⟨e', he', rfl⟩
    exact .inlined h he'

theorem evaluates_array_iff {s : Shape g.Node} {e : g.Ending String} :
    Evaluates policy m (.shape (.array s)) e ↔
      ∃ e', Evaluates policy m (.shape s) e' ∧ e = e'.map (· ++ "[]") := by
  constructor
  · intro he
    cases he with
    | array he => exact ⟨_, he, rfl⟩
  · rintro ⟨e', he', rfl⟩
    exact .array he'

theorem evaluates_dictionary_iff {k v : Shape g.Node} (hkey : g.isTextKey k = true)
    {e : g.Ending String} :
    Evaluates policy m (.shape (.dictionary k v)) e ↔ ∃ e', Evaluates policy m (.shape v) e' ∧
      e = e'.map fun text => "Record<string, " ++ text ++ ">" := by
  constructor
  · intro he
    cases he with
    | dictionary _ he => exact ⟨_, he, rfl⟩
    | openKey hopen => exact absurd hkey hopen
  · rintro ⟨e', he', rfl⟩
    exact .dictionary hkey he'

theorem evaluates_openKey_iff {k v : Shape g.Node} (hkey : ¬g.isTextKey k = true)
    {e : g.Ending String} :
    Evaluates policy m (.shape (.dictionary k v)) e ↔ e = .done m openDictionary := by
  constructor
  · intro he
    cases he with
    | dictionary htext _ => exact absurd htext hkey
    | openKey _ => rfl
  · rintro rfl
    exact .openKey hkey

theorem evaluates_seen_iff (hseen : (g.descriptor t).fullName ∈ m.seen) {e : g.Ending Unit} :
    Evaluates policy m (.interface t) e ↔ e = .done m () := by
  constructor
  · intro he
    cases he with
    | seen _ => rfl
    | failed hunseen _ => exact absurd hseen hunseen
    | collected hunseen _ => exact absurd hseen hunseen
  · rintro rfl
    exact .seen hseen

/-- A type whose properties cannot be read fails with that failure. -/
theorem evaluates_unreadable_iff {e : ε} (he : g.properties t = .error e)
    {e' : g.Ending (List Field)} :
    Evaluates policy m (.allFields t) e' ↔ e' = ⟨.error e, m, [t]⟩ := by
  constructor
  · intro h
    cases h with
    | unreadable h =>
      rw [he] at h
      cases h
      rfl
    | readable h _ =>
      rw [he] at h
      cases h
  · rintro rfl
    exact .unreadable he

/-- A type whose properties can be read evaluates those that the policy keeps. -/
theorem evaluates_readable_iff {properties : List (Property g.Node)}
    (hp : g.properties t = .ok properties) {e : g.Ending (List Field)} :
    Evaluates policy m (.allFields t) e ↔
      ∃ e', Evaluates policy m (.fields (properties.filter policy.keeps)) e' ∧
        e = ⟨e'.result, e'.after, t :: e'.resolved⟩ := by
  constructor
  · intro h
    cases h with
    | unreadable h =>
      rw [hp] at h
      cases h
    | readable h hfields =>
      rw [hp] at h
      cases h
      exact ⟨_, hfields, rfl⟩
  · rintro ⟨e', he', rfl⟩
    exact .readable hp he'

/-- The interface of a type whose name is new ends as its fields do. -/
theorem evaluates_interface_iff (hunseen : (g.descriptor t).fullName ∉ m.seen)
    {end' : g.Ending (List Field)}
    (h : ∀ e, Evaluates policy (m.see (g.descriptor t).fullName) (.allFields t) e ↔ e = end')
    {e : g.Ending Unit} :
    Evaluates policy m (.interface t) e ↔ e =
      match end'.result with
      | .error e => ⟨.error e, end'.after, end'.resolved⟩
      | .ok fields => ⟨.ok (), end'.after.collect (g.descriptor t).fullName
          (interfaceOf policy (g.descriptor t) fields false), end'.resolved⟩ := by
  constructor
  · intro he
    cases he with
    | seen hseen => exact absurd hseen hunseen
    | failed _ he => rw [← (h _).1 he]
    | collected _ he => rw [← (h _).1 he]
  · rintro rfl
    obtain ⟨_ | fields, after, resolved⟩ := end'
    · exact .failed hunseen ((h _).2 rfl)
    · exact .collected hunseen ((h _).2 rfl)

theorem evaluates_nil_iff {e : g.Ending (List Field)} :
    Evaluates policy m (.fields []) e ↔ e = .done m [] := by
  constructor
  · intro he
    cases he
    rfl
  · rintro rfl
    exact .nil

end Inversion

theorem follows_type_of_not {b : Draft g} {t : g.Node}
    (h : ¬policy.needsDeclaration (g.descriptor t) = true) :
    Follows policy b (.type t) (g.resolveType policy b t) := by
  rw [resolveType_of_not h]
  exact follows_done fun e => evaluates_type_iff_of_not h

theorem follows_type_of_needs {b : Draft g} {t : g.Node}
    (h : policy.needsDeclaration (g.descriptor t) = true)
    (hcollect : Follows policy b (.interface t) (g.collect policy b t)) :
    Follows policy b (.type t) (g.resolveType policy b t) := by
  rw [resolveType_of_needs h]
  exact hcollect.map fun e => evaluates_type_iff_of_needs h

/-- The fields of a type end as the rules say when those of its kept properties do. -/
theorem Follows.evaluates_allFields {b : Draft g} {t : g.Node}
    {properties : List (Property g.Node)} {result : Except ε (List Field) × (b.visit t).val.Later}
    (hp : g.properties t = .ok properties)
    (h : Follows policy (b.visit t).val (.fields (properties.filter policy.keeps)) result) :
    ∃ resolved, result.2.val.reads = b.reads ++ t :: resolved ∧
      ∀ e, Evaluates policy (b.gathered.see (g.descriptor t).fullName) (.allFields t) e ↔
        e = ⟨result.1, result.2.val.gathered, t :: resolved⟩ := by
  obtain ⟨resolved, hreads, hends⟩ := h
  refine ⟨resolved, ?_, fun e => ?_⟩
  · rw [hreads]
    exact List.append_assoc _ _ _
  · rw [evaluates_readable_iff hp]
    constructor
    · rintro ⟨e', he', rfl⟩
      rw [(hends e').1 he']
    · rintro rfl
      exact ⟨_, (hends _).2 rfl, rfl⟩

/-- Every part of a translation ends as the rules say. -/
theorem follows_rules (g : TypeGraph ε) (policy : Policy) :
    (∀ (b : Draft g) shape, Follows policy b (.shape shape) (g.resolve policy b shape)) ∧
    (∀ (b : Draft g) t, Follows policy b (.type t) (g.resolveType policy b t)) ∧
    (∀ (b : Draft g) t, Follows policy b (.interface t) (g.collect policy b t)) ∧
    (∀ (b : Draft g) properties,
      Follows policy b (.fields properties) (g.resolveFields policy b properties)) := by
  refine resolve.mutual_induct g policy _ _ _ _ ?nullable ?array ?dictionary ?openKey ?direct
    ?mapped ?enumeration ?inlined ?notNested ?primitive ?seen ?unreadable ?failed ?collected
    ?nil ?stops ?cons
  case nullable =>
    intro b inner ih
    rw [resolve]
    obtain ⟨resolved, hreads, hends⟩ := ih
    refine ⟨resolved, hreads, fun e => ?_⟩
    rw [← hends]
    exact ⟨fun h => by cases h; assumption, .nullable⟩
  case array =>
    intro b element text c hrun ih
    rw [resolve]
    exact ih.map (f := (· ++ "[]")) fun e => evaluates_array_iff
  case dictionary =>
    intro b key value hkey text c hrun ih
    rw [resolve, if_pos hkey]
    exact ih.map fun e => evaluates_dictionary_iff hkey
  case openKey =>
    intro b key value hkey
    rw [resolve, if_neg hkey]
    exact follows_done fun e => evaluates_openKey_iff hkey
  case direct =>
    intro b t ih
    rw [resolve]
    obtain ⟨resolved, hreads, hends⟩ := ih
    refine ⟨resolved, hreads, fun e => ?_⟩
    rw [← hends]
    exact ⟨fun h => by cases h; assumption, .direct⟩
  case mapped =>
    intro b t _ text hmap
    have hmap : policy.mapping? (g.descriptor t) = some text := hmap
    refine follows_type_of_not fun hneeds => ?_
    rw [(mapping?_of_needsDeclaration hneeds).1] at hmap
    cases hmap
  case enumeration =>
    intro b t _ _ hkind
    exact follows_type_of_not fun hneeds => (mapping?_of_needsDeclaration hneeds).2.1 hkind
  case inlined =>
    intro b t _ hmap _ hinlined hnested _ _ _ ih
    exact follows_type_of_needs (needsDeclaration_of_mapping? hmap hinlined hnested) ih
  case notNested =>
    intro b t _ _ _ _ hnested
    exact follows_type_of_not fun hneeds => hnested (mapping?_of_needsDeclaration hneeds).2.2.2
  case primitive =>
    intro b t _ _ _ hinlined
    exact follows_type_of_not fun hneeds => hinlined (mapping?_of_needsDeclaration hneeds).2.2.1
  case seen =>
    intro b t hseen
    rw [collect, if_pos hseen]
    exact follows_done fun e => evaluates_seen_iff hseen
  case unreadable =>
    intro b t hseen e he
    rw [collect, if_neg hseen, he]
    refine ⟨[t], rfl, fun e' => ?_⟩
    exact evaluates_interface_iff hseen fun _ => evaluates_unreadable_iff he
  case failed =>
    intro b t hseen properties hp e c hrun ih
    obtain ⟨resolved, hreads, hends⟩ := ih.evaluates_allFields hp
    rw [collect, if_neg hseen, hp]
    simp only [hrun] at hreads hends ⊢
    exact ⟨t :: resolved, hreads, fun e' => evaluates_interface_iff hseen hends⟩
  case collected =>
    intro b t hseen properties hp fields c hrun ih
    obtain ⟨resolved, hreads, hends⟩ := ih.evaluates_allFields hp
    rw [collect, if_neg hseen, hp]
    simp only [hrun] at hreads hends ⊢
    exact ⟨t :: resolved, hreads, fun e' => evaluates_interface_iff hseen hends⟩
  case nil =>
    intro b
    rw [resolveFields]
    exact follows_done fun e => evaluates_nil_iff
  case stops =>
    intro b p rest e c hrun ih
    obtain ⟨resolved, hreads, hends⟩ := ih
    rw [hrun] at hreads hends
    rw [resolveFields, hrun]
    refine ⟨resolved, hreads, fun e' => ⟨fun he => ?_, ?_⟩⟩
    · cases he with
      | stops he => cases (hends _).1 he; rfl
      | cons he _ => cases (hends _).1 he
    · rintro rfl
      exact .stops ((hends _).2 rfl)
  case cons =>
    intro b p rest typeText c hrun fields d hmore ih ihmore
    obtain ⟨first, hreads, hends⟩ := ih
    obtain ⟨more, hreads', hends'⟩ := ihmore
    rw [hrun] at hreads hends
    rw [hmore] at hreads' hends'
    rw [resolveFields, hrun]
    simp only [hmore]
    refine ⟨first ++ more, ?_, fun e' => ⟨fun he => ?_, ?_⟩⟩
    · show d.val.reads = _
      rw [hreads', hreads, List.append_assoc]
    · cases he with
      | stops he => cases (hends _).1 he
      | cons he hrest =>
        cases (hends _).1 he
        cases (hends' _).1 hrest
        rfl
    · rintro rfl
      exact .cons ((hends _).2 rfl) ((hends' _).2 rfl)

/-- The draft that starts from what has been gathered. -/
def Gathered.draft (m : Gathered) : Draft g :=
  { seen := m.seen, nested := m.nested, reads := [] }

theorem Follows.existsUnique {b : Draft g} {task : g.Task} {result : Except ε task.Value × b.Later}
    (h : Follows policy b task result) : ∃! e, Evaluates policy b.gathered task e := by
  obtain ⟨resolved, -, hends⟩ := h
  exact ⟨_, (hends _).2 rfl, fun e he => (hends e).1 he⟩

/-- Everything that there is to resolve ends under the rules, in one way. -/
theorem existsUnique_evaluates (policy : Policy) (m : Gathered) (task : g.Task) :
    ∃! e, Evaluates policy m task e := by
  obtain ⟨hshape, htype, hinterface, hfields⟩ := follows_rules g policy
  cases task with
  | shape s => exact (hshape m.draft s).existsUnique
  | type t => exact (htype m.draft t).existsUnique
  | interface t => exact (hinterface m.draft t).existsUnique
  | fields properties => exact (hfields m.draft properties).existsUnique
  | allFields t =>
    cases hp : g.properties t with
    | error e => exact ⟨_, .unreadable hp, fun e' he' => (evaluates_unreadable_iff hp).1 he'⟩
    | ok properties =>
      obtain ⟨e, he, hunique⟩ := (hfields m.draft (properties.filter policy.keeps)).existsUnique
      refine ⟨_, .readable hp he, fun e' he' => ?_⟩
      obtain ⟨e'', he'', rfl⟩ := (evaluates_readable_iff hp).1 he'
      rw [hunique e'' he'']

/-- What a translation starts from: the name of its root has been seen. -/
def gatheredAtStart (root : g.Node) : Gathered :=
  { seen := [(g.descriptor root).fullName], nested := [] }

/-- The artifact that an ending of the fields of the root gives. -/
def Ending.artifact (policy : Policy) (root : g.Node) (e : g.Ending (List Field)) :
    Except ε Artifact :=
  e.result.map fun fields =>
    { root := interfaceOf policy (g.descriptor root) fields true
      nested := (e.after.nested.map (·.2)).mergeSort declaredBefore }

section Root

variable {root : g.Node}

/-- A translation ends as the rules say for the fields of its root. -/
theorem exists_evaluates_root (hkind : (g.descriptor root).kind ≠ .enumeration) :
    ∃ e, Evaluates policy (gatheredAtStart root) (.allFields root) e ∧
      e.artifact policy root = g.artifact policy root ∧ e.resolved = g.reads policy root := by
  cases hp : g.properties root with
  | error e =>
    refine ⟨_, .unreadable hp, ?_, ?_⟩
    · unfold artifact translate
      simp only [if_neg hkind, hp]
      rfl
    · unfold reads translate
      simp only [if_neg hkind, hp]
  | ok properties =>
    obtain ⟨resolved, hreads, hends⟩ :=
      (follows_rules g policy).2.2.2 (.start root) (properties.filter policy.keeps)
    refine ⟨_, .readable hp ((hends _).2 rfl), ?_, ?_⟩
    · unfold artifact translate
      simp only [if_neg hkind, hp]
      rfl
    · unfold reads translate
      simp only [if_neg hkind, hp]
      exact hreads.symm

/-- The properties of a type are taken once at most: no two of the read types have one name. -/
theorem nodup_reads : ((g.reads policy root).map fun t => (g.descriptor t).fullName).Nodup := by
  by_cases hkind : (g.descriptor root).kind = .enumeration
  · unfold reads translate
    simp only [if_pos hkind]
    exact .nil
  · cases hp : g.properties root with
    | error e =>
      unfold reads translate
      simp only [if_neg hkind, hp]
      exact List.nodup_singleton _
    | ok properties =>
      rw [reads_eq hkind hp, List.map_cons, List.map_map]
      refine List.nodup_cons.2 ⟨fun hmem => ?_, nodup_walk _ _⟩
      obtain ⟨v, hv, hvname⟩ := List.mem_map.1 hmem
      exact fullName_not_mem_of_mem_walk hv (List.mem_singleton.2 hvname)

/-- The read types are those that the artifact declares. -/
theorem reads_perm_declarations (hkind : (g.descriptor root).kind ≠ .enumeration) {a : Artifact}
    (h : g.artifact policy root = .ok a) :
    ((g.reads policy root).map fun t => (g.descriptor t).fullName).Perm
      (a.declarations.map (·.source)) := by
  obtain ⟨properties, hp, hn, ha⟩ := visits_of_artifact hkind h
  have hnested := ha.nested_perm.map (·.source)
  rw [source_of_mem_collected hn] at hnested
  rw [reads_eq hkind hp, List.map_cons, List.map_map]
  unfold Artifact.declarations
  rw [List.map_append, List.map_singleton, ha.root_eq]
  exact (hnested.symm.cons _).trans (List.perm_append_singleton _ _).symm

end Root

/-- Under rules without any measure or bound, everything that there is to resolve ends, and in one
way.  A translation ends as they say, and resolves the fields of no name twice: once those of the
root, and once those of each interface beside it if it succeeds. -/
theorem translation_resolves_once (g : TypeGraph ε) (policy : Policy) (root : g.Node) :
    (∀ (m : Gathered) (task : g.Task), ∃! e, Evaluates policy m task e) ∧
    ((g.descriptor root).kind = .enumeration → g.reads policy root = []) ∧
    ((g.descriptor root).kind ≠ .enumeration → ∃ e,
      Evaluates policy (gatheredAtStart root) (.allFields root) e ∧
      e.artifact policy root = g.artifact policy root ∧ e.resolved = g.reads policy root ∧
      (∃ others, e.resolved = root :: others) ∧
      (e.resolved.map fun t => (g.descriptor t).fullName).Nodup ∧
      ∀ a, g.artifact policy root = .ok a →
        (e.resolved.map fun t => (g.descriptor t).fullName).Perm
          (a.declarations.map (·.source))) := by
  refine ⟨existsUnique_evaluates policy, fun hkind => ?_, fun hkind => ?_⟩
  · unfold reads translate
    simp only [if_pos hkind]
  · obtain ⟨e, he, hartifact, hresolved⟩ : ∃ e,
        Evaluates policy (gatheredAtStart root) (.allFields root) e ∧
        e.artifact policy root = g.artifact policy root ∧ e.resolved = g.reads policy root :=
      exists_evaluates_root hkind
    refine ⟨e, he, hartifact, hresolved, ?_, ?_, fun a ha => ?_⟩
    · cases he with
      | unreadable _ => exact ⟨_, rfl⟩
      | readable _ _ => exact ⟨_, rfl⟩
    · rw [hresolved]
      exact nodup_reads
    · rw [hresolved]
      exact reads_perm_declarations hkind ha

/-- The two other classes of the ring are mentioned twice and their fields are resolved once. -/
theorem resolved_of_ring :
    (ring.descriptor (0 : Fin 4)).kind ≠ .enumeration ∧ ∃ e : ring.Ending (List Field),
      Evaluates {} { seen := ["app.A"], nested := [] } (.allFields (0 : Fin 4)) e ∧
      e.resolved = ([0, 1, 2] : List (Fin 4)) ∧
      ∀ a, ring.artifact {} (0 : Fin 4) = .ok a →
        ["app.A", "app.B", "app.C"].Perm (a.declarations.map (·.source)) := by
  have hkind : (ring.descriptor (0 : Fin 4)).kind ≠ .enumeration := by decide
  obtain ⟨e, he, -, hresolved, -, -, hperm⟩ :=
    (translation_resolves_once ring {} (0 : Fin 4)).2.2 hkind
  have hreads : ring.reads {} (0 : Fin 4) = ([0, 1, 2] : List (Fin 4)) := by
    cbv
  refine ⟨hkind, e, he, hresolved.trans hreads, fun a ha => ?_⟩
  have h := hperm a ha
  rw [hresolved, hreads] at h
  exact h

end TypeExport.TypeGraph

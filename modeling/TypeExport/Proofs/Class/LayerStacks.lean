import TypeExport.Annotation.Subscript
import TypeExport.Proofs.Action
import TypeExport.Proofs.Class.PlainProperties

/-!
# Stacks of layers

The layers of an annotation are a stack around its type.  All of them come off whatever their order
is, and what they say beside the type depends on the layers of the stack and not on their order,
except for the order of notes.  Notes directly around other notes join these, behind them.

Layers are put around a hint by subscription, and a form takes its argument for a type: the null value
for its class, and a text for an annotation that is evaluated later.  Only a type with a name of its
own keeps what it is given.  So the innermost layer decides what is left of a null value or of a text.
-/

namespace TypeExport.Hint

inductive Layer where
  | notes (ns : List Hint)
  | final
  | classVariable
  | mapped
  | named (name : String)

namespace Layer

def build (w : World) : Layer → Hint → Except Failure Hint
  | .notes ns, h => subscript w (.standard "typing.Annotated") (h :: ns) true
  | .final, h => subscript w (.form "Final") [h] false
  | .classVariable, h => subscript w (.form "ClassVar") [h] false
  | .mapped, h => subscript w (.type mappedClass) [h] false
  | .named name, h => .ok (.newType name h)

/-- What the layer makes of a hint before it stands around it. -/
def takes : Layer → Hint → Hint
  | .named _, h => h
  | .notes _, .text s => .forward s true
  | _, .text s => .forward s false
  | _, .constant .null => nullType
  | _, h => h

/-- The hint with the layer around it. -/
def around : Layer → Hint → Hint
  | .notes ns, h => annotate h ns
  | .final, h => .final h
  | .classVariable, h => .classVariable h
  | .mapped, h => .applied mappedClass [h] false
  | .named name, h => .newType name h

/-- What a layer notes. -/
def noted : Layer → List Hint
  | .notes ns => ns
  | _ => []

def isNotes : Layer → Bool
  | .notes _ => true
  | _ => false

end Layer

/-- Builds a stack of layers around a core, the outermost layer first. -/
def build (w : World) (stack : List Layer) (core : Hint) : Except Failure Hint :=
  stack.foldr (fun l inner => do l.build w (← inner)) (.ok core)

/-- What a stack leaves of its core: what the innermost layer takes it for. -/
def settled (stack : List Layer) (core : Hint) : Hint :=
  match stack.getLast? with
  | none => core
  | some l => l.takes core

/-- The core with a stack of layers around it, the outermost layer first. -/
def wrap (stack : List Layer) (core : Hint) : Hint :=
  stack.foldr Layer.around core

/-- A hint that has no layer around it. -/
def IsCore : Hint → Prop
  | .annotated _ _ | .final _ | .classVariable _ | .newType _ _ => False
  | .applied origin _ _ => origin ≠ mappedClass
  | .form name => name ≠ "Final" ∧ name ≠ "ClassVar"
  | _ => True

/-- The notes of a stack, those of outer layers first.  Notes directly around other notes stand behind
these; `outer` are the notes directly around the stack. -/
def notesFrom (outer : List Hint) : List Layer → List Hint
  | [] => outer
  | .notes ns :: rest => notesFrom (ns ++ outer) rest
  | .final :: rest | .classVariable :: rest | .mapped :: rest | .named _ :: rest =>
    outer ++ notesFrom [] rest

/-- No notes are directly around other notes. -/
def IsParted (stack : List Layer) : Prop :=
  stack.IsChain fun l l' => l.isNotes = false ∨ l'.isNotes = false

/-- A text that declares a class variable: one that begins so, blanks apart. -/
def IsClassVariableText (h : Hint) : Prop :=
  ∃ s blanks word rest, h = .text s ∧ (∀ c ∈ blanks, Text.blankChar c = true) ∧
    word ∈ classVariableWords ∧ s.toList = blanks ++ (word ++ rest)

/-- What the layers of a stack around a core say. -/
structure IsPeeled (stack : List Layer) (core : Hint) (l : Layers) : Prop where
  core_eq : l.core = settled stack core
  isFinal_iff : l.isFinal = true ↔ .final ∈ stack
  isClassVariable_iff :
    l.isClassVariable = true ↔ .classVariable ∈ stack ∨ IsClassVariableText (settled stack core)
  notes_eq : l.notes = notesFrom [] stack

/-- Two stacks leave alike of a core: both keep it or both take it for a type, or the core is neither
the null value nor a text that declares a class variable. -/
def EndAlike (core : Hint) (stack stack' : List Layer) : Prop :=
  (settled stack core = core ↔ settled stack' core = core) ∨
    core ≠ .constant .null ∧ ¬IsClassVariableText core

/-! ## Building -/

section Building

variable {w : World} {h h' core : Hint} {l : Layer} {stack : List Layer}

/-- A hint that a form takes as it is. -/
structure IsFirm (h : Hint) : Prop where
  noText : ∀ s, h ≠ .text s
  notNull : h ≠ .constant .null

theorem IsFirm.takes_eq (hfirm : IsFirm h) (l : Layer) : l.takes h = h := by
  unfold Layer.takes
  split
  · rfl
  · exact absurd rfl (hfirm.noText _)
  · exact absurd rfl (hfirm.noText _)
  · exact absurd rfl hfirm.notNull
  · rfl

theorem isFirm_around (l : Layer) (h : Hint) : IsFirm (l.around h) := by
  cases l with
  | notes ns => cases h <;> exact ⟨nofun, nofun⟩
  | final => exact ⟨nofun, nofun⟩
  | classVariable => exact ⟨nofun, nofun⟩
  | mapped => exact ⟨nofun, nofun⟩
  | named name => exact ⟨nofun, nofun⟩

theorem forwardOf_eq_ok {s : String} {special : Bool} (h : forwardOf s special = .ok h') :
    h' = .forward s special := by
  unfold forwardOf at h
  split at h
  · cases h
  · split at h
    · exact (Except.ok.inj h).symm
    · cases h

/-- What a form takes as a type is the hint itself, or what typing makes of it. -/
theorem asType_eq_ok {special : Bool} (hl : l.isNotes = special) (hname : ∀ name, l ≠ .named name)
    (h : asType special core = .ok h') : h' = l.takes core := by
  unfold asType at h
  split at h
  · cases l with
    | named name => exact absurd rfl (hname name)
    | _ => exact (Except.ok.inj h).symm
  · rw [forwardOf_eq_ok h, ← hl]
    cases l with
    | named name => exact absurd rfl (hname name)
    | _ => rfl
  · rename_i hnull htext
    have hfirm : IsFirm core := ⟨fun s hs => htext s hs, hnull⟩
    rw [hfirm.takes_eq, Except.ok.inj h]

theorem asArgument_eq_ok {special : Bool} (hl : l.isNotes = special)
    (hname : ∀ name, l ≠ .named name) (h : asArgument special core = .ok h') :
    h' = l.takes core := by
  obtain ⟨t, htype, hargument⟩ := bind_eq_ok_iff.1 h
  split at hargument
  · rw [← Except.ok.inj hargument]
    exact asType_eq_ok hl hname htype
  · cases hargument

theorem subscription_mappedClass (w : World) : subscription w mappedClass = .checked 1 := by
  have hgeneric : w.derivesStandard mappedClass "typing.Generic" = true := by
    have hempty : World.empty.derivesStandard mappedClass "typing.Generic" = true := by
      decide +kernel
    exact hempty
  have hcount : ((StandardClass.find? "sqlalchemy.orm.base.Mapped").map (·.subscription)).getD .none =
      .checked 1 := by
    decide +kernel
  unfold subscription
  rw [if_pos hgeneric]
  exact hcount

theorem build_notes (w : World) (n : Hint) (ns : List Hint) (h : Hint) :
    (Layer.notes (n :: ns)).build w h = (do return annotate (← asArgument true h) (n :: ns)) :=
  rfl

/-- The class of mapped annotations takes what every class takes. -/
theorem build_mapped (w : World) (h : Hint) :
    Layer.mapped.build w h = (do return .applied mappedClass [← asType false h] false) := by
  have hplain : w.isEnumeration mappedClass = false := by
    have hempty : World.empty.isEnumeration mappedClass = false := by decide +kernel
    exact hempty
  show applyClass w mappedClass [h] false = _
  unfold applyClass
  rw [if_neg (by decide), if_neg (by decide), if_neg (by decide), hplain, if_neg Bool.false_ne_true,
    subscription_mappedClass]
  show (do
    let arguments ← [h].mapM (asType false)
    if arguments.length = 1 && 1 != 0 then return .applied mappedClass arguments false
    else throw Failure.illTyped : Except Failure Hint) = _
  rw [List.mapM_cons, List.mapM_nil]
  cases asType false h <;> rfl

/-- A layer that can be put around a hint stands around what it takes the hint for. -/
theorem Layer.build_eq_ok (h : l.build w core = .ok h') : h' = l.around (l.takes core) := by
  cases l with
  | notes ns =>
    cases ns with
    | nil => cases h
    | cons n ns =>
      rw [build_notes] at h
      obtain ⟨t, htakes, ht⟩ := bind_eq_ok_iff.1 h
      rw [← asArgument_eq_ok (l := .notes (n :: ns)) rfl nofun htakes]
      exact (Except.ok.inj ht).symm
  | final =>
    obtain ⟨t, htakes, ht⟩ := bind_eq_ok_iff.1 h
    rw [← asArgument_eq_ok (l := .final) rfl nofun htakes]
    exact (Except.ok.inj ht).symm
  | classVariable =>
    obtain ⟨t, htakes, ht⟩ := bind_eq_ok_iff.1 h
    rw [← asArgument_eq_ok (l := .classVariable) rfl nofun htakes]
    exact (Except.ok.inj ht).symm
  | mapped =>
    rw [build_mapped] at h
    obtain ⟨t, htakes, ht⟩ := bind_eq_ok_iff.1 h
    rw [← asType_eq_ok (l := .mapped) rfl nofun htakes]
    exact (Except.ok.inj ht).symm
  | named name => exact (Except.ok.inj h).symm

/-- A stack that can be built is the plain stack around what its innermost layer makes of the core. -/
theorem eq_wrap_of_build (h : build w stack core = .ok h') :
    h' = wrap stack (settled stack core) := by
  induction stack generalizing h' with
  | nil => exact (Except.ok.inj h).symm
  | cons l rest ih =>
    obtain ⟨inner, hrest, hlayer⟩ := bind_eq_ok_iff.1 h
    rw [Layer.build_eq_ok hlayer, ih hrest]
    cases rest with
    | nil => rfl
    | cons next rest =>
      have hsettled : settled (l :: next :: rest) core = settled (next :: rest) core := by
        unfold settled
        rw [List.getLast?_cons_cons]
      rw [hsettled]
      exact congrArg l.around ((isFirm_around next _).takes_eq l)

end Building

/-! ## One layer -/

section OneLayer

variable {h core : Hint} {l : Layer}

theorem annotate_annotate (h : Hint) (inner outer : List Hint) :
    annotate (annotate h inner) outer = annotate h (inner ++ outer) := by
  cases h with
  | annotated core first => exact congrArg (Hint.annotated core) (List.append_assoc _ _ _)
  | _ => rfl

theorem annotate_of_ne (hne : ∀ inner ns, h ≠ .annotated inner ns) (ns : List Hint) :
    annotate h ns = .annotated h ns := by
  cases h with
  | annotated inner first => exact absurd rfl (hne inner first)
  | _ => rfl

theorem layers_mapped (h : Hint) : (Layer.mapped.around h).layers = h.layers := by
  rw [Layer.around, layers, if_pos rfl, firstLayers]

/-- Notes only change the notes. -/
theorem layers_annotate (h : Hint) (ns : List Hint) :
    (annotate h ns).layers = { h.layers with notes := (annotate h ns).layers.notes } := by
  cases h with
  | annotated core first => simp only [annotate, layers]
  | _ => simp only [annotate, layers]

theorem core_around (l : Layer) (h : Hint) : (l.around h).layers.core = h.layers.core := by
  cases l with
  | notes ns => rw [Layer.around, layers_annotate]
  | final => rw [Layer.around, layers]
  | classVariable => rw [Layer.around, layers]
  | mapped => rw [layers_mapped]
  | named name => rw [Layer.around, layers]

/-- One layer more makes a hint final just if it is that layer. -/
theorem isFinal_around_iff :
    (l.around h).layers.isFinal = true ↔ .final = l ∨ h.layers.isFinal = true := by
  cases l with
  | notes ns =>
    rw [Layer.around, layers_annotate]
    simp
  | final =>
    rw [Layer.around, layers]
    simp
  | classVariable =>
    rw [Layer.around, layers]
    simp
  | mapped =>
    rw [layers_mapped]
    simp
  | named name =>
    rw [Layer.around, layers]
    simp

/-- One layer more makes a class variable just if it is that layer. -/
theorem isClassVariable_around_iff :
    (l.around h).layers.isClassVariable = true ↔
      .classVariable = l ∨ h.layers.isClassVariable = true := by
  cases l with
  | notes ns =>
    rw [Layer.around, layers_annotate]
    simp
  | final =>
    rw [Layer.around, layers]
    simp
  | classVariable =>
    rw [Layer.around, layers]
    simp
  | mapped =>
    rw [layers_mapped]
    simp
  | named name =>
    rw [Layer.around, layers]
    simp

theorem shape_around (l : Layer) (h : Hint) : (l.around h).shape = h.shape := by
  cases l with
  | notes ns =>
    cases h with
    | annotated core first => simp only [Layer.around, annotate, shape]
    | _ => simp only [Layer.around, annotate, shape]
  | final => rw [Layer.around, shape]
  | classVariable => rw [Layer.around, shape]
  | mapped => rw [Layer.around, shape, if_pos rfl, shapeOfFirst]
  | named name => rw [Layer.around, shape]

/-- A core has no layers to take off. -/
theorem layers_of_isCore (hcore : IsCore core) :
    core.layers = { core, isClassVariable := core.layers.isClassVariable } := by
  cases core with
  | annotated _ _ => cases hcore
  | final _ => cases hcore
  | classVariable _ => cases hcore
  | newType _ _ => cases hcore
  | applied origin arguments native => rw [layers, if_neg hcore]
  | form name =>
    unfold layers
    split
    all_goals simp_all [IsCore]
  | _ => rfl

/-- A core makes a class variable just if it is a text that says so. -/
theorem isClassVariable_core_iff (hcore : IsCore core) :
    core.layers.isClassVariable = true ↔ IsClassVariableText core := by
  rw [isClassVariable_layers_iff]
  constructor
  · intro h
    cases h with
    | text hblanks hword hs => exact ⟨_, _, _, _, rfl, hblanks, hword, hs⟩
    | form => exact absurd rfl hcore.2
    | mapped _ => exact absurd rfl hcore
    | classVariable => cases hcore
    | annotated _ => cases hcore
    | final _ => cases hcore
    | newType _ => cases hcore
  · rintro ⟨s, blanks, word, rest, rfl, hblanks, hword, hs⟩
    exact .text hblanks hword hs

end OneLayer

/-! ## A whole stack -/

section Stacks

variable {h core : Hint} {l : Layer} {stack stack' : List Layer} {name : String}

theorem core_wrap (hcore : IsCore core) (stack : List Layer) :
    (wrap stack core).layers.core = core := by
  induction stack with
  | nil =>
    rw [wrap, List.foldr_nil, layers_of_isCore hcore]
  | cons l rest ih =>
    calc
      (wrap (l :: rest) core).layers.core = (wrap rest core).layers.core := core_around l _
      _ = core := ih

theorem shape_wrap (stack : List Layer) (core : Hint) : (wrap stack core).shape = core.shape := by
  induction stack with
  | nil => rfl
  | cons l rest ih =>
    calc
      (wrap (l :: rest) core).shape = (wrap rest core).shape := shape_around l _
      _ = core.shape := ih

theorem isFinal_wrap_iff (hcore : IsCore core) :
    (wrap stack core).layers.isFinal = true ↔ .final ∈ stack := by
  induction stack with
  | nil =>
    rw [wrap, List.foldr_nil, layers_of_isCore hcore]
    simp
  | cons l rest ih =>
    rw [List.mem_cons, ← ih]
    exact isFinal_around_iff

theorem isClassVariable_wrap_iff (hcore : IsCore core) :
    (wrap stack core).layers.isClassVariable = true ↔
      .classVariable ∈ stack ∨ IsClassVariableText core := by
  induction stack with
  | nil =>
    rw [wrap, List.foldr_nil, isClassVariable_core_iff hcore]
    simp
  | cons l rest ih =>
    rw [List.mem_cons, or_assoc, ← ih]
    exact isClassVariable_around_iff

theorem notes_annotate_nil (h : Hint) : (annotate h []).layers.notes = h.layers.notes := by
  cases h with
  | annotated core first => rw [annotate, List.append_nil]
  | _ => simp only [annotate, layers, List.nil_append]

/-- Notes stand in front of all that is not directly around other notes. -/
theorem notes_annotate (hne : ∀ inner ns, h ≠ .annotated inner ns) (outer : List Hint) :
    (annotate h outer).layers.notes = outer ++ h.layers.notes := by
  rw [annotate_of_ne hne, layers]

/-- Notes outside of a layer that is none of notes stand before all others. -/
theorem notes_annotate_around (hl : l.isNotes = false) (h : Hint) (outer : List Hint) :
    (annotate (l.around h) outer).layers.notes = outer ++ h.layers.notes := by
  have hne : ∀ inner ns, l.around h ≠ .annotated inner ns := by
    cases l with
    | notes ns => cases hl
    | _ => nofun
  have hnotes : (l.around h).layers.notes = h.layers.notes := by
    cases l with
    | notes ns => cases hl
    | mapped => rw [layers_mapped]
    | _ => rw [Layer.around, layers]
  rw [notes_annotate hne, hnotes]

theorem notesFrom_cons (hl : l.isNotes = false) (outer : List Hint) (rest : List Layer) :
    notesFrom outer (l :: rest) = outer ++ notesFrom [] rest := by
  cases l with
  | notes ns => cases hl
  | _ => rw [notesFrom]

/-- The notes around a stack come first, unless they are directly around other notes. -/
theorem notes_annotate_wrap (hcore : IsCore core) (outer : List Hint) (stack : List Layer) :
    (annotate (wrap stack core) outer).layers.notes = notesFrom outer stack := by
  induction stack generalizing outer with
  | nil =>
    have hne : ∀ inner ns, core ≠ .annotated inner ns := by
      rintro _ _ rfl
      exact hcore
    rw [wrap, List.foldr_nil, notes_annotate hne, layers_of_isCore hcore, List.append_nil, notesFrom]
  | cons l rest ih =>
    cases hl : l.isNotes with
    | true =>
      cases l with
      | notes ns =>
        calc
          (annotate (annotate (wrap rest core) ns) outer).layers.notes =
              (annotate (wrap rest core) (ns ++ outer)).layers.notes := by rw [annotate_annotate]
          _ = notesFrom (ns ++ outer) rest := ih (ns ++ outer)
      | _ => cases hl
    | false =>
      calc
        (annotate (l.around (wrap rest core)) outer).layers.notes =
            outer ++ (wrap rest core).layers.notes := notes_annotate_around hl _ _
        _ = outer ++ notesFrom [] rest := by rw [← notes_annotate_nil, ih]
        _ = notesFrom outer (l :: rest) := (notesFrom_cons hl _ _).symm

theorem notes_wrap (hcore : IsCore core) (stack : List Layer) :
    (wrap stack core).layers.notes = notesFrom [] stack := by
  rw [← notes_annotate_wrap hcore, notes_annotate_nil]

theorem isCore_takes (hcore : IsCore core) (l : Layer) : IsCore (l.takes core) := by
  unfold Layer.takes
  split
  · exact hcore
  · trivial
  · trivial
  · trivial
  · exact hcore

theorem isCore_settled (hcore : IsCore core) (stack : List Layer) : IsCore (settled stack core) := by
  unfold settled
  split
  · exact hcore
  · exact isCore_takes hcore _

theorem isPeeled_layers (hcore : IsCore core) (stack : List Layer) :
    IsPeeled stack core (wrap stack (settled stack core)).layers where
  core_eq := core_wrap (isCore_settled hcore stack) stack
  isFinal_iff := isFinal_wrap_iff (isCore_settled hcore stack)
  isClassVariable_iff := isClassVariable_wrap_iff (isCore_settled hcore stack)
  notes_eq := notes_wrap (isCore_settled hcore stack) stack

/-- Each note of a stack is read once, whatever the order. -/
theorem notesFrom_perm (outer : List Hint) (stack : List Layer) :
    (notesFrom outer stack).Perm (outer ++ stack.flatMap Layer.noted) := by
  induction stack generalizing outer with
  | nil => rw [notesFrom, List.flatMap_nil, List.append_nil]
  | cons l rest ih =>
    cases hl : l.isNotes with
    | true =>
      cases l with
      | notes ns =>
        rw [notesFrom, List.flatMap_cons, ← List.append_assoc]
        exact (ih (ns ++ outer)).trans (List.perm_append_comm.append_right _)
      | _ => cases hl
    | false =>
      have hnoted : l.noted = [] := by
        cases l with
        | notes ns => cases hl
        | _ => rfl
      rw [notesFrom_cons hl, List.flatMap_cons, hnoted]
      exact (ih []).append_left outer

/-- Where no notes join others, the notes are those of the layers in order. -/
theorem notesFrom_of_isParted (h : IsParted stack) :
    notesFrom [] stack = stack.flatMap Layer.noted := by
  induction stack with
  | nil => rfl
  | cons l rest ih =>
    cases rest with
    | nil =>
      cases l with
      | notes ns => simp [notesFrom, Layer.noted]
      | _ => rfl
    | cons l' rest =>
      obtain ⟨hnext, hrest⟩ := List.isChain_cons_cons.1 h
      rw [List.flatMap_cons, ← ih hrest]
      cases l with
      | notes ns =>
        have hl' : l'.isNotes = false := hnext.resolve_left Bool.noConfusion
        rw [notesFrom, List.append_nil, Layer.noted, notesFrom_cons hl', notesFrom_cons hl',
          List.nil_append]
      | _ => rfl

/-! ## Reorderings -/

/-- What a layer takes a hint for, if it is not the hint itself, says nothing of a class variable. -/
theorem takes_cases (l : Layer) (h : Hint) :
    l.takes h = h ∨ (h = .constant .null ∧ l.takes h = nullType) ∨
      ∃ s special, h = .text s ∧ l.takes h = .forward s special := by
  unfold Layer.takes
  split
  · exact .inl rfl
  · exact .inr (.inr ⟨_, _, rfl, rfl⟩)
  · exact .inr (.inr ⟨_, _, rfl, rfl⟩)
  · exact .inr (.inl ⟨rfl, rfl⟩)
  · exact .inl rfl

theorem settled_cases (stack : List Layer) (core : Hint) :
    settled stack core = core ∨ (core = .constant .null ∧ settled stack core = nullType) ∨
      ∃ s special, core = .text s ∧ settled stack core = .forward s special := by
  unfold settled
  split
  · exact .inl rfl
  · exact takes_cases _ core

theorem not_isClassVariableText_forward (s : String) (special : Bool) :
    ¬IsClassVariableText (.forward s special) := by
  rintro ⟨_, _, _, _, h, -⟩
  cases h

/-- Stacks that leave alike of a core leave the same shape, and the same word of a class variable. -/
theorem EndAlike.settled_alike (h : EndAlike core stack stack') :
    (settled stack core).shape = (settled stack' core).shape ∧
      (IsClassVariableText (settled stack core) ↔ IsClassVariableText (settled stack' core)) := by
  rcases h with hkept | ⟨hnull, htext⟩
  · by_cases hkeeps : settled stack core = core
    · rw [hkeeps, hkept.1 hkeeps]
      exact ⟨rfl, .rfl⟩
    · -- both take it for a type
      have hcases := (settled_cases stack core).resolve_left hkeeps
      have hcases' := (settled_cases stack' core).resolve_left (mt hkept.2 hkeeps)
      rcases hcases with ⟨rfl, heq⟩ | ⟨s, special, rfl, heq⟩
      · obtain ⟨-, heq'⟩ := hcases'.resolve_right (fun ⟨_, _, htext, _⟩ => nomatch htext)
        rw [heq, heq']
        exact ⟨rfl, .rfl⟩
      · obtain ⟨_, _, -, heq'⟩ := hcases'.resolve_left (fun ⟨hnull, _⟩ => nomatch hnull)
        rw [heq, heq']
        exact ⟨rfl, iff_of_false (not_isClassVariableText_forward _ _)
          (not_isClassVariableText_forward _ _)⟩
  · have hsame : ∀ stack, (settled stack core).shape = core.shape ∧
        ¬IsClassVariableText (settled stack core) := by
      intro stack
      rcases settled_cases stack core with heq | ⟨rfl, -⟩ | ⟨s, special, rfl, heq⟩
      · rw [heq]
        exact ⟨rfl, htext⟩
      · exact absurd rfl hnull
      · rw [heq]
        exact ⟨rfl, not_isClassVariableText_forward s special⟩
    exact ⟨(hsame stack).1.trans (hsame stack').1.symm, iff_of_false (hsame stack).2 (hsame stack').2⟩

/-- Whether any note passes a test does not depend on the order of the layers. -/
theorem any_notes_wrap_of_perm {core' : Hint} (hcore : IsCore core) (hcore' : IsCore core')
    (hperm : stack.Perm stack') (p : Hint → Bool) :
    (wrap stack core).layers.notes.any p = (wrap stack' core').layers.notes.any p := by
  have hnotes : ∀ stack {core}, IsCore core →
      (wrap stack core).layers.notes.Perm (stack.flatMap Layer.noted) := by
    intro stack core hcore
    rw [notes_wrap hcore]
    exact notesFrom_perm [] stack
  have hnoted : (stack.flatMap Layer.noted).Perm (stack'.flatMap Layer.noted) :=
    hperm.flatMap_right _
  apply List.Perm.any_eq
  exact (hnotes stack hcore).trans (hnoted.trans (hnotes stack' hcore').symm)

theorem isFinal_wrap_of_perm {core' : Hint} (hcore : IsCore core) (hcore' : IsCore core')
    (hperm : stack.Perm stack') :
    (wrap stack core).layers.isFinal = (wrap stack' core').layers.isFinal := by
  rw [Bool.eq_iff_iff, isFinal_wrap_iff hcore, isFinal_wrap_iff hcore', hperm.mem_iff]

theorem isClassVariable_wrap_of_perm {core' : Hint} (hcore : IsCore core) (hcore' : IsCore core')
    (hperm : stack.Perm stack') (hsame : IsClassVariableText core ↔ IsClassVariableText core') :
    (wrap stack core).IsClassVariable ↔ (wrap stack' core').IsClassVariable := by
  rw [← isClassVariable_layers_iff, ← isClassVariable_layers_iff, isClassVariable_wrap_iff hcore,
    isClassVariable_wrap_iff hcore', hperm.mem_iff, hsame]

end Stacks

end TypeExport.Hint

namespace TypeExport.World

open Hint

/-- Hints of one name: a stack of layers that is built around a core, and a reordering of the stack
that ends alike, or one hint whatever it is. -/
inductive IsReordered (w w' : World) : String × Hint → String × Hint → Prop
  | refl (entry : String × Hint) : IsReordered w w' entry entry
  | intro {name : String} {stack stack' : List Layer} {core h h' : Hint} (hcore : IsCore core)
    (hperm : stack.Perm stack') (hends : EndAlike core stack stack')
    (hbuild : build w stack core = .ok h) (hbuild' : build w' stack' core = .ok h') :
    IsReordered w w' (name, h) (name, h')

section Reorderings

variable {entry entry' : String × Hint} {table table' : List (String × Hint)} {w w' : World}
  {c c' : ClassRef}

/-- Reordered stacks around one core show the same property, or none. -/
theorem IsReordered.property_eq (h : IsReordered w w' entry entry') :
    (if IsShown entry.1 entry.2 then some (ownProperty entry.1 entry.2) else none) =
      if IsShown entry'.1 entry'.2 then some (ownProperty entry'.1 entry'.2) else none := by
  cases h with
  | refl => rfl
  | @intro name stack stack' core h h' hcore hperm hends hbuild hbuild' =>
    have hleft := isCore_settled hcore stack
    have hright := isCore_settled hcore stack'
    obtain ⟨hshape, htext⟩ := hends.settled_alike
    rw [eq_wrap_of_build hbuild, eq_wrap_of_build hbuild']
    have hproperty : ownProperty name (wrap stack (settled stack core)) =
        ownProperty name (wrap stack' (settled stack' core)) := by
      simp only [ownProperty, shape_wrap, hshape, any_notes_wrap_of_perm hleft hright hperm,
        isFinal_wrap_of_perm hleft hright hperm]
    have hshown : IsShown name (wrap stack (settled stack core)) ↔
        IsShown name (wrap stack' (settled stack' core)) := by
      unfold IsShown
      rw [isClassVariable_wrap_of_perm hleft hright hperm htext]
    simp only [hshown, hproperty]

theorem filterMap_eq_of_forall₂ {α β γ : Type} {R : α → β → Prop} {f : α → Option γ}
    {g : β → Option γ} {l : List α} {l' : List β} (h : List.Forall₂ R l l')
    (hfg : ∀ a b, R a b → f a = g b) : l.filterMap f = l'.filterMap g := by
  induction h with
  | nil => rfl
  | cons hab _ ih => rw [List.filterMap_cons, List.filterMap_cons, hfg _ _ hab, ih]

/-- All layers of a stack that can be built come off its core, in whatever order they are.  The flags
are those of some layer or of the core, and the notes are those of the layers, outer ones first if no
notes are directly around other notes.  Plain classes whose hints are reorderings of each other around
the same cores have the same properties, unless one of two stacks keeps a null value, or a text that
declares a class variable, and the other one does not. -/
theorem layers_come_off {stack : List Layer} {core h : Hint} (hcore : IsCore core)
    (hbuild : build w stack core = .ok h) (hplain : w.IsPlain c) (hplain' : w'.IsPlain c')
    (hhints : w.hints c = .ok table) (hhints' : w'.hints c' = .ok table')
    (hsame : List.Forall₂ (IsReordered w w') table table') (broken broken' : List ClassRef) :
    IsPeeled stack core h.layers ∧
      (IsParted stack → h.layers.notes = stack.flatMap Layer.noted) ∧
      h.shape = (settled stack core).shape ∧
      w.typeProperties broken (some c) = w'.typeProperties broken' (some c') := by
  have hpeeled := isPeeled_layers hcore stack
  rw [← eq_wrap_of_build hbuild] at hpeeled
  refine ⟨hpeeled, fun hparted => ?_, ?_, ?_⟩
  · rw [hpeeled.notes_eq, notesFrom_of_isParted hparted]
  · rw [eq_wrap_of_build hbuild]
    exact shape_wrap stack _
  · rw [typeProperties_eq hplain, typeProperties_eq hplain', hhints, hhints']
    apply congrArg Except.ok
    exact filterMap_eq_of_forall₂ hsame fun _ _ hentry => hentry.property_eq

/-- A final key with notes around it and notes of its own. -/
def keyLayers : List Layer :=
  [.final, .notes [.note (.reference none)], .named "Key", .notes [.note .ignore]]

/-- Two classes whose buyers have the layers of keys, in one order and in the other. -/
def orderWorld : World :=
  .ofModule "shop" [
    annotatedClass "shop" "Order" [.defined 0, objectClass]
      [("buyer", wrap keyLayers (.standard "builtins.int"))],
    annotatedClass "shop" "Return" [.defined 1, objectClass]
      [("buyer", wrap keyLayers.reverse (.standard "builtins.int"))]]

/-- Notes, a mapped layer and a new type around an integer, in both orders, give one property. -/
theorem layers_of_orderWorld :
    IsCore (.standard "builtins.int") ∧
      build orderWorld keyLayers (.standard "builtins.int") =
        .ok (wrap keyLayers (.standard "builtins.int")) ∧
      orderWorld.IsPlain (.defined 0) ∧ orderWorld.IsPlain (.defined 1) ∧
      orderWorld.hints (.defined 0) = .ok [("buyer", wrap keyLayers (.standard "builtins.int"))] ∧
      orderWorld.hints (.defined 1) =
        .ok [("buyer", wrap keyLayers.reverse (.standard "builtins.int"))] ∧
      keyLayers.Perm keyLayers.reverse ∧
      (wrap keyLayers (.standard "builtins.int")).layers.notes =
        [.note (.reference none), .note .ignore] ∧
      (orderWorld.typeProperties [] (some (.defined 0))).map List.length = .ok 1 ∧
      orderWorld.typeProperties [] (some (.defined 0)) =
        orderWorld.typeProperties [] (some (.defined 1)) := by
  have hcore : IsCore (.standard "builtins.int") := trivial
  have hplain : orderWorld.IsPlain (.defined 0) := ⟨rfl, rfl, rfl, .inl rfl⟩
  have hplain' : orderWorld.IsPlain (.defined 1) := ⟨rfl, rfl, rfl, .inl rfl⟩
  have hhints : orderWorld.hints (.defined 0) =
      .ok [("buyer", wrap keyLayers (.standard "builtins.int"))] := rfl
  have hhints' : orderWorld.hints (.defined 1) =
      .ok [("buyer", wrap keyLayers.reverse (.standard "builtins.int"))] := rfl
  have hbuild : build orderWorld keyLayers (.standard "builtins.int") =
      .ok (wrap keyLayers (.standard "builtins.int")) := rfl
  have hbuild' : build orderWorld keyLayers.reverse (.standard "builtins.int") =
      .ok (wrap keyLayers.reverse (.standard "builtins.int")) := rfl
  have hperm : keyLayers.Perm keyLayers.reverse := (List.reverse_perm keyLayers).symm
  have hends : EndAlike (.standard "builtins.int") keyLayers keyLayers.reverse := .inl (by rfl)
  have hparted : IsParted keyLayers := by
    unfold IsParted keyLayers
    simp [Layer.isNotes]
  obtain ⟨-, hnotes, -, hsame⟩ := layers_come_off hcore hbuild hplain hplain' hhints hhints'
    (.cons (.intro hcore hperm hends hbuild hbuild') .nil) [] []
  refine ⟨hcore, hbuild, hplain, hplain', hhints, hhints', hperm, hnotes hparted, ?_, hsame⟩
  rw [typeProperties_eq hplain, hhints]
  rfl

/-- Notes that are built around a text that declares a class variable. -/
theorem build_notes_text :
    build .empty [.notes [.text "a"]] (.text "ClassVar[int]") =
      .ok (.annotated (.forward "ClassVar[int]" true) [.text "a"]) := by
  have hread : (Expr.read? "ClassVar[int]").isSome = true := by decide +kernel
  have hforward : forwardOf "ClassVar[int]" true = .ok (.forward "ClassVar[int]" true) := by
    unfold forwardOf
    rw [if_neg (by decide), if_pos hread]
  have hargument : asArgument true (.text "ClassVar[int]") = .ok (.forward "ClassVar[int]" true) := by
    unfold asArgument asType
    dsimp only
    rw [hforward]
    rfl
  show (do (Layer.notes [.text "a"]).build _ (← Except.ok _)) = _
  rw [bind_ok, build_notes, hargument]
  rfl

/-- Notes directly around other notes join these, so the outer ones are not the first.  Notes take a
text for an annotation that is evaluated later, and a type with a name of its own keeps it, so that its
class variable depends on which of them is the inner one. -/
theorem outerNotes_not_first :
    (¬∀ (w : World) (stack : List Layer) (core h : Hint), IsCore core →
      build w stack core = .ok h → h.layers.notes = stack.flatMap Layer.noted) ∧
    (¬∀ (w : World) (stack : List Layer) (core h : Hint), IsCore core →
      build w stack core = .ok h → h.layers.core = core) ∧
    ¬∀ (w : World) (stack stack' : List Layer) (core h h' : Hint), IsCore core →
      stack.Perm stack' → build w stack core = .ok h → build w stack' core = .ok h' →
        h.layers.isClassVariable = h'.layers.isClassVariable := by
  refine ⟨fun hall => ?_, fun hall => ?_, fun hall => ?_⟩
  · have hnotes := hall .empty [.notes [.text "b"], .notes [.text "a"]] (.standard "builtins.int") _
      trivial rfl
    have htext : Hint.text "a" = Hint.text "b" := (List.cons.inj hnotes).1
    exact absurd (Hint.text.inj htext) (by decide)
  · have hcore := hall .empty _ (.text "ClassVar[int]") _ trivial build_notes_text
    cases hcore
  · have hbuild : build .empty [.named "Key", .notes [.text "a"]] (.text "ClassVar[int]") =
        .ok (.newType "Key" (.annotated (.forward "ClassVar[int]" true) [.text "a"])) := by
      show (do Layer.build .empty (.named "Key") (← build .empty [.notes [.text "a"]] _)) = _
      rw [build_notes_text]
      rfl
    have hsame := hall .empty [.notes [.text "a"], .named "Key"] _ (.text "ClassVar[int]") _ _ trivial
      (.swap _ _ _) rfl hbuild
    cases hsame

end Reorderings

end TypeExport.World

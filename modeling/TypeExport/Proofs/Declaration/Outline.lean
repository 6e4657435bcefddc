import TypeExport.Name.Keyword
import TypeExport.Proofs.Declaration.Keys
import TypeExport.Proofs.Source.Digits

/-!
# What the text of an artifact says

The outline of a declaration is what its text says: its kind, its name, whether it is exported, and
its fields or members as they are written.  Line by line the text is read in one way, so artifacts
with one text have the same outlines in the same order.
-/

namespace TypeExport

/-- What the text of a declaration says.  A field has the key that is written, whether it may be
left out, and its type; a member has the value that is written. -/
structure Outline where
  kind : DeclarationKind
  exported : Bool
  target : String
  fields : List (String × Bool × String)
  members : List (String × String)
  deriving DecidableEq, Repr

/-- What the text of a declaration says under a policy. -/
def Declaration.outline (policy : Policy) (d : Declaration) : Outline :=
  { kind := d.kind
    exported := d.exported
    target := d.target
    fields := match d.kind with
      | .interface => d.fields.map fun f => (policy.fieldKey f.name, f.optional, f.typeText)
      | .enumeration => []
    members := match d.kind with
      | .interface => []
      | .enumeration => d.members.map fun m => (m.name, m.valueText) }

/-- A declaration with the text made from its fields or members, whose name and types have no line
breaks and whose members are named by identifiers. -/
structure Declaration.IsPlain (policy : Policy) (d : Declaration) : Prop where
  text_eq : d.text policy = d.render policy
  line_not_mem_target : '\n' ∉ d.target.toList
  line_not_mem_typeText : ∀ f ∈ d.fields, '\n' ∉ f.typeText.toList
  isIdentifier_name : ∀ m ∈ d.members, Name.isIdentifier m.name = true

namespace Outline

def head (o : Outline) : String :=
  ({ kind := o.kind, exported := o.exported, target := o.target } : Declaration).headLine

def fieldCode (f : String × Bool × String) : List Char :=
  [' ', ' '] ++ (f.1.toList ++ (keyMark f.2.1).toList ++
    ([' '] ++ ((f.2.2 ++ ";").toList ++ ['\n'])))

def memberCode (m : String × String) : List Char :=
  [' ', ' '] ++ (m.1.toList ++ [' '] ++ (['=', ' '] ++ (m.2.toList ++ ['\n'])))

/-- A comma behind all values but the last. -/
def withCommas : List (String × String) → List (String × String)
  | [] => []
  | [m] => [m]
  | m :: rest => (m.1, m.2 ++ ",") :: withCommas rest

def bodyCode (o : Outline) : List Char :=
  match o.kind with
  | .interface => o.fields.flatMap fieldCode
  | .enumeration => (withCommas o.members).flatMap memberCode

def code (o : Outline) : List Char :=
  (o.head.toList ++ ['\n']) ++ (o.bodyCode ++ ['\x7d']) ++ ['\n']

section Reading

/-- A written field: its key is that of some name, and its type has no line break. -/
def IsField (f : String × Bool × String) : Prop :=
  (∃ name, f.1 = writtenKey name) ∧ '\n' ∉ f.2.2.toList

/-- A written member: its name has no blank, and its value is on one line. -/
def IsMember (m : String × String) : Prop :=
  ' ' ∉ m.1.toList ∧ '\n' ∉ m.2.toList

/-- An outline whose text is read in one way: no value ends in a comma of its own, and there is
nothing that the text does not say. -/
structure IsReadable (o : Outline) : Prop where
  line_not_mem_target : '\n' ∉ o.target.toList
  isField : ∀ f ∈ o.fields, IsField f
  isMember : ∀ m ∈ o.members, IsMember m
  last_ne_comma : ∀ m ∈ o.members, m.2.toList.getLast? ≠ some ','
  members_eq_nil : o.kind = .interface → o.members = []
  fields_eq_nil : o.kind = .enumeration → o.fields = []

theorem readsUniquely_typeText :
    ReadsUniquely (fun s : String => '\n' ∉ s.toList) (fun s => (s ++ ";").toList ++ ['\n']) := by
  apply (ReadsUniquely.until_char '\n').comap (e := (· ++ ";"))
  · intro s hs
    simpa using hs
  · intro s t _ _ h
    exact (String.append_left_inj ";").1 h

theorem readsUniquely_field : ReadsUniquely IsField fieldCode := by
  have hpieces := (readsUniquely_writtenKey.seq (readsUniquely_typeText.behind [' '])).behind
    [' ', ' ']
  apply hpieces.comap (e := fun f : String × Bool × String => ((f.1, f.2.1), f.2.2))
  · exact fun f hf => hf
  · rintro ⟨key, optional, typeText⟩ ⟨key', optional', typeText'⟩ - - h
    cases h
    rfl

theorem readsUniquely_member : ReadsUniquely IsMember memberCode :=
  ((ReadsUniquely.until_char ' ').seq ((ReadsUniquely.until_char '\n').behind ['=', ' '])).behind
    [' ', ' ']

/-- A value without the comma behind it. -/
def withoutComma (m : String × String) : String × String :=
  (m.1, if m.2.toList.getLast? = some ',' then String.ofList m.2.toList.dropLast else m.2)

theorem withoutComma_of_ne {m : String × String} (h : m.2.toList.getLast? ≠ some ',') :
    withoutComma m = m := by
  rw [withoutComma, if_neg h]

theorem withoutComma_comma (name value : String) :
    withoutComma (name, value ++ ",") = (name, value) := by
  have hvalue : (value ++ ",").toList = value.toList ++ [','] := by
    rw [String.toList_append]
    rfl
  simp [withoutComma, hvalue]

/-- The commas can be taken away again, as no value has one of its own at its end. -/
theorem map_withoutComma {members : List (String × String)}
    (h : ∀ m ∈ members, m.2.toList.getLast? ≠ some ',') :
    (withCommas members).map withoutComma = members := by
  induction members with
  | nil => rfl
  | cons m rest ih =>
    obtain ⟨hm, hrest⟩ := List.forall_mem_cons.1 h
    cases rest with
    | nil =>
      simp only [withCommas, List.map_cons, List.map_nil, withoutComma_of_ne hm]
    | cons n rest =>
      rw [withCommas, List.map_cons, ih hrest, withoutComma_comma]
      simp

theorem isMember_withCommas {members : List (String × String)} (h : ∀ m ∈ members, IsMember m) :
    ∀ m ∈ withCommas members, IsMember m := by
  induction members with
  | nil => exact h
  | cons m rest ih =>
    obtain ⟨hm, hrest⟩ := List.forall_mem_cons.1 h
    cases rest with
    | nil => exact h
    | cons n rest =>
      have hcomma : IsMember (m.1, m.2 ++ ",") := ⟨hm.1, by simpa using hm.2⟩
      exact List.forall_mem_cons.2 ⟨hcomma, ih hrest⟩

theorem readsUniquely_fields :
    ReadsUniquely (fun l : List (String × Bool × String) => ∀ f ∈ l, IsField f)
      (fun l => l.flatMap fieldCode ++ ['\x7d']) :=
  readsUniquely_field.list fun _ _ => ⟨' ', _, rfl, by decide⟩

/-- The members of an enumeration can be read back from their lines, up to the closing brace. -/
theorem readsUniquely_members :
    ReadsUniquely
      (fun l : List (String × String) =>
        ∀ m ∈ l, IsMember m ∧ m.2.toList.getLast? ≠ some ',')
      (fun l => (withCommas l).flatMap memberCode ++ ['\x7d']) := by
  have hlines : ReadsUniquely (fun l : List (String × String) => ∀ m ∈ l, IsMember m)
      (fun l => l.flatMap memberCode ++ ['\x7d']) :=
    readsUniquely_member.list fun _ _ => ⟨' ', _, rfl, by decide⟩
  apply hlines.comap (e := withCommas)
  · exact fun l hl => isMember_withCommas fun m hm => (hl m hm).1
  · intro l l' hl hl' h
    rw [← map_withoutComma fun m hm => (hl m hm).2, h,
      map_withoutComma fun m hm => (hl' m hm).2]

theorem line_not_mem_head {o : Outline} (h : '\n' ∉ o.target.toList) : '\n' ∉ o.head.toList := by
  rcases o with ⟨_ | _, _ | _, target, fields, members⟩ <;>
    simpa [head, Declaration.headLine] using h

theorem head_inj {o o' : Outline} (h : o.head = o'.head) :
    o.kind = o'.kind ∧ o.exported = o'.exported ∧ o.target = o'.target := by
  rcases o with ⟨_ | _, _ | _, target, fields, members⟩ <;>
    rcases o' with ⟨_ | _, _ | _, target', fields', members'⟩ <;>
    simp [head, Declaration.headLine, ← String.toList_inj] at h ⊢
  all_goals exact h

/-- An outline can be read back from its text. -/
theorem readsUniquely_code : ReadsUniquely IsReadable code := by
  rintro ⟨kind, exported, target, fields, members⟩ ⟨kind', exported', target', fields', members'⟩
    ho ho' x y h
  simp only [code, List.append_assoc] at h
  rw [← List.append_assoc, ← List.append_assoc (head _).toList] at h
  obtain ⟨hhead, hbody⟩ := ReadsUniquely.until_char '\n' _ _
    (line_not_mem_head ho.line_not_mem_target) (line_not_mem_head ho'.line_not_mem_target) _ _ h
  -- The head gives the kind, and with it which of the two lists is written.
  obtain ⟨rfl, rfl, rfl⟩ := head_inj hhead
  rw [← List.append_assoc, ← List.append_assoc (bodyCode _)] at hbody
  cases kind with
  | interface =>
    obtain ⟨rfl, hrest⟩ := readsUniquely_fields fields fields' ho.isField ho'.isField _ _ hbody
    obtain rfl : members = [] := ho.members_eq_nil rfl
    obtain rfl : members' = [] := ho'.members_eq_nil rfl
    exact ⟨rfl, List.append_cancel_left hrest⟩
  | enumeration =>
    obtain ⟨rfl, hrest⟩ := readsUniquely_members members members'
      (fun m hm => ⟨ho.isMember m hm, ho.last_ne_comma m hm⟩)
      (fun m hm => ⟨ho'.isMember m hm, ho'.last_ne_comma m hm⟩) _ _ hbody
    obtain rfl : fields = [] := ho.fields_eq_nil rfl
    obtain rfl : fields' = [] := ho'.fields_eq_nil rfl
    exact ⟨rfl, List.append_cancel_left hrest⟩

end Reading

end Outline

section Rendering

open Outline

variable {policy : Policy}

/-- No identifier holds a blank. -/
theorem blank_not_mem_of_isIdentifier {name : String} (h : Name.isIdentifier name = true) :
    ' ' ∉ name.toList := by
  intro hmem
  unfold Name.isIdentifier at h
  cases hname : name.toList with
  | nil => simp [hname] at hmem
  | cons c rest =>
    rw [hname, List.map_cons, Text.isIdentifier, Bool.and_eq_true, List.all_eq_true] at h
    rw [hname] at hmem
    have hstart : Text.startsIdentifier ' '.toNat = false := by decide
    have hcontinue : Text.continuesIdentifier ' '.toNat = false := by decide
    rcases List.mem_cons.1 hmem with rfl | hmem
    · rw [hstart] at h
      cases h.1
    · have := h.2 _ (List.mem_map_of_mem hmem)
      rw [hcontinue] at this
      cases this

/-- The value of a member is on one line, and it does not end in a comma. -/
theorem valueText_spec (m : Member) :
    '\n' ∉ m.valueText.toList ∧ m.valueText.toList.getLast? ≠ some ',' := by
  have hquoted : ∀ s, '\n' ∉ (Quoted.asciiString s).toList ∧
      (Quoted.asciiString s).toList.getLast? ≠ some ',' := by
    intro s
    refine ⟨Quoted.line_not_mem_asciiString s, ?_⟩
    rw [Quoted.toList_asciiString, List.getLast?_append]
    simp
  unfold Member.valueText
  cases m.value with
  | int n =>
    have hnumeral : ∀ c, c.isDigit = false → c ≠ '-' → c ∉ (toString n).toList := by
      intro c hdigit hsign hmem
      rcases Numeral.eq_or_isDigit_of_mem_toString hmem with h | h
      · exact hsign h
      · rw [h] at hdigit
        cases hdigit
    refine ⟨hnumeral '\n' (by decide) (by decide), fun hlast => ?_⟩
    exact hnumeral ',' (by decide) (by decide) (List.mem_of_getLast? hlast)
  | _ => exact hquoted _

/-- The outline of a plain declaration can be read back. -/
theorem isReadable_outline {d : Declaration} (h : d.IsPlain policy) :
    (d.outline policy).IsReadable := by
  have hfields : ∀ f ∈ d.fields.map fun f => (policy.fieldKey f.name, f.optional, f.typeText),
      IsField f := by
    intro _ hmem
    obtain ⟨f, hf, rfl⟩ := List.mem_map.1 hmem
    exact ⟨⟨_, rfl⟩, h.line_not_mem_typeText f hf⟩
  have hmembers : ∀ m ∈ d.members.map fun m => (m.name, m.valueText),
      IsMember m ∧ m.2.toList.getLast? ≠ some ',' := by
    intro _ hmem
    obtain ⟨m, hm, rfl⟩ := List.mem_map.1 hmem
    obtain ⟨hline, hcomma⟩ := valueText_spec m
    exact ⟨⟨blank_not_mem_of_isIdentifier (h.isIdentifier_name m hm), hline⟩, hcomma⟩
  have htarget := h.line_not_mem_target
  rcases d with ⟨target, kind, source, exported, fields, members, body⟩
  cases kind with
  | interface =>
    exact {
      line_not_mem_target := htarget
      isField := hfields
      isMember := fun _ hm => (List.not_mem_nil hm).elim
      last_ne_comma := fun _ hm => (List.not_mem_nil hm).elim
      members_eq_nil := fun _ => rfl
      fields_eq_nil := nofun }
  | enumeration =>
    exact {
      line_not_mem_target := htarget
      isField := fun _ hf => (List.not_mem_nil hf).elim
      isMember := fun m hm => (hmembers m hm).1
      last_ne_comma := fun m hm => (hmembers m hm).2
      members_eq_nil := nofun
      fields_eq_nil := fun _ => rfl }

theorem toList_fieldLine (policy : Policy) (f : Field) :
    (f.line policy).toList ++ ['\n'] =
      fieldCode (policy.fieldKey f.name, f.optional, f.typeText) := by
  cases hoptional : f.optional <;>
    simp [Field.line, fieldCode, keyMark, hoptional]

/-- The lines of members are their codes with commas between them. -/
theorem flatMap_memberLines (members : List Member) :
    (memberLines members).flatMap (fun line => line.toList ++ ['\n']) =
      (withCommas (members.map fun m => (m.name, m.valueText))).flatMap memberCode := by
  induction members with
  | nil => rfl
  | cons m rest ih =>
    cases rest with
    | nil => simp [memberLines, withCommas, memberCode]
    | cons n rest =>
      rw [memberLines, List.flatMap_cons, ih]
      · simp [withCommas, memberCode]
      · exact nofun

/-- The text of a declaration is that of its outline. -/
theorem toList_render (policy : Policy) (d : Declaration) :
    (d.render policy).toList = (d.outline policy).code := by
  rw [Declaration.render, toList_lines (by simp [Declaration.lines]), Declaration.lines, code]
  rcases d with ⟨target, kind, source, exported, fields, members, body⟩
  cases kind with
  | interface =>
    simp only [List.cons_append, List.flatMap_cons, List.flatMap_append, List.flatMap_map,
      toList_fieldLine, Declaration.outline, bodyCode]
    simp [head, Declaration.headLine]
  | enumeration =>
    simp only [List.cons_append, List.flatMap_cons, List.flatMap_append, flatMap_memberLines,
      Declaration.outline, bodyCode]
    simp [head, Declaration.headLine]

/-- The text of an artifact is its header and the codes of its outlines. -/
theorem toList_text {a : Artifact} (h : ∀ d ∈ a.declarations, d.IsPlain policy) :
    (a.text policy).toList = policy.headerText.toList ++
      ((a.nested.map (·.outline policy)).flatMap (fun o => o.code ++ ['\n']) ++
        (a.root.outline policy).code) := by
  have htext : ∀ d ∈ a.declarations, (d.text policy).toList = (d.outline policy).code := by
    intro d hd
    rw [(h d hd).text_eq, toList_render]
  have hnested : (a.nested.map fun d => d.text policy ++ "\n").flatMap String.toList =
      (a.nested.map (·.outline policy)).flatMap fun o => o.code ++ ['\n'] := by
    rw [List.flatMap_map, List.flatMap_map]
    apply List.flatMap_congr
    intro d hd
    rw [String.toList_append, htext d (List.mem_append_left _ hd)]
    rfl
  have hroot := htext a.root (List.mem_append_right _ List.mem_cons_self)
  calc (a.text policy).toList
      = policy.headerText.toList ++
          ((a.nested.map fun d => d.text policy ++ "\n").flatMap String.toList ++
            (a.root.text policy).toList) := by
        rw [Artifact.text, String.toList_append, String.toList_append, String.toList_join,
          List.append_assoc]
    _ = policy.headerText.toList ++
          ((a.nested.map (·.outline policy)).flatMap (fun o => o.code ++ ['\n']) ++
            (a.root.outline policy).code) := by
        rw [hnested, hroot]

/-- Artifacts have one text under a policy just if their declarations say the same, one by one.
Two fields have one key just if their names are one after the change of case. -/
theorem Artifact.text_eq_iff (policy : Policy) :
    (∀ a b : Artifact, (∀ d ∈ a.declarations, d.IsPlain policy) →
      (∀ d ∈ b.declarations, d.IsPlain policy) →
      (a.text policy = b.text policy ↔
        a.nested.map (·.outline policy) = b.nested.map (·.outline policy) ∧
        a.root.outline policy = b.root.outline policy)) ∧
    (∀ x y, policy.fieldKey x = policy.fieldKey y ↔ policy.keyName x = policy.keyName y) ∧
    (policy.camelCaseKeys = false → Function.Injective policy.fieldKey) := by
  refine ⟨fun a b ha hb => ⟨fun h => ?_, ?_⟩, fun x y => policy.fieldKey_eq_iff, ?_⟩
  · have hcode := congrArg String.toList h
    rw [toList_text ha, toList_text hb] at hcode
    have hreadable : ∀ {c : Artifact}, (∀ d ∈ c.declarations, d.IsPlain policy) →
        (∀ o ∈ c.nested.map (·.outline policy), o.IsReadable) ∧
        (c.root.outline policy).IsReadable := by
      intro c hc
      refine ⟨?_, isReadable_outline (hc c.root (List.mem_append_right _ List.mem_cons_self))⟩
      intro o ho
      obtain ⟨d, hd, rfl⟩ := List.mem_map.1 ho
      exact isReadable_outline (hc d (List.mem_append_left _ hd))
    exact readsUniquely_code.series (hreadable ha).1 (hreadable hb).1 (hreadable ha).2
      (hreadable hb).2 (List.append_cancel_left hcode)
  · rintro ⟨hnested, hroot⟩
    rw [← String.toList_inj, toList_text ha, toList_text hb, hnested, hroot]
  · intro hpolicy x y h
    rw [policy.fieldKey_eq_iff] at h
    simpa [Policy.keyName, hpolicy] using h

/-- An interface whose fields are texts. -/
def orderArtifact (keys : List String) : Artifact :=
  { root := {
      target := "Order"
      kind := .interface
      exported := true
      fields := keys.map fun key => { name := key, typeText := "string", optional := false } } }

theorem isPlain_orderArtifact (keys : List String) :
    ∀ d ∈ (orderArtifact keys).declarations, d.IsPlain {} := by
  intro d hd
  obtain rfl := List.mem_singleton.1 hd
  have htarget : '\n' ∉ ("Order" : String).toList := by decide
  have htype : '\n' ∉ ("string" : String).toList := by decide
  refine ⟨rfl, htarget, ?_, fun _ hm => (List.not_mem_nil hm).elim⟩
  intro f hf
  obtain ⟨key, -, rfl⟩ := List.mem_map.1 hf
  exact htype

/-- A key that is spelled like the text of two fields is not mistaken for them. -/
theorem text_ne_of_spelledFields :
    (∀ d ∈ (orderArtifact ["id: string;\n  name"]).declarations, d.IsPlain {}) ∧
      (∀ d ∈ (orderArtifact ["id", "name"]).declarations, d.IsPlain {}) ∧
      (orderArtifact ["id: string;\n  name"]).text {} ≠ (orderArtifact ["id", "name"]).text {} := by
  refine ⟨isPlain_orderArtifact _, isPlain_orderArtifact _, fun h => ?_⟩
  have hroot := (((Artifact.text_eq_iff {}).1 _ _ (isPlain_orderArtifact _)
    (isPlain_orderArtifact _)).1 h).2
  have hlength := congrArg (·.fields.length) hroot
  cases hlength

end Rendering

end TypeExport

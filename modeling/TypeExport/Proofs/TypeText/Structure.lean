import TypeExport.Proofs.Translation.TargetNames
import TypeExport.Proofs.TypeText.Records

/-!
# The structure of type texts

The text of a shape is read back as a type.  A nullable shape has the type of what it wraps.  A
dictionary with text keys is a record of the type of its values, unless the text of the values ends in a
comment that takes in the rest of its line.  An array is an array of the type of its elements just if
the text of the elements is one operand that ends on its line and outside of comments: of a mapped text
such as a union only the last alternative becomes an array.
-/

/-!
## Texts of arrays and records
-/

namespace TypeExport.TypeText

def ReadsAs (s : String) (τ : TsType) : Prop :=
  ∃ gs b ts, glyphs? s = some (gs, b) ∧ Spells false gs ts ∧ Reads .full ts τ

/-- The text ends on the line of its last token, outside of comments. -/
def EndsOnLine (s : String) : Prop :=
  ∃ gs, glyphs? s = some (gs, false) ∧ breakBehind false gs = false

/-- The text is read as a type that brackets behind it belong to as a whole. -/
def BindsTightly (s : String) (τ : TsType) : Prop :=
  EndsOnLine s ∧ ∃ gs b ts, glyphs? s = some (gs, b) ∧ Spells false gs ts ∧ IsTight ts τ

section Reading

variable {s : String} {gs : List Glyph} {b : Bool} {ts : List Token} {τ σ : TsType}

theorem readsAs_iff (hglyphs : glyphs? s = some (gs, b)) (h : Spells false gs ts) :
    ReadsAs s τ ↔ Reads .full ts τ := by
  constructor
  · rintro ⟨gs', b', us, hglyphs', hus, hread⟩
    obtain ⟨rfl, rfl⟩ := Prod.mk.inj (Option.some.inj (hglyphs.symm.trans hglyphs'))
    rwa [h.unique hus]
  · exact fun hread => ⟨gs, b, ts, hglyphs, h, hread⟩

theorem endsOnLine_iff (hglyphs : glyphs? s = some (gs, b)) :
    EndsOnLine s ↔ b = false ∧ breakBehind false gs = false := by
  constructor
  · rintro ⟨gs', hglyphs', hbreak⟩
    obtain ⟨rfl, rfl⟩ := Prod.mk.inj (Option.some.inj (hglyphs.symm.trans hglyphs'))
    exact ⟨rfl, hbreak⟩
  · rintro ⟨rfl, hbreak⟩
    exact ⟨gs, hglyphs, hbreak⟩

theorem bindsTightly_iff (hglyphs : glyphs? s = some (gs, b)) (h : Spells false gs ts) :
    BindsTightly s τ ↔ b = false ∧ breakBehind false gs = false ∧ IsTight ts τ := by
  rw [BindsTightly, endsOnLine_iff hglyphs, and_assoc]
  refine and_congr_right fun _ => and_congr_right fun _ => ?_
  constructor
  · rintro ⟨gs', b', us, hglyphs', hus, htight⟩
    obtain ⟨rfl, rfl⟩ := Prod.mk.inj (Option.some.inj (hglyphs.symm.trans hglyphs'))
    rwa [h.unique hus]
  · exact fun htight => ⟨gs, b, ts, hglyphs, h, htight⟩

theorem ReadsAs.unique (h : ReadsAs s τ) (h' : ReadsAs s σ) : τ = σ := by
  obtain ⟨gs, b, ts, hglyphs, hs, hread⟩ := h
  exact hread.unique ((readsAs_iff hglyphs hs).1 h')

theorem BindsTightly.reads (h : BindsTightly s τ) : ReadsAs s τ := by
  obtain ⟨-, gs, b, ts, hglyphs, hs, htight⟩ := h
  exact ⟨gs, b, ts, hglyphs, hs, htight.reads⟩

theorem EndsOnLine.endsInComment (h : EndsOnLine s) : endsInComment s = false := by
  obtain ⟨gs, hglyphs, -⟩ := h
  exact endsInComment_eq hglyphs

end Reading

section Arrays

variable {s : String} {gs : List Glyph} {b : Bool} {ts : List Token} {τ σ : TsType}

theorem glyphs?_array (h : glyphs? s = some (gs, b)) :
    glyphs? (s ++ "[]") = some (if b then gs else gs ++ plainGlyphs "[]", b) :=
  glyphs?_append h (by decide) (by decide)

theorem endsInComment_array (h : glyphs? s = some (gs, b)) : endsInComment (s ++ "[]") = b :=
  endsInComment_eq (glyphs?_array h)

theorem spells_array (h : Spells false gs ts) :
    Spells false (gs ++ plainGlyphs "[]") (ts ++ [brackets (breakBehind false gs)]) := by
  have hbrackets : Spells (breakBehind false gs) (.plain '[' :: [] ++ .plain ']' :: [])
      [brackets (breakBehind false gs)] :=
    .group rfl rfl (.nil _) (.nil _)
  exact h.append hbrackets (endsWord_cons (by decide))

theorem breakBehind_array (gs : List Glyph) : breakBehind false (gs ++ plainGlyphs "[]") = false := by
  have hopening : ∀ isBreak, (Glyph.plain '[').kind ≠ .blank isBreak := by
    simp [Glyph.kind, charClass]
  exact breakBehind_append_cons hopening

/-- Brackets in a comment change nothing. -/
theorem readsAs_array_of_comment (h : glyphs? s = some (gs, true)) :
    ReadsAs (s ++ "[]") τ ↔ ReadsAs s τ := by
  have harray : glyphs? (s ++ "[]") = some (gs, true) := glyphs?_array h
  simp only [ReadsAs, h, harray]

theorem BindsTightly.array (h : BindsTightly s τ) : BindsTightly (s ++ "[]") (.array τ) := by
  obtain ⟨hline, gs, b, ts, hglyphs, hs, htight⟩ := h
  obtain ⟨rfl, hbreak⟩ := (endsOnLine_iff hglyphs).1 hline
  rw [bindsTightly_iff (glyphs?_array hglyphs) (spells_array hs)]
  exact ⟨rfl, breakBehind_array gs, isTight_append_iff.2 ⟨hbreak, htight⟩⟩

/-- Brackets make an array of a type just if they belong to it as a whole.  Behind a comment the text must
not be that array by itself. -/
theorem readsAs_array_iff (hglyphs : glyphs? s = some (gs, b))
    (hspells : b = false → ∃ ts, Spells false gs ts) (hcomment : b = true → ¬ReadsAs s (.array τ)) :
    ReadsAs (s ++ "[]") (.array τ) ↔ BindsTightly s τ := by
  refine ⟨fun h => ?_, fun h => h.array.reads⟩
  cases b with
  | true => exact absurd ((readsAs_array_of_comment hglyphs).1 h) (hcomment rfl)
  | false =>
    obtain ⟨ts, hs⟩ := hspells rfl
    rw [readsAs_iff (glyphs?_array hglyphs) (spells_array hs), reads_array_iff] at h
    exact (bindsTightly_iff hglyphs hs).2 ⟨rfl, h⟩

theorem bindsTightly_array_iff (hglyphs : glyphs? s = some (gs, b))
    (hspells : b = false → ∃ ts, Spells false gs ts) :
    BindsTightly (s ++ "[]") (.array τ) ↔ BindsTightly s τ := by
  refine ⟨fun h => ?_, BindsTightly.array⟩
  obtain rfl := ((endsOnLine_iff (glyphs?_array hglyphs)).1 h.1).1
  exact (readsAs_array_iff hglyphs hspells (by simp)).1 h.reads

/-- Brackets behind a type on its line give a type. -/
theorem exists_readsAs_array (h : ReadsAs s τ) (hline : EndsOnLine s) :
    ∃ σ, ReadsAs (s ++ "[]") σ := by
  obtain ⟨gs, b, ts, hglyphs, hs, hread⟩ := h
  obtain ⟨rfl, hbreak⟩ := (endsOnLine_iff hglyphs).1 hline
  obtain ⟨σ, hσ⟩ := hread.exists_append
  have harray := spells_array hs
  rw [hbreak] at harray
  exact ⟨σ, _, _, _, glyphs?_array hglyphs, harray, hσ⟩

theorem EndsOnLine.array (h : EndsOnLine s) : EndsOnLine (s ++ "[]") := by
  obtain ⟨gs, hglyphs, -⟩ := h
  exact ⟨_, glyphs?_array hglyphs, breakBehind_array gs⟩

end Arrays

section Records

variable {s : String} {gs : List Glyph} {b : Bool} {ts : List Token} {τ σ : TsType}

def recordText (s : String) : String :=
  "Record<string, " ++ s ++ ">"

/-- The glyphs of a record whose closing bracket is left out. -/
def openRecord (gs : List Glyph) : List Glyph :=
  plainGlyphs "Record<string, " ++ gs

theorem glyphs?_record (h : glyphs? s = some (gs, b)) :
    glyphs? (recordText s) =
      some (if b then openRecord gs else openRecord gs ++ [.plain '>'], b) :=
  glyphs?_append (glyphs?_plain_append (by decide) h) (by decide) (by decide)

theorem endsInComment_record (h : glyphs? s = some (gs, b)) : endsInComment (recordText s) = b :=
  endsInComment_eq (glyphs?_record h)

theorem openRecord_eq (gs : List Glyph) :
    openRecord gs = plainGlyphs "Record" ++
      .plain '<' :: (plainGlyphs "string" ++ .plain ',' :: .plain ' ' :: gs) := by
  have hopen : plainGlyphs "Record<string, " =
      plainGlyphs "Record" ++ .plain '<' :: plainGlyphs "string" ++ [.plain ',', .plain ' '] := by
    decide
  simp [openRecord, hopen]

theorem depth_openRecord (gs : List Glyph) : depth (openRecord gs) = depth gs + 1 := by
  rw [openRecord_eq, depth_letters (by decide), depth_opening (k := .angle) (by decide),
    depth_letters (by decide), depth_cons (by decide) (by decide),
    depth_cons (by decide) (by decide)]

theorem spells_record (h : Spells false gs ts) :
    Spells false (openRecord gs ++ [.plain '>']) (recordTokens ts) := by
  have htext : openRecord gs ++ [.plain '>'] = plainGlyphs "Record" ++
      (.plain '<' :: (plainGlyphs "string" ++ .plain ',' :: .plain ' ' :: gs) ++ .plain '>' :: []) := by
    simp [openRecord_eq]
  rw [htext]
  have hinner : Spells false (plainGlyphs "string" ++ .plain ',' :: .plain ' ' :: gs)
      (.word "string" :: .mark ',' :: ts) :=
    spells_name (by decide) (endsWord_cons (by decide)) (.mark (by decide) h.space)
  exact spells_name (by decide) (endsWord_cons (by decide))
    (.group (by decide) (by decide) hinner (.nil _))

theorem endsOnLine_record (h : glyphs? s = some (gs, false)) : EndsOnLine (recordText s) := by
  have hclosing : ∀ isBreak, (Glyph.plain '>').kind ≠ .blank isBreak := by
    simp [Glyph.kind, charClass]
  exact ⟨_, glyphs?_record h, breakBehind_append_cons hclosing⟩

/-- A comment in the values of a record takes in its closing bracket. -/
theorem not_readsAs_record (hglyphs : glyphs? s = some (gs, true)) (hdepth : 0 ≤ depth gs) :
    ¬ReadsAs (recordText s) σ := by
  rintro ⟨gs', b, ts, hrecord, hspells, -⟩
  obtain ⟨rfl, -⟩ := Prod.mk.inj (Option.some.inj ((glyphs?_record hglyphs).symm.trans hrecord))
  have hbalanced := hspells.depth_eq_zero
  rw [if_pos rfl, depth_openRecord] at hbalanced
  omega

theorem bindsTightly_record_iff (hglyphs : glyphs? s = some (gs, b))
    (hspells : b = false → ∃ ts, Spells false gs ts) (hdepth : 0 ≤ depth gs) :
    BindsTightly (recordText s) (recordOf τ) ↔ ReadsAs s τ ∧ b = false := by
  cases b with
  | true => simpa using fun h : BindsTightly _ _ => not_readsAs_record hglyphs hdepth h.reads
  | false =>
    obtain ⟨ts, hs⟩ := hspells rfl
    have hline := (endsOnLine_iff (glyphs?_record hglyphs)).1 (endsOnLine_record hglyphs)
    rw [bindsTightly_iff (glyphs?_record hglyphs) (spells_record hs), isTight_record_iff,
      readsAs_iff hglyphs hs, ← and_assoc, and_iff_right hline]
    exact (and_iff_left rfl).symm

theorem readsAs_record_iff (hglyphs : glyphs? s = some (gs, b))
    (hspells : b = false → ∃ ts, Spells false gs ts) (hdepth : 0 ≤ depth gs) :
    ReadsAs (recordText s) (recordOf τ) ↔ ReadsAs s τ ∧ b = false := by
  cases b with
  | true => simpa using not_readsAs_record hglyphs hdepth
  | false =>
    obtain ⟨ts, hs⟩ := hspells rfl
    rw [readsAs_iff (glyphs?_record hglyphs) (spells_record hs), readsAs_iff hglyphs hs,
      reads_record_iff]
    exact (and_iff_left rfl).symm

end Records

/-- A name is read as the type of that name. -/
theorem bindsTightly_name {name : String} (hword : isOneWord name = true)
    (hname : isName name = true) : BindsTightly name (.reference (.ofName name) []) := by
  have hletters := (isOneWord_iff.1 hword).2
  have hplain : IsPlain name := fun c hc => opening?_of_letter (hletters c hc)
  have hspells := spells_name (b := false) hword endsWord_nil (.nil _)
  rw [List.append_nil] at hspells
  refine (bindsTightly_iff (glyphs?_plain hplain) hspells).2 ⟨rfl, ?_, isTight_name hname⟩
  have hkinds : ∀ x ∈ plainGlyphs name, x.kind = .letter := by
    simpa [plainGlyphs, Glyph.kind] using hletters
  cases hglyphs : plainGlyphs name with
  | nil => rfl
  | cons x w =>
    rw [← List.append_nil (x :: w), breakBehind_letters (hglyphs ▸ hkinds)]
    rfl

/-- The type of dictionaries without text keys. -/
def openType : TsType :=
  .object [.group .square false [.word "key", .mark ':', .word "string"], .mark ':', .word "any"]

/-- The type of dictionaries without text keys binds tightly. -/
theorem bindsTightly_openDictionary : BindsTightly openDictionary openType := by
  have htext : plainGlyphs openDictionary = .plain '\x7b' :: (.plain ' ' :: .plain '[' ::
      (plainGlyphs "key" ++ .plain ':' :: .plain ' ' :: (plainGlyphs "string" ++ [])) ++ .plain ']' ::
        .plain ':' :: .plain ' ' :: (plainGlyphs "any" ++ [.plain ' '])) ++ .plain '\x7d' :: [] := by
    decide
  have hkey : Spells false (plainGlyphs "key" ++ .plain ':' :: .plain ' ' :: (plainGlyphs "string" ++ []))
      [.word "key", .mark ':', .word "string"] :=
    spells_name (by decide) (endsWord_cons (by decide))
      (.mark (by decide) (spells_name (by decide) endsWord_nil (.nil _)).space)
  have hany : Spells false (.plain ':' :: .plain ' ' :: (plainGlyphs "any" ++ [.plain ' ']))
      [.mark ':', .word "any"] :=
    .mark (by decide)
      (spells_name (by decide) (endsWord_cons (by decide)) (Spells.nil _).space).space
  have hspells : Spells false (plainGlyphs openDictionary)
      [.group .curly false [.group .square false [.word "key", .mark ':', .word "string"], .mark ':',
        .word "any"]] := by
    rw [htext]
    exact .group (by decide) (by decide) (Spells.group (by decide) (by decide) hkey hany).space (.nil _)
  refine (bindsTightly_iff (glyphs?_plain (by decide)) hspells).2 ⟨rfl, by decide, ?_⟩
  have hsingle : IsSingle [.group .curly false [.group .square false
      [.word "key", .mark ':', .word "string"], .mark ':', .word "any"]] :=
    ⟨by simp [Token.isOutside, Token.isMark], by simp⟩
  exact hsingle.isTight_iff.2 (.leaf rfl)

end TypeExport.TypeText

/-!
## Texts of shapes
-/

namespace TypeExport

/-- The type that a shape is or wraps, if it is no array and no dictionary. -/
def Shape.core? {ι : Type} : Shape ι → Option ι
  | .direct t => some t
  | .nullable s => s.core?
  | .array _ => none
  | .dictionary _ _ => none

namespace TypeGraph

open TypeText

variable {ε : Type} (g : TypeGraph ε)

/-- The type of a shape, from those of the types in it. -/
def typeOf (types : g.Node → TsType) : Shape g.Node → TsType
  | .direct t => types t
  | .nullable s => typeOf types s
  | .array s => .array (typeOf types s)
  | .dictionary k v => if g.isTextKey k then recordOf (typeOf types v) else openType

def elements : Shape g.Node → List g.Node
  | .direct _ => []
  | .nullable s => elements s
  | .array s => s.core?.toList ++ elements s
  | .dictionary k v => if g.isTextKey k then elements v else []

/-- The types that are values of dictionaries with text keys. -/
def values : Shape g.Node → List g.Node
  | .direct _ => []
  | .nullable s => values s
  | .array s => values s
  | .dictionary k v => if g.isTextKey k then v.core?.toList ++ values v else []

variable {g} {policy : Policy} {types : g.Node → TsType}

theorem typeText_dictionary (k v : Shape g.Node) :
    g.typeText policy (.dictionary k v) =
      if g.isTextKey k then recordText (g.typeText policy v) else openDictionary :=
  rfl

/-- The text of a shape has glyphs if those of types are read.  No bracket closes in it that has not
opened, and outside of comments the glyphs spell tokens. -/
theorem exists_glyphs (h : ∀ t, ReadsAs (policy.typeName (g.descriptor t)) (types t))
    (shape : Shape g.Node) : ∃ gs b, glyphs? (g.typeText policy shape) = some (gs, b) ∧ 0 ≤ depth gs ∧
      (b = false → ∃ ts, Spells false gs ts) := by
  induction shape with
  | direct t =>
    obtain ⟨gs, b, ts, hglyphs, hs, -⟩ := h t
    exact ⟨gs, b, hglyphs, hs.depth_nonneg, fun _ => ⟨ts, hs⟩⟩
  | nullable s ih => exact ih
  | array s ih =>
    obtain ⟨gs, b, hglyphs, hdepth, hspells⟩ := ih
    refine ⟨_, b, glyphs?_array hglyphs, ?_⟩
    cases b with
    | true => exact ⟨hdepth, by simp⟩
    | false =>
      obtain ⟨ts, hs⟩ := hspells rfl
      exact ⟨(spells_array hs).depth_nonneg, fun _ => ⟨_, spells_array hs⟩⟩
  | dictionary k v _ ih =>
    rw [typeText_dictionary]
    split_ifs
    · obtain ⟨gs, b, hglyphs, hdepth, hspells⟩ := ih
      refine ⟨_, b, glyphs?_record hglyphs, ?_⟩
      cases b with
      | true =>
        rw [if_pos rfl, depth_openRecord]
        exact ⟨Int.add_nonneg hdepth (by decide), by simp⟩
      | false =>
        obtain ⟨ts, hs⟩ := hspells rfl
        exact ⟨(spells_record hs).depth_nonneg, fun _ => ⟨_, spells_record hs⟩⟩
    · obtain ⟨-, gs, b, ts, hglyphs, hs, -⟩ := bindsTightly_openDictionary
      exact ⟨gs, b, hglyphs, hs.depth_nonneg, fun _ => ⟨ts, hs⟩⟩

/-- Behind a comment nothing is added to the type, so it is no larger than that of the shape. -/
theorem sizeOf_le_of_endsInComment (h : ∀ t, ReadsAs (policy.typeName (g.descriptor t)) (types t))
    {shape : Shape g.Node} {τ : TsType} (hcomment : endsInComment (g.typeText policy shape) = true)
    (hread : ReadsAs (g.typeText policy shape) τ) : sizeOf τ ≤ sizeOf (g.typeOf types shape) := by
  induction shape with
  | direct t => rw [hread.unique (h t), typeOf]
  | nullable s ih => exact ih hcomment hread
  | array s ih =>
    obtain ⟨gs, b, hglyphs, -, -⟩ := exists_glyphs h s
    obtain rfl : b = true := (endsInComment_array hglyphs).symm.trans hcomment
    have hle := ih (endsInComment_eq hglyphs) ((readsAs_array_of_comment hglyphs).1 hread)
    rw [typeOf, TsType.array.sizeOf_spec]
    exact Nat.le_add_left_of_le hle
  | dictionary k v _ _ =>
    rw [typeText_dictionary] at hcomment hread
    split_ifs at hcomment hread
    · obtain ⟨gs, b, hglyphs, hdepth, -⟩ := exists_glyphs h v
      obtain rfl : b = true := (endsInComment_record hglyphs).symm.trans hcomment
      exact absurd hread (not_readsAs_record hglyphs hdepth)
    · rw [bindsTightly_openDictionary.1.endsInComment] at hcomment
      cases hcomment

/-- A text has the structure of its shape if the types that are elements of arrays bind tightly and
those that are values of dictionaries end outside of comments.  It binds tightly itself if the type that
it wraps does, and ends outside of comments if the text of that type does. -/
theorem readsAs_and_bindsTightly_iff (h : ∀ t, ReadsAs (policy.typeName (g.descriptor t)) (types t))
    (shape : Shape g.Node) :
    (ReadsAs (g.typeText policy shape) (g.typeOf types shape) ↔
      (∀ t ∈ g.elements shape, BindsTightly (policy.typeName (g.descriptor t)) (types t)) ∧
      ∀ t ∈ g.values shape, endsInComment (policy.typeName (g.descriptor t)) = false) ∧
    (BindsTightly (g.typeText policy shape) (g.typeOf types shape) ↔
      (∀ t ∈ shape.core?.toList ++ g.elements shape,
        BindsTightly (policy.typeName (g.descriptor t)) (types t)) ∧
      ∀ t ∈ g.values shape, endsInComment (policy.typeName (g.descriptor t)) = false) ∧
    (ReadsAs (g.typeText policy shape) (g.typeOf types shape) ∧
        endsInComment (g.typeText policy shape) = false ↔
      (∀ t ∈ g.elements shape, BindsTightly (policy.typeName (g.descriptor t)) (types t)) ∧
      ∀ t ∈ shape.core?.toList ++ g.values shape,
        endsInComment (policy.typeName (g.descriptor t)) = false) := by
  induction shape with
  | direct t =>
    simp [h t, elements, values, Shape.core?, typeText, typeOf]
  | nullable s ih => exact ih
  | array s ih =>
    obtain ⟨gs, b, hglyphs, -, hspells⟩ := exists_glyphs h s
    have hcomment : b = true → ¬ReadsAs (g.typeText policy s) (.array (g.typeOf types s)) := by
      rintro rfl hread
      have hle := sizeOf_le_of_endsInComment h (endsInComment_eq hglyphs) hread
      rw [TsType.array.sizeOf_spec] at hle
      omega
    have harray : ReadsAs (g.typeText policy (.array s)) (g.typeOf types (.array s)) ↔ _ :=
      (readsAs_array_iff hglyphs hspells hcomment).trans ih.2.1
    refine ⟨harray, (bindsTightly_array_iff hglyphs hspells).trans ih.2.1, ?_⟩
    rw [and_iff_left_of_imp fun hread => ?_]
    · exact harray
    · have hline := ((readsAs_array_iff hglyphs hspells hcomment).1 hread).array.1
      exact hline.endsInComment
  | dictionary k v _ ih =>
    rw [typeText_dictionary, typeOf, elements, values, Shape.core?]
    split_ifs
    · obtain ⟨gs, b, hglyphs, hdepth, hspells⟩ := exists_glyphs h v
      have hvalue := ih.2.2
      rw [endsInComment_eq hglyphs] at hvalue
      have hrecord := (readsAs_record_iff (τ := g.typeOf types v) hglyphs hspells hdepth).trans hvalue
      refine ⟨hrecord, (bindsTightly_record_iff hglyphs hspells hdepth).trans hvalue, ?_⟩
      rw [endsInComment_record hglyphs, and_iff_left_of_imp fun hread => ?_]
      · exact hrecord
      · exact ((readsAs_record_iff hglyphs hspells hdepth).1 hread).2
    · have hopen := bindsTightly_openDictionary
      simp [hopen, hopen.reads, hopen.1.endsInComment]

theorem exists_readsAs_targetType (name : String) : ∃ τ, ReadsAs (Primitive.targetType name) τ := by
  have hnames : ∀ p ∈ Primitive.table, isOneWord p.2 = true ∧ isName p.2 = true := by decide
  unfold Primitive.targetType
  cases hlookup : Primitive.table.lookup name with
  | none => exact ⟨_, (bindsTightly_name (by decide) (by decide)).reads⟩
  | some text =>
    obtain ⟨before, after, htable, -⟩ := List.lookup_eq_some_iff.1 hlookup
    obtain ⟨hword, hname⟩ := hnames (name, text) (by simp [htable])
    exact ⟨_, (bindsTightly_name hword hname).reads⟩

/-- Mapped texts and target names that are types make the text of every type one. -/
theorem exists_readsAs_typeName
    (hmapping : ∀ t text, policy.mapping? (g.descriptor t) = some text → ∃ τ, ReadsAs text τ)
    (hname : ∀ t, policy.mapping? (g.descriptor t) = none →
      ∃ τ, ReadsAs (g.descriptor t).targetName τ) (t : g.Node) :
    ∃ τ, ReadsAs (policy.typeName (g.descriptor t)) τ := by
  unfold Policy.typeName
  cases hmapped : policy.mapping? (g.descriptor t) with
  | some text => exact hmapping t text hmapped
  | none =>
    dsimp only
    split_ifs
    · exact hname t hmapped
    · exact hname t hmapped
    · exact ⟨_, (bindsTightly_name (by decide) (by decide)).reads⟩
    · exact exists_readsAs_targetType _

/-- Every text is a type if those of types are and end on their line. -/
theorem exists_readsAs_typeText (h : ∀ t, ReadsAs (policy.typeName (g.descriptor t)) (types t))
    (hline : ∀ t, EndsOnLine (policy.typeName (g.descriptor t))) (shape : Shape g.Node) :
    EndsOnLine (g.typeText policy shape) ∧ ∃ τ, ReadsAs (g.typeText policy shape) τ := by
  induction shape with
  | direct t => exact ⟨hline t, types t, h t⟩
  | nullable s ih => exact ih
  | array s ih =>
    obtain ⟨hends, τ, hτ⟩ := ih
    exact ⟨hends.array, exists_readsAs_array hτ hends⟩
  | dictionary k v _ ih =>
    rw [typeText_dictionary]
    split_ifs
    · obtain ⟨hends, τ, hτ⟩ := ih
      obtain ⟨gs, b, hglyphs, hdepth, hspells⟩ := exists_glyphs h v
      obtain rfl := ((endsOnLine_iff hglyphs).1 hends).1
      exact ⟨endsOnLine_record hglyphs, recordOf τ,
        (readsAs_record_iff hglyphs hspells hdepth).2 ⟨hτ, rfl⟩⟩
    · exact ⟨bindsTightly_openDictionary.1, openType, bindsTightly_openDictionary.reads⟩

/-- The texts of shapes are those of their types put together.  Each is read as at most one type.  A text
that is read as a type stays that type if it is nullable.  As the values of a dictionary with text keys
it makes a record of that type just if it does not end in a comment, and behind it brackets make an array
of that type just if it binds tightly.  So a text has the structure of its shape exactly if the elements
of all arrays in it bind tightly and no values of dictionaries end in comments, and it is a type in any
case if all texts of types end on their lines. -/
theorem typeText_keeps_structure_iff (g : TypeGraph ε) (policy : Policy)
    (hmapping : ∀ t text, policy.mapping? (g.descriptor t) = some text → ∃ τ, ReadsAs text τ)
    (hname : ∀ t, policy.mapping? (g.descriptor t) = none →
      ∃ τ, ReadsAs (g.descriptor t).targetName τ) :
    (∀ b shape text, (g.resolve policy b shape).1 = .ok text → text = g.typeText policy shape) ∧
      (∀ (shape : Shape g.Node) (τ σ : TsType), ReadsAs (g.typeText policy shape) τ →
        ReadsAs (g.typeText policy shape) σ → τ = σ) ∧
      (∀ (shape : Shape g.Node) (τ : TsType), ReadsAs (g.typeText policy shape) τ →
        ReadsAs (g.typeText policy (.nullable shape)) τ ∧
        (∀ k, g.isTextKey k = true →
          (ReadsAs (g.typeText policy (.dictionary k shape)) (recordOf τ) ↔
            endsInComment (g.typeText policy shape) = false)) ∧
        (ReadsAs (g.typeText policy (.array shape)) (.array τ) ↔
          BindsTightly (g.typeText policy shape) τ)) ∧
      ∃ types : g.Node → TsType,
        (∀ t, ReadsAs (policy.typeName (g.descriptor t)) (types t)) ∧
        (∀ shape, ReadsAs (g.typeText policy shape) (g.typeOf types shape) ↔
          (∀ t ∈ g.elements shape, BindsTightly (policy.typeName (g.descriptor t)) (types t)) ∧
          ∀ t ∈ g.values shape, endsInComment (policy.typeName (g.descriptor t)) = false) ∧
        ((∀ t, EndsOnLine (policy.typeName (g.descriptor t))) →
          ∀ shape, ∃ τ, ReadsAs (g.typeText policy shape) τ) := by
  choose types htypes using exists_readsAs_typeName hmapping hname
  refine ⟨fun b shape text => resolve_eq_typeText, fun shape τ σ => ReadsAs.unique,
    fun shape τ hτ => ?_, types, htypes, fun shape => (readsAs_and_bindsTightly_iff htypes shape).1,
    fun hline shape => (exists_readsAs_typeText htypes hline shape).2⟩
  obtain ⟨gs, b, hglyphs, hdepth, hspells⟩ := exists_glyphs htypes shape
  refine ⟨hτ, fun k hk => ?_, readsAs_array_iff hglyphs hspells fun _ hread => ?_⟩
  · rw [typeText_dictionary, if_pos hk, readsAs_record_iff hglyphs hspells hdepth,
      endsInComment_eq hglyphs, and_iff_right hτ]
  · have hsize := congrArg sizeOf (hτ.unique hread)
    rw [TsType.array.sizeOf_spec] at hsize
    omega


/-- A class of amounts and the type of texts. -/
def amounts : TypeGraph String where
  Node := Fin 2
  descriptor t :=
    { fullName := ["app.Money", "builtins.str"][t], shortName := ["Money", "str"][t]
      kind := [.record, .primitive][t] }
  properties _ := .ok []
  fullNames := ["app.Money", "builtins.str"]
  fullName_mem t := List.getElem_mem _

/-- Amounts are written as texts that may be missing. -/
def nullableAmounts : Policy where
  typeMappings := [("Money", "string | null")]

/-- Amounts are written as numbers of cents. -/
def amountsInCents : Policy where
  typeMappings := [("Money", "number // cents")]

/-- A text that may be missing. -/
def nullableText : TsType :=
  .union [.reference (.ofName "string") [], .reference (.ofName "null") []]

theorem glyphs?_nullableText :
    glyphs? "string | null" = some (plainGlyphs "string | null", false) :=
  glyphs?_plain (by decide)

theorem spells_nullableText :
    Spells false (plainGlyphs "string | null") [.word "string", .mark '|', .word "null"] := by
  have htext : plainGlyphs "string | null" =
      plainGlyphs "string" ++ .plain ' ' :: .plain '|' :: .plain ' ' :: (plainGlyphs "null" ++ []) := by
    decide
  rw [htext]
  have hnull : Spells false (plainGlyphs "null" ++ []) [.word "null"] :=
    spells_name (by decide) endsWord_nil (.nil _)
  exact spells_name (by decide) (endsWord_cons (by decide))
    (Spells.mark (by decide) hnull.space).space

theorem operands_nullableText :
    operands '|' [.word "string", .mark '|', .word "null"] = [[.word "string"], [.word "null"]] := by
  simp [operands, Token.isMark, List.splitOnP_cons_eq_if_modifyHead]

/-- A text that may be missing is a union. -/
theorem readsAs_nullableText : ReadsAs "string | null" nullableText := by
  have hname : ∀ name, isName name = true →
      Reads .intersection [.word name] (.reference (.ofName name) []) := by
    intro name hname
    obtain ⟨-, us, vs, hus, hvs, hoperator, hread⟩ := isTight_name hname
    rw [operands_of_not_mem (by simp [Token.isMark])] at hus
    obtain rfl := List.singleton_inj.1 hus
    exact .intersection_single hvs hoperator hread
  have hunion : Reads .union [.word "string", .mark '|', .word "null"]
      (joined .union [.reference (.ofName "string") [], .reference (.ofName "null") []]) := by
    refine .union ?_ ?_
    · rw [operands_nullableText]
      rfl
    · rw [operands_nullableText]
      simp only [List.zip_cons_cons, List.zip_nil_left, List.forall_mem_cons]
      exact ⟨hname "string" (by decide), hname "null" (by decide), by simp⟩
  exact ⟨_, _, _, glyphs?_nullableText, spells_nullableText,
    .plain (form?_eq_operands_iff.2 (by simp [Token.isOutside])) hunion⟩

theorem not_bindsTightly_nullableText (τ : TsType) : ¬BindsTightly "string | null" τ := by
  rw [bindsTightly_iff glyphs?_nullableText spells_nullableText]
  rintro ⟨-, -, -, us, vs, hus, -⟩
  rw [operands_nullableText] at hus
  cases hus

theorem amounts_mapped (t : amounts.Node) (text : String)
    (h : nullableAmounts.mapping? (amounts.descriptor t) = some text) : ∃ τ, ReadsAs text τ := by
  have htext : ∀ t : Fin 2, ∀ text ∈ nullableAmounts.mapping? (amounts.descriptor t),
      text = "string | null" := by
    decide
  rw [htext t text h]
  exact ⟨_, readsAs_nullableText⟩

theorem amounts_named (t : amounts.Node) (_ : nullableAmounts.mapping? (amounts.descriptor t) = none) :
    ∃ τ, ReadsAs (amounts.descriptor t).targetName τ := by
  have hname : ∀ t : Fin 2, isOneWord (amounts.descriptor t).targetName = true ∧
      isName (amounts.descriptor t).targetName = true := by
    decide
  obtain ⟨hword, hname⟩ := hname t
  exact ⟨_, (bindsTightly_name hword hname).reads⟩

/-- Amounts in a record keep their type, and in an array they keep it just if their text binds
tightly. -/
theorem amounts_in_records :
    (∀ t text, nullableAmounts.mapping? (amounts.descriptor t) = some text → ∃ τ, ReadsAs text τ) ∧
      (∀ t, nullableAmounts.mapping? (amounts.descriptor t) = none →
        ∃ τ, ReadsAs (amounts.descriptor t).targetName τ) ∧
      ReadsAs "Record<string, string | null>" (recordOf nullableText) ∧
      (ReadsAs "string | null[]" (.array nullableText) ↔
        BindsTightly "string | null" nullableText) := by
  obtain ⟨-, -, hlocal, -⟩ :=
    typeText_keeps_structure_iff amounts nullableAmounts amounts_mapped amounts_named
  obtain ⟨-, hrecord, harray⟩ := hlocal (.direct (0 : Fin 2)) nullableText readsAs_nullableText
  have hcomment : endsInComment "string | null" = false := endsInComment_eq glyphs?_nullableText
  exact ⟨amounts_mapped, amounts_named, (hrecord (.direct (1 : Fin 2)) (by decide)).2 hcomment, harray⟩

theorem glyphs?_cents : glyphs? "number // cents" = some (plainGlyphs "number ", true) := by
  decide

theorem spells_cents : Spells false (plainGlyphs "number ") [.word "number"] := by
  have htext : plainGlyphs "number " = plainGlyphs "number" ++ [.plain ' '] := by
    decide
  rw [htext]
  exact spells_name (by decide) (endsWord_cons (by decide)) (Spells.nil _).space

/-- A list of amounts is not written as an array of what an amount is written as.  A dictionary of amounts
is not even written as a type if amounts are written with a comment. -/
theorem amounts_lose_alternative :
    (amounts.typeText nullableAmounts (.array (.direct (0 : Fin 2))) = "string | null[]" ∧
      ReadsAs (amounts.typeText nullableAmounts (.direct (0 : Fin 2))) nullableText ∧
      ¬ReadsAs "string | null[]" (.array nullableText)) ∧
    amounts.typeText amountsInCents (.dictionary (.direct (1 : Fin 2)) (.direct (0 : Fin 2))) =
        "Record<string, number // cents>" ∧
      ReadsAs (amounts.typeText amountsInCents (.direct (0 : Fin 2)))
        (.reference (.ofName "number") []) ∧
      ∀ τ, ¬ReadsAs "Record<string, number // cents>" τ := by
  refine ⟨⟨by decide, readsAs_nullableText, fun harray => ?_⟩, by decide, ?_, fun τ => ?_⟩
  · refine not_bindsTightly_nullableText _ ((readsAs_array_iff glyphs?_nullableText ?_ ?_).1 harray)
    · exact fun _ => ⟨_, spells_nullableText⟩
    · exact Bool.noConfusion
  · exact ⟨_, _, _, glyphs?_cents, spells_cents, (isTight_name (by decide)).reads⟩
  · exact not_readsAs_record glyphs?_cents spells_cents.depth_nonneg

end TypeGraph

end TypeExport

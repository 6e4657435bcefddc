import TypeExport.Declaration.Render
import TypeExport.Proofs.Text.AsciiQuoted

/-!
# Written keys

A key is written bare or quoted.  A bare one has no quotation mark in front and none of the marks
that may stand behind a key, so it is seen where a key ends, and which name it was written for.
-/

/-!
## Bare and quoted keys
-/

namespace TypeExport

def keyMark (optional : Bool) : String :=
  if optional then "?:" else ":"

/-- The characters of a bare key. -/
def inBareKey (c : Char) : Bool :=
  continuesKey c || c == '\n'

theorem continuesKey_of_startsKey {c : Char} (h : startsKey c = true) : continuesKey c = true := by
  simp only [startsKey, continuesKey, Char.isAlphanum, Bool.or_eq_true] at h ⊢
  tauto

/-- A bare key has a first character, and it can start a key. -/
theorem startsKey_head_of_isBareKey {key : List Char} (h : isBareKey key = true) :
    ∃ c rest, key = c :: rest ∧ startsKey c = true := by
  cases key with
  | nil => cases h
  | cons c rest =>
    refine ⟨c, rest, rfl, ?_⟩
    unfold isBareKey at h
    split at h
    · cases rest with
      | nil => cases h
      | cons d rest =>
        rw [List.dropLast_cons_cons] at h
        exact (Bool.and_eq_true_iff.1 h).1
    · exact (Bool.and_eq_true_iff.1 h).1

/-- The test for identifiers. -/
def isKeyName : List Char → Bool
  | [] => false
  | c :: rest => startsKey c && rest.all continuesKey

theorem isBareKey_eq (body : List Char) :
    isBareKey body = isKeyName (if body.getLast? = some '\n' then body.dropLast else body) :=
  rfl

/-- A bare key holds letters, digits, low lines and dollar signs, and a line break at its end at most.
-/
theorem inBareKey_of_isBareKey {key : List Char} (h : isBareKey key = true) :
    ∀ c ∈ key, inBareKey c = true := by
  have hidentifier : ∀ body : List Char, isKeyName body = true → ∀ c ∈ body, inBareKey c = true := by
    intro body hbody
    cases body with
    | nil => cases hbody
    | cons c rest =>
      rw [isKeyName, Bool.and_eq_true, List.all_eq_true] at hbody
      intro d hd
      rw [inBareKey]
      rcases List.mem_cons.1 hd with rfl | hd
      · rw [continuesKey_of_startsKey hbody.1]
        rfl
      · rw [hbody.2 d hd]
        rfl
  rw [isBareKey_eq] at h
  split at h
  · next hline =>
    intro c hc
    rw [← List.dropLast_append_getLast? _ hline] at hc
    rcases List.mem_append.1 hc with hc | hc
    · exact hidentifier _ h c hc
    · rw [List.mem_singleton.1 hc]
      rfl
  · exact hidentifier _ h

theorem bareKey_ne_quoted {key : String} (h : isBareKey key.toList = true) (name : String)
    (x y : List Char) : key.toList ++ x ≠ (Quoted.asciiString name).toList ++ y := by
  obtain ⟨c, rest, hkey, hc⟩ := startsKey_head_of_isBareKey h
  rw [hkey, Quoted.toList_asciiString]
  intro hxy
  obtain rfl := (List.cons.inj hxy).1
  cases hc

theorem keyMark_inj {m n : Bool} {x y : List Char}
    (h : (keyMark m).toList ++ x = (keyMark n).toList ++ y) : m = n ∧ x = y := by
  cases m <;> cases n <;> simp [keyMark] at h
  · exact ⟨rfl, h⟩
  · exact ⟨rfl, h⟩

theorem head?_keyMark (optional : Bool) (x : List Char) :
    ∀ c ∈ ((keyMark optional).toList ++ x).head?, inBareKey c = false := by
  cases optional <;> simp [keyMark] <;> decide

/-- A key and the mark behind it are read in one way, up to the name that the key is written for. -/
theorem readsUniquely_key :
    ReadsUniquely (fun _ : String × Bool => True)
      (fun p => (writtenKey p.1).toList ++ (keyMark p.2).toList) := by
  rintro ⟨name, optional⟩ ⟨name', optional'⟩ _ _ x y h
  simp only [List.append_assoc, writtenKey] at h
  -- Two bare keys end at the first character that no bare key has, two quoted ones at the closing
  -- quote, and a bare key never begins like a quoted one.
  by_cases hbare : isBareKey name.toList = true
  · rw [if_pos hbare] at h
    by_cases hbare' : isBareKey name'.toList = true
    · rw [if_pos hbare'] at h
      obtain ⟨hname, hmark⟩ := append_inj_of_all (inBareKey_of_isBareKey hbare)
        (inBareKey_of_isBareKey hbare') (head?_keyMark optional x) (head?_keyMark optional' y) h
      obtain ⟨rfl, hxy⟩ := keyMark_inj hmark
      exact ⟨Prod.ext (String.toList_inj.1 hname) rfl, hxy⟩
    · rw [if_neg hbare'] at h
      exact absurd h (bareKey_ne_quoted hbare _ _ _)
  · rw [if_neg hbare] at h
    by_cases hbare' : isBareKey name'.toList = true
    · rw [if_pos hbare'] at h
      exact absurd h.symm (bareKey_ne_quoted hbare' _ _ _)
    · rw [if_neg hbare'] at h
      obtain ⟨rfl, hmark⟩ := Quoted.readsUniquely_asciiString name name' trivial trivial _ _ h
      obtain ⟨rfl, hxy⟩ := keyMark_inj hmark
      exact ⟨rfl, hxy⟩

/-- The same for the keys as they are written. -/
theorem readsUniquely_writtenKey :
    ReadsUniquely (fun p : String × Bool => ∃ name, p.1 = writtenKey name)
      (fun p => p.1.toList ++ (keyMark p.2).toList) := by
  rintro ⟨_, optional⟩ ⟨_, optional'⟩ ⟨name, rfl⟩ ⟨name', rfl⟩ x y h
  obtain ⟨hpair, hxy⟩ :=
    readsUniquely_key (name, optional) (name', optional') trivial trivial x y h
  obtain ⟨rfl, rfl⟩ := Prod.mk.inj hpair
  exact ⟨rfl, hxy⟩

theorem writtenKey_injective : Function.Injective writtenKey := by
  intro x y h
  have hcode : (writtenKey x).toList ++ (keyMark false).toList ++ [] =
      (writtenKey y).toList ++ (keyMark false).toList ++ [] := by
    rw [h]
  have hxy := readsUniquely_key (x, false) (y, false) trivial trivial [] [] hcode
  exact (Prod.mk.inj hxy.1).1

/-- Two fields have one key if their names are one after the change of case. -/
theorem Policy.fieldKey_eq_iff (policy : Policy) {x y : String} :
    policy.fieldKey x = policy.fieldKey y ↔ policy.keyName x = policy.keyName y :=
  writtenKey_injective.eq_iff

end TypeExport

/-!
## The lines of fields

The key of a field is an identifier that spells the name, or a JSON text on one line that is read as
the name, unless the name is an identifier with a line break behind it: such a name is written bare.
A field takes one line of its declaration exactly if its name is not of that kind, provided that its
type has no line break.
-/

namespace TypeExport

/-- The characters that end a line in the target language. -/
def endsLine (c : Char) : Bool :=
  c = '\n' || c = '\r' || c = '\u2028' || c = '\u2029'

def IsOneLine (s : String) : Prop :=
  ∀ c ∈ s.toList, endsLine c = false

/-- Letters, the low line and the dollar sign. -/
def BeginsName (c : Char) : Prop :=
  ('A' ≤ c ∧ c ≤ 'Z') ∨ ('a' ≤ c ∧ c ≤ 'z') ∨ c = '_' ∨ c = '$'

/-- An identifier of the target language. -/
def IsKeyName (key : String) : Prop :=
  ∃ c rest, key.toList = c :: rest ∧ BeginsName c ∧
    ∀ d ∈ rest, BeginsName d ∨ ('0' ≤ d ∧ d ≤ '9')

/-- What is written for a key: an identifier for itself, or a JSON text on one line of any key. -/
inductive WritesKey (key : String) : String → Prop
  | bare (isName : IsKeyName key) : WritesKey key key
  | quoted {written : String} (isOneLine : IsOneLine written)
      (read_eq : Json.read written.toList = .ok (.text (.ofString key))) : WritesKey key written

/-- An identifier with a line break behind it. -/
def IsBrokenKey (key : String) : Prop :=
  ∃ stem, IsKeyName stem ∧ key = stem ++ "\n"

section Characters

variable {c : Char}

theorem startsKey_iff : startsKey c = true ↔ BeginsName c := by
  simp only [startsKey, BeginsName, Char.isAlpha, Char.isUpper, Char.isLower, Bool.or_eq_true,
    Bool.and_eq_true, decide_eq_true_eq, Char.le_def]
  tauto

theorem continuesKey_iff : continuesKey c = true ↔ BeginsName c ∨ ('0' ≤ c ∧ c ≤ '9') := by
  rw [← startsKey_iff]
  simp only [startsKey, continuesKey, Char.isAlphanum, Char.isDigit, Bool.or_eq_true,
    Bool.and_eq_true, decide_eq_true_eq, Char.le_def]
  tauto

theorem endsLine_of_continuesKey (h : continuesKey c = true) : endsLine c = false := by
  rw [Bool.eq_false_iff]
  intro hline
  simp only [endsLine, Bool.or_eq_true, decide_eq_true_eq] at hline
  obtain ((rfl | rfl) | rfl) | rfl := hline <;> revert h <;> decide

theorem endsLine_of_printable (h : 0x20 ≤ c.toNat ∧ c.toNat ≤ 0x7E) : endsLine c = false := by
  rw [Bool.eq_false_iff]
  intro hline
  simp only [endsLine, Bool.or_eq_true, decide_eq_true_eq] at hline
  obtain ((rfl | rfl) | rfl) | rfl := hline <;> revert h <;> decide

end Characters

section Keys

variable {key : String}

theorem IsKeyName.continuesKey (h : IsKeyName key) : ∀ c ∈ key.toList, continuesKey c = true := by
  obtain ⟨c, rest, hkey, hc, hrest⟩ := h
  rw [hkey, List.forall_mem_cons]
  exact ⟨continuesKey_of_startsKey (startsKey_iff.2 hc), fun d hd => continuesKey_iff.2 (hrest d hd)⟩

theorem IsKeyName.isOneLine (h : IsKeyName key) : IsOneLine key :=
  fun c hc => endsLine_of_continuesKey (h.continuesKey c hc)

theorem isKeyName_iff : isKeyName key.toList = true ↔ IsKeyName key := by
  unfold IsKeyName
  cases key.toList with
  | nil => simp [isKeyName]
  | cons c rest => simp [isKeyName, startsKey_iff, continuesKey_iff, List.all_eq_true]

theorem IsBrokenKey.getLast?_eq (h : IsBrokenKey key) : key.toList.getLast? = some '\n' := by
  obtain ⟨stem, -, rfl⟩ := h
  simp

theorem IsBrokenKey.not_isOneLine (h : IsBrokenKey key) : ¬IsOneLine key := by
  intro hone
  have := hone '\n' (List.mem_of_getLast? h.getLast?_eq)
  revert this
  decide

/-- The keys that are written bare. -/
theorem isBareKey_iff : isBareKey key.toList = true ↔ IsKeyName key ∨ IsBrokenKey key := by
  rw [isBareKey_eq]
  by_cases hlast : key.toList.getLast? = some '\n'
  · have hname : ¬IsKeyName key := fun h => by
      have := h.isOneLine '\n' (List.mem_of_getLast? hlast)
      revert this
      decide
    have hkey : key = String.ofList key.toList.dropLast ++ "\n" := by
      rw [← String.toList_inj, String.toList_append, String.toList_ofList]
      exact (List.dropLast_append_getLast? '\n' hlast).symm
    rw [if_pos hlast, or_iff_right hname]
    constructor
    · intro h
      exact ⟨_, isKeyName_iff.1 (by rwa [String.toList_ofList]), hkey⟩
    · rintro ⟨stem, hstem, rfl⟩
      have hend : ("\n" : String).toList = ['\n'] := rfl
      rw [String.toList_append, hend, List.dropLast_concat]
      exact isKeyName_iff.2 hstem
  · rw [if_neg hlast, or_iff_left fun h : IsBrokenKey key => hlast h.getLast?_eq, isKeyName_iff]

/-- A quoted key is read as the key. -/
theorem read_asciiString (key : String) :
    Json.read (Quoted.asciiString key).toList = .ok (.text (.ofString key)) := by
  have hspace : Json.isSpace '"' = false := by decide
  rw [Quoted.toList_asciiString, List.cons_append, Json.read, Json.readWithin, Json.skipSpaces,
    List.dropWhile_cons_of_neg (by simp [hspace]), Json.readValue, Json.readText_ascii]
  rfl

/-- The written key is a property name of the target language unless it is broken over two lines. -/
theorem writesKey_iff : WritesKey key (writtenKey key) ↔ ¬IsBrokenKey key := by
  unfold writtenKey
  constructor
  · intro h hbroken
    rw [if_pos (isBareKey_iff.2 (.inr hbroken))] at h
    cases h with
    | bare hname => exact hbroken.not_isOneLine hname.isOneLine
    | quoted hone => exact hbroken.not_isOneLine hone
  · intro h
    split
    · next hbare => exact .bare ((isBareKey_iff.1 hbare).resolve_right h)
    · exact .quoted (fun c hc => endsLine_of_printable (Quoted.printable_of_mem_asciiString hc))
        (read_asciiString key)

/-- A key that is written on one line is not broken. -/
theorem isOneLine_writtenKey_iff : IsOneLine (writtenKey key) ↔ ¬IsBrokenKey key := by
  constructor
  · intro h hbroken
    rw [writtenKey, if_pos (isBareKey_iff.2 (.inr hbroken))] at h
    exact hbroken.not_isOneLine h
  · intro h
    generalize hwritten : writtenKey key = written
    have hwrites := writesKey_iff.2 h
    rw [hwritten] at hwrites
    cases hwrites with
    | bare hname => exact hname.isOneLine
    | quoted hone => exact hone

end Keys

section Lines

variable {policy : Policy} {d : Declaration} {f : Field} {before after : List Field}

/-- Lines, each with its end. -/
def ofLines (lines : List String) : String :=
  String.join (lines.map (· ++ "\n"))

theorem render_eq_ofLines (policy : Policy) (d : Declaration) :
    d.render policy = ofLines (d.lines policy) := by
  rw [← String.toList_inj, Declaration.render, toList_lines (by simp [Declaration.lines]), ofLines,
    String.toList_join, List.flatMap_map]
  simp

theorem ofLines_append (lines more : List String) :
    ofLines (lines ++ more) = ofLines lines ++ ofLines more := by
  simp [ofLines]

/-- The lines before a field, its own, and those behind it. -/
theorem render_of_fields (hkind : d.kind = .interface) (hfields : d.fields = before ++ f :: after) :
    d.render policy = ofLines (d.headLine :: before.map (Field.line policy)) ++
      (f.line policy ++ "\n") ++ ofLines (after.map (Field.line policy) ++ ["\x7d"]) := by
  have hlines : d.lines policy = (d.headLine :: before.map (Field.line policy)) ++
      ([f.line policy] ++ (after.map (Field.line policy) ++ ["\x7d"])) := by
    simp [Declaration.lines, hkind, hfields]
  have hone : ofLines [f.line policy] = f.line policy ++ "\n" := by
    simp [ofLines]
  rw [render_eq_ofLines, hlines, ofLines_append, ofLines_append, hone]
  exact (String.append_assoc ..).symm

/-- A field is on one line if its key and its type are. -/
theorem isOneLine_line_iff (htype : IsOneLine f.typeText) :
    IsOneLine (f.line policy) ↔ ¬IsBrokenKey (policy.keyName f.name) := by
  rw [← isOneLine_writtenKey_iff]
  have hmark : ∀ c ∈ (if f.optional then "?" else "").toList, endsLine c = false := by
    cases f.optional <;> simp [endsLine]
  have hfront : ∀ c ∈ ("  " : String).toList, endsLine c = false := by simp [endsLine]
  have hcolon : ∀ c ∈ (": " : String).toList, endsLine c = false := by simp [endsLine]
  have hend : ∀ c ∈ (";" : String).toList, endsLine c = false := by simp [endsLine]
  unfold IsOneLine at htype ⊢
  simp only [Field.line, String.toList_append, List.forall_mem_append]
  constructor
  · rintro ⟨⟨⟨⟨⟨-, hkey⟩, -⟩, -⟩, -⟩, -⟩
    exact hkey
  · exact fun hkey => ⟨⟨⟨⟨⟨hfront, hkey⟩, hmark⟩, hcolon⟩, htype⟩, hend⟩

/-- The key of a field is an identifier that spells the name or a JSON text on one line that is read
as the name, and a field whose type has no line break stands on a line of its own, just if the name is
no identifier with a line break behind it. -/
theorem field_key_valid_iff (policy : Policy) (name : String) :
    (WritesKey (policy.keyName name) (policy.fieldKey name) ↔
      ¬IsBrokenKey (policy.keyName name)) ∧
    ∀ (d : Declaration) (before after : List Field) (typeText : String) (optional : Bool),
      d.kind = .interface → d.fields = before ++ { name, typeText, optional } :: after →
      ∃ line, line = "  " ++ policy.fieldKey name ++ (if optional then "?" else "") ++ ": " ++
          typeText ++ ";" ∧
        d.render policy = ofLines (d.headLine :: before.map (Field.line policy)) ++
          (line ++ "\n") ++ ofLines (after.map (Field.line policy) ++ ["\x7d"]) ∧
        (IsOneLine typeText → (IsOneLine line ↔ ¬IsBrokenKey (policy.keyName name))) := by
  refine ⟨writesKey_iff, fun d before after typeText optional hkind hfields => ?_⟩
  let f : Field := { name, typeText, optional }
  exact ⟨f.line policy, rfl, render_of_fields hkind hfields,
    fun htype => isOneLine_line_iff (f := f) htype⟩

/-- An interface with one number. -/
def orderInterface (name : String) : Declaration :=
  { target := "Order", kind := .interface, exported := true
    fields := [{ name, typeText := "number", optional := false }] }

/-- A name with a blank is quoted. -/
theorem orderNumber_on_one_line :
    WritesKey "order number" (({ camelCaseKeys := false } : Policy).fieldKey "order number") ∧
    ∃ line, line = "  " ++ ({ camelCaseKeys := false } : Policy).fieldKey "order number" ++ "" ++
        ": " ++ "number" ++ ";" ∧
      (orderInterface "order number").render { camelCaseKeys := false } =
        ofLines ["export interface Order \x7b"] ++ (line ++ "\n") ++ ofLines ["\x7d"] ∧
      IsOneLine line := by
  have hbroken : ¬IsBrokenKey "order number" := fun h => by
    have := h.getLast?_eq
    revert this
    decide
  obtain ⟨hkey, hlines⟩ := field_key_valid_iff { camelCaseKeys := false } "order number"
  obtain ⟨line, hline, hrender, hone⟩ :=
    hlines (orderInterface "order number") [] [] "number" false rfl rfl
  have htype : IsOneLine "number" := fun c hc => by
    revert c
    simp [endsLine]
  exact ⟨hkey.2 hbroken, line, hline, hrender, (hone htype).2 hbroken⟩

/-- A line break behind an identifier breaks the line of the field. -/
theorem brokenOrder_on_two_lines :
    ¬WritesKey "id\n" (({ camelCaseKeys := false } : Policy).fieldKey "id\n") ∧
    (orderInterface "id\n").render { camelCaseKeys := false } =
      "export interface Order \x7b\n  id\n: number;\n\x7d\n" := by
  have hbroken : IsBrokenKey "id\n" := ⟨"id", isKeyName_iff.1 (by decide), rfl⟩
  refine ⟨fun h => writesKey_iff.1 h hbroken, ?_⟩
  decide

end Lines

end TypeExport

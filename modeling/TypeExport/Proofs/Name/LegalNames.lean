import TypeExport.Lookup.EnumModule
import TypeExport.Proofs.Name.UniqueMembers
import TypeExport.Proofs.Text.UpperCase

/-!
# Member names that are identifiers

A member name is never a word of the language.  It is an identifier exactly if every letter and number
of its label may stand in one, and the first of them at its start, digits apart: a digit is led by
letters.  Numbers such as `²` and `½` may stand in no identifier, and the name of a label that has one
is none.
-/

namespace TypeExport

namespace Name

/-- Whether a character of a label is kept in its member name. -/
def isKept (c : Char) : Bool :=
  Text.isAlphanumeric c.toNat

/-- The characters of a label that are kept in its member name. -/
def keptChars (label : String) : List Char :=
  label.toList.filter isKept

/-- All kept characters of a label may stand in an identifier, and the first one, if it is no digit,
may start one. -/
structure IsLegible (label : String) : Prop where
  continues : ∀ c ∈ keptChars label, Text.continuesIdentifier c.toNat = true
  starts : ∀ c ∈ (keptChars label).head?,
    Text.isDigit c.toNat = true ∨ Text.startsIdentifier c.toNat = true

/-- The boolean form of `IsLegible`. -/
def isLegible (label : String) : Bool :=
  (keptChars label).all (fun c => Text.continuesIdentifier c.toNat) &&
    (keptChars label).head?.all fun c =>
      Text.isDigit c.toNat || Text.startsIdentifier c.toNat

instance (label : String) : Decidable (IsLegible label) :=
  decidable_of_iff (isLegible label = true) <| by
    unfold isLegible
    simp only [Bool.and_eq_true, List.all_eq_true, Option.all_eq_true, Bool.or_eq_true]
    exact ⟨fun h => ⟨h.1, h.2⟩, fun h => ⟨h.1, h.2⟩⟩

/-- The name is no word of the language, and an identifier exactly if the label is legible. -/
structure IsNamedFor (label name : String) : Prop where
  notKeyword : isKeyword name = false
  isIdentifier_iff : isIdentifier name = true ↔ IsLegible label

variable {c : Char} {s : List Char} {name label : String}

/-- An identifier has a first character that starts one, and all of its characters continue one. -/
theorem isIdentifier_iff : isIdentifier name = true ↔
    (∃ c ∈ name.toList.head?, Text.startsIdentifier c.toNat = true) ∧
      ∀ c ∈ name.toList, Text.continuesIdentifier c.toNat = true := by
  unfold isIdentifier
  cases name.toList with
  | nil => simp [Text.isIdentifier]
  | cons c rest =>
    rw [List.map_cons, Text.isIdentifier, Bool.and_eq_true, List.all_map, List.all_eq_true]
    constructor
    · rintro ⟨hstarts, hrest⟩
      refine ⟨⟨c, rfl, hstarts⟩, fun d hd => ?_⟩
      rcases List.mem_cons.1 hd with rfl | hd
      · exact Text.continuesIdentifier_of_starts hstarts
      · exact hrest d hd
    · rintro ⟨⟨_, ⟨⟩, hstarts⟩, hall⟩
      exact ⟨hstarts, fun d hd => hall d (List.mem_cons_of_mem _ hd)⟩

/-!
## Joined words
-/

theorem forall_upperChar_iff (hc : Text.isAlphanumeric c.toNat = true) :
    (∀ d ∈ Text.upperChar c, Text.continuesIdentifier d.toNat = true) ↔
      Text.continuesIdentifier c.toNat = true := by
  rcases Text.upperChar_cases hc with hsame | ⟨hinitial, d, rest, hupper, hd, hrest⟩
  · rw [hsame, List.forall_mem_singleton]
  · rw [hupper, List.forall_mem_cons]
    exact ⟨fun _ => Text.continuesIdentifier_of_starts hinitial.starts,
      fun _ => ⟨Text.continuesIdentifier_of_starts hd.starts, hrest⟩⟩

theorem joinWords_of_kept (hc : isKept c = true) (start : Bool) (s : List Char) :
    joinWords start (c :: s) =
      (if start then Text.upperChar c else [c]) ++ joinWords false s := by
  rw [joinWords, if_pos]
  exact hc

theorem joinWords_of_not_kept (hc : ¬isKept c = true) (start : Bool) (s : List Char) :
    joinWords start (c :: s) =
      joinWords (start || Text.blankChar c || c = '-' || c = '_') s := by
  rw [joinWords, if_neg]
  exact hc

/-- Upper case does not decide whether a character may stand in an identifier. -/
theorem forall_joinWords_iff (start : Bool) (s : List Char) :
    (∀ d ∈ joinWords start s, Text.continuesIdentifier d.toNat = true) ↔
      ∀ c ∈ s.filter isKept, Text.continuesIdentifier c.toNat = true := by
  induction s generalizing start with
  | nil => exact Iff.rfl
  | cons c s ih =>
    by_cases hc : isKept c = true
    · rw [joinWords_of_kept hc, List.filter_cons_of_pos hc, List.forall_mem_append,
        List.forall_mem_cons, ih]
      split
      · rw [forall_upperChar_iff hc]
      · rw [List.forall_mem_singleton]
    · rw [joinWords_of_not_kept hc, List.filter_cons_of_neg hc, ih]

theorem joinWords_of_kept_nil (h : s.filter isKept = [])
    (start : Bool) : joinWords start s = [] := by
  induction s generalizing start with
  | nil => rfl
  | cons c s ih =>
    have hc : ¬isKept c = true := List.filter_eq_nil_iff.1 h c List.mem_cons_self
    rw [List.filter_cons_of_neg hc] at h
    rw [joinWords_of_not_kept hc, ih h]

/-- Joined words begin like the first kept character. -/
theorem joinWords_of_kept_cons {rest : List Char}
    (h : s.filter isKept = c :: rest) :
    ∃ d more, joinWords true s = d :: more ∧
      Text.isDigit d.toNat = Text.isDigit c.toNat ∧
      Text.startsIdentifier d.toNat = Text.startsIdentifier c.toNat := by
  induction s with
  | nil => cases h
  | cons e s ih =>
    by_cases he : isKept e = true
    · rw [List.filter_cons_of_pos he, List.cons.injEq] at h
      rw [joinWords_of_kept he, if_pos rfl, ← h.1]
      rcases Text.upperChar_cases he with hsame | ⟨hinitial, d, upper, hupper, hd, -⟩
      · rw [hsame]
        exact ⟨e, _, rfl, rfl, rfl⟩
      · rw [hupper]
        exact ⟨d, _, rfl, by rw [hd.notDigit, hinitial.notDigit], by rw [hd.starts, hinitial.starts]⟩
    · rw [List.filter_cons_of_neg he] at h
      rw [joinWords_of_not_kept he, Bool.true_or, Bool.true_or]
      exact ih h

/-!
## Names of values
-/

/-- A word of the language is an identifier, with and without a low line behind it. -/
theorem isIdentifier_avoidKeyword (name : String) :
    isIdentifier (avoidKeyword name) = isIdentifier name := by
  have hall : keywords.all (fun k => isIdentifier k && isIdentifier (k ++ "_")) = true := by
    decide +kernel
  unfold avoidKeyword
  split
  · rename_i hkeyword
    have hboth := List.all_eq_true.1 hall name (List.contains_iff_mem.1 hkeyword)
    rw [Bool.and_eq_true] at hboth
    rw [hboth.1, hboth.2]
  · rfl

theorem isKeyword_avoidKeyword (name : String) : isKeyword (avoidKeyword name) = false := by
  unfold avoidKeyword
  split
  · exact isKeyword_append (by rfl : ['_'].getLast? = some '_') (by decide)
  · rename_i h
    simpa using h

/-- A letter in front makes digits harmless, and nothing else. -/
theorem isIdentifier_leadWithLetter {d : Char} {more : List Char} :
    isIdentifier (leadWithLetter (String.ofList (d :: more))) = true ↔
      (Text.isDigit d.toNat = true ∨ Text.startsIdentifier d.toNat = true) ∧
        ∀ e ∈ d :: more, Text.continuesIdentifier e.toNat = true := by
  have hlead : digitLead.toList.all (fun e => Text.continuesIdentifier e.toNat) = true := by
    decide +kernel
  unfold leadWithLetter
  rw [String.toList_ofList]
  dsimp only
  split
  · rename_i hdigit
    rw [isIdentifier_iff, String.toList_append, String.toList_ofList, List.forall_mem_append]
    constructor
    · rintro ⟨-, -, hall⟩
      exact ⟨.inl hdigit, hall⟩
    · rintro ⟨-, hall⟩
      exact ⟨⟨'I', rfl, by decide +kernel⟩, List.all_eq_true.1 hlead, hall⟩
  · rename_i hdigit
    rw [isIdentifier_iff, String.toList_ofList]
    constructor
    · rintro ⟨⟨_, ⟨⟩, hstarts⟩, hall⟩
      exact ⟨.inr hstarts, hall⟩
    · rintro ⟨hdigit' | hstarts, hall⟩
      · exact absurd hdigit' hdigit
      · exact ⟨⟨d, rfl, hstarts⟩, hall⟩

/-- The name of a member is made of the letters and digits of its label. -/
theorem isNamedFor_memberOfLabel (label : String) : IsNamedFor label (memberOfLabel label) := by
  unfold memberOfLabel
  dsimp only
  cases hkept : keptChars label with
  | nil =>
    rw [joinWords_of_kept_nil hkept]
    have hlegible : IsLegible label := ⟨by rw [hkept]; nofun, by rw [hkept]; nofun⟩
    exact ⟨by decide, iff_of_true (by decide +kernel) hlegible⟩
  | cons c rest =>
    obtain ⟨d, more, hjoined, hdigit, hstarts⟩ := joinWords_of_kept_cons hkept
    have hall := forall_joinWords_iff true label.toList
    rw [hjoined] at hall
    rw [hjoined, if_neg (by simp)]
    refine ⟨isKeyword_avoidKeyword _, ?_⟩
    rw [isIdentifier_avoidKeyword, isIdentifier_leadWithLetter, hdigit, hstarts, hall]
    constructor
    · rintro ⟨hfirst, hcontinues⟩
      refine ⟨hcontinues, fun e he => ?_⟩
      rw [hkept] at he
      cases he
      exact hfirst
    · intro h
      exact ⟨h.starts c (by rw [hkept]; rfl), h.continues⟩

/-- Null is displayed as a word of the language, and named like a label without a letter. -/
theorem isNamedFor_memberOf (v : Value) : IsNamedFor v.display (memberOf v) := by
  cases v with
  | null =>
    have hlegible : IsLegible "None" :=
      (isNamedFor_memberOfLabel "None").isIdentifier_iff.1 (by decide +kernel)
    have hdisplay : Value.null.display = "None" := by simp [Value.display, Value.literal]
    rw [hdisplay]
    exact ⟨by decide, iff_of_true (by decide +kernel) hlegible⟩
  | _ => exact isNamedFor_memberOfLabel _

/-!
## Numbered names
-/

/-- Digits behind a name change nothing about its being an identifier. -/
theorem isIdentifier_append_digits {digits : List Char} (hdigits : ∀ c ∈ digits, c.isDigit = true)
    (name : String) :
    isIdentifier (name ++ String.ofList digits) = isIdentifier name := by
  have hclass : ∀ n < 58, 48 ≤ n →
      Text.startsIdentifier n = false ∧ Text.continuesIdentifier n = true := by
    decide
  have hdigit : ∀ c ∈ digits, Text.startsIdentifier c.toNat = false ∧
      Text.continuesIdentifier c.toNat = true := by
    intro c hc
    obtain ⟨hlow, hhigh⟩ := toNat_of_isDigit (hdigits c hc)
    exact hclass c.toNat (by omega) hlow
  rw [Bool.eq_iff_iff, isIdentifier_iff, isIdentifier_iff, String.toList_append, String.toList_ofList,
    List.forall_mem_append, and_iff_left fun c hc => (hdigit c hc).2]
  refine and_congr_left fun _ => ?_
  cases name.toList with
  | cons c rest => exact Iff.rfl
  | nil =>
    refine iff_of_false ?_ (by simp)
    rintro ⟨c, hc, hstarts⟩
    rw [List.nil_append] at hc
    rw [(hdigit c (List.mem_of_head? hc)).1] at hstarts
    cases hstarts

theorem IsNamedFor.of_mem_candidates {base : String} {count : Nat} (h : IsNamedFor label base)
    (hmem : name ∈ candidates base count) : IsNamedFor label name := by
  rcases exists_digits_of_mem_candidates hmem with rfl | ⟨digits, hne, hdigits, rfl⟩
  · exact h
  · obtain ⟨c, hlast, hc⟩ := getLast?_of_digits hne hdigits
    refine ⟨isKeyword_append hlast hc, ?_⟩
    rw [isIdentifier_append_digits hdigits]
    exact h.isIdentifier_iff

theorem isNamedFor_getElem_nameFrom (used : List String) {values : List Value} {i : Nat} {v : Value}
    (h : values[i]? = some v) :
    ∃ name, (nameFrom used values)[i]? = some name ∧ IsNamedFor v.display name :=
  ⟨_, getElem?_nameFrom used h, (isNamedFor_memberOf v).of_mem_candidates (fresh_mem_candidates _ _)⟩

/-!
## Member lines
-/

/-- The members of a module stand on the lines behind its head, in the order of the rows. -/
theorem getElem?_moduleLines (source : EnumSource String) {rows : List EnumSource.Row} {i : Nat}
    {name : String} {row : EnumSource.Row}
    (hname : (uniqueMembers (rows.map (·.2)))[i]? = some name) (hrow : rows[i]? = some row) :
    (source.moduleLines rows)[12 + i]? =
      some (EnumSource.memberLine (EnumSource.isIntegral rows) name row.1) := by
  unfold EnumSource.moduleLines
  dsimp only
  rw [List.getElem?_append_right (by simp [EnumSource.moduleHead])]
  have hplace : 12 + i - (source.moduleHead
      (if EnumSource.isIntegral rows then "IntEnum" else "Enum")).length = i := by
    simp [EnumSource.moduleHead]
  rw [hplace, List.getElem?_map, (List.getElem?_zip_eq_some (z := (name, row))).2 ⟨hname, hrow⟩]
  rfl

/-- No member name is a word of the language, and it is an identifier exactly if the displayed value is
legible.  The names of a list of values and the targets of the member lines, which stand behind the
twelve lines of the head of a module, are like that one by one. -/
theorem member_names_legal_iff (v : Value) (values : List Value) (source : EnumSource String)
    (rows : List EnumSource.Row) :
    IsNamedFor v.display (memberOf v) ∧
    ((uniqueMembers values).length = values.length ∧
      ∀ i : Fin values.length, ∃ name, (uniqueMembers values)[i.val]? = some name ∧
        IsNamedFor (values.get i).display name) ∧
    (source.moduleLines rows).length = 12 + rows.length ∧
    ∀ i : Fin rows.length, ∃ name, IsNamedFor (rows.get i).2.display name ∧
      (source.moduleLines rows)[12 + i.val]? = some ("    " ++ name ++ " = " ++
        EnumSource.keyLiteral (EnumSource.isIntegral rows) (rows.get i).1) := by
  refine ⟨isNamedFor_memberOf v, ⟨length_nameFrom [] values, fun i => ?_⟩, ?_, fun i => ?_⟩
  · exact isNamedFor_getElem_nameFrom [] (List.getElem?_eq_getElem i.isLt)
  · simp [EnumSource.moduleLines, EnumSource.moduleHead, uniqueMembers, length_nameFrom]
    omega
  · have hrow : rows[i.val]? = some (rows.get i) := List.getElem?_eq_getElem i.isLt
    have hlabel : (rows.map (·.2))[i.val]? = some (rows.get i).2 := by
      rw [List.getElem?_map, hrow]
      rfl
    obtain ⟨name, hname, hnamed⟩ := isNamedFor_getElem_nameFrom [] hlabel
    exact ⟨name, hnamed, getElem?_moduleLines source hname hrow⟩

/-- A raised two is kept like every number, and no identifier has one. -/
example : memberOf (.text "A²") = "A²" ∧ isIdentifier "A²" = false ∧ ¬IsLegible "A²" := by
  decide +kernel

end Name

end TypeExport

import Mathlib
import TypeExport.Lookup.EnumModule
import TypeExport.Sql.Identifier
import TypeExport.Sql.Token

/-!
# Quoted parts of names

A part of a name is written as one token: as a bare word that is not reserved, or between double
quotes.  Inside such quotes every double quote is written twice.  Quoting adds the outer quotes alone,
so a part is written soundly exactly if it has no double quote or is such a token already.
-/

/-!
## Parts
-/

namespace TypeExport.Sql

/-- A text with every double quote written twice. -/
def doubled : List Char → List Char
  | [] => []
  | c :: rest => if c = '"' then '"' :: '"' :: doubled rest else c :: doubled rest

/-- The token between double quotes that denotes a name. -/
def quotedToken (name : List Char) : List Char :=
  '"' :: doubled name ++ ['"']

/-- A letter with letters, digits and low lines behind it that is no reserved word in any letter
case. -/
structure IsBareName (word : List Char) : Prop where
  begins : ∃ c rest, word = c :: rest ∧ Text.isLetter c.toNat = true
  continues : ∀ c ∈ word, Text.isLetter c.toNat = true ∨ Text.isNumber c.toNat = true ∨ c = '_'
  notReserved : Text.lower (String.ofList word) ∉ reservedWords

/-- A text that is one token, and the name that the token denotes. -/
inductive Denotes : List Char → List Char → Prop
  | bare {word : List Char} (isBare : IsBareName word) : Denotes word word
  | quoted (name : List Char) : Denotes (quotedToken name) name

/-- The name that a part denotes if it is a token between double quotes. -/
def unquoted? : List Char → Option (List Char)
  | '"' :: rest =>
    match quotedName rest with
    | some (name, []) => some name
    | _ => none
  | _ => none

/-- A token between double quotes, or a text without double quotes. -/
def IsSoundPart (part : List Char) : Prop :=
  (unquoted? part).isSome ∨ '"' ∉ part

/-- The token that a part should be written as. -/
def partToken (part : List Char) : Token :=
  match unquoted? part with
  | some name => .quoted (String.ofList name)
  | none =>
    if needsQuotes part then .quoted (String.ofList part) else .word (String.ofList part)

section Doubling

variable {s name rest part : List Char}

theorem length_doubled (s : List Char) : (doubled s).length = s.length + s.count '"' := by
  induction s with
  | nil => rfl
  | cons c rest ih =>
    rw [doubled]
    split_ifs with hc
    · subst hc
      simp only [List.length_cons, List.count_cons_self, ih]
      omega
    · rw [List.length_cons, List.length_cons, List.count_cons_of_ne hc, ih]
      omega

theorem count_doubled (s : List Char) : (doubled s).count '"' = 2 * s.count '"' := by
  induction s with
  | nil => rfl
  | cons c rest ih =>
    rw [doubled]
    split_ifs with hc
    · subst hc
      simp only [List.count_cons_self, ih]
      omega
    · rw [List.count_cons_of_ne hc, List.count_cons_of_ne hc, ih]

/-- Doubling changes a text just if there are quotes in it. -/
theorem doubled_eq_self_iff : doubled s = s ↔ '"' ∉ s := by
  rw [← List.count_eq_zero]
  constructor
  · intro h
    have hlength := length_doubled s
    rw [h] at hlength
    omega
  · intro h
    induction s with
    | nil => rfl
    | cons c rest ih =>
      have hc : c ≠ '"' := by
        rintro rfl
        simp at h
      rw [List.count_cons_of_ne hc] at h
      rw [doubled, if_neg hc, ih h]

/-- A doubled name is read back from between its quotes. -/
theorem quotedName_doubled (name : List Char) (h : rest.head? ≠ some '"') :
    quotedName (doubled name ++ '"' :: rest) = some (name, rest) := by
  induction name with
  | nil =>
    rw [doubled, List.nil_append, quotedName]
    · rintro r rfl
      exact h rfl
  | cons c name ih =>
    rw [doubled]
    split_ifs with hc
    · subst hc
      rw [List.cons_append, List.cons_append, quotedName, ih]
      rfl
    · rw [List.cons_append, quotedName, ih]
      · rfl
      all_goals simp [hc]

/-- What is read between quotes was doubled. -/
theorem eq_of_quotedName (h : quotedName s = some (name, rest)) :
    s = doubled name ++ '"' :: rest ∧ rest.head? ≠ some '"' := by
  fun_induction quotedName s generalizing name with
  | case1 r ih =>
    obtain ⟨⟨n, t⟩, hn, he⟩ := Option.map_eq_some_iff.1 h
    obtain ⟨rfl, rfl⟩ := Prod.mk.inj he
    obtain ⟨rfl, hrest⟩ := ih hn
    exact ⟨by simp [doubled], hrest⟩
  | case2 r hr =>
    obtain ⟨rfl, rfl⟩ := Prod.mk.inj (Option.some.inj h)
    refine ⟨rfl, fun hhead => ?_⟩
    cases r with
    | nil => cases hhead
    | cons c r =>
      obtain rfl := Option.some.inj hhead
      exact hr r rfl
  | case3 c r _ hc ih =>
    obtain ⟨⟨n, t⟩, hn, he⟩ := Option.map_eq_some_iff.1 h
    obtain ⟨rfl, rfl⟩ := Prod.mk.inj he
    obtain ⟨rfl, hrest⟩ := ih hn
    have hne : c ≠ '"' := hc
    exact ⟨by simp [doubled, hne], hrest⟩
  | case4 => cases h

/-- The tokens between double quotes are the parts that can be read as one. -/
theorem unquoted?_eq_some_iff : unquoted? part = some name ↔ part = quotedToken name := by
  constructor
  · intro h
    unfold unquoted? at h
    split at h
    · next rest =>
      split at h
      · next name' hname =>
        obtain rfl := Option.some.inj h
        rw [(eq_of_quotedName hname).1]
        rfl
      · cases h
    · cases h
  · rintro rfl
    rw [quotedToken, List.cons_append, unquoted?, quotedName_doubled name (by simp)]

theorem count_quotedToken (name : List Char) :
    (quotedToken name).count '"' = 2 + 2 * name.count '"' := by
  simp only [quotedToken, List.cons_append, List.count_cons_self, List.count_append, count_doubled,
    List.count_nil]
  omega

theorem quotedToken_of_not_mem (h : '"' ∉ part) : quotedToken part = '"' :: part ++ ['"'] := by
  rw [quotedToken, doubled_eq_self_iff.2 h]

end Doubling

section Parts

variable {part name : List Char}

theorem isWord_iff {c : Char} : Text.isWord c.toNat = true ↔
    Text.isLetter c.toNat = true ∨ Text.isNumber c.toNat = true ∨ c = '_' := by
  have hline : c.toNat = 95 ↔ c = '_' := by
    rw [← Char.toNat_inj]
    rfl
  simp only [Text.isWord, Text.isAlphanumeric, Bool.or_eq_true, beq_iff_eq, hline, or_assoc]

/-- The parts that may stand bare. -/
theorem needsQuotes_eq_false_iff : needsQuotes part = false ↔ IsBareName part := by
  have hbegins : (part.head?.any fun c => Text.isLetter c.toNat) = true ↔
      ∃ c rest, part = c :: rest ∧ Text.isLetter c.toNat = true := by
    cases part <;> simp
  have hcontinues : (part.any fun c => !Text.isWord c.toNat) = false ↔
      ∀ c ∈ part, Text.isLetter c.toNat = true ∨ Text.isNumber c.toNat = true ∨ c = '_' := by
    simp only [List.any_eq_false, Bool.not_eq_true', Bool.not_eq_false, isWord_iff]
  unfold needsQuotes
  rw [Bool.or_eq_false_iff, Bool.or_eq_false_iff, Bool.not_eq_false', hbegins, hcontinues]
  unfold isReserved
  rw [List.contains_eq_mem, decide_eq_false_iff_not]
  exact ⟨fun ⟨⟨h, h'⟩, h''⟩ => ⟨h', h'', h⟩, fun ⟨h, h', h''⟩ => ⟨⟨h'', h⟩, h'⟩⟩

theorem IsBareName.quote_not_mem (h : IsBareName part) : '"' ∉ part := by
  intro hmem
  have hword := isWord_iff.2 (h.continues _ hmem)
  revert hword
  decide

theorem isQuoted_quotedToken (name : List Char) : isQuoted (quotedToken name) = true := by
  have hlast : (quotedToken name).getLast? = some '"' := List.getLast?_concat
  rw [isQuoted, hlast]
  simp [quotedToken]

theorem isQuoted_of_not_mem (h : '"' ∉ part) : isQuoted part = false := by
  rw [Bool.eq_false_iff]
  intro hquoted
  simp only [isQuoted, Bool.and_eq_true, beq_iff_eq] at hquoted
  exact h (List.mem_of_mem_head? hquoted.1.2)

theorem quotePart_quotedToken (name : List Char) : quotePart (quotedToken name) = quotedToken name := by
  rw [quotePart, if_pos (isQuoted_quotedToken name)]

/-- A part without double quotes is written as the token of itself. -/
theorem denotes_quotePart_of_not_mem (h : '"' ∉ part) : Denotes (quotePart part) part := by
  rw [quotePart, isQuoted_of_not_mem h, if_neg Bool.false_ne_true]
  split_ifs with hneeds
  · rw [← quotedToken_of_not_mem h]
    exact .quoted part
  · exact .bare (needsQuotes_eq_false_iff.1 (Bool.eq_false_iff.2 hneeds))

theorem isSoundPart_iff : IsSoundPart part ↔ (∃ name, part = quotedToken name) ∨ '"' ∉ part := by
  simp only [IsSoundPart, Option.isSome_iff_exists, unquoted?_eq_some_iff]

/-- A part is written as one token, which denotes the part unless the part was a token between double
quotes before, just if it was one or has no double quote. -/
theorem denotes_quotePart_iff :
    (∃ name, Denotes (quotePart part) name ∧
      ((¬∃ inner, part = quotedToken inner) → name = part)) ↔ IsSoundPart part := by
  rw [isSoundPart_iff]
  constructor
  · rintro ⟨name, hdenotes, hsame⟩
    refine or_iff_not_imp_left.2 fun hnot => ?_
    obtain rfl := hsame hnot
    generalize hwritten : quotePart name = written at hdenotes
    cases hdenotes with
    | bare hbare => exact hbare.quote_not_mem
    | quoted =>
      -- Only the branch that adds the outer quotes can give this token.
      unfold quotePart at hwritten
      split_ifs at hwritten with hquoted hneeds
      · exact absurd ⟨name, hwritten⟩ hnot
      · rw [quotedToken] at hwritten
        exact doubled_eq_self_iff.1
          (List.append_cancel_right (List.cons.inj hwritten).2).symm
      · exact absurd ⟨name, hwritten⟩ hnot
  · rintro (⟨inner, rfl⟩ | hmem)
    · refine ⟨inner, ?_, fun hnot => absurd ⟨inner, rfl⟩ hnot⟩
      rw [quotePart_quotedToken]
      exact .quoted inner
    · exact ⟨part, denotes_quotePart_of_not_mem hmem, fun _ => rfl⟩

/-- The number of double quotes in the token of a name. -/
def Token.quotes : Token → Nat
  | .quoted name => 2 + 2 * name.toList.count '"'
  | _ => 0

@[simp] theorem Token.quotes_word (name : String) : (word name).quotes = 0 := rfl

@[simp] theorem Token.quotes_mark (c : Char) : (mark c).quotes = 0 := rfl

theorem partToken_quotedToken (name : List Char) :
    partToken (quotedToken name) = .quoted (String.ofList name) := by
  rw [partToken, unquoted?_eq_some_iff.2 rfl]

theorem unquoted?_of_not_mem (h : '"' ∉ part) : unquoted? part = none := by
  rw [Option.eq_none_iff_forall_ne_some]
  intro name hname
  rw [unquoted?_eq_some_iff.1 hname] at h
  exact h List.mem_cons_self

theorem quotes_partToken (h : IsSoundPart part) :
    (partToken part).quotes = (quotePart part).count '"' := by
  obtain ⟨name, rfl⟩ | hmem := isSoundPart_iff.1 h
  · rw [partToken_quotedToken, quotePart_quotedToken, count_quotedToken, Token.quotes,
      String.toList_ofList]
  · rw [partToken, unquoted?_of_not_mem hmem, quotePart, isQuoted_of_not_mem hmem,
      if_neg Bool.false_ne_true]
    have hcount : part.count '"' = 0 := List.count_eq_zero.2 hmem
    split_ifs
    · simp [Token.quotes, hcount]
    · exact hcount.symm

/-- A part that is not written soundly lacks double quotes. -/
theorem count_quotePart_lt (h : ¬IsSoundPart part) :
    (quotePart part).count '"' < (partToken part).quotes := by
  obtain ⟨hunquoted, hmem⟩ := not_or.1 h
  rw [not_not] at hmem
  have hneeds : needsQuotes part = true := by
    rw [← Bool.not_eq_false]
    exact fun hneeds => (needsQuotes_eq_false_iff.1 hneeds).quote_not_mem hmem
  rw [partToken, Option.not_isSome_iff_eq_none.1 hunquoted]
  dsimp only
  rw [if_pos hneeds, Token.quotes, String.toList_ofList]
  have hpos := List.count_pos_iff.2 hmem
  unfold quotePart
  rw [if_pos hneeds]
  split_ifs
  · omega
  · simp only [List.cons_append, List.count_cons_self, List.count_append, List.count_nil]
    omega

theorem count_quotePart_le (part : List Char) :
    (quotePart part).count '"' ≤ (partToken part).quotes := by
  by_cases h : IsSoundPart part
  · exact Nat.le_of_eq (quotes_partToken h).symm
  · exact Nat.le_of_lt (count_quotePart_lt h)

end Parts

end TypeExport.Sql

/-!
## The tokens of queries

A part that is written soundly is read as its token, whatever stands behind it that does not
continue it.  So the query of a source with sound names has the tokens of these names in their
places.  The double quotes of a statement are those of its tokens.
-/

namespace TypeExport.Sql

/-- Behind a text no token of the text goes on. -/
def Stops (rest : List Char) : Prop :=
  ∀ c ∈ rest.head?, continuesWord c = false ∧ c ≠ '"'

def partTokens : List (List Char) → List Token
  | [] => []
  | [part] => [partToken part]
  | part :: parts => partToken part :: .mark '.' :: partTokens parts

def nameTokens (name : String) : List Token :=
  partTokens (Text.splitOn '.' name.toList)

/-- All parts of the name are written soundly. -/
def IsSoundName (name : String) : Prop :=
  ∀ part ∈ Text.splitOn '.' name.toList, IsSoundPart part

section Reading

variable {c : Char} {word name part rest : List Char}

theorem tokens?_blank (rest : List Char) : tokens? (' ' :: rest) = tokens? rest := by
  rw [tokens?, if_pos (by decide)]

theorem tokens?_mark (hc : c = ',' ∨ c = '.') (rest : List Char) :
    tokens? (c :: rest) = (tokens? rest).map (.mark c :: ·) := by
  obtain rfl | rfl := hc
  · rw [tokens?, if_neg (by decide), if_neg (by decide), if_neg (by decide), if_pos (by decide)]
  · rw [tokens?, if_neg (by decide), if_neg (by decide), if_neg (by decide), if_pos (by decide)]

/-- A quoted name is one token. -/
theorem tokens?_quotedToken (name : List Char) (h : Stops rest) :
    tokens? (quotedToken name ++ rest) =
      (tokens? rest).map (.quoted (String.ofList name) :: ·) := by
  have hname : quotedName (doubled name ++ '"' :: rest) = some (name, rest) :=
    quotedName_doubled name fun hhead => (h '"' hhead).2 rfl
  have hsplit : quotedToken name ++ rest = '"' :: (doubled name ++ '"' :: rest) := by
    simp [quotedToken]
  rw [hsplit, tokens?, if_neg (by decide), if_pos rfl]
  split
  · next hnone =>
    rw [hname] at hnone
    cases hnone
  · next hsome =>
    rw [hname] at hsome
    cases hsome
    rfl

theorem startsWord_ne (h : startsWord c = true) : isBlank c = false ∧ c ≠ '"' := by
  refine ⟨?_, ?_⟩
  · rw [Bool.eq_false_iff]
    intro hblank
    simp only [isBlank, Bool.or_eq_true, decide_eq_true_eq] at hblank
    obtain (((rfl | rfl) | rfl) | rfl) | rfl := hblank <;> revert h <;> decide
  · rintro rfl
    revert h
    decide

/-- A word is one token. -/
theorem tokens?_word (hc : startsWord c = true) (hword : ∀ d ∈ word, continuesWord d = true)
    (h : Stops rest) :
    tokens? (c :: word ++ rest) =
      (tokens? rest).map (.word (String.ofList (c :: word)) :: ·) := by
  obtain ⟨hblank, hquote⟩ := startsWord_ne hc
  have hstop : rest.takeWhile continuesWord = [] ∧ rest.dropWhile continuesWord = rest := by
    cases rest with
    | nil => exact ⟨rfl, rfl⟩
    | cons d rest =>
      have hd := (h d rfl).1
      exact ⟨List.takeWhile_cons_of_neg (by simp [hd]), List.dropWhile_cons_of_neg (by simp [hd])⟩
  rw [List.cons_append, tokens?, if_neg (by simp [hblank]), if_neg hquote, if_pos hc,
    List.takeWhile_append_of_pos hword, List.dropWhile_append_of_pos hword, hstop.1, hstop.2,
    List.append_nil]

theorem startsWord_of_isLetter (h : Text.isLetter c.toNat = true) : startsWord c = true := by
  by_cases hascii : c.toNat < 128
  · have halpha : c.isAlpha = true := by
      simp only [Text.isLetter, if_pos hascii, Bool.or_eq_true, Bool.and_eq_true,
        decide_eq_true_eq] at h
      simp only [Char.isAlpha, Char.isUpper, Char.isLower, Bool.or_eq_true, Bool.and_eq_true,
        decide_eq_true_eq, UInt32.le_iff_toNat_le]
      exact h
    simp [startsWord, halpha]
  · simp [startsWord, Nat.le_of_not_lt hascii]

/-- Letters, numbers and low lines continue a word. -/
theorem continuesWord_of_isWord (h : Text.isLetter c.toNat = true ∨ Text.isNumber c.toNat = true ∨
    c = '_') : continuesWord c = true := by
  rw [continuesWord, Bool.or_eq_true, Bool.or_eq_true]
  obtain h | h | rfl := h
  · exact .inl (.inl (startsWord_of_isLetter h))
  · by_cases hascii : c.toNat < 128
    · have hdigit : c.isDigit = true := by
        simp only [Text.isNumber, if_pos hascii, Bool.and_eq_true, decide_eq_true_eq] at h
        simp only [Char.isDigit, Bool.and_eq_true, decide_eq_true_eq, UInt32.le_iff_toNat_le]
        exact h
      exact .inl (.inr hdigit)
    · refine .inl (.inl ?_)
      simp [startsWord, Nat.le_of_not_lt hascii]
  · exact .inl (.inl (by decide))

/-- A part that is written soundly is read as its token. -/
theorem tokens?_quotePart (hpart : IsSoundPart part) (h : Stops rest) :
    tokens? (quotePart part ++ rest) = (tokens? rest).map (partToken part :: ·) := by
  obtain ⟨name, rfl⟩ | hmem := isSoundPart_iff.1 hpart
  · rw [quotePart_quotedToken, partToken_quotedToken, tokens?_quotedToken name h]
  · rw [quotePart, isQuoted_of_not_mem hmem, if_neg Bool.false_ne_true, partToken,
      unquoted?_of_not_mem hmem]
    dsimp only
    split_ifs with hneeds
    · rw [← quotedToken_of_not_mem hmem, tokens?_quotedToken part h]
    · obtain ⟨⟨c, word, rfl, hc⟩, hword, -⟩ :=
        needsQuotes_eq_false_iff.1 (Bool.eq_false_iff.2 hneeds)
      exact tokens?_word (startsWord_of_isLetter hc)
        (fun d hd => continuesWord_of_isWord (hword d (List.mem_cons_of_mem _ hd))) h

/-- Sound parts with points between them are the tokens of the parts. -/
theorem tokens?_parts {parts : List (List Char)} (hne : parts ≠ [])
    (hparts : ∀ part ∈ parts, IsSoundPart part) (h : Stops rest) :
    tokens? (Text.joinWith '.' (parts.map quotePart) ++ rest) =
      (tokens? rest).map (partTokens parts ++ ·) := by
  induction parts with
  | nil => exact absurd rfl hne
  | cons part parts ih =>
    obtain ⟨hpart, hmore⟩ := List.forall_mem_cons.1 hparts
    cases parts with
    | nil => exact tokens?_quotePart hpart h
    | cons next more =>
      have hpoint : Stops ('.' :: (Text.joinWith '.' ((next :: more).map quotePart) ++ rest)) := by
        intro c hc
        obtain rfl := Option.some.inj hc
        decide
      have hjoin : Text.joinWith '.' ((part :: next :: more).map quotePart) ++ rest =
          quotePart part ++ '.' :: (Text.joinWith '.' ((next :: more).map quotePart) ++ rest) := by
        simp [Text.joinWith]
      rw [hjoin, tokens?_quotePart hpart hpoint, tokens?_mark (.inr rfl),
        ih (List.cons_ne_nil _ _) hmore, Option.map_map, Option.map_map]
      rfl

theorem toList_quoteName {name : String} (h : Text.allBlank name = false) :
    (quoteName name).toList =
      Text.joinWith '.' ((Text.splitOn '.' name.toList).map quotePart) := by
  rw [quoteName, h, if_neg Bool.false_ne_true, String.toList_ofList]

/-- A name with sound parts is read as its tokens. -/
theorem tokens?_quoteName {name : String} (hblank : Text.allBlank name = false)
    (hname : IsSoundName name) (h : Stops rest) :
    tokens? ((quoteName name).toList ++ rest) = (tokens? rest).map (nameTokens name ++ ·) := by
  rw [toList_quoteName hblank, tokens?_parts (Text.splitOn_ne_nil _ _) hname h]
  rfl

end Reading

end TypeExport.Sql

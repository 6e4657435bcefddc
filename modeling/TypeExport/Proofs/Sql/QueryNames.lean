import TypeExport.Proofs.Sql.QuotedParts
import TypeExport.Proofs.Text.UniqueReading
import TypeExport.Proofs.Text.UpperCase
import TypeExport.Sql.Selection

/-!
# The names of queries

A statement holds the double quotes of the tokens that are read from it, and a selection those of its
names.  A part that is not written soundly lacks double quotes, so the query of a source selects
the configured names exactly if all of them are written soundly and none of their bare parts is a
reserved word.  Which words are reserved beside those of a selection is a matter of the database.
-/

namespace TypeExport.Sql

/-- What a part names: the text between its double quotes, or else the part itself. -/
def partName (part : List Char) : Bool × String :=
  match unquoted? part with
  | some name => (true, String.ofList name)
  | none => (needsQuotes part, String.ofList part)

/-- The name that an identifier stands for. -/
def partedName (identifier : String) : PartedName :=
  (Text.splitOn '.' identifier.toList).map partName

/-- No bare part of a name is a reserved word. -/
def IsFree (reserved : ReservedWords) (name : PartedName) : Prop :=
  ∀ part ∈ name, part.1 = false → reserved.holds part.2 = false

def quotes (ts : List Token) : Nat :=
  (ts.map Token.quotes).sum

/-- The double quotes that a name is written with. -/
def nameQuotes (name : PartedName) : Nat :=
  (name.map fun part => if part.1 then 2 + 2 * part.2.toList.count '"' else 0).sum

/-- An identifier whose parts are all written soundly. -/
structure IsWritten (identifier : String) : Prop where
  notBlank : Text.allBlank identifier = false
  isSound : IsSoundName identifier

/-- An identifier that a query names as it is meant, for a database with some reserved words. -/
structure IsReadable (reserved : ReservedWords) (identifier : String) : Prop
    extends IsWritten identifier where
  isFree : IsFree reserved (partedName identifier)

def queryTokens (source : EnumSource String) : List Token :=
  .word "SELECT" :: nameTokens source.keyColumn ++
    .mark ',' :: nameTokens source.labelColumn ++
    .word "FROM" :: nameTokens source.table ++
    .word "ORDER" :: .word "BY" :: nameTokens source.keyColumn

def selectionOf (source : EnumSource String) : Selection where
  columns := [partedName source.keyColumn, partedName source.labelColumn]
  table := partedName source.table
  order := [partedName source.keyColumn]

section Quotes

variable {reserved : ReservedWords} {s : List Char} {t : Token} {ts before after : List Token}
  {part : Bool × String}
  {name : PartedName} {names : List PartedName} {word : String}

theorem quotes_cons (t : Token) (ts : List Token) : quotes (t :: ts) = t.quotes + quotes ts := by
  rw [quotes, List.map_cons, List.sum_cons]
  rfl

theorem quotes_append (before after : List Token) :
    quotes (before ++ after) = quotes before + quotes after := by
  rw [quotes, List.map_append, List.sum_append]
  rfl

/-- A statement has the double quotes of its tokens. -/
theorem count_eq_quotes (h : tokens? s = some ts) : s.count '"' = quotes ts := by
  fun_induction tokens? s generalizing ts with
  | case1 =>
    obtain rfl := Option.some.inj h
    rfl
  | case2 c rest hblank ih =>
    have hc : c ≠ '"' := by
      rintro rfl
      revert hblank
      decide
    rw [List.count_cons_of_ne hc, ih h]
  | case3 => cases h
  | case4 rest name r hname _ _ ih =>
    obtain ⟨more, hmore, rfl⟩ := Option.map_eq_some_iff.1 h
    rw [(eq_of_quotedName hname).1, quotes_cons, ← ih hmore, Token.quotes, String.toList_ofList]
    simp only [List.count_cons_self, List.count_append, count_doubled]
    omega
  | case5 c rest _ hc _ _ ih =>
    obtain ⟨more, hmore, rfl⟩ := Option.map_eq_some_iff.1 h
    have hword : (rest.takeWhile continuesWord).count '"' = 0 := by
      rw [List.count_eq_zero]
      intro hmem
      have hcontinues := List.all_eq_true.1 List.all_takeWhile _ hmem
      revert hcontinues
      decide
    rw [quotes_cons, ← ih hmore, List.count_cons_of_ne hc, Token.quotes_word, Nat.zero_add]
    conv_lhs => rw [← List.takeWhile_append_dropWhile (p := continuesWord) (l := rest)]
    rw [List.count_append, hword, Nat.zero_add]
  | case6 c rest _ hc _ _ ih =>
    obtain ⟨more, hmore, rfl⟩ := Option.map_eq_some_iff.1 h
    rw [quotes_cons, ← ih hmore, List.count_cons_of_ne hc, Token.quotes_mark, Nat.zero_add]
  | case7 => cases h

/-- A part that is read has the quotes of its token, and is no reserved word if it is bare. -/
theorem quotes_namePart? (h : namePart? reserved t = some part) :
    quotes [t] = nameQuotes [part] ∧ IsFree reserved [part] := by
  cases t with
  | word text =>
    rw [namePart?] at h
    split_ifs at h with hfree
    obtain rfl := Option.some.inj h
    refine ⟨rfl, fun part hpart _ => ?_⟩
    rw [List.mem_singleton.1 hpart]
    exact Bool.eq_false_iff.2 hfree
  | quoted text =>
    obtain rfl := Option.some.inj h
    refine ⟨rfl, fun part hpart hbare => ?_⟩
    rw [List.mem_singleton.1 hpart] at hbare
    cases hbare
  | mark c => cases h

theorem nameQuotes_cons (part : Bool × String) (name : PartedName) :
    nameQuotes (part :: name) = nameQuotes [part] + nameQuotes name := by
  simp [nameQuotes]

theorem isFree_cons_iff :
    IsFree reserved (part :: name) ↔ IsFree reserved [part] ∧ IsFree reserved name := by
  simp [IsFree]

/-- So does a name of several parts. -/
theorem quotes_partedName? (h : partedName? reserved ts = some name) :
    quotes ts = nameQuotes name ∧ IsFree reserved name := by
  fun_induction partedName? reserved ts generalizing name with
  | case1 t =>
    obtain ⟨part, hpart, rfl⟩ := Option.map_eq_some_iff.1 h
    exact quotes_namePart? hpart
  | case2 t rest ih =>
    obtain ⟨part, hpart, h⟩ := Option.bind_eq_some_iff.1 h
    obtain ⟨more, hmore, h⟩ := Option.bind_eq_some_iff.1 h
    obtain rfl := Option.some.inj h
    obtain ⟨hquotes, hfree⟩ := quotes_namePart? hpart
    obtain ⟨hquotes', hfree'⟩ := ih hmore
    refine ⟨?_, isFree_cons_iff.2 ⟨hfree, hfree'⟩⟩
    rw [nameQuotes_cons, ← hquotes, ← hquotes']
    simp [quotes, Token.quotes]
  | case3 => cases h

/-- Commas bring no quotes. -/
theorem quotes_joinWith (pieces : List (List Token)) :
    quotes (Text.joinWith (.mark ',') pieces) = (pieces.map quotes).sum := by
  induction pieces with
  | nil => rfl
  | cons piece pieces ih =>
    cases pieces with
    | nil => simp [Text.joinWith]
    | cons next more =>
      have hjoin : Text.joinWith (.mark ',') (piece :: next :: more) =
          piece ++ .mark ',' :: Text.joinWith (.mark ',') (next :: more) := rfl
      rw [hjoin, quotes_append, quotes_cons, ih, Token.quotes_mark, Nat.zero_add]
      rfl

/-- Names that are read have the quotes of their tokens. -/
theorem quotes_mapM {pieces : List (List Token)} (h : pieces.mapM (partedName? reserved) = some names) :
    (pieces.map quotes).sum = (names.map nameQuotes).sum ∧ ∀ name ∈ names, IsFree reserved name := by
  induction pieces generalizing names with
  | nil =>
    obtain rfl := Option.some.inj h
    exact ⟨rfl, by simp⟩
  | cons piece pieces ih =>
    rw [List.mapM_cons] at h
    obtain ⟨name, hname, h⟩ := Option.bind_eq_some_iff.1 h
    obtain ⟨more, hmore, h⟩ := Option.bind_eq_some_iff.1 h
    obtain rfl := Option.some.inj h
    obtain ⟨hquotes, hfree⟩ := quotes_partedName? hname
    obtain ⟨hquotes', hfree'⟩ := ih hmore
    refine ⟨?_, List.forall_mem_cons.2 ⟨hfree, hfree'⟩⟩
    rw [List.map_cons, List.sum_cons, List.map_cons, List.sum_cons, hquotes, hquotes']

theorem quotes_nameList? (h : nameList? reserved ts = some names) :
    quotes ts = (names.map nameQuotes).sum ∧ ∀ name ∈ names, IsFree reserved name := by
  obtain ⟨hquotes, hfree⟩ := quotes_mapM h
  rw [← quotes_joinWith, Text.joinWith_splitOn] at hquotes
  exact ⟨hquotes, hfree⟩

theorem quotes_of_isWord (h : isWord word t = true) : t.quotes = 0 := by
  cases t with
  | word _ => rfl
  | quoted _ => cases h
  | mark _ => cases h

/-- A word brings no quotes. -/
theorem quotes_splitAtWord? (h : splitAtWord? word ts = some (before, after)) :
    quotes ts = quotes before + quotes after := by
  unfold splitAtWord? at h
  split at h
  · next t rest hdrop =>
    obtain ⟨rfl, rfl⟩ := Prod.mk.inj (Option.some.inj h)
    have hword : isWord word t = true := by simpa using eq_false_of_dropWhile hdrop
    conv_lhs => rw [← List.takeWhile_append_dropWhile (p := (!isWord word ·)) (l := ts), hdrop]
    rw [quotes_append, quotes_cons, quotes_of_isWord hword, Nat.zero_add]
  · cases h

/-- A selection is columns, a table and an order between their words. -/
theorem ofTokens?_cons_eq_some_iff {selection : Selection} :
    Selection.ofTokens? reserved (t :: ts) = some selection ↔
      isWord "SELECT" t = true ∧ ∃ columns table order rest rest',
        splitAtWord? "FROM" ts = some (columns, rest) ∧
        splitAtWord? "ORDER" rest = some (table, rest') ∧
        splitAtWord? "BY" rest' = some ([], order) ∧
        nameList? reserved columns = some selection.columns ∧
        partedName? reserved table = some selection.table ∧
        nameList? reserved order = some selection.order := by
  constructor
  · intro h
    simp only [Selection.ofTokens?] at h
    split_ifs at h with hselect
    · cases h
    obtain ⟨⟨columns, rest⟩, hfrom, h⟩ := Option.bind_eq_some_iff.1 h
    obtain ⟨⟨table, rest'⟩, horder, h⟩ := Option.bind_eq_some_iff.1 h
    obtain ⟨⟨empty, order⟩, hby, h⟩ := Option.bind_eq_some_iff.1 h
    split_ifs at h with hempty
    · cases h
    obtain ⟨names, hcolumns, h⟩ := Option.bind_eq_some_iff.1 h
    obtain ⟨name, htable, h⟩ := Option.bind_eq_some_iff.1 h
    obtain ⟨keys, horder', h⟩ := Option.bind_eq_some_iff.1 h
    obtain rfl := Option.some.inj h
    obtain rfl : empty = [] := by simpa using hempty
    exact ⟨by simpa using hselect, columns, table, order, rest, rest', hfrom, horder, hby, hcolumns,
      htable, horder'⟩
  · rintro ⟨hselect, columns, table, order, rest, rest', hfrom, horder, hby, hc, ht, ho⟩
    simp [Selection.ofTokens?, hselect, hfrom, horder, hby, hc, ht, ho]

/-- A selection has the double quotes of its statement, and no bare part of it is a reserved word. -/
theorem quotes_ofTokens? {selection : Selection}
    (h : Selection.ofTokens? reserved ts = some selection) :
    quotes ts = (selection.columns.map nameQuotes).sum + nameQuotes selection.table +
        (selection.order.map nameQuotes).sum ∧
      ∀ name ∈ selection.table :: selection.columns, IsFree reserved name := by
  cases ts with
  | nil => cases h
  | cons t ts =>
    obtain ⟨hselect, columns, table, order, rest, rest', hfrom, horder, hby, hcolumns, htable,
      hnames⟩ := ofTokens?_cons_eq_some_iff.1 h
    obtain ⟨hcolumns, hfree⟩ := quotes_nameList? hcolumns
    obtain ⟨htable, hfree'⟩ := quotes_partedName? htable
    have hnil : quotes [] = 0 := rfl
    rw [quotes_cons, quotes_of_isWord hselect, quotes_splitAtWord? hfrom, quotes_splitAtWord? horder,
      quotes_splitAtWord? hby, hcolumns, htable, (quotes_nameList? hnames).1, hnil]
    exact ⟨by omega, List.forall_mem_cons.2 ⟨hfree', hfree⟩⟩

end Quotes

section Names

variable {reserved : ReservedWords} {identifier : String} {part : List Char}
  {source : EnumSource String}

theorem quotes_partToken_eq (part : List Char) :
    (partToken part).quotes = nameQuotes [partName part] := by
  unfold partToken partName
  cases unquoted? part with
  | some name => simp [nameQuotes, Token.quotes]
  | none => by_cases hneeds : needsQuotes part = true <;> simp [nameQuotes, Token.quotes, hneeds]

/-- Points bring no quotes. -/
theorem count_joinWith (pieces : List (List Char)) :
    (Text.joinWith '.' pieces).count '"' = (pieces.map (List.count '"')).sum := by
  induction pieces with
  | nil => rfl
  | cons piece pieces ih =>
    cases pieces with
    | nil => simp [Text.joinWith]
    | cons next more =>
      have hjoin : Text.joinWith '.' (piece :: next :: more) =
          piece ++ '.' :: Text.joinWith '.' (next :: more) := rfl
      rw [hjoin, List.count_append, List.count_cons_of_ne (by decide), ih]
      rfl

/-- The written parts have no more double quotes than the names of the parts need. -/
theorem sum_count_quotePart (parts : List (List Char)) :
    ((parts.map quotePart).map (List.count '"')).sum ≤ nameQuotes (parts.map partName) ∧
      (((parts.map quotePart).map (List.count '"')).sum = nameQuotes (parts.map partName) →
        ∀ part ∈ parts, IsSoundPart part) := by
  induction parts with
  | nil => exact ⟨Nat.le_refl _, fun _ => by simp⟩
  | cons part parts ih =>
    have hle := count_quotePart_le part
    rw [quotes_partToken_eq] at hle
    rw [List.map_cons, List.map_cons, List.sum_cons, List.map_cons, nameQuotes_cons]
    refine ⟨Nat.add_le_add hle ih.1, fun heq => List.forall_mem_cons.2 ⟨?_, ih.2 (by omega)⟩⟩
    by_contra hpart
    have hlt := count_quotePart_lt hpart
    rw [quotes_partToken_eq] at hlt
    omega

theorem count_quoteName (hblank : Text.allBlank identifier = false) :
    (quoteName identifier).toList.count '"' =
      (((Text.splitOn '.' identifier.toList).map quotePart).map (List.count '"')).sum := by
  rw [toList_quoteName hblank, count_joinWith]

theorem not_isLetter_of_isBlank {n : Nat} (h : Text.isBlank n = true) : Text.isLetter n = false := by
  have hdisjoint :
      (Text.Ranges.mask Text.letterRanges) &&& (Text.Ranges.mask Text.blankRanges) = 0 := by
    decide +kernel
  rw [Text.isBlank, ← Text.Ranges.testBit_mask] at h
  rw [Text.isLetter_eq, ← Text.Ranges.testBit_mask]
  exact Text.testBit_of_disjoint hdisjoint h

/-- A blank identifier names one part that is left without its double quotes. -/
theorem count_quoteName_of_blank (hblank : Text.allBlank identifier = true) :
    (quoteName identifier).toList.count '"' < nameQuotes (partedName identifier) := by
  have hchars : ∀ c ∈ identifier.toList, Text.blankChar c = true := List.all_eq_true.1 hblank
  have hquote : '"' ∉ identifier.toList := fun hmem => absurd (hchars _ hmem) (by decide)
  have hpoint : '.' ∉ identifier.toList := fun hmem => absurd (hchars _ hmem) (by decide)
  have hneeds : needsQuotes identifier.toList = true := by
    rw [← Bool.not_eq_false, needsQuotes_eq_false_iff]
    intro hbare
    obtain ⟨c, rest, hidentifier, hletter⟩ := hbare.begins
    rw [not_isLetter_of_isBlank (hchars c (hidentifier ▸ List.mem_cons_self))] at hletter
    cases hletter
  rw [quoteName, if_pos hblank, List.count_eq_zero.2 hquote, partedName,
    Text.splitOn_of_not_mem hpoint, List.map_cons, partName, unquoted?_of_not_mem hquote]
  simp [nameQuotes, hneeds]

theorem count_quoteName_le (identifier : String) :
    (quoteName identifier).toList.count '"' ≤ nameQuotes (partedName identifier) := by
  cases hblank : Text.allBlank identifier with
  | true => exact Nat.le_of_lt (count_quoteName_of_blank hblank)
  | false =>
    rw [count_quoteName hblank]
    exact (sum_count_quotePart _).1

theorem isWritten_of_count
    (h : (quoteName identifier).toList.count '"' = nameQuotes (partedName identifier)) :
    IsWritten identifier := by
  cases hblank : Text.allBlank identifier with
  | true => exact absurd h (Nat.ne_of_lt (count_quoteName_of_blank hblank))
  | false =>
    rw [count_quoteName hblank] at h
    exact ⟨hblank, (sum_count_quotePart _).2 h⟩

/-!
## What a query selects
-/

/-- The quotes of a query are those of its names; the key column is named twice. -/
theorem count_query (source : EnumSource String) :
    source.query.toList.count '"' =
      2 * (quoteName source.keyColumn).toList.count '"' +
        (quoteName source.labelColumn).toList.count '"' +
        (quoteName source.table).toList.count '"' := by
  have hselect : "SELECT ".toList.count '"' = 0 := by decide
  have hcomma : ", ".toList.count '"' = 0 := by decide
  have hfrom : " FROM ".toList.count '"' = 0 := by decide
  have horder : " ORDER BY ".toList.count '"' = 0 := by decide
  simp only [EnumSource.query, String.toList_append, List.count_append, hselect, hcomma, hfrom,
    horder]
  omega

/-- No name has more double quotes in the query than it needs, so each has as many if all have
together. -/
theorem isWritten_of_count_query (h : source.query.toList.count '"' =
    2 * nameQuotes (partedName source.keyColumn) + nameQuotes (partedName source.labelColumn) +
      nameQuotes (partedName source.table)) :
    IsWritten source.keyColumn ∧ IsWritten source.labelColumn ∧ IsWritten source.table := by
  rw [count_query] at h
  have hkey := count_quoteName_le source.keyColumn
  have hlabel := count_quoteName_le source.labelColumn
  have htable := count_quoteName_le source.table
  exact ⟨isWritten_of_count (by omega), isWritten_of_count (by omega), isWritten_of_count (by omega)⟩

theorem stops_nil : Stops [] := by
  simp [Stops]

theorem stops_cons {c : Char} (rest : List Char) (h : continuesWord c = false ∧ c ≠ '"') :
    Stops (c :: rest) := by
  intro d hd
  obtain rfl := Option.some.inj hd
  exact h

/-- A word with a blank behind it is one token. -/
theorem tokens?_wordBlank {word : String} (hhead : word.toList.head?.any startsWord = true)
    (hword : word.toList.all continuesWord = true) (rest : List Char) :
    tokens? (word.toList ++ ' ' :: rest) = (tokens? rest).map (.word word :: ·) := by
  rw [List.all_eq_true] at hword
  cases hchars : word.toList with
  | nil =>
    rw [hchars] at hhead
    cases hhead
  | cons c cs =>
    rw [hchars] at hhead hword
    rw [tokens?_word hhead (List.forall_mem_cons.1 hword).2 (stops_cons rest (by decide)),
      tokens?_blank, ← hchars, String.ofList_toList]

/-- The query of names that are written soundly has their tokens. -/
theorem tokens?_query (hkey : IsWritten source.keyColumn) (hlabel : IsWritten source.labelColumn)
    (htable : IsWritten source.table) :
    tokens? source.query.toList = some (queryTokens source) := by
  have hquery : source.query.toList = "SELECT".toList ++ ' ' ::
      ((quoteName source.keyColumn).toList ++ ',' :: ' ' ::
        ((quoteName source.labelColumn).toList ++ ' ' :: ("FROM".toList ++ ' ' ::
          ((quoteName source.table).toList ++ ' ' :: ("ORDER".toList ++ ' ' ::
            ("BY".toList ++ ' ' :: (quoteName source.keyColumn).toList)))))) := by
    simp [EnumSource.query, String.toList_append]
  have hblank : ∀ rest, Stops (' ' :: rest) := fun rest => stops_cons rest (by decide)
  have hend : tokens? (quoteName source.keyColumn).toList = some (nameTokens source.keyColumn) := by
    have hread := tokens?_quoteName hkey.notBlank hkey.isSound stops_nil
    rw [List.append_nil] at hread
    rw [hread, tokens?, Option.map_some, List.append_nil]
  rw [hquery, tokens?_wordBlank (by decide) (by decide),
    tokens?_quoteName hkey.notBlank hkey.isSound (stops_cons _ (by decide)),
    tokens?_mark (.inl rfl), tokens?_blank,
    tokens?_quoteName hlabel.notBlank hlabel.isSound (hblank _), tokens?_blank,
    tokens?_wordBlank (by decide) (by decide),
    tokens?_quoteName htable.notBlank htable.isSound (hblank _), tokens?_blank,
    tokens?_wordBlank (by decide) (by decide),
    tokens?_wordBlank (by decide) (by decide), hend]
  simp [queryTokens]

theorem quotes_partTokens (parts : List (List Char)) :
    quotes (partTokens parts) = nameQuotes (parts.map partName) := by
  fun_induction partTokens parts with
  | case1 => rfl
  | case2 part =>
    rw [List.map_singleton, ← quotes_partToken_eq]
    simp [quotes]
  | case3 part parts _ ih =>
    have hcons := nameQuotes_cons (partName part) (parts.map partName)
    rw [quotes_cons, quotes_cons, Token.quotes_mark, ih, quotes_partToken_eq, Nat.zero_add, ← hcons]
    rfl

theorem quotes_nameTokens (identifier : String) :
    quotes (nameTokens identifier) = nameQuotes (partedName identifier) :=
  quotes_partTokens _

/-- A query has the tokens of the configured names just if all of them are written soundly. -/
theorem tokens?_query_iff :
    tokens? source.query.toList = some (queryTokens source) ↔
      IsWritten source.keyColumn ∧ IsWritten source.labelColumn ∧ IsWritten source.table := by
  constructor
  · intro h
    refine isWritten_of_count_query ?_
    rw [count_eq_quotes h, queryTokens]
    simp only [quotes_append, quotes_cons, quotes_nameTokens, Token.quotes_word, Token.quotes_mark]
    omega
  · rintro ⟨hkey, hlabel, htable⟩
    exact tokens?_query hkey hlabel htable

/-- The tokens of parts are points and the tokens of single parts. -/
theorem mem_partTokens {parts : List (List Char)} {t : Token} (h : t ∈ partTokens parts) :
    t = .mark '.' ∨ ∃ part ∈ parts, t = partToken part := by
  fun_induction partTokens parts with
  | case1 => cases h
  | case2 part => exact .inr ⟨part, List.mem_singleton_self _, List.mem_singleton.1 h⟩
  | case3 part parts _ ih =>
    obtain rfl | h := List.mem_cons.1 h
    · exact .inr ⟨part, List.mem_cons_self, rfl⟩
    · obtain rfl | h := List.mem_cons.1 h
      · exact .inl rfl
      · refine (ih h).imp_right ?_
        rintro ⟨other, hother, rfl⟩
        exact ⟨other, List.mem_cons_of_mem _ hother, rfl⟩

/-- The token of a part is read as the part, unless it is a bare reserved word. -/
theorem namePart?_partToken
    (h : (partName part).1 = false → reserved.holds (partName part).2 = false) :
    namePart? reserved (partToken part) = some (partName part) := by
  unfold partName at h ⊢
  unfold partToken
  cases hpart : unquoted? part with
  | some name => rfl
  | none =>
    rw [hpart] at h
    cases hneeds : needsQuotes part with
    | true => rfl
    | false =>
      dsimp only
      rw [if_neg Bool.false_ne_true, namePart?, h hneeds, if_neg Bool.false_ne_true]

/-- No token of a readable name is a reserved word. -/
theorem IsReadable.isWord_eq_false (h : IsReadable reserved identifier) {t : Token} {word : String}
    (ht : t ∈ nameTokens identifier) (hword : reserved.holds word = true) :
    isWord word t = false := by
  obtain rfl | ⟨part, hpart, rfl⟩ := mem_partTokens ht
  · rfl
  · have hname := namePart?_partToken (h.isFree _ (List.mem_map_of_mem hpart))
    cases htoken : partToken part with
    | word text =>
      rw [htoken, namePart?] at hname
      split_ifs at hname with hreserved
      rw [Bool.eq_false_iff]
      exact fun hsame => hreserved (reserved.ofSameName _ _ hsame hword)
    | quoted text => rfl
    | mark c => rfl

theorem partToken_ne_mark (part : List Char) (c : Char) : partToken part ≠ .mark c := by
  unfold partToken
  split
  · simp
  · split_ifs <;> simp

theorem mark_not_mem_nameTokens (identifier : String) :
    Token.mark ',' ∉ nameTokens identifier := by
  intro hmem
  obtain hmark | ⟨part, -, hpart⟩ := mem_partTokens hmem
  · cases hmark
  · exact partToken_ne_mark part ',' hpart.symm

/-- The tokens of parts are read as the parts. -/
theorem partedName?_partTokens {parts : List (List Char)} (hne : parts ≠ [])
    (h : ∀ part ∈ parts, namePart? reserved (partToken part) = some (partName part)) :
    partedName? reserved (partTokens parts) = some (parts.map partName) := by
  induction parts with
  | nil => exact absurd rfl hne
  | cons part parts ih =>
    obtain ⟨hpart, hmore⟩ := List.forall_mem_cons.1 h
    cases parts with
    | nil => simp [partTokens, partedName?, hpart]
    | cons next more =>
      have htokens : partTokens (part :: next :: more) =
          partToken part :: .mark '.' :: partTokens (next :: more) := rfl
      rw [htokens, partedName?, hpart, ih (List.cons_ne_nil _ _) hmore]
      rfl

theorem IsReadable.partedName?_nameTokens (h : IsReadable reserved identifier) :
    partedName? reserved (nameTokens identifier) = some (partedName identifier) :=
  partedName?_partTokens (Text.splitOn_ne_nil _ _) fun _ hpart =>
    namePart?_partToken (h.isFree _ (List.mem_map_of_mem hpart))

theorem splitAtWord?_append {word : String} {before after : List Token} {t : Token}
    (hbefore : ∀ u ∈ before, isWord word u = false) (ht : isWord word t = true) :
    splitAtWord? word (before ++ t :: after) = some (before, after) := by
  have hskip : ∀ u ∈ before, (!isWord word u) = true := fun u hu => by rw [hbefore u hu]; rfl
  rw [splitAtWord?, List.dropWhile_append_of_pos hskip, List.takeWhile_append_of_pos hskip,
    List.dropWhile_cons_of_neg (by simp [ht]), List.takeWhile_cons_of_neg (by simp [ht]),
    List.append_nil]

/-- The tokens of a query select the columns and the table of its source. -/
theorem ofTokens?_queryTokens (hkey : IsReadable reserved source.keyColumn)
    (hlabel : IsReadable reserved source.labelColumn) (htable : IsReadable reserved source.table) :
    Selection.ofTokens? reserved (queryTokens source) = some (selectionOf source) := by
  have htokens : queryTokens source = .word "SELECT" ::
      ((nameTokens source.keyColumn ++ .mark ',' :: nameTokens source.labelColumn) ++
        .word "FROM" :: (nameTokens source.table ++
          .word "ORDER" :: ([] ++ .word "BY" :: nameTokens source.keyColumn))) := by
    simp [queryTokens]
  have hcolumns : ∀ t ∈ nameTokens source.keyColumn ++ .mark ',' :: nameTokens source.labelColumn,
      isWord "FROM" t = false := by
    intro t ht
    obtain ht | ht := List.mem_append.1 ht
    · exact hkey.isWord_eq_false ht (reserved.ofSelection _ (by simp))
    · obtain rfl | ht := List.mem_cons.1 ht
      · rfl
      · exact hlabel.isWord_eq_false ht (reserved.ofSelection _ (by simp))
  rw [htokens, ofTokens?_cons_eq_some_iff]
  refine ⟨by decide, _, _, _, _, _, splitAtWord?_append hcolumns (by decide),
    splitAtWord?_append
      (fun t ht => htable.isWord_eq_false ht (reserved.ofSelection _ (by simp))) (by decide),
    splitAtWord?_append (by simp) (by decide), ?_, htable.partedName?_nameTokens, ?_⟩
  · rw [nameList?, Text.splitOn_append_cons (mark_not_mem_nameTokens _),
      Text.splitOn_of_not_mem (mark_not_mem_nameTokens _)]
    simp [hkey.partedName?_nameTokens, hlabel.partedName?_nameTokens, selectionOf]
  · rw [nameList?, Text.splitOn_of_not_mem (mark_not_mem_nameTokens _)]
    simp [hkey.partedName?_nameTokens, selectionOf]

/-- A query selects the configured names just if each of them is readable. -/
theorem selection_query_iff :
    (tokens? source.query.toList).bind (Selection.ofTokens? reserved) = some (selectionOf source) ↔
      IsReadable reserved source.keyColumn ∧ IsReadable reserved source.labelColumn ∧
        IsReadable reserved source.table := by
  constructor
  · intro h
    obtain ⟨ts, htokens, hselection⟩ := Option.bind_eq_some_iff.1 h
    obtain ⟨hquotes, hfree⟩ := quotes_ofTokens? hselection
    have hcount : source.query.toList.count '"' = 2 * nameQuotes (partedName source.keyColumn) +
        nameQuotes (partedName source.labelColumn) + nameQuotes (partedName source.table) := by
      rw [count_eq_quotes htokens, hquotes]
      simp only [selectionOf, List.map_cons, List.map_nil, List.sum_cons, List.sum_nil]
      omega
    obtain ⟨hkey, hlabel, htable⟩ := isWritten_of_count_query hcount
    exact ⟨⟨hkey, hfree _ (by simp [selectionOf])⟩, ⟨hlabel, hfree _ (by simp [selectionOf])⟩,
      ⟨htable, hfree _ (by simp [selectionOf])⟩⟩
  · rintro ⟨hkey, hlabel, htable⟩
    rw [tokens?_query hkey.toIsWritten hlabel.toIsWritten htable.toIsWritten, Option.bind_some,
      ofTokens?_queryTokens hkey hlabel htable]

end Names

section Parts

variable {part : List Char} {identifier : String}

theorem point_not_mem_quotePart (h : '.' ∉ part) : '.' ∉ quotePart part := by
  unfold quotePart
  split_ifs
  · exact h
  · simp [h]
  · exact h

/-- The written parts are those of the identifier, each quoted by itself. -/
theorem splitOn_quoteName (h : Text.allBlank identifier = false) :
    Text.splitOn '.' (quoteName identifier).toList =
      (Text.splitOn '.' identifier.toList).map quotePart := by
  rw [toList_quoteName h]
  refine Text.splitOn_joinWith ?_ ?_
  · rw [Ne, List.map_eq_nil_iff]
    exact Text.splitOn_ne_nil _ _
  · intro piece hpiece
    obtain ⟨part, hpart, rfl⟩ := List.mem_map.1 hpiece
    exact point_not_mem_quotePart (Text.not_mem_of_mem_splitOn hpart)

/-- Each part of an identifier is written as one token, which denotes the part unless this is a token
between double quotes already, just if it is such a token or has no double quote.  The query of a
source has the tokens of the configured names just if all their parts are written so, and with any
words reserved it selects these names just if moreover none of the parts stands bare as one of them. -/
theorem quoting_is_sound_iff (identifier : String) (source : EnumSource String)
    (h : Text.allBlank identifier = false) :
    Text.splitOn '.' (quoteName identifier).toList =
        (Text.splitOn '.' identifier.toList).map quotePart ∧
      (∀ part ∈ Text.splitOn '.' identifier.toList,
        (∃ name, Denotes (quotePart part) name ∧
          ((¬∃ inner, part = quotedToken inner) → name = part)) ↔
        (∃ inner, part = quotedToken inner) ∨ '"' ∉ part) ∧
      (tokens? source.query.toList = some (queryTokens source) ↔
        IsWritten source.keyColumn ∧ IsWritten source.labelColumn ∧ IsWritten source.table) ∧
      ∀ reserved : ReservedWords,
        ((tokens? source.query.toList).bind (Selection.ofTokens? reserved) =
            some (selectionOf source) ↔
          IsReadable reserved source.keyColumn ∧ IsReadable reserved source.labelColumn ∧
            IsReadable reserved source.table) :=
  ⟨splitOn_quoteName h, fun _ _ => denotes_quotePart_iff.trans isSoundPart_iff, tokens?_query_iff,
    fun _ => selection_query_iff⟩

/-- A source whose key column holds a double quote. -/
def heightSource : EnumSource String where
  table := "shop.order"
  keyColumn := "height 5\""
  labelColumn := "name"
  name := "Height"
  outputDirectory := none

theorem not_isSoundPart_height : ¬IsSoundPart "height 5\"".toList := by
  rintro (hquoted | hmem)
  · exact absurd hquoted (by decide)
  · exact hmem (by decide)

/-- `shop.order` is written soundly and the key column is not. -/
theorem height_is_cut :
    Text.allBlank "shop.order" = false ∧
      Text.splitOn '.' (quoteName "shop.order").toList = ["shop".toList, "\"order\"".toList] ∧
      tokens? heightSource.query.toList ≠ some (queryTokens heightSource) := by
  obtain ⟨hparts, -, htokens, -⟩ := quoting_is_sound_iff "shop.order" heightSource (by decide)
  refine ⟨by decide, hparts.trans (by decide), fun hread => ?_⟩
  exact not_isSoundPart_height ((htokens.1 hread).1.isSound _ (by decide))

/-- The double quote in a column ends its token. -/
theorem height_denotes_nothing :
    Text.allBlank heightSource.keyColumn = false ∧
      quoteName heightSource.keyColumn = "\"height 5\"\"" ∧
      ¬∃ name, Denotes (quotePart heightSource.keyColumn.toList) name := by
  refine ⟨by decide, by decide, ?_⟩
  rintro ⟨name, hdenotes⟩
  have hwritten : quotePart heightSource.keyColumn.toList = "\"height 5\"\"".toList := by decide
  rw [hwritten] at hdenotes
  generalize hsame : "\"height 5\"\"".toList = written at hdenotes
  cases hdenotes with
  | bare hbare => exact hbare.quote_not_mem (hsame ▸ by decide)
  | quoted =>
    have hnone : unquoted? "\"height 5\"\"".toList = none := by decide
    rw [hsame, unquoted?_eq_some_iff.2 rfl] at hnone
    cases hnone

end Parts

end TypeExport.Sql

/-!
## Names that are quoted already

A name that went through quoting stays as it is when it is quoted again.  The second pass parts the
name at the same points, since quoting writes none, and leaves each part alone: a part with quotes
around it is taken for quoted whatever stands between them, and a part without needed none.
-/

namespace TypeExport

/-- The source with all the names of its query quoted. -/
def EnumSource.quoted (source : EnumSource String) : EnumSource String :=
  { source with
    table := Sql.quoteName source.table
    keyColumn := Sql.quoteName source.keyColumn
    labelColumn := Sql.quoteName source.labelColumn }

namespace Sql

section Parts

variable {part : List Char}

theorem isQuoted_around (part : List Char) : isQuoted ('"' :: part ++ ['"']) = true := by
  have hlast : ('"' :: part ++ ['"']).getLast? = some '"' := List.getLast?_concat
  rw [isQuoted, hlast]
  simp

/-- The parts that quoting leaves alone. -/
theorem quotePart_eq_self_iff :
    quotePart part = part ↔ isQuoted part = true ∨ needsQuotes part = false := by
  unfold quotePart
  split_ifs with hquoted hneeds
  · simp [hquoted]
  · constructor
    · intro heq
      have hlength := congrArg List.length heq
      rw [List.length_append, List.length_cons, List.length_singleton] at hlength
      omega
    · simp [hquoted, hneeds]
  · simp [hneeds]

theorem quotePart_quotePart (part : List Char) : quotePart (quotePart part) = quotePart part := by
  apply quotePart_eq_self_iff.2
  unfold quotePart
  split_ifs with hquoted hneeds
  · exact .inl hquoted
  · exact .inl (isQuoted_around part)
  · exact .inr (Bool.eq_false_iff.2 hneeds)

end Parts

section Names

variable {identifier : String}

theorem quoteName_of_allBlank (h : Text.allBlank identifier = true) :
    quoteName identifier = identifier := by
  rw [quoteName, if_pos h]

/-- Quoting a name adds no points. -/
theorem count_point_quoteName (identifier : String) :
    (quoteName identifier).toList.count '.' = identifier.toList.count '.' := by
  cases hblank : Text.allBlank identifier with
  | true => rw [quoteName_of_allBlank hblank]
  | false =>
    apply Nat.succ.inj
    calc
      (quoteName identifier).toList.count '.' + 1 =
          (Text.splitOn '.' (quoteName identifier).toList).length := (Text.length_splitOn _ _).symm
      _ = (Text.splitOn '.' identifier.toList).length := by
        rw [splitOn_quoteName hblank, List.length_map]
      _ = identifier.toList.count '.' + 1 := Text.length_splitOn _ _

/-- A quoted name is not quoted again. -/
theorem quoteName_quoteName (identifier : String) :
    quoteName (quoteName identifier) = quoteName identifier := by
  cases hblank : Text.allBlank identifier with
  | true => rw [quoteName_of_allBlank hblank, quoteName_of_allBlank hblank]
  | false =>
    cases hagain : Text.allBlank (quoteName identifier) with
    | true => rw [quoteName_of_allBlank hagain]
    | false =>
      apply String.toList_inj.1
      rw [toList_quoteName hagain, splitOn_quoteName hblank, List.map_map, toList_quoteName hblank]
      congr 2
      funext part
      exact quotePart_quotePart part

/-- Quoting a second time changes nothing and no pass changes the number of points, so a source whose
names were quoted before has the query of the source itself. -/
theorem quoting_twice_is_quoting_once (identifier : String) (source : EnumSource String) :
    quoteName (quoteName identifier) = quoteName identifier ∧
      (quoteName identifier).toList.count '.' = identifier.toList.count '.' ∧
      source.quoted.query = source.query := by
  refine ⟨quoteName_quoteName identifier, count_point_quoteName identifier, ?_⟩
  simp only [EnumSource.query, EnumSource.quoted, quoteName_quoteName]

/-- A point between double quotes parts a name all the same. -/
example : quoteName (quoteName "\"a.b\".user") = quoteName "\"a.b\".user" ∧
    quoteName "\"a.b\".user" = "\"\"a\".\"b\"\".\"user\"" := by
  decide

end Names

end Sql

end TypeExport

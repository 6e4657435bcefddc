import TypeExport.Lookup.EnumModule
import TypeExport.Proofs.Name.UniqueMembers
import TypeExport.Proofs.Source.Tokens
import TypeExport.Proofs.Text.UniqueReading

/-!
# Written enum modules

The text of the module of a lookup enum is read back as two imports and one class whose members are
the rows.  Integer keys are read as the same integers, and other keys as their texts.
-/

namespace TypeExport

theorem Value.display_int (n : Int) : (Value.int n).display = toString n := by
  rw [Value.display, Value.literal]
  intro s hs
  cases hs

namespace SourceLine

/-- The blanks in front of a line. -/
def indentOf (line : List Char) : Nat :=
  (line.takeWhile (· = ' ')).length

theorem indentOf_newline (line rest : List Char) :
    indentOf (line ++ '\n' :: rest) = indentOf line := by
  unfold indentOf
  induction line with
  | nil => rfl
  | cons c line ih =>
    rw [List.cons_append, List.takeWhile_cons, List.takeWhile_cons]
    split
    · rw [List.length_cons, ih, List.length_cons]
    · rfl

/-- A line that is read gives its tokens, if it has any, and the reader goes on behind it. -/
theorem all_line {line : List Char} {tokens : List SourceToken} (h : Reads 0 line tokens)
    (fuel : Nat) (text : List Char) :
    all (fuel + 1) (line ++ '\n' :: text) = (all fuel text).map fun lines =>
      if tokens.isEmpty then lines else { indent := indentOf line, tokens } :: lines := by
  have hread : readTokens ((line ++ '\n' :: text).length + 2) 0 (line ++ '\n' :: text) =
      some (tokens, text) := by
    apply h
    rw [List.length_append]
    omega
  have hindent := indentOf_newline line text
  unfold indentOf at hindent ⊢
  rw [all]
  · simp only [hread, hindent]
  · intro hnil
    exact absurd hnil (by simp)

/-- Lines that are read one by one are read together. -/
theorem all_lines {lines : List (List Char × List SourceToken)}
    (h : ∀ line ∈ lines, Reads 0 line.1 line.2) {fuel : Nat} (hfuel : lines.length ≤ fuel) :
    all fuel (lines.flatMap fun line => line.1 ++ ['\n']) =
      some ((lines.filter fun line => !line.2.isEmpty).map fun line =>
        { indent := indentOf line.1, tokens := line.2 }) := by
  induction lines generalizing fuel with
  | nil => cases fuel <;> rfl
  | cons line rest ih =>
    obtain ⟨fuel, rfl⟩ := Nat.exists_eq_succ_of_ne_zero (Nat.ne_of_gt (Nat.zero_lt_of_lt hfuel))
    have hrest := ih (fun l hl => h l (List.mem_cons_of_mem _ hl)) (Nat.le_of_succ_le_succ hfuel)
    rw [List.flatMap_cons, List.append_assoc, List.singleton_append,
      all_line (h line List.mem_cons_self), hrest, List.filter_cons]
    cases line.2.isEmpty <;> rfl

theorem endsWord_nil : EndsWord [] :=
  fun _ hc => nomatch hc

theorem endsWord_cons {c : Char} (h : SourceToken.continuesWord c = false) (line : List Char) :
    EndsWord (c :: line) := by
  intro d hd
  cases hd
  exact h

theorem isAsciiWord_of_all {c : Char} {s : List Char} (hc : c.isAlpha = true)
    (hs : s.all (fun c => decide (IsWordChar c)) = true) : IsAsciiWord (c :: s) :=
  isAsciiWord_cons hc (isWordChar_of_all hs)

variable {depth : Nat} {line : List Char} {tokens : List SourceToken}

/-- A word at the end of a line. -/
theorem reads_last {word : String} (hword : IsAsciiWord word.toList) :
    Reads 0 word.toList [.word word] := by
  have h := reads_word hword endsWord_nil reads_nil
  rw [List.append_nil, String.ofList_toList] at h
  exact h

/-- A word with a gap behind it. -/
theorem reads_word_gap {word : String} (hword : IsAsciiWord word.toList)
    (h : Reads depth line tokens) :
    Reads depth (word.toList ++ ' ' :: line) (.word word :: tokens) := by
  have hgap := reads_word hword (endsWord_cons (by decide) _) (reads_gap h)
  rw [String.ofList_toList] at hgap
  exact hgap

/-- A word with a mark behind it. -/
theorem reads_word_mark {word : String} (hword : IsAsciiWord word.toList) {c : Char}
    (hc : SourceToken.continuesWord c = false) (h : Reads depth (c :: line) tokens) :
    Reads depth (word.toList ++ c :: line) (.word word :: tokens) := by
  have hmark := reads_word hword (endsWord_cons hc _) h
  rw [String.ofList_toList] at hmark
  exact hmark

theorem reads_at (h : Reads depth line tokens) : Reads depth ('@' :: line) (.mark "@" :: tokens) := by
  intro fuel rest hfuel
  obtain ⟨fuel, rfl⟩ := Nat.exists_eq_succ_of_ne_zero (Nat.ne_of_gt (Nat.zero_lt_of_lt hfuel))
  have hnext := h fuel rest (Nat.lt_of_succ_lt_succ hfuel)
  show (readTokens fuel depth (line ++ '\n' :: rest)).map _ = _
  rw [hnext]
  rfl

/-- A single point. -/
theorem reads_point {c : Char} (hc : c ≠ '.') (h : Reads depth (c :: line) tokens) :
    Reads depth ('.' :: c :: line) (.mark "." :: tokens) := by
  intro fuel rest hfuel
  obtain ⟨fuel, rfl⟩ := Nat.exists_eq_succ_of_ne_zero (Nat.ne_of_gt (Nat.zero_lt_of_lt hfuel))
  have hmark : SourceToken.mark? ('.' :: c :: (line ++ '\n' :: rest)) = some "." := by
    simp [SourceToken.mark?, SourceToken.marks, List.isPrefixOf, Ne.symm hc]
  have hnext := h fuel rest (Nat.lt_of_succ_lt_succ hfuel)
  show (SourceToken.mark? ('.' :: c :: (line ++ '\n' :: rest))).bind _ = _
  rw [hmark]
  show (readTokens fuel depth (c :: line ++ '\n' :: rest)).map _ = _
  rw [hnext]
  rfl

end SourceLine

namespace EnumSource

open SourceLine

def baseOf (rows : List Row) : String :=
  if isIntegral rows then "IntEnum" else "Enum"

def keyTokens (integral : Bool) (key : Value) : List SourceToken :=
  match integral, key with
  | true, .int n =>
    if n < 0 then [.mark "-", .literal (.int n.natAbs)] else [.literal (.int n.natAbs)]
  | _, key => [.literal (.text key.display)]

/-- The lines before the first member with their tokens. -/
def headTokens (source : EnumSource String) (base : String) :
    List (List Char × List SourceToken) :=
  [("# <auto-generated />".toList, []),
   ("# Changes to this file may be overwritten.".toList, []),
   ([], []),
   ("from".toList ++ ' ' :: ("enum".toList ++ ' ' :: ("import".toList ++ ' ' :: base.toList)),
     [.word "from", .word "enum", .word "import", .word base]),
   ([], []),
   ("from".toList ++ ' ' :: ("typegen".toList ++ '.' :: ("markers".toList ++ ' ' ::
      ("import".toList ++ ' ' :: "export_to_ts".toList))),
     [.word "from", .word "typegen", .mark ".", .word "markers", .word "import",
      .word "export_to_ts"]),
   ([], []),
   ([], []),
   ('@' :: "export_to_ts".toList, [.mark "@", .word "export_to_ts"]),
   ("class".toList ++ ' ' :: (source.name.toList ++ '(' :: (base.toList ++ [')', ':'])),
     [.word "class", .word source.name, .mark "(", .word base, .mark ")", .mark ":"]),
   ("    \"\"\"".toList ++
      (("Auto-generated enum from database table: " ++ source.table).toList ++ ['"', '"', '"']),
     [.literal (.text ("Auto-generated enum from database table: " ++ source.table))]),
   ([], [])]

/-- The line of a member with its tokens. -/
def memberTokens (integral : Bool) (name : String) (key : Value) :
    List Char × List SourceToken :=
  ("    ".toList ++ (name.toList ++ ' ' :: '=' :: ' ' :: (keyLiteral integral key).toList),
    .word name :: .mark "=" :: keyTokens integral key)

/-- The lines of a module with their tokens. -/
def moduleTokens (source : EnumSource String) (rows : List Row) :
    List (List Char × List SourceToken) :=
  headTokens source (baseOf rows) ++ ((Name.uniqueMembers (rows.map (·.2))).zip rows).map
    fun (name, key, _) => memberTokens (isIntegral rows) name key

variable {source : EnumSource String} {rows : List Row} {base : String}

/-- The lines of a module are those of its tokens. -/
theorem moduleLines_eq :
    (source.moduleLines rows).map String.toList = (moduleTokens source rows).map (·.1) := by
  unfold moduleLines moduleTokens
  rw [List.map_append, List.map_append, List.map_map, List.map_map]
  congr 1
  · simp only [moduleHead, headTokens, List.map_cons, List.map_nil, String.toList_append,
      List.append_assoc]
    rfl
  · refine List.map_congr_left fun entry _ => ?_
    obtain ⟨name, key, label⟩ := entry
    simp only [Function.comp_apply, memberLine, memberTokens, String.toList_append,
      List.append_assoc]
    rfl

theorem isAsciiWord_baseOf (rows : List Row) : IsAsciiWord (baseOf rows).toList := by
  unfold baseOf
  split
  · exact @isAsciiWord_of_all 'I' _ rfl (by decide)
  · exact @isAsciiWord_of_all 'E' _ rfl (by decide)

/-- The lines before the first member are read as their tokens. -/
theorem reads_headTokens (hname : IsAsciiWord source.name.toList) (hbase : IsAsciiWord base.toList)
    (htable : ∀ c ∈ source.table.toList, c ≠ '"' ∧ c ≠ '\\') :
    ∀ line ∈ headTokens source base, Reads 0 line.1 line.2 := by
  have hfrom : IsAsciiWord "from".toList := @isAsciiWord_of_all 'f' _ rfl (by decide)
  have himport : IsAsciiWord "import".toList := @isAsciiWord_of_all 'i' _ rfl (by decide)
  have hmarker : IsAsciiWord "export_to_ts".toList := @isAsciiWord_of_all 'e' _ rfl (by decide)
  have htext : ∀ c ∈ ("Auto-generated enum from database table: " ++ source.table).toList,
      c ≠ '"' ∧ c ≠ '\\' := by
    intro c hc
    rw [String.toList_append, List.mem_append] at hc
    rcases hc with hc | hc
    · have hall : ("Auto-generated enum from database table: ".toList.all
          fun c => decide (c ≠ '"' ∧ c ≠ '\\')) = true := by decide
      exact of_decide_eq_true (List.all_eq_true.1 hall c hc)
    · exact htable c hc
  intro line hline
  simp only [headTokens, List.mem_cons, List.not_mem_nil, or_false] at hline
  rcases hline with rfl | rfl | rfl | rfl | rfl | rfl | rfl | rfl | rfl | rfl | rfl | rfl
  · exact reads_comment (by decide)
  · exact reads_comment (by decide)
  · exact reads_nil
  · have henum : IsAsciiWord "enum".toList := @isAsciiWord_of_all 'e' _ rfl (by decide)
    exact reads_word_gap hfrom (reads_word_gap henum (reads_word_gap himport (reads_last hbase)))
  · exact reads_nil
  · have htypegen : IsAsciiWord "typegen".toList := @isAsciiWord_of_all 't' _ rfl (by decide)
    have hmarkers : IsAsciiWord "markers".toList := @isAsciiWord_of_all 'm' _ rfl (by decide)
    refine reads_word_gap hfrom (reads_word_mark htypegen (by decide) (reads_point (by decide) ?_))
    exact reads_word_gap hmarkers (reads_word_gap himport (reads_last hmarker))
  · exact reads_nil
  · exact reads_nil
  · exact reads_at (reads_last hmarker)
  · have hclass : IsAsciiWord "class".toList := @isAsciiWord_of_all 'c' _ rfl (by decide)
    refine reads_word_gap hclass (reads_word_mark hname (by decide) (reads_mark (by decide) ?_))
    refine reads_word_mark hbase (by decide) (reads_mark (by decide) (reads_mark (by decide) ?_))
    exact reads_nil
  · have hlong := reads_long (TextLiteral.isVerbatim_of_plain htext)
    rw [String.ofList_toList] at hlong
    exact reads_gap (reads_gap (reads_gap (reads_gap hlong)))
  · exact reads_nil

/-- A key that is written as an integer is one. -/
def FitsKey (integral : Bool) (key : Value) : Prop :=
  integral = true → ∃ n, key = .int n

/-- The right-hand side of a member is read as its tokens. -/
theorem reads_keyTokens {integral : Bool} {key : Value} (h : FitsKey integral key) :
    Reads 0 (keyLiteral integral key).toList (keyTokens integral key) := by
  unfold keyLiteral
  cases integral with
  | false =>
    have htokens : keyTokens false key = [.literal (.text key.display)] := by
      cases key <;> rfl
    rw [htokens]
    exact reads_text key.display
  | true =>
    obtain ⟨n, rfl⟩ := h rfl
    rw [if_pos rfl, Value.display_int]
    cases n with
    | ofNat n =>
      show Reads 0 (toString n).toList [.literal (.int n)]
      rw [Nat.toString_eq_ofList_toDigits, String.toList_ofList]
      exact reads_digits n
    | negSucc n =>
      have htokens : keyTokens true (.int (.negSucc n)) =
          [.mark "-", .literal (.int ↑(n + 1))] := by
        rw [keyTokens, if_pos (Int.negSucc_lt_zero n), Int.natAbs_negSucc]
      have hread : Reads 0 ('-' :: Nat.toDigits 10 (n + 1)) [.mark "-", .literal (.int ↑(n + 1))] :=
        reads_mark (by decide) (reads_digits (n + 1))
      have hdigits : (toString (n + 1)).toList = Nat.toDigits 10 (n + 1) := by
        rw [Nat.toString_eq_ofList_toDigits, String.toList_ofList]
      rw [htokens]
      show Reads 0 ("-" ++ toString (n + 1)).toList _
      rw [String.toList_append, hdigits]
      exact hread

theorem reads_memberTokens {integral : Bool} {name : String} {key : Value}
    (hname : IsAsciiWord name.toList) (h : FitsKey integral key) :
    Reads 0 (memberTokens integral name key).1 (memberTokens integral name key).2 := by
  refine reads_gap (reads_gap (reads_gap (reads_gap (reads_word_gap hname ?_))))
  exact reads_mark (by decide) (reads_gap (reads_keyTokens h))

/-- The value of a member as it is written. -/
def writtenValue (integral : Bool) (key : Value) : Value :=
  if integral then key else .text key.display

def entries (rows : List Row) : List (String × Value) :=
  ((Name.uniqueMembers (rows.map (·.2))).zip rows).map fun (name, key, _) =>
    (name, writtenValue (isIntegral rows) key)

def classDefinition (source : EnumSource String) (rows : List Row) : ClassDefinition :=
  .mk source.name .plain [.name (baseOf rows)] [] (some none) [] (entries rows) [] [] [] none false

/-- The module that the text spells. -/
def sourceModule (source : EnumSource String) (rows : List Row) : SourceModule where
  prelude := []
  deferred := false
  typeVariables := []
  body :=
    [.importNames "enum" (baseOf rows, baseOf rows) [],
     .importNames "typegen.markers" ("export_to_ts", "export_to_ts") [],
     .define (source.classDefinition rows)]

theorem baseOf_cases (rows : List Row) : baseOf rows = "IntEnum" ∨ baseOf rows = "Enum" := by
  unfold baseOf
  split
  · exact .inl rfl
  · exact .inr rfl

theorem fitsKey_of_mem {row : Row} (h : row ∈ rows) : FitsKey (isIntegral rows) row.1 := by
  intro hintegral
  have hkey := List.all_eq_true.1 hintegral row h
  obtain ⟨key, label⟩ := row
  cases key with
  | int n => exact ⟨n, rfl⟩
  | _ => cases hkey

/-- Its tokens spell the value as it is written. -/
theorem readAll?_keyTokens {integral : Bool} {key : Value} (h : FitsKey integral key) :
    (Expr.readAll? (keyTokens integral key)).bind SourceModule.constant? =
      some (writtenValue integral key) := by
  cases integral with
  | false =>
    have htokens : keyTokens false key = [.literal (.text key.display)] := by
      cases key <;> rfl
    rw [htokens]
    rfl
  | true =>
    obtain ⟨n, rfl⟩ := h rfl
    cases n with
    | ofNat n => rfl
    | negSucc n =>
      rw [keyTokens, if_pos (Int.negSucc_lt_zero n)]
      rfl

theorem bodyLine?_memberTokens {integral : Bool} {name : String} {key : Value}
    (hname : Name.isKeyword name = false) (h : FitsKey integral key) :
    SourceModule.bodyLine? (memberTokens integral name key).2 =
      some (.member name (writtenValue integral key)) := by
  obtain ⟨e, he, hvalue⟩ := Option.bind_eq_some_iff.1 (readAll?_keyTokens h)
  have hisName : SourceModule.isName name = true := by
    rw [SourceModule.isName, hname]
    rfl
  rw [memberTokens, SourceModule.bodyLine?, hisName, he]
  simp [hvalue]

/-- What a module needs to be read back. -/
structure IsReadable (source : EnumSource String) (rows : List Row) : Prop where
  name : IsAsciiWord source.name.toList
  notKeyword : Name.isKeyword source.name = false
  table : ∀ c ∈ source.table.toList, c ≠ '"' ∧ c ≠ '\\' ∧ c ≠ '\x00'
  labels : ∀ row ∈ rows, row.2.IsAsciiLabel
  nonempty : rows ≠ []

theorem IsReadable.names (h : source.IsReadable rows) :
    (Name.uniqueMembers (rows.map (·.2))).length = rows.length ∧
      (Name.uniqueMembers (rows.map (·.2))).Nodup ∧
      ∀ name ∈ Name.uniqueMembers (rows.map (·.2)), Name.IsMemberName name := by
  have hlabels : ∀ v ∈ rows.map (·.2), v.IsAsciiLabel := by
    intro v hv
    obtain ⟨row, hrow, rfl⟩ := List.mem_map.1 hv
    exact h.labels row hrow
  obtain ⟨hlength, hnodup, hnames⟩ := Name.uniqueMembers_spec hlabels
  rw [List.length_map] at hlength
  exact ⟨hlength, hnodup, hnames⟩

def memberLines (rows : List Row) : List SourceLine :=
  ((Name.uniqueMembers (rows.map (·.2))).zip rows).map fun (name, key, _) =>
    { indent := 4, tokens := (memberTokens (isIntegral rows) name key).2 }

def readLines (source : EnumSource String) (rows : List Row) : List SourceLine :=
  [{ indent := 0, tokens := [.word "from", .word "enum", .word "import", .word (baseOf rows)] },
   { indent := 0
     tokens := [.word "from", .word "typegen", .mark ".", .word "markers", .word "import",
      .word "export_to_ts"] },
   { indent := 0, tokens := [.mark "@", .word "export_to_ts"] },
   { indent := 0
     tokens := [.word "class", .word source.name, .mark "(", .word (baseOf rows), .mark ")",
      .mark ":"] },
   { indent := 4
     tokens := [.literal (.text ("Auto-generated enum from database table: " ++ source.table))] }] ++
    memberLines rows

theorem indentOf_memberTokens {integral : Bool} {name : String} (hname : IsAsciiWord name.toList)
    (key : Value) : indentOf (memberTokens integral name key).1 = 4 := by
  obtain ⟨c, rest, hcons, hc, -⟩ := hname.exists_cons
  have hne : c ≠ ' ' := ne_of_isAlpha hc (by decide)
  show indentOf (' ' :: ' ' :: ' ' :: ' ' :: (name.toList ++ _)) = 4
  rw [hcons]
  simp [indentOf, hne]

theorem mem_names_of_mem_zip {entry : String × Row}
    (h : entry ∈ (Name.uniqueMembers (rows.map (·.2))).zip rows) :
    entry.1 ∈ Name.uniqueMembers (rows.map (·.2)) ∧ entry.2 ∈ rows := by
  obtain ⟨name, row⟩ := entry
  exact List.of_mem_zip h

/-- The text of a module is read line by line. -/
theorem all_moduleText (h : source.IsReadable rows) {fuel : Nat}
    (hfuel : (source.moduleText rows).length ≤ fuel) :
    all fuel (source.moduleText rows).toList = some (readLines source rows) := by
  have hne : source.moduleLines rows ≠ [] := by
    unfold moduleLines moduleHead
    exact List.cons_ne_nil _ _
  have htext : (source.moduleText rows).toList =
      (moduleTokens source rows).flatMap fun line => line.1 ++ ['\n'] := by
    unfold moduleText
    rw [toList_lines hne, ← List.flatMap_map String.toList (· ++ ['\n']), moduleLines_eq,
      List.flatMap_map]
  have hreads : ∀ line ∈ moduleTokens source rows, Reads 0 line.1 line.2 := by
    intro line hline
    rcases List.mem_append.1 hline with hline | hline
    · exact reads_headTokens h.name (isAsciiWord_baseOf rows)
        (fun c hc => ⟨(h.table c hc).1, (h.table c hc).2.1⟩) line hline
    · obtain ⟨entry, hentry, rfl⟩ := List.mem_map.1 hline
      obtain ⟨hname, hrow⟩ := mem_names_of_mem_zip hentry
      exact reads_memberTokens (h.names.2.2 _ hname).isAsciiWord (fitsKey_of_mem hrow)
  have hlength : (moduleTokens source rows).length ≤ fuel := by
    refine Nat.le_trans ?_ hfuel
    rw [← String.length_toList, htext, List.length_flatMap]
    refine Nat.le_trans (Nat.le_of_eq (List.length_map _).symm) (List.length_le_sum_of_one_le _ ?_)
    intro n hn
    obtain ⟨line, -, rfl⟩ := List.mem_map.1 hn
    rw [List.length_append]
    exact Nat.le_add_left _ _
  have hmembers : (((Name.uniqueMembers (rows.map (·.2))).zip rows).map fun (name, key, _) =>
      memberTokens (isIntegral rows) name key).filter (fun line => !line.2.isEmpty) =
        ((Name.uniqueMembers (rows.map (·.2))).zip rows).map fun (name, key, _) =>
          memberTokens (isIntegral rows) name key := by
    refine List.filter_eq_self.2 fun line hline => ?_
    obtain ⟨entry, -, rfl⟩ := List.mem_map.1 hline
    rfl
  rw [htext, all_lines hreads hlength, moduleTokens, List.filter_append, List.map_append, hmembers,
    List.map_map]
  refine congrArg some (congrArg₂ (· ++ ·) rfl (List.map_congr_left fun entry hentry => ?_))
  have hname := h.names.2.2 _ (mem_names_of_mem_zip hentry).1
  exact congrArg (fun indent => (⟨indent, _⟩ : SourceLine))
    (indentOf_memberTokens hname.isAsciiWord entry.2.1)

/-- The lines of the members spell the members. -/
theorem mapM_bodyLine?_memberLines (h : source.IsReadable rows) :
    (memberLines rows).mapM (fun line => SourceModule.bodyLine? line.tokens) =
      some ((entries rows).map fun (name, v) => .member name v) := by
  unfold memberLines entries
  rw [List.map_map]
  have hmember : ∀ entry ∈ (Name.uniqueMembers (rows.map (·.2))).zip rows,
      SourceModule.bodyLine? (memberTokens (isIntegral rows) entry.1 entry.2.1).2 =
        some (.member entry.1 (writtenValue (isIntegral rows) entry.2.1)) := by
    intro entry hentry
    obtain ⟨hname, hrow⟩ := mem_names_of_mem_zip hentry
    exact bodyLine?_memberTokens (h.names.2.2 _ hname).notKeyword (fitsKey_of_mem hrow)
  generalize (Name.uniqueMembers (rows.map (·.2))).zip rows = zipped at hmember ⊢
  induction zipped with
  | nil => rfl
  | cons entry zipped ih =>
    obtain ⟨hentry, hrest⟩ := List.forall_mem_cons.1 hmember
    rw [List.map_cons, List.mapM_cons, ih hrest, hentry]
    rfl

theorem membersOf_entries (rows : List Row) :
    SourceModule.membersOf (.nothing :: (entries rows).map fun (name, v) => .member name v) =
        entries rows ∧
      SourceModule.fieldsOf (.nothing :: (entries rows).map fun (name, v) => .member name v) =
        [] := by
  unfold SourceModule.membersOf SourceModule.fieldsOf
  constructor
  · rw [List.filterMap_cons_none rfl, List.filterMap_map]
    exact List.filterMap_some
  · rw [List.filterMap_cons_none rfl, List.filterMap_map]
    exact List.filterMap_eq_nil_iff.2 fun _ _ => rfl

/-- The body of the class. -/
theorem class?_lines (h : source.IsReadable rows) (doc : String) :
    SourceModule.class? (some none) source.name [.name (baseOf rows)]
      ({ indent := 4, tokens := [.literal (.text doc)] } :: memberLines rows) =
        some (source.classDefinition rows) := by
  have hindent : ({ indent := 4, tokens := [.literal (.text doc)] } :: memberLines rows).all
      (fun l : SourceLine => l.indent == 4) = true := by
    rw [List.all_eq_true]
    intro line hline
    rcases List.mem_cons.1 hline with rfl | hline
    · rfl
    · obtain ⟨entry, -, rfl⟩ := List.mem_map.1 hline
      rfl
  have hbody : ({ indent := 4, tokens := [.literal (.text doc)] } :: memberLines rows).mapM
      (fun line : SourceLine => SourceModule.bodyLine? line.tokens) =
        some (.nothing :: (entries rows).map fun (name, v) => .member name v) := by
    rw [List.mapM_cons, mapM_bodyLine?_memberLines h]
    rfl
  obtain ⟨hmembers, hfields⟩ := membersOf_entries rows
  unfold SourceModule.class?
  simp only [hindent, hbody, if_true, Option.map_some, hmembers, hfields]
  rfl

/-- The head of the class. -/
theorem head?_classLine (h : Name.isKeyword source.name = false) (rows : List Row) :
    SourceModule.head? [.word "class", .word source.name, .mark "(", .word (baseOf rows), .mark ")",
      .mark ":"] = some (source.name, [.name (baseOf rows)]) := by
  have hisName : SourceModule.isName source.name = true := by
    rw [SourceModule.isName, h]
    rfl
  rcases baseOf_cases rows with hbase | hbase
  all_goals
    rw [hbase]
    unfold SourceModule.head?
    simp only [hisName, List.reverse_cons, List.reverse_nil, List.nil_append, List.cons_append]
    rfl

theorem simple?_enumImport (rows : List Row) :
    SourceModule.simple? [.word "from", .word "enum", .word "import", .word (baseOf rows)] =
      some [.importNames "enum" (baseOf rows, baseOf rows) []] := by
  rcases baseOf_cases rows with hbase | hbase
  · rw [hbase]
    rfl
  · rw [hbase]
    rfl

/-- The lines inside of a class are all that follow it. -/
theorem inside_memberLines (rows : List Row) (doc : SourceLine) (hdoc : doc.indent = 4) :
    (doc :: memberLines rows).takeWhile (fun l => l.indent != 0) = doc :: memberLines rows ∧
      (doc :: memberLines rows).dropWhile (fun l => l.indent != 0) = [] := by
  have hall : ∀ line ∈ doc :: memberLines rows, (line.indent != 0) = true := by
    intro line hline
    rcases List.mem_cons.1 hline with rfl | hline
    · rw [hdoc]
      rfl
    · obtain ⟨entry, -, rfl⟩ := List.mem_map.1 hline
      rfl
  exact ⟨List.takeWhile_eq_self_iff.2 hall, List.dropWhile_eq_nil_iff.2 hall⟩

/-- The lines of a module spell its statements. -/
theorem statements_readLines (h : source.IsReadable rows) (fuel : Nat) :
    SourceModule.statements (fuel + 5) none (readLines source rows) =
      some (source.sourceModule rows).body := by
  let doc : String := "Auto-generated enum from database table: " ++ source.table
  have himports := simple?_enumImport rows
  have hhead := head?_classLine h.notKeyword rows
  have hclass := class?_lines h doc
  obtain ⟨htake, hdrop⟩ := inside_memberLines rows
    { indent := 4, tokens := [.literal (.text doc)] } rfl
  have hdefine : SourceModule.statements (fuel + 2) (some none)
      ({ indent := 0
         tokens := [.word "class", .word source.name, .mark "(", .word (baseOf rows), .mark ")",
          .mark ":"] } ::
        { indent := 4, tokens := [.literal (.text doc)] } :: memberLines rows) =
      some [.define (source.classDefinition rows)] := by
    rw [SourceModule.statements]
    have hmarker : SourceModule.marker? [.word "class", .word source.name, .mark "(",
      .word (baseOf rows), .mark ")", .mark ":"] = none := rfl
    simp only [hmarker, hhead, htake, hdrop, hclass]
    rfl
  have hmarked : SourceModule.statements (fuel + 3) none
      ({ indent := 0, tokens := [.mark "@", .word "export_to_ts"] } ::
        { indent := 0
          tokens := [.word "class", .word source.name, .mark "(", .word (baseOf rows), .mark ")",
           .mark ":"] } ::
        { indent := 4, tokens := [.literal (.text doc)] } :: memberLines rows) =
      some [.define (source.classDefinition rows)] := by
    rw [SourceModule.statements]
    have hmarker : SourceModule.marker? [.mark "@", .word "export_to_ts"] = some none := rfl
    simp only [hmarker]
    exact hdefine
  have hmarkers : SourceModule.statements (fuel + 4) none ((readLines source rows).drop 1) =
      some (.importNames "typegen.markers" ("export_to_ts", "export_to_ts") [] ::
        [.define (source.classDefinition rows)]) := by
    show SourceModule.statements (fuel + 3 + 1) none (_ :: _) = _
    rw [SourceModule.statements]
    have hsimple : SourceModule.simple? [.word "from", .word "typegen", .mark ".", .word "markers",
        .word "import", .word "export_to_ts"] =
          some [.importNames "typegen.markers" ("export_to_ts", "export_to_ts") []] := rfl
    have hmarker : SourceModule.marker? [.word "from", .word "typegen", .mark ".", .word "markers",
        .word "import", .word "export_to_ts"] = none := rfl
    have hnohead : SourceModule.head? [.word "from", .word "typegen", .mark ".", .word "markers",
        .word "import", .word "export_to_ts"] = none := rfl
    simp only [hmarker, hnohead, hsimple]
    exact congrArg (Option.map _) hmarked
  show SourceModule.statements (fuel + 4 + 1) none (_ :: (readLines source rows).drop 1) = _
  rw [SourceModule.statements]
  have hmarker : SourceModule.marker? [.word "from", .word "enum", .word "import",
      .word (baseOf rows)] = none := rfl
  have hnohead : SourceModule.head? [.word "from", .word "enum", .word "import",
      .word (baseOf rows)] = none := rfl
  simp only [hmarker, hnohead, himports]
  exact congrArg (Option.map _) hmarkers

/-- The right-hand side of a member holds no null character. -/
theorem null_not_mem_keyLiteral {integral : Bool} {key : Value} (h : FitsKey integral key) :
    '\x00' ∉ (keyLiteral integral key).toList := by
  unfold keyLiteral
  cases integral with
  | false =>
    have hquote := Quoted.quoteOf_cases key.display
    rw [if_neg Bool.false_ne_true, Quoted.readableString_eq]
    have hnull : '\x00' ≠ Quoted.quoteOf key.display := by
      rcases hquote with h | h
      all_goals
        rw [h]
        decide
    intro hmem
    rcases List.mem_append.1 hmem with hmem | hmem
    · rcases List.mem_cons.1 hmem with hmem | hmem
      · exact hnull hmem
      · obtain ⟨c, -, hpiece⟩ := List.mem_flatMap.1 hmem
        exact Quoted.null_not_mem_readablePiece hquote c hpiece
    · exact hnull (List.mem_singleton.1 hmem)
  | true =>
    obtain ⟨n, rfl⟩ := h rfl
    rw [if_pos rfl, Value.display_int]
    intro hmem
    rcases Numeral.eq_or_isDigit_of_mem_toString hmem with h | h
    · exact absurd h (by decide)
    · exact absurd h (by decide)

/-- Neither does the text of the module. -/
theorem null_not_mem_moduleText (h : source.IsReadable rows) :
    '\x00' ∉ (source.moduleText rows).toList := by
  have hne : source.moduleLines rows ≠ [] := by
    unfold moduleLines moduleHead
    exact List.cons_ne_nil _ _
  have hword : ∀ {word : String}, IsAsciiWord word.toList → '\x00' ∉ word.toList :=
    fun hword => not_mem_of_isWordChar hword.all (by decide)
  have htable : '\x00' ∉ source.table.toList := fun hmem => (h.table _ hmem).2.2 rfl
  have hbase := hword (isAsciiWord_baseOf rows)
  have hname := hword h.name
  unfold moduleText
  rw [toList_lines hne]
  intro hmem
  obtain ⟨line, hline, hmem⟩ := List.mem_flatMap.1 hmem
  have hmem' : '\x00' ∈ line.toList := by
    rcases List.mem_append.1 hmem with hmem | hmem
    · exact hmem
    · exact absurd (List.mem_singleton.1 hmem) (by decide)
  have htokens : line.toList ∈ (moduleTokens source rows).map (·.1) := by
    rw [← moduleLines_eq]
    exact List.mem_map_of_mem hline
  obtain ⟨read, hread, heq⟩ := List.mem_map.1 htokens
  rw [← heq] at hmem'
  rcases List.mem_append.1 hread with hread | hread
  · simp only [headTokens, List.mem_cons, List.not_mem_nil, or_false] at hread
    rcases hread with rfl | rfl | rfl | rfl | rfl | rfl | rfl | rfl | rfl | rfl | rfl | rfl
    all_goals
      revert hmem'
      simp [String.toList_append, hbase, hname, htable]
  · obtain ⟨entry, hentry, rfl⟩ := List.mem_map.1 hread
    obtain ⟨hmember, hrow⟩ := mem_names_of_mem_zip hentry
    have hmemberName := hword (h.names.2.2 _ hmember).isAsciiWord
    have hkey := null_not_mem_keyLiteral (fitsKey_of_mem hrow)
    revert hmem'
    simp [memberTokens, hmemberName, hkey]

/-- The text of a module is read back. -/
theorem ofText?_moduleText (h : source.IsReadable rows) :
    SourceModule.ofText? (source.moduleText rows) = some (source.sourceModule rows) := by
  have hlength : (readLines source rows).length + 1 =
      ((memberLines rows).length + 1) + 5 := by
    unfold readLines
    rw [List.length_append]
    show 5 + _ + 1 = _
    omega
  unfold SourceModule.ofText?
  simp only [all_moduleText h (Nat.le_succ _), Option.bind_some, hlength, statements_readLines h]
  rfl

end EnumSource

end TypeExport

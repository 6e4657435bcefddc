import Mathlib.Data.List.TakeWhile
import TypeExport.Config.Comments

/-!
# The search for comments

The comment of a line is searched for from one `//` to the next, and at each one the double quotes
before it are counted anew.  No comment is missed: the search gives the first `//` with an even number
of quotes before it.
-/

/-!
## The first comment of a line
-/

namespace TypeExport.Config

/-- Two slashes stand at a place of a line. -/
def IsMark (s : List Char) (i : Nat) : Prop :=
  s[i]? = some '/' ∧ s[i + 1]? = some '/'

/-- A comment may start at a place of a line: two slashes stand there, and an even number of double
quotes before them. -/
def IsComment (s : List Char) (i : Nat) : Prop :=
  IsMark s i ∧ insideText s i = false

/-- The first place from `start` on of which `p` holds. -/
def IsFirst (p : Nat → Prop) (start i : Nat) : Prop :=
  start ≤ i ∧ p i ∧ ∀ j, start ≤ j → j < i → ¬p j

variable {p : Nat → Prop} {s : List Char} {start i j : Nat}

theorem IsFirst.unique (hi : IsFirst p start i) (hj : IsFirst p start j) : i = j := by
  obtain ⟨hi, hpi, hbelow⟩ := hi
  obtain ⟨hj, hpj, hbelow'⟩ := hj
  rcases Nat.lt_trichotomy i j with hlt | heq | hlt
  · exact absurd hpi (hbelow' i hi hlt)
  · exact heq
  · exact absurd hpj (hbelow j hj hlt)

/-- A place that fails the test can be skipped. -/
theorem isFirst_succ_iff (h : ¬p start) : IsFirst p (start + 1) i ↔ IsFirst p start i := by
  constructor
  · rintro ⟨hle, hp, hbelow⟩
    refine ⟨by omega, hp, fun j hj hlt => ?_⟩
    rcases Nat.eq_or_lt_of_le hj with rfl | hj
    · exact h
    · exact hbelow j hj hlt
  · rintro ⟨hle, hp, hbelow⟩
    refine ⟨?_, hp, fun j hj hlt => hbelow j (by omega) hlt⟩
    rcases Nat.eq_or_lt_of_le hle with rfl | hle
    · exact absurd hp h
    · exact hle

/-- A search that gives the first place, or nothing if there is none. -/
theorem firstMark?_spec (s : List Char) :
    (∀ i, firstMark? s = some i → IsFirst (IsMark s) 0 i) ∧
      (firstMark? s = none → ∀ i, ¬IsMark s i) := by
  fun_induction firstMark? s with
  | case1 rest =>
    refine ⟨fun i h => ?_, fun h => by cases h⟩
    cases h
    exact ⟨Nat.le_refl _, ⟨rfl, rfl⟩, fun j _ hlt => absurd hlt (Nat.not_lt_zero j)⟩
  | case2 c rest hother ih =>
    have hhead : ¬IsMark (c :: rest) 0 := by
      rintro ⟨hc, hnext⟩
      obtain rfl : c = '/' := Option.some.inj hc
      cases rest with
      | nil => cases hnext
      | cons d rest => exact hother rest rfl (by rw [Option.some.inj hnext])
    refine ⟨fun i h => ?_, fun h i hi => ?_⟩
    · obtain ⟨k, hk, rfl⟩ := Option.map_eq_some_iff.1 h
      obtain ⟨-, hmark, hbelow⟩ := ih.1 k hk
      refine ⟨Nat.zero_le _, hmark, fun j _ hlt hj => ?_⟩
      cases j with
      | zero => exact hhead hj
      | succ j => exact hbelow j (Nat.zero_le j) (by omega) hj
    · cases i with
      | zero => exact hhead hi
      | succ i => exact ih.2 (Option.map_eq_none_iff.1 h) i hi
  | case3 =>
    refine ⟨fun i h => ?_, fun _ i hi => ?_⟩
    · cases h
    · cases hi.1

theorem isMark_drop_iff : IsMark (s.drop start) i ↔ IsMark s (start + i) := by
  unfold IsMark
  rw [List.getElem?_drop, List.getElem?_drop, Nat.add_assoc]

/-- The search gives the first mark, and nothing only where there is no mark. -/
theorem markFrom?_spec (s : List Char) (start : Nat) :
    (∀ i, markFrom? s start = some i → IsFirst (IsMark s) start i) ∧
      (markFrom? s start = none → ∀ i, start ≤ i → ¬IsMark s i) := by
  obtain ⟨hsome, hnone⟩ := firstMark?_spec (s.drop start)
  refine ⟨fun i h => ?_, fun h i hi hmark => ?_⟩
  · obtain ⟨k, hk, rfl⟩ := Option.map_eq_some_iff.1 h
    obtain ⟨-, hmark, hbelow⟩ := hsome k hk
    refine ⟨by omega, Nat.add_comm start k ▸ isMark_drop_iff.1 hmark, fun j hj hlt hj' => ?_⟩
    obtain ⟨d, rfl⟩ := Nat.exists_eq_add_of_le hj
    exact hbelow d (Nat.zero_le d) (by omega) (isMark_drop_iff.2 hj')
  · obtain ⟨d, rfl⟩ := Nat.exists_eq_add_of_le hi
    exact hnone (Option.map_eq_none_iff.1 h) d (isMark_drop_iff.2 hmark)

/-- A quote changes the side of what stands behind it. -/
theorem insideText_succ {c : Char} (hc : s[i]? = some c) :
    insideText s (i + 1) = (insideText s i != (c == '"')) := by
  unfold insideText
  rw [List.take_add_one, hc, Option.toList_some, List.count_append, List.count_singleton]
  by_cases hquote : c = '"'
  · subst hquote
    rcases Nat.mod_two_eq_zero_or_one ((s.take i).count '"') with h | h
    all_goals simp [Nat.add_mod, h]
  · rw [beq_false_of_ne hquote]
    simp

/-- The place behind a skipped slash is no comment: both slashes stand on one side. -/
theorem not_isComment_succ (hmark : IsMark s i) (hinside : insideText s i = true) :
    ¬IsComment s (i + 1) := by
  rintro ⟨-, houtside⟩
  rw [insideText_succ hmark.1, hinside] at houtside
  cases houtside

/-- The search for the comment of a line finds the first `//` outside of strings. -/
theorem commentFrom?_spec (s : List Char) (start : Nat) :
    (∀ i, commentFrom? s start = some i → IsFirst (IsComment s) start i) ∧
      (commentFrom? s start = none → ∀ i, start ≤ i → ¬IsComment s i) := by
  fun_induction commentFrom? s start with
  | case1 start h =>
    exact ⟨nofun, fun _ i hi hcomment => (markFrom?_spec s start).2 h i hi hcomment.1⟩
  | case2 start i h hinside ih =>
    obtain ⟨hle, hmark, hbelow⟩ := (markFrom?_spec s start).1 i h
    -- Between the start of the search and the place where it goes on there is no comment.
    have hskip : ∀ j, start ≤ j → j < i + 2 → ¬IsComment s j := by
      intro j hj hlt hcomment
      rcases Nat.lt_trichotomy j i with hji | rfl | hji
      · exact hbelow j hj hji hcomment.1
      · rw [hcomment.2] at hinside
        cases hinside
      · obtain rfl : j = i + 1 := by omega
        exact not_isComment_succ hmark hinside hcomment
    refine ⟨fun k hk => ?_, fun hnone k hk hcomment => ?_⟩
    · obtain ⟨hle', hcomment, hbelow'⟩ := ih.1 k hk
      refine ⟨by omega, hcomment, fun j hj hlt => ?_⟩
      rcases Nat.lt_or_ge j (i + 2) with hji | hji
      · exact hskip j hj hji
      · exact hbelow' j hji hlt
    · rcases Nat.lt_or_ge k (i + 2) with hki | hki
      · exact hskip k hk hki hcomment
      · exact ih.2 hnone k hki hcomment
  | case3 start i h houtside =>
    obtain ⟨hle, hmark, hbelow⟩ := (markFrom?_spec s start).1 i h
    refine ⟨fun k hk => ?_, nofun⟩
    cases hk
    exact ⟨hle, ⟨hmark, by simpa using houtside⟩, fun j hj hlt hcomment =>
      hbelow j hj hlt hcomment.1⟩

theorem commentFrom?_eq_some_iff : commentFrom? s start = some i ↔ IsFirst (IsComment s) start i := by
  obtain ⟨hsome, hnone⟩ := commentFrom?_spec s start
  refine ⟨hsome i, fun h => ?_⟩
  cases hfound : commentFrom? s start with
  | none => exact absurd h.2.1 (hnone hfound i h.1)
  | some k => rw [(hsome k hfound).unique h]

theorem commentFrom?_of_isComment (h : IsComment s start) : commentFrom? s start = some start :=
  commentFrom?_eq_some_iff.2 ⟨Nat.le_refl _, h, fun j hj hlt => absurd hlt (by omega)⟩

theorem commentFrom?_of_not (h : ¬IsComment s start) :
    commentFrom? s start = commentFrom? s (start + 1) := by
  refine Option.ext fun i => ?_
  rw [commentFrom?_eq_some_iff, commentFrom?_eq_some_iff, isFirst_succ_iff h]

/-- A line with a comment is what stands before it, two slashes and the rest. -/
theorem IsMark.split (h : IsMark s i) : s = s.take i ++ '/' :: '/' :: s.drop (i + 2) := by
  obtain ⟨hi, hfirst⟩ := List.getElem?_eq_some_iff.1 h.1
  obtain ⟨hi', hsecond⟩ := List.getElem?_eq_some_iff.1 h.2
  calc s = s.take i ++ s.drop i := (List.take_append_drop i s).symm
    _ = s.take i ++ '/' :: '/' :: s.drop (i + 2) := by
      rw [List.drop_eq_getElem_cons hi, List.drop_eq_getElem_cons hi', hfirst, hsecond]

theorem isMark_append (before after : List Char) :
    IsMark (before ++ '/' :: '/' :: after) before.length := by
  constructor
  · rw [List.getElem?_append_right (Nat.le_refl _), Nat.sub_self]
    rfl
  · rw [List.getElem?_append_right (Nat.le_add_right _ 1), Nat.add_sub_cancel_left]
    rfl

/-- Blanks hold no slashes and no quotes, so two slashes behind them are a comment. -/
theorem commentFrom?_of_blank {before : List Char} (h : ∀ c ∈ before, Text.blankChar c = true)
    (after : List Char) :
    commentFrom? (before ++ '/' :: '/' :: after) 0 = some before.length := by
  have hquote : '"' ∉ before := fun hmem => absurd (h _ hmem) (by decide)
  refine commentFrom?_eq_some_iff.2 ⟨Nat.zero_le _, ⟨isMark_append before after, ?_⟩, ?_⟩
  · unfold insideText
    rw [List.take_left' rfl, List.count_eq_zero_of_not_mem hquote]
    rfl
  · rintro j - hlt ⟨⟨hslash, -⟩, -⟩
    rw [List.getElem?_append_left hlt] at hslash
    exact absurd (h _ (List.mem_of_getElem? hslash)) (by decide)

/-- What is cut off at the end of a text is blank. -/
theorem exists_trimRight (s : List Char) :
    ∃ blanks, s = Text.trimRight s ++ blanks ∧ ∀ c ∈ blanks, Text.blankChar c = true := by
  refine ⟨(s.reverse.takeWhile Text.blankChar).reverse, ?_, fun c hc => ?_⟩
  · unfold Text.trimRight
    rw [← List.reverse_append, List.takeWhile_append_dropWhile, List.reverse_reverse]
  · exact List.all_eq_true.1 List.all_takeWhile c (List.mem_reverse.1 hc)

theorem trimRight_slashes (after : List Char) :
    Text.trimRight ('/' :: '/' :: after) = '/' :: '/' :: Text.trimRight after := by
  have hblank : Text.blankChar '/' = false := by decide
  unfold Text.trimRight
  rw [List.reverse_cons, List.reverse_cons, List.append_assoc, List.dropWhile_append]
  split
  · rename_i hempty
    rw [List.isEmpty_iff.1 hempty]
    simp [hblank]
  · simp

/-- A line starts with a comment if nothing but blanks stands before two slashes. -/
theorem startsWithComment_iff : startsWithComment s = true ↔
    ∃ before after, s = before ++ '/' :: '/' :: after ∧ ∀ c ∈ before, Text.blankChar c = true := by
  unfold startsWithComment Text.trimChars
  rw [List.isPrefixOf_iff_prefix]
  constructor
  · intro h
    obtain ⟨after, hafter⟩ := h
    obtain ⟨blanks, hblanks, -⟩ := exists_trimRight (Text.trimLeft s)
    refine ⟨s.takeWhile Text.blankChar, after ++ blanks, ?_, fun c hc => ?_⟩
    · calc s = s.takeWhile Text.blankChar ++ Text.trimLeft s :=
            List.takeWhile_append_dropWhile.symm
        _ = _ := by rw [hblanks, ← hafter]; rfl
    · exact List.all_eq_true.1 List.all_takeWhile c hc
  · rintro ⟨before, after, rfl, hblank⟩
    unfold Text.trimLeft
    rw [List.dropWhile_append_of_pos hblank, List.dropWhile_cons_of_neg (by decide),
      trimRight_slashes]
    exact ⟨_, rfl⟩

end TypeExport.Config

/-!
## Comments found character by character

A lexer goes through a document once, character by character, and remembers no more than what it keeps
of a line and whether it is inside a string.  It leaves the same document as the search that jumps from
one `//` to the next and counts the quotes before each anew.
-/

namespace TypeExport.Config

/-- Where a lexer is in its line. -/
inductive LexerMode where
  | outside
  | inside
  | comment
  deriving DecidableEq

/-- What is left of a line at its end, of which `kept` is kept, last character first.  Of a line with a
comment and nothing before it, nothing is left. -/
def keptLine : LexerMode → List Char → List (List Char)
  | .comment, [] => []
  | _, kept => [kept.reverse]

/-- The lines that a lexer leaves of a document. -/
def lexLines (mode : LexerMode) (kept : List Char) : List Char → List (List Char)
  | [] => keptLine mode kept
  | c :: rest =>
    if c = '\n' then keptLine mode kept ++ lexLines .outside [] rest
    else
      match mode with
      | .comment => lexLines .comment kept rest
      | .inside => lexLines (if c = '"' then .outside else .inside) (c :: kept) rest
      | .outside =>
        if c = '/' ∧ rest.head? = some '/' then
          lexLines .comment (kept.dropWhile Text.blankChar) rest
        else lexLines (if c = '"' then .inside else .outside) (c :: kept) rest

/-- The document without the comments that a lexer finds. -/
def lexedComments (document : List Char) : List Char :=
  Text.joinWith '\n' (lexLines .outside [] document)

/-- The mode in which a lexer comes to a place of a line, if it met no comment before. -/
def modeAt (s : List Char) (i : Nat) : LexerMode :=
  if insideText s i then .inside else .outside

/-- What is left of a line whose comment is searched for from a place on. -/
def leftFrom (s : List Char) (start : Nat) : List (List Char) :=
  match commentFrom? s start with
  | some i => keptLine .comment ((s.take i).reverse.dropWhile Text.blankChar)
  | none => [s]

/-- What a lexer makes of the lines behind the current one. -/
def lexBehind : List Char → List (List Char)
  | [] => []
  | _ :: rest => lexLines .outside [] rest

/-- What follows a line: nothing, or a line break and more lines. -/
def EndsLine (behind : List Char) : Prop :=
  ∀ c ∈ behind.head?, c = '\n'

variable {s kept behind : List Char} {c : Char} {mode : LexerMode}

theorem lexLines_cons (rest : List Char) : lexLines mode kept (c :: rest) =
    if c = '\n' then keptLine mode kept ++ lexLines .outside [] rest
    else
      match mode with
      | .comment => lexLines .comment kept rest
      | .inside => lexLines (if c = '"' then .outside else .inside) (c :: kept) rest
      | .outside =>
        if c = '/' ∧ rest.head? = some '/' then
          lexLines .comment (kept.dropWhile Text.blankChar) rest
        else lexLines (if c = '"' then .inside else .outside) (c :: kept) rest := by
  cases mode <;> rfl

theorem lexLines_endsLine (h : EndsLine behind) :
    lexLines mode kept behind = keptLine mode kept ++ lexBehind behind := by
  cases behind with
  | nil => rw [lexLines, lexBehind, List.append_nil]
  | cons c rest => rw [lexLines_cons, if_pos (h c rfl), lexBehind]

/-- The rest of a line behind its comment is dropped. -/
theorem lexLines_comment (h : EndsLine behind) (hs : '\n' ∉ s) :
    lexLines .comment kept (s ++ behind) = keptLine .comment kept ++ lexBehind behind := by
  induction s with
  | nil => exact lexLines_endsLine h
  | cons c s ih =>
    rw [List.mem_cons, not_or] at hs
    rw [List.cons_append, lexLines_cons, if_neg (Ne.symm hs.1)]
    exact ih hs.2

theorem modeAt_succ {i : Nat} (hc : s[i]? = some c) :
    modeAt s (i + 1) = match modeAt s i with
      | .inside => if c = '"' then .outside else .inside
      | _ => if c = '"' then .inside else .outside := by
  unfold modeAt
  rw [insideText_succ hc]
  by_cases hquote : c = '"'
  · cases insideText s i <;> simp [hquote]
  · cases insideText s i <;> simp [hquote]

/-- A lexer sees a comment where the search does. -/
theorem isComment_length_iff {rest : List Char} (hs : s = kept.reverse ++ c :: rest) :
    IsComment s kept.length ↔
      modeAt s kept.length = .outside ∧ c = '/' ∧ rest.head? = some '/' := by
  have hmark : IsMark s kept.length ↔ c = '/' ∧ rest.head? = some '/' := by
    unfold IsMark
    rw [hs, ← List.length_reverse, List.getElem?_append_right (Nat.le_refl _),
      List.getElem?_append_right (Nat.le_add_right _ 1), Nat.sub_self, Nat.add_sub_cancel_left,
      List.getElem?_cons_zero, List.getElem?_cons_succ, ← List.head?_eq_getElem?, Option.some_inj]
  unfold IsComment modeAt
  rw [hmark]
  cases insideText s kept.length <;> simp

/-- A lexer that comes to a place of a line leaves of it what the search from there on does. -/
theorem lexLines_modeAt (hbehind : EndsLine behind) {rest : List Char} (hrest : '\n' ∉ rest)
    (hs : s = kept.reverse ++ rest) :
    lexLines (modeAt s kept.length) kept (rest ++ behind) =
      leftFrom s kept.length ++ lexBehind behind := by
  induction rest generalizing kept with
  | nil =>
    have hnone : commentFrom? s kept.length = none := by
      refine Option.eq_none_iff_forall_ne_some.2 fun i hi => ?_
      obtain ⟨hle, ⟨⟨hslash, -⟩, -⟩, -⟩ := commentFrom?_eq_some_iff.1 hi
      have hlt := (List.getElem?_eq_some_iff.1 hslash).1
      rw [hs, List.append_nil, List.length_reverse] at hlt
      omega
    have hkept : keptLine (modeAt s kept.length) kept = [s] := by
      rw [hs, List.append_nil]
      unfold modeAt
      split <;> rfl
    rw [List.nil_append, lexLines_endsLine hbehind, hkept, leftFrom, hnone]
  | cons c rest ih =>
    rw [List.mem_cons, not_or] at hrest
    have hat : s[kept.length]? = some c := by
      rw [hs, ← List.length_reverse, List.getElem?_append_right (Nat.le_refl _), Nat.sub_self]
      rfl
    rw [List.cons_append, lexLines_cons, if_neg (Ne.symm hrest.1)]
    by_cases hcomment : IsComment s kept.length
    · obtain ⟨hmode, hc, hnext⟩ := (isComment_length_iff hs).1 hcomment
      have hhead : (rest ++ behind).head? = some '/' := by rw [List.head?_append, hnext]; rfl
      have htake : s.take kept.length = kept.reverse := by
        rw [hs, List.take_left' List.length_reverse]
      rw [hmode, leftFrom, commentFrom?_of_isComment hcomment]
      dsimp only
      rw [if_pos ⟨hc, hhead⟩, lexLines_comment hbehind hrest.2, htake, List.reverse_reverse]
    · have hmore : s = (c :: kept).reverse ++ rest := by rw [hs]; simp
      have hnext := ih hrest.2 hmore
      have hleft : leftFrom s kept.length = leftFrom s (kept.length + 1) := by
        unfold leftFrom
        rw [commentFrom?_of_not hcomment]
      rw [List.length_cons, modeAt_succ hat, ← hleft] at hnext
      rw [← hnext]
      cases hmode : modeAt s kept.length with
      | inside => rfl
      | comment =>
        unfold modeAt at hmode
        split at hmode <;> cases hmode
      | outside =>
        have hother : ¬(c = '/' ∧ (rest ++ behind).head? = some '/') := by
          rintro ⟨hc, hhead⟩
          refine hcomment ((isComment_length_iff hs).2 ⟨hmode, hc, ?_⟩)
          cases rest with
          | nil =>
            rw [List.nil_append] at hhead
            exact absurd (hbehind '/' hhead) (by decide)
          | cons d rest => exact hhead
        dsimp only
        rw [if_neg hother]

/-- The search leaves of a line what a lexer does. -/
theorem toList_stripLine (s : List Char) : (stripLine s).toList = leftFrom s 0 := by
  unfold stripLine leftFrom
  by_cases hstart : startsWithComment s = true
  · obtain ⟨before, after, rfl, hblank⟩ := startsWithComment_iff.1 hstart
    have hempty : before.reverse.dropWhile Text.blankChar = [] :=
      List.dropWhile_eq_nil_iff.2 fun c hc => hblank c (List.mem_reverse.1 hc)
    rw [if_pos hstart, commentFrom?_of_blank hblank]
    dsimp only
    rw [List.take_left' rfl, hempty]
    rfl
  · rw [if_neg hstart]
    cases hcomment : commentFrom? s 0 with
    | none => rfl
    | some i =>
      obtain ⟨-, ⟨hmark, -⟩, -⟩ := commentFrom?_eq_some_iff.1 hcomment
      dsimp only
      unfold Text.trimRight
      cases hleft : (s.take i).reverse.dropWhile Text.blankChar with
      | nil =>
        refine absurd (startsWithComment_iff.2 ⟨_, _, hmark.split, fun c hc => ?_⟩) hstart
        exact List.dropWhile_eq_nil_iff.1 hleft c (List.mem_reverse.2 hc)
      | cons c kept => rfl

/-- A lexer that starts a line leaves what the search leaves of it. -/
theorem lexLines_line (hbehind : EndsLine behind) (hs : '\n' ∉ s) :
    lexLines .outside [] (s ++ behind) = (stripLine s).toList ++ lexBehind behind := by
  rw [toList_stripLine]
  have hstart : s = ([] : List Char).reverse ++ s := rfl
  exact lexLines_modeAt hbehind hs hstart

/-- The lexer works line by line. -/
theorem lexLines_joinWith {lines : List (List Char)} (hne : lines ≠ [])
    (hlines : ∀ s ∈ lines, '\n' ∉ s) :
    lexLines .outside [] (Text.joinWith '\n' lines) = lines.filterMap stripLine := by
  induction lines with
  | nil => exact absurd rfl hne
  | cons s lines ih =>
    have hs := hlines s List.mem_cons_self
    have hstart : ∀ more : List (List Char), (stripLine s).toList ++ more.filterMap stripLine =
        (s :: more).filterMap stripLine := by
      intro more
      cases hline : stripLine s with
      | none => rw [List.filterMap_cons_none hline]; rfl
      | some t => rw [List.filterMap_cons_some hline]; rfl
    cases lines with
    | nil =>
      have hend : EndsLine [] := nofun
      have hlast := lexLines_line hend hs
      rw [List.append_nil] at hlast
      rw [Text.joinWith, hlast, ← hstart]
      rfl
    | cons t lines =>
      have hmore := ih (List.cons_ne_nil t lines) fun l hl => hlines l (List.mem_cons_of_mem _ hl)
      have hbreak : EndsLine ('\n' :: Text.joinWith '\n' (t :: lines)) := by
        rintro c ⟨⟩
        rfl
      rw [Text.joinWith, lexLines_line hbreak hs, lexBehind, hmore, hstart]
      exact List.cons_ne_nil t lines

/-- The documents that the search and the lexer leave are the same, whatever stands in them. -/
theorem stripComments_eq_lexed (document : String) :
    stripComments document = String.ofList (lexedComments document.toList) := by
  have hlines := lexLines_joinWith (Text.splitOn_ne_nil '\n' document.toList)
    fun s hs => Text.not_mem_of_mem_splitOn hs
  rw [Text.joinWith_splitOn] at hlines
  unfold stripComments stripChars lexedComments
  rw [hlines]

end TypeExport.Config

import TypeExport.Json.Reader
import TypeExport.Proofs.Action
import TypeExport.Text.Split

/-!
# Strings in JSON documents

Of a document that can be read, a lexer knows at each character whether it stands inside a string.
Outside of strings there is no slash, and no string goes on behind the end of its line.
-/

namespace TypeExport.Json

/-- Where a lexer of documents is: outside of strings, inside one, or behind a backslash in one. -/
inductive LexState where
  | outside
  | inside
  | escaped
  deriving DecidableEq

/-- The state behind a character; `none` if no document has the character there. -/
def LexState.next? : LexState → Char → Option LexState
  | .outside, c => if c = '/' then none else some (if c = '"' then .inside else .outside)
  | .inside, c =>
    if c.toNat < 0x20 then none
    else some (if c = '"' then .outside else if c = '\\' then .escaped else .inside)
  | .escaped, c => if c.toNat < 0x20 then none else some .inside

/-- The state behind a text. -/
def lex? (state : LexState) (s : List Char) : Option LexState :=
  s.foldlM LexState.next? state

/-- A lexer goes from the start of one text to the start of another one, which is the end of it. -/
def Lexes (before : LexState) (s : List Char) (after : LexState) (rest : List Char) : Prop :=
  ∃ p, s = p ++ rest ∧ lex? before p = some after

variable {a b c : LexState} {d : Char} {s t u : List Char}

theorem lex?_append (a : LexState) (s t : List Char) :
    lex? a (s ++ t) = (lex? a s).bind fun b => lex? b t :=
  List.foldlM_append

theorem lex?_cons (a : LexState) (d : Char) (s : List Char) :
    lex? a (d :: s) = (a.next? d).bind fun b => lex? b s :=
  List.foldlM_cons

theorem Lexes.refl (a : LexState) (s : List Char) : Lexes a s a s :=
  ⟨[], rfl, rfl⟩

theorem Lexes.trans (h : Lexes a s b t) (h' : Lexes b t c u) : Lexes a s c u := by
  obtain ⟨p, rfl, hp⟩ := h
  obtain ⟨q, rfl, hq⟩ := h'
  refine ⟨p ++ q, (List.append_assoc p q u).symm, ?_⟩
  rw [lex?_append, hp]
  exact hq

theorem Lexes.cons (hd : a.next? d = some b) (h : Lexes b s c t) : Lexes a (d :: s) c t := by
  obtain ⟨p, rfl, hp⟩ := h
  refine ⟨d :: p, rfl, ?_⟩
  rw [lex?_cons, hd]
  exact hp

/-- A character that changes nothing outside of strings. -/
def isPlain (d : Char) : Bool :=
  d != '/' && d != '"'

theorem next?_of_isPlain (h : isPlain d = true) : LexState.outside.next? d = some .outside := by
  unfold isPlain at h
  rw [Bool.and_eq_true, bne_iff_ne, bne_iff_ne] at h
  rw [LexState.next?, if_neg h.1, if_neg h.2]

theorem lex?_of_isPlain (h : ∀ d ∈ s, isPlain d = true) : lex? .outside s = some .outside := by
  induction s with
  | nil => rfl
  | cons d s ih =>
    rw [lex?_cons, next?_of_isPlain (h d List.mem_cons_self)]
    exact ih fun e he => h e (List.mem_cons_of_mem _ he)

theorem lexes_append (h : ∀ d ∈ s, isPlain d = true) : Lexes .outside (s ++ t) .outside t :=
  ⟨s, rfl, lex?_of_isPlain h⟩

theorem lexes_dropWhile {p : Char → Bool} (hp : ∀ d, p d = true → isPlain d = true)
    (s : List Char) : Lexes .outside s .outside (s.dropWhile p) := by
  have h := lexes_append (s := s.takeWhile p) (t := s.dropWhile p) fun d hd =>
    hp d (List.all_eq_true.1 List.all_takeWhile d hd)
  rwa [List.takeWhile_append_dropWhile] at h

theorem lexes_skipSpaces (s : List Char) : Lexes .outside s .outside (skipSpaces s) := by
  refine lexes_dropWhile (fun d hd => ?_) s
  unfold isSpace at hd
  rcases (by simpa using hd : ((d = ' ' ∨ d = '\t') ∨ d = '\n') ∨ d = '\r') with
    ((rfl | rfl) | rfl) | rfl <;> decide

/-!
## Strings
-/

/-- A character of a string that is not special. -/
theorem next?_inside (hlow : ¬d.toNat < 0x20) (hquote : d ≠ '"') (hslash : d ≠ '\\') :
    LexState.inside.next? d = some .inside := by
  rw [LexState.next?, if_neg hlow, if_neg hquote, if_neg hslash]

/-- Hexadecimal digits change nothing inside a string. -/
theorem next?_of_hexValue? {n : Nat} (h : hexValue? d = some n) :
    LexState.inside.next? d = some .inside := by
  have hcode : 48 ≤ d.toNat ∧ d.toNat ≤ 57 ∨ 65 ≤ d.toNat ∧ d.toNat ≤ 70 ∨
      97 ≤ d.toNat ∧ d.toNat ≤ 102 := by
    unfold hexValue? at h
    split at h
    · rename_i hd
      exact .inl hd
    · split at h
      · rename_i hd
        exact .inr (.inr hd)
      · split at h
        · rename_i hd
          exact .inr (.inl hd)
        · cases h
  refine next?_inside (by omega) ?_ ?_
  all_goals
    rintro rfl
    revert hcode
    decide

/-- Four hexadecimal digits behind a backslash and its letter. -/
theorem lexes_unit {e f g h : Char} {n : Nat} (hn : hexUnit? e f g h = some n) (s : List Char) :
    Lexes .inside ('\\' :: 'u' :: e :: f :: g :: h :: s) .inside s := by
  obtain ⟨_, he, hn⟩ := Option.bind_eq_some_iff.1 hn
  obtain ⟨_, hf, hn⟩ := Option.bind_eq_some_iff.1 hn
  obtain ⟨_, hg, hn⟩ := Option.bind_eq_some_iff.1 hn
  obtain ⟨_, hh, -⟩ := Option.bind_eq_some_iff.1 hn
  exact .cons rfl (.cons rfl (.cons (next?_of_hexValue? he) (.cons (next?_of_hexValue? hf)
    (.cons (next?_of_hexValue? hg) (.cons (next?_of_hexValue? hh) (.refl _ s))))))

theorem lexes_escape {e : Char} (he : escaped? d = some e) (s : List Char) :
    Lexes .inside ('\\' :: d :: s) .inside s := by
  have hlow : ¬d.toNat < 0x20 := by
    intro hlow
    unfold escaped? at he
    split at he
    all_goals first | cases he; done | revert hlow; decide
  exact .cons rfl (.cons (if_neg hlow) (.refl _ s))

theorem readText_of_map {x : CodePoint} {value : CodeText}
    (h : (readText s).map (fun (v, r) => (x :: v, r)) = some (value, t)) :
    ∃ v, readText s = some (v, t) := by
  obtain ⟨⟨v, r⟩, hread, heq⟩ := Option.map_eq_some_iff.1 h
  cases heq
  exact ⟨v, hread⟩

/-- A string ends where it is read to. -/
theorem lexes_readText {value : CodeText} (h : readText s = some (value, t)) :
    Lexes .inside s .outside t := by
  fun_induction readText s generalizing value with
  | case1 => cases h
  | case2 rest =>
    cases h
    exact .cons rfl (.refl _ _)
  | case3 => cases h
  | case4 a b c d e f g h' rest high hhigh n hlow ih =>
    obtain ⟨v, hread⟩ := readText_of_map h
    obtain ⟨low, hunit, -⟩ := Option.bind_eq_some_iff.1 hlow
    exact (lexes_unit hhigh _).trans ((lexes_unit hunit rest).trans (ih hread))
  | case5 a b c d e f g h' rest high hhigh hlow ih =>
    obtain ⟨v, hread⟩ := readText_of_map h
    exact (lexes_unit hhigh _).trans (ih hread)
  | case6 => cases h
  | case7 a b c d rest hpair n hunit ih =>
    obtain ⟨v, hread⟩ := readText_of_map h
    exact (lexes_unit hunit rest).trans (ih hread)
  | case8 => cases h
  | case9 d rest hpair hunit e he ih =>
    obtain ⟨v, hread⟩ := readText_of_map h
    exact (lexes_escape he rest).trans (ih hread)
  | case10 => cases h
  | case11 d rest hquote hpair hunit hescape hplain ih =>
    obtain ⟨v, hread⟩ := readText_of_map h
    rw [not_or] at hplain
    exact (ih hread).cons (next?_inside hplain.2 hquote hplain.1)

/-!
## Numbers and named values
-/

theorem isPlain_of_isAsciiDigit (h : isAsciiDigit d = true) : isPlain d = true := by
  unfold isPlain
  rw [Bool.and_eq_true, bne_iff_ne, bne_iff_ne]
  constructor
  all_goals
    rintro rfl
    revert h
    decide

theorem lexes_digits (s : List Char) : Lexes .outside s .outside (s.dropWhile isAsciiDigit) :=
  lexes_dropWhile (fun _ => isPlain_of_isAsciiDigit) s

theorem lexes_splitFraction (s : List Char) : Lexes .outside s .outside (splitFraction s).2 := by
  unfold splitFraction
  split
  · dsimp only
    split
    · exact .refl _ _
    · exact .cons rfl (lexes_digits _)
  · exact .refl _ _

theorem lexes_splitSign (s : List Char) : Lexes .outside s .outside (Numeral.splitSign s).2 := by
  unfold Numeral.splitSign
  split
  · exact .cons rfl (.refl _ _)
  · exact .cons rfl (.refl _ _)
  · exact .refl _ _

/-- Exponents stand outside of strings. -/
theorem lexes_splitExponent (s : List Char) : Lexes .outside s .outside (splitExponent s).2 := by
  unfold splitExponent
  split
  · rename_i e rest
    split
    · rename_i he
      dsimp only
      split
      · exact .refl _ _
      · have hmark : LexState.outside.next? e = some .outside := by
          rcases he with rfl | rfl <;> rfl
        exact .cons hmark ((lexes_splitSign rest).trans (lexes_digits _))
    · exact .refl _ _
  · exact .refl _ _

theorem lexes_wholeDigits (s : List Char) :
    Lexes .outside s .outside (s.drop (wholeDigits s).length) := by
  unfold wholeDigits
  split
  · exact .cons rfl (.refl _ _)
  · have hsplit : s.drop (s.takeWhile isAsciiDigit).length = s.dropWhile isAsciiDigit := by
      have h : (s.takeWhile isAsciiDigit ++ s.dropWhile isAsciiDigit).drop
          (s.takeWhile isAsciiDigit).length = s.dropWhile isAsciiDigit := List.drop_left
      rwa [List.takeWhile_append_dropWhile] at h
    rw [hsplit]
    exact lexes_digits s

/-- Numbers stand outside of strings. -/
theorem lexes_readNumber {negative : Bool} {v : Json} (h : readNumber negative s = .ok (v, t)) :
    Lexes .outside s .outside t := by
  have hlexes := ((lexes_wholeDigits s).trans (lexes_splitFraction _)).trans (lexes_splitExponent _)
  unfold readNumber at h
  dsimp only at h
  split at h
  · cases h
  · split at h
    · split at h
      · cases h
      · cases h
        exact hlexes
    · cases h
      exact hlexes

theorem lexes_afterWord? {word : List Char} (hword : ∀ d ∈ word, isPlain d = true)
    (h : afterWord? word s = some t) : Lexes .outside s .outside t := by
  unfold afterWord? at h
  split at h
  · rename_i hprefix
    obtain ⟨rest, rfl⟩ := List.isPrefixOf_iff_prefix.1 hprefix
    cases h
    rw [List.drop_left' rfl]
    exact lexes_append hword
  · cases h

/-- Scalars stand outside of strings. -/
theorem lexes_readScalar {v : Json} (h : readScalar s = .ok (v, t)) :
    Lexes .outside s .outside t := by
  unfold readScalar at h
  split at h
  · rename_i found hfound
    obtain ⟨⟨word, v⟩, hmem, hafter⟩ := List.exists_of_findSome?_eq_some hfound
    obtain ⟨r, hr, rfl⟩ := Option.map_eq_some_iff.1 hafter
    cases h
    have hplain : (namedValues.all fun entry => entry.1.all isPlain) = true := by decide
    exact lexes_afterWord? (List.all_eq_true.1 (List.all_eq_true.1 hplain _ hmem)) hr
  · split at h
    · exact .cons rfl (lexes_readNumber h)
    · exact lexes_readNumber h

/-!
## Documents
-/

theorem lexes_skipped {d : Char} (hs : skipSpaces s = d :: t) (hd : isPlain d = true) :
    Lexes .outside s .outside t := by
  have h := lexes_skipSpaces s
  rw [hs] at h
  exact h.trans (.cons (next?_of_isPlain hd) (.refl _ t))

/-- What is read with some fuel ends outside of strings. -/
structure LexesAt (fuel : Nat) : Prop where
  value : ∀ nesting s v t, readValue nesting fuel s = .ok (v, t) → Lexes .outside s .outside t
  items : ∀ nesting s items t, readItems nesting fuel s = .ok (items, t) →
    Lexes .outside s .outside t
  members : ∀ nesting s members t, readMembers nesting fuel s = .ok (members, t) →
    Lexes .outside s .outside t

namespace LexesAt

variable {nesting fuel : Nat} (h : LexesAt fuel)
include h

/-- What is read of a value ends outside of strings if what is read of its parts does. -/
theorem readValue {v : Json} (hread : Json.readValue nesting (fuel + 1) s = .ok (v, t)) :
    Lexes .outside s .outside t := by
  unfold Json.readValue at hread
  split at hread
  · split at hread
    · rename_i htext
      cases hread
      exact .cons rfl (lexes_readText htext)
    · cases hread
  · refine .cons rfl ?_
    split at hread
    · cases hread
    · split at hread
      · rename_i hskip
        cases hread
        exact lexes_skipped hskip rfl
      · obtain ⟨⟨items, r⟩, hitems, hread⟩ := bind_eq_ok_iff.1 hread
        cases hread
        exact (lexes_skipSpaces _).trans (h.items _ _ _ _ hitems)
  · refine .cons rfl ?_
    split at hread
    · cases hread
    · split at hread
      · rename_i hskip
        cases hread
        exact lexes_skipped hskip rfl
      · obtain ⟨⟨members, r⟩, hmembers, hread⟩ := bind_eq_ok_iff.1 hread
        cases hread
        exact (lexes_skipSpaces _).trans (h.members _ _ _ _ hmembers)
  · exact lexes_readScalar hread

/-- So does what is read of items: a value, and further items. -/
theorem readItems {items : List Json} (hread : Json.readItems nesting (fuel + 1) s = .ok (items, t)) :
    Lexes .outside s .outside t := by
  unfold Json.readItems at hread
  obtain ⟨⟨item, r⟩, hitem, hread⟩ := bind_eq_ok_iff.1 hread
  refine (h.value _ _ _ _ hitem).trans ?_
  dsimp only at hread
  split at hread
  · rename_i hskip
    cases hread
    exact lexes_skipped hskip rfl
  · rename_i hskip
    obtain ⟨⟨more, r'⟩, hmore, hread⟩ := bind_eq_ok_iff.1 hread
    cases hread
    exact ((lexes_skipped hskip rfl).trans (lexes_skipSpaces _)).trans (h.items _ _ _ _ hmore)
  · cases hread

/-- So does what is read of members: a key, a colon, a value, and further members. -/
theorem readMembers {members : List (CodeText × Json)}
    (hread : Json.readMembers nesting (fuel + 1) s = .ok (members, t)) :
    Lexes .outside s .outside t := by
  unfold Json.readMembers at hread
  split at hread
  · refine .cons rfl ?_
    split at hread
    · cases hread
    · rename_i hkey
      refine (lexes_readText hkey).trans ?_
      split at hread
      · rename_i hcolon
        obtain ⟨⟨v, r⟩, hvalue, hread⟩ := bind_eq_ok_iff.1 hread
        refine ((lexes_skipped hcolon rfl).trans (lexes_skipSpaces _)).trans
          ((h.value _ _ _ _ hvalue).trans ?_)
        dsimp only at hread
        split at hread
        · rename_i hskip
          cases hread
          exact lexes_skipped hskip rfl
        · rename_i hskip
          obtain ⟨⟨more, r'⟩, hmore, hread⟩ := bind_eq_ok_iff.1 hread
          cases hread
          exact ((lexes_skipped hskip rfl).trans (lexes_skipSpaces _)).trans
            (h.members _ _ _ _ hmore)
        · cases hread
      · cases hread
  · cases hread

end LexesAt

theorem lexesAt (fuel : Nat) : LexesAt fuel := by
  induction fuel with
  | zero => exact ⟨nofun, nofun, nofun⟩
  | succ fuel ih =>
    exact ⟨fun _ _ _ _ => ih.readValue, fun _ _ _ _ => ih.readItems,
      fun _ _ _ _ => ih.readMembers⟩

/-- A document that can be read has no slash outside of strings and closes every string in its line. -/
theorem lex?_of_readWithin {nesting : Nat} {v : Json} (h : readWithin nesting s = .ok v) :
    lex? .outside s = some .outside := by
  obtain ⟨⟨v, rest⟩, hvalue, h⟩ := bind_eq_ok_iff.1 h
  dsimp only at h
  split at h
  · rename_i hempty
    have hlexes := ((lexes_skipSpaces s).trans ((lexesAt _).value _ _ _ _ hvalue)).trans
      (lexes_skipSpaces rest)
    rw [List.isEmpty_iff.1 hempty] at hlexes
    obtain ⟨p, rfl, hp⟩ := hlexes
    rw [List.append_nil]
    exact hp
  · cases h

/-- Every line of a document starts and ends outside of strings. -/
theorem lex?_joinWith_iff (lines : List (List Char)) :
    lex? .outside (Text.joinWith '\n' lines) = some .outside ↔
      ∀ line ∈ lines, lex? .outside line = some .outside := by
  induction lines with
  | nil => exact ⟨fun _ _ h => (List.not_mem_nil h).elim, fun _ => rfl⟩
  | cons line lines ih =>
    cases lines with
    | nil => simp [Text.joinWith]
    | cons next lines =>
      rw [Text.joinWith, lex?_append, List.forall_mem_cons, ← ih]
      · cases hline : lex? .outside line with
        | none => simp
        | some state => cases state <;> simp [lex?_cons, LexState.next?]
      · exact List.cons_ne_nil _ _

end TypeExport.Json

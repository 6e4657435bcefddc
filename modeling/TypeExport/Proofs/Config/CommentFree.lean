import Mathlib.Data.List.Basic
import TypeExport.Proofs.Config.CommentSearch
import TypeExport.Proofs.Json.Lexing

/-!
# Documents without comments

A document that can be read has slashes inside of strings only.  Whether they are taken for a comment
depends on the double quotes before them in their line: quotes that are escaped count as well.  So a
document without escaped quotes stays as it is, and one in which an even number of quotes stands before
two slashes can no longer be read.
-/

namespace TypeExport.Config

open Json (LexState lex? lex?_append lex?_cons)

variable {s document : List Char} {i : Nat}

/-- Some quote of a text stands behind a backslash. -/
def HasEscapedQuote (s : List Char) : Prop :=
  ['\\', '"'] <:+: s

/-- No line of a document has two slashes with an even number of double quotes before them. -/
def IsCommentFree (document : List Char) : Prop :=
  ∀ line ∈ Text.splitOn '\n' document, ∀ i, ¬IsComment line i

/-- Outside of strings no comment starts in a text that a lexer goes through. -/
theorem ne_outside_of_isMark {state : LexState} (h : lex? .outside s = some state)
    (hmark : IsMark s i) : lex? .outside (s.take i) ≠ some .outside := by
  intro hbefore
  rw [hmark.split, lex?_append, hbefore, Option.bind_some, lex?_cons] at h
  cases h

theorem isPlain_of_blank {c : Char} (h : Text.blankChar c = true) : Json.isPlain c = true := by
  unfold Json.isPlain
  rw [Bool.and_eq_true, bne_iff_ne, bne_iff_ne]
  constructor
  all_goals
    rintro rfl
    revert h
    decide

/-- Without the blanks at its end a text leaves a lexer where it is with them. -/
theorem lex?_of_trimRight (h : lex? .outside (Text.trimRight s) = some .outside) :
    lex? .outside s = some .outside := by
  obtain ⟨blanks, hblanks, hblank⟩ := exists_trimRight s
  rw [hblanks, lex?_append, h]
  exact Json.lex?_of_isPlain fun c hc => isPlain_of_blank (hblank c hc)

/-- A line of a document that can be read is not taken for a comment as a whole. -/
theorem startsWithComment_of_lex? (h : lex? .outside s = some .outside) :
    startsWithComment s = false := by
  rw [← Bool.not_eq_true, startsWithComment_iff]
  rintro ⟨before, after, rfl, hblank⟩
  refine ne_outside_of_isMark h (isMark_append before after) ?_
  rw [List.take_left' rfl]
  exact Json.lex?_of_isPlain fun c hc => isPlain_of_blank (hblank c hc)

/-- A line without a comment stays. -/
theorem stripLine_of_not (h : lex? .outside s = some .outside) (hnone : ∀ i, ¬IsComment s i) :
    stripLine s = some s := by
  have hsearch : commentFrom? s 0 = none :=
    Option.eq_none_iff_forall_ne_some.2 fun i hi => hnone i (commentFrom?_eq_some_iff.1 hi).2.1
  unfold stripLine
  rw [startsWithComment_of_lex? h, hsearch]
  rfl

/-- A line that is cut ends inside a string. -/
theorem stripLine_of_isComment (h : lex? .outside s = some .outside) (hcomment : IsComment s i) :
    ∃ t, stripLine s = some t ∧ lex? .outside t ≠ some .outside := by
  obtain ⟨k, hk⟩ : ∃ k, commentFrom? s 0 = some k := by
    rw [← Option.isSome_iff_exists, Option.isSome_iff_ne_none]
    exact fun hnone => (commentFrom?_spec s 0).2 hnone i (Nat.zero_le i) hcomment
  obtain ⟨-, ⟨hmark, -⟩, -⟩ := commentFrom?_eq_some_iff.1 hk
  refine ⟨Text.trimRight (s.take k), ?_, fun hcut => ?_⟩
  · unfold stripLine
    rw [startsWithComment_of_lex? h, hk]
    rfl
  · exact ne_outside_of_isMark h hmark (lex?_of_trimRight hcut)

/-- A quote that is not escaped brings a lexer into a string or out of it, and nothing else does. -/
theorem outside_iff_of_next? {before state : LexState} {c : Char} (h : before.next? c = some state)
    (hescaped : before = .escaped → c ≠ '"') :
    state = .outside ↔ (before = .outside ↔ c ≠ '"') := by
  cases before with
  | outside =>
    rw [LexState.next?] at h
    split at h
    · cases h
    · rw [← Option.some.inj h]
      by_cases hc : c = '"' <;> simp [hc]
  | inside =>
    rw [LexState.next?] at h
    split at h
    · cases h
    · rw [← Option.some.inj h]
      by_cases hc : c = '"'
      · simp [hc]
      · rw [if_neg hc]
        split <;> simp [hc]
  | escaped =>
    have hnext : (if c.toNat < 0x20 then none else some LexState.inside) = some state := h
    split at hnext
    · cases hnext
    · rw [← Option.some.inj hnext]
      simp [hescaped rfl]

theorem eq_of_next?_escaped {before : LexState} {c : Char}
    (h : before.next? c = some .escaped) : c = '\\' := by
  unfold LexState.next? at h
  split at h <;> grind

/-- Where no quote is escaped, a lexer changes sides as often as there are quotes. -/
theorem odd_quotes_iff {before after : LexState} (h : lex? before s = some after)
    (hquotes : ¬HasEscapedQuote s) (hstart : before = .escaped → s.head? ≠ some '"') :
    s.count '"' % 2 = 1 ↔ (before = .outside ↔ after ≠ .outside) := by
  induction s generalizing before with
  | nil =>
    cases h
    simp
  | cons c s ih =>
    rw [lex?_cons] at h
    obtain ⟨state, hstate, h⟩ := Option.bind_eq_some_iff.1 h
    have hrest : ¬HasEscapedQuote s := fun hs => hquotes (hs.trans (List.suffix_cons c s).isInfix)
    have hnext : state = .escaped → s.head? ≠ some '"' := by
      rintro rfl hhead
      obtain ⟨t, rfl⟩ := List.head?_eq_some_iff.1 hhead
      refine hquotes ⟨[], t, ?_⟩
      rw [eq_of_next?_escaped hstate]
      rfl
    have hcount := ih h hrest hnext
    have hside := outside_iff_of_next? hstate fun hbefore hc => hstart hbefore (hc ▸ rfl)
    rw [List.count_cons]
    by_cases hc : c = '"'
    · have hodd : (s.count '"' + 1) % 2 = 1 ↔ ¬s.count '"' % 2 = 1 := by omega
      rw [if_pos (beq_iff_eq.2 hc), hodd, hcount, hside]
      grind
    · rw [if_neg (by simpa using hc), Nat.add_zero, hcount, hside]
      grind

/-- A line of a document without escaped quotes has no comment. -/
theorem not_isComment_of_quotes (h : lex? .outside s = some .outside)
    (hquotes : ¬HasEscapedQuote s) (i : Nat) : ¬IsComment s i := by
  rintro ⟨hmark, hinside⟩
  have hfront : (s.take i) <+: s := List.take_prefix i s
  obtain ⟨state, hstate⟩ : ∃ state, lex? .outside (s.take i) = some state := by
    rw [← List.take_append_drop i s, lex?_append] at h
    obtain ⟨state, hstate, -⟩ := Option.bind_eq_some_iff.1 h
    exact ⟨state, hstate⟩
  have hodd := (odd_quotes_iff hstate (fun hs => hquotes (hs.trans hfront.isInfix)) nofun).2
    ⟨fun _ hout => ne_outside_of_isMark h hmark (hout ▸ hstate), fun _ => rfl⟩
  unfold insideText at hinside
  rw [hodd] at hinside
  cases hinside

/-- Every line stands somewhere in the text. -/
theorem isInfix_joinWith {line : List Char} {lines : List (List Char)} (h : line ∈ lines) :
    line <:+: Text.joinWith '\n' lines := by
  induction lines with
  | nil => cases h
  | cons first lines ih =>
    cases lines with
    | nil => exact List.mem_singleton.1 h ▸ List.infix_refl _
    | cons next lines =>
      rw [Text.joinWith]
      · rcases List.mem_cons.1 h with rfl | h
        · exact (List.prefix_append _ _).isInfix
        · exact (ih h).trans ((List.suffix_cons _ _).trans (List.suffix_append _ _)).isInfix
      · exact List.cons_ne_nil _ _

/-- What is left of a document that can be read can be read exactly if no line has two slashes with an
even number of double quotes before them, and then it is the document itself.  That is so for every
document without escaped quotes. -/
theorem read_stripped_iff {v : Json} (h : Json.read document = .ok v) :
    (∀ w, Json.read (stripChars document) = .ok w ↔ w = v ∧ IsCommentFree document) ∧
      (IsCommentFree document → stripChars document = document) ∧
      (¬HasEscapedQuote document → IsCommentFree document) := by
  have hjoin := Text.joinWith_splitOn '\n' document
  have hlines : ∀ line ∈ Text.splitOn '\n' document, lex? .outside line = some .outside := by
    rw [← Json.lex?_joinWith_iff, hjoin]
    exact Json.lex?_of_readWithin h
  have hkept : IsCommentFree document → stripChars document = document := by
    intro hnone
    have hsame : (Text.splitOn '\n' document).filterMap stripLine =
        Text.splitOn '\n' document :=
      (List.filterMap_congr fun line hline =>
        stripLine_of_not (hlines line hline) (hnone line hline)).trans List.filterMap_some
    unfold stripChars
    rw [hsame, hjoin]
  refine ⟨fun w => ⟨fun hread => ?_, ?_⟩, hkept, fun hquotes line hline => ?_⟩
  · have hstripped : ∀ line ∈ (Text.splitOn '\n' document).filterMap stripLine,
        lex? .outside line = some .outside :=
      (Json.lex?_joinWith_iff _).1 (Json.lex?_of_readWithin hread)
    have hnone : IsCommentFree document := by
      intro line hline i hcomment
      obtain ⟨t, ht, hcut⟩ := stripLine_of_isComment (hlines line hline) hcomment
      exact hcut (hstripped t (List.mem_filterMap.2 ⟨line, hline, ht⟩))
    rw [hkept hnone, h] at hread
    exact ⟨(Except.ok.inj hread).symm, hnone⟩
  · rintro ⟨rfl, hnone⟩
    rw [hkept hnone, h]
  · have hinfix := isInfix_joinWith hline
    rw [hjoin] at hinfix
    exact not_isComment_of_quotes (hlines line hline) fun hs => hquotes (hs.trans hinfix)

/-- A document with a note in which quotes are escaped. -/
def quotedNote : List Char :=
  "\x7b\"note\": \"say \\\"//\\\"\"\x7d".toList

/-- The document can be read, but not what is left of it. -/
theorem quotedNote_is_cut :
    Json.read quotedNote =
        .ok (.object [(.ofString "note", .text (.ofString "say \"//\""))]) ∧
      IsComment quotedNote 16 ∧ ∀ w, Json.read (stripChars quotedNote) ≠ .ok w := by
  have hread : Json.read quotedNote =
      .ok (.object [(.ofString "note", .text (.ofString "say \"//\""))]) := by
    cbv
  have hcomment : IsComment quotedNote 16 := ⟨⟨rfl, rfl⟩, by decide⟩
  have hline : quotedNote ∈ Text.splitOn '\n' quotedNote := by decide
  refine ⟨hread, hcomment, fun w hw => ?_⟩
  exact (((read_stripped_iff hread).1 w).1 hw).2 _ hline 16 hcomment

end TypeExport.Config

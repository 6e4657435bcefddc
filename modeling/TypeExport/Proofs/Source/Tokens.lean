import TypeExport.Proofs.Name.AsciiWord
import TypeExport.Proofs.Source.Digits
import TypeExport.Proofs.Text.LongLiteral
import TypeExport.Source.ModuleText

/-!
# Tokens of written lines

A line is read token by token.  Each kind of token that a written line holds has a step of its own,
and a line is read by as many steps as it has tokens and gaps.
-/

namespace TypeExport.SourceLine

open SourceToken

/-- The characters up to the end of a line are read as tokens, whatever follows the line. -/
def Reads (depth : Nat) (line : List Char) (tokens : List SourceToken) : Prop :=
  ∀ fuel rest, line.length < fuel →
    readTokens fuel depth (line ++ '\n' :: rest) = some (tokens, rest)

variable {depth : Nat} {line : List Char} {tokens : List SourceToken}

theorem reads_nil : Reads 0 [] [] := by
  intro fuel rest hfuel
  obtain ⟨fuel, rfl⟩ := Nat.exists_eq_succ_of_ne_zero (Nat.ne_of_gt hfuel)
  rfl

theorem reads_gap (h : Reads depth line tokens) : Reads depth (' ' :: line) tokens := by
  intro fuel rest hfuel
  obtain ⟨fuel, rfl⟩ := Nat.exists_eq_succ_of_ne_zero (Nat.ne_of_gt (Nat.zero_lt_of_lt hfuel))
  exact h fuel rest (Nat.lt_of_succ_lt_succ hfuel)

theorem dropWhile_ne_newline {comment : List Char} (h : '\n' ∉ comment) (rest : List Char) :
    (comment ++ '\n' :: rest).dropWhile (· != '\n') = '\n' :: rest := by
  induction comment with
  | nil => rfl
  | cons c comment ih =>
    rw [List.mem_cons, not_or] at h
    rw [List.cons_append, List.dropWhile_cons_of_pos (by simpa using Ne.symm h.1), ih h.2]

theorem reads_comment {comment : List Char} (h : '\n' ∉ comment) : Reads 0 ('#' :: comment) [] := by
  intro fuel rest hfuel
  obtain ⟨fuel, rfl⟩ := Nat.exists_eq_succ_of_ne_zero (Nat.ne_of_gt (Nat.zero_lt_of_lt hfuel))
  have hpos : 0 < fuel := by
    simp only [List.length_cons] at hfuel
    omega
  obtain ⟨fuel, rfl⟩ := Nat.exists_eq_succ_of_ne_zero (Nat.ne_of_gt hpos)
  show readTokens (fuel + 1) 0 ((comment ++ '\n' :: rest).dropWhile (· != '\n')) = _
  rw [dropWhile_ne_newline h]
  rfl

/-- A mark of one character that begins no longer mark. -/
theorem reads_mark {c : Char} (hc : c ∈ ['(', ')', ':', '=', '-'])
    (h : Reads (depthAfter depth (String.singleton c)) line tokens) :
    Reads depth (c :: line) (.mark (String.singleton c) :: tokens) := by
  intro fuel rest hfuel
  obtain ⟨fuel, rfl⟩ := Nat.exists_eq_succ_of_ne_zero (Nat.ne_of_gt (Nat.zero_lt_of_lt hfuel))
  have hmark : mark? (c :: (line ++ '\n' :: rest)) = some (String.singleton c) := by
    simp only [List.mem_cons, List.not_mem_nil, or_false] at hc
    rcases hc with rfl | rfl | rfl | rfl | rfl <;> rfl
  have hnext := h fuel rest (Nat.lt_of_succ_lt_succ hfuel)
  have hstep : readTokens (fuel + 1) depth (c :: (line ++ '\n' :: rest)) =
      (mark? (c :: (line ++ '\n' :: rest))).bind fun m =>
        (readTokens fuel (depthAfter depth m) ((c :: (line ++ '\n' :: rest)).drop m.length)).map
          fun p => (.mark m :: p.1, p.2) := by
    simp only [List.mem_cons, List.not_mem_nil, or_false] at hc
    rcases hc with rfl | rfl | rfl | rfl | rfl <;> rfl
  rw [List.cons_append, hstep, hmark, Option.bind_some, String.length_singleton, List.drop_one,
    List.tail_cons, hnext]
  rfl

/-- A line that no word goes on into. -/
def EndsWord (line : List Char) : Prop :=
  ∀ c ∈ line.head?, continuesWord c = false

/-- A word ends where the line goes on with something else. -/
theorem takeWhile_word {word : List Char} (hword : ∀ c ∈ word, IsWordChar c) (hline : EndsWord line)
    (rest : List Char) :
    (word ++ (line ++ '\n' :: rest)).takeWhile continuesWord = word ∧
      (word ++ (line ++ '\n' :: rest)).dropWhile continuesWord = line ++ '\n' :: rest := by
  have hnext : ∃ c more, line ++ '\n' :: rest = c :: more ∧ continuesWord c = false := by
    cases line with
    | nil => exact ⟨'\n', rest, rfl, rfl⟩
    | cons c line => exact ⟨c, _, rfl, hline c rfl⟩
  obtain ⟨c, more, hcons, hc⟩ := hnext
  rw [hcons]
  induction word with
  | nil => simp [hc]
  | cons d word ih =>
    have hd := continuesWord_of_isWordChar (hword d List.mem_cons_self)
    obtain ⟨htake, hdrop⟩ := ih fun e he => hword e (List.mem_cons_of_mem _ he)
    rw [List.cons_append, List.takeWhile_cons_of_pos hd, List.dropWhile_cons_of_pos hd, htake, hdrop]
    exact ⟨rfl, rfl⟩

theorem ne_of_isAlpha {c d : Char} (hc : c.isAlpha = true) (hd : d.isAlpha = false) : c ≠ d := by
  rintro rfl
  rw [hc] at hd
  cases hd

/-- A word in front of a line is read as one token. -/
theorem reads_word {word : List Char} (hword : IsAsciiWord word) (hline : EndsWord line)
    (h : Reads depth line tokens) :
    Reads depth (word ++ line) (.word (String.ofList word) :: tokens) := by
  intro fuel rest hfuel
  obtain ⟨fuel, rfl⟩ := Nat.exists_eq_succ_of_ne_zero (Nat.ne_of_gt (Nat.zero_lt_of_lt hfuel))
  obtain ⟨c, more, rfl, hc, hmore⟩ := hword.exists_cons
  obtain ⟨htake, hdrop⟩ := takeWhile_word hmore hline rest
  have hgap : isGap c = false := by
    have hne : ∀ d, d.isAlpha = false → (c = d) = False :=
      fun d hd => eq_false (ne_of_isAlpha hc hd)
    simp [isGap, hne]
  have hlength : line.length < fuel := by
    simp only [List.length_append, List.length_cons] at hfuel
    omega
  rw [List.append_assoc, List.cons_append, readTokens, if_neg (ne_of_isAlpha hc (by decide)),
    if_neg (ne_of_isAlpha hc (by decide)), if_neg (by simp [hgap]),
    if_pos (startsWord_of_isAlpha hc), htake, hdrop, h fuel rest hlength]
  rfl

/-- A number at the end of a line. -/
theorem reads_digits (n : Nat) : Reads 0 (Nat.toDigits 10 n) [.literal (.int n)] := by
  intro fuel rest hfuel
  obtain ⟨fuel, rfl⟩ := Nat.exists_eq_succ_of_ne_zero (Nat.ne_of_gt (Nat.zero_lt_of_lt hfuel))
  have hvalue := numeral?_toDigits n
  obtain ⟨c, digits, hdigits, hc, hrest⟩ := Numeral.toDigits_eq_cons n
  rw [hdigits] at hvalue hfuel ⊢
  have hfuel' : 0 < fuel := by
    simp only [List.length_cons] at hfuel
    omega
  have hword : startsWord c = false := by
    obtain ⟨hlow, hhigh⟩ := toNat_of_isDigit hc
    unfold startsWord Text.startsIdentifier Text.isLetter
    rw [if_pos (by omega), if_pos (by omega)]
    simp only [Bool.or_eq_false_iff, Bool.and_eq_false_iff, decide_eq_false_iff_not,
      beq_eq_false_iff_ne]
    omega
  have hgap : isGap c = false := by
    have hne : ∀ d, d.isDigit = false → (c = d) = False :=
      fun d hd => eq_false (ne_of_isDigit hc hd)
    simp [isGap, hne]
  have htake : (digits ++ '\n' :: rest).take digits.length = digits := List.take_left' rfl
  have hdrop : (digits ++ '\n' :: rest).drop digits.length = '\n' :: rest := List.drop_left' rfl
  have hend := reads_nil fuel rest hfuel'
  rw [List.nil_append] at hend
  rw [List.cons_append, readTokens, if_neg (ne_of_isDigit hc (by decide)),
    if_neg (ne_of_isDigit hc (by decide)), if_neg (by simp [hgap]), if_neg (by simp [hword]),
    if_pos hc]
  simp only [numeralLength_digits hrest, htake, hdrop, hvalue, hend]
  rfl

theorem readTokens_quote {quote : Char} (hquote : quote = '\'' ∨ quote = '"') (fuel depth : Nat)
    (rest : List Char) :
    readTokens (fuel + 1) depth (quote :: rest) =
      (if [quote, quote].isPrefixOf rest then TextLiteral.longRest? quote (rest.drop 2)
        else TextLiteral.rest? quote rest).bind fun (t, r) =>
        (readTokens fuel depth r).map fun (ts, r) => (.literal (.text t) :: ts, r) := by
  rcases hquote with rfl | rfl <;> rfl

/-- A text at the end of a line. -/
theorem reads_text (s : String) :
    Reads 0 (Quoted.readableString s).toList [.literal (.text s)] := by
  intro fuel rest hfuel
  obtain ⟨fuel, rfl⟩ := Nat.exists_eq_succ_of_ne_zero (Nat.ne_of_gt (Nat.zero_lt_of_lt hfuel))
  have hquote := Quoted.quoteOf_cases s
  rw [Quoted.readableString_eq] at hfuel ⊢
  have hfuel' : 0 < fuel := by
    simp only [List.length_append, List.length_cons] at hfuel
    omega
  have hend := reads_nil fuel rest hfuel'
  rw [List.nil_append] at hend
  generalize Quoted.quoteOf s = quote at *
  have hshort : [quote, quote].isPrefixOf (s.toList.flatMap (fun c =>
      Quoted.readablePiece quote c.toNat) ++ quote :: '\n' :: rest) = false := by
    have hline : quote ≠ '\n' := by
      rcases hquote with rfl | rfl <;> decide
    cases s.toList with
    | nil => simp [List.isPrefixOf, hline]
    | cons c t =>
      obtain ⟨d, more, hpiece, hne⟩ := Quoted.readablePiece_eq_cons hquote c
      rw [List.flatMap_cons, hpiece]
      simp [List.isPrefixOf, Ne.symm hne]
  rw [List.cons_append, List.cons_append, List.append_assoc, List.cons_append, List.nil_append,
    readTokens_quote hquote, if_neg (by simp [hshort]), TextLiteral.rest?_pieces hquote,
    Option.bind_some]
  simp only [hend, String.ofList_toList]
  rfl

/-- A text between three double quotes at the end of a line. -/
theorem reads_long {t : List Char} (ht : TextLiteral.IsVerbatim t) :
    Reads 0 ('"' :: '"' :: '"' :: t ++ ['"', '"', '"']) [.literal (.text (String.ofList t))] := by
  intro fuel rest hfuel
  obtain ⟨fuel, rfl⟩ := Nat.exists_eq_succ_of_ne_zero (Nat.ne_of_gt (Nat.zero_lt_of_lt hfuel))
  have hfuel' : 0 < fuel := by
    simp only [List.length_append, List.length_cons] at hfuel
    omega
  have hend := reads_nil fuel rest hfuel'
  rw [List.nil_append] at hend
  have hlong := (TextLiteral.longRest?_eq_iff t ('\n' :: rest)).2 ht
  rw [List.append_assoc, List.cons_append, List.cons_append, List.cons_append,
    readTokens_quote (.inr rfl), if_pos (by simp [List.isPrefixOf])]
  show ((TextLiteral.longRest? '"' (t ++ '"' :: '"' :: '"' :: '\n' :: rest)).bind _) = _
  rw [hlong, Option.bind_some]
  simp only [hend]
  rfl

end TypeExport.SourceLine

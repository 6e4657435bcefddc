import TypeExport.Proofs.Text.Literal

/-!
# Literals of several lines that are read as they are written

Between three double quotes a text stands for itself unless it holds the three quotes, ends in a
quote or in a backslash, or has a backslash in front of the letter of an escape.  An escape is read
as fewer characters than it has, so no text outside of this description is read as itself.
-/

namespace TypeExport.TextLiteral

/-- Whether a backslash in front of the character is read together with it. -/
def isEscape (c : Char) : Bool :=
  c == '\n' || (simpleEscape? c).isSome || (hexLength? c).isSome || isOctal c || c == 'N'

/-- The text stands for itself between three double quotes. -/
structure IsVerbatim (t : List Char) : Prop where
  noQuotes : ¬['"', '"', '"'] <:+: t
  noQuoteAtEnd : t.getLast? ≠ some '"'
  noSlashAtEnd : t.getLast? ≠ some '\\'
  noEscape : ∀ c, ['\\', c] <:+: t → isEscape c = false

/-- Whether three double quotes stand in front. -/
def closesLong (s : List Char) : Bool :=
  ['"', '"', '"'].isPrefixOf s

/-- The body of a literal between three double quotes. -/
abbrev longBody (fuel : Nat) (s : List Char) : Option (List Char × List Char) :=
  body (fun s => ['"', '"', '"'].isPrefixOf s) 3 true fuel s

theorem closesLong_iff (s : List Char) :
    closesLong s = true ↔ ∃ rest, s = '"' :: '"' :: '"' :: rest := by
  unfold closesLong
  rw [List.isPrefixOf_iff_prefix]
  constructor
  · rintro ⟨rest, rfl⟩
    exact ⟨rest, rfl⟩
  · rintro ⟨rest, rfl⟩
    exact ⟨rest, rfl⟩

theorem longBody_closing {s : List Char} (h : closesLong s = true) (fuel : Nat) :
    longBody (fuel + 1) s = some ([], s.drop 3) := by
  obtain ⟨rest, rfl⟩ := (closesLong_iff s).1 h
  rfl

theorem longBody_plain {c : Char} {s : List Char} (h : closesLong (c :: s) = false)
    (hc : c ≠ '\\') (fuel : Nat) :
    longBody (fuel + 1) (c :: s) = (longBody fuel s).map fun (t, r) => (c :: t, r) := by
  unfold closesLong at h
  unfold longBody
  by_cases hline : c = '\n'
  · rw [hline] at h ⊢
    rw [body, if_neg (by simp [h])]
    rfl
  · rw [body, if_neg (by simp [h])]
    all_goals simp [hc, hline]

theorem longBody_slash {c : Char} {s : List Char} (h : isEscape c = false) (fuel : Nat) :
    longBody (fuel + 1) ('\\' :: c :: s) =
      (longBody fuel (c :: s)).map fun (t, r) => ('\\' :: t, r) := by
  simp only [isEscape, Bool.or_eq_false_iff, beq_eq_false_iff_ne, Option.isSome_eq_false_iff,
    Option.isNone_iff_eq_none] at h
  obtain ⟨⟨⟨⟨hline, hsimple⟩, hhex⟩, hoctal⟩, hnamed⟩ := h
  unfold longBody
  rw [body, if_neg (by simp [List.isPrefixOf])]
  · simp only [hsimple, hhex, hoctal, hnamed, if_false, Bool.false_eq_true]
  · exact hline

/-- Behind a name in braces the text is shorter. -/
theorem length_afterName? {s after : List Char} (h : afterName? s = some after) :
    after.length < s.length := by
  unfold afterName? at h
  split at h
  · rename_i rest
    split at h
    · rename_i hname hafter
      cases h
      have hlength : ('\x7d' :: after).length ≤ rest.length := by
        rw [← hafter]
        exact (List.dropWhile_sublist _).length_le
      simp only [List.length_cons] at hlength ⊢
      omega
    · cases h
  · cases h

theorem exists_of_map_cons {c : Char} {t r : List Char} {x : Option (List Char × List Char)}
    (h : (x.map fun (t, r) => (c :: t, r)) = some (t, r)) : ∃ u, x = some (u, r) ∧ t = c :: u := by
  obtain ⟨⟨u, r⟩, hx, heq⟩ := Option.map_eq_some_iff.1 h
  cases heq
  exact ⟨u, hx, rfl⟩

/-- An escape is read as at most one character, and has at least two. -/
theorem longBody_escape {c : Char} {s t r : List Char} {fuel : Nat} (h : isEscape c = true)
    (hread : longBody (fuel + 1) ('\\' :: c :: s) = some (t, r)) :
    ∃ first rest u, longBody fuel rest = some (u, r) ∧ t = first ++ u ∧
      first.length + rest.length < s.length + 2 := by
  have hone : ∀ {e : Char} {rest : List Char}, rest.length ≤ s.length →
      ((longBody fuel rest).map fun (t, r) => (e :: t, r)) = some (t, r) →
      ∃ first rest u, longBody fuel rest = some (u, r) ∧ t = first ++ u ∧
        first.length + rest.length < s.length + 2 := by
    intro e rest hrest hmap
    obtain ⟨u, hu, rfl⟩ := exists_of_map_cons hmap
    exact ⟨[e], rest, u, hu, rfl, by simp only [List.length_singleton]; omega⟩
  by_cases hline : c = '\n'
  · rw [hline, longBody, body, if_neg (by simp)] at hread
    exact ⟨[], s, t, hread, rfl, by simp⟩
  rw [longBody, body, if_neg (by simp)] at hread
  · cases hsimple : simpleEscape? c with
    | some e =>
      simp only [hsimple] at hread
      exact hone le_rfl hread
    | none =>
      cases hhex : hexLength? c with
      | some n =>
        simp only [hsimple, hhex, Option.ite_none_left_eq_some] at hread
        obtain ⟨-, hread⟩ := hread
        obtain ⟨e, -, hread⟩ := Option.bind_eq_some_iff.1 hread
        exact hone (List.drop_sublist n s).length_le (by rw [Option.map_eq_bind]; exact hread)
      | none =>
        simp only [hsimple, hhex] at hread
        by_cases hoctal : isOctal c = true
        · rw [if_pos hoctal] at hread
          apply hone _ hread
          rw [List.takeWhile_cons_of_pos hoctal, List.take_succ_cons, List.length_cons,
            List.drop_succ_cons]
          exact (List.drop_sublist _ s).length_le
        · have hnamed : c = 'N' := by
            simpa [isEscape, hline, hsimple, hhex, hoctal] using h
          rw [if_neg hoctal, if_pos hnamed] at hread
          obtain ⟨rest, hrest, hread⟩ := Option.bind_eq_some_iff.1 hread
          exact hone (length_afterName? hrest).le (by rw [Option.map_eq_bind]; exact hread)
  · exact hline

/-- The first character is read as itself, and the rest after it. -/
structure ReadsFirst (s rest first : List Char) : Prop where
  eq_append : s = first ++ rest
  one : first.length = 1
  opened : closesLong s = false
  noEscape : first = ['\\'] → ∃ d ∈ rest.head?, isEscape d = false

/-- What one step of the reader can do: it closes the literal, reads the first character as itself,
or loses a character. -/
theorem longBody_cases {s t r : List Char} {fuel : Nat} (h : longBody (fuel + 1) s = some (t, r)) :
    (closesLong s = true ∧ t = [] ∧ r = s.drop 3) ∨
      ∃ first rest u, longBody fuel rest = some (u, r) ∧ t = first ++ u ∧
        (ReadsFirst s rest first ∨ first.length + rest.length < s.length) := by
  by_cases hclosing : closesLong s = true
  · rw [longBody_closing hclosing] at h
    cases h
    exact .inl ⟨hclosing, rfl, rfl⟩
  rw [Bool.not_eq_true] at hclosing
  right
  cases s with
  | nil => cases h
  | cons c s =>
    by_cases hslash : c = '\\'
    · subst hslash
      cases s with
      | nil => cases h
      | cons d s =>
        cases hescape : isEscape d with
        | true =>
          obtain ⟨first, rest, u, hu, ht, hlength⟩ := longBody_escape hescape h
          exact ⟨first, rest, u, hu, ht, .inr hlength⟩
        | false =>
          rw [longBody_slash hescape] at h
          obtain ⟨u, hu, rfl⟩ := exists_of_map_cons h
          exact ⟨['\\'], d :: s, u, hu, rfl, .inl ⟨rfl, rfl, hclosing, fun _ => ⟨d, rfl, hescape⟩⟩⟩
    · rw [longBody_plain hclosing hslash] at h
      obtain ⟨u, hu, rfl⟩ := exists_of_map_cons h
      exact ⟨[c], s, u, hu, rfl, .inl ⟨rfl, rfl, hclosing,
        fun heq => absurd (List.singleton_inj.1 heq) hslash⟩⟩

/-- What is read is no longer than its literal. -/
theorem length_le_of_longBody {fuel : Nat} {s t r : List Char}
    (h : longBody fuel s = some (t, r)) : t.length + 3 + r.length ≤ s.length := by
  induction fuel generalizing s t with
  | zero => cases h
  | succ fuel ih =>
    rcases longBody_cases h with ⟨hclosing, rfl, rfl⟩ | ⟨first, rest, u, hu, rfl, hstep⟩
    · obtain ⟨rest, rfl⟩ := (closesLong_iff s).1 hclosing
      simp
      omega
    · have hrest := ih hu
      have hlength : first.length + rest.length ≤ s.length := by
        rcases hstep with hfirst | hless
        · rw [hfirst.eq_append, List.length_append]
        · exact hless.le
      rw [List.length_append]
      omega

theorem isVerbatim_nil : IsVerbatim [] where
  noQuotes := by simp
  noQuoteAtEnd := by simp
  noSlashAtEnd := by simp
  noEscape := by simp

/-- One character stands for itself unless it is a quote or a backslash. -/
theorem isVerbatim_singleton_iff (c : Char) : IsVerbatim [c] ↔ c ≠ '"' ∧ c ≠ '\\' := by
  constructor
  · intro h
    exact ⟨by simpa using h.noQuoteAtEnd, by simpa using h.noSlashAtEnd⟩
  · rintro ⟨hquote, hslash⟩
    have hshort : ∀ {p : List Char}, 1 < p.length → ¬p <:+: [c] :=
      fun hp hinfix => Nat.not_le.2 hp hinfix.length_le
    exact ⟨hshort (by simp), by simpa using hquote, by simpa using hslash,
      fun d hd => absurd hd (hshort (by simp))⟩

/-- A text stands for itself if its first character is read as itself and its rest stands for
itself. -/
theorem isVerbatim_cons_iff (c : Char) (t rest : List Char) :
    IsVerbatim (c :: t) ↔ closesLong (c :: t ++ '"' :: '"' :: '"' :: rest) = false ∧
      (c = '\\' → ∃ d ∈ (t ++ '"' :: '"' :: '"' :: rest).head?, isEscape d = false) ∧
      IsVerbatim t := by
  cases t with
  | nil =>
    have hopen : closesLong ([c] ++ '"' :: '"' :: '"' :: rest) = false ↔ c ≠ '"' := by
      rw [← Bool.not_eq_true, closesLong_iff, not_iff_not]
      constructor
      · rintro ⟨after, heq⟩
        exact (List.cons.inj heq).1
      · intro hquote
        exact ⟨'"' :: rest, by rw [hquote]; rfl⟩
    rw [isVerbatim_singleton_iff, hopen]
    apply and_congr_right'
    constructor
    · exact fun hslash => ⟨fun heq => absurd heq hslash, isVerbatim_nil⟩
    · rintro ⟨hslash, -⟩ heq
      -- after a backslash the first of the closing quotes is read as an escape
      obtain ⟨d, hd, hescape⟩ := hslash heq
      cases hd
      cases hescape
  | cons d t =>
    have hlast : (c :: d :: t).getLast? = (d :: t).getLast? := List.getLast?_cons_cons
    constructor
    · intro h
      refine ⟨?_, fun hslash => ⟨d, rfl, ?_⟩, ?_, ?_, ?_, ?_⟩
      · rw [← Bool.not_eq_true, closesLong_iff]
        rintro ⟨after, heq⟩
        simp only [List.cons_append, List.cons.injEq] at heq
        obtain ⟨rfl, rfl, hrest⟩ := heq
        cases t with
        | nil => exact h.noQuoteAtEnd rfl
        | cons e t =>
          rw [List.cons_append, List.cons.injEq] at hrest
          exact h.noQuotes ⟨[], t, by simp [hrest.1]⟩
      · exact h.noEscape d ⟨[], t, by simp [hslash]⟩
      · exact fun hinfix => h.noQuotes (List.infix_cons hinfix)
      · exact hlast ▸ h.noQuoteAtEnd
      · exact hlast ▸ h.noSlashAtEnd
      · exact fun e he => h.noEscape e (List.infix_cons he)
    · rintro ⟨hopen, hslash, h⟩
      refine ⟨fun hinfix => ?_, hlast ▸ h.noQuoteAtEnd, hlast ▸ h.noSlashAtEnd, fun e he => ?_⟩
      · rcases List.infix_cons_iff.1 hinfix with ⟨after, heq⟩ | hinfix
        · rw [← Bool.not_eq_true, closesLong_iff] at hopen
          exact hopen ⟨after ++ '"' :: '"' :: '"' :: rest, by rw [← heq]; rfl⟩
        · exact h.noQuotes hinfix
      · rcases List.infix_cons_iff.1 he with ⟨after, heq⟩ | hinfix
        · simp only [List.cons_append, List.nil_append, List.cons.injEq] at heq
          obtain ⟨f, hf, hescape⟩ := hslash heq.1.symm
          rw [List.cons_append, List.head?_cons, Option.mem_some_iff] at hf
          rw [heq.2.1, hf]
          exact hescape
        · exact h.noEscape e hinfix

/-- What stands in front of a text does not matter if it has no quotes and no backslashes. -/
theorem isVerbatim_append_iff {p : List Char} (hp : ∀ c ∈ p, c ≠ '"' ∧ c ≠ '\\') (t : List Char) :
    IsVerbatim (p ++ t) ↔ IsVerbatim t := by
  induction p with
  | nil => rfl
  | cons c p ih =>
    obtain ⟨hquote, hslash⟩ := hp c List.mem_cons_self
    have hopen : closesLong (c :: (p ++ t) ++ ['"', '"', '"']) = false := by
      rw [← Bool.not_eq_true, closesLong_iff]
      rintro ⟨after, heq⟩
      exact hquote (List.cons.inj heq).1
    rw [List.cons_append, isVerbatim_cons_iff c (p ++ t) [],
      ih fun d hd => hp d (List.mem_cons_of_mem c hd)]
    exact ⟨fun h => h.2.2, fun h => ⟨hopen, fun heq => absurd heq hslash, h⟩⟩

theorem isVerbatim_of_plain {t : List Char} (ht : ∀ c ∈ t, c ≠ '"' ∧ c ≠ '\\') : IsVerbatim t := by
  rw [← List.append_nil t]
  exact (isVerbatim_append_iff ht []).2 isVerbatim_nil

/-- A text is read as itself between three double quotes exactly when it stands for itself. -/
theorem longBody_eq_iff {t : List Char} {fuel : Nat} (hfuel : t.length < fuel)
    (rest : List Char) :
    longBody fuel (t ++ '"' :: '"' :: '"' :: rest) = some (t, rest) ↔ IsVerbatim t := by
  induction t generalizing fuel with
  | nil =>
    obtain ⟨fuel, rfl⟩ := Nat.exists_eq_succ_of_ne_zero (Nat.ne_of_gt hfuel)
    exact iff_of_true (longBody_closing rfl fuel) isVerbatim_nil
  | cons c t ih =>
    obtain ⟨fuel, rfl⟩ := Nat.exists_eq_succ_of_ne_zero (Nat.ne_of_gt (Nat.zero_lt_of_lt hfuel))
    have hrest := ih (Nat.lt_of_succ_lt_succ hfuel)
    rw [isVerbatim_cons_iff c t rest, ← hrest]
    constructor
    · intro h
      rcases longBody_cases h with ⟨-, hnil, -⟩ | ⟨first, after, u, hu, ht, hstep⟩
      · cases hnil
      · -- a step that loses a character leaves too few for the text
        have hlength := length_le_of_longBody hu
        have htotal := congrArg List.length ht
        rw [List.length_append] at htotal
        rcases hstep with hfirst | hless
        · obtain ⟨d, rfl⟩ := List.length_eq_one_iff.1 hfirst.one
          obtain ⟨rfl, rfl⟩ := List.cons.inj hfirst.eq_append
          obtain ⟨-, rfl⟩ := List.cons.inj ht
          exact ⟨hfirst.opened, fun hslash => hfirst.noEscape (by rw [hslash]), hu⟩
        · simp only [List.length_append, List.length_cons] at hless hlength htotal
          omega
    · rintro ⟨hopen, hslash, ht⟩
      by_cases hc : c = '\\'
      · obtain ⟨d, hd, hescape⟩ := hslash hc
        obtain ⟨after, hcons⟩ := List.head?_eq_some_iff.1 hd
        rw [List.cons_append, hc, hcons, longBody_slash hescape, ← hcons, ht]
        rfl
      · rw [List.cons_append] at hopen ⊢
        rw [longBody_plain hopen hc, ht]
        rfl

/-- The same for a literal after its opening quotes. -/
theorem longRest?_eq_iff (t rest : List Char) :
    longRest? '"' (t ++ '"' :: '"' :: '"' :: rest) = some (String.ofList t, rest) ↔
      IsVerbatim t := by
  have hfuel : t.length < (t ++ '"' :: '"' :: '"' :: rest).length + 1 := by
    rw [List.length_append]
    omega
  rw [← longBody_eq_iff hfuel rest]
  constructor
  · intro h
    obtain ⟨⟨u, r⟩, hu, heq⟩ := Option.map_eq_some_iff.1 h
    obtain ⟨htext, rfl⟩ := Prod.mk.inj heq
    rw [String.ofList_inj.1 htext] at hu
    exact hu
  · intro h
    have hbody : longRest? '"' (t ++ '"' :: '"' :: '"' :: rest) =
        Option.map (fun (t, r) => (String.ofList t, r))
          (longBody ((t ++ '"' :: '"' :: '"' :: rest).length + 1)
            (t ++ '"' :: '"' :: '"' :: rest)) := rfl
    rw [hbody, h]
    rfl

end TypeExport.TextLiteral

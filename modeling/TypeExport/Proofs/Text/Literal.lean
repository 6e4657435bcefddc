import Mathlib
import TypeExport.Source.TextLiteral
import TypeExport.Text.Quoted

/-!
# Text literals are read back

The readable form of a text is a text literal of that text: every piece of it is read as the
character that it was made for, whichever of the two quotes stands around it.
-/

namespace TypeExport

namespace Quoted

theorem hex_succ (width n : Nat) : hex (width + 1) n = hex width (n / 16) ++ [hexDigit (n % 16)] := by
  unfold hex
  rw [List.range_succ_eq_map, List.map_cons, List.reverse_cons, List.map_map]
  congr 2
  · refine List.map_congr_left fun i _ => ?_
    rw [Function.comp_apply, Nat.pow_eq, Nat.pow_eq, Nat.succ_eq_add_one, Nat.pow_succ, Nat.mul_comm,
      Nat.div_div_eq_div_mul]
  · simp

theorem length_hex (width n : Nat) : (hex width n).length = width := by
  simp [hex]

theorem hexValue?_hexDigit : ∀ d < 16, Json.hexValue? (hexDigit d) = some d := by
  decide

theorem hexDigit_ne_null : ∀ d < 16, hexDigit d ≠ '\x00' := by
  decide

/-- The digits of a number are those of its value. -/
theorem mapM_hexValue?_hex (width n : Nat) :
    ∃ ds, (hex width n).mapM Json.hexValue? = some ds ∧
      ds.foldl (fun v d => 16 * v + d) 0 = n % 16 ^ width := by
  induction width generalizing n with
  | zero => exact ⟨[], rfl, by rw [Nat.pow_zero, Nat.mod_one]; rfl⟩
  | succ width ih =>
    obtain ⟨ds, hds, hvalue⟩ := ih (n / 16)
    refine ⟨ds ++ [n % 16], ?_, ?_⟩
    · rw [hex_succ, List.mapM_append, hds]
      simp [hexValue?_hexDigit _ (Nat.mod_lt n (by decide))]
    · rw [List.foldl_append, hvalue, List.foldl_cons, List.foldl_nil, Nat.pow_succ,
        Nat.mul_comm (16 ^ width), Nat.mod_mul]
      omega

end Quoted

namespace TextLiteral

open Quoted

theorem ofHex?_hex {width : Nat} {c : Char} (h : c.toNat < 16 ^ width) :
    ofHex? (hex width c.toNat) = some c := by
  obtain ⟨ds, hds, hvalue⟩ := mapM_hexValue?_hex width c.toNat
  have hvalid : c.toNat.isValidChar := c.valid
  have hlimit : c.toNat < 0x110000 := by
    rcases hvalid with h | h
    · omega
    · exact h.2
  unfold ofHex?
  rw [hds, Option.bind_some, hvalue, Nat.mod_eq_of_lt h]
  simp only [if_pos hlimit, if_pos hvalid, Char.ofNat_toNat]

/-- The body of a literal on one line between quotes `quote`. -/
abbrev shortBody (quote : Char) (fuel : Nat) (s : List Char) : Option (List Char × List Char) :=
  body (fun r => r.head? == some quote) 1 false fuel s

variable {quote : Char}

theorem shortBody_plain {c : Char} (hquote : c ≠ quote) (hslash : c ≠ '\\') (hline : c ≠ '\n')
    (fuel : Nat) (rest : List Char) :
    shortBody quote (fuel + 1) (c :: rest) =
      (shortBody quote fuel rest).map fun (t, r) => (c :: t, r) := by
  unfold shortBody
  rw [body]
  · simp [hquote]
  all_goals simp [hline, hslash]

theorem shortBody_escape {c e : Char} (hquote : quote ≠ '\\') (he : simpleEscape? c = some e)
    (fuel : Nat) (rest : List Char) :
    shortBody quote (fuel + 1) ('\\' :: c :: rest) =
      (shortBody quote fuel rest).map fun (t, r) => (e :: t, r) := by
  have hline : c ≠ '\n' := by
    rintro rfl
    cases he
  unfold shortBody
  rw [body]
  · simp [Ne.symm hquote, he]
  all_goals simp [hline]

/-- A hexadecimal escape is read as its character. -/
theorem shortBody_hex {letter c : Char} {width : Nat} (hquote : quote ≠ '\\')
    (hsimple : simpleEscape? letter = none) (hletter : hexLength? letter = some width)
    (hc : c.toNat < 16 ^ width) (fuel : Nat) (rest : List Char) :
    shortBody quote (fuel + 1) ('\\' :: letter :: (hex width c.toNat ++ rest)) =
      (shortBody quote fuel rest).map fun (t, r) => (c :: t, r) := by
  have hline : letter ≠ '\n' := by
    rintro rfl
    cases hletter
  have htake : (hex width c.toNat ++ rest).take width = hex width c.toNat :=
    List.take_left' (length_hex _ _)
  have hdrop : (hex width c.toNat ++ rest).drop width = rest :=
    List.drop_left' (length_hex _ _)
  have hlength : ¬(hex width c.toNat ++ rest).length < width := by
    rw [List.length_append, length_hex]
    omega
  unfold shortBody
  rw [body]
  · simp only [List.head?_cons, beq_iff_eq, Option.some.injEq, Ne.symm hquote, ↓reduceIte, hsimple,
      hletter, if_neg hlength, htake, hdrop, ofHex?_hex hc]
    cases body (fun r => r.head? == some quote) 1 false fuel rest <;> rfl
  all_goals simp [hline]

/-- Each piece of the readable form is read as the character that it was made for. -/
theorem shortBody_readablePiece (hquote : quote = '\'' ∨ quote = '"') (c : Char) (fuel : Nat)
    (rest : List Char) :
    shortBody quote (fuel + 1) (readablePiece quote c.toNat ++ rest) =
      (shortBody quote fuel rest).map fun (t, r) => (c :: t, r) := by
  have hslash : quote ≠ '\\' := by
    rcases hquote with rfl | rfl <;> decide
  have hcode : ∀ {d : Char}, c.toNat = d.toNat → c = d := fun h => Char.toNat_inj.1 h
  unfold readablePiece
  split
  · rename_i h
    rw [Char.ofNat_toNat]
    refine shortBody_escape hslash ?_ fuel rest
    rcases h with h | h
    · obtain rfl := hcode h
      rcases hquote with rfl | rfl <;> rfl
    · obtain rfl := hcode (d := '\\') h
      rfl
  · rename_i hplain
    rw [not_or] at hplain
    split
    · rename_i h
      obtain rfl := hcode (d := '\t') h
      exact shortBody_escape hslash rfl fuel rest
    · split
      · rename_i h
        obtain rfl := hcode (d := '\n') h
        exact shortBody_escape hslash rfl fuel rest
      · rename_i hline
        split
        · rename_i h
          obtain rfl := hcode (d := '\r') h
          exact shortBody_escape hslash rfl fuel rest
        · split
          · rw [Char.ofNat_toNat]
            refine shortBody_plain ?_ ?_ ?_ fuel rest
            · rintro rfl
              exact hplain.1 rfl
            · rintro rfl
              exact hplain.2 rfl
            · rintro rfl
              exact hline rfl
          · have hlimit : c.toNat < 16 ^ 8 := by
              have hvalid : c.toNat.isValidChar := c.valid
              rcases hvalid with h | h <;> omega
            split
            · exact shortBody_hex hslash rfl rfl (by omega) fuel rest
            · split
              · exact shortBody_hex hslash rfl rfl (by omega) fuel rest
              · exact shortBody_hex hslash rfl rfl hlimit fuel rest

/-- The pieces of a text up to the closing quote are read as the text. -/
theorem shortBody_pieces (hquote : quote = '\'' ∨ quote = '"') (t : List Char) {fuel : Nat}
    (hfuel : t.length < fuel) (rest : List Char) :
    shortBody quote fuel (t.flatMap (fun c => readablePiece quote c.toNat) ++ quote :: rest) =
      some (t, rest) := by
  induction t generalizing fuel with
  | nil =>
    obtain ⟨fuel, rfl⟩ := Nat.exists_eq_succ_of_ne_zero (Nat.ne_of_gt hfuel)
    unfold shortBody
    rw [List.flatMap_nil, List.nil_append, body]
    · simp
    all_goals rcases hquote with rfl | rfl <;> simp
  | cons c t ih =>
    obtain ⟨fuel, rfl⟩ := Nat.exists_eq_succ_of_ne_zero (Nat.ne_of_gt (Nat.zero_lt_of_lt hfuel))
    rw [List.flatMap_cons, List.append_assoc, shortBody_readablePiece hquote,
      ih (Nat.lt_of_succ_lt_succ hfuel)]
    rfl

theorem length_le_pieces (t : List Char) :
    t.length ≤ (t.flatMap fun c => readablePiece quote c.toNat).length := by
  induction t with
  | nil => exact Nat.le_refl _
  | cons c t ih =>
    have hpiece : 1 ≤ (readablePiece quote c.toNat).length := by
      unfold readablePiece
      repeat' split
      all_goals simp
    rw [List.flatMap_cons, List.length_append, List.length_cons]
    omega

/-- The readable form of a text is a literal of it. -/
theorem rest?_pieces (hquote : quote = '\'' ∨ quote = '"') (t rest : List Char) :
    rest? quote (t.flatMap (fun c => readablePiece quote c.toNat) ++ quote :: rest) =
      some (String.ofList t, rest) := by
  unfold rest?
  have hlength : t.length < (t.flatMap (fun c =>
      readablePiece quote c.toNat) ++ quote :: rest).length + 1 := by
    have hle : t.length ≤ (t.flatMap fun c => readablePiece quote c.toNat).length :=
      length_le_pieces t
    rw [List.length_append]
    omega
  have hbody := shortBody_pieces hquote t hlength rest
  unfold shortBody at hbody
  rw [hbody]
  rfl

end TextLiteral

namespace Quoted

def quoteOf (s : String) : Char :=
  quoteFor (s.toList.map Char.toNat)

theorem quoteOf_cases (s : String) : quoteOf s = '\'' ∨ quoteOf s = '"' := by
  unfold quoteOf quoteFor
  split
  · exact .inr rfl
  · exact .inl rfl

theorem readableString_eq (s : String) :
    (readableString s).toList = quoteOf s ::
      (s.toList.flatMap fun c => readablePiece (quoteOf s) c.toNat) ++ [quoteOf s] := by
  unfold readableString readableCodes quoteOf
  rw [String.toList_ofList]
  simp only [List.flatMap_map]

/-- A piece of the readable form does not start with the quote. -/
theorem readablePiece_eq_cons {quote : Char} (hquote : quote = '\'' ∨ quote = '"') (c : Char) :
    ∃ d rest, readablePiece quote c.toNat = d :: rest ∧ d ≠ quote := by
  have hslash : '\\' ≠ quote := by
    rcases hquote with rfl | rfl <;> decide
  unfold readablePiece
  repeat' split
  all_goals first
    | exact ⟨_, _, rfl, hslash⟩
    | skip
  rename_i h _ _ _ _
  rw [Char.ofNat_toNat]
  refine ⟨c, [], rfl, ?_⟩
  rintro rfl
  exact h (.inl rfl)

theorem null_not_mem_hex (width n : Nat) : '\x00' ∉ hex width n := by
  unfold hex
  rw [List.mem_reverse, List.mem_map]
  rintro ⟨i, -, hi⟩
  exact hexDigit_ne_null _ (Nat.mod_lt _ (by decide)) hi

/-- A piece of the readable form holds no null character. -/
theorem null_not_mem_readablePiece {quote : Char} (hquote : quote = '\'' ∨ quote = '"') (c : Char) :
    '\x00' ∉ readablePiece quote c.toNat := by
  unfold readablePiece
  repeat' split
  all_goals simp [null_not_mem_hex]
  · rename_i h
    rintro rfl
    rcases hquote with rfl | rfl <;> revert h <;> decide
  · rename_i h
    rintro rfl
    revert h
    decide

end Quoted

end TypeExport

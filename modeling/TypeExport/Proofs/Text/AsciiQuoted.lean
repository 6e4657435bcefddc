import TypeExport.Json.Reader
import TypeExport.Proofs.Text.Literal
import TypeExport.Proofs.Text.UniqueReading

/-!
# Quoted texts are read back

The ASCII form of a text is a JSON text of it: every piece is read as the character that it was made
for, and those beyond the first plane as a pair of surrogates.  So texts with one ASCII form are the
same.
-/

namespace TypeExport

namespace Json

open Quoted

theorem hexUnit?_hex {n : Nat} (hn : n < 0x10000) :
    ∃ a b c d, hex 4 n = [a, b, c, d] ∧ hexUnit? a b c d = some n := by
  refine ⟨hexDigit (n / 16 / 16 / 16 % 16), hexDigit (n / 16 / 16 % 16), hexDigit (n / 16 % 16),
    hexDigit (n % 16), ?_, ?_⟩
  · simp only [hex_succ]
    rfl
  · have hvalue : ∀ m, hexValue? (hexDigit (m % 16)) = some (m % 16) :=
      fun m => hexValue?_hexDigit _ (Nat.mod_lt m (by decide))
    simp only [hexUnit?, hvalue, Option.bind_eq_bind, Option.bind_some, Option.pure_def,
      Option.some.injEq]
    omega

theorem joinUnits?_of_not_high {high : Nat} (h : high < 0xD800 ∨ 0xDC00 ≤ high) (low : Nat) :
    joinUnits? high low = none := by
  rw [joinUnits?, if_neg]
  omega

/-- A unit that is no first half of a pair is read alone, whatever stands behind it. -/
theorem readText_unit {n : Nat} (hn : n < 0x10000) (halone : n < 0xD800 ∨ 0xDC00 ≤ n)
    (rest : List Char) :
    readText (unit n ++ rest) = (readText rest).map fun (t, r) => (codePoint n :: t, r) := by
  obtain ⟨a, b, c, d, hhex, hunit⟩ := hexUnit?_hex hn
  simp only [unit, hhex, List.cons_append, List.nil_append]
  -- The reader first tries to join the unit with one behind it.
  by_cases hpair : ∃ e f g h behind, rest = '\\' :: 'u' :: e :: f :: g :: h :: behind
  · obtain ⟨e, f, g, h, behind, rfl⟩ := hpair
    rw [readText, hunit]
    have hjoin : (hexUnit? e f g h).bind (joinUnits? n) = none := by
      cases hexUnit? e f g h with
      | none => rfl
      | some low => exact joinUnits?_of_not_high halone low
    simp only [hjoin]
  · rw [readText, hunit]
    intro e f g h behind hrest
    exact hpair ⟨e, f, g, h, behind, hrest⟩

theorem joinUnits?_halves {high low : Nat} (hhigh : high < 0x400) (hlow : low < 0x400) :
    joinUnits? (0xD800 + high) (0xDC00 + low) = some (0x10000 + high * 0x400 + low) := by
  rw [joinUnits?, if_pos (by omega), Nat.add_sub_cancel_left, Nat.add_sub_cancel_left]

/-- Two units that are a pair are read together. -/
theorem readText_pair {high low : Nat} (hhigh : high < 0x400) (hlow : low < 0x400)
    (rest : List Char) :
    readText (unit (0xD800 + high) ++ unit (0xDC00 + low) ++ rest) =
      (readText rest).map fun (t, r) => (codePoint (0x10000 + high * 0x400 + low) :: t, r) := by
  obtain ⟨a, b, c, d, hhex, hunit⟩ := hexUnit?_hex (show 0xD800 + high < 0x10000 by omega)
  obtain ⟨e, f, g, h, hhex', hunit'⟩ := hexUnit?_hex (show 0xDC00 + low < 0x10000 by omega)
  simp only [unit, hhex, hhex', List.cons_append, List.nil_append]
  rw [readText, hunit, hunit']
  simp only [Option.bind_some, joinUnits?_halves hhigh hlow]

theorem readText_escape {c e : Char} (he : escaped? c = some e) (rest : List Char) :
    readText ('\\' :: c :: rest) =
      (readText rest).map fun (t, r) => (CodePoint.ofChar e :: t, r) := by
  have hne : c ≠ 'u' := by
    rintro rfl
    cases he
  rw [readText, he]
  all_goals simp [hne]

theorem readText_plain {c : Char} (hquote : c ≠ '"') (hslash : c ≠ '\\') (hc : 0x20 ≤ c.toNat)
    (rest : List Char) :
    readText (c :: rest) = (readText rest).map fun (t, r) => (CodePoint.ofChar c :: t, r) := by
  rw [readText, if_neg]
  · rintro (h | h)
    · exact hslash h
    · omega
  all_goals simp [hquote, hslash]

theorem codePoint_toNat (c : Char) : codePoint c.toNat = CodePoint.ofChar c := by
  apply Fin.ext
  exact Nat.mod_eq_of_lt (CodePoint.ofChar c).isLt

/-- A piece of the ASCII form is a short escape, the character itself, one unit or a pair. -/
theorem asciiPiece_cases (n : Nat) :
    (∃ d e : Char, n = d.toNat ∧ escaped? e = some d ∧ (0x20 ≤ e.toNat ∧ e.toNat ≤ 0x7E) ∧
      asciiPiece n = ['\\', e]) ∨
    (n ≠ '"'.toNat ∧ n ≠ '\\'.toNat ∧ (0x20 ≤ n ∧ n ≤ 0x7E) ∧ asciiPiece n = [Char.ofNat n]) ∨
    (n < 0x10000 ∧ asciiPiece n = unit n) ∨
    (0x10000 ≤ n ∧
      asciiPiece n =
        unit (0xD800 + (n - 0x10000) / 0x400) ++ unit (0xDC00 + (n - 0x10000) % 0x400)) := by
  unfold asciiPiece
  by_cases hquote : n = 0x22
  · exact .inl ⟨'"', '"', hquote, rfl, by decide, if_pos hquote⟩
  rw [if_neg hquote]
  by_cases hslash : n = 0x5C
  · exact .inl ⟨'\\', '\\', hslash, rfl, by decide, if_pos hslash⟩
  rw [if_neg hslash]
  by_cases hline : n = 0x0A
  · exact .inl ⟨'\n', 'n', hline, rfl, by decide, if_pos hline⟩
  rw [if_neg hline]
  by_cases hreturn : n = 0x0D
  · exact .inl ⟨'\r', 'r', hreturn, rfl, by decide, if_pos hreturn⟩
  rw [if_neg hreturn]
  by_cases htab : n = 0x09
  · exact .inl ⟨'\t', 't', htab, rfl, by decide, if_pos htab⟩
  rw [if_neg htab]
  by_cases hback : n = 0x08
  · exact .inl ⟨'\x08', 'b', hback, rfl, by decide, if_pos hback⟩
  rw [if_neg hback]
  by_cases hform : n = 0x0C
  · exact .inl ⟨'\x0c', 'f', hform, rfl, by decide, if_pos hform⟩
  rw [if_neg hform]
  by_cases hplain : 0x20 ≤ n ∧ n ≤ 0x7E
  · exact .inr (.inl ⟨hquote, hslash, hplain, if_pos hplain⟩)
  rw [if_neg hplain]
  by_cases hfirst : n < 0x10000
  · exact .inr (.inr (.inl ⟨hfirst, if_pos hfirst⟩))
  · exact .inr (.inr (.inr ⟨Nat.le_of_not_lt hfirst, if_neg hfirst⟩))

/-- Each piece of the ASCII form is read as the character that it was made for. -/
theorem readText_asciiPiece (c : Char) (rest : List Char) :
    readText (asciiPiece c.toNat ++ rest) =
      (readText rest).map fun (t, r) => (CodePoint.ofChar c :: t, r) := by
  have hvalid : c.toNat.isValidChar := c.valid
  obtain ⟨d, e, hcode, hescape, -, hpiece⟩ | ⟨hquote, hslash, hplain, hpiece⟩ | ⟨hfirst, hpiece⟩ |
    ⟨hlater, hpiece⟩ := asciiPiece_cases c.toNat
  · obtain rfl := Char.toNat_inj.1 hcode
    rw [hpiece]
    exact readText_escape hescape rest
  · rw [hpiece, Char.ofNat_toNat]
    apply readText_plain
    · exact fun h => hquote (congrArg Char.toNat h)
    · exact fun h => hslash (congrArg Char.toNat h)
    · exact hplain.1
  · rw [hpiece, ← codePoint_toNat]
    apply readText_unit hfirst
    rcases hvalid with h | h
    · exact .inl h
    · exact .inr (by omega)
  · have hlast : c.toNat < 0x110000 := by
      rcases hvalid with h | h
      · omega
      · exact h.2
    have hn : 0x10000 + (c.toNat - 0x10000) / 0x400 * 0x400 + (c.toNat - 0x10000) % 0x400 =
        c.toNat := by
      omega
    rw [hpiece, ← codePoint_toNat, readText_pair (by omega) (by omega), hn]

/-- What stands between the quotes of the ASCII form is the text. -/
theorem readText_ascii (s : String) (rest : List Char) :
    readText ((s.toList.map Char.toNat).flatMap asciiPiece ++ '"' :: rest) =
      some (CodeText.ofString s, rest) := by
  unfold CodeText.ofString
  induction s.toList with
  | nil =>
    rw [List.map_nil, List.flatMap_nil, List.nil_append, readText]
    rfl
  | cons c l ih =>
    rw [List.map_cons, List.flatMap_cons, List.append_assoc, readText_asciiPiece, ih]
    rfl

end Json

namespace Quoted

theorem toList_asciiString (s : String) :
    (asciiString s).toList = '"' :: (s.toList.map Char.toNat).flatMap asciiPiece ++ ['"'] := by
  simp [asciiString, asciiCodes]

/-- The ASCII form of a text ends where its closing quote stands. -/
theorem readsUniquely_asciiString :
    ReadsUniquely (fun _ : String => True) (fun s => (asciiString s).toList) := by
  intro s t _ _ x y h
  simp only [toList_asciiString, List.append_assoc, List.cons_append, List.nil_append] at h
  have hread := Json.readText_ascii s x
  rw [(List.cons.inj h).2, Json.readText_ascii t y] at hread
  obtain ⟨htext, hrest⟩ := Prod.mk.inj (Option.some.inj hread)
  have hstring := CodeText.toString?_ofString s
  rw [← htext, CodeText.toString?_ofString t] at hstring
  exact ⟨(Option.some.inj hstring).symm, hrest.symm⟩

theorem printable_of_mem_hex {width n : Nat} {c : Char} (h : c ∈ hex width n) :
    0x20 ≤ c.toNat ∧ c.toNat ≤ 0x7E := by
  have hdigit : ∀ d < 16, 0x20 ≤ (hexDigit d).toNat ∧ (hexDigit d).toNat ≤ 0x7E := by
    decide
  simp only [hex, List.mem_reverse, List.mem_map] at h
  obtain ⟨i, -, rfl⟩ := h
  exact hdigit _ (Nat.mod_lt _ (by decide))

theorem printable_of_mem_unit {n : Nat} {c : Char} (h : c ∈ unit n) :
    0x20 ≤ c.toNat ∧ c.toNat ≤ 0x7E := by
  rcases List.mem_cons.1 h with rfl | h
  · decide
  · rcases List.mem_cons.1 h with rfl | h
    · decide
    · exact printable_of_mem_hex h

/-- The ASCII form is printable. -/
theorem printable_of_mem_asciiPiece {n : Nat} {c : Char} (h : c ∈ asciiPiece n) :
    0x20 ≤ c.toNat ∧ c.toNat ≤ 0x7E := by
  obtain ⟨d, e, -, -, he, hpiece⟩ | ⟨-, -, hplain, hpiece⟩ | ⟨-, hpiece⟩ | ⟨-, hpiece⟩ :=
    Json.asciiPiece_cases n
  all_goals rw [hpiece] at h
  · rcases List.mem_cons.1 h with rfl | h
    · decide
    · exact List.mem_singleton.1 h ▸ he
  · rw [List.mem_singleton.1 h, Char.toNat_ofNat, if_pos (.inl (by omega))]
    exact hplain
  · exact printable_of_mem_unit h
  · exact (List.mem_append.1 h).elim printable_of_mem_unit printable_of_mem_unit

/-- The ASCII form has printable characters alone. -/
theorem printable_of_mem_asciiString {s : String} {c : Char} (h : c ∈ (asciiString s).toList) :
    0x20 ≤ c.toNat ∧ c.toNat ≤ 0x7E := by
  rw [toList_asciiString] at h
  simp only [List.cons_append, List.mem_cons, List.mem_append, List.mem_flatMap,
    List.not_mem_nil, or_false] at h
  obtain rfl | ⟨n, -, hc⟩ | rfl := h
  · decide
  · exact printable_of_mem_asciiPiece hc
  · decide

/-- The ASCII form has no line break. -/
theorem line_not_mem_asciiString (s : String) : '\n' ∉ (asciiString s).toList := by
  intro h
  have hrange := printable_of_mem_asciiString h
  revert hrange
  decide

end Quoted

end TypeExport

import Mathlib
import TypeExport.Source.Token

/-!
# Decimal digits are read back

The decimal digits of a number make a numeral of it, without a zero in front.
-/

namespace TypeExport

theorem toNat_of_isDigit {c : Char} (h : c.isDigit = true) : 48 ≤ c.toNat ∧ c.toNat ≤ 57 := by
  simp only [Char.isDigit, Bool.and_eq_true, decide_eq_true_eq] at h
  exact h

theorem ne_of_isDigit {c d : Char} (hc : c.isDigit = true) (hd : d.isDigit = false) : c ≠ d := by
  rintro rfl
  rw [hc] at hd
  cases hd

namespace Numeral

theorem decimalValue?_of_isDigit {c : Char} (h : c.isDigit = true) :
    Text.decimalValue? c.toNat = some (c.toNat - 48) := by
  obtain ⟨hlow, hhigh⟩ := toNat_of_isDigit h
  unfold Text.decimalValue? Text.decimalRanges
  rw [List.find?_cons_of_pos (by simp [hlow, hhigh]), Option.map_some]
  exact congrArg some (Nat.mod_eq_of_lt (by omega))

/-- The value of some digits behind a value. -/
def valueOf (value : Nat) (digits : List Char) : Nat :=
  digits.foldl (fun v c => 10 * v + (c.toNat - 48)) value

theorem digitsFrom_of_isDigit {digits : List Char} (h : ∀ c ∈ digits, c.isDigit = true)
    (value : Nat) : digitsFrom value false digits = some (valueOf value digits) := by
  induction digits generalizing value with
  | nil => rfl
  | cons c rest ih =>
    have hc := h c List.mem_cons_self
    rw [digitsFrom]
    · rw [decimalValue?_of_isDigit hc]
      exact ih (fun d hd => h d (List.mem_cons_of_mem _ hd)) _
    · exact ne_of_isDigit hc (by decide)

/-- The digits of a number have its value. -/
theorem valueOf_toDigits (n : Nat) : valueOf 0 (Nat.toDigits 10 n) = n := by
  induction n using Nat.strongRecOn with
  | _ n ih =>
    rw [Nat.toDigits_eq_if (by decide)]
    split
    · rename_i h
      simp only [valueOf, List.foldl_cons, List.foldl_nil, Nat.mul_zero, Nat.zero_add]
      exact Nat.toNat_digitChar_sub_48_of_lt_ten h
    · rename_i h
      have hlast := Nat.toNat_digitChar_sub_48_of_lt_ten (Nat.mod_lt n (by decide : 0 < 10))
      unfold valueOf at ih ⊢
      rw [List.foldl_append, ih (n / 10) (by omega), List.foldl_cons, List.foldl_nil, hlast]
      omega

theorem isDigit_of_mem_toDigits {n : Nat} : ∀ c ∈ Nat.toDigits 10 n, c.isDigit = true :=
  fun _ h => Nat.isDigit_of_mem_toDigits (by decide) (by decide) h

/-- An integer is written with digits and a sign. -/
theorem eq_or_isDigit_of_mem_toString {n : Int} {c : Char} (h : c ∈ (toString n).toList) :
    c = '-' ∨ c.isDigit = true := by
  have hdigits : ∀ m : Nat, c ∈ (toString m).toList → c.isDigit = true := by
    intro m hm
    rw [Nat.toString_eq_ofList_toDigits, String.toList_ofList] at hm
    exact isDigit_of_mem_toDigits c hm
  cases n with
  | ofNat n => exact .inr (hdigits n h)
  | negSucc n =>
    have hsign : c ∈ ("-" ++ toString (n + 1)).toList := h
    rw [String.toList_append, List.mem_append] at hsign
    rcases hsign with hc | hc
    · exact .inl (List.mem_singleton.1 hc)
    · exact .inr (hdigits (n + 1) hc)

theorem toDigits_eq_cons (n : Nat) :
    ∃ c rest, Nat.toDigits 10 n = c :: rest ∧ c.isDigit = true ∧ ∀ d ∈ rest, d.isDigit = true := by
  have hall := isDigit_of_mem_toDigits (n := n)
  cases h : Nat.toDigits 10 n with
  | nil => exact absurd h Nat.toDigits_ne_nil
  | cons c rest =>
    rw [h] at hall
    exact ⟨c, rest, rfl, hall c List.mem_cons_self, fun d hd => hall d (List.mem_cons_of_mem _ hd)⟩

theorem head?_toDigits {n : Nat} (h : n ≠ 0) : (Nat.toDigits 10 n).head? ≠ some '0' := by
  induction n using Nat.strongRecOn with
  | _ n ih =>
    rw [Nat.toDigits_eq_if (by decide)]
    split
    · simpa using h
    · rename_i hbig
      rw [List.head?_append_of_ne_nil _ Nat.toDigits_ne_nil]
      exact ih (n / 10) (by omega) (by omega)

theorem not_isBlank_of_isDigit {c : Char} (h : c.isDigit = true) :
    Text.isBlank c.toNat = false := by
  obtain ⟨hlow, hhigh⟩ := toNat_of_isDigit h
  simp only [Text.isBlank, Text.blankRanges, Text.Ranges.contains, List.any_cons, List.any_nil,
    Bool.or_false, Bool.or_eq_false_iff, Bool.and_eq_false_iff, decide_eq_false_iff_not]
  omega

/-- There are no blanks around digits. -/
theorem trimBlanks_of_isDigit {digits : List Char} (h : ∀ c ∈ digits, c.isDigit = true) :
    trimBlanks digits = digits := by
  have hkeep : ∀ {l : List Char}, (∀ c ∈ l, c.isDigit = true) →
      l.dropWhile (fun c => Text.isBlank c.toNat) = l := by
    intro l hl
    cases l with
    | nil => rfl
    | cons c l =>
      rw [List.dropWhile_cons_of_neg]
      rw [not_isBlank_of_isDigit (hl c List.mem_cons_self)]
      decide
  unfold trimBlanks
  dsimp only
  rw [hkeep h, hkeep fun c hc => h c (List.mem_reverse.1 hc), List.reverse_reverse]

/-- The digits of a number are read as the number. -/
theorem readInt?_toDigits (n : Nat) :
    readInt? (String.ofList (Nat.toDigits 10 n)) = some (n : Int) := by
  unfold readInt?
  rw [String.toList_ofList, trimBlanks_of_isDigit isDigit_of_mem_toDigits]
  have hvalue := valueOf_toDigits n
  obtain ⟨c, rest, hdigits, hc, hrest⟩ := toDigits_eq_cons n
  rw [hdigits] at hvalue ⊢
  have hsign : splitSign (c :: rest) = (false, c :: rest) := by
    unfold splitSign
    split
    · rename_i heq
      cases heq
      exact absurd hc (by decide)
    · rename_i heq
      cases heq
      exact absurd hc (by decide)
    · rfl
  have hread : digitsFrom 0 true (c :: rest) = some n := by
    rw [digitsFrom]
    · rw [decimalValue?_of_isDigit hc]
      refine (digitsFrom_of_isDigit hrest _).trans ?_
      rw [← hvalue]
      rfl
    · exact ne_of_isDigit hc (by decide)
  rw [hsign]
  simp [hread]

end Numeral

namespace SourceToken

open Numeral

theorem numeral?_toDigits (n : Nat) : numeral? (Nat.toDigits 10 n) = some (.int n) := by
  unfold numeral?
  dsimp only
  rw [readInt?_toDigits]
  by_cases h : n = 0
  · simp [h]
  · simp [head?_toDigits h]

theorem numeralLength_digits {before : Char} {digits : List Char}
    (h : ∀ c ∈ digits, c.isDigit = true) (rest : List Char) :
    numeralLength before (digits ++ '\n' :: rest) = digits.length := by
  induction digits generalizing before with
  | nil => simp [numeralLength, Char.isAlphanum]
  | cons c digits ih =>
    have hc := h c List.mem_cons_self
    rw [List.cons_append, numeralLength, ih fun d hd => h d (List.mem_cons_of_mem _ hd)]
    simp [Char.isAlphanum, hc]

end SourceToken

end TypeExport

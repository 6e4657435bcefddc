import Mathlib
import TypeExport.Name.Case
import TypeExport.Source.Token

/-!
# ASCII words

An ASCII word begins with a letter and goes on with letters, digits and low lines.  The change of
case and the low lines between the words of a name make an ASCII word of an ASCII word.
-/

namespace TypeExport

/-- A character of a word behind the first one. -/
def IsWordChar (c : Char) : Prop :=
  c.isAlphanum = true ∨ c = '_'

instance (c : Char) : Decidable (IsWordChar c) :=
  inferInstanceAs (Decidable (c.isAlphanum = true ∨ c = '_'))

theorem isWordChar_of_all {s : List Char} (h : s.all (fun c => decide (IsWordChar c)) = true) :
    ∀ c ∈ s, IsWordChar c :=
  fun c hc => of_decide_eq_true (List.all_eq_true.1 h c hc)

/-- A letter, and then letters, digits and low lines. -/
structure IsAsciiWord (s : List Char) : Prop where
  head : ∃ c ∈ s.head?, c.isAlpha = true
  all : ∀ c ∈ s, IsWordChar c

theorem IsAsciiWord.exists_cons {s : List Char} (h : IsAsciiWord s) :
    ∃ c rest, s = c :: rest ∧ c.isAlpha = true ∧ ∀ d ∈ rest, IsWordChar d := by
  obtain ⟨c, hc, halpha⟩ := h.head
  cases s with
  | nil => cases hc
  | cons d rest =>
    cases hc
    exact ⟨c, rest, rfl, halpha, fun d hd => h.all d (List.mem_cons_of_mem _ hd)⟩

theorem isAsciiWord_cons {c : Char} {rest : List Char} (hc : c.isAlpha = true)
    (hrest : ∀ d ∈ rest, IsWordChar d) : IsAsciiWord (c :: rest) where
  head := ⟨c, rfl, hc⟩
  all := by
    intro d hd
    rcases List.mem_cons.1 hd with rfl | hd
    · left
      unfold Char.isAlphanum
      rw [hc]
      rfl
    · exact hrest d hd

theorem toNat_of_isAlpha {c : Char} (h : c.isAlpha = true) :
    65 ≤ c.toNat ∧ c.toNat ≤ 90 ∨ 97 ≤ c.toNat ∧ c.toNat ≤ 122 := by
  simp only [Char.isAlpha, Char.isUpper, Char.isLower, Bool.or_eq_true, Bool.and_eq_true,
    decide_eq_true_eq] at h
  exact h

theorem toNat_of_isWordChar {c : Char} (h : IsWordChar c) :
    65 ≤ c.toNat ∧ c.toNat ≤ 90 ∨ 97 ≤ c.toNat ∧ c.toNat ≤ 122 ∨ 48 ≤ c.toNat ∧ c.toNat ≤ 57 ∨
      c.toNat = 95 := by
  rcases h with h | rfl
  · simp only [Char.isAlphanum, Bool.or_eq_true] at h
    rcases h with h | h
    · have := toNat_of_isAlpha h
      omega
    · simp only [Char.isDigit, Bool.and_eq_true, decide_eq_true_eq] at h
      exact .inr (.inr (.inl h))
  · exact .inr (.inr (.inr rfl))

theorem IsWordChar.ne {c d : Char} (hc : IsWordChar c) (hd : ¬IsWordChar d) : c ≠ d := by
  rintro rfl
  exact hd hc

theorem not_mem_of_isWordChar {s : List Char} {d : Char} (hs : ∀ c ∈ s, IsWordChar c)
    (hd : ¬IsWordChar d) : d ∉ s :=
  fun hmem => hd (hs d hmem)

namespace SourceToken

theorem startsWord_of_isAlpha {c : Char} (h : c.isAlpha = true) : startsWord c = true := by
  have hcode := toNat_of_isAlpha h
  unfold startsWord Text.startsIdentifier Text.isLetter
  rw [if_pos (by omega), if_pos (by omega)]
  simp only [Bool.or_eq_true, Bool.and_eq_true, decide_eq_true_eq]
  exact .inl hcode

theorem continuesWord_of_isWordChar {c : Char} (h : IsWordChar c) : continuesWord c = true := by
  have hcode := toNat_of_isWordChar h
  unfold continuesWord Text.continuesIdentifier Text.isAlphanumeric Text.isLetter Text.isNumber
  rw [if_pos (by omega), if_pos (by omega), if_pos (by omega)]
  simp only [Bool.or_eq_true, Bool.and_eq_true, decide_eq_true_eq, beq_iff_eq]
  omega

end SourceToken

namespace Text

/-- The lower case of a word character is one, and that of a letter is a letter. -/
theorem lowerChar_of_isWordChar {c : Char} (h : IsWordChar c) :
    ∃ d, lowerChar c = [d] ∧ IsWordChar d ∧ (c.isAlpha = true → d.isAlpha = true) := by
  have hcode := toNat_of_isWordChar h
  have hall : ∀ n < 128, IsWordChar (Char.ofNat n) →
      ∃ d, lowerChar (Char.ofNat n) = [d] ∧ IsWordChar d ∧
        ((Char.ofNat n).isAlpha = true → d.isAlpha = true) := by
    intro n hn hword
    refine ⟨Char.ofNat (if 65 ≤ n ∧ n ≤ 90 then n + 32 else n), ?_, ?_⟩
    · revert n
      decide
    · revert n
      decide
  have hc := hall c.toNat (by omega)
  rw [Char.ofNat_toNat] at hc
  exact hc h

theorem lowerFrom_of_isWordChar {before s : List Char} (h : ∀ c ∈ s, IsWordChar c) :
    lowerFrom before s = s.flatMap lowerChar := by
  induction s generalizing before with
  | nil => rfl
  | cons c rest ih =>
    have hsigma : c ≠ 'Σ' := (h c List.mem_cons_self).ne (by decide)
    rw [lowerFrom, if_neg hsigma, ih fun d hd => h d (List.mem_cons_of_mem _ hd), List.flatMap_cons]

theorem isWordChar_of_mem_lower {s : List Char} (h : ∀ c ∈ s, IsWordChar c) :
    ∀ d ∈ s.flatMap lowerChar, IsWordChar d := by
  intro d hd
  obtain ⟨c, hc, hd⟩ := List.mem_flatMap.1 hd
  obtain ⟨e, he, hword, -⟩ := lowerChar_of_isWordChar (h c hc)
  rw [he, List.mem_singleton] at hd
  rw [hd]
  exact hword

theorem isAsciiWord_lower {s : List Char} (h : IsAsciiWord s) :
    IsAsciiWord (lower (String.ofList s)).toList := by
  unfold lower
  rw [String.toList_ofList, String.toList_ofList, lowerFrom_of_isWordChar h.all]
  have hall := isWordChar_of_mem_lower h.all
  obtain ⟨c, rest, rfl, halpha, -⟩ := h.exists_cons
  obtain ⟨d, hd, -, hletter⟩ := lowerChar_of_isWordChar (h.all c List.mem_cons_self)
  refine ⟨⟨d, ?_, hletter halpha⟩, hall⟩
  rw [List.flatMap_cons, hd]
  rfl

end Text

namespace Name

theorem head?_partAcronyms (s : List Char) : (partAcronyms s).head? = s.head? := by
  fun_cases partAcronyms s with
  | case1 a b c rest h => rfl
  | case2 a b c rest h => rfl
  | case3 s h => rfl

/-- Parting acronyms adds low lines alone. -/
theorem mem_partAcronyms {s : List Char} {d : Char} (h : d ∈ partAcronyms s) :
    d ∈ s ∨ d = '_' := by
  fun_induction partAcronyms s with
  | case1 a b c rest hsplit ih =>
    rcases List.mem_cons.1 h with rfl | h
    · exact .inl List.mem_cons_self
    · rcases List.mem_cons.1 h with rfl | h
      · exact .inr rfl
      · exact (ih h).imp_left (List.mem_cons_of_mem _)
  | case2 a b c rest hsplit ih =>
    rcases List.mem_cons.1 h with rfl | h
    · exact .inl List.mem_cons_self
    · exact (ih h).imp_left (List.mem_cons_of_mem _)
  | case3 s hshort => exact .inl h

theorem head?_partWords (s : List Char) : (partWords s).head? = s.head? := by
  fun_cases partWords s with
  | case1 a b rest h => rfl
  | case2 a b rest h => rfl
  | case3 s h => rfl

/-- Parting words adds low lines alone. -/
theorem mem_partWords {s : List Char} {d : Char} (h : d ∈ partWords s) : d ∈ s ∨ d = '_' := by
  fun_induction partWords s with
  | case1 a b rest hsplit ih =>
    rcases List.mem_cons.1 h with rfl | h
    · exact .inl List.mem_cons_self
    · rcases List.mem_cons.1 h with rfl | h
      · exact .inr rfl
      · exact (ih h).imp_left (List.mem_cons_of_mem _)
  | case2 a b rest hsplit ih =>
    rcases List.mem_cons.1 h with rfl | h
    · exact .inl List.mem_cons_self
    · exact (ih h).imp_left (List.mem_cons_of_mem _)
  | case3 s hshort => exact .inl h

/-- A word stays one when its parts are taken apart. -/
theorem isAsciiWord_parted {s : List Char} (h : IsAsciiWord s) :
    IsAsciiWord (partWords (partAcronyms s)) where
  head := by
    rw [head?_partWords, head?_partAcronyms]
    exact h.head
  all := by
    intro d hd
    rcases mem_partWords hd with hd | rfl
    · rcases mem_partAcronyms hd with hd | rfl
      · exact h.all d hd
      · exact .inr rfl
    · exact .inr rfl

/-- The file of the module of an enum has an ASCII word for its stem. -/
theorem moduleFile_of_isAsciiWord {name : String} (h : IsAsciiWord name.toList) :
    ∃ stem : String, IsAsciiWord stem.toList ∧ moduleFile name = stem ++ ".py" :=
  ⟨_, Text.isAsciiWord_lower (isAsciiWord_parted h), rfl⟩

theorem isAsciiWord_fileBase {name : String} (h : IsAsciiWord name.toList) :
    IsAsciiWord (fileBase name).toList := by
  unfold fileBase camel
  rw [String.toList_ofList]
  have hall := h.all
  obtain ⟨c, rest, hname, halpha, hrest⟩ := h.exists_cons
  rw [hname] at hall ⊢
  obtain ⟨d, hd, -, hletter⟩ := Text.lowerChar_of_isWordChar (hall c List.mem_cons_self)
  rw [lowerFirst, hd]
  exact isAsciiWord_cons (hletter halpha) hrest

end Name

end TypeExport

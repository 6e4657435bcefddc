import Mathlib
import TypeExport.Name.Case

/-!
# Lower case and marks

No letter becomes a digit or a mark in lower case, and no code point outside ASCII does.  So the
lower case of a text holds a slash or a line break only if the text does.
-/

namespace TypeExport

namespace Text

/-- A code point below the letters is in no other lower case than its own. -/
theorem not_mem_lowerCode {c d : Nat} (hd : d < 65) (h : c ≠ d) : d ∉ lowerCode c := by
  have hruns : lowerRuns.all (fun run => decide (65 ≤ (run.first : Int) + run.shift)) = true := by
    decide +kernel
  have hexpansions : lowerExpansions.all (fun e => e.2.all fun code => decide (65 ≤ code)) = true := by
    decide +kernel
  unfold lowerCode
  split
  · rw [List.mem_singleton]
    simp only [Bool.and_eq_true, decide_eq_true_eq]
    split <;> omega
  · unfold mapCase
    split
    · rename_i image himage
      obtain ⟨run, hrun, himage⟩ := List.exists_of_findSome?_eq_some himage
      have hlow := of_decide_eq_true (List.all_eq_true.1 hruns run hrun)
      unfold CaseRun.image? at himage
      split at himage
      · rename_i hc
        simp only [Bool.and_eq_true, decide_eq_true_eq] at hc
        cases himage
        rw [List.mem_singleton]
        omega
      · cases himage
    · cases hlookup : lowerExpansions.lookup c with
      | none => simpa using h.symm
      | some codes =>
        obtain ⟨before, after, hentry, -⟩ := List.lookup_eq_some_iff.1 hlookup
        have hmem : (c, codes) ∈ lowerExpansions := by simp [hentry]
        intro hcode
        have hlow := of_decide_eq_true
          (List.all_eq_true.1 (List.all_eq_true.1 hexpansions _ hmem) d hcode)
        omega

/-- A character below the letters; the null character is left out. -/
def IsBelowLetters (d : Char) : Prop :=
  0 < d.toNat ∧ d.toNat < 65

instance (d : Char) : Decidable (IsBelowLetters d) :=
  inferInstanceAs (Decidable (_ ∧ _))

theorem not_mem_lowerChar {c d : Char} (hd : IsBelowLetters d) (h : c ≠ d) : d ∉ lowerChar c := by
  intro hmem
  obtain ⟨n, hn, hchar⟩ := List.mem_map.1 hmem
  have hcode : n = d.toNat := by
    have hnumber := congrArg Char.toNat hchar
    rw [Char.toNat_ofNat] at hnumber
    split at hnumber
    · exact hnumber
    · exact absurd hnumber.symm (Nat.ne_of_gt hd.1)
  refine not_mem_lowerCode hd.2 (fun hsame => h ?_) (hcode ▸ hn)
  rw [← Char.ofNat_toNat c, hsame, Char.ofNat_toNat]

/-- Lower case brings no character that sorts below the letters. -/
theorem not_mem_lowerFrom {d : Char} (hd : IsBelowLetters d) {before s : List Char} (h : d ∉ s) :
    d ∉ lowerFrom before s := by
  induction s generalizing before with
  | nil => exact List.not_mem_nil
  | cons c rest ih =>
    rw [List.mem_cons, not_or] at h
    rw [lowerFrom, List.mem_append, not_or]
    refine ⟨?_, ih h.2⟩
    split
    · split
      · rintro hmem
        rw [List.mem_singleton.1 hmem] at hd
        exact absurd hd.2 (by decide)
      · rintro hmem
        rw [List.mem_singleton.1 hmem] at hd
        exact absurd hd.2 (by decide)
    · exact not_mem_lowerChar hd (Ne.symm h.1)

end Text

/-- The stem of the file of a target holds a mark only if the target does. -/
theorem Name.not_mem_fileBase {target : String} {d : Char} (hd : Text.IsBelowLetters d)
    (h : d ∉ target.toList) : d ∉ (fileBase target).toList := by
  unfold fileBase camel
  rw [String.toList_ofList]
  cases hlist : target.toList with
  | nil => exact List.not_mem_nil
  | cons c rest =>
    rw [hlist, List.mem_cons, not_or] at h
    rw [lowerFirst, List.mem_append, not_or]
    exact ⟨Text.not_mem_lowerChar hd (Ne.symm h.1), h.2⟩

end TypeExport

import Mathlib
import TypeExport.Text.Case
import TypeExport.Text.Classes

/-!
# Upper case of the parts of identifiers

A letter or number that has an upper case starts identifiers and is no digit, and so is what its upper
case begins with; what follows continues identifiers.  So upper case never decides whether a word is an
identifier.  The tables are compared as sets of code points, each of which is the set of the bits of a
number.
-/

namespace TypeExport.Text

/-- The number whose bits are the code points of ranges. -/
def Ranges.mask (ranges : Ranges) : Nat :=
  ranges.foldr (fun r set => (2 ^ (r.2 + 1 - r.1) - 1) <<< r.1 ||| set) 0

/-- The mask of some ranges has the bits of the code points in them. -/
theorem Ranges.testBit_mask (ranges : Ranges) (n : Nat) :
    (Ranges.mask ranges).testBit n = ranges.contains n := by
  induction ranges with
  | nil => simp [mask, contains]
  | cons r ranges ih =>
    have hmask : Ranges.mask (r :: ranges) =
        (2 ^ (r.2 + 1 - r.1) - 1) <<< r.1 ||| Ranges.mask ranges := rfl
    have hrun : (decide (n ≥ r.1) && decide (n - r.1 < r.2 + 1 - r.1)) =
        (decide (r.1 ≤ n) && decide (n ≤ r.2)) := by
      rw [Bool.eq_iff_iff]
      simp only [Bool.and_eq_true, decide_eq_true_eq]
      omega
    rw [hmask, Nat.testBit_or, Nat.testBit_shiftLeft, Nat.testBit_two_pow_sub_one, ih, hrun]
    rfl

theorem testBit_of_subset {a b n : Nat} (h : a &&& b = a) (hn : a.testBit n = true) :
    b.testBit n = true := by
  rw [← h, Nat.testBit_and, Bool.and_eq_true] at hn
  exact hn.2

theorem testBit_of_disjoint {a b n : Nat} (h : a &&& b = 0) (hn : b.testBit n = true) :
    a.testBit n = false := by
  have hand := Nat.testBit_and a b n
  rw [h, Nat.zero_testBit, hn, Bool.and_true] at hand
  exact hand.symm

variable {n : Nat}

/-!
## The classes by their tables
-/

theorem isLetter_eq (n : Nat) : isLetter n = letterRanges.contains n := by
  have hsmall : ∀ k < 128, isLetter k = (Ranges.mask letterRanges).testBit k := by decide +kernel
  by_cases hn : n < 128
  · rw [hsmall n hn, Ranges.testBit_mask]
  · rw [isLetter, if_neg hn]

theorem isNumber_eq (n : Nat) : isNumber n = numberRanges.contains n := by
  have hsmall : ∀ k < 128, isNumber k = (Ranges.mask numberRanges).testBit k := by decide +kernel
  by_cases hn : n < 128
  · rw [hsmall n hn, Ranges.testBit_mask]
  · rw [isNumber, if_neg hn]

theorem isDigit_eq (n : Nat) : isDigit n = digitRanges.contains n := by
  have hsmall : ∀ k < 128, isDigit k = (Ranges.mask digitRanges).testBit k := by decide +kernel
  by_cases hn : n < 128
  · rw [hsmall n hn, Ranges.testBit_mask]
  · rw [isDigit, if_neg hn]

theorem startsIdentifier_eq (n : Nat) : startsIdentifier n =
    (isLetter n && !nonStartLetterRanges.contains n || extraStartRanges.contains n) := by
  have hsmall : ∀ k < 128, startsIdentifier k =
      (isLetter k && !nonStartLetterRanges.contains k || extraStartRanges.contains k) := by
    decide +kernel
  by_cases hn : n < 128
  · exact hsmall n hn
  · rw [startsIdentifier, if_neg hn]

theorem continuesIdentifier_of_starts (h : startsIdentifier n = true) :
    continuesIdentifier n = true := by
  have hsmall : ∀ k < 128, startsIdentifier k = true → continuesIdentifier k = true := by decide
  by_cases hn : n < 128
  · exact hsmall n hn h
  · rw [continuesIdentifier, if_neg hn, h, Bool.true_or]

theorem continuesIdentifier_of_extra (h : extraContinueRanges.contains n = true) :
    continuesIdentifier n = true := by
  have hsmall : ∀ k < 128, (Ranges.mask extraContinueRanges).testBit k = true →
      continuesIdentifier k = true := by
    decide +kernel
  by_cases hn : n < 128
  · exact hsmall n hn (by rw [Ranges.testBit_mask, h])
  · rw [continuesIdentifier, if_neg hn, h, Bool.or_true]

/-!
## Initials
-/

/-- The letters and numbers. -/
def wordSet : Nat :=
  Ranges.mask letterRanges ||| Ranges.mask numberRanges

/-- The letters and numbers that start identifiers. -/
def starterSet : Nat :=
  (Ranges.mask letterRanges ^^^ (Ranges.mask letterRanges &&& Ranges.mask nonStartLetterRanges)) |||
    Ranges.mask extraStartRanges

/-- The code points that start identifiers and are no digits. -/
def initialSet : Nat :=
  starterSet ^^^ (starterSet &&& Ranges.mask digitRanges)

/-- A code point that starts identifiers and is no digit. -/
structure IsInitial (n : Nat) : Prop where
  starts : startsIdentifier n = true
  notDigit : isDigit n = false
  valid : n.isValidChar

theorem testBit_wordSet (n : Nat) : wordSet.testBit n = isAlphanumeric n := by
  unfold wordSet
  rw [Nat.testBit_or, Ranges.testBit_mask, Ranges.testBit_mask, isAlphanumeric, isLetter_eq,
    isNumber_eq]

theorem testBit_starterSet (n : Nat) : starterSet.testBit n = startsIdentifier n := by
  unfold starterSet
  rw [Nat.testBit_or, Nat.testBit_xor, Nat.testBit_and, Ranges.testBit_mask, Ranges.testBit_mask,
    Ranges.testBit_mask, startsIdentifier_eq, isLetter_eq]
  cases letterRanges.contains n <;> cases nonStartLetterRanges.contains n <;> rfl

theorem startsIdentifier_of_isBlank {n : Nat} (h : isBlank n = true) :
    startsIdentifier n = false := by
  have hdisjoint : starterSet &&& Ranges.mask blankRanges = 0 := by
    decide +kernel
  rw [isBlank, ← Ranges.testBit_mask] at h
  rw [← testBit_starterSet]
  exact testBit_of_disjoint hdisjoint h

/-- The set of initials holds only such code points. -/
theorem isInitial_of_testBit (h : initialSet.testBit n = true) : IsInitial n := by
  have hscalar : initialSet &&& Ranges.mask [(0, 0xD7FF), (0xE000, 0x10FFFF)] = initialSet := by
    decide +kernel
  have hvalid := testBit_of_subset hscalar h
  rw [Ranges.testBit_mask, Ranges.contains_iff] at hvalid
  unfold initialSet at h
  rw [Nat.testBit_xor, Nat.testBit_and, testBit_starterSet, Ranges.testBit_mask, ← isDigit_eq] at h
  refine ⟨?_, ?_, ?_⟩
  · cases hstarts : startsIdentifier n with
    | true => rfl
    | false => rw [hstarts] at h; cases h
  · cases hdigit : isDigit n with
    | false => rfl
    | true => rw [hdigit] at h; cases hstarts : startsIdentifier n <;> rw [hstarts] at h <;> cases h
  · unfold Nat.isValidChar
    simp at hvalid
    omega

/-!
## Images of letters and numbers
-/

/-- The runs of upper case whose code points are letters or numbers. -/
def wordRuns : List CaseRun :=
  upperRuns.filter fun run => wordSet.testBit run.first

/-- The images of a run, one by one. -/
def CaseRun.images (run : CaseRun) : Ranges :=
  (List.range (run.last + 1 - run.first)).filterMap fun k =>
    (run.image? (run.first + k)).map fun d => (d, d)

/-- The code points of runs. -/
def sources (runs : List CaseRun) : Ranges :=
  runs.map fun run => (run.first, run.last)

theorem sources_wordRuns :
    Ranges.mask (sources wordRuns) &&& initialSet = Ranges.mask (sources wordRuns) := by
  decide +kernel

theorem images_wordRuns : Ranges.mask (wordRuns.flatMap CaseRun.images) &&& initialSet =
    Ranges.mask (wordRuns.flatMap CaseRun.images) := by
  decide +kernel

/-- The other runs hold no letter and no number. -/
theorem sources_otherRuns :
    Ranges.mask (sources (upperRuns.filter fun run => !wordSet.testBit run.first)) &&& wordSet = 0 := by
  decide +kernel

/-- What has more than one code point for its upper case is an initial, and its upper case begins with
one and goes on in an identifier. -/
theorem upperExpansions_spec : upperExpansions.all (fun entry => initialSet.testBit entry.1 &&
    match entry.2 with
    | d :: rest => initialSet.testBit d && rest.all fun e =>
      e < 0xD800 && (initialSet.testBit e || extraContinueRanges.contains e)
    | [] => false) = true := by
  decide +kernel

/-- A run maps the code points inside it, and to its images. -/
theorem CaseRun.image?_spec {run : CaseRun} {d : Nat} (h : run.image? n = some d) :
    run.first ≤ n ∧ n ≤ run.last ∧ run.images.contains d = true := by
  have hbounds : run.first ≤ n ∧ n ≤ run.last := by
    unfold CaseRun.image? at h
    split at h
    · rename_i hrun
      simp only [Bool.and_eq_true, decide_eq_true_eq] at hrun
      exact hrun.1
    · cases h
  refine ⟨hbounds.1, hbounds.2, (Ranges.contains_iff _ _).2 ⟨(d, d), ?_, Nat.le_refl d, Nat.le_refl d⟩⟩
  refine List.mem_filterMap.2 ⟨n - run.first, List.mem_range.2 (by omega), ?_⟩
  rw [Nat.add_sub_cancel' hbounds.1, h]
  rfl

/-- A letter or number in a run of upper case is an initial, and so is its image. -/
theorem isInitial_of_image? {run : CaseRun} (hrun : run ∈ upperRuns) {d : Nat}
    (hd : run.image? n = some d) (hn : isAlphanumeric n = true) : IsInitial n ∧ IsInitial d := by
  obtain ⟨hfirst, hlast, himage⟩ := run.image?_spec hd
  have hsource : ∀ runs : List CaseRun, run ∈ runs → (Ranges.mask (sources runs)).testBit n = true := by
    intro runs hmem
    rw [Ranges.testBit_mask, Ranges.contains_iff]
    exact ⟨_, List.mem_map_of_mem hmem, hfirst, hlast⟩
  cases hword : wordSet.testBit run.first with
  | true =>
    have hmem : run ∈ wordRuns := List.mem_filter.2 ⟨hrun, hword⟩
    refine ⟨isInitial_of_testBit (testBit_of_subset sources_wordRuns (hsource _ hmem)),
      isInitial_of_testBit (testBit_of_subset images_wordRuns ?_)⟩
    obtain ⟨r, hr, hbounds⟩ := (Ranges.contains_iff _ _).1 himage
    rw [Ranges.testBit_mask, Ranges.contains_iff]
    exact ⟨r, List.mem_flatMap.2 ⟨run, hmem, hr⟩, hbounds⟩
  | false =>
    have hmem : run ∈ upperRuns.filter fun run => !wordSet.testBit run.first :=
      List.mem_filter.2 ⟨hrun, by rw [hword]; rfl⟩
    have hboth := congrArg (Nat.testBit · n) sources_otherRuns
    rw [Nat.testBit_and, hsource _ hmem, testBit_wordSet, hn, Nat.zero_testBit] at hboth
    cases hboth

/-- The upper case of a letter or number is that itself, or both begin identifiers. -/
theorem upperCode_cases (hn : isAlphanumeric n = true) :
    upperCode n = [n] ∨ IsInitial n ∧ ∃ d rest, upperCode n = d :: rest ∧ IsInitial d ∧
      ∀ e ∈ rest, continuesIdentifier e = true ∧ e.isValidChar := by
  by_cases hsmall : n < 128
  · by_cases hlower : 97 ≤ n ∧ n ≤ 122
    · have hinitial : ∀ k < 128, 65 ≤ k ∧ k ≤ 90 ∨ 97 ≤ k ∧ k ≤ 122 → initialSet.testBit k = true := by
        decide +kernel
      refine .inr ⟨isInitial_of_testBit (hinitial n hsmall (.inr hlower)), n - 32, [], ?_,
        isInitial_of_testBit (hinitial (n - 32) (by omega) (.inl (by omega))), nofun⟩
      rw [upperCode, if_pos hsmall, if_pos (by simpa using hlower)]
    · left
      rw [upperCode, if_pos hsmall, if_neg (by simpa using hlower)]
  · rw [upperCode, if_neg hsmall, mapCase]
    cases hfound : upperRuns.findSome? (·.image? n) with
    | some d =>
      obtain ⟨run, hrun, hd⟩ := List.exists_of_findSome?_eq_some hfound
      obtain ⟨hinitial, himage⟩ := isInitial_of_image? hrun hd hn
      exact .inr ⟨hinitial, d, [], rfl, himage, nofun⟩
    | none =>
      cases hlookup : upperExpansions.lookup n with
      | none => exact .inl rfl
      | some image =>
        have hmem : (n, image) ∈ upperExpansions := by
          obtain ⟨before, after, hsplit, -⟩ := List.lookup_eq_some_iff.1 hlookup
          rw [hsplit]
          exact List.mem_append_right _ List.mem_cons_self
        have hentry := List.all_eq_true.1 upperExpansions_spec _ hmem
        rw [Bool.and_eq_true] at hentry
        refine .inr ⟨isInitial_of_testBit hentry.1, ?_⟩
        cases image with
        | nil => cases hentry.2
        | cons d rest =>
          have himage := Bool.and_eq_true_iff.1 hentry.2
          refine ⟨d, rest, rfl, isInitial_of_testBit himage.1, fun e he => ?_⟩
          have hpart := List.all_eq_true.1 himage.2 e he
          rw [Bool.and_eq_true, Bool.or_eq_true, decide_eq_true_eq] at hpart
          refine ⟨?_, .inl hpart.1⟩
          rcases hpart.2 with hinitial | hextra
          · exact continuesIdentifier_of_starts (isInitial_of_testBit hinitial).starts
          · exact continuesIdentifier_of_extra hextra

theorem toNat_ofNat_of_valid (h : n.isValidChar) : (Char.ofNat n).toNat = n := by
  rw [Char.ofNat, dif_pos h]
  rfl

/-- The same for characters. -/
theorem upperChar_cases {c : Char} (hc : isAlphanumeric c.toNat = true) :
    upperChar c = [c] ∨ IsInitial c.toNat ∧ ∃ d rest, upperChar c = d :: rest ∧
      IsInitial d.toNat ∧ ∀ e ∈ rest, continuesIdentifier e.toNat = true := by
  unfold upperChar
  rcases upperCode_cases hc with hsame | ⟨hinitial, d, rest, hupper, hd, hrest⟩
  · left
    rw [hsame, List.map_singleton, Char.ofNat_toNat]
  · refine .inr ⟨hinitial, Char.ofNat d, rest.map Char.ofNat, by rw [hupper]; rfl, ?_, fun e he => ?_⟩
    · rw [toNat_ofNat_of_valid hd.valid]
      exact hd
    · obtain ⟨k, hk, rfl⟩ := List.mem_map.1 he
      rw [toNat_ofNat_of_valid (hrest k hk).2]
      exact (hrest k hk).1

end TypeExport.Text

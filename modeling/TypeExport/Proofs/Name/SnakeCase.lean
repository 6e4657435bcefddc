import Mathlib
import TypeExport.Name.Case

/-!
# Words in snake case

The low lines of a file name are put in by two searches for a pattern, the second one over what the
first one has written.  A search finds its matches from left to right and goes on behind each of
them, and a run of capitals gives back the capital that starts the next word.  All the same, whether
a low line stands before a character depends only on this character and on its two neighbours.
-/

namespace TypeExport.Name

/-- Whether a word other than the first one begins at place `i` of a name. -/
def beginsWord (s : List Char) (i : Nat) : Bool :=
  decide (1 ≤ i) && s[i]?.any isCapital &&
    (s[i - 1]?.any isSmallOrDigit || s[i - 1]?.any isCapital && s[i + 1]?.any isSmall)

/-- The name with a low line before each word other than the first one. -/
def markWords (s : List Char) : List Char :=
  s.zipIdx.flatMap fun (c, i) => (if beginsWord s i then ['_'] else []) ++ [c]

/-! ## Searches for a pattern -/

/-- Writes a low line between the two groups of every match.  A match at the start of a text is given
by the lengths of its groups. -/
def markMatches (match? : List Char → Option (Nat × Nat)) : List Char → List Char
  | [] => []
  | c :: rest =>
    match match? (c :: rest) with
    | none => c :: markMatches match? rest
    | some (n, m) =>
      (c :: rest).take n ++ '_' :: ((c :: rest).drop n).take m ++
        markMatches match? (rest.drop (n + m - 1))
termination_by s => s.length

/-- Capitals, and then a capital and a small letter.  The first group takes all capitals that it finds
and gives them back one by one until the second group matches. -/
def acronym? (s : List Char) : Option (Nat × Nat) :=
  ((List.range' 1 (s.takeWhile isCapital).length).reverse.find? fun n =>
    s[n]?.any isCapital && s[n + 1]?.any isSmall).map fun n => (n, 2)

/-- A small letter or digit, and then a capital. -/
def wordEnd? (s : List Char) : Option (Nat × Nat) :=
  if s[0]?.any isSmallOrDigit && s[1]?.any isCapital then some (1, 1) else none

section Characters

variable {c : Char}

theorem isSmallOrDigit_eq_false_of_isCapital (h : isCapital c = true) :
    isSmallOrDigit c = false := by
  simp only [isSmallOrDigit, isSmall, isCapital, Bool.and_eq_true, decide_eq_true_eq,
    Bool.or_eq_false_iff, Bool.and_eq_false_iff, decide_eq_false_iff_not, Char.le_def,
    UInt32.le_iff_toNat_le] at h ⊢
  have hsmall : 'Z'.val.toNat < 'a'.val.toNat := by decide
  have hdigit : '9'.val.toNat < 'A'.val.toNat := by decide
  omega

theorem isSmall_eq_false_of_isCapital (h : isCapital c = true) : isSmall c = false :=
  (Bool.or_eq_false_iff.1 (isSmallOrDigit_eq_false_of_isCapital h)).1

theorem isCapital_eq_false_of_isSmall (h : isSmall c = true) : isCapital c = false := by
  by_contra hcapital
  rw [Bool.not_eq_false] at hcapital
  rw [isSmall_eq_false_of_isCapital hcapital] at h
  cases h

end Characters

/-! ## One step of each pass -/

section Steps

/-- A capital is parted from one that begins a word behind it. -/
theorem partAcronyms_cons (a : Char) (s : List Char) :
    partAcronyms (a :: s) =
      a :: ((if isCapital a && s[0]?.any isCapital && s[1]?.any isSmall then ['_'] else []) ++
        partAcronyms s) := by
  match s with
  | [] => simp [partAcronyms]
  | [b] => simp [partAcronyms]
  | b :: c :: rest =>
    rw [partAcronyms]
    simp only [List.getElem?_cons_zero, List.getElem?_cons_succ, Option.any_some]
    split_ifs
    · rfl
    · rfl

theorem partWords_cons (a : Char) (s : List Char) :
    partWords (a :: s) =
      a :: ((if isSmallOrDigit a && s[0]?.any isCapital then ['_'] else []) ++ partWords s) := by
  match s with
  | [] => simp [partWords]
  | b :: rest =>
    rw [partWords]
    simp only [List.getElem?_cons_zero, Option.any_some]
    split_ifs
    · rfl
    · rfl

/-- The second pass leaves the low lines of the first one alone. -/
theorem partWords_mark (s : List Char) : partWords ('_' :: s) = '_' :: partWords s := by
  rw [partWords_cons]
  rfl

theorem partWords_cons_mark (a : Char) (s : List Char) :
    partWords (a :: '_' :: s) = a :: '_' :: partWords s := by
  have hmark : isCapital '_' = false := by decide
  rw [partWords_cons, partWords_mark, List.getElem?_cons_zero, Option.any_some, hmark, Bool.and_false]
  rfl

theorem getElem?_zero_partAcronyms (s : List Char) : (partAcronyms s)[0]? = s[0]? := by
  cases s with
  | nil => rfl
  | cons a s =>
    rw [partAcronyms_cons]
    rfl

/-- Both passes at once: what they write between two characters. -/
theorem partWords_partAcronyms_cons (a : Char) (s : List Char) :
    partWords (partAcronyms (a :: s)) =
      a :: ((if s[0]?.any isCapital && (isSmallOrDigit a || isCapital a && s[1]?.any isSmall)
        then ['_'] else []) ++ partWords (partAcronyms s)) := by
  rw [partAcronyms_cons]
  cases hcapital : s[0]?.any isCapital with
  | false =>
    rw [Bool.and_false, Bool.false_and, if_neg Bool.false_ne_true, List.nil_append, partWords_cons,
      getElem?_zero_partAcronyms, hcapital, Bool.and_false]
    rfl
  | true =>
    by_cases hacronym : (isCapital a && s[1]?.any isSmall) = true
    · rw [Bool.and_true, if_pos hacronym, hacronym, Bool.or_true, if_pos (by rfl)]
      exact partWords_cons_mark a _
    · rw [Bool.and_true, if_neg hacronym, List.nil_append, partWords_cons,
        getElem?_zero_partAcronyms, hcapital, Bool.eq_false_iff.2 hacronym]
      simp

end Steps

/-! ## Low lines by their places -/

/-- The places of a name, seen from its tail: `before` is what stands in front. -/
theorem flatMap_zipIdx_eq_partWords (before rest : List Char) :
    (rest.zipIdx before.length).flatMap
        (fun (c, i) => (if beginsWord (before ++ rest) i then ['_'] else []) ++ [c]) =
      (if beginsWord (before ++ rest) before.length then ['_'] else []) ++
        partWords (partAcronyms rest) := by
  induction rest generalizing before with
  | nil => simp [beginsWord, partAcronyms, partWords]
  | cons a rest ih =>
    have hshift : before ++ a :: rest = (before ++ [a]) ++ rest := by simp
    have hnext : beginsWord (before ++ a :: rest) (before.length + 1) =
        (rest[0]?.any isCapital && (isSmallOrDigit a || isCapital a && rest[1]?.any isSmall)) := by
      simp [beginsWord, List.getElem?_append_right, Nat.add_assoc]
    have hrest := ih (before ++ [a])
    rw [List.length_append, List.length_singleton, ← hshift, hnext] at hrest
    rw [List.zipIdx_cons, List.flatMap_cons, hrest, partWords_partAcronyms_cons, List.append_assoc]
    rfl

theorem markWords_eq_partWords (s : List Char) : markWords s = partWords (partAcronyms s) := by
  have h := flatMap_zipIdx_eq_partWords [] s
  simpa [beginsWord, markWords] using h

/-! ## The passes are searches -/

section Searches

variable {s : List Char} {a : Char} {n m : Nat}

/-- What a match of an acronym consists of. -/
theorem eq_of_acronym? (h : acronym? s = some (n, m)) :
    m = 2 ∧ ∃ capitals b c rest, s = capitals ++ b :: c :: rest ∧ capitals.length = n ∧ 1 ≤ n ∧
      (∀ a ∈ capitals, isCapital a = true) ∧ isCapital b = true ∧ isSmall c = true := by
  obtain ⟨k, hfind, hk⟩ := Option.map_eq_some_iff.1 h
  obtain ⟨rfl, rfl⟩ := Prod.mk.inj hk
  have hgroup := List.find?_some hfind
  have hrun := List.mem_of_find?_eq_some hfind
  rw [Bool.and_eq_true, Option.any_eq_true, Option.any_eq_true] at hgroup
  rw [List.mem_reverse, List.mem_range'_1] at hrun
  obtain ⟨⟨b, hb, hcapital⟩, c, hc, hsmall⟩ := hgroup
  obtain ⟨hlt, hb⟩ := List.getElem?_eq_some_iff.1 hb
  obtain ⟨hlt', hc⟩ := List.getElem?_eq_some_iff.1 hc
  refine ⟨rfl, s.take k, b, c, s.drop (k + 2), ?_, ?_, hrun.1, ?_, hcapital, hsmall⟩
  · calc
      s = s.take k ++ s.drop k := (List.take_append_drop k s).symm
      _ = s.take k ++ b :: s.drop (k + 1) := by rw [List.drop_eq_getElem_cons hlt, hb]
      _ = s.take k ++ b :: c :: s.drop (k + 2) := by rw [List.drop_eq_getElem_cons hlt', hc]
  · rw [List.length_take]
    omega
  · intro a ha
    have hstart : s.take k <+: s.takeWhile isCapital :=
      List.prefix_of_prefix_length_le (List.take_prefix k s) (List.takeWhile_prefix _)
        (by rw [List.length_take]; omega)
    exact List.mem_takeWhile_imp (hstart.subset ha)

/-- Where no acronym matches, none ends at the first character. -/
theorem not_acronym_of_acronym? (h : acronym? (a :: s) = none) :
    (isCapital a && s[0]?.any isCapital && s[1]?.any isSmall) = false := by
  by_contra hnot
  rw [Bool.not_eq_false, Bool.and_eq_true, Bool.and_eq_true] at hnot
  obtain ⟨⟨ha, hb⟩, hc⟩ := hnot
  rw [acronym?, Option.map_eq_none_iff, List.find?_eq_none] at h
  refine h 1 ?_ ?_
  · rw [List.mem_reverse, List.mem_range'_1, List.takeWhile_cons_of_pos ha, List.length_cons]
    omega
  · rw [List.getElem?_cons_succ, List.getElem?_cons_succ, hb, hc]
    rfl

/-- A run of capitals has a single place where a low line belongs. -/
theorem partAcronyms_run {capitals rest : List Char} {b c : Char}
    (hcapitals : ∀ a ∈ capitals, isCapital a = true) (hne : 1 ≤ capitals.length)
    (hb : isCapital b = true) (hc : isSmall c = true) :
    partAcronyms (capitals ++ b :: c :: rest) =
      capitals ++ '_' :: b :: c :: partAcronyms rest := by
  have hnotCapital := isCapital_eq_false_of_isSmall hc
  have hsecond : partAcronyms (b :: c :: rest) = b :: c :: partAcronyms rest := by
    rw [partAcronyms_cons b, partAcronyms_cons c, List.getElem?_cons_zero, Option.any_some,
      hnotCapital]
    simp
  induction capitals with
  | nil => cases hne
  | cons a capitals ih =>
    obtain ⟨ha, hcapitals⟩ := List.forall_mem_cons.1 hcapitals
    rw [List.cons_append, partAcronyms_cons]
    cases capitals with
    | nil =>
      rw [List.nil_append, hsecond]
      simp [ha, hb, hc]
    | cons d capitals =>
      have hnext : ((d :: capitals) ++ b :: c :: rest)[1]?.any isSmall = false := by
        cases capitals with
        | nil =>
          rw [List.cons_append, List.getElem?_cons_succ, List.nil_append, List.getElem?_cons_zero,
            Option.any_some]
          exact isSmall_eq_false_of_isCapital hb
        | cons e capitals =>
          rw [List.cons_append, List.getElem?_cons_succ, List.cons_append, List.getElem?_cons_zero,
            Option.any_some]
          exact isSmall_eq_false_of_isCapital (hcapitals e (by simp))
      rw [ih hcapitals (by simp), hnext, Bool.and_false]
      rfl

/-- The first pass marks the matches of its pattern. -/
theorem partAcronyms_eq_markMatches (s : List Char) :
    partAcronyms s = markMatches acronym? s := by
  fun_induction markMatches acronym? s with
  | case1 => rfl
  | case2 a rest hnone ih =>
    rw [partAcronyms_cons, not_acronym_of_acronym? hnone, ih]
    rfl
  | case3 a rest n m hmatch ih =>
    obtain ⟨rfl, capitals, b, c, more, hsplit, rfl, hne, hcapitals, hb, hc⟩ := eq_of_acronym? hmatch
    have hrest : rest.drop (capitals.length + 2 - 1) = more := by
      calc
        rest.drop (capitals.length + 2 - 1) = (a :: rest).drop (capitals.length + 2) := rfl
        _ = more := by rw [hsplit, ← List.drop_drop, List.drop_left]; rfl
    rw [← ih, hrest, hsplit, partAcronyms_run hcapitals hne hb hc]
    simp

/-- The second pass marks the matches of its pattern. -/
theorem partWords_eq_markMatches (s : List Char) : partWords s = markMatches wordEnd? s := by
  fun_induction markMatches wordEnd? s with
  | case1 => rfl
  | case2 a rest hnone ih =>
    have hnot : (isSmallOrDigit a && rest[0]?.any isCapital) = false := by
      simpa [wordEnd?] using hnone
    rw [partWords_cons, hnot, ih]
    rfl
  | case3 a rest n m hmatch ih =>
    unfold wordEnd? at hmatch
    split_ifs at hmatch with hword
    obtain ⟨rfl, rfl⟩ := Prod.mk.inj (Option.some.inj hmatch)
    cases rest with
    | nil => simp at hword
    | cons b rest =>
      have hword : (isSmallOrDigit a && (b :: rest)[0]?.any isCapital) = true := hword
      have hb : isCapital b = true := (Bool.and_eq_true_iff.1 hword).2
      have hnext : partWords (b :: rest) = b :: partWords rest := by
        rw [partWords_cons, isSmallOrDigit_eq_false_of_isCapital hb]
        rfl
      rw [partWords_cons, if_pos hword, hnext]
      exact congrArg (fun more => a :: '_' :: b :: more) ih

end Searches

/-! ## The file of an enum -/

section Files

variable {s : List Char}

theorem flatMap_zipIdx_singleton (s : List Char) : (s.zipIdx.flatMap fun (c, _) => [c]) = s := by
  calc
    (s.zipIdx.flatMap fun (c, _) => [c]) = s.zipIdx.map Prod.fst := List.flatMap_pure_eq_map _ _
    _ = s := List.zipIdx_map_fst 0 s

theorem sublist_markWords (s : List Char) : s.Sublist (markWords s) := by
  conv_lhs => rw [← flatMap_zipIdx_singleton s]
  exact List.Sublist.flatMap_right _ fun _ _ => List.sublist_append_right _ _

theorem filter_markWords (s : List Char) :
    (markWords s).filter (· != '_') = s.filter (· != '_') := by
  conv_rhs => rw [← flatMap_zipIdx_singleton s]
  rw [markWords, List.filter_flatMap, List.filter_flatMap]
  congr 1
  ext1 x
  rw [List.filter_append]
  split_ifs
  · rfl
  · rfl

/-- The file of an enum is named by the lower case of its marked name.  The two searches for a pattern
write this name, which keeps every character in its order, and two enums share a file just if the
lower case of their marked names agrees. -/
theorem moduleFile_eq_lower_markWords (name : String) :
    moduleFile name = Text.lower (String.ofList (markWords name.toList)) ++ ".py" ∧
      markMatches wordEnd? (markMatches acronym? name.toList) = markWords name.toList ∧
      name.toList.Sublist (markWords name.toList) ∧
      (markWords name.toList).filter (· != '_') = name.toList.filter (· != '_') ∧
      ∀ other, moduleFile name = moduleFile other ↔
        Text.lower (String.ofList (markWords name.toList)) =
          Text.lower (String.ofList (markWords other.toList)) := by
  have hfile : ∀ name, moduleFile name =
      Text.lower (String.ofList (markWords name.toList)) ++ ".py" := by
    intro name
    rw [markWords_eq_partWords]
    rfl
  refine ⟨hfile name, ?_, sublist_markWords _, filter_markWords _, ?_⟩
  · rw [← partAcronyms_eq_markMatches, ← partWords_eq_markMatches, ← markWords_eq_partWords]
  · intro other
    rw [hfile name, hfile other]
    exact String.append_left_inj _

/-- The capital that ends a run of capitals starts the next word. -/
example : moduleFile "HTTPStatus2Code" = "http_status2_code.py" := by
  decide

end Files

end TypeExport.Name

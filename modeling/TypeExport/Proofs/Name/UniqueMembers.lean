import Mathlib.Data.List.Nodup
import Mathlib.Data.List.Perm.Subperm
import TypeExport.Name.Member
import TypeExport.Proofs.Name.AsciiWord
import TypeExport.Proofs.Source.Digits

/-!
# Member names of ASCII labels

The names for ASCII labels are words with a capital in front that are no words of the language, and
no two of them are alike.
-/

/-!
## Names of labels
-/

namespace TypeExport

/-- A value that is displayed in ASCII characters, or null. -/
def Value.IsAsciiLabel (v : Value) : Prop :=
  v = .null ∨ ∀ c ∈ v.display.toList, c.toNat < 128

namespace Name

/-- A word with a capital in front that is no word of the language. -/
structure IsMemberName (name : String) : Prop where
  capital : ∃ c ∈ name.toList.head?, c.isUpper = true
  all : ∀ c ∈ name.toList, IsWordChar c
  notKeyword : isKeyword name = false

theorem IsMemberName.isAsciiWord {name : String} (h : IsMemberName name) :
    IsAsciiWord name.toList where
  head := by
    obtain ⟨c, hc, hupper⟩ := h.capital
    refine ⟨c, hc, ?_⟩
    unfold Char.isAlpha
    rw [hupper]
    rfl
  all := h.all

theorem isAlpha_of_getLast?_keyword {name : String} (h : isKeyword name = true) :
    ∃ c ∈ name.toList.getLast?, c.isAlpha = true := by
  have hall : keywords.all (fun k => k.toList.getLast?.any Char.isAlpha) = true := by decide
  have hany := List.all_eq_true.1 hall name (List.contains_iff_mem.1 h)
  exact (Option.any_eq_true _ _).1 hany

/-- A name that ends in no letter is no word of the language. -/
theorem isKeyword_append {name : String} {last : List Char} {c : Char}
    (hlast : last.getLast? = some c) (hc : c.isAlpha = false) :
    isKeyword (name ++ String.ofList last) = false := by
  rw [← Bool.not_eq_true]
  intro h
  obtain ⟨d, hd, halpha⟩ := isAlpha_of_getLast?_keyword h
  have hne : last ≠ [] := by
    rintro rfl
    cases hlast
  rw [String.toList_append, String.toList_ofList, List.getLast?_append_of_ne_nil _ hne, hlast] at hd
  cases hd
  rw [hc] at halpha
  cases halpha

/-- What a name of a member may get behind it: characters of words, the last of them no letter. -/
theorem IsMemberName.append {name : String} {last : List Char} {c : Char}
    (hcapital : ∃ c ∈ name.toList.head?, c.isUpper = true) (hall : ∀ c ∈ name.toList, IsWordChar c)
    (hword : ∀ c ∈ last, IsWordChar c) (hlast : last.getLast? = some c) (hc : c.isAlpha = false) :
    IsMemberName (name ++ String.ofList last) where
  capital := by
    obtain ⟨d, hd, hupper⟩ := hcapital
    have hne : name.toList ≠ [] := by
      intro hnil
      rw [hnil] at hd
      cases hd
    rw [String.toList_append, List.head?_append_of_ne_nil _ hne]
    exact ⟨d, hd, hupper⟩
  all := by
    intro d hd
    rw [String.toList_append, String.toList_ofList] at hd
    rcases List.mem_append.1 hd with hd | hd
    · exact hall d hd
    · exact hword d hd
  notKeyword := isKeyword_append hlast hc

/-- Among ASCII characters the letters and numbers are the ASCII ones. -/
theorem isAlphanumeric_iff {c : Char} (h : c.toNat < 128) :
    Text.isAlphanumeric c.toNat = true ↔ c.isAlphanum = true := by
  have hall : ∀ n < 128, Text.isAlphanumeric n = true ↔ (Char.ofNat n).isAlphanum = true := by decide
  rw [hall c.toNat h, Char.ofNat_toNat]

theorem upperChar_of_isAlphanum {c : Char} (h : c.toNat < 128) (hc : c.isAlphanum = true) :
    ∃ d, Text.upperChar c = [d] ∧ d.isAlphanum = true ∧ (d.isUpper = true ∨ d.isDigit = true) := by
  have hall : ∀ n < 128, (Char.ofNat n).isAlphanum = true →
      Text.upperChar (Char.ofNat n) = [Char.ofNat (if 97 ≤ n ∧ n ≤ 122 then n - 32 else n)] ∧
      (Char.ofNat (if 97 ≤ n ∧ n ≤ 122 then n - 32 else n)).isAlphanum = true ∧
      ((Char.ofNat (if 97 ≤ n ∧ n ≤ 122 then n - 32 else n)).isUpper = true ∨
        (Char.ofNat (if 97 ≤ n ∧ n ≤ 122 then n - 32 else n)).isDigit = true) := by
    decide
  have hall' := hall c.toNat h
  rw [Char.ofNat_toNat] at hall'
  exact ⟨_, hall' hc⟩

/-- Joined ASCII words hold letters and digits alone. -/
theorem isAlphanum_of_mem_joinWords {start : Bool} {s : List Char} (hs : ∀ c ∈ s, c.toNat < 128) :
    ∀ d ∈ joinWords start s, d.isAlphanum = true := by
  induction s generalizing start with
  | nil => intro d hd; cases hd
  | cons c rest ih =>
    have hc := hs c List.mem_cons_self
    have hrest : ∀ d ∈ rest, d.toNat < 128 := fun d hd => hs d (List.mem_cons_of_mem _ hd)
    intro d hd
    rw [joinWords] at hd
    split at hd
    · rename_i hword
      rw [isAlphanumeric_iff hc] at hword
      rcases List.mem_append.1 hd with hd | hd
      · split at hd
        · obtain ⟨e, he, halnum, -⟩ := upperChar_of_isAlphanum hc hword
          rw [he, List.mem_singleton] at hd
          rw [hd]
          exact halnum
        · rw [List.mem_singleton] at hd
          rw [hd]
          exact hword
      · exact ih hrest d hd
    · exact ih hrest d hd

/-- The joined words begin with a capital or with a digit. -/
theorem head?_joinWords {s : List Char} (hs : ∀ c ∈ s, c.toNat < 128) :
    ∀ d ∈ (joinWords true s).head?, d.isUpper = true ∨ d.isDigit = true := by
  induction s with
  | nil => intro d hd; cases hd
  | cons c rest ih =>
    have hc := hs c List.mem_cons_self
    intro d hd
    rw [joinWords] at hd
    split at hd
    · rename_i hword
      rw [isAlphanumeric_iff hc] at hword
      obtain ⟨e, he, -, hcases⟩ := upperChar_of_isAlphanum hc hword
      rw [if_pos rfl, he] at hd
      cases hd
      exact hcases
    · exact ih (fun d hd => hs d (List.mem_cons_of_mem _ hd)) d hd

theorem isMemberName_avoidKeyword {name : String}
    (hcapital : ∃ c ∈ name.toList.head?, c.isUpper = true)
    (hall : ∀ c ∈ name.toList, IsWordChar c) : IsMemberName (avoidKeyword name) := by
  unfold avoidKeyword
  split
  · have happend : IsMemberName (name ++ String.ofList ['_']) :=
      .append hcapital hall (isWordChar_of_all (by decide)) rfl (by decide)
    exact happend
  · rename_i h
    exact ⟨hcapital, hall, by simpa using h⟩

/-- An ASCII label gives a name that enumerations take. -/
theorem isMemberName_memberOfLabel {label : String} (h : ∀ c ∈ label.toList, c.toNat < 128) :
    IsMemberName (memberOfLabel label) := by
  unfold memberOfLabel
  have hall : ∀ d ∈ joinWords true label.toList, d.isAlphanum = true := isAlphanum_of_mem_joinWords h
  have hhead := head?_joinWords h
  dsimp only
  cases hjoined : joinWords true label.toList with
  | nil => exact ⟨⟨'U', rfl, by decide⟩, isWordChar_of_all (by decide), by decide⟩
  | cons c rest =>
    rw [hjoined] at hall hhead
    have hword : ∀ d ∈ c :: rest, IsWordChar d := fun d hd => .inl (hall d hd)
    refine isMemberName_avoidKeyword ?_ ?_
    all_goals unfold leadWithLetter; rw [String.toList_ofList]; dsimp only
    · split
      · rw [String.toList_append]
        exact ⟨'I', rfl, by decide⟩
      · rename_i hdigit
        rw [String.toList_ofList]
        rcases hhead c rfl with hupper | hc
        · exact ⟨c, rfl, hupper⟩
        · have hcode := hc
          simp only [Char.isDigit, Bool.and_eq_true, decide_eq_true_eq] at hcode
          refine absurd ?_ hdigit
          have hlow : 48 ≤ c.toNat := hcode.1
          have hhigh : c.toNat ≤ 57 := hcode.2
          unfold Text.isDigit
          rw [if_pos (by omega)]
          simp [hlow, hhigh]
    · split
      · intro d hd
        rw [String.toList_append, String.toList_ofList] at hd
        have hlead : ∀ c ∈ digitLead.toList, IsWordChar c := isWordChar_of_all (by decide)
        rcases List.mem_append.1 hd with hd | hd
        · exact hlead d hd
        · exact hword d hd
      · rw [String.toList_ofList]
        exact hword

theorem isMemberName_memberOf {v : Value} (h : v.IsAsciiLabel) : IsMemberName (memberOf v) := by
  have hplaceholder : IsMemberName placeholder :=
    ⟨⟨'U', rfl, by decide⟩, isWordChar_of_all (by decide), by decide⟩
  rcases h with rfl | h
  · exact hplaceholder
  · cases v with
    | null => exact hplaceholder
    | _ => exact isMemberName_memberOfLabel h

/-- A candidate is the base, or it has digits behind it. -/
theorem exists_digits_of_mem_candidates {base name : String} {count : Nat}
    (h : name ∈ candidates base count) :
    name = base ∨ ∃ digits, digits ≠ [] ∧ (∀ c ∈ digits, c.isDigit = true) ∧
      name = base ++ String.ofList digits := by
  rcases List.mem_cons.1 h with rfl | h
  · exact .inl rfl
  · obtain ⟨i, -, rfl⟩ := List.mem_map.1 h
    rw [Nat.toString_eq_ofList_toDigits]
    exact .inr ⟨_, Nat.toDigits_ne_nil, Numeral.isDigit_of_mem_toDigits, rfl⟩

theorem getLast?_of_digits {digits : List Char} (hne : digits ≠ [])
    (hdigits : ∀ c ∈ digits, c.isDigit = true) :
    ∃ c, digits.getLast? = some c ∧ c.isAlpha = false := by
  obtain ⟨c, hlast⟩ := Option.isSome_iff_exists.1 (List.getLast?_isSome.2 hne)
  have hcode := toNat_of_isDigit (hdigits c (List.mem_of_getLast? hlast))
  refine ⟨c, hlast, ?_⟩
  rw [← Bool.not_eq_true]
  intro halpha
  have := toNat_of_isAlpha halpha
  omega

theorem isMemberName_of_mem_candidates {base name : String} {count : Nat} (h : IsMemberName base)
    (hmem : name ∈ candidates base count) : IsMemberName name := by
  rcases exists_digits_of_mem_candidates hmem with rfl | ⟨digits, hne, hdigits, rfl⟩
  · exact h
  · obtain ⟨c, hlast, hc⟩ := getLast?_of_digits hne hdigits
    refine .append h.capital h.all (fun d hd => .inl ?_) hlast hc
    unfold Char.isAlphanum
    rw [hdigits d hd, Bool.or_true]

/-- The candidates for a name are pairwise different. -/
theorem nodup_candidates (base : String) (count : Nat) : (candidates base count).Nodup := by
  unfold candidates
  rw [List.nodup_cons]
  constructor
  · intro hmem
    obtain ⟨i, -, heq⟩ := List.mem_map.1 hmem
    have hlength := congrArg (fun s : String => s.toList.length) heq
    have hpos := List.length_pos_iff.2 (Nat.toDigits_ne_nil (b := 10) (n := i + 2))
    simp only [String.toList_append, List.length_append, Nat.toString_eq_ofList_toDigits,
      String.toList_ofList] at hlength
    omega
  · refine List.Nodup.map (fun i j heq => ?_) List.nodup_range
    have hlist := congrArg String.toList heq
    simp only [String.toList_append] at hlist
    have hnumber := congrArg (fun digits => Nat.ofDigitChars 10 digits 0)
      (List.append_cancel_left hlist)
    simpa [Nat.toString_eq_ofList_toDigits] using hnumber

/-- Of one candidate more than there are names in use, one is not in use. -/
theorem find?_candidates (used : List String) (base : String) :
    (candidates base used.length).find? (fun name => !used.contains name) =
      some (fresh used base) := by
  unfold fresh
  cases hfind : (candidates base used.length).find? fun name => !used.contains name with
  | some name => rfl
  | none =>
    have hall : candidates base used.length ⊆ used := by
      intro name hname
      simpa using List.find?_eq_none.1 hfind name hname
    have hle := (List.subperm_of_subset (nodup_candidates base used.length) hall).length_le
    exact absurd hle (by simp [candidates])

theorem fresh_mem_candidates (used : List String) (base : String) :
    fresh used base ∈ candidates base used.length :=
  List.mem_of_find?_eq_some (find?_candidates used base)

theorem fresh_not_mem (used : List String) (base : String) : fresh used base ∉ used := by
  simpa using List.find?_some (find?_candidates used base)

theorem length_nameFrom (used : List String) (values : List Value) :
    (nameFrom used values).length = values.length := by
  induction values generalizing used with
  | nil => rfl
  | cons v rest ih => exact congrArg (· + 1) (ih _)

/-- The names are different from each other and from those in use. -/
theorem nodup_nameFrom (used : List String) (values : List Value) :
    (nameFrom used values).Nodup ∧ ∀ name ∈ nameFrom used values, name ∉ used := by
  induction values generalizing used with
  | nil => exact ⟨List.nodup_nil, fun _ h => (List.not_mem_nil h).elim⟩
  | cons v rest ih =>
    obtain ⟨hnodup, hrest⟩ := ih (fresh used (memberOf v) :: used)
    rw [nameFrom]
    refine ⟨List.nodup_cons.2 ⟨fun hmem => hrest _ hmem List.mem_cons_self, hnodup⟩, ?_⟩
    intro name hmem
    rcases List.mem_cons.1 hmem with rfl | hmem
    · exact fresh_not_mem used (memberOf v)
    · exact fun hused => hrest name hmem (List.mem_cons_of_mem _ hused)

/-- Every name is the one of a value, perhaps numbered. -/
theorem exists_of_mem_nameFrom {used : List String} {values : List Value} {name : String}
    (h : name ∈ nameFrom used values) :
    ∃ v ∈ values, ∃ count, name ∈ candidates (memberOf v) count := by
  induction values generalizing used with
  | nil => cases h
  | cons v rest ih =>
    rw [nameFrom] at h
    rcases List.mem_cons.1 h with rfl | h
    · exact ⟨v, List.mem_cons_self, _, fresh_mem_candidates used (memberOf v)⟩
    · obtain ⟨w, hw, hname⟩ := ih h
      exact ⟨w, List.mem_cons_of_mem _ hw, hname⟩

/-- One name for each ASCII label, all of them different. -/
theorem uniqueMembers_spec {values : List Value} (h : ∀ v ∈ values, v.IsAsciiLabel) :
    (uniqueMembers values).length = values.length ∧ (uniqueMembers values).Nodup ∧
      ∀ name ∈ uniqueMembers values, IsMemberName name := by
  refine ⟨length_nameFrom [] values, (nodup_nameFrom [] values).1, fun name hname => ?_⟩
  obtain ⟨v, hv, count, hcandidate⟩ := exists_of_mem_nameFrom hname
  exact isMemberName_of_mem_candidates (isMemberName_memberOf (h v hv)) hcandidate

end Name

end TypeExport

/-!
## Numbers of member names

The name of a label that is in use is numbered: from two on, numbers are tried until one gives a name
that is not in use.  Every such search ends, its number is the least one, and the names for the rows
of a table stay when rows are added behind them.
-/

namespace TypeExport.Name

/-- The search for a name.  `name` is tried, and if it is in use, `base` with the number `n` is the
next one. -/
inductive Search (used : List String) (base : String) : (name : String) → (n : Nat) →
    (found : String) → Prop
  | free {name : String} {n : Nat} : name ∉ used → Search used base name n name
  | taken {name : String} {n : Nat} {found : String} : name ∈ used →
      Search used base (base ++ toString n) (n + 1) found → Search used base name n found

/-- The name of a label behind the names `earlier`: its own one, or that with the least number that
makes it a new name. -/
structure IsNumbered (earlier : List String) (base name : String) : Prop where
  notEarlier : name ∉ earlier
  base_of_free : base ∉ earlier → name = base
  least_of_taken : base ∈ earlier → ∃ n, 2 ≤ n ∧ name = base ++ toString n ∧
    ∀ m, 2 ≤ m → m < n → base ++ toString m ∈ earlier

variable {used earlier : List String} {base name found : String} {n : Nat}

/-- What is found is not in use, and all that was tried before is. -/
theorem Search.spec (h : Search used base name n found) :
    found ∉ used ∧ (found = name ∨ name ∈ used ∧ ∃ k, n ≤ k ∧ found = base ++ toString k ∧
      ∀ m, n ≤ m → m < k → base ++ toString m ∈ used) := by
  induction h with
  | free hfree => exact ⟨hfree, .inl rfl⟩
  | @taken name n found htaken _ ih =>
    obtain ⟨hfound, heq | ⟨hnext, k, hle, heq, hbelow⟩⟩ := ih
    · exact ⟨hfound, .inr ⟨htaken, n, le_rfl, heq, fun m hm hlt => absurd hm (by omega)⟩⟩
    · refine ⟨hfound, .inr ⟨htaken, k, by omega, heq, fun m hm hlt => ?_⟩⟩
      rcases Nat.eq_or_lt_of_le hm with rfl | hm
      · exact hnext
      · exact hbelow m hm hlt

theorem Search.isNumbered (h : Search earlier base base 2 found) :
    IsNumbered earlier base found := by
  obtain ⟨hfound, hcases⟩ := h.spec
  refine ⟨hfound, fun hfree => ?_, fun htaken => ?_⟩
  · rcases hcases with heq | ⟨htaken, -⟩
    · exact heq
    · exact absurd htaken hfree
  · rcases hcases with heq | ⟨-, hnumber⟩
    · exact absurd (heq ▸ htaken) hfound
    · exact hnumber

/-- The order of the names in use does not matter. -/
theorem Search.congr (h : Search used base name n found) (hmem : ∀ x, x ∈ used ↔ x ∈ earlier) :
    Search earlier base name n found := by
  induction h with
  | free hfree => exact .free fun hx => hfree ((hmem _).2 hx)
  | taken htaken _ ih => exact .taken ((hmem _).1 htaken) ih

/-- The first free name of a list of numbered ones is found by a search. -/
theorem search_of_find? {count : Nat}
    (h : (name :: (List.range' n count).map fun k => base ++ toString k).find?
      (fun x => !used.contains x) = some found) : Search used base name n found := by
  induction count generalizing name n with
  | zero =>
    have hmem := List.mem_of_find?_eq_some h
    have hfree : found ∉ used := by simpa using List.find?_some h
    obtain rfl : found = name := by simpa using hmem
    exact .free hfree
  | succ count ih =>
    by_cases htaken : name ∈ used
    · rw [List.find?_cons_of_neg (by simpa using htaken), List.range'_succ, List.map_cons] at h
      exact .taken htaken (ih h)
    · rw [List.find?_cons_of_pos (by simpa using htaken)] at h
      exact Option.some.inj h ▸ .free htaken

theorem candidates_eq (base : String) (count : Nat) :
    candidates base count = base :: (List.range' 2 count).map fun k => base ++ toString k := by
  unfold candidates
  rw [List.range'_eq_map_range, List.map_map]
  simp only [Function.comp_def, Nat.add_comm 2]

/-- Every search ends. -/
theorem search_fresh (used : List String) (base : String) :
    Search used base base 2 (fresh used base) := by
  have hfind := find?_candidates used base
  rw [candidates_eq] at hfind
  exact search_of_find? hfind

/-- The name at a place is found behind the names in use and those at earlier places. -/
theorem getElem?_nameFrom (used : List String) {values : List Value} {i : Nat} {v : Value}
    (h : values[i]? = some v) :
    (nameFrom used values)[i]? =
      some (fresh (((nameFrom used values).take i).reverse ++ used) (memberOf v)) := by
  induction values generalizing used i with
  | nil => cases h
  | cons w rest ih =>
    rw [nameFrom]
    cases i with
    | zero =>
      cases h
      rfl
    | succ i =>
      rw [List.getElem?_cons_succ, ih _ h, List.take_succ_cons, List.reverse_cons,
        List.append_assoc, List.singleton_append]

theorem nameFrom_append (used : List String) (values more : List Value) :
    nameFrom used values <+: nameFrom used (values ++ more) := by
  induction values generalizing used with
  | nil => exact List.nil_prefix
  | cons v rest ih =>
    rw [List.cons_append, nameFrom, nameFrom]
    exact List.cons_prefix_cons.2 ⟨rfl, ih _⟩

/-- There is one name for each value, and no two are alike.  Each name is what the search behind the
earlier names ends with, that is the name of the value itself or that with the least number that makes
it new.  Values that are added behind the others rename none of them. -/
theorem uniqueMembers_least (values : List Value) :
    (uniqueMembers values).length = values.length ∧ (uniqueMembers values).Nodup ∧
      (∀ i : Fin values.length, ∃ name, (uniqueMembers values)[i.val]? = some name ∧
        Search ((uniqueMembers values).take i) (memberOf values[i]) (memberOf values[i]) 2 name ∧
        IsNumbered ((uniqueMembers values).take i) (memberOf values[i]) name) ∧
      ∀ more, uniqueMembers values <+: uniqueMembers (values ++ more) := by
  refine ⟨length_nameFrom [] values, (nodup_nameFrom [] values).1, fun i => ?_,
    nameFrom_append [] values⟩
  have hat := getElem?_nameFrom [] (List.getElem?_eq_getElem i.isLt)
  have hsearch : Search ((uniqueMembers values).take i) (memberOf values[i]) (memberOf values[i]) 2
      (fresh (((uniqueMembers values).take i).reverse ++ []) (memberOf values[i])) :=
    (search_fresh _ _).congr fun x => by rw [List.append_nil, List.mem_reverse]
  exact ⟨_, hat, hsearch, hsearch.isNumbered⟩

/-- A numbered name is in the way of a later value. -/
example : uniqueMembers [.text "x", .text "x", .text "x2", .text "x"] = ["X", "X2", "X22", "X3"] := by
  decide +kernel

end TypeExport.Name

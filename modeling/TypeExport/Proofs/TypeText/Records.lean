import TypeExport.Proofs.Text.UniqueReading
import TypeExport.Proofs.TypeText.Brackets

/-!
# Type arguments

Commas stand in type arguments only inside of groups, so the text between the last comma of a record and
its closing bracket is one argument.  A record is one operand whatever its arguments are.
-/

namespace TypeExport.TypeText

section Commas

variable {c : Char} {l : Level} {ts : List Token} {τ σ : TsType}

/-- No comma stands in an exponent. -/
theorem isMark_of_isExponent {word : String} (h : isExponent word ts = true) :
    ∀ t ∈ ts, t.isMark ',' = false := by
  unfold isExponent at h
  split at h
  · simp
  · next sign digits =>
    have hsign : sign = '+' ∨ sign = '-' := by
      simpa using (Bool.and_eq_true_iff.1 (Bool.and_eq_true_iff.1 h).1).1
    obtain rfl | rfl := hsign
    · simp [Token.isMark]
    · simp [Token.isMark]
  · cases h

theorem isMark_of_isNumber (h : isNumber ts = true) : ∀ t ∈ ts, t.isMark ',' = false := by
  unfold isNumber at h
  split at h
  · simp [Token.isMark]
  · simpa [Token.isMark] using isMark_of_isExponent (Bool.and_eq_true_iff.1 h).2
  · simpa [Token.isMark] using isMark_of_isExponent (Bool.and_eq_true_iff.1 h).2
  · simpa [Token.isMark] using isMark_of_isExponent (Bool.and_eq_true_iff.1 h).2
  · cases h

theorem isMark_of_members? {names : List String} (h : members? ts = some names) :
    ∀ t ∈ ts, t.isMark ',' = false := by
  fun_induction members? ts generalizing names with
  | case1 => cases h
  | case2 => simp [Token.isMark]
  | case3 => cases h
  | case4 name rest hname ih =>
    obtain ⟨more, hmore, rfl⟩ := Option.map_eq_some_iff.1 h
    simpa [Token.isMark] using ih hmore
  | case5 => cases h

theorem isMark_of_path? {path : Path} (h : path? ts = some path) : ∀ t ∈ ts, t.isMark ',' = false := by
  unfold path? at h
  split at h
  · simp [Token.isMark]
  · obtain ⟨-, hmembers⟩ := Option.ite_none_right_eq_some.1 h
    obtain ⟨names, hnames, -⟩ := Option.map_eq_some_iff.1 hmembers
    simpa [Token.isMark] using isMark_of_members? hnames
  · obtain ⟨-, hmembers⟩ := Option.ite_none_right_eq_some.1 h
    obtain ⟨names, hnames, -⟩ := Option.map_eq_some_iff.1 hmembers
    exact isMark_of_members? hnames
  · cases h

theorem isMark_of_target? {path : Path} (h : target? ts = some path) :
    ∀ t ∈ ts, t.isMark ',' = false := by
  unfold target? at h
  split at h
  · obtain ⟨path', hpath, -⟩ := Option.map_eq_some_iff.1 h
    simpa [Token.isMark] using isMark_of_path? hpath
  · exact isMark_of_path? h

/-- No comma stands in a type of a single operand. -/
theorem isMark_of_leaf? (h : leaf? ts = some τ) : ∀ t ∈ ts, t.isMark ',' = false := by
  unfold leaf? at h
  split_ifs at h with hliteral
  · unfold isLiteral at hliteral
    split at hliteral
    · simp [Token.isMark]
    · simpa [Token.isMark] using isMark_of_isNumber hliteral
    · exact isMark_of_isNumber hliteral
  · split at h
    · simp [Token.isMark]
    · obtain ⟨path, hpath, rfl⟩ := Option.map_eq_some_iff.1 h
      exact isMark_of_target? hpath

/-- What an operand is made of holds no commas outside of groups. -/
theorem isMark_of_operand? {operand : Operand} (h : operand? ts = some operand) :
    match operand with
    | .leaf _ | .application _ _ | .parenthesised _ => ∀ t ∈ ts, t.isMark ',' = false
    | .array element => ∃ g, ts = element ++ [g] ∧ g.isMark ',' = false
    | .indexed object _ => ∃ g, ts = object ++ [g] ∧ g.isMark ',' = false := by
  have hmem : ∀ {us}, ts.reverse = us → ∀ t ∈ ts, t ∈ us := fun hus t ht =>
    hus ▸ List.mem_reverse.2 ht
  have happend : ∀ {g us}, ts.reverse = g :: us → ts = us.reverse ++ [g] := fun hus => by
    rw [← List.reverse_reverse ts, hus, List.reverse_cons]
  unfold operand? at h
  split at h
  · next hrev =>
    obtain rfl := Option.some.inj h
    intro t ht
    rw [List.mem_singleton.1 (hmem hrev t ht)]
    rfl
  · next hrev =>
    obtain rfl := Option.some.inj h
    intro t ht
    rw [List.mem_singleton.1 (hmem hrev t ht)]
    rfl
  · next hrev =>
    obtain rfl := Option.some.inj h
    intro t ht
    rw [List.mem_singleton.1 (hmem hrev t ht)]
    rfl
  · next hrev =>
    split_ifs at h
    · obtain rfl := Option.some.inj h
      exact ⟨_, happend hrev, rfl⟩
    · obtain rfl := Option.some.inj h
      exact ⟨_, happend hrev, rfl⟩
  · cases h
  · next rest hrev =>
    obtain ⟨path, hpath, rfl⟩ := Option.map_eq_some_iff.1 h
    intro t ht
    obtain rfl | ht := List.mem_cons.1 (hmem hrev t ht)
    · rfl
    · exact isMark_of_target? hpath t (List.mem_reverse.2 ht)
  · obtain ⟨τ, hleaf, rfl⟩ := Option.map_eq_some_iff.1 h
    exact isMark_of_leaf? hleaf

/-- Every token that does not part stands in a piece. -/
theorem exists_mem_splitOnP {p : Token → Bool} {t : Token} (ht : t ∈ ts) (hp : p t = false) :
    ∃ piece ∈ ts.splitOnP p, t ∈ piece := by
  induction ts with
  | nil => cases ht
  | cons u ts ih =>
    rw [List.splitOnP_cons_eq_if_modifyHead]
    split_ifs with hu
    · obtain rfl | ht := List.mem_cons.1 ht
      · rw [hu] at hp
        cases hp
      · obtain ⟨piece, hpiece, hmem⟩ := ih ht
        exact ⟨piece, List.mem_cons_of_mem _ hpiece, hmem⟩
    · cases hpieces : ts.splitOnP p with
      | nil => exact absurd hpieces (List.splitOnP_ne_nil p ts)
      | cons first pieces =>
        rw [hpieces] at ih
        obtain rfl | ht := List.mem_cons.1 ht
        · exact ⟨_, List.mem_cons_self, List.mem_cons_self⟩
        · obtain ⟨piece, hpiece, hmem⟩ := ih ht
          obtain rfl | hpiece := List.mem_cons.1 hpiece
          · exact ⟨_, List.mem_cons_self, List.mem_cons_of_mem _ hmem⟩
          · exact ⟨piece, List.mem_cons_of_mem _ hpiece, hmem⟩

/-- Every token that is no operator stands in an operand. -/
theorem exists_mem_operands {t : Token} (ht : t ∈ ts) (hc : t.isMark c = false) :
    ∃ piece ∈ operands c ts, t ∈ piece := by
  cases ts with
  | nil => cases ht
  | cons u ts =>
    rw [operands_cons]
    split_ifs with hu
    · obtain rfl | ht := List.mem_cons.1 ht
      · rw [hu] at hc
        cases hc
      · exact exists_mem_splitOnP ht hc
    · exact exists_mem_splitOnP ht hc

/-- Where no operand holds a comma, there is none. -/
theorem isMark_of_operands {τs : List TsType} (hc : c ≠ ',')
    (hlength : (operands c ts).length = τs.length)
    (h : ∀ p ∈ (operands c ts).zip τs, ∀ t ∈ p.1, t.isMark ',' = false) :
    ∀ t ∈ ts, t.isMark ',' = false := by
  intro t ht
  cases hmark : t.isMark c with
  | true =>
    cases t with
    | mark d =>
      have hd : d = c := of_decide_eq_true hmark
      simp [Token.isMark, hd, hc]
    | _ => rfl
  | false =>
    obtain ⟨piece, hpiece, hmem⟩ := exists_mem_operands ht hmark
    obtain ⟨τ, hτ⟩ : ∃ τ, (piece, τ) ∈ (operands c ts).zip τs := by
      obtain ⟨i, hi, rfl⟩ := List.getElem_of_mem hpiece
      have hτ : i < τs.length := hlength ▸ hi
      refine ⟨τs[i], ?_⟩
      rw [← List.getElem_zip (h := by simpa [hlength] using hi)]
      exact List.getElem_mem _
    exact h _ hτ t hmem

/-- No comma stands outside of the brackets of a signature. -/
theorem isMark_of_isSignature {head : List Token} (h : isSignature head = true) :
    ∀ t ∈ head, t.isMark ',' = false := by
  have hparameters : ∀ us, isParameters us = true → ∀ t ∈ us, t.isMark ',' = false := by
    intro us hus
    unfold isParameters at hus
    split at hus
    · simp [Token.isMark]
    · simp [Token.isMark]
    · cases hus
  unfold isSignature at h
  split at h
  · simpa [Token.isMark] using hparameters _ h
  · simpa [Token.isMark] using hparameters _ h
  · exact hparameters _ h

/-- The branches of a condition have a colon between them. -/
theorem branches?_eq {depth : Nat} {yes no : List Token} (h : branches? depth ts = some (yes, no)) :
    ts = yes ++ .mark ':' :: no := by
  induction ts generalizing depth yes with
  | nil => cases h
  | cons t ts ih =>
    rw [branches?] at h
    split_ifs at h with hend
    · obtain ⟨rfl, rfl⟩ := Prod.mk.inj (Option.some.inj h)
      have hmark : t.isMark ':' = true := (Bool.and_eq_true_iff.1 hend).1
      cases t with
      | mark d => rw [of_decide_eq_true hmark, List.nil_append]
      | _ => cases hmark
    · obtain ⟨⟨yes', no'⟩, hbranches, heq⟩ := Option.map_eq_some_iff.1 h
      obtain ⟨rfl, rfl⟩ := Prod.mk.inj heq
      rw [ih hbranches, List.cons_append]

/-- What a text is cut into. -/
theorem mem_of_form? {form : Form} (h : form? ts = some form) {t : Token} (ht : t ∈ ts) :
    match form with
    | .operands => True
    | .function head result => t ∈ head ∨ t ∈ result ∨ t = .arrow
    | .conditional check bound yes no =>
      t ∈ check ∨ t ∈ bound ∨ t ∈ yes ∨ t ∈ no ∨ t.isOutside = true ∨ t.isMark '?' = true ∨
        t = .mark ':'
    | .constrained inferred bound => t ∈ inferred ∨ t ∈ bound ∨ t.isOutside = true := by
  have hcut := List.takeWhile_append_dropWhile (p := (!·.isOutside)) (l := ts)
  unfold form? at h
  split at h
  · obtain rfl := Option.some.inj h
    trivial
  · next result harrow =>
    obtain rfl := Option.some.inj h
    rw [harrow] at hcut
    rw [← hcut, List.mem_append, List.mem_cons] at ht
    tauto
  · next u rest hne hword =>
    have hu : u.isOutside = true := by simpa using eq_false_of_dropWhile hword
    have hcut' := List.takeWhile_append_dropWhile (p := (!·.isMark '?')) (l := rest)
    split at h
    · obtain ⟨-, hform⟩ := Option.ite_none_right_eq_some.1 h
      obtain rfl := Option.some.inj hform
      rw [hword] at hcut
      rw [← hcut, List.mem_append, List.mem_cons] at ht
      rcases ht with ht | rfl | ht <;> tauto
    · next q more hq =>
      obtain ⟨⟨yes, no⟩, hbranches, rfl⟩ := Option.map_eq_some_iff.1 h
      have hquestion : q.isMark '?' = true := by simpa using eq_false_of_dropWhile hq
      rw [hq, branches?_eq hbranches] at hcut'
      rw [hword, ← hcut'] at hcut
      rw [← hcut] at ht
      simp only [List.mem_append, List.mem_cons] at ht
      rcases ht with ht | rfl | ht | rfl | ht | rfl | ht <;> tauto

/-- What the result of a function is cut into, if it is a predicate. -/
theorem eq_of_predicate? {subject rest : List Token} (h : predicate? ts = some (subject, rest)) :
    isSubject subject = true ∧ ts = subject ++ .word "is" :: rest := by
  have hcut := List.takeWhile_append_dropWhile (p := (!·.isPredicateWord)) (l := ts)
  unfold predicate? at h
  split at h
  · cases h
  · next t more hword =>
    obtain ⟨hsubject, heq⟩ := Option.ite_none_right_eq_some.1 h
    obtain ⟨rfl, rfl⟩ := Prod.mk.inj (Option.some.inj heq)
    have ht : t.isPredicateWord = true := by simpa using eq_false_of_dropWhile hword
    cases t with
    | word text =>
      obtain rfl : text = "is" := of_decide_eq_true ht
      rw [hword] at hcut
      exact ⟨hsubject, hcut.symm⟩
    | _ => cases ht

theorem isMark_of_isSubject {subject : List Token} (h : isSubject subject = true) :
    ∀ t ∈ subject, t.isMark ',' = false := by
  unfold isSubject at h
  split at h
  · simp [Token.isMark]
  · simp [Token.isMark]
  · cases h

theorem isMark_of_isOutside {t : Token} (h : t.isOutside = true) : t.isMark ',' = false := by
  cases t with
  | mark d => cases h
  | _ => rfl

theorem isMark_of_isMark {t : Token} {c d : Char} (h : t.isMark c = true) (hc : c ≠ d) :
    t.isMark d = false := by
  cases t with
  | mark e => rw [Token.isMark, of_decide_eq_true h, decide_eq_false hc]
  | _ => rfl

/-- No comma stands outside of the groups of a type. -/
theorem Reads.isMark_eq_false (h : Reads l ts τ) : ∀ t ∈ ts, t.isMark ',' = false := by
  induction h with
  | leaf h => exact isMark_of_operand? h
  | application h => exact isMark_of_operand? h
  | parenthesised h => exact isMark_of_operand? h
  | array h _ ih =>
    obtain ⟨g, rfl, hg⟩ := isMark_of_operand? h
    exact List.forall_mem_append.2 ⟨ih, by simpa using hg⟩
  | indexed h _ _ ih =>
    obtain ⟨g, rfl, hg⟩ := isMark_of_operand? h
    exact List.forall_mem_append.2 ⟨ih, by simpa using hg⟩
  | operator _ _ ih => exact List.forall_mem_cons.2 ⟨rfl, ih⟩
  | noOperator _ _ ih => exact ih
  | intersection hlength _ ih => exact isMark_of_operands (by decide) hlength ih
  | union hlength _ ih => exact isMark_of_operands (by decide) hlength ih
  | plain _ _ ih => exact ih
  | function h hhead _ ih =>
    intro t ht
    rcases mem_of_form? h ht with ht | ht | rfl
    · exact isMark_of_isSignature hhead t ht
    · exact ih t ht
    · rfl
  | conditional h _ _ _ _ ihcheck ihbound ihyes ihno =>
    intro t ht
    rcases mem_of_form? h ht with ht | ht | ht | ht | ht | ht | rfl
    · exact ihcheck t ht
    · exact ihbound t ht
    · exact ihyes t ht
    · exact ihno t ht
    · exact isMark_of_isOutside ht
    · exact isMark_of_isMark ht (by decide)
    · rfl
  | constrained h _ _ ihinferred ihbound =>
    intro t ht
    rcases mem_of_form? h ht with ht | ht | ht
    · exact ihinferred t ht
    · exact ihbound t ht
    · exact isMark_of_isOutside ht
  | predicate h _ ih =>
    obtain ⟨hsubject, rfl⟩ := eq_of_predicate? h
    exact List.forall_mem_append.2 ⟨isMark_of_isSubject hsubject, List.forall_mem_cons.2 ⟨rfl, ih⟩⟩
  | noPredicate _ _ ih => exact ih

end Commas

section Single

variable {ts : List Token} {τ : TsType}

/-- Tokens without operators, arrows and conditions. -/
structure IsSingle (ts : List Token) : Prop where
  plain : ∀ t ∈ ts, t.isOutside = false ∧ t.isMark '|' = false ∧ t.isMark '&' = false
  noOperator : ∀ name ∈ operators, ts.head? ≠ some (.word name)

theorem operands_of_not_mem {c : Char} (h : ∀ t ∈ ts, t.isMark c = false) : operands c ts = [ts] := by
  cases ts with
  | nil => rfl
  | cons t ts =>
    rw [operands_cons, h t List.mem_cons_self, if_neg Bool.false_ne_true, List.splitOnP_eq_singleton h]

/-- Tokens without operators bind tightly if they are read at all. -/
theorem IsSingle.isTight_iff (h : IsSingle ts) : IsTight ts τ ↔ Reads .suffixed ts τ := by
  have hor := operands_of_not_mem fun t ht => (h.plain t ht).2.1
  have hand := operands_of_not_mem fun t ht => (h.plain t ht).2.2
  constructor
  · rintro ⟨-, us, vs, hus, hvs, -, hread⟩
    rw [hor] at hus
    obtain rfl := List.singleton_inj.1 hus
    rw [hand] at hvs
    obtain rfl := List.singleton_inj.1 hvs
    exact hread
  · exact fun hread => ⟨form?_eq_operands_iff.2 fun t ht => (h.plain t ht).1, ts, ts, hor, hand,
      h.noOperator, hread⟩

/-- Such tokens are read as an operand. -/
theorem IsSingle.reads_iff (h : IsSingle ts) : Reads .full ts τ ↔ IsTight ts τ := by
  refine ⟨fun hread => h.isTight_iff.2 ?_, IsTight.reads⟩
  have hfull := hread.full_inv
  rw [form?_eq_operands_iff.2 fun t ht => (h.plain t ht).1] at hfull
  obtain ⟨τs, hlength, hτs, rfl⟩ := hfull.union_inv
  rw [operands_of_not_mem fun t ht => (h.plain t ht).2.1] at hlength hτs
  obtain ⟨σ, rfl⟩ := List.length_eq_one_iff.1 hlength.symm
  obtain ⟨σs, hlength, hσs, hσ⟩ := (hτs (ts, σ) List.mem_cons_self).intersection_inv
  rw [operands_of_not_mem fun t ht => (h.plain t ht).2.2] at hlength hσs
  obtain ⟨υ, rfl⟩ := List.length_eq_one_iff.1 hlength.symm
  obtain ⟨name, us, -, hname, heq, -⟩ | ⟨-, hsuffixed⟩ := (hσs (ts, υ) List.mem_cons_self).operand_inv
  · exact absurd (congrArg List.head? heq) (h.noOperator name hname)
  · rw [show joined .union [σ] = υ from hσ]
    exact hsuffixed

theorem not_mem_reservedWords {name : String} (h : isName name = true) : name ∉ reservedWords := by
  rw [isName, Bool.and_eq_true, Bool.not_eq_true', Bool.not_eq_true', List.contains_eq_mem,
    decide_eq_false_iff_not] at h
  exact h.2

/-- A name is one operand. -/
theorem isTight_name {name : String} (h : isName name = true) :
    IsTight [.word name] (.reference (.ofName name) []) := by
  have hne : ∀ word ∈ reservedWords, name ≠ word := by
    rintro word hword rfl
    exact not_mem_reservedWords h hword
  have hsingle : IsSingle [.word name] := by
    refine ⟨fun t ht => ?_, fun word hword hhead => ?_⟩
    · rw [List.mem_singleton.1 ht]
      exact ⟨decide_eq_false (hne "extends" (by decide)), rfl, rfl⟩
    · cases hhead
      exact hne name (List.mem_append_left _ hword) rfl
  have hnumeral : isNumeral name = false := by
    rw [isName, Bool.and_eq_true, Bool.not_eq_true'] at h
    exact h.1
  refine hsingle.isTight_iff.2 (.leaf ?_)
  have hleaf : leaf? [.word name] = some (.reference (.ofName name) []) := by
    have hliteral : isLiteral [.word name] = false := by
      simp [isLiteral, isNumber, hnumeral]
    have hpath : path? [.word name] = some (.ofName name) := by
      simp [path?, members?, h, hnumeral, Path.ofName]
    simp [leaf?, hliteral, target?, hpath, hne "typeof" (by decide)]
  rw [operand?, List.reverse_singleton]
  simp [hleaf]

/-- The record of text keys with values of a type. -/
def recordOf (τ : TsType) : TsType :=
  .reference (.ofName "Record") [.reference (.ofName "string") [], τ]

def recordTokens (value : List Token) : List Token :=
  [.word "Record", .group .angle false (.word "string" :: .mark ',' :: value)]

theorem isSingle_record (value : List Token) : IsSingle (recordTokens value) := by
  refine ⟨?_, ?_⟩
  · simp [recordTokens, Token.isOutside, Token.isMark]
  · simp [recordTokens, operators]

theorem operand?_record (value : List Token) :
    operand? (recordTokens value) =
      some (.application (.ofName "Record") ([.word "string"] :: value.splitOnP (Token.isMark ','))) := by
  have hpath : target? [.word "Record"] = some (.ofName "Record") := rfl
  have hword : ∀ t ∈ [Token.word "string"], t.isMark ',' = false := by simp [Token.isMark]
  have hsplit : (.word "string" :: .mark ',' :: value : List Token).splitOnP (Token.isMark ',') =
      [.word "string"] :: value.splitOnP (Token.isMark ',') :=
    List.splitOnP_append_cons_of_forall_mem hword _ rfl value
  simp [operand?, recordTokens, hpath, hsplit]

/-- A list that is not parted is its only piece. -/
theorem eq_of_splitOnP_eq_singleton {p : Token → Bool} {piece : List Token}
    (h : ts.splitOnP p = [piece]) : ts = piece := by
  by_cases hall : ∀ t ∈ ts, p t = false
  · rw [List.splitOnP_eq_singleton hall] at h
    exact List.singleton_inj.1 h
  · obtain ⟨t, hnot⟩ := not_forall.1 hall
    obtain ⟨ht, hp⟩ := Classical.not_imp.1 hnot
    obtain ⟨before, after, rfl⟩ := List.append_of_mem ht
    rw [List.splitOnP_append_cons _ _ (by simpa using hp)] at h
    have hlength := congrArg List.length h
    have hbefore := List.length_pos_iff.2 (List.splitOnP_ne_nil p before)
    have hafter := List.length_pos_iff.2 (List.splitOnP_ne_nil p after)
    rw [List.length_append, List.length_singleton] at hlength
    omega

/-- A record is one operand, and its values have the type that they are read as. -/
theorem isTight_record_iff : IsTight (recordTokens ts) (recordOf τ) ↔ Reads .full ts τ := by
  rw [(isSingle_record ts).isTight_iff]
  constructor
  · intro h
    have hinv := h.suffixed_inv
    rw [operand?_record] at hinv
    obtain ⟨τs, hlength, harguments, heq⟩ := hinv
    obtain ⟨-, rfl⟩ := TsType.reference.inj heq
    obtain ⟨piece, hpiece⟩ := List.length_eq_one_iff.1 (Nat.succ.inj hlength)
    rw [hpiece] at harguments
    rw [eq_of_splitOnP_eq_singleton hpiece]
    exact harguments (piece, τ) (by simp)
  · intro h
    refine .application (operand?_record ts) ?_ ?_
    · rw [List.splitOnP_eq_singleton h.isMark_eq_false]
      rfl
    · rw [List.splitOnP_eq_singleton h.isMark_eq_false]
      simp only [List.zip_cons_cons, List.zip_nil_left, List.forall_mem_cons]
      exact ⟨(isTight_name (by decide)).reads, h, by simp⟩

theorem reads_record_iff : Reads .full (recordTokens ts) (recordOf τ) ↔ Reads .full ts τ :=
  (isSingle_record ts).reads_iff.trans isTight_record_iff

end Single

end TypeExport.TypeText

import Mathlib.Data.List.TakeWhile
import TypeExport.Proofs.TypeText.Grammar

/-!
# Array brackets behind types

Brackets behind the tokens of a type belong to what stands last and binds tightest.  So they make an
array of the whole type just if it is an operand that no operator, arrow or condition reaches into.
-/

namespace TypeExport.TypeText

/-- The brackets of an array type. -/
def brackets (afterBreak : Bool) : Token :=
  .group .square afterBreak []

/-- The tokens are one operand with nothing around it. -/
def IsTight (ts : List Token) (τ : TsType) : Prop :=
  form? ts = some .operands ∧ ∃ us vs, operands '|' ts = [us] ∧ operands '&' us = [vs] ∧
    (∀ name ∈ operators, vs.head? ≠ some (.word name)) ∧ Reads .suffixed vs τ

section Cutting

variable {c : Char} {b : Bool} {ts us : List Token}

/-- An item that does not part stays with the last piece. -/
theorem splitOnP_append_singleton {α : Type} {p : α → Bool} {x : α} (hx : p x = false) (s : List α) :
    ∃ init last, s.splitOnP p = init ++ [last] ∧ (s ++ [x]).splitOnP p = init ++ [last ++ [x]] := by
  induction s with
  | nil => exact ⟨[], [], by simp, by simp [List.splitOnP_cons_eq_if_modifyHead, hx]⟩
  | cons c s ih =>
    obtain ⟨init, last, hs, hsx⟩ := ih
    rw [List.cons_append, List.splitOnP_cons_eq_if_modifyHead, List.splitOnP_cons_eq_if_modifyHead, hs,
      hsx]
    split_ifs with hc
    · exact ⟨[] :: init, last, rfl, rfl⟩
    · cases init with
      | nil => exact ⟨[], c :: last, rfl, rfl⟩
      | cons first init => exact ⟨(c :: first) :: init, last, rfl, rfl⟩

/-- Brackets belong to the last operand. -/
theorem operands_append (c : Char) (b : Bool) (ts : List Token) :
    ∃ init last, operands c ts = init ++ [last] ∧
      operands c (ts ++ [brackets b]) = init ++ [last ++ [brackets b]] := by
  cases ts with
  | nil => exact ⟨[], [], rfl, by simp [operands, brackets, Token.isMark,
      List.splitOnP_cons_eq_if_modifyHead]⟩
  | cons t ts =>
    rw [List.cons_append, operands_cons, operands_cons]
    split_ifs
    · exact splitOnP_append_singleton rfl ts
    · exact splitOnP_append_singleton rfl (t :: ts)

/-- Brackets behind tokens make no operand of their own. -/
theorem operands_append_eq_singleton_iff {us' : List Token} :
    operands c (ts ++ [brackets b]) = [us'] ↔
      ∃ us, operands c ts = [us] ∧ us' = us ++ [brackets b] := by
  obtain ⟨init, last, hts, happend⟩ := operands_append c b ts
  rw [hts, happend]
  constructor
  · intro h
    cases init with
    | nil => exact ⟨last, rfl, (List.singleton_inj.1 h).symm⟩
    | cons first init => simp at h
  · rintro ⟨us, hus, rfl⟩
    cases init with
    | nil => rw [List.singleton_inj.1 hus]; rfl
    | cons first init => simp at hus

/-- What stands behind a condition belongs to its second branch. -/
theorem branches?_append {depth : Nat} {yes no : List Token}
    (h : branches? depth ts = some (yes, no)) (more : List Token) :
    branches? depth (ts ++ more) = some (yes, no ++ more) := by
  induction ts generalizing depth yes with
  | nil => cases h
  | cons t ts ih =>
    rw [branches?] at h
    rw [List.cons_append, branches?]
    split_ifs at h ⊢ with hend
    · obtain ⟨rfl, rfl⟩ := Prod.mk.inj (Option.some.inj h)
      rfl
    · obtain ⟨⟨yes', no'⟩, hbranches, heq⟩ := Option.map_eq_some_iff.1 h
      obtain ⟨rfl, rfl⟩ := Prod.mk.inj heq
      rw [ih hbranches]
      rfl

/-- Tokens without arrows and conditions are operands. -/
theorem form?_eq_operands_iff : form? ts = some .operands ↔ ∀ t ∈ ts, t.isOutside = false := by
  have hnone : ts.dropWhile (!·.isOutside) = [] ↔ ∀ t ∈ ts, t.isOutside = false := by
    simp [List.dropWhile_eq_nil_iff]
  rw [← hnone]
  unfold form?
  constructor
  · intro h
    split at h
    · assumption
    · cases h
    · split at h
      · obtain ⟨-, hform⟩ := Option.ite_none_right_eq_some.1 h
        cases hform
      · obtain ⟨⟨yes, no⟩, -, hform⟩ := Option.map_eq_some_iff.1 h
        cases hform
  · intro h
    rw [h]

/-- Brackets belong to the result of a function, to the last branch of a condition and to the bound of an
inferred type. -/
def Form.append (more : List Token) : Form → Form
  | .operands => .operands
  | .function head result => .function head (result ++ more)
  | .conditional check bound yes no => .conditional check bound yes (no ++ more)
  | .constrained inferred bound => .constrained inferred (bound ++ more)

/-- What stands behind the first place that fails the test does not move it. -/
theorem span_append {α : Type} {p : α → Bool} {s : List α} (h : s.dropWhile p ≠ []) (more : List α) :
    (s ++ more).dropWhile p = s.dropWhile p ++ more ∧
      (s ++ more).takeWhile p = s.takeWhile p := by
  induction s with
  | nil => exact absurd rfl h
  | cons c s ih =>
    rw [List.cons_append, List.dropWhile_cons, List.dropWhile_cons, List.takeWhile_cons,
      List.takeWhile_cons]
    rw [List.dropWhile_cons] at h
    split_ifs at h ⊢ with hc
    · rw [(ih h).1, (ih h).2]
      exact ⟨rfl, rfl⟩
    · exact ⟨rfl, rfl⟩

section Forms

variable {t : Token} {rest : List Token}

theorem form?_of_arrow (h : ts.dropWhile (!·.isOutside) = .arrow :: rest) :
    form? ts = some (.function (ts.takeWhile (!·.isOutside)) rest) := by
  unfold form?
  rw [h]

theorem form?_of_constrained (h : ts.dropWhile (!·.isOutside) = t :: rest) (ht : t ≠ .arrow)
    (hrest : rest.dropWhile (!·.isMark '?') = []) :
    form? ts = if endsInferred (ts.takeWhile (!·.isOutside)) then
      some (.constrained (ts.takeWhile (!·.isOutside)) rest) else none := by
  unfold form?
  rw [h]
  cases t <;> first | exact absurd rfl ht | (dsimp only; rw [hrest])

theorem form?_of_conditional {q : Token} {more : List Token}
    (h : ts.dropWhile (!·.isOutside) = t :: rest) (ht : t ≠ .arrow)
    (hrest : rest.dropWhile (!·.isMark '?') = q :: more) :
    form? ts = (branches? 0 more).map fun (yes, no) =>
      .conditional (ts.takeWhile (!·.isOutside)) (rest.takeWhile (!·.isMark '?')) yes no := by
  unfold form?
  rw [h]
  cases t <;> first | exact absurd rfl ht | (dsimp only; rw [hrest])

end Forms

/-- Brackets behind a type keep its form, and go to the last part of it. -/
theorem form?_append {form : Form} (h : form? ts = some form) :
    form? (ts ++ [brackets b]) = some (form.append [brackets b]) := by
  cases hsplit : ts.dropWhile (!·.isOutside) with
  | nil =>
    have hall : ∀ t ∈ ts, t.isOutside = false := by simpa [List.dropWhile_eq_nil_iff] using hsplit
    obtain rfl := Option.some.inj ((form?_eq_operands_iff.2 hall).symm.trans h)
    refine form?_eq_operands_iff.2 fun t ht => ?_
    obtain ht | ht := List.mem_append.1 ht
    · exact hall t ht
    · rw [List.mem_singleton.1 ht]
      rfl
  | cons t rest =>
    obtain ⟨hdrop, htake⟩ := span_append (s := ts) (p := (!·.isOutside)) (by simp [hsplit])
      [brackets b]
    rw [hsplit, List.cons_append] at hdrop
    by_cases harrow : t = .arrow
    · subst harrow
      rw [form?_of_arrow hsplit] at h
      obtain rfl := Option.some.inj h
      rw [form?_of_arrow hdrop, htake]
      rfl
    · cases hrest : rest.dropWhile (!·.isMark '?') with
      | nil =>
        rw [form?_of_constrained hsplit harrow hrest] at h
        obtain ⟨hinferred, hform⟩ := Option.ite_none_right_eq_some.1 h
        obtain rfl := Option.some.inj hform
        have hrest' : (rest ++ [brackets b]).dropWhile (!·.isMark '?') = [] := by
          rw [List.dropWhile_append, hrest]
          rfl
        rw [form?_of_constrained hdrop harrow hrest', htake, if_pos hinferred]
        rfl
      | cons q more =>
        rw [form?_of_conditional hsplit harrow hrest] at h
        obtain ⟨⟨yes, no⟩, hbranches, rfl⟩ := Option.map_eq_some_iff.1 h
        obtain ⟨hrest', hbound⟩ := span_append (s := rest) (p := (!·.isMark '?')) (by simp [hrest])
          [brackets b]
        rw [hrest, List.cons_append] at hrest'
        rw [form?_of_conditional hdrop harrow hrest', branches?_append hbranches, htake, hbound]
        rfl

theorem operand?_append (hne : ts ≠ []) :
    operand? (ts ++ [brackets b]) = if b then none else some (.array ts) := by
  unfold operand?
  rw [List.reverse_append, List.reverse_singleton, List.singleton_append, brackets]
  cases hrev : ts.reverse with
  | nil => exact absurd (List.reverse_eq_nil_iff.1 hrev) hne
  | cons t rest =>
    rw [← List.reverse_reverse ts, hrev]
    cases b <;> rfl

/-- Brackets behind a predicate go to the type in it. -/
theorem predicate?_append (ts : List Token) (b : Bool) :
    predicate? (ts ++ [brackets b]) =
      (predicate? ts).map fun (subject, rest) => (subject, rest ++ [brackets b]) := by
  unfold predicate?
  cases hdrop : ts.dropWhile (!·.isPredicateWord) with
  | nil =>
    rw [List.dropWhile_append, hdrop]
    rfl
  | cons t rest =>
    obtain ⟨hdrop', htake⟩ := span_append (p := (!·.isPredicateWord)) (s := ts) (by simp [hdrop])
      [brackets b]
    rw [hdrop', htake, hdrop]
    dsimp only [List.cons_append]
    split_ifs
    · rfl
    · rfl

end Cutting

section Reading

variable {l : Level} {b : Bool} {ts : List Token} {τ σ : TsType}

theorem eq_singleton_of_joined {join : List TsType → TsType} {τs : List TsType}
    (h : joined join τs = τ) (hjoin : join τs ≠ τ) : τs = [τ] := by
  unfold joined at h
  split at h
  · rw [h]
  · exact absurd h hjoin

theorem exists_eq_singleton {pieces : List (List Token)}
    (hlength : pieces.length = [τ].length) (h : ∀ p ∈ pieces.zip [τ], Reads l p.1 p.2) :
    ∃ us, pieces = [us] ∧ Reads l us τ := by
  obtain ⟨us, rfl⟩ := List.length_eq_one_iff.1 hlength
  exact ⟨us, rfl, h (us, τ) List.mem_cons_self⟩

/-- What is read as an array is one operand. -/
theorem isTight_of_array (h : Reads .full ts (.array τ)) : IsTight ts (.array τ) := by
  have hform := h.full_inv
  split at hform
  · next hplain =>
    obtain ⟨τs, hlength, hτs, hjoined⟩ := hform.union_inv
    obtain rfl := eq_singleton_of_joined hjoined.symm TsType.noConfusion
    obtain ⟨us, hus, hread⟩ := exists_eq_singleton hlength hτs
    obtain ⟨σs, hlength, hσs, hjoined⟩ := hread.intersection_inv
    obtain rfl := eq_singleton_of_joined hjoined.symm TsType.noConfusion
    obtain ⟨vs, hvs, hread⟩ := exists_eq_singleton hlength hσs
    obtain ⟨name, rest, υ, -, -, -, heq⟩ | ⟨hname, hread⟩ := hread.operand_inv
    · cases heq
    · exact ⟨hplain, us, vs, hus, hvs, hname, hread⟩
  · obtain ⟨-, ρ, -, heq⟩ := hform
    cases heq
  · obtain ⟨γ, β, υ, ν, -, -, -, -, heq⟩ := hform
    cases heq
  · obtain ⟨ι, β, -, -, heq⟩ := hform
    cases heq
  · exact hform.elim

theorem Reads.intersection_single {us vs : List Token} (hvs : operands '&' us = [vs])
    (hname : ∀ name ∈ operators, vs.head? ≠ some (.word name)) (hread : Reads .suffixed vs τ) :
    Reads .intersection us τ := by
  have hjoined : Reads .intersection us (joined .intersection [τ]) :=
    .intersection (by rw [hvs]; rfl) (by simpa [hvs] using Reads.noOperator hname hread)
  exact hjoined

/-- One operand is read at every level. -/
theorem IsTight.reads (h : IsTight ts τ) : Reads .full ts τ := by
  obtain ⟨hform, us, vs, hus, hvs, hname, hread⟩ := h
  have hintersection := Reads.intersection_single hvs hname hread
  have hjoined : Reads .union ts (joined .union [τ]) :=
    .union (by rw [hus]; rfl) (by simpa [hus] using hintersection)
  exact .plain hform hjoined

theorem Reads.ne_nil (h : Reads .suffixed ts τ) : ts ≠ [] := by
  rintro rfl
  exact h.suffixed_inv

theorem Reads.array_append (h : Reads .suffixed ts τ) :
    Reads .suffixed (ts ++ [brackets false]) (.array τ) :=
  .array (operand?_append h.ne_nil) h

/-- Brackets make an array of one operand if they stand on its line. -/
theorem isTight_append_iff :
    IsTight (ts ++ [brackets b]) (.array τ) ↔ b = false ∧ IsTight ts τ := by
  constructor
  · rintro ⟨hform, us', vs', hus', hvs', hname, hread⟩
    obtain ⟨us, hus, rfl⟩ := operands_append_eq_singleton_iff.1 hus'
    obtain ⟨vs, hvs, rfl⟩ := operands_append_eq_singleton_iff.1 hvs'
    have hinv := hread.suffixed_inv
    by_cases hne : vs = []
    · subst hne
      cases hinv
    · rw [operand?_append hne] at hinv
      cases b with
      | true => exact hinv.elim
      | false =>
        obtain ⟨ε, hread, heq⟩ := hinv
        cases heq
        refine ⟨rfl, ?_, us, vs, hus, hvs, fun name hmem hhead => hname name hmem ?_, hread⟩
        · rw [form?_eq_operands_iff] at hform ⊢
          exact fun t ht => hform t (List.mem_append_left _ ht)
        · rw [List.head?_append, hhead]
          rfl
  · rintro ⟨rfl, hform, us, vs, hus, hvs, hname, hread⟩
    refine ⟨form?_append hform, us ++ [brackets false], vs ++ [brackets false],
      operands_append_eq_singleton_iff.2 ⟨us, hus, rfl⟩,
      operands_append_eq_singleton_iff.2 ⟨vs, hvs, rfl⟩, fun name hmem hhead => ?_,
      hread.array_append⟩
    rw [List.head?_append_of_ne_nil _ hread.ne_nil] at hhead
    exact hname name hmem hhead

/-- Tokens with brackets behind them are an array of the type of the tokens just if these are one operand
on the line of the brackets. -/
theorem reads_array_iff :
    Reads .full (ts ++ [brackets b]) (.array τ) ↔ b = false ∧ IsTight ts τ :=
  ⟨fun h => isTight_append_iff.1 (isTight_of_array h), fun h => (isTight_append_iff.2 h).reads⟩

/-- If every last piece takes more tokens, so do pieces that are read one by one. -/
theorem exists_zip_append {init : List (List Token)} {last more : List Token} {τs : List TsType}
    (hlength : (init ++ [last]).length = τs.length)
    (h : ∀ p ∈ (init ++ [last]).zip τs, Reads l p.1 p.2)
    (hmore : ∀ p ∈ (init ++ [last]).zip τs, ∃ σ, Reads l (p.1 ++ more) σ) :
    ∃ σs, (init ++ [last ++ more]).length = σs.length ∧
      ∀ p ∈ (init ++ [last ++ more]).zip σs, Reads l p.1 p.2 := by
  have hne : τs ≠ [] := by
    rintro rfl
    simp at hlength
  obtain ⟨υs, υ, rfl⟩ := (List.eq_nil_or_concat' τs).resolve_left hne
  rw [List.length_append, List.length_append] at hlength
  have hinit : init.length = υs.length := Nat.add_right_cancel hlength
  rw [List.zip_append hinit] at h hmore
  obtain ⟨σ, hσ⟩ := hmore (last, υ) (by simp)
  refine ⟨υs ++ [σ], by simp [hinit], fun p hp => ?_⟩
  rw [List.zip_append hinit] at hp
  obtain hp | hp := List.mem_append.1 hp
  · exact h p (List.mem_append_left _ hp)
  · obtain rfl : p = (last ++ more, σ) := by simpa using hp
    exact hσ

/-- Brackets behind a type never spoil it. -/
theorem Reads.exists_append (h : Reads l ts τ) : ∃ σ, Reads l (ts ++ [brackets false]) σ := by
  induction h with
  | leaf h => exact ⟨_, (Reads.leaf h).array_append⟩
  | application h hlength harguments => exact ⟨_, (Reads.application h hlength harguments).array_append⟩
  | parenthesised h hinner => exact ⟨_, (Reads.parenthesised h hinner).array_append⟩
  | array h helement => exact ⟨_, (Reads.array h helement).array_append⟩
  | indexed h hobject hindex => exact ⟨_, (Reads.indexed h hobject hindex).array_append⟩
  | operator hname _ ih =>
    obtain ⟨σ, hσ⟩ := ih
    exact ⟨_, .operator hname hσ⟩
  | @noOperator ts τ hname h ih =>
    obtain ⟨σ, hσ⟩ := ih
    refine ⟨σ, .noOperator (fun name hmem hhead => ?_) hσ⟩
    rw [List.head?_append_of_ne_nil _ h.ne_nil] at hhead
    exact hname name hmem hhead
  | @intersection ts τs hlength h ih =>
    obtain ⟨init, last, hts, happend⟩ := operands_append '&' false ts
    rw [hts] at hlength h ih
    obtain ⟨σs, hlength', hσs⟩ := exists_zip_append hlength h ih
    rw [← happend] at hlength' hσs
    exact ⟨_, .intersection hlength' hσs⟩
  | @union ts τs hlength h ih =>
    obtain ⟨init, last, hts, happend⟩ := operands_append '|' false ts
    rw [hts] at hlength h ih
    obtain ⟨σs, hlength', hσs⟩ := exists_zip_append hlength h ih
    rw [← happend] at hlength' hσs
    exact ⟨_, .union hlength' hσs⟩
  | plain h _ ih =>
    obtain ⟨σ, hσ⟩ := ih
    exact ⟨σ, .plain (form?_append h) hσ⟩
  | function h hhead _ ih =>
    obtain ⟨σ, hσ⟩ := ih
    exact ⟨_, .function (form?_append h) hhead hσ⟩
  | conditional h hcheck hbound hyes _ _ _ _ ih =>
    obtain ⟨σ, hσ⟩ := ih
    exact ⟨_, .conditional (form?_append h) hcheck hbound hyes hσ⟩
  | constrained h hinferred _ _ ih =>
    obtain ⟨σ, hσ⟩ := ih
    exact ⟨_, .constrained (form?_append h) hinferred hσ⟩
  | predicate h _ ih =>
    obtain ⟨σ, hσ⟩ := ih
    exact ⟨_, .predicate (by rw [predicate?_append, h]; rfl) hσ⟩
  | noPredicate h _ ih =>
    obtain ⟨σ, hσ⟩ := ih
    exact ⟨_, .noPredicate (by rw [predicate?_append, h]; rfl) hσ⟩

end Reading

end TypeExport.TypeText

import TypeExport.Proofs.TypeText.Glyphs

/-!
# How type texts are spelled

The tokens of a TypeScript type are words and numbers, texts between quotes, arrows, single marks, and
groups between matching brackets.  Blanks stand between tokens.  A group knows whether a line break
stands before it, since the brackets of an array type must follow on the same line.  Glyphs spell at
most one list of tokens, and what stands behind them keeps its tokens unless it continues their last
word.
-/

namespace TypeExport.TypeText

inductive Bracket where
  | round
  | square
  | curly
  | angle
  deriving DecidableEq, Repr

inductive Token where
  | word (text : String)
  | quoted (text : String)
  | mark (c : Char)
  | arrow
  | group (bracket : Bracket) (afterBreak : Bool) (inner : List Token)
  deriving Repr

inductive GlyphClass where
  | blank (isBreak : Bool)
  | letter
  | quoted
  | mark
  | equals
  | opening (bracket : Bracket)
  | closing (bracket : Bracket)
  | other
  deriving DecidableEq, Repr

def spaces : List Char :=
  [' ', '\t', '\x0b', '\x0c', '\u0085', '\u00a0', '\u1680', '\u2000', '\u2001', '\u2002', '\u2003',
   '\u2004', '\u2005', '\u2006', '\u2007', '\u2008', '\u2009', '\u200a', '\u200b', '\u202f', '\u205f',
   '\u3000', '\ufeff']

def marks : List Char := ['|', '&', '?', ':', ';', ',', '.', '-', '+']

/-- Letters, digits, low lines, dollar signs, number signs and all that is not ASCII continue words. -/
def charClass (c : Char) : GlyphClass :=
  match c with
  | '(' => .opening .round
  | ')' => .closing .round
  | '[' => .opening .square
  | ']' => .closing .square
  | '\x7b' => .opening .curly
  | '\x7d' => .closing .curly
  | '<' => .opening .angle
  | '>' => .closing .angle
  | '=' => .equals
  | c =>
    if c ∈ marks then .mark
    else if c ∈ lineBreaks then .blank true
    else if c ∈ spaces then .blank false
    else if c.isAlphanum ∨ c = '_' ∨ c = '$' ∨ c = '#' ∨ 128 ≤ c.toNat then .letter
    else .other

namespace Glyph

def kind : Glyph → GlyphClass
  | .plain c => charClass c
  | .letter _ => .letter
  | .quoted _ => .quoted

def chars : Glyph → List Char
  | .plain c => [c]
  | .letter c => [c]
  | .quoted text => text.toList

end Glyph

def textOf (gs : List Glyph) : String :=
  String.ofList (gs.flatMap Glyph.chars)

/-- Whether a text is one word. -/
def isOneWord (s : String) : Bool :=
  s ≠ "" && s.toList.all fun c => charClass c = .letter

/-- The glyphs do not go on with a letter. -/
def EndsWord (rest : List Glyph) : Prop :=
  ∀ x ∈ rest.head?, x.kind ≠ .letter

/-- The glyphs end here, or a bracket closes. -/
def EndsGroup (rest : List Glyph) : Prop :=
  ∀ x ∈ rest.head?, ∃ k, x.kind = .closing k

/-- The tokens that glyphs spell; the flag says whether a line break stands before them. -/
inductive Spells : Bool → List Glyph → List Token → Prop
  | nil (b : Bool) : Spells b [] []
  | blank {b isBreak : Bool} {x : Glyph} {s : List Glyph} {ts : List Token}
      (hx : x.kind = .blank isBreak) (h : Spells (b || isBreak) s ts) : Spells b (x :: s) ts
  | word {b : Bool} {x : Glyph} {w s : List Glyph} {ts : List Token}
      (hw : ∀ y ∈ x :: w, y.kind = .letter) (hs : EndsWord s) (h : Spells false s ts) :
      Spells b (x :: w ++ s) (.word (textOf (x :: w)) :: ts)
  | quoted {b : Bool} {text : String} {s : List Glyph} {ts : List Token} (h : Spells false s ts) :
      Spells b (.quoted text :: s) (.quoted text :: ts)
  | mark {b : Bool} {c : Char} {s : List Glyph} {ts : List Token} (hc : charClass c = .mark)
      (h : Spells false s ts) : Spells b (.plain c :: s) (.mark c :: ts)
  | equals {b : Bool} {x : Glyph} {s : List Glyph} {ts : List Token} (hx : x ≠ .plain '>')
      (h : Spells false (x :: s) ts) : Spells b (.plain '=' :: x :: s) (.mark '=' :: ts)
  | arrow {b : Bool} {s : List Glyph} {ts : List Token} (h : Spells false s ts) :
      Spells b (.plain '=' :: .plain '>' :: s) (.arrow :: ts)
  | group {b : Bool} {k : Bracket} {x y : Glyph} {s rest : List Glyph} {inner ts : List Token}
      (hx : x.kind = .opening k) (hy : y.kind = .closing k) (hs : Spells false s inner)
      (h : Spells false rest ts) : Spells b (x :: s ++ y :: rest) (.group k b inner :: ts)

/-- Whether a line break stands behind the last token of a text. -/
def breakBehind (b : Bool) : List Glyph → Bool
  | [] => b
  | x :: s =>
    match x.kind with
    | .blank isBreak => breakBehind (b || isBreak) s
    | _ => breakBehind false s

section Breaks

variable {b : Bool} {x : Glyph} {s rest : List Glyph}

theorem breakBehind_cons_of_blank {isBreak : Bool} (hx : x.kind = .blank isBreak) :
    breakBehind b (x :: s) = breakBehind (b || isBreak) s := by
  rw [breakBehind, hx]

theorem breakBehind_cons (hx : ∀ isBreak, x.kind ≠ .blank isBreak) :
    breakBehind b (x :: s) = breakBehind false s := by
  rw [breakBehind]
  split
  · next isBreak h => exact absurd h (hx isBreak)
  · rfl

/-- Only what stands behind the last glyph that is no blank matters. -/
theorem breakBehind_append_cons (hx : ∀ isBreak, x.kind ≠ .blank isBreak) :
    breakBehind b (s ++ x :: rest) = breakBehind false rest := by
  induction s generalizing b with
  | nil => exact breakBehind_cons hx
  | cons y s ih =>
    rw [List.cons_append, breakBehind]
    split
    · exact ih
    · exact ih

theorem breakBehind_letters {w : List Glyph} (hw : ∀ y ∈ x :: w, y.kind = .letter) :
    breakBehind b (x :: w ++ s) = breakBehind false s := by
  have hblank : ∀ y ∈ x :: w, ∀ isBreak, y.kind ≠ .blank isBreak := by
    intro y hy isBreak
    rw [hw y hy]
    exact GlyphClass.noConfusion
  rw [← List.dropLast_append_getLast (List.cons_ne_nil x w), List.append_assoc, List.singleton_append,
    breakBehind_append_cons (hblank _ (List.getLast_mem _))]

end Breaks

section Append

variable {b : Bool} {s more rest : List Glyph} {ts us : List Token}

/-- What stands behind a text keeps its tokens unless it goes on with a letter. -/
theorem Spells.append (h : Spells b s ts) (hmore : Spells (breakBehind b s) more us)
    (hend : EndsWord more) : Spells b (s ++ more) (ts ++ us) := by
  induction h with
  | nil b => exact hmore
  | blank hx _ ih =>
    rw [breakBehind_cons_of_blank hx] at hmore
    exact .blank hx (ih hmore)
  | @word b x w s ts hw hs _ ih =>
    rw [breakBehind_letters hw] at hmore
    rw [List.append_assoc]
    refine .word hw ?_ (ih hmore)
    cases s with
    | nil => exact hend
    | cons y s => exact hs
  | quoted _ ih =>
    rw [breakBehind_cons (by simp [Glyph.kind])] at hmore
    exact .quoted (ih hmore)
  | mark hc _ ih =>
    rw [breakBehind_cons (by simp [Glyph.kind, hc])] at hmore
    exact .mark hc (ih hmore)
  | equals hx _ ih =>
    rw [breakBehind_cons (by simp [Glyph.kind, charClass])] at hmore
    exact .equals hx (ih hmore)
  | arrow _ ih => exact .arrow (ih hmore)
  | @group b k x y s rest inner ts hx hy hs _ _ ih =>
    rw [breakBehind_append_cons (by simp [hy])] at hmore
    have hsplit : x :: s ++ y :: rest ++ more = x :: s ++ y :: (rest ++ more) := by simp
    rw [hsplit]
    exact .group hx hy hs (ih hmore)

theorem endsWord_nil : EndsWord [] := by
  simp [EndsWord]

theorem endsWord_cons {x : Glyph} (hx : x.kind ≠ .letter) : EndsWord (x :: rest) := by
  intro y hy
  obtain rfl := Option.some.inj hy
  exact hx

theorem Spells.space (h : Spells b s ts) : Spells b (.plain ' ' :: s) ts := by
  have hspace : Spells (b || false) s ts := by rwa [Bool.or_false]
  exact .blank (by decide) hspace

theorem isOneWord_iff {s : String} :
    isOneWord s = true ↔ s ≠ "" ∧ ∀ c ∈ s.toList, charClass c = .letter := by
  simp [isOneWord]

theorem opening?_of_letter {c : Char} (h : charClass c = .letter) : opening? c = none := by
  unfold opening?
  split
  all_goals first | rfl | exact absurd h (by decide)

theorem textOf_plainGlyphs (s : String) : textOf (plainGlyphs s) = s := by
  have hchars : (plainGlyphs s).flatMap Glyph.chars = s.toList := by
    rw [plainGlyphs, List.flatMap_map]
    exact List.flatMap_singleton' s.toList
  rw [textOf, hchars, String.ofList_toList]

/-- A name in front of glyphs is one word. -/
theorem spells_name {name : String} (hname : isOneWord name = true) (hrest : EndsWord rest)
    (hmore : Spells false rest ts) : Spells b (plainGlyphs name ++ rest) (.word name :: ts) := by
  obtain ⟨hne, h⟩ := isOneWord_iff.1 hname
  have hletters : ∀ x ∈ plainGlyphs name, x.kind = .letter := by
    simpa [plainGlyphs, Glyph.kind] using h
  have htext := textOf_plainGlyphs name
  cases hglyphs : plainGlyphs name with
  | nil => exact absurd (String.toList_inj.1 (List.map_eq_nil_iff.1 hglyphs)) hne
  | cons x w =>
    rw [hglyphs] at hletters htext
    rw [← htext]
    exact .word hletters hrest hmore

end Append

section Unique

variable {b : Bool} {x : Glyph} {s s' rest rest' : List Glyph} {ts ts' : List Token}

/-- What the first glyph says of a spelled text. -/
theorem Spells.cons_inv (h : Spells b (x :: s) ts) :
    match x.kind with
    | .blank isBreak => Spells (b || isBreak) s ts
    | .letter => ∃ w more us, s = w ++ more ∧ (∀ y ∈ w, y.kind = .letter) ∧ EndsWord more ∧
        Spells false more us ∧ ts = .word (textOf (x :: w)) :: us
    | .quoted => ∃ us, Spells false s us ∧ ts = .quoted (textOf [x]) :: us
    | .mark => ∃ us, Spells false s us ∧ ts = .mark (x.chars.headD ' ') :: us
    | .equals =>
      (∃ more us, s = .plain '>' :: more ∧ Spells false more us ∧ ts = .arrow :: us) ∨
      ∃ y more us, s = y :: more ∧ y ≠ .plain '>' ∧ Spells false s us ∧ ts = .mark '=' :: us
    | .opening k => ∃ y t more inner us, s = t ++ y :: more ∧ y.kind = .closing k ∧
        Spells false t inner ∧ Spells false more us ∧ ts = .group k b inner :: us
    | .closing _ => False
    | .other => False := by
  cases h with
  | blank hx h =>
    rw [hx]
    exact h
  | word hw hs h =>
    rw [hw _ List.mem_cons_self]
    exact ⟨_, _, _, rfl, fun y hy => hw y (List.mem_cons_of_mem _ hy), hs, h, rfl⟩
  | @quoted _ text _ _ h =>
    have htext : textOf [.quoted text] = text := by
      simp [textOf, Glyph.chars]
    exact ⟨_, h, by rw [htext]⟩
  | mark hc h =>
    rw [Glyph.kind, hc]
    exact ⟨_, h, rfl⟩
  | equals hx h => exact .inr ⟨_, _, _, rfl, hx, h, rfl⟩
  | arrow h => exact .inl ⟨_, _, rfl, h, rfl⟩
  | group hx hy hs h =>
    rw [hx]
    exact ⟨_, _, _, _, _, rfl, hy, hs, h, rfl⟩

/-- No group ends where a spelled text begins. -/
theorem Spells.head_ne_closing (h : Spells b (x :: s) ts) (k : Bracket) : x.kind ≠ .closing k := by
  intro hx
  have hinv := h.cons_inv
  rw [hx] at hinv
  exact hinv

/-- A text begins as every text does that is the same up to the ends of groups. -/
theorem Spells.eq_cons (h : Spells b s' ts') (heq : x :: s = s' ++ rest') (hend : EndsGroup rest')
    (hx : ∀ k, x.kind ≠ .closing k) : ∃ t, s' = x :: t ∧ s = t ++ rest' := by
  cases s' with
  | nil =>
    obtain ⟨k, hk⟩ := hend x (by rw [← List.nil_append rest', ← heq]; rfl)
    exact absurd hk (hx k)
  | cons y t =>
    obtain ⟨rfl, rfl⟩ := List.cons.inj heq
    exact ⟨t, rfl, rfl⟩

theorem endsWord_append (hs : EndsWord s) (hend : EndsGroup rest) : EndsWord (s ++ rest) := by
  cases s with
  | nil =>
    intro x hx
    obtain ⟨k, hk⟩ := hend x hx
    rw [hk]
    exact GlyphClass.noConfusion
  | cons x s => exact hs

/-- Where a word ends is fixed by the glyphs. -/
theorem letters_unique {w w' more more' : List Glyph} (hw : ∀ y ∈ w, y.kind = .letter)
    (hw' : ∀ y ∈ w', y.kind = .letter) (hmore : EndsWord more) (hmore' : EndsWord more')
    (heq : w ++ more = w' ++ more') : w = w' ∧ more = more' := by
  induction w generalizing w' with
  | nil =>
    cases w' with
    | nil => exact ⟨rfl, heq⟩
    | cons y w' =>
      rw [List.nil_append] at heq
      exact absurd (hw' y List.mem_cons_self) (hmore y (heq ▸ rfl))
  | cons x w ih =>
    cases w' with
    | nil =>
      rw [List.nil_append] at heq
      exact absurd (hw x List.mem_cons_self) (hmore' x (heq ▸ rfl))
    | cons y w' =>
      obtain ⟨rfl, htail⟩ := List.cons.inj heq
      obtain ⟨rfl, rfl⟩ := ih (List.forall_mem_cons.1 hw).2 (List.forall_mem_cons.1 hw').2 htail
      exact ⟨rfl, rfl⟩

/-- A text before the end of a group, and its tokens, can be found in one way. -/
theorem Spells.unique_append (h : Spells b s ts) (h' : Spells b s' ts')
    (heq : s ++ rest = s' ++ rest') (hend : EndsGroup rest) (hend' : EndsGroup rest') :
    s = s' ∧ ts = ts' := by
  induction h generalizing s' ts' rest rest' with
  | nil b =>
    cases s' with
    | nil =>
      cases h'
      exact ⟨rfl, rfl⟩
    | cons x t =>
      obtain ⟨k, hk⟩ := hend x (by rw [← List.nil_append rest, heq]; rfl)
      exact absurd hk (h'.head_ne_closing k)
  | @blank b isBreak x s ts hx h ih =>
    obtain ⟨t, rfl, htail⟩ := h'.eq_cons heq hend' (by simp [hx])
    have hinv := h'.cons_inv
    rw [hx] at hinv
    obtain ⟨rfl, rfl⟩ := ih hinv htail hend hend'
    exact ⟨rfl, rfl⟩
  | @word b x w s ts hw hs h ih =>
    obtain ⟨t, rfl, htail⟩ := h'.eq_cons heq hend' (by simp [hw])
    have hinv := h'.cons_inv
    rw [hw x List.mem_cons_self] at hinv
    obtain ⟨w', more, us, rfl, hw', hmore, hus, rfl⟩ := hinv
    have hboth : w ++ (s ++ rest) = w' ++ (more ++ rest') := by simpa using htail
    obtain ⟨rfl, hrest⟩ := letters_unique (List.forall_mem_cons.1 hw).2 hw' (endsWord_append hs hend)
      (endsWord_append hmore hend') hboth
    obtain ⟨rfl, rfl⟩ := ih hus hrest hend hend'
    exact ⟨rfl, rfl⟩
  | @quoted b text s ts h ih =>
    obtain ⟨t, rfl, htail⟩ := h'.eq_cons heq hend' (by simp [Glyph.kind])
    obtain ⟨us, hus, rfl⟩ := h'.cons_inv
    obtain ⟨rfl, rfl⟩ := ih hus htail hend hend'
    simp [textOf, Glyph.chars]
  | @mark b c s ts hc h ih =>
    obtain ⟨t, rfl, htail⟩ := h'.eq_cons heq hend' (by simp [Glyph.kind, hc])
    have hinv := h'.cons_inv
    rw [Glyph.kind, hc] at hinv
    obtain ⟨us, hus, rfl⟩ := hinv
    obtain ⟨rfl, rfl⟩ := ih hus htail hend hend'
    exact ⟨rfl, rfl⟩
  | @equals b x s ts hx h ih =>
    obtain ⟨t, rfl, htail⟩ := h'.eq_cons heq hend' (by simp [Glyph.kind, charClass])
    obtain ⟨more, us, rfl, -, -⟩ | ⟨y, more, us, rfl, -, hus, rfl⟩ := h'.cons_inv
    · exact absurd (List.cons.inj htail).1 hx
    · obtain ⟨hsame, rfl⟩ := ih hus htail hend hend'
      rw [hsame]
      exact ⟨rfl, rfl⟩
  | @arrow b s ts h ih =>
    obtain ⟨t, rfl, htail⟩ := h'.eq_cons heq hend' (by simp [Glyph.kind, charClass])
    obtain ⟨more, us, rfl, hus, rfl⟩ | ⟨y, more, us, rfl, hy, -, -⟩ := h'.cons_inv
    · obtain ⟨rfl, rfl⟩ := ih hus (List.cons.inj htail).2 hend hend'
      exact ⟨rfl, rfl⟩
    · exact absurd (List.cons.inj htail).1.symm hy
  | @group b k x y s more inner ts hx hy hs h ih ih' =>
    obtain ⟨t, rfl, htail⟩ := h'.eq_cons heq hend' (by simp [hx])
    have hinv := h'.cons_inv
    rw [hx] at hinv
    obtain ⟨y', t, more', inner', us, rfl, hy', ht, hus, rfl⟩ := hinv
    have hclosing : ∀ {y : Glyph} {r : List Glyph}, y.kind = .closing k → EndsGroup (y :: r) := by
      intro y r hy z hz
      obtain rfl := Option.some.inj hz
      exact ⟨k, hy⟩
    have hboth : s ++ y :: (more ++ rest) = t ++ y' :: (more' ++ rest') := by simpa using htail
    obtain ⟨rfl, rfl⟩ := ih ht hboth (hclosing hy) (hclosing hy')
    obtain ⟨rfl, hrest⟩ := List.cons.inj (List.append_cancel_left hboth)
    obtain ⟨rfl, rfl⟩ := ih' hus hrest hend hend'
    exact ⟨rfl, rfl⟩

/-- A text spells at most one list of tokens. -/
theorem Spells.unique (h : Spells b s ts) (h' : Spells b s ts') : ts = ts' := by
  have hend : EndsGroup [] := by simp [EndsGroup]
  exact (h.unique_append h' rfl hend hend).2

end Unique

/-!
## Brackets
-/

def GlyphClass.isBracket : GlyphClass → Bool
  | .opening _ => true
  | .closing _ => true
  | _ => false

/-- The brackets that open less those that close. -/
def depth : List Glyph → Int
  | [] => 0
  | .plain '=' :: .plain '>' :: s => depth s
  | x :: s =>
    match x.kind with
    | .opening _ => depth s + 1
    | .closing _ => depth s - 1
    | _ => depth s

section Depth

variable {b : Bool} {k : Bracket} {x : Glyph} {s w more : List Glyph} {ts : List Token}

theorem depth_opening (hx : x.kind = .opening k) : depth (x :: s) = depth s + 1 := by
  rw [depth, hx]
  rintro _ rfl -
  cases hx

theorem depth_closing (hx : x.kind = .closing k) : depth (x :: s) = depth s - 1 := by
  rw [depth, hx]
  rintro _ rfl -
  cases hx

theorem depth_cons (hx : x.kind.isBracket = false) (heq : x ≠ .plain '=') :
    depth (x :: s) = depth s := by
  rw [depth]
  · split
    · next h => simp [h, GlyphClass.isBracket] at hx
    · next h => simp [h, GlyphClass.isBracket] at hx
    · rfl
  · rintro _ rfl -
    exact heq rfl

theorem depth_letters (hw : ∀ y ∈ w, y.kind = .letter) : depth (w ++ s) = depth s := by
  induction w with
  | nil => rfl
  | cons y w ih =>
    obtain ⟨hy, hw⟩ := List.forall_mem_cons.1 hw
    rw [List.cons_append, depth_cons (by rw [hy]; rfl) (by rintro rfl; cases hy), ih hw]

/-- The brackets of a spelled text are balanced. -/
theorem Spells.depth_append (h : Spells b s ts) (more : List Glyph) :
    depth (s ++ more) = depth more := by
  induction h generalizing more with
  | nil b => rfl
  | blank hx _ ih =>
    rw [List.cons_append, depth_cons (by rw [hx]; rfl) (by rintro rfl; cases hx), ih]
  | word hw _ _ ih => rw [List.append_assoc, depth_letters hw, ih]
  | quoted _ ih => rw [List.cons_append, depth_cons rfl (by simp), ih]
  | @mark b c s ts hc _ ih =>
    have hne : Glyph.plain c ≠ .plain '=' := by
      rintro heq
      rw [Glyph.plain.inj heq] at hc
      cases hc
    rw [List.cons_append, depth_cons (by rw [Glyph.kind, hc]; rfl) hne, ih]
  | @equals b x s ts hx _ ih =>
    have hequals : depth (.plain '=' :: x :: (s ++ more)) = depth (x :: (s ++ more)) := by
      rw [depth]
      · rfl
      · rintro _ - heq
        exact hx (List.cons.inj heq).1
    rw [List.cons_append, List.cons_append, hequals]
    exact ih more
  | arrow _ ih =>
    rw [List.cons_append, List.cons_append, depth]
    exact ih more
  | @group b k x y s rest inner ts hx hy _ _ ih ih' =>
    have hsplit : x :: s ++ y :: rest ++ more = x :: (s ++ y :: (rest ++ more)) := by simp
    rw [hsplit, depth_opening hx, ih, depth_closing hy, ih', Int.sub_add_cancel]

theorem Spells.depth_eq_zero (h : Spells b s ts) : depth s = 0 := by
  simpa [depth] using h.depth_append []

theorem Spells.depth_nonneg (h : Spells b s ts) : 0 ≤ depth s :=
  Int.le_of_eq h.depth_eq_zero.symm

end Depth

end TypeExport.TypeText

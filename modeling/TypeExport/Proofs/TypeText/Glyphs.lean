import Mathlib.Data.List.Basic

/-!
# Quotes and comments in type texts

A type text is first read character by character.  A text between quotes is one glyph, comments go, and
all other characters stand for themselves.  Templates hold types between braces, which hold quotes and
comments in their turn, so what is open at a place of a text is a stack.  A comment between slashes and
stars leaves a blank and its line breaks; a comment to the end of its line leaves nothing, and it may
still be open where the text ends.
-/

namespace TypeExport.TypeText

inductive Glyph where
  | plain (c : Char)
  /-- A character of an escape in a name. -/
  | letter (c : Char)
  /-- A text with its quotes. -/
  | quoted (text : String)
  deriving DecidableEq, Repr

def lineBreaks : List Char := ['\n', '\r', '\u2028', '\u2029']

/-!
## What is open
-/

inductive Frame where
  | slash
  | lineComment
  | blockComment (afterStar : Bool)
  | text (quote : Char) (escaped : Bool)
  | template (escaped afterDollar : Bool)
  | braces
  | escape
  | codePoint
  deriving DecidableEq, Repr

def opening? (c : Char) : Option Frame :=
  match c with
  | '"' | '\x27' => some (.text c false)
  | '\x60' => some (.template false false)
  | '/' => some .slash
  | '\\' => some .escape
  | _ => none

/-- What is open behind a character, from the innermost on.  No slash stands alone, and no line ends
between simple quotes. -/
def stepFrames : List Frame → Char → Option (List Frame)
  | [], c => some (opening? c).toList
  | .slash :: below, c =>
    if c = '/' then some (.lineComment :: below)
    else if c = '*' then some (.blockComment false :: below)
    else none
  | .lineComment :: below, c => some (if c ∈ lineBreaks then below else .lineComment :: below)
  | .blockComment afterStar :: below, c =>
    some (if afterStar && c = '/' then below else .blockComment (c = '*') :: below)
  | .text quote escaped :: below, c =>
    if escaped then some (.text quote false :: below)
    else if c = quote then some below
    else if c = '\n' ∨ c = '\r' then none
    else some (.text quote (c = '\\') :: below)
  | .template escaped afterDollar :: below, c =>
    if escaped then some (.template false false :: below)
    else if c = '\x60' then some below
    else if afterDollar && c = '\x7b' then some (.braces :: .template false false :: below)
    else some (.template (c = '\\') (c = '$') :: below)
  | .braces :: below, c =>
    if c = '\x7b' then some (.braces :: .braces :: below)
    else if c = '\x7d' then some below
    else some ((opening? c).toList ++ .braces :: below)
  | .escape :: below, c =>
    some (if c = 'u' then .escape :: below else if c = '\x7b' then .codePoint :: below else below)
  | .codePoint :: below, c => some (if c = '\x7d' then below else .codePoint :: below)

/-- A place of a text: outside of all quotes and comments, or behind the characters of an open one, which
are listed from the last on. -/
inductive Place where
  | outside
  | inside (text : List Char) (top : Frame) (below : List Frame)
  deriving DecidableEq, Repr

namespace Place

def ofFrames (text : List Char) : List Frame → Place
  | [] => .outside
  | top :: below => .inside text top below

def frames : Place → List Frame
  | .outside => []
  | .inside _ top below => top :: below

def text : Place → List Char
  | .outside => []
  | .inside text _ _ => text

@[simp] theorem frames_ofFrames (text : List Char) (fs : List Frame) :
    (ofFrames text fs).frames = fs := by
  cases fs <;> rfl

theorem frames_eq_nil_iff {p : Place} : p.frames = [] ↔ p = .outside := by
  cases p <;> simp [frames]

end Place

/-!
## Glyphs
-/

/-- What a character leaves, from what is open before and behind it. -/
def emitted (text : List Char) (c : Char) (before after : List Frame) : List Glyph :=
  match before, after with
  | [], [] => [.plain c]
  | [], [.escape] | [.escape], _ | [.codePoint], _ => [.letter c]
  | [.slash], [.blockComment _] => [.plain ' ']
  | [.lineComment], [] => [.plain c]
  | [.blockComment _], _ => if c ∈ lineBreaks then [.plain c] else []
  | [.text _ _], [] | [.template _ _], [] => [.quoted (String.ofList (c :: text).reverse)]
  | _, _ => []

def Place.step (p : Place) (c : Char) : Option (List Glyph × Place) :=
  (stepFrames p.frames c).map fun after =>
    (emitted p.text c p.frames after, .ofFrames (c :: p.text) after)

def scan (p : Place) : List Char → Option (List Glyph × Place)
  | [] => some ([], p)
  | c :: s => (p.step c).bind fun (gs, q) => (scan q s).map fun (hs, r) => (gs ++ hs, r)

theorem scan_cons {p q : Place} {c : Char} {gs : List Glyph} (h : p.step c = some (gs, q))
    (s : List Char) : scan p (c :: s) = (scan q s).map fun (hs, r) => (gs ++ hs, r) := by
  rw [scan, h]
  rfl

/-- The glyphs of a text, and whether it ends in a comment that goes on to the end of the line.  No quotes
and no other comments may be open at the end. -/
def glyphs? (s : String) : Option (List Glyph × Bool) :=
  (scan .outside s.toList).bind fun (gs, p) =>
    match p.frames with
    | [] => some (gs, false)
    | [.lineComment] => some (gs, true)
    | _ => none

/-- Whether the text ends in a comment that goes on to the end of the line. -/
def endsInComment (s : String) : Bool :=
  (glyphs? s).any (·.2)

/-- The text has no quotes and no comments. -/
def IsPlain (s : String) : Prop :=
  ∀ c ∈ s.toList, opening? c = none

instance (s : String) : Decidable (IsPlain s) :=
  List.decidableBAll (fun c => opening? c = none) s.toList

/-- The text ends no line. -/
def IsOnOneLine (s : String) : Prop :=
  ∀ c ∈ s.toList, c ∉ lineBreaks

instance (s : String) : Decidable (IsOnOneLine s) :=
  List.decidableBAll (fun c => c ∉ lineBreaks) s.toList

def plainGlyphs (s : String) : List Glyph :=
  s.toList.map .plain

section Scan

variable {s t : List Char} {gs hs : List Glyph} {p q r : Place}

/-- A text is scanned in parts, one after the other. -/
theorem scan_append (h : scan p s = some (gs, q)) (h' : scan q t = some (hs, r)) :
    scan p (s ++ t) = some (gs ++ hs, r) := by
  induction s generalizing p gs with
  | nil =>
    obtain ⟨rfl, rfl⟩ := Prod.mk.inj (Option.some.inj h)
    exact h'
  | cons c s ih =>
    rw [scan] at h
    obtain ⟨⟨gs', p'⟩, hstep, hrest⟩ := Option.bind_eq_some_iff.1 h
    obtain ⟨⟨gs'', q'⟩, hscan, heq⟩ := Option.map_eq_some_iff.1 hrest
    obtain ⟨rfl, rfl⟩ := Prod.mk.inj heq
    rw [List.cons_append, scan_cons hstep, ih hscan, Option.map_some, List.append_assoc]

/-- Outside of quotes and comments plain characters stand for themselves. -/
theorem scan_plain (h : ∀ c ∈ s, opening? c = none) :
    scan .outside s = some (s.map .plain, .outside) := by
  induction s with
  | nil => rfl
  | cons c s ih =>
    obtain ⟨hc, hs⟩ := List.forall_mem_cons.1 h
    have hstep : Place.outside.step c = some ([.plain c], .outside) := by
      simp [Place.step, Place.frames, stepFrames, hc, emitted, Place.ofFrames]
    rw [scan_cons hstep, ih hs]
    rfl

/-- A comment to the end of its line goes on as long as no line ends. -/
theorem scan_lineComment (hp : p.frames = [.lineComment]) (h : ∀ c ∈ s, c ∉ lineBreaks) :
    ∃ q, scan p s = some ([], q) ∧ q.frames = [.lineComment] := by
  induction s generalizing p with
  | nil => exact ⟨p, rfl, hp⟩
  | cons c s ih =>
    obtain ⟨hc, hs⟩ := List.forall_mem_cons.1 h
    have hstep : p.step c = some ([], .ofFrames (c :: p.text) [.lineComment]) := by
      simp [Place.step, hp, stepFrames, hc, emitted]
    obtain ⟨q, hq, hframes⟩ := ih (Place.frames_ofFrames _ _) hs
    rw [scan_cons hstep, hq]
    exact ⟨q, rfl, hframes⟩

end Scan

section Texts

variable {s more : String} {gs : List Glyph} {b : Bool}

/-- A text has glyphs if nothing but a comment to the end of the line is open at its end. -/
theorem glyphs?_eq_some_iff :
    glyphs? s = some (gs, b) ↔ ∃ p, scan .outside s.toList = some (gs, p) ∧
      p.frames = if b then [.lineComment] else [] := by
  constructor
  · intro h
    obtain ⟨⟨gs', p⟩, hscan, hplace⟩ := Option.bind_eq_some_iff.1 h
    dsimp only at hplace
    split at hplace
    · next hframes =>
      obtain ⟨rfl, rfl⟩ := Prod.mk.inj (Option.some.inj hplace)
      exact ⟨p, hscan, hframes⟩
    · next hframes =>
      obtain ⟨rfl, rfl⟩ := Prod.mk.inj (Option.some.inj hplace)
      exact ⟨p, hscan, hframes⟩
    · cases hplace
  · rintro ⟨p, hscan, hframes⟩
    rw [glyphs?, hscan, Option.bind_some]
    cases b <;> simp [hframes]

/-- What stands behind a text on its last line is lost if the text ends in a comment. -/
theorem glyphs?_append (h : glyphs? s = some (gs, b)) (hplain : IsPlain more)
    (hline : IsOnOneLine more) :
    glyphs? (s ++ more) = some (if b then gs else gs ++ plainGlyphs more, b) := by
  obtain ⟨p, hscan, hframes⟩ := glyphs?_eq_some_iff.1 h
  rw [glyphs?_eq_some_iff, String.toList_append]
  cases b with
  | true =>
    obtain ⟨q, hq, hframes'⟩ := scan_lineComment hframes hline
    exact ⟨q, by simpa using scan_append hscan hq, hframes'⟩
  | false =>
    obtain rfl := Place.frames_eq_nil_iff.1 hframes
    exact ⟨.outside, scan_append hscan (scan_plain hplain), rfl⟩

theorem glyphs?_plain (h : IsPlain s) : glyphs? s = some (plainGlyphs s, false) :=
  glyphs?_eq_some_iff.2 ⟨.outside, scan_plain h, rfl⟩

theorem glyphs?_plain_append (h : IsPlain s) (hmore : glyphs? more = some (gs, b)) :
    glyphs? (s ++ more) = some (plainGlyphs s ++ gs, b) := by
  obtain ⟨p, hscan, hframes⟩ := glyphs?_eq_some_iff.1 hmore
  rw [glyphs?_eq_some_iff, String.toList_append]
  exact ⟨p, scan_append (scan_plain h) hscan, hframes⟩

theorem endsInComment_eq (h : glyphs? s = some (gs, b)) : endsInComment s = b := by
  rw [endsInComment, h]
  rfl

end Texts

/-- A slash and a star leave a blank, a comment between them its line breaks, and one to the end of the
line may be open at the end. -/
example : glyphs? "A/* \n */ // B" =
    some ([.plain 'A', .plain ' ', .plain '\n', .plain ' '], true) := by
  decide

/-- A template is one text, with all that stands in its braces. -/
example : glyphs? "\x60a-$\x7b'\x7d' | \x60b\x60\x7d\x60[]" =
    some ([.quoted "\x60a-$\x7b'\x7d' | \x60b\x60\x7d\x60", .plain '[', .plain ']'], false) := by
  decide

end TypeExport.TypeText

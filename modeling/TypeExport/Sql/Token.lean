import TypeExport.Text.Classes

/-!
# Tokens of SQL statements

Words, names between double quotes, and marks.  A double quote inside such a name is written twice.
-/

namespace TypeExport.Sql

inductive Token where
  | word (name : String)
  | quoted (name : String)
  | mark (c : Char)
  deriving DecidableEq, Repr

def startsWord (c : Char) : Bool :=
  c.isAlpha || c = '_' || 128 ≤ c.toNat

def continuesWord (c : Char) : Bool :=
  startsWord c || c.isDigit || c = '$'

def isBlank (c : Char) : Bool :=
  c = ' ' || c = '\t' || c = '\n' || c = '\r' || c = '\x0c'

/-- The rest of a quoted name after its opening quote, and what follows it. -/
def quotedName : List Char → Option (List Char × List Char)
  | '"' :: '"' :: rest => (quotedName rest).map fun (name, r) => ('"' :: name, r)
  | '"' :: rest => some ([], rest)
  | c :: rest => (quotedName rest).map fun (name, r) => (c :: name, r)
  | [] => none

/-- Behind a quoted name the text is shorter. -/
theorem quotedName_length {s name rest : List Char} (h : quotedName s = some (name, rest)) :
    rest.length < s.length := by
  fun_induction quotedName s generalizing name rest with
  | case1 r ih =>
    obtain ⟨⟨n, t⟩, hn, he⟩ := Option.map_eq_some_iff.1 h
    simp only [Prod.mk.injEq] at he
    have := ih hn
    simp only [List.length_cons, ← he.2]
    omega
  | case2 r _ =>
    simp only [Option.some.injEq, Prod.mk.injEq] at h
    simp [← h.2]
  | case3 c r _ _ ih =>
    obtain ⟨⟨n, t⟩, hn, he⟩ := Option.map_eq_some_iff.1 h
    simp only [Prod.mk.injEq] at he
    have := ih hn
    simp only [List.length_cons, ← he.2]
    omega
  | case4 => simp at h

/-- The tokens of a statement; `none` if a quoted name does not end or a character starts none. -/
def tokens? (s : List Char) : Option (List Token) :=
  match s with
  | [] => some []
  | c :: rest =>
    if isBlank c then tokens? rest
    else if c = '"' then
      match h : quotedName rest with
      | none => none
      | some (name, r) =>
        have : r.length < rest.length + 1 := Nat.lt_succ_of_lt (quotedName_length h)
        (tokens? r).map fun ts => .quoted (String.ofList name) :: ts
    else if startsWord c then
      have : (rest.dropWhile continuesWord).length < rest.length + 1 :=
        Nat.lt_succ_of_le (List.dropWhile_sublist _).length_le
      (tokens? (rest.dropWhile continuesWord)).map fun ts =>
        .word (String.ofList (c :: rest.takeWhile continuesWord)) :: ts
    else if c = ',' || c = '.' then (tokens? rest).map fun ts => .mark c :: ts
    else none
termination_by s.length

def isWordChar (c : Char) : Bool :=
  Text.isWord c.toNat

/-- Whether a named parameter stands in a statement: a colon with a word behind it, and neither a
word character, a colon nor a backslash before it.  A second colon ends no parameter. -/
def hasParameterAfter (before : Char) : List Char → Bool
  | [] => false
  | ':' :: rest =>
    let word := rest.takeWhile isWordChar
    let next := (rest.dropWhile isWordChar).head?
    let opens := !(isWordChar before || before = ':' || before = '\\')
    let closes := decide (2 ≤ word.length) || (word.length == 1 && next != some ':')
    (opens && closes) || hasParameterAfter ':' rest
  | c :: rest => hasParameterAfter c rest

def hasParameter (s : List Char) : Bool :=
  hasParameterAfter ' ' s

end TypeExport.Sql

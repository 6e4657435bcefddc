import TypeExport.Json.Basic
import TypeExport.Number.Numeral

/-!
# Reading JSON

Blanks are the four of the format; a text may spell single surrogates; numbers with a fraction or an
exponent become binary values and all others stay integers.  An integer of more than 4300 digits is
refused, and so is a document in which too many brackets are open at once.
-/

namespace TypeExport.Json

/-- Why a document cannot be read.  Arrays and objects are told apart when one of them is the first
that is nested too deep. -/
inductive ReadError where
  | malformed
  | tooManyDigits (count : Nat)
  | tooDeep (kind : String)
  deriving DecidableEq, Repr

def isSpace (c : Char) : Bool :=
  c = ' ' || c = '\t' || c = '\n' || c = '\r'

def skipSpaces (s : List Char) : List Char :=
  s.dropWhile isSpace

def hexValue? (c : Char) : Option Nat :=
  if '0' ≤ c ∧ c ≤ '9' then some (c.toNat - 48)
  else if 'a' ≤ c ∧ c ≤ 'f' then some (c.toNat - 87)
  else if 'A' ≤ c ∧ c ≤ 'F' then some (c.toNat - 55)
  else none

def hexUnit? (a b c d : Char) : Option Nat := do
  let a ← hexValue? a
  let b ← hexValue? b
  let c ← hexValue? c
  let d ← hexValue? d
  return 4096 * a + 256 * b + 16 * c + d

/-- The code point that a pair of surrogates stands for. -/
def joinUnits? (high low : Nat) : Option Nat :=
  if 0xD800 ≤ high ∧ high < 0xDC00 ∧ 0xDC00 ≤ low ∧ low < 0xE000 then
    some (0x10000 + (high - 0xD800) * 0x400 + (low - 0xDC00))
  else none

def codePoint (n : Nat) : CodePoint :=
  Fin.ofNat 0x110000 n

/-- The character that a one letter escape stands for. -/
def escaped? : Char → Option Char
  | '"' => some '"'
  | '\\' => some '\\'
  | '/' => some '/'
  | 'b' => some '\x08'
  | 'f' => some '\x0c'
  | 'n' => some '\n'
  | 'r' => some '\r'
  | 't' => some '\t'
  | _ => none

/-- The rest of a text after its opening quote. -/
def readText : List Char → Option (CodeText × List Char)
  | [] => none
  | '"' :: rest => some ([], rest)
  | '\\' :: 'u' :: a :: b :: c :: d :: '\\' :: 'u' :: e :: f :: g :: h :: rest =>
    match hexUnit? a b c d with
    | none => none
    | some high =>
      match (hexUnit? e f g h).bind (joinUnits? high) with
      | some n => (readText rest).map fun (t, r) => (codePoint n :: t, r)
      | none =>
        (readText ('\\' :: 'u' :: e :: f :: g :: h :: rest)).map fun (t, r) =>
          (codePoint high :: t, r)
  | '\\' :: 'u' :: a :: b :: c :: d :: rest =>
    match hexUnit? a b c d with
    | none => none
    | some n => (readText rest).map fun (t, r) => (codePoint n :: t, r)
  | '\\' :: c :: rest =>
    match escaped? c with
    | none => none
    | some e => (readText rest).map fun (t, r) => (CodePoint.ofChar e :: t, r)
  | c :: rest =>
    if c = '\\' ∨ c.toNat < 0x20 then none
    else (readText rest).map fun (t, r) => (CodePoint.ofChar c :: t, r)
termination_by s => s.length

def isAsciiDigit (c : Char) : Bool :=
  '0' ≤ c && c ≤ '9'

def natOf (digits : List Char) : Nat :=
  digits.foldl (fun n c => 10 * n + (c.toNat - 48)) 0

/-- A point with at least one digit after it. -/
def splitFraction : List Char → List Char × List Char
  | '.' :: rest =>
    let digits := rest.takeWhile isAsciiDigit
    if digits.isEmpty then ([], '.' :: rest) else (digits, rest.dropWhile isAsciiDigit)
  | s => ([], s)

/-- An exponent mark with at least one digit after it. -/
def splitExponent : List Char → Option Int × List Char
  | c :: rest =>
    if c = 'e' ∨ c = 'E' then
      let (negative, body) := Numeral.splitSign rest
      let digits := body.takeWhile isAsciiDigit
      if digits.isEmpty then (none, c :: rest)
      else
        let n : Int := natOf digits
        (some (if negative then -n else n), body.dropWhile isAsciiDigit)
    else (none, c :: rest)
  | [] => (none, [])

/-- The digits of a whole part: one zero, or digits that do not start with a zero. -/
def wholeDigits : List Char → List Char
  | '0' :: _ => ['0']
  | s => s.takeWhile isAsciiDigit

/-- A number without its sign. -/
def readNumber (negative : Bool) (s : List Char) : Except ReadError (Json × List Char) :=
  let whole := wholeDigits s
  if whole.isEmpty then .error .malformed
  else
    let (fraction, rest) := splitFraction (s.drop whole.length)
    let (exponent, rest) := splitExponent rest
    if fraction.isEmpty && exponent.isNone then
      if Numeral.digitLimit < whole.length then .error (.tooManyDigits whole.length)
      else
        let n : Int := natOf whole
        .ok (.int (if negative then -n else n), rest)
    else
      let x := Double.ofDecimal negative (natOf (whole ++ fraction))
        (exponent.getD 0 - fraction.length)
      .ok (.double x, rest)

/-- The rest of a text after a word that stands in front of it. -/
def afterWord? (word : List Char) (s : List Char) : Option (List Char) :=
  if word.isPrefixOf s then some (s.drop word.length) else none

def namedValues : List (List Char × Json) :=
  [("null".toList, .null), ("true".toList, .bool true), ("false".toList, .bool false),
   ("NaN".toList, .double .nan), ("Infinity".toList, .double (.infinity false)),
   ("-Infinity".toList, .double (.infinity true))]

/-- A named value or a number. -/
def readScalar (s : List Char) : Except ReadError (Json × List Char) :=
  match namedValues.findSome? fun (word, v) => (afterWord? word s).map fun r => (v, r) with
  | some found => .ok found
  | none =>
    match s with
    | '-' :: rest => readNumber true rest
    | _ => readNumber false s

mutual

/-- A value at the very start of a text.  Arrays and objects may be nested `nesting` deep; `fuel`
bounds the recursion. -/
def readValue (nesting fuel : Nat) (s : List Char) : Except ReadError (Json × List Char) :=
  match fuel with
  | 0 => .error .malformed
  | fuel + 1 =>
    match s with
    | '"' :: rest =>
      match readText rest with
      | some (t, r) => .ok (.text t, r)
      | none => .error .malformed
    | '[' :: rest =>
      match nesting with
      | 0 => .error (.tooDeep "array")
      | nesting + 1 =>
        match skipSpaces rest with
        | ']' :: r => .ok (.array [], r)
        | r => do
          let (items, r) ← readItems nesting fuel r
          return (.array items, r)
    | '{' :: rest =>
      match nesting with
      | 0 => .error (.tooDeep "object")
      | nesting + 1 =>
        match skipSpaces rest with
        | '}' :: r => .ok (.object [], r)
        | r => do
          let (members, r) ← readMembers nesting fuel r
          return (.object (ofMembers members), r)
    | _ => readScalar s

def readItems (nesting fuel : Nat) (s : List Char) : Except ReadError (List Json × List Char) :=
  match fuel with
  | 0 => .error .malformed
  | fuel + 1 => do
    let (item, r) ← readValue nesting fuel s
    match skipSpaces r with
    | ']' :: r => return ([item], r)
    | ',' :: r =>
      let (items, r) ← readItems nesting fuel (skipSpaces r)
      return (item :: items, r)
    | _ => .error .malformed

def readMembers (nesting fuel : Nat) (s : List Char) :
    Except ReadError (List (CodeText × Json) × List Char) :=
  match fuel with
  | 0 => .error .malformed
  | fuel + 1 =>
    match s with
    | '"' :: rest =>
      match readText rest with
      | none => .error .malformed
      | some (key, r) =>
        match skipSpaces r with
        | ':' :: r => do
          let (v, r) ← readValue nesting fuel (skipSpaces r)
          match skipSpaces r with
          | '}' :: r => return ([(key, v)], r)
          | ',' :: r =>
            let (members, r) ← readMembers nesting fuel (skipSpaces r)
            return ((key, v) :: members, r)
          | _ => .error .malformed
        | _ => .error .malformed
    | _ => .error .malformed

end

/-- The value of a document, with blanks around it, nested at most `nesting` deep. -/
def readWithin (nesting : Nat) (document : List Char) : Except ReadError Json := do
  let (v, rest) ← readValue nesting (2 * document.length + 2) (skipSpaces document)
  if (skipSpaces rest).isEmpty then return v else .error .malformed

/-- The value of a document, nested however deep: no document has more brackets than characters. -/
def read (document : List Char) : Except ReadError Json :=
  readWithin document.length document

def ReadError.message : ReadError → String
  | .malformed => "malformed document"
  | .tooManyDigits count => Numeral.limitMessage count
  | .tooDeep kind =>
    "maximum recursion depth exceeded while decoding a JSON " ++ kind ++ " from a unicode string"

end TypeExport.Json

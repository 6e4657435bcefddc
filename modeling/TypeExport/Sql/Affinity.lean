import TypeExport.Number.Numeral
import TypeExport.Number.Shortest
import TypeExport.Value.Basic

/-!
# Column affinities

The declared type of a column gives it an affinity, and the affinity converts what is stored.  A
text that spells a number becomes that number under a numeric affinity, and a number becomes text
under the affinity of text.
-/

namespace TypeExport.Sql

inductive Affinity where
  | integer
  | text
  | blob
  | real
  | numeric
  deriving DecidableEq, Repr

def occurs (word : List Char) : List Char → Bool
  | [] => word.isEmpty
  | c :: rest => word.isPrefixOf (c :: rest) || occurs word rest

namespace Affinity

/-- The affinity of a declared type: the first rule whose words occur in it. -/
def ofDeclared (declared : String) : Affinity :=
  let name := declared.toList.map Char.toUpper
  let has (word : String) := occurs word.toList name
  if has "INT" then .integer
  else if has "CHAR" || has "CLOB" || has "TEXT" then .text
  else if has "BLOB" || name.isEmpty then .blob
  else if has "REAL" || has "FLOA" || has "DOUB" then .real
  else .numeric

/-- A binary value with at most fifteen digits. -/
def fifteenDigits (m : Nat) (e : Int) : List Char × Int :=
  let (num, den) : Nat × Nat := if 0 ≤ e then (m * Nat.pow 2 e.toNat, 1) else (m, Nat.pow 2 (-e).toNat)
  let place := Double.pointPlace num den
  let grid := place - 15
  let d := if 0 ≤ grid then Double.roundDiv num (den * Nat.pow 10 grid.toNat)
    else Double.roundDiv (num * Nat.pow 10 (-grid).toNat) den
  let digits := (toString d).toList
  ((digits.reverse.dropWhile (· == '0')).reverse, place + ((digits.length : Int) - 15))

/-- An exponent mark behind digits that keep a point. -/
def scientific (digits : List Char) (place : Int) : List Char :=
  match digits with
  | [] => []
  | d :: rest =>
    d :: '.' :: (if rest.isEmpty then ['0'] else rest) ++ 'e' :: Double.exponentText (place - 1)

def realText : Double → String
  | .nan => ""
  | .infinity false => "Inf"
  | .infinity true => "-Inf"
  | .finite negative m e =>
    let (digits, place) := if m = 0 then (['0'], 1) else fifteenDigits m e
    let body := if -4 < place ∧ place ≤ 15 then Double.layout digits place
      else scientific digits place
    String.ofList ((if negative && m != 0 then ['-'] else []) ++ body)

/-- A binary value that is a small enough integer is stored as one. -/
def settleReal (x : Double) : Value :=
  match x.truncate? with
  | some n => if x.equalsInt n && n.natAbs < Nat.pow 2 53 then .int n else .double x
  | none => .double x

/-- The number that an ASCII numeral spells. -/
def numeral? (s : String) : Option Value :=
  let body := s.toList
  if body.any fun c => c == '_' || 128 ≤ c.toNat || (c.isAlpha && c != 'e' && c != 'E') then none
  else
    match Numeral.readInt? s with
    | some n =>
      if n.natAbs < Nat.pow 2 63 then some (.int n) else some (.double (Double.ofInt n))
    | none => (Numeral.readDouble? s).map .double

def storeNumeric : Value → Value
  | .text s =>
    match numeral? s with
    | some (.double x) => settleReal x
    | some v => v
    | none => .text s
  | .double x => settleReal x
  | v => v

/-- What a column of the affinity holds after a value is put into it. -/
def store (a : Affinity) (v : Value) : Value :=
  let v := match v with
    | .bool b => .int (if b then 1 else 0)
    | .double .nan => .null
    | v => v
  match a with
  | .blob => v
  | .text =>
    match v with
    | .int n => .text (toString n)
    | .double x => .text (realText x)
    | v => v
  | .real =>
    match storeNumeric v with
    | .int n => .double (Double.ofInt n)
    | v => v
  | .integer | .numeric => storeNumeric v

end Affinity

end TypeExport.Sql

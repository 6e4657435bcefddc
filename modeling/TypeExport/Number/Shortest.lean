import TypeExport.Number.Double

/-!
# Shortest decimal text

A finite value is written with the fewest decimal digits that read back as the same value, and of
those with the digits nearest to it.  The notation is positional while the decimal point stands
from four places left of the first digit to sixteen places right of it.
-/

namespace TypeExport.Double

/-- The reals that round to a value: four times the numerators of the bounds and of the value. -/
structure Neighbourhood where
  low : Nat
  mid : Nat
  high : Nat
  den : Nat
  closed : Bool

def neighbourhood (m : Nat) (e : Int) : Neighbourhood :=
  let below := if m = Nat.pow 2 52 ∧ -1074 < e then 1 else 2
  let (unit, den) : Nat × Nat :=
    if 2 ≤ e then (Nat.pow 2 (e - 2).toNat, 1) else (1, Nat.pow 2 (2 - e).toNat)
  { low := (4 * m - below) * unit, mid := 4 * m * unit, high := (4 * m + 2) * unit, den,
    closed := m % 2 == 0 }

/-- Whether the fraction `num / den` lies in the neighbourhood. -/
def Neighbourhood.holds (n : Neighbourhood) (num den : Nat) : Bool :=
  let x := num * n.den
  if n.closed then n.low * den ≤ x && x ≤ n.high * den else n.low * den < x && x < n.high * den

/-- The place of the decimal point: `10 ^ (p - 1) ≤ num / den < 10 ^ p`. -/
def pointPlace (num den : Nat) : Int :=
  if den ≤ num then (toString (num / den)).length
  else
    let k := (toString (den / num)).length
    if den ≤ num * Nat.pow 10 (k - 1) then 2 - (k : Int) else 1 - (k : Int)

/-- The point of the grid `10 ^ g` nearest to the value among its two neighbours, if one of them
reads back. -/
def onGrid (n : Neighbourhood) (g : Int) : Option Nat :=
  let (up, down) : Nat × Nat := if 0 ≤ g then (Nat.pow 10 g.toNat, 1) else (1, Nat.pow 10 (-g).toNat)
  let d := n.mid * down / (n.den * up)
  let low := n.holds (d * up) down
  let high := n.holds ((d + 1) * up) down
  if low && high then
    let below := n.mid * down - d * up * n.den
    let above := (d + 1) * up * n.den - n.mid * down
    some (if below < above || (below == above && d % 2 == 0) then d else d + 1)
  else if low then some d
  else if high then some (d + 1)
  else none

/-- Digits `d` and a place `p` of the decimal point: the value is `0.d * 10 ^ p`. -/
def shortestDigits (m : Nat) (e : Int) : List Char × Int :=
  let n := neighbourhood m e
  let p := pointPlace n.mid n.den
  let hit := (List.range 17).findSome? fun (i : Nat) =>
    (onGrid n (p - 1 - (i : Int))).map fun d => (d, i)
  match hit with
  | none => (['0'], 1)
  | some (d, i) =>
    let text := (toString d).toList
    let place := p + ((text.length : Int) - (i + 1))
    ((text.reverse.dropWhile (· == '0')).reverse, place)

def zeros (n : Nat) : List Char :=
  List.replicate n '0'

/-- An exponent has a sign and at least two digits. -/
def exponentText (e : Int) : List Char :=
  let digits := (toString e.natAbs).toList
  (if e < 0 then '-' else '+') :: (if digits.length < 2 then '0' :: digits else digits)

def layout (digits : List Char) (place : Int) : List Char :=
  if -4 < place ∧ place ≤ 16 then
    if place ≤ 0 then '0' :: '.' :: zeros (-place).toNat ++ digits
    else
      let whole := digits.take place.toNat
      let padded := whole ++ zeros (place.toNat - whole.length)
      let rest := digits.drop place.toNat
      padded ++ '.' :: (if rest.isEmpty then ['0'] else rest)
  else
    match digits with
    | [] => []
    | [d] => d :: 'e' :: exponentText (place - 1)
    | d :: rest => d :: '.' :: rest ++ 'e' :: exponentText (place - 1)

/-- The text of a value, as in `0.1`, `1e+16`, `-0.0`, `inf` and `nan`. -/
def text : Double → String
  | .nan => "nan"
  | .infinity false => "inf"
  | .infinity true => "-inf"
  | .finite negative m e =>
    let (digits, place) := if m = 0 then (['0'], 1) else shortestDigits m e
    String.ofList ((if negative then ['-'] else []) ++ layout digits place)

end TypeExport.Double

import TypeExport.Number.Double
import TypeExport.Text.Classes

/-!
# Reading numerals

An integer numeral may stand between blanks, may have a sign, may have decimal digits of any
script, and may have single low lines between its digits.  A decimal numeral adds a fraction, an
exponent and the names of the values that are not finite.
-/

namespace TypeExport.Numeral

def trimBlanks (s : List Char) : List Char :=
  let blank (c : Char) := Text.isBlank c.toNat
  ((s.dropWhile blank).reverse.dropWhile blank).reverse

/-- A sign, if one stands in front. -/
def splitSign : List Char → Bool × List Char
  | '-' :: rest => (true, rest)
  | '+' :: rest => (false, rest)
  | s => (false, s)

/-- Digits with single low lines between them: the value so far and whether a digit is due. -/
def digitsFrom (value : Nat) (due : Bool) : List Char → Option Nat
  | [] => if due then none else some value
  | '_' :: rest => if due then none else digitsFrom value true rest
  | c :: rest =>
    match Text.decimalValue? c.toNat with
    | some d => digitsFrom (10 * value + d) false rest
    | none => none

/-- The most digits an integer numeral may have. -/
def digitLimit : Nat := 4300

/-- The words for a numeral of more digits. -/
def limitMessage (count : Nat) : String :=
  "Exceeds the limit (4300 digits) for integer string conversion: value has " ++ toString count ++
    " digits; use sys.set_int_max_str_digits() to increase the limit"

def leadingDigits (s : String) : Nat :=
  (s.toList.takeWhile fun c => (Text.decimalValue? c.toNat).isSome).length

/-- The integer that a text spells, of however many digits. -/
def readInt? (s : String) : Option Int :=
  let (negative, digits) := splitSign (trimBlanks s.toList)
  (digitsFrom 0 true digits).map fun n => if negative then -(n : Int) else n

/-- The value of a digit or an ASCII letter in a large base. -/
def largeDigit? (c : Char) : Option Nat :=
  if 'a' ≤ c ∧ c ≤ 'z' then some (c.toNat - 'a'.toNat + 10)
  else if 'A' ≤ c ∧ c ≤ 'Z' then some (c.toNat - 'A'.toNat + 10)
  else Text.decimalValue? c.toNat

/-- Digits of a base with single low lines between them. -/
def digitsIn (base value : Nat) (due : Bool) : List Char → Option Nat
  | [] => if due then none else some value
  | '_' :: rest => if due then none else digitsIn base value true rest
  | c :: rest =>
    match largeDigit? c with
    | some d => if d < base then digitsIn base (base * value + d) false rest else none
    | none => none

/-- The letter that announces numerals of a base. -/
def announcedBase? : Char → Option Nat
  | 'x' | 'X' => some 16
  | 'o' | 'O' => some 8
  | 'b' | 'B' => some 2
  | _ => none

/-- Digits in a base, perhaps announced; a base of zero is the announced one, or ten. -/
def announcedDigits (base : Nat) (digits : List Char) : Option Nat :=
  let plain := if base = 0 then digitsIn 10 0 true digits else digitsIn base 0 true digits
  match digits with
  | '0' :: letter :: rest =>
    match announcedBase? letter with
    | some b =>
      if b = base || base = 0 then
        digitsIn b 0 true (if rest.head? = some '_' then rest.tail else rest)
      else plain
    | none => if base = 0 && plain != some 0 then none else plain
  | _ => plain

/-- The integer that a text spells in a base. -/
def readIntIn? (base : Nat) (s : String) : Option Int :=
  let (negative, digits) := splitSign (trimBlanks s.toList)
  (announcedDigits base digits).map fun n => if negative then -(n : Int) else n

/-- Digits up to the first other character, low lines only between digits. -/
def spanDigits : List Char → List Char × List Char
  | [] => ([], [])
  | '_' :: c :: rest =>
    if (Text.decimalValue? c.toNat).isSome then
      let (ds, r) := spanDigits (c :: rest)
      ('_' :: ds, r)
    else ([], '_' :: c :: rest)
  | c :: rest =>
    if (Text.decimalValue? c.toNat).isSome then
      let (ds, r) := spanDigits rest
      (c :: ds, r)
    else ([], c :: rest)

def digitValue (ds : List Char) : Nat :=
  ds.foldl (fun v c => if c = '_' then v else 10 * v + (Text.decimalValue? c.toNat).getD 0) 0

def digitCount (ds : List Char) : Nat :=
  ds.countP (· != '_')

def namedDouble? (negative : Bool) (name : List Char) : Option Double :=
  match String.ofList (name.map Char.toLower) with
  | "inf" => some (.infinity negative)
  | "infinity" => some (.infinity negative)
  | "nan" => some .nan
  | _ => none

def exponent? : List Char → Option Int
  | [] => some 0
  | c :: rest =>
    if c = 'e' ∨ c = 'E' then
      let (negative, ds) := splitSign rest
      let (digits, left) := spanDigits ds
      if digits.isEmpty || digits.head? == some '_' || !left.isEmpty then none
      else some (if negative then -(digitValue digits : Int) else digitValue digits)
    else none

/-- The binary value nearest to the decimal that a text spells. -/
def readDouble? (s : String) : Option Double :=
  let (negative, body) := splitSign (trimBlanks s.toList)
  match namedDouble? negative body with
  | some d => some d
  | none =>
    let (whole, rest) := spanDigits body
    let (fraction, rest) :=
      match rest with
      | '.' :: more => spanDigits more
      | _ => ([], rest)
    if (whole.isEmpty && fraction.isEmpty) || whole.head? == some '_' || fraction.head? == some '_'
    then none
    else
      (exponent? rest).map fun e =>
        let digits := digitValue (whole ++ fraction)
        Double.ofDecimal negative digits (e - digitCount fraction)

end TypeExport.Numeral

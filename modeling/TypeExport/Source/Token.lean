import TypeExport.Name.Keyword
import TypeExport.Number.Numeral
import TypeExport.Source.TextLiteral
import TypeExport.Value.Basic

/-!
# Tokens of expressions

Words, literals and marks.  Blanks between tokens count for nothing, but none may stand in front.
-/

namespace TypeExport

inductive SourceToken where
  | word (name : String)
  | literal (value : Value)
  | mark (text : String)
  deriving Repr

namespace SourceToken

def isMark (text : String) : SourceToken → Bool
  | .mark t => t == text
  | _ => false

def isGap (c : Char) : Bool :=
  c = ' ' || c = '\t' || c = '\x0c' || c = '\n' || c = '\r'

def startsWord (c : Char) : Bool :=
  Text.startsIdentifier c.toNat

def continuesWord (c : Char) : Bool :=
  Text.continuesIdentifier c.toNat

/-- A character of a numeral, given the one before it. -/
def numeralLength (before : Char) : List Char → Nat
  | [] => 0
  | c :: rest =>
    let sign := (c = '+' || c = '-') && (before = 'e' || before = 'E')
    if c.isAlphanum || c = '_' || c = '.' || sign then numeralLength c rest + 1 else 0

/-- An integer without leading zeros, or a decimal. -/
def numeral? (digits : List Char) : Option Value :=
  let text := String.ofList digits
  match Numeral.readInt? text with
  | some n => if digits.head? = some '0' && n != 0 then none else some (.int n)
  | none => (Numeral.readDouble? text).map .double

def marks : List String :=
  ["...", "//", "(", ")", "[", "]", "\x7b", "\x7d", ",", ".", ":", "|", "+", "-", "*", "/", "%",
   "="]

def mark? (s : List Char) : Option String :=
  marks.find? fun m => m.toList.isPrefixOf s

def scan : (fuel : Nat) → List Char → Option (List SourceToken)
  | 0, _ => none
  | _ + 1, [] => some []
  | fuel + 1, c :: rest =>
    if isGap c then scan fuel rest
    else if startsWord c then
      (scan fuel (rest.dropWhile continuesWord)).map fun ts =>
        .word (String.ofList (c :: rest.takeWhile continuesWord)) :: ts
    else if c.isDigit || (c = '.' && (rest.head?.map Char.isDigit).getD false) then
      let n := numeralLength c rest
      (numeral? (c :: rest.take n)).bind fun v =>
        (scan fuel (rest.drop n)).map fun ts => .literal v :: ts
    else if c = '\'' || c = '"' then
      (TextLiteral.rest? c rest).bind fun (t, r) =>
        (scan fuel r).map fun ts => .literal (.text t) :: ts
    else
      (mark? (c :: rest)).bind fun m =>
        (scan fuel ((c :: rest).drop m.length)).map fun ts => .mark m :: ts

/-- The tokens of an expression; `none` if the text starts with a blank or has no tokens. -/
def ofText? (s : String) : Option (List SourceToken) :=
  match s.toList with
  | [] => none
  | c :: rest => if isGap c then none else scan (rest.length + 2) (c :: rest)

end SourceToken

end TypeExport

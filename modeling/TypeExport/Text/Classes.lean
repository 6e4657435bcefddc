import TypeExport.Text.Property

/-!
# Classes of code points

Each class is decided on the number of a code point, so that it serves scalar values and surrogates
alike.  Below 128 the answer does not need the tables.
-/

namespace TypeExport.Text

/-- ASCII letters, and elsewhere category L. -/
def isLetter (c : Nat) : Bool :=
  if c < 128 then (65 ≤ c && c ≤ 90) || (97 ≤ c && c ≤ 122) else letterRanges.contains c

def isNumber (c : Nat) : Bool :=
  if c < 128 then 48 ≤ c && c ≤ 57 else numberRanges.contains c

/-- A letter, or a code point with a numeric type such as `²` or `½`. -/
def isAlphanumeric (c : Nat) : Bool :=
  isLetter c || isNumber c

/-- A code point with a digit type: `²` is one and `½` is not. -/
def isDigit (c : Nat) : Bool :=
  if c < 128 then 48 ≤ c && c ≤ 57 else digitRanges.contains c

/-- The value of a decimal digit of any script. -/
def decimalValue? (c : Nat) : Option Nat :=
  (decimalRanges.find? fun (first, last) => first ≤ c && c ≤ last).map fun (first, _) =>
    (c - first) % 10

/-- Blanks: white space, the line and paragraph separators, and the four separators from 1C to 1F. -/
def blankRanges : Ranges :=
  [(0x9, 0xD), (0x1C, 0x20), (0x85, 0x85), (0xA0, 0xA0), (0x1680, 0x1680), (0x2000, 0x200A),
   (0x2028, 0x2029), (0x202F, 0x202F), (0x205F, 0x205F), (0x3000, 0x3000)]

def isBlank (c : Nat) : Bool :=
  blankRanges.contains c

def isPrintable (c : Nat) : Bool :=
  if c < 128 then 32 ≤ c && c < 127 else !unprintableRanges.contains c

/-- A letter or low line, up to the exceptions of the identifier property. -/
def startsIdentifier (c : Nat) : Bool :=
  if c < 128 then isLetter c || c == 95
  else (isLetter c && !nonStartLetterRanges.contains c) || extraStartRanges.contains c

def continuesIdentifier (c : Nat) : Bool :=
  if c < 128 then isAlphanumeric c || c == 95
  else startsIdentifier c || extraContinueRanges.contains c

def isIdentifier : List Nat → Bool
  | [] => false
  | c :: rest => startsIdentifier c && rest.all continuesIdentifier

/-- A letter, number or low line. -/
def isWord (c : Nat) : Bool :=
  isAlphanumeric c || c == 95

end TypeExport.Text

/-!
## Blanks around a text

Blank is the Unicode class of `Text.isBlank`.
-/

namespace TypeExport.Text

def blankChar (c : Char) : Bool :=
  isBlank c.toNat

def trimLeft (s : List Char) : List Char :=
  s.dropWhile blankChar

def trimRight (s : List Char) : List Char :=
  (s.reverse.dropWhile blankChar).reverse

def trimChars (s : List Char) : List Char :=
  trimRight (trimLeft s)

def trim (s : String) : String :=
  String.ofList (trimChars s.toList)

def allBlank (s : String) : Bool :=
  s.toList.all blankChar

end TypeExport.Text

import TypeExport.Text.Classes
import TypeExport.Text.CodeText

/-!
# Quoted text

Two written forms of a text.  The ASCII form stands between double quotes and escapes everything
outside the printable ASCII characters, beyond the first plane as a pair of surrogates.  The
readable form keeps printable characters of every script and stands between apostrophes, or between
double quotes when the text has an apostrophe and no double quote.
-/

namespace TypeExport.Quoted

def hexDigit (n : Nat) : Char :=
  if n < 10 then Char.ofNat (48 + n) else Char.ofNat (87 + n)

/-- The last `width` hexadecimal digits of a number. -/
def hex (width n : Nat) : List Char :=
  ((List.range width).map fun i => hexDigit (n / Nat.pow 16 i % 16)).reverse

def unit (n : Nat) : List Char :=
  '\\' :: 'u' :: hex 4 n

def asciiPiece (c : Nat) : List Char :=
  if c = 0x22 then ['\\', '"']
  else if c = 0x5C then ['\\', '\\']
  else if c = 0x0A then ['\\', 'n']
  else if c = 0x0D then ['\\', 'r']
  else if c = 0x09 then ['\\', 't']
  else if c = 0x08 then ['\\', 'b']
  else if c = 0x0C then ['\\', 'f']
  else if 0x20 ≤ c ∧ c ≤ 0x7E then [Char.ofNat c]
  else if c < 0x10000 then unit c
  else unit (0xD800 + (c - 0x10000) / 0x400) ++ unit (0xDC00 + (c - 0x10000) % 0x400)

def asciiCodes (t : List Nat) : List Char :=
  '"' :: t.flatMap asciiPiece ++ ['"']

def ascii (t : CodeText) : String :=
  String.ofList (asciiCodes t.codes)

def asciiString (s : String) : String :=
  String.ofList (asciiCodes (s.toList.map Char.toNat))

/-- The quote of the readable form. -/
def quoteFor (t : List Nat) : Char :=
  if t.contains 0x27 && !t.contains 0x22 then '"' else '\''

/-- One code point of the readable form between quotes `quote`. -/
def readablePiece (quote : Char) (c : Nat) : List Char :=
  if c = quote.toNat ∨ c = 0x5C then ['\\', Char.ofNat c]
  else if c = 0x09 then ['\\', 't']
  else if c = 0x0A then ['\\', 'n']
  else if c = 0x0D then ['\\', 'r']
  else if Text.isPrintable c then [Char.ofNat c]
  else if c < 0x100 then '\\' :: 'x' :: hex 2 c
  else if c < 0x10000 then '\\' :: 'u' :: hex 4 c
  else '\\' :: 'U' :: hex 8 c

def readableCodes (t : List Nat) : List Char :=
  let quote := quoteFor t
  quote :: t.flatMap (readablePiece quote) ++ [quote]

def readable (t : CodeText) : String :=
  String.ofList (readableCodes t.codes)

def readableString (s : String) : String :=
  String.ofList (readableCodes (s.toList.map Char.toNat))

/-- One byte of the readable form of binary data. -/
def bytePiece (quote : Char) (b : Nat) : List Char :=
  if b = quote.toNat ∨ b = 0x5C then ['\\', Char.ofNat b]
  else if b = 0x09 then ['\\', 't']
  else if b = 0x0A then ['\\', 'n']
  else if b = 0x0D then ['\\', 'r']
  else if 0x20 ≤ b ∧ b < 0x7F then [Char.ofNat b]
  else '\\' :: 'x' :: hex 2 b

/-- The readable form of binary data, marked by a `b`. -/
def readableBytes (bytes : List UInt8) : String :=
  let codes := bytes.map (·.toNat)
  let quote := quoteFor codes
  String.ofList ('b' :: quote :: codes.flatMap (bytePiece quote) ++ [quote])

end TypeExport.Quoted

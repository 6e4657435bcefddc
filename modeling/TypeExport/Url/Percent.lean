import TypeExport.Text.Quoted
import TypeExport.Text.Split
import TypeExport.Text.Utf8

/-!
# Percent coding

Everything but ASCII letters, digits, four marks and the characters named safe is written as the
bytes of its UTF-8 form.  In a query a plus sign stands for a space.
-/

namespace TypeExport.Percent

def isUnreserved (c : Char) : Bool :=
  c.isAlphanum || c = '_' || c = '.' || c = '-' || c = '~'

def encodeByte (b : UInt8) : List Char :=
  '%' :: (Quoted.hex 2 b.toNat).map Char.toUpper

def encodeChar (safe : List Char) (c : Char) : List Char :=
  if isUnreserved c || safe.contains c then [c]
  else (Utf8.encode (String.ofList [c])).flatMap encodeByte

def encode (safe : List Char) (s : List Char) : List Char :=
  s.flatMap (encodeChar safe)

/-- The form inside a query: spaces become plus signs. -/
def encodeQuery (s : List Char) : List Char :=
  (encode [' '] s).map fun c => if c = ' ' then '+' else c

def hexValue? (c : Char) : Option Nat :=
  if '0' ≤ c ∧ c ≤ '9' then some (c.toNat - 48)
  else if 'a' ≤ c ∧ c ≤ 'f' then some (c.toNat - 87)
  else if 'A' ≤ c ∧ c ≤ 'F' then some (c.toNat - 55)
  else none

/-- The bytes of an ASCII text; a percent sign without two digits stands for itself. -/
def bytesOf : List Char → List UInt8
  | '%' :: a :: b :: rest =>
    match hexValue? a, hexValue? b with
    | some h, some l => UInt8.ofNat (16 * h + l) :: bytesOf rest
    | _, _ => 37 :: bytesOf (a :: b :: rest)
  | c :: rest => UInt8.ofNat c.toNat :: bytesOf rest
  | [] => []
termination_by s => s.length

/-- Decodes the ASCII run collected in reverse, then the rest. -/
def decodeFrom (run : List Char) : List Char → List Char
  | [] => Utf8.decodeLenient (bytesOf run.reverse)
  | c :: rest =>
    if c.toNat < 128 then decodeFrom (c :: run) rest
    else Utf8.decodeLenient (bytesOf run.reverse) ++ c :: decodeFrom [] rest

/-- Reads percent escapes; bytes that are not UTF-8 become replacement characters. -/
def decode (s : List Char) : List Char :=
  decodeFrom [] s

/-- The form inside a query: plus signs become spaces first. -/
def decodeQuery (s : List Char) : List Char :=
  decode (s.map fun c => if c = '+' then ' ' else c)

/-- The parameters of a query with a name and a value that is not empty, in order. -/
def parameters (query : List Char) : List (List Char × List Char) :=
  (Text.splitOn '&' query).filterMap fun field =>
    match field.dropWhile (· != '=') with
    | '=' :: c :: value => some (decodeQuery (field.takeWhile (· != '=')), decodeQuery (c :: value))
    | _ => none

end TypeExport.Percent

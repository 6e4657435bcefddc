import TypeExport.Text.Quoted
import TypeExport.Text.Utf8

/-!
# Digests of texts

The SHA-1 digest of the UTF-8 bytes of a text, written in hexadecimal digits.
-/

namespace TypeExport.Digest

structure State where
  a : UInt32
  b : UInt32
  c : UInt32
  d : UInt32
  e : UInt32
  deriving DecidableEq, Repr

def State.start : State :=
  ⟨0x67452301, 0xEFCDAB89, 0x98BADCFE, 0x10325476, 0xC3D2E1F0⟩

def State.add (s t : State) : State :=
  ⟨s.a + t.a, s.b + t.b, s.c + t.c, s.d + t.d, s.e + t.e⟩

def State.words (s : State) : List UInt32 :=
  [s.a, s.b, s.c, s.d, s.e]

def rotate (w n : UInt32) : UInt32 :=
  (w <<< n) ||| (w >>> (32 - n))

/-- The message with a single bit, zeros and its length in bits, in whole blocks. -/
def padded (message : List UInt8) : List UInt8 :=
  let zeros := (119 - message.length % 64) % 64
  let bits := 8 * message.length
  message ++ 0x80 :: List.replicate zeros 0 ++
    ((List.range 8).map fun i => UInt8.ofNat (bits / Nat.pow 256 i)).reverse

/-- The words of a block, the first byte of each in front. -/
def wordsOf : List UInt8 → List UInt32
  | a :: b :: c :: d :: rest =>
    ((a.toUInt32 <<< 24) ||| (b.toUInt32 <<< 16) ||| (c.toUInt32 <<< 8) ||| d.toUInt32) ::
      wordsOf rest
  | _ => []

/-- One more word of the schedule; the latest one stands first. -/
def schedule (latest : List UInt32) : List UInt32 :=
  let word (i : Nat) := latest.getD i 0
  rotate (word 2 ^^^ word 7 ^^^ word 13 ^^^ word 15) 1 :: latest

/-- The function and the constant of a round. -/
def mixOf (i : Nat) (s : State) : UInt32 × UInt32 :=
  if i < 20 then ((s.b &&& s.c) ||| (~~~s.b &&& s.d), 0x5A827999)
  else if i < 40 then (s.b ^^^ s.c ^^^ s.d, 0x6ED9EBA1)
  else if i < 60 then ((s.b &&& s.c) ||| (s.b &&& s.d) ||| (s.c &&& s.d), 0x8F1BBCDC)
  else (s.b ^^^ s.c ^^^ s.d, 0xCA62C1D6)

def round (s : State) (word : UInt32 × Nat) : State :=
  let (f, k) := mixOf word.2 s
  { a := rotate s.a 5 + f + s.e + k + word.1, b := s.a, c := rotate s.b 30, d := s.c, e := s.d }

def compress (s : State) (block : List UInt8) : State :=
  let words := (Nat.repeat schedule 64 (wordsOf block).reverse).reverse
  s.add (words.zipIdx.foldl round s)

def sha1 (message : List UInt8) : State :=
  let bytes := padded message
  ((List.range (bytes.length / 64)).map fun i => (bytes.drop (64 * i)).take 64).foldl compress .start

/-- The first digits of the digest of a text. -/
def digits (count : Nat) (text : String) : String :=
  String.ofList (((sha1 (Utf8.encode text)).words.flatMap fun w => Quoted.hex 8 w.toNat).take count)

end TypeExport.Digest

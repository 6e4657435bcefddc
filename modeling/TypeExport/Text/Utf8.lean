/-!
# UTF-8

Strict decoding refuses what is not UTF-8.  Lenient decoding writes one replacement character for
each longest piece that starts a code point and does not end one.
-/

namespace TypeExport.Utf8

def encode (s : String) : List UInt8 :=
  s.toUTF8.data.toList

/-- What a first byte announces: the bits it holds, the bytes to follow, and the range of the
second byte. -/
def announced? (b : Nat) : Option (Nat × Nat × Nat × Nat) :=
  if b < 0x80 then some (b, 0, 0, 0)
  else if 0xC2 ≤ b ∧ b ≤ 0xDF then some (b - 0xC0, 1, 0x80, 0xBF)
  else if b = 0xE0 then some (0, 2, 0xA0, 0xBF)
  else if b = 0xED then some (0xD, 2, 0x80, 0x9F)
  else if 0xE1 ≤ b ∧ b ≤ 0xEF then some (b - 0xE0, 2, 0x80, 0xBF)
  else if b = 0xF0 then some (0, 3, 0x90, 0xBF)
  else if 0xF1 ≤ b ∧ b ≤ 0xF3 then some (b - 0xF0, 3, 0x80, 0xBF)
  else if b = 0xF4 then some (4, 3, 0x80, 0x8F)
  else none

/-- Reads up to `count` continuation bytes, the first of them between `low` and `high`.  The result
is the value, whether all were there, and the rest. -/
def continuation (value : Nat) (low high : Nat) : Nat → List UInt8 → Nat × Bool × List UInt8
  | 0, rest => (value, true, rest)
  | _ + 1, [] => (value, false, [])
  | count + 1, b :: rest =>
    if low ≤ b.toNat ∧ b.toNat ≤ high then
      continuation (value * 64 + (b.toNat - 0x80)) 0x80 0xBF count rest
    else (value, false, b :: rest)

theorem continuation_length_le (value low high count : Nat) (bytes : List UInt8) :
    (continuation value low high count bytes).2.2.length ≤ bytes.length := by
  fun_induction continuation value low high count bytes <;> simp_all
  omega

/-- The code points of a byte sequence; a malformed piece is `none`. -/
def pieces : List UInt8 → List (Option Char)
  | [] => []
  | b :: rest =>
    match announced? b.toNat with
    | none => none :: pieces rest
    | some (bits, count, low, high) =>
      let r := continuation bits low high count rest
      (if r.2.1 then some (Char.ofNat r.1) else none) :: pieces r.2.2
termination_by bytes => bytes.length
decreasing_by
  · simp
  · have := continuation_length_le bits low high count rest
    simp only [List.length_cons]
    omega

def decode? (bytes : List UInt8) : Option (List Char) :=
  (pieces bytes).mapM id

def decodeLenient (bytes : List UInt8) : List Char :=
  (pieces bytes).map fun piece => piece.getD '\uFFFD'

end TypeExport.Utf8

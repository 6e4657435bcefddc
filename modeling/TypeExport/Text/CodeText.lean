/-!
# Text with surrogates

A quoted text may spell a single surrogate, which no `String` holds.  `CodeText` keeps all code
points; it stands for a `String` exactly when none of them is a surrogate.
-/

namespace TypeExport

abbrev CodePoint := Fin 0x110000

def CodePoint.ofChar (c : Char) : CodePoint :=
  ⟨c.toNat, by
    have h := c.valid
    simp only [UInt32.isValidChar, Nat.isValidChar] at h
    show c.val.toNat < _
    omega⟩

/-- The scalar value, unless the code point is a surrogate. -/
def CodePoint.toChar? (c : CodePoint) : Option Char :=
  if c.val.isValidChar then some (Char.ofNat c.val) else none

/-- A text in which surrogates may stand alone. -/
abbrev CodeText := List CodePoint

namespace CodeText

def ofString (s : String) : CodeText :=
  s.toList.map CodePoint.ofChar

/-- The string that a text without surrogates stands for. -/
def toString? (t : CodeText) : Option String :=
  (t.mapM CodePoint.toChar?).map String.ofList

def codes (t : CodeText) : List Nat :=
  t.map (·.val)

/-- The order of texts: code point by code point. -/
def le (a b : CodeText) : Bool :=
  !b.codes.lex a.codes fun x y => decide (x < y)

end CodeText

theorem CodePoint.toChar?_ofChar (c : Char) : (CodePoint.ofChar c).toChar? = some c := by
  have h : c.toNat.isValidChar := c.valid
  unfold CodePoint.toChar?
  rw [show (ofChar c).val = c.toNat from rfl, if_pos h, Char.ofNat_toNat]

theorem CodeText.toString?_ofString (s : String) : (ofString s).toString? = some s := by
  have h (l : List Char) : (l.map CodePoint.ofChar).mapM CodePoint.toChar? = some l := by
    induction l with
    | nil => rfl
    | cons c l ih => simp [List.mapM_cons, CodePoint.toChar?_ofChar, ih]
  simp [CodeText.toString?, CodeText.ofString, h]

end TypeExport

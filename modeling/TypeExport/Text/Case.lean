import TypeExport.Text.Case.Table

/-!
# Upper and lower case

Full case mappings: one code point may become several.  A capital sigma is final when a cased
code point precedes it and none follows, the ignorable ones apart.
-/

namespace TypeExport.Text

def CaseRun.image? (run : CaseRun) (c : Nat) : Option Nat :=
  if run.first ≤ c && c ≤ run.last && (c - run.first) % run.stride == 0 then
    some (c + run.shift).toNat
  else
    none

def mapCase (runs : List CaseRun) (expansions : List (Nat × List Nat)) (c : Nat) : List Nat :=
  match runs.findSome? (·.image? c) with
  | some d => [d]
  | none => (expansions.lookup c).getD [c]

def upperCode (c : Nat) : List Nat :=
  if c < 128 then [if 97 ≤ c && c ≤ 122 then c - 32 else c] else mapCase upperRuns upperExpansions c

/-- The lower case of one code point that stands alone. -/
def lowerCode (c : Nat) : List Nat :=
  if c < 128 then [if 65 ≤ c && c ≤ 90 then c + 32 else c] else mapCase lowerRuns lowerExpansions c

def upperChar (c : Char) : List Char :=
  (upperCode c.toNat).map Char.ofNat

def lowerChar (c : Char) : List Char :=
  (lowerCode c.toNat).map Char.ofNat

def upper (s : String) : String :=
  String.ofList (s.toList.flatMap upperChar)

/-- Whether the nearest code point that is not ignorable is cased. -/
def meetsCased (neighbours : List Char) : Bool :=
  match neighbours.find? fun c => !caseIgnorableRanges.contains c.toNat with
  | some c => casedRanges.contains c.toNat
  | none => false

/-- Lower case with the characters before the current one at hand, nearest first. -/
def lowerFrom (before : List Char) : List Char → List Char
  | [] => []
  | c :: rest =>
    let low :=
      if c = 'Σ' then if meetsCased before && !meetsCased rest then ['ς'] else ['σ']
      else lowerChar c
    low ++ lowerFrom (c :: before) rest

def lower (s : String) : String :=
  String.ofList (lowerFrom [] s.toList)

end TypeExport.Text

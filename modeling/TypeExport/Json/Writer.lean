import TypeExport.Json.Basic
import TypeExport.Number.Shortest
import TypeExport.Text.Quoted

/-!
# Writing JSON

The compact form is all ASCII and has no blanks.  The readable form is the one that messages quote:
texts in their readable form and the constants spelled as in the messages.
-/

namespace TypeExport.Json

/-- A number that is not finite has a name. -/
def doubleText : Double → String
  | .nan => "NaN"
  | .infinity false => "Infinity"
  | .infinity true => "-Infinity"
  | x => x.text

theorem sizeOf_value_lt {k : CodeText} {v : Json} {entries : List (CodeText × Json)}
    (h : (k, v) ∈ entries) : sizeOf v < 1 + sizeOf entries := by
  have hentry := List.sizeOf_lt_of_mem h
  rw [Prod.mk.sizeOf_spec] at hentry
  omega

def compact : Json → String
  | .null => "null"
  | .bool b => if b then "true" else "false"
  | .int n => toString n
  | .double x => doubleText x
  | .text t => Quoted.ascii t
  | .array items => "[" ++ ",".intercalate (items.attach.map fun ⟨v, _⟩ => v.compact) ++ "]"
  | .object entries =>
    "\x7b" ++ ",".intercalate (entries.attach.map fun ⟨(k, v), h⟩ =>
      have := sizeOf_value_lt h
      Quoted.ascii k ++ ":" ++ v.compact) ++ "\x7d"

/-- The form of a value inside a message. -/
def readable : Json → String
  | .null => "None"
  | .bool b => if b then "True" else "False"
  | .int n => toString n
  | .double x => x.text
  | .text t => Quoted.readable t
  | .array items => "[" ++ ", ".intercalate (items.attach.map fun ⟨v, _⟩ => v.readable) ++ "]"
  | .object entries =>
    "\x7b" ++ ", ".intercalate (entries.attach.map fun ⟨(k, v), h⟩ =>
      have := sizeOf_value_lt h
      Quoted.readable k ++ ": " ++ v.readable) ++ "\x7d"

end TypeExport.Json

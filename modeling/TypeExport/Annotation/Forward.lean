import TypeExport.Annotation.Evaluate

/-!
# Annotations left for later

Resolving a hint evaluates the texts in it where names have meanings.  A text that comes up again
while it is evaluated stays as it is.
-/

namespace TypeExport.Hint

/-- How deep the evaluation of texts and forms may go. -/
def resolutionDepth : Nat := 400

/-- A native container takes its texts for annotations only now. -/
def openTexts (native : Bool) (arguments : List Hint) : Except Failure (List Hint) :=
  if native then
    arguments.mapM fun
      | .text s => forwardOf s false
      | h => .ok h
  else .ok arguments

/-- The hint with the texts in it evaluated; those in `guard` are being evaluated. -/
def resolveFrom (w : World) (lookup : String → Option Hint) :
    (depth : Nat) → (guard : List String) → Hint → Except Failure Hint
  | 0, _, h => .ok h
  | depth + 1, guard, h =>
    let part := resolveFrom w lookup depth guard
    match h with
    | .forward s special =>
      if guard.contains s then .ok h
      else
        match Expr.read? s with
        | none => .error .unreadable
        | some e => do
          let h ← asArgument special (← e.evaluate w lookup)
          resolveFrom w lookup depth (s :: guard) h
    | .union members native => do joinTypes native (← members.mapM part)
    | .applied origin arguments native => do
      return .applied origin (← (← openTexts native arguments).mapM part) native
    | .formed name arguments => do return .formed name (← arguments.mapM part)
    | .annotated inner notes => do return annotate (← part inner) notes
    | .classVariable inner => do return .classVariable (← part inner)
    | .final inner => do return .final (← part inner)
    | h => .ok h

/-- The hint with the texts in it evaluated. -/
def resolve (w : World) (lookup : String → Option Hint) (h : Hint) : Except Failure Hint :=
  resolveFrom w lookup resolutionDepth [] h

/-- The hint of an annotation as it stands in a class: a text is an annotation of its own. -/
def ofAnnotation (w : World) (lookup : String → Option Hint) (h : Hint) : Except Failure Hint := do
  resolve w lookup (← asType true h)

end TypeExport.Hint

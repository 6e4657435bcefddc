import TypeExport.Source.Expr
import TypeExport.Source.Printer
import TypeExport.Source.Token

/-!
# Reading expressions

The inverse of writing them.  Binary operators are read level by level, and operators of one level
group to the left.
-/

namespace TypeExport.Expr

def operator? : String → Option Operator
  | "|" => some .alternative
  | "+" => some .add
  | "-" => some .subtract
  | "*" => some .multiply
  | "/" => some .divide
  | "//" => some .floorDivide
  | "%" => some .modulo
  | _ => none

/-- The expression that a word is. -/
def ofWord? : String → Option Expr
  | "None" => some (.constant .null)
  | "True" => some (.constant (.bool true))
  | "False" => some (.constant (.bool false))
  | word => if Name.isKeyword word then none else some (.name word)

/-- Adjacent text literals are one text. -/
def joinTexts (s : String) : List SourceToken → String × List SourceToken
  | .literal (.text t) :: rest => joinTexts (s ++ t) rest
  | rest => (s, rest)

mutual

def readExpr : (fuel : Nat) → List SourceToken → Option (Expr × List SourceToken)
  | 0, _ => none
  | fuel + 1, .word "lambda" :: rest =>
    match rest.dropWhile (!SourceToken.isMark ":" ·) with
    | _ :: body => (readExpr fuel body).map fun (_, rest) => (.function, rest)
    | [] => none
  | fuel + 1, tokens => readBinary fuel 1 tokens

/-- An expression of operators from a level upwards. -/
def readBinary : (fuel level : Nat) → List SourceToken → Option (Expr × List SourceToken)
  | 0, _, _ => none
  | fuel + 1, level, tokens =>
    if 3 < level then readUnary fuel tokens
    else
      match readBinary fuel (level + 1) tokens with
      | some (left, rest) => readMore fuel level left rest
      | none => none

/-- The operands of one level that follow `left`. -/
def readMore : (fuel level : Nat) → Expr → List SourceToken → Option (Expr × List SourceToken)
  | 0, _, _, _ => none
  | fuel + 1, level, left, .mark m :: rest =>
    match operator? m with
    | some op =>
      if strength op = level then
        match readBinary fuel (level + 1) rest with
        | some (right, rest) => readMore fuel level (.binary op left right) rest
        | none => none
      else some (left, .mark m :: rest)
    | none => some (left, .mark m :: rest)
  | _ + 1, _, left, tokens => some (left, tokens)

def readUnary : (fuel : Nat) → List SourceToken → Option (Expr × List SourceToken)
  | 0, _ => none
  | fuel + 1, .mark "-" :: rest => (readUnary fuel rest).map fun (e, rest) => (.negative e, rest)
  | fuel + 1, tokens =>
    match readAtom fuel tokens with
    | some (e, rest) => readTrailers fuel e rest
    | none => none

/-- The attributes, indices and calls that follow `owner`. -/
def readTrailers : (fuel : Nat) → Expr → List SourceToken → Option (Expr × List SourceToken)
  | 0, _, _ => none
  | fuel + 1, owner, .mark "." :: .word id :: rest =>
    if Name.isKeyword id then none else readTrailers fuel (.attribute owner id) rest
  | fuel + 1, owner, .mark "[" :: rest =>
    match readItems fuel "]" rest with
    | some ([], _, _) => none
    | some ([one], false, rest) => readTrailers fuel (.subscript owner one) rest
    | some (items, _, rest) => readTrailers fuel (.subscript owner (.tuple items)) rest
    | none => none
  | fuel + 1, owner, .mark "(" :: rest =>
    match readItems fuel ")" rest with
    | some (items, _, rest) => readTrailers fuel (.call owner items) rest
    | none => none
  | _ + 1, owner, tokens => some (owner, tokens)

def readAtom : (fuel : Nat) → List SourceToken → Option (Expr × List SourceToken)
  | 0, _ => none
  | _ + 1, .word word :: rest => (ofWord? word).map fun e => (e, rest)
  | _ + 1, .literal (.text s) :: rest =>
    let (text, rest) := joinTexts s rest
    some (.constant (.text text), rest)
  | _ + 1, .literal v :: rest => some (.constant v, rest)
  | _ + 1, .mark "..." :: rest => some (.ellipsis, rest)
  | fuel + 1, .mark "(" :: rest =>
    match readItems fuel ")" rest with
    | some ([one], false, rest) => some (one, rest)
    | some (items, _, rest) => some (.tuple items, rest)
    | none => none
  | fuel + 1, .mark "[" :: rest =>
    match readItems fuel "]" rest with
    | some (items, _, rest) => some (.list items, rest)
    | none => none
  | fuel + 1, .mark "\x7b" :: rest =>
    (readEntries fuel rest).map fun (keyed, rest) => (.display keyed, rest)
  | _ + 1, _ => none

/-- Items up to a closing mark, and whether a comma ends them. -/
def readItems : (fuel : Nat) → String → List SourceToken →
    Option (List Expr × Bool × List SourceToken)
  | 0, _, _ => none
  | fuel + 1, closing, tokens =>
    match tokens with
    | .mark m :: rest =>
      if m = closing then some ([], true, rest) else readItem fuel closing (.mark m :: rest)
    | _ => readItem fuel closing tokens

def readItem : (fuel : Nat) → String → List SourceToken →
    Option (List Expr × Bool × List SourceToken)
  | 0, _, _ => none
  | fuel + 1, closing, tokens =>
    match readExpr fuel tokens with
    | some (e, .mark "," :: rest) =>
      match readItems fuel closing rest with
      | some (items, comma, rest) => some (e :: items, comma, rest)
      | none => none
    | some (e, .mark m :: rest) => if m = closing then some ([e], false, rest) else none
    | _ => none

/-- The entries of a display up to its closing brace, and whether they have keys. -/
def readEntries : (fuel : Nat) → List SourceToken → Option (Bool × List SourceToken)
  | 0, _ => none
  | _ + 1, .mark "\x7d" :: rest => some (true, rest)
  | fuel + 1, tokens =>
    match readExpr fuel tokens with
    | some (_, .mark "\x7d" :: rest) => some (false, rest)
    | some (_, .mark "," :: .mark "\x7d" :: rest) => some (false, rest)
    | some (_, .mark "," :: rest) => readEntries fuel rest
    | some (_, .mark ":" :: rest) => readKeyed fuel rest
    | _ => none

/-- A value of a display with keys, and the entries after it. -/
def readKeyed : (fuel : Nat) → List SourceToken → Option (Bool × List SourceToken)
  | 0, _ => none
  | fuel + 1, tokens =>
    match readExpr fuel tokens with
    | some (_, .mark "\x7d" :: rest) => some (true, rest)
    | some (_, .mark "," :: .mark "\x7d" :: rest) => some (true, rest)
    | some (_, .mark "," :: rest) =>
      match readEntries fuel rest with
      | some (true, rest) => some (true, rest)
      | _ => none
    | _ => none

end

/-- The fuel that covers every expression of so many tokens. -/
def readFuel (tokens : List SourceToken) : Nat :=
  10 * (tokens.length + 1)

/-- Items up to the end: several of them are a tuple. -/
def readAll? (tokens : List SourceToken) : Option Expr :=
  match readItems (readFuel tokens) "" (tokens ++ [.mark ""]) with
  | some ([one], false, []) => some one
  | some ([], _, _) => none
  | some (items, _, []) => some (.tuple items)
  | _ => none

def read? (s : String) : Option Expr :=
  (SourceToken.ofText? s).bind readAll?

end TypeExport.Expr

import TypeExport.Source.Module
import TypeExport.Source.Reader

/-!
# Reading modules

A module may be written as text: imports, constants, expressions and classes whose bodies hold texts,
constants and annotations.  A line ends at a line break outside of brackets, and the body of a class
is what is indented below its head.

This is the part of Python that the modules of lookup enums and simple modules beside them are
written in.  There are no functions, no methods, no conditions, loops, `try` or `with`, no `import`
with `as`, no relative imports, no arguments of classes other than bases, no nested classes, and no
marker but the one for export; a text with any of these counts as one that cannot be read.  Modules
that are given by their statements are not bound to it.
-/

namespace TypeExport

/-- A line of a module: how far it is indented, and its tokens. -/
structure SourceLine where
  indent : Nat
  tokens : List SourceToken
  deriving Repr

namespace SourceLine

/-- How a mark changes the number of open brackets. -/
def depthAfter (depth : Nat) (m : String) : Nat :=
  if m = "(" || m = "[" || m = "\x7b" then depth + 1
  else if m = ")" || m = "]" || m = "\x7d" then depth - 1
  else depth

/-- The tokens up to the end of a line, and what follows it. -/
def readTokens : (fuel depth : Nat) → List Char → Option (List SourceToken × List Char)
  | 0, _, _ => none
  | _ + 1, depth, [] => if depth = 0 then some ([], []) else none
  | fuel + 1, depth, c :: rest =>
    if c = '\n' then if depth = 0 then some ([], rest) else readTokens fuel depth rest
    else if c = '#' then readTokens fuel depth (rest.dropWhile (· != '\n'))
    else if SourceToken.isGap c then readTokens fuel depth rest
    else if SourceToken.startsWord c then
      (readTokens fuel depth (rest.dropWhile SourceToken.continuesWord)).map fun (ts, r) =>
        (.word (String.ofList (c :: rest.takeWhile SourceToken.continuesWord)) :: ts, r)
    else if c.isDigit then
      let n := SourceToken.numeralLength c rest
      (SourceToken.numeral? (c :: rest.take n)).bind fun v =>
        (readTokens fuel depth (rest.drop n)).map fun (ts, r) => (.literal v :: ts, r)
    else if c = '\'' || c = '"' then
      let literal := if [c, c].isPrefixOf rest then TextLiteral.longRest? c (rest.drop 2)
        else TextLiteral.rest? c rest
      literal.bind fun (t, r) =>
        (readTokens fuel depth r).map fun (ts, r) => (.literal (.text t) :: ts, r)
    else if c = '@' then (readTokens fuel depth rest).map fun (ts, r) => (.mark "@" :: ts, r)
    else
      (SourceToken.mark? (c :: rest)).bind fun m =>
        (readTokens fuel (depthAfter depth m) ((c :: rest).drop m.length)).map fun (ts, r) =>
          (.mark m :: ts, r)

/-- The lines that hold tokens. -/
def all : (fuel : Nat) → List Char → Option (List SourceLine)
  | _, [] => some []
  | 0, _ :: _ => none
  | fuel + 1, s =>
    let indent := (s.takeWhile (· = ' ')).length
    match readTokens (s.length + 2) 0 s with
    | none => none
    | some (ts, rest) =>
      (all fuel rest).map fun lines => if ts.isEmpty then lines else ⟨indent, ts⟩ :: lines

end SourceLine

namespace SourceModule

/-- A name that is no word of the language. -/
def isName (word : String) : Bool :=
  !Name.isKeyword word

/-- Words with points between them. -/
def dotted : List SourceToken → List String × List SourceToken
  | .word w :: .mark "." :: rest =>
    let (more, rest) := dotted rest
    (w :: more, rest)
  | .word w :: rest => ([w], rest)
  | rest => ([], rest)

/-- Names to import, each perhaps under another name: the first one and the others. -/
def importedNames : List SourceToken → Option ((String × String) × List (String × String))
  | [.word name] => if isName name then some ((name, name), []) else none
  | [.word name, .word "as", .word other] =>
    if isName name && isName other then some ((name, other), []) else none
  | .word name :: .mark "," :: rest =>
    if isName name then (importedNames rest).map fun (next, more) => ((name, name), next :: more)
    else none
  | .word name :: .word "as" :: .word other :: .mark "," :: rest =>
    if isName name && isName other then
      (importedNames rest).map fun (next, more) => ((name, other), next :: more)
    else none
  | _ => none

def markerWord : String := "export_to_ts"

/-- The marker that a line in front of a class gives. -/
def marker? : List SourceToken → Option (Option String)
  | [.mark "@", .word w] => if w = markerWord then some none else none
  | [.mark "@", .word w, .mark "(", .mark ")"] => if w = markerWord then some none else none
  | [.mark "@", .word w, .mark "(", .literal (.text name), .mark ")"] =>
    if w = markerWord then some (some name) else none
  | _ => none

/-- The name and the bases in the head of a class. -/
def head? : List SourceToken → Option (String × List Expr)
  | [.word "class", .word name, .mark ":"] => if isName name then some (name, []) else none
  | .word "class" :: .word name :: .mark "(" :: rest =>
    match rest.reverse with
    | .mark ":" :: .mark ")" :: bases =>
      if !isName name then none
      else if bases.isEmpty then some (name, [])
      else
        (Expr.readItems (Expr.readFuel rest) "" (bases.reverse ++ [.mark ""])).map
          fun (items, _, _) => (name, items)
    | _ => none
  | _ => none

inductive BodyLine where
  | nothing
  | member (name : String) (value : Value)
  | field (f : FieldDefinition)

/-- A constant that a member can have. -/
def constant? : Expr → Option Value
  | .constant v => some v
  | .negative (.constant (.int n)) => some (.int (-n))
  | _ => none

def bodyLine? : List SourceToken → Option BodyLine
  | [.word "pass"] => some .nothing
  | .literal (.text _) :: rest => if rest.isEmpty then some .nothing else none
  | .word name :: .mark "=" :: rest =>
    if !isName name then none
    else
      (Expr.readAll? rest).map fun e =>
        match constant? e with
        | some v => .member name v
        | none => .field { name, standard := some e }
  | .word name :: .mark ":" :: rest =>
    if !isName name then none
    else
      let isEquals := SourceToken.isMark "="
      let annotation := rest.takeWhile (!isEquals ·)
      match Expr.readAll? annotation, rest.dropWhile (!isEquals ·) with
      | some e, [] => some (.field { name, typeHint := some e })
      | some e, _ :: value =>
        (Expr.readAll? value).map fun v =>
          .field { name, typeHint := some e, standard := some v }
      | none, _ => none
  | _ => none

def membersOf (lines : List BodyLine) : List (String × Value) :=
  lines.filterMap fun
    | .member name v => some (name, v)
    | _ => none

def fieldsOf (lines : List BodyLine) : List FieldDefinition :=
  lines.filterMap fun
    | .field f => some f
    | _ => none

def class? (marker : Option (Option String)) (name : String) (bases : List Expr)
    (lines : List SourceLine) : Option ClassDefinition :=
  match lines with
  | [] => none
  | first :: _ =>
    if lines.all fun l => l.indent == first.indent then
      (lines.mapM fun l => bodyLine? l.tokens).map fun body =>
        .mk name .plain bases [] marker (fieldsOf body) (membersOf body) [] [] [] none false
    else none

def simple? : List SourceToken → Option (List Statement)
  | [.word "pass"] => some []
  | .word "from" :: rest =>
    match dotted rest with
    | ([], _) => none
    | (path, .word "import" :: names) =>
      (importedNames names).map fun (first, others) =>
        [.importNames (".".intercalate path) first others]
    | _ => none
  | .word "import" :: rest =>
    match dotted rest with
    | ([], _) => none
    | (path, []) => some [.importModule (".".intercalate path)]
    | _ => none
  | .word name :: .mark "=" :: rest =>
    if isName name then (Expr.readAll? rest).map fun e => [.bind name e] else none
  | tokens => (Expr.readAll? tokens).map fun e => [.compute e]

/-- The statements of lines; `marker` belongs to the class that follows. -/
def statements : (fuel : Nat) → (marker : Option (Option String)) → List SourceLine →
    Option (List Statement)
  | _, none, [] => some []
  | _, some _, [] => none
  | 0, _, _ :: _ => none
  | fuel + 1, marker, line :: rest =>
    if line.indent != 0 then none
    else
      match marker? line.tokens, head? line.tokens with
      | some m, _ => if marker.isSome then none else statements fuel (some m) rest
      | none, some (name, bases) =>
        let isInside (l : SourceLine) := l.indent != 0
        (class? marker name bases (rest.takeWhile isInside)).bind fun d =>
          (statements fuel none (rest.dropWhile isInside)).map (.define d :: ·)
      | none, none =>
        if marker.isSome then none
        else
          (simple? line.tokens).bind fun first => (statements fuel none rest).map (first ++ ·)

def ofText? (s : String) : Option SourceModule :=
  let lines := SourceLine.all (s.length + 1) s.toList
  lines.bind fun lines =>
    (statements (lines.length + 1) none lines).map fun body =>
      { prelude := [], deferred := false, typeVariables := [], body }

end SourceModule

end TypeExport

import TypeExport.Json.Reader

/-!
# Text literals

A text literal stands between two equal quotes on one line.  A backslash starts an escape; one that
is not known stands for itself.
-/

namespace TypeExport.TextLiteral

/-- The character with a code of hexadecimal digits; a code without one gives the replacement
character. -/
def ofHex? (digits : List Char) : Option Char :=
  (digits.mapM Json.hexValue?).bind fun ds =>
    let n := ds.foldl (fun v d => 16 * v + d) 0
    if n < 0x110000 then
      some (if n.isValidChar then Char.ofNat n else '\uFFFD')
    else none

/-- The number of hexadecimal digits after an escape letter. -/
def hexLength? : Char → Option Nat
  | 'x' => some 2
  | 'u' => some 4
  | 'U' => some 8
  | _ => none

def simpleEscape? : Char → Option Char
  | 'n' => some '\n'
  | 'r' => some '\r'
  | 't' => some '\t'
  | 'a' => some '\x07'
  | 'b' => some '\x08'
  | 'f' => some '\x0c'
  | 'v' => some '\x0b'
  | '\\' => some '\\'
  | '\'' => some '\''
  | '"' => some '"'
  | _ => none

def isOctal (c : Char) : Bool :=
  '0' ≤ c && c ≤ '7'

def octalValue (digits : List Char) : Nat :=
  digits.foldl (fun v c => 8 * v + (c.toNat - 48)) 0

/-- Whether the name of a character can have the character. -/
def isInName (c : Char) : Bool :=
  c.isAlphanum || c == ' ' || c == '-'

/-- What follows the name of a character in braces. -/
def afterName? : List Char → Option (List Char)
  | '\x7b' :: rest =>
    match rest.takeWhile isInName, rest.dropWhile isInName with
    | _ :: _, '\x7d' :: after => some after
    | _, _ => none
  | _ => none

/-- The text up to the closing quote, which has `closing` characters, and what follows it.  The names
of characters are not known here: each stands for the replacement character. -/
def body (isClosing : List Char → Bool) (closing : Nat) (multiline : Bool) :
    (fuel : Nat) → List Char → Option (List Char × List Char)
  | 0, _ => none
  | fuel + 1, s =>
    if isClosing s then some ([], s.drop closing)
    else
      match s with
      | [] => none
      | '\n' :: rest =>
        if multiline then (body isClosing closing multiline fuel rest).map fun (t, r) => ('\n' :: t, r)
        else none
      | '\\' :: '\n' :: rest => body isClosing closing multiline fuel rest
      | '\\' :: c :: rest =>
        match simpleEscape? c with
        | some e => (body isClosing closing multiline fuel rest).map fun (t, r) => (e :: t, r)
        | none =>
          match hexLength? c with
          | some n =>
            if rest.length < n then none
            else do
              let e ← ofHex? (rest.take n)
              let (t, r) ← body isClosing closing multiline fuel (rest.drop n)
              return (e :: t, r)
          | none =>
            if isOctal c then
              let digits := (c :: rest).takeWhile isOctal |>.take 3
              (body isClosing closing multiline fuel ((c :: rest).drop digits.length)).map fun (t, r) =>
                (Char.ofNat (octalValue digits) :: t, r)
            else if c = 'N' then do
              let rest ← afterName? rest
              let (t, r) ← body isClosing closing multiline fuel rest
              return ('\uFFFD' :: t, r)
            else (body isClosing closing multiline fuel (c :: rest)).map fun (t, r) => ('\\' :: t, r)
      | '\\' :: [] => none
      | c :: rest => (body isClosing closing multiline fuel rest).map fun (t, r) => (c :: t, r)

/-- The rest of a literal after its opening quote. -/
def rest? (quote : Char) (s : List Char) : Option (String × List Char) :=
  (body (fun r => r.head? == some quote) 1 false (s.length + 1) s).map fun (t, r) =>
    (String.ofList t, r)

/-- The rest of a literal of several lines after its three opening quotes. -/
def longRest? (quote : Char) (s : List Char) : Option (String × List Char) :=
  (body (fun r => [quote, quote, quote].isPrefixOf r) 3 true (s.length + 1) s).map fun (t, r) =>
    (String.ofList t, r)

end TypeExport.TextLiteral

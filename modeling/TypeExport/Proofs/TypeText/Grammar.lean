import Mathlib.Tactic.SplitIfs
import TypeExport.Proofs.TypeText.Spelling

/-!
# The grammar of types

The types of TypeScript by precedence.  Array brackets, indices and type arguments bind tightest; then
come the prefix operators, intersections and unions; functions and conditional types reach to the
end.  Parentheses leave no trace.  What stands inside braces, in tuples and in the heads of functions is
kept as it stands.  Only members of names that are called by the word of conditional types are left out.
At each level the tokens can be cut in one way only, so they are read as at most one type.
-/

namespace TypeExport.TypeText

/-- What a reference names: a type or, behind `typeof`, a value, perhaps of an imported module. -/
structure Path where
  ofValue : Bool
  source : Option (List Token)
  names : List String
  deriving Repr

/-- A type of one name. -/
def Path.ofName (name : String) : Path :=
  ⟨false, none, [name]⟩

inductive TsType where
  | reference (path : Path) (arguments : List TsType)
  | literal (tokens : List Token)
  | assertion (name : String)
  | object (inner : List Token)
  | tuple (inner : List Token)
  | array (element : TsType)
  | indexed (object index : TsType)
  | operator (name : String) (operand : TsType)
  | intersection (operands : List TsType)
  | union (operands : List TsType)
  | function (head : List Token) (result : TsType)
  | predicate (subject : List Token) (type : TsType)
  | conditional (check bound yes no : TsType)
  | constrained (inferred bound : TsType)
  deriving Repr

/-!
## Operands
-/

def Token.isMark (c : Char) : Token → Bool
  | .mark d => d = c
  | _ => false

/-- Words that stand before the type they change. -/
def operators : List String := ["keyof", "unique", "readonly", "infer"]

/-- Words that name no type. -/
def reservedWords : List String :=
  operators ++
    ["break", "case", "catch", "class", "const", "continue", "debugger", "default", "delete", "do",
     "else", "enum", "export", "extends", "finally", "for", "function", "if", "import", "in",
     "instanceof", "new", "return", "super", "switch", "throw", "try", "typeof", "var", "while", "with"]

def isNumeral (word : String) : Bool :=
  word.toList.head?.any Char.isDigit

def isName (word : String) : Bool :=
  !isNumeral word && !reservedWords.contains word

/-- Names with points between them; members may be named by any word. -/
def members? : List Token → Option (List String)
  | [.word name] => if isNumeral name then none else some [name]
  | .word name :: .mark '.' :: rest =>
    if isNumeral name then none else (members? rest).map (name :: ·)
  | _ => none

/-- What an import may be given: a text, perhaps with attributes behind a comma. -/
def isSource : List Token → Bool
  | [.quoted _] => true
  | .quoted _ :: .mark ',' :: _ => true
  | _ => false

def path? : List Token → Option Path
  | [.word "import", .group .round _ inner] =>
    if isSource inner then some ⟨false, some inner, []⟩ else none
  | .word "import" :: .group .round _ inner :: .mark '.' :: rest =>
    if isSource inner then (members? rest).map (⟨false, some inner, ·⟩) else none
  | .word name :: rest =>
    if isName name then (members? (.word name :: rest)).map (⟨false, none, ·⟩) else none
  | _ => none

def target? : List Token → Option Path
  | .word "typeof" :: rest => (path? rest).map ({ · with ofValue := true })
  | ts => path? ts

/-- What may stand behind the last word of a number: the sign and the digits of its exponent. -/
def isExponent (word : String) : List Token → Bool
  | [] => true
  | [.mark sign, .word digits] =>
    (sign = '+' || sign = '-') && isNumeral digits && word.toList.getLast?.any (·.toLower = 'e')
  | _ => false

def isNumber : List Token → Bool
  | [.word whole, .mark '.'] => isNumeral whole
  | .word whole :: .mark '.' :: .word fraction :: rest =>
    isNumeral whole && isNumeral fraction && isExponent fraction rest
  | .mark '.' :: .word fraction :: rest => isNumeral fraction && isExponent fraction rest
  | .word whole :: rest => isNumeral whole && isExponent whole rest
  | _ => false

def isLiteral : List Token → Bool
  | [.quoted _] => true
  | .mark '-' :: rest => isNumber rest
  | ts => isNumber ts

def leaf? (ts : List Token) : Option TsType :=
  if isLiteral ts then some (.literal ts)
  else
    match ts with
    | [.word "asserts", .word name] => if isName name then some (.assertion name) else none
    | _ => (target? ts).map (.reference · [])

/-- An operand without operators, by what stands last in it. -/
inductive Operand where
  | leaf (τ : TsType)
  | application (path : Path) (arguments : List (List Token))
  | parenthesised (inner : List Token)
  | array (element : List Token)
  | indexed (object index : List Token)

def operand? (ts : List Token) : Option Operand :=
  match ts.reverse with
  | [.group .round _ inner] => some (.parenthesised inner)
  | [.group .curly _ inner] => some (.leaf (.object inner))
  | [.group .square _ inner] => some (.leaf (.tuple inner))
  | .group .square false inner :: rest =>
    if inner.isEmpty then some (.array rest.reverse) else some (.indexed rest.reverse inner)
  | .group .square true _ :: _ => none
  | .group .angle false inner :: rest =>
    (target? rest.reverse).map fun path => .application path (inner.splitOnP (Token.isMark ','))
  | _ => (leaf? ts).map .leaf

/-!
## Operators and what reaches to the end
-/

/-- What stands between marks; one more mark may stand before the first operand. -/
def operands (c : Char) : List Token → List (List Token)
  | [] => [[]]
  | t :: rest =>
    if t.isMark c then rest.splitOnP (Token.isMark c) else (t :: rest).splitOnP (Token.isMark c)

theorem operands_cons (c : Char) (t : Token) (ts : List Token) :
    operands c (t :: ts) =
      if t.isMark c then ts.splitOnP (Token.isMark c) else (t :: ts).splitOnP (Token.isMark c) :=
  rfl

/-- The number of open question marks behind a token. -/
def depthBehind (depth : Nat) (t : Token) : Nat :=
  if t.isMark '?' then depth + 1 else if t.isMark ':' then depth - 1 else depth

/-- The two branches of a conditional type, cut at the colon that belongs to its question mark. -/
def branches? (depth : Nat) : List Token → Option (List Token × List Token)
  | [] => none
  | t :: rest =>
    if t.isMark ':' && depth == 0 then some ([], rest)
    else (branches? (depthBehind depth t) rest).map fun (yes, no) => (t :: yes, no)

/-- An inferred type stands last, and may be constrained. -/
def endsInferred (ts : List Token) : Bool :=
  match ts.reverse with
  | .word _ :: .word "infer" :: _ => true
  | _ => false

inductive Form where
  | operands
  | function (head result : List Token)
  | conditional (check bound yes no : List Token)
  | constrained (inferred bound : List Token)

/-- Arrows and the word of conditional types stand in no operand. -/
def Token.isOutside : Token → Bool
  | .arrow => true
  | .word name => name = "extends"
  | _ => false

def form? (ts : List Token) : Option Form :=
  match ts.dropWhile (!·.isOutside) with
  | [] => some .operands
  | .arrow :: result => some (.function (ts.takeWhile (!·.isOutside)) result)
  | _ :: rest =>
    match rest.dropWhile (!·.isMark '?') with
    | [] =>
      if endsInferred (ts.takeWhile (!·.isOutside)) then
        some (.constrained (ts.takeWhile (!·.isOutside)) rest)
      else none
    | _ :: more => (branches? 0 more).map fun (yes, no) =>
        .conditional (ts.takeWhile (!·.isOutside)) (rest.takeWhile (!·.isMark '?')) yes no

def isParameters : List Token → Bool
  | [.group .round _ _] => true
  | [.group .angle _ _, .group .round _ _] => true
  | _ => false

/-- What stands before the arrow of a function or of a constructor. -/
def isSignature : List Token → Bool
  | .word "new" :: rest => isParameters rest
  | .word "abstract" :: .word "new" :: rest => isParameters rest
  | ts => isParameters ts

def Token.isPredicateWord : Token → Bool
  | .word text => text = "is"
  | _ => false

/-- What the result of a function may be said to tell the type of. -/
def isSubject : List Token → Bool
  | [.word _] => true
  | [.word first, .word _] => first = "asserts"
  | _ => false

/-- The subject of a predicate and the type behind it. -/
def predicate? (ts : List Token) : Option (List Token × List Token) :=
  match ts.dropWhile (!·.isPredicateWord) with
  | [] => none
  | _ :: rest =>
    if isSubject (ts.takeWhile (!·.isPredicateWord)) then
      some (ts.takeWhile (!·.isPredicateWord), rest)
    else none

/-!
## Reading
-/

/-- How tightly a text binds, from the tightest on. -/
inductive Level where
  | suffixed
  | operand
  | intersection
  | union
  | full
  | result
  deriving DecidableEq, Repr

/-- A single operand stands for itself. -/
def joined (join : List TsType → TsType) : List TsType → TsType
  | [τ] => τ
  | τs => join τs

/-- The type that tokens are read as. -/
inductive Reads : Level → List Token → TsType → Prop
  | leaf {ts : List Token} {τ : TsType} (h : operand? ts = some (.leaf τ)) : Reads .suffixed ts τ
  | application {ts : List Token} {path : Path} {pieces : List (List Token)} {τs : List TsType}
      (h : operand? ts = some (.application path pieces)) (hlength : pieces.length = τs.length)
      (harguments : ∀ p ∈ pieces.zip τs, Reads .full p.1 p.2) : Reads .suffixed ts (.reference path τs)
  | parenthesised {ts inner : List Token} {τ : TsType}
      (h : operand? ts = some (.parenthesised inner)) (hinner : Reads .full inner τ) :
      Reads .suffixed ts τ
  | array {ts element : List Token} {τ : TsType} (h : operand? ts = some (.array element))
      (helement : Reads .suffixed element τ) : Reads .suffixed ts (.array τ)
  | indexed {ts object index : List Token} {τ ι : TsType}
      (h : operand? ts = some (.indexed object index)) (hobject : Reads .suffixed object τ)
      (hindex : Reads .full index ι) : Reads .suffixed ts (.indexed τ ι)
  | operator {name : String} {ts : List Token} {τ : TsType} (hname : name ∈ operators)
      (h : Reads .operand ts τ) : Reads .operand (.word name :: ts) (.operator name τ)
  | noOperator {ts : List Token} {τ : TsType} (hname : ∀ name ∈ operators, ts.head? ≠ some (.word name))
      (h : Reads .suffixed ts τ) : Reads .operand ts τ
  | intersection {ts : List Token} {τs : List TsType}
      (hlength : (operands '&' ts).length = τs.length)
      (h : ∀ p ∈ (operands '&' ts).zip τs, Reads .operand p.1 p.2) :
      Reads .intersection ts (joined .intersection τs)
  | union {ts : List Token} {τs : List TsType} (hlength : (operands '|' ts).length = τs.length)
      (h : ∀ p ∈ (operands '|' ts).zip τs, Reads .intersection p.1 p.2) :
      Reads .union ts (joined .union τs)
  | plain {ts : List Token} {τ : TsType} (h : form? ts = some .operands)
      (hunion : Reads .union ts τ) : Reads .full ts τ
  | function {ts head result : List Token} {τ : TsType} (h : form? ts = some (.function head result))
      (hhead : isSignature head = true) (hresult : Reads .result result τ) :
      Reads .full ts (.function head τ)
  | conditional {ts check bound yes no : List Token} {γ β υ ν : TsType}
      (h : form? ts = some (.conditional check bound yes no)) (hcheck : Reads .union check γ)
      (hbound : Reads .full bound β) (hyes : Reads .full yes υ) (hno : Reads .full no ν) :
      Reads .full ts (.conditional γ β υ ν)
  | constrained {ts inferred bound : List Token} {ι β : TsType}
      (h : form? ts = some (.constrained inferred bound)) (hinferred : Reads .union inferred ι)
      (hbound : Reads .full bound β) : Reads .full ts (.constrained ι β)
  | predicate {ts subject rest : List Token} {τ : TsType} (h : predicate? ts = some (subject, rest))
      (htype : Reads .full rest τ) : Reads .result ts (.predicate subject τ)
  | noPredicate {ts : List Token} {τ : TsType} (h : predicate? ts = none) (htype : Reads .full ts τ) :
      Reads .result ts τ

section Unique

variable {l : Level} {ts : List Token} {τ σ : TsType}

/-- How tokens without operators are read is fixed by what they begin and end with. -/
theorem Reads.suffixed_inv (h : Reads .suffixed ts τ) :
    match operand? ts with
    | some (.leaf σ) => τ = σ
    | some (.application path pieces) => ∃ τs, pieces.length = τs.length ∧
        (∀ p ∈ pieces.zip τs, Reads .full p.1 p.2) ∧ τ = .reference path τs
    | some (.parenthesised inner) => Reads .full inner τ
    | some (.array element) => ∃ ε, Reads .suffixed element ε ∧ τ = .array ε
    | some (.indexed object index) =>
      ∃ ο ι, Reads .suffixed object ο ∧ Reads .full index ι ∧ τ = .indexed ο ι
    | none => False := by
  cases h with
  | leaf h => rw [h]
  | application h hlength harguments =>
    rw [h]
    exact ⟨_, hlength, harguments, rfl⟩
  | parenthesised h hinner =>
    rw [h]
    exact hinner
  | array h helement =>
    rw [h]
    exact ⟨_, helement, rfl⟩
  | indexed h hobject hindex =>
    rw [h]
    exact ⟨_, _, hobject, hindex, rfl⟩

theorem Reads.operand_inv (h : Reads .operand ts τ) :
    (∃ name us σ, name ∈ operators ∧ ts = .word name :: us ∧ Reads .operand us σ ∧
      τ = .operator name σ) ∨
    (∀ name ∈ operators, ts.head? ≠ some (.word name)) ∧ Reads .suffixed ts τ := by
  cases h with
  | operator hname h => exact .inl ⟨_, _, _, hname, rfl, h, rfl⟩
  | noOperator hname h => exact .inr ⟨hname, h⟩

theorem Reads.intersection_inv (h : Reads .intersection ts τ) :
    ∃ τs, (operands '&' ts).length = τs.length ∧
      (∀ p ∈ (operands '&' ts).zip τs, Reads .operand p.1 p.2) ∧ τ = joined .intersection τs := by
  cases h with
  | intersection hlength h => exact ⟨_, hlength, h, rfl⟩

theorem Reads.union_inv (h : Reads .union ts τ) :
    ∃ τs, (operands '|' ts).length = τs.length ∧
      (∀ p ∈ (operands '|' ts).zip τs, Reads .intersection p.1 p.2) ∧ τ = joined .union τs := by
  cases h with
  | union hlength h => exact ⟨_, hlength, h, rfl⟩

/-- How tokens are read at the outermost level is fixed by their form. -/
theorem Reads.full_inv (h : Reads .full ts τ) :
    match form? ts with
    | some .operands => Reads .union ts τ
    | some (.function head result) => isSignature head = true ∧
        ∃ ρ, Reads .result result ρ ∧ τ = .function head ρ
    | some (.conditional check bound yes no) => ∃ γ β υ ν, Reads .union check γ ∧
        Reads .full bound β ∧ Reads .full yes υ ∧ Reads .full no ν ∧ τ = .conditional γ β υ ν
    | some (.constrained inferred bound) => ∃ ι β, Reads .union inferred ι ∧ Reads .full bound β ∧
        τ = .constrained ι β
    | none => False := by
  cases h with
  | plain h hunion =>
    rw [h]
    exact hunion
  | function h hhead hresult =>
    rw [h]
    exact ⟨hhead, _, hresult, rfl⟩
  | conditional h hcheck hbound hyes hno =>
    rw [h]
    exact ⟨_, _, _, _, hcheck, hbound, hyes, hno, rfl⟩
  | constrained h hinferred hbound =>
    rw [h]
    exact ⟨_, _, hinferred, hbound, rfl⟩

theorem Reads.result_inv (h : Reads .result ts τ) :
    match predicate? ts with
    | some (subject, rest) => ∃ σ, Reads .full rest σ ∧ τ = .predicate subject σ
    | none => Reads .full ts τ := by
  cases h with
  | predicate h htype =>
    rw [h]
    exact ⟨_, htype, rfl⟩
  | noPredicate h htype =>
    rw [h]
    exact htype

/-- Pieces that are each read in one way are read in one way together. -/
theorem eq_of_zip {pieces : List (List Token)} {τs σs : List TsType}
    (hτ : pieces.length = τs.length) (hσ : pieces.length = σs.length)
    (h : ∀ p ∈ pieces.zip τs, ∀ σ, Reads l p.1 σ → p.2 = σ)
    (h' : ∀ p ∈ pieces.zip σs, Reads l p.1 p.2) : τs = σs := by
  induction pieces generalizing τs σs with
  | nil =>
    rw [List.length_nil] at hτ hσ
    rw [List.length_eq_zero_iff.1 hτ.symm, List.length_eq_zero_iff.1 hσ.symm]
  | cons piece pieces ih =>
    cases τs with
    | nil => cases hτ
    | cons τ τs =>
      cases σs with
      | nil => cases hσ
      | cons σ σs =>
        rw [List.zip_cons_cons, List.forall_mem_cons] at h h'
        obtain rfl : τ = σ := h.1 σ h'.1
        rw [ih (Nat.succ.inj hτ) (Nat.succ.inj hσ) h.2 h'.2]

/-- Tokens are read as at most one type. -/
theorem Reads.unique (h : Reads l ts τ) (h' : Reads l ts σ) : τ = σ := by
  induction h generalizing σ with
  | leaf h =>
    have hinv := h'.suffixed_inv
    rw [h] at hinv
    exact hinv.symm
  | application h hlength _ ih =>
    have hinv := h'.suffixed_inv
    rw [h] at hinv
    obtain ⟨σs, hlength', harguments, rfl⟩ := hinv
    rw [eq_of_zip hlength hlength' (fun p hp σ => ih p hp) harguments]
  | parenthesised h _ ih =>
    have hinv := h'.suffixed_inv
    rw [h] at hinv
    exact ih hinv
  | array h _ ih =>
    have hinv := h'.suffixed_inv
    rw [h] at hinv
    obtain ⟨ε, helement, rfl⟩ := hinv
    rw [ih helement]
  | indexed h _ _ ih ih' =>
    have hinv := h'.suffixed_inv
    rw [h] at hinv
    obtain ⟨ο, ι, hobject, hindex, rfl⟩ := hinv
    rw [ih hobject, ih' hindex]
  | operator hname _ ih =>
    obtain ⟨name, us, υ, -, heq, hus, rfl⟩ | ⟨hnone, -⟩ := h'.operand_inv
    · cases heq
      rw [ih hus]
    · exact absurd rfl (hnone _ hname)
  | noOperator hname _ ih =>
    obtain ⟨name, us, υ, hmem, rfl, -, -⟩ | ⟨-, hsuffixed⟩ := h'.operand_inv
    · exact absurd rfl (hname _ hmem)
    · exact ih hsuffixed
  | intersection hlength _ ih =>
    obtain ⟨σs, hlength', hσs, rfl⟩ := h'.intersection_inv
    rw [eq_of_zip hlength hlength' (fun p hp σ => ih p hp) hσs]
  | union hlength _ ih =>
    obtain ⟨σs, hlength', hσs, rfl⟩ := h'.union_inv
    rw [eq_of_zip hlength hlength' (fun p hp σ => ih p hp) hσs]
  | plain h _ ih =>
    have hinv := h'.full_inv
    rw [h] at hinv
    exact ih hinv
  | function h _ _ ih =>
    have hinv := h'.full_inv
    rw [h] at hinv
    obtain ⟨-, ρ, hresult, rfl⟩ := hinv
    rw [ih hresult]
  | conditional h _ _ _ _ ihcheck ihbound ihyes ihno =>
    have hinv := h'.full_inv
    rw [h] at hinv
    obtain ⟨γ, β, υ, ν, hcheck, hbound, hyes, hno, rfl⟩ := hinv
    rw [ihcheck hcheck, ihbound hbound, ihyes hyes, ihno hno]
  | constrained h _ _ ihinferred ihbound =>
    have hinv := h'.full_inv
    rw [h] at hinv
    obtain ⟨ι, β, hinferred, hbound, rfl⟩ := hinv
    rw [ihinferred hinferred, ihbound hbound]
  | predicate h _ ih =>
    have hinv := h'.result_inv
    rw [h] at hinv
    obtain ⟨σ, htype, rfl⟩ := hinv
    rw [ih htype]
  | noPredicate h _ ih =>
    have hinv := h'.result_inv
    rw [h] at hinv
    exact ih hinv

end Unique

end TypeExport.TypeText

import TypeExport.Sql.Database
import TypeExport.Sql.Token
import TypeExport.Text.Split

/-!
# Ordered selections

A selection names columns of one table and the columns that order its rows.  Selections are read
from statements of the form `SELECT a, b FROM t ORDER BY a`, with the reserved words of a database,
and run on a database in a file.  There a quoted name that is no column stands for its own text.
-/

namespace TypeExport.Sql

/-- What a database fails with, or the library that leads to it.  A `foreign` failure is none of
theirs and is not told apart from any other one. -/
structure Fault where
  kind : String
  message : String
  isForeign : Bool := false
  deriving DecidableEq, Repr

def Fault.badStatement : Fault :=
  { kind := "OperationalError", message := "the statement cannot be run" }

def Fault.unboundParameter : Fault :=
  { kind := "StatementError", message := "a parameter of the statement has no value" }

def Fault.notDatabase : Fault :=
  { kind := "DatabaseError", message := "file is not a database" }

/-- A name of one to three parts, each quoted or not. -/
abbrev PartedName := List (Bool × String)

structure Selection where
  columns : List PartedName
  table : PartedName
  order : List PartedName
  deriving Repr, DecidableEq

/-- The words that name nothing unless they are quoted, whatever the case of their letters.  Those
that a selection is made of are among them; the others are a matter of the database. -/
structure ReservedWords where
  holds : String → Bool
  ofSameName : ∀ a b, sameName a b = true → holds b = true → holds a = true
  ofSelection : ∀ word ∈ ["SELECT", "FROM", "ORDER"], holds word = true

/-- The words that are reserved where a column may stand. -/
def keywords : List String :=
  ["ADD", "ALL", "ALTER", "AND", "AS", "AUTOINCREMENT", "BETWEEN", "CASE", "CAST", "CHECK",
   "COLLATE", "COMMIT", "CONSTRAINT", "CREATE", "CURRENT_DATE", "CURRENT_TIME",
   "CURRENT_TIMESTAMP", "DEFAULT", "DEFERRABLE", "DELETE", "DISTINCT", "DROP", "ELSE", "ESCAPE",
   "EXCEPT", "EXISTS", "FOREIGN", "FROM", "GROUP", "HAVING", "IN", "INDEX", "INSERT", "INTERSECT",
   "INTO", "IS", "ISNULL", "JOIN", "LIMIT", "NOT", "NOTHING", "NOTNULL", "NULL", "ON", "OR",
   "ORDER", "PRIMARY", "RAISE", "REFERENCES", "RETURNING", "SELECT", "SET", "TABLE", "THEN", "TO",
   "TRANSACTION", "UNION", "UNIQUE", "UPDATE", "USING", "VALUES", "WHEN", "WHERE"]

def ReservedWords.ofFiles : ReservedWords where
  holds word := keywords.any (sameName word)
  ofSameName a b h hb := by
    obtain ⟨word, hword, hsame⟩ := List.any_eq_true.1 hb
    refine List.any_eq_true.2 ⟨word, hword, ?_⟩
    unfold sameName at h hsame ⊢
    rw [eq_of_beq h]
    exact hsame
  ofSelection := by decide

def isWord (word : String) : Token → Bool
  | .word name => sameName name word
  | _ => false

section Names

variable (reserved : ReservedWords)

def namePart? : Token → Option (Bool × String)
  | .word name => if reserved.holds name then none else some (false, name)
  | .quoted name => some (true, name)
  | .mark _ => none

/-- The parts of a name with points between them. -/
def partedName? : List Token → Option PartedName
  | [t] => (namePart? reserved t).map fun p => [p]
  | t :: .mark '.' :: rest => do
    let p ← namePart? reserved t
    let ps ← partedName? rest
    return p :: ps
  | _ => none

def nameList? (ts : List Token) : Option (List PartedName) :=
  (Text.splitOn (Token.mark ',') ts).mapM (partedName? reserved)

end Names

/-- The tokens before the first word `word`, and those after it. -/
def splitAtWord? (word : String) (ts : List Token) : Option (List Token × List Token) :=
  match ts.dropWhile (!isWord word ·) with
  | _ :: after => some (ts.takeWhile (!isWord word ·), after)
  | [] => none

def Selection.ofTokens? (reserved : ReservedWords) : List Token → Option Selection
  | select :: rest => do
    if !isWord "SELECT" select then none
    let (columns, rest) ← splitAtWord? "FROM" rest
    let (table, rest) ← splitAtWord? "ORDER" rest
    let (empty, order) ← splitAtWord? "BY" rest
    if !empty.isEmpty then none
    let columns ← nameList? reserved columns
    let table ← partedName? reserved table
    let order ← nameList? reserved order
    return { columns, table, order }
  | [] => none

/-- Where the values of a selected name come from. -/
inductive CellSource where
  | column (index : Nat)
  | rowNumber
  | constant (text : String)
  deriving Repr, DecidableEq

/-- The table that a name of one or two parts denotes. -/
def Database.resolve? (db : Database) : PartedName → Option Table
  | [(_, name)] => db.table? name
  | [(_, schema), (_, name)] => if sameName schema "main" then db.table? name else none
  | _ => none

namespace Table

def column? (t : Table) (name : String) : Option CellSource :=
  match t.columns.findIdx? fun c => sameName c.name name with
  | some i => some (.column i)
  | none => if ["rowid", "oid", "_rowid_"].any (sameName name) then some .rowNumber else none

/-- The cells that a name of a selection denotes. -/
def source? (t : Table) : PartedName → Option CellSource
  | [(isQuoted, name)] =>
    match t.column? name with
    | some s => some s
    | none => if isQuoted then some (.constant name) else none
  | [(_, table), (_, name)] => if sameName table t.name then t.column? name else none
  | [(_, schema), (_, table), (_, name)] =>
    if sameName schema "main" && sameName table t.name then t.column? name else none
  | _ => none

end Table

def CellSource.cell (n : Nat) (row : List Value) : CellSource → Value
  | .column i => row.getD i .null
  | .rowNumber => .int n
  | .constant text => .text text

/-- The selected rows of a table, in order; rows of equal keys stay as they stand. -/
def Selection.rows (columns order : List CellSource) (rows : List (List Value)) :
    List (List Value) :=
  let keyed := rows.zipIdx.map fun (row, i) =>
    (order.map (CellSource.cell (i + 1) row), columns.map (CellSource.cell (i + 1) row))
  (keyed.mergeSort fun a b => cellsLe a.1 b.1).map (·.2)

def Selection.run (s : Selection) (db : Database) : Except Fault (List (List Value)) :=
  match db.resolve? s.table with
  | none => .error .badStatement
  | some t =>
    match s.columns.mapM t.source?, s.order.mapM t.source? with
    | some columns, some order => .ok (Selection.rows columns order t.rows)
    | _, _ => .error .badStatement

def Database.query (db : Database) (statement : String) : Except Fault (List (List Value)) :=
  let chars := statement.toList
  if hasParameter chars then .error .unboundParameter
  else
    match (tokens? chars).bind (Selection.ofTokens? .ofFiles) with
    | none => .error .badStatement
    | some s => s.run db

end TypeExport.Sql

import TypeExport.Sql.Affinity

/-!
# Databases

A database is a list of tables, and the rows of a table stand in the order in which they were put
into it.  Cells are null, numbers, texts or binary data, and are ordered in this way.
-/

namespace TypeExport.Sql

structure Column where
  name : String
  affinity : Affinity
  deriving Repr, DecidableEq

structure Table where
  name : String
  columns : List Column
  rows : List (List Value)
  deriving Repr

structure Database where
  tables : List Table
  deriving Repr

/-- The table with the given columns and rows, the cells converted to what the columns hold. -/
def Table.ofRows (name : String) (columns : List (String × String)) (rows : List (List Value)) :
    Table :=
  let columns := columns.map fun (name, declared) =>
    { name, affinity := Affinity.ofDeclared declared : Column }
  { name, columns, rows := rows.map fun row => columns.zipWith (fun c v => c.affinity.store v) row }

/-- Names agree up to the case of ASCII letters. -/
def sameName (a b : String) : Bool :=
  a.toList.map Char.toLower == b.toList.map Char.toLower

def Database.table? (db : Database) (name : String) : Option Table :=
  db.tables.find? fun t => sameName t.name name

def cellRank : Value → Nat
  | .null => 0
  | .bool _ | .int _ | .double _ => 1
  | .text _ => 2
  | .bytes _ | .tuple _ => 3

/-- A number as a fraction, infinities beyond all others. -/
def cellNumber : Value → Int × Nat
  | .int n => (n, 1)
  | .bool b => (if b then 1 else 0, 1)
  | .double (.infinity negative) => (if negative then -Int.pow 2 2000 else Int.pow 2 2000, 1)
  | .double x => x.fraction?.getD (0, 1)
  | _ => (0, 1)

def cellLe (a b : Value) : Bool :=
  if cellRank a != cellRank b then cellRank a < cellRank b
  else
    match a, b with
    | .text s, .text t => decide (s ≤ t)
    | .bytes s, .bytes t => decide (s ≤ t)
    | .null, .null => true
    | a, b =>
      let (m, d) := cellNumber a
      let (n, e) := cellNumber b
      m * e ≤ n * d

/-- Whether one list of cells does not come after another, cell by cell. -/
def cellsLe : List Value → List Value → Bool
  | a :: as, b :: bs => if cellLe a b then (if cellLe b a then cellsLe as bs else true) else false
  | _, _ => true

end TypeExport.Sql

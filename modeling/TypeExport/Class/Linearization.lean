import TypeExport.Class.World

/-!
# Linearisation

The linearisation of a class puts the class first, keeps the order of every base's linearisation and
the order of the bases, and prefers what an earlier base offers.  Where that is impossible there is
none.
-/

namespace TypeExport.Linearization

variable {α : Type} [DecidableEq α]

/-- Whether no list has `a` behind its first place. -/
def isFree (lists : List (List α)) (a : α) : Bool :=
  lists.all fun l => !l.tail.contains a

/-- The first head of a list that is behind the head of none. -/
def choose (lists : List (List α)) : Option α :=
  (lists.filterMap List.head?).find? (isFree lists)

/-- The lists without `a` at their heads, and without those that are used up. -/
def advance (a : α) (lists : List (List α)) : List (List α) :=
  (lists.map fun l => if l.head? = some a then l.tail else l).filter (!·.isEmpty)

def mergeWith : (fuel : Nat) → List (List α) → Option (List α)
  | _, [] => some []
  | 0, _ :: _ => none
  | fuel + 1, lists =>
    match choose lists with
    | none => none
    | some a => (mergeWith fuel (advance a lists)).map (a :: ·)

/-- One order that keeps the order of every list; every step uses up an entry. -/
def merge (lists : List (List α)) : Option (List α) :=
  let lists := lists.filter (!·.isEmpty)
  mergeWith lists.flatten.length lists

end TypeExport.Linearization

namespace TypeExport.World

/-- The linearisation of a new class without the class itself. -/
def orderAbove (w : World) (bases : List ClassRef) : Option (List ClassRef) :=
  Linearization.merge (bases.map w.order ++ [bases])

end TypeExport.World

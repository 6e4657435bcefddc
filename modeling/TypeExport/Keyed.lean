/-!
# Keyed lists

Values under keys, in the order in which the keys came first.
-/

namespace TypeExport.Keyed

variable {α β : Type} [DecidableEq α]

/-- Replaces the value under a key, or adds it at the end. -/
def put (key : α) (value : β) : List (α × β) → List (α × β)
  | [] => [(key, value)]
  | (k, v) :: rest => if k = key then (k, value) :: rest else (k, v) :: put key value rest

/-- Puts all of `entries`, one after the other. -/
def putAll (entries l : List (α × β)) : List (α × β) :=
  entries.foldl (fun l (k, v) => put k v l) l

def erase (key : α) (l : List (α × β)) : List (α × β) :=
  l.filter fun (k, _) => k ≠ key

end TypeExport.Keyed

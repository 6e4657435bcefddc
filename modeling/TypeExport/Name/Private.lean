/-!
# Private and reserved names

A name that begins with two underscores and does not end with two gets the name of the class in
front inside the body of the class.
-/

namespace TypeExport.Name

def startsWithTwo (name : List Char) : Bool :=
  "__".toList.isPrefixOf name

def endsWithTwo (name : List Char) : Bool :=
  "__".toList.isPrefixOf name.reverse

/-- What a name stands for inside the body of a class. -/
def inClass (className name : String) : String :=
  let owner := className.toList.dropWhile (· = '_')
  let s := name.toList
  if startsWithTwo s && !endsWithTwo s && !owner.isEmpty then
    String.ofList ('_' :: owner ++ s)
  else name

/-- Whether a name is one that a class made private. -/
def isPrivateOf (className name : String) : Bool :=
  let front := '_' :: className.toList ++ ['_', '_']
  let s := name.toList
  front.isPrefixOf s && front.length < s.length && !endsWithTwo s

/-- Whether a name has two underscores on either side. -/
def isSystemName (name : String) : Bool :=
  let s := name.toList
  4 < s.length && startsWithTwo s && endsWithTwo s && s[2]? != some '_' &&
    s.reverse[2]? != some '_'

/-- Whether a name has one underscore on either side. -/
def isReservedName (name : String) : Bool :=
  let s := name.toList
  2 < s.length && s.head? = some '_' && s.getLast? = some '_' && s[1]? != some '_' &&
    s.reverse[1]? != some '_'

end TypeExport.Name

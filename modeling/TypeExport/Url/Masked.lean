import TypeExport.Url.Address

/-!
# Addresses fit to be shown

An address is shown with `***` for its password; a text that is no address is not shown at all.
-/

namespace TypeExport.Url

/-- What stands for a text that is no address. -/
def hidden : String := "[ConnectionString]"

def showUser (a : Address) : List Char :=
  match a.user with
  | none => []
  | some user =>
    Percent.encode [' ', '+'] user ++ (if a.password.isSome then [':', '*', '*', '*'] else []) ++ ['@']

def showHost : Option (List Char) → List Char
  | none => []
  | some host => if host.contains ':' then '[' :: host ++ [']'] else host

def showPort : Option Int → List Char
  | none => []
  | some port => ':' :: (toString port).toList

def showDatabase : Option (List Char) → List Char
  | none => []
  | some database => '/' :: Percent.encode [' ', '+', '/'] database

/-- Parameters by name; those of one name stay in order. -/
def showParameters (parameters : List (List Char × List Char)) : List Char :=
  let sorted := parameters.mergeSort fun a b => decide (¬ b.1 < a.1)
  match sorted.map fun (name, value) =>
      Percent.encodeQuery name ++ '=' :: Percent.encodeQuery value with
  | [] => []
  | fields => '?' :: Text.joinWith '&' fields

def Address.masked (a : Address) : String :=
  String.ofList (a.scheme.toList ++ ':' :: '/' :: '/' :: showUser a ++ showHost a.host ++
    showPort a.port ++ showDatabase a.database ++ showParameters a.parameters)

/-- What may be shown of a connection text; a port that is no number is an error. -/
def mask (s : String) : Except AddressError String :=
  match Address.read s with
  | .ok a => .ok a.masked
  | .error .unreadable => .ok hidden
  | .error e => .error e

end TypeExport.Url

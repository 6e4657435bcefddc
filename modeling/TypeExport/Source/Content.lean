import TypeExport.File.Tree
import TypeExport.Source.Module
import TypeExport.Sql.Database

/-!
# Contents of files

A file holds a text, other bytes, a source module or a database.  The bytes of the last two are given
beside what they hold.
-/

namespace TypeExport

inductive Content where
  | text (s : String)
  | bytes (b : List UInt8)
  | module (m : SourceModule) (image : List UInt8)
  | database (db : Sql.Database) (image : List UInt8)
  deriving Repr

instance : TextContent Content where
  bytes
    | .text s => Utf8.encode s
    | .bytes b => b
    | .module _ image => image
    | .database _ image => image
  ofText := .text
  bytes_ofText _ := rfl

/-- The content that bytes are: a text if they can be one. -/
def Content.ofBytes (bytes : List UInt8) : Content :=
  match Utf8.decode? bytes with
  | some chars => .text (String.ofList chars)
  | none => .bytes bytes

/-- Whether two contents are the same; what is in a module or a database does not count. -/
def Content.same : Content → Content → Bool
  | .text a, .text b => a == b
  | .bytes a, .bytes b => a == b
  | .database _ _, .database _ _ => true
  | .module _ _, .module _ _ => true
  | _, _ => false

end TypeExport

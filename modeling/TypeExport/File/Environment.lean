import TypeExport.File.Tree

/-!
# The surroundings of a run

The variables, the working directory and the home directories of users, the directory that the
program stands in, and how deep a document may be nested before it is given up.
-/

namespace TypeExport

/-- What a run finds around it.  The home of the running user stands for itself, as its name in the
table of users is not known.  How many brackets may be open in a document depends on the stack that
the interpreter has left. -/
structure Environment where
  «variables» : List (String × String)
  workingDirectory : Location
  homes : List (String × String)
  ownHome : Option String := none
  programDirectory : Location := []
  nestingLimit : Nat := 900
  deriving Repr

namespace Environment

def get? (env : Environment) (name : String) : Option String :=
  env.«variables».lookup name

/-- The value of a variable; a missing one is empty. -/
def value (env : Environment) (name : String) : String :=
  (env.get? name).getD ""

/-- The text that a leading part such as `~` or `~user` stands for.  The variable goes before the
table of users, and it may be empty. -/
def homeText? (env : Environment) (part : String) : Option String :=
  if part = "~" then (env.get? "HOME").or env.ownHome
  else env.homes.lookup (String.ofList part.toList.tail)

/-- A directory without the slashes at its end; nothing but slashes is the top. -/
def trimSlashes (directory : String) : String :=
  let kept := (directory.toList.reverse.dropWhile (· = '/')).reverse
  if kept.isEmpty then "/" else String.ofList kept

/-- The home directory that a leading part stands for.  One that itself begins with `~` counts as
none. -/
def home? (env : Environment) (part : String) : Option String :=
  ((env.homeText? part).map trimSlashes).filter fun home => home.toList.head? != some '~'

/-- The home directories in a table of users, a line for each. -/
def homesOf (table : String) : List (String × String) :=
  (table.splitOn "\n").filterMap fun line =>
    match line.splitOn ":" with
    | name :: _ :: _ :: _ :: _ :: home :: _ => some (name, home)
    | _ => none

/-- The path with a home directory in front written out; `none` if there is no such home. -/
def expandHome (env : Environment) (p : Path) : Option Path :=
  match p.slashes, p.parts with
  | 0, part :: rest =>
    if part.toList.head? = some '~' then
      (env.home? part).map fun home =>
        let base := Path.ofString home
        { base with parts := base.parts ++ rest }
    else some p
  | _, _ => some p

end Environment

end TypeExport

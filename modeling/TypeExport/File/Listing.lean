import TypeExport.File.Tree

/-!
# Listing file trees

A tree is built entry by entry, with the directories above each, and compared with a later one.
-/

namespace TypeExport.FileTree

variable {κ : Type}

/-- The tree with an entry, and with the directories above it that were missing. -/
def place (t : FileTree κ) (l : Location) (e : Entry κ) : FileTree κ :=
  let missing := ((List.range l.length).map l.take).filter fun above => (t.find? above).isNone
  (missing.foldl (fun t above => t.insert above .directory) t).insert l e

/-- The texts of all locations below a directory in order; those of directories end in a slash. -/
def listing (t : FileTree κ) (directory : Location) : List String :=
  let texts := t.entries.filterMap fun (l, e) =>
    if directory.isPrefixOf l && l != directory then
      let text := "/".intercalate (l.drop directory.length)
      match e with
      | .directory => some (text ++ "/")
      | .file _ => some text
    else none
  texts.mergeSort fun a b => decide (a ≤ b)

/-- The files that are new in a later tree or have another content there. -/
def changes (before after : FileTree κ) (same : κ → κ → Bool) : List (Location × κ) :=
  after.entries.filterMap fun (l, e) =>
    match e with
    | .directory => none
    | .file c =>
      if (before.fileAt? l).any fun old => same old c then none else some (l, c)

end TypeExport.FileTree

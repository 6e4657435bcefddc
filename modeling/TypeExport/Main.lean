import TypeExport.Command.Perform
import TypeExport.File.Listing
import TypeExport.Text.Digest

/-!
# The command line

Reads the files below the working directory, performs the command, prints what it prints and writes
the files that it leaves.
-/

namespace TypeExport.Main

/-- The most bytes of a file that is read. -/
def sizeLimit : UInt64 := 16777216

/-- What stands in a directory and below it; entries whose names start with a point are left out. -/
partial def readEntries (above : Location) (found : List (Location × Entry Content))
    (entries : Array IO.FS.DirEntry) : IO (List (Location × Entry Content)) := do
  let mut found := found
  for entry in entries do
    let l := above ++ [entry.fileName]
    if entry.fileName.startsWith "." then continue
    if ← entry.path.isDir then
      found ← readEntries l ((l, .directory) :: found) (← entry.path.readDir)
    else
      let metadata ← entry.path.metadata
      if metadata.type matches .file then
        if metadata.byteSize ≤ sizeLimit then
          let bytes ← IO.FS.readBinFile entry.path
          found := (l, .file (.ofBytes bytes.toList)) :: found
  return found

def readVariables : IO (List (String × String)) := do
  let mut found := []
  for name in ["HOME", "TYPEGEN_DATABASE_URL", "TYPEGEN_MAX_WORKERS", "LOG_LEVEL"] do
    if let some value ← IO.getEnv name then
      found := (name, value) :: found
  return found

/-- The table of users; a missing one is empty. -/
def readUsers : IO String := do
  try IO.FS.readFile "/etc/passwd" catch _ => return ""

/-- What imports can see from the working directory. -/
def readImporter : IO Importer := do
  let directory ← IO.currentDir
  let cwd := (Path.ofString directory.toString).parts
  let above := (List.range (cwd.length + 1)).map fun count => (cwd.take count, Entry.directory)
  let entries ← readEntries cwd above (← directory.readDir)
  let environment : Environment :=
    { «variables» := ← readVariables, workingDirectory := cwd
      homes := Environment.homesOf (← readUsers) }
  return { environment, files := { entries }, searchPath := [cwd, cwd ++ ["lib"]]
           installed := ["pydantic", "sqlalchemy", "sqlalchemy.orm", "typegen", "typegen.markers"]
           digest := fun l => Digest.digits 8 (Path.ofLocation l).text }

/-- Makes the directories and writes the files that are new or changed. -/
def writeChanges (before after : FileTree Content) : IO Unit := do
  for (l, e) in after.entries do
    if e matches .directory && !before.isDirectory l then
      IO.FS.createDirAll (Path.ofLocation l).text
  for (l, c) in before.changes after Content.same do
    IO.FS.createDirAll (Path.ofLocation l.dropLast).text
    IO.FS.writeBinFile (Path.ofLocation l).text (TextContent.bytes c).toByteArray

/-- A text without the surrogates, which cannot be printed. -/
def printable (t : CodeText) : String :=
  String.ofList (t.map fun c => (c.toChar?).getD '\uFFFD')

/-- Prints a line of the log unless it is not severe enough. -/
def printLine (least : Nat) (line : LogLine) : IO Unit := do
  if least ≤ line.level.severity then
    IO.eprintln (printable line.display)

def finish (imp : Importer) (words : List String) (outcome : CommandOutcome) : IO UInt32 := do
  outcome.log.forM (printLine (Command.leastSeverity imp.environment words))
  writeChanges imp.files outcome.files
  IO.print (printable outcome.output)
  IO.eprint (printable outcome.complaint)
  if let .crashed cause := outcome.ending then
    IO.eprintln (printable cause.message)
  return outcome.ending.exitCode.toUInt32

end TypeExport.Main

def main (words : List String) : IO UInt32 := do
  let imp ← TypeExport.Main.readImporter
  TypeExport.Main.finish imp words (TypeExport.Command.perform imp words)

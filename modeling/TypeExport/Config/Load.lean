import TypeExport.Config.Comments
import TypeExport.Config.Document
import TypeExport.Config.Review
import TypeExport.Config.Settings
import TypeExport.File.Tree
import TypeExport.Json.Reader
import TypeExport.Log.Basic

/-!
# Loading configurations

A configuration file is UTF-8 text in JSON with comments.  It has to satisfy the schema and the
rules of the review.  An empty connection is taken from the environment.  A relative path is looked
for in the working directory and then beside the program.
-/

namespace TypeExport

namespace Config

open CodeText (ofString)

def standardFile : String := "tsgen.config.json"

inductive LoadError where
  | noHome
  | notFound (path : Path)
  | unreadable (cause : FileError)
  | notText
  | tooLarge (cause : Json.ReadError)
  | malformed
  | schema (violation : Schema.Violation)
  | mismatch (mismatches : List Mismatch)
  | settings (cause : Settings.BadWorkers)
  | output (cause : PathFault)
  | rules (faults : List Fault)
  deriving Repr

def LoadError.message : LoadError → CodeText
  | .noHome => ofString PathFault.noHome.message
  | .notFound path => ofString ("Configuration file not found: " ++ path.text)
  | .unreadable _ => ofString "unreadable"
  | .notText => ofString "not UTF-8"
  | .tooLarge cause => ofString cause.message
  | .malformed => ofString "Invalid JSON in configuration file"
  | .schema v =>
    ofString "Config validation failed at " ++ v.place ++ ofString (": " ++ v.reason)
  | .mismatch _ => ofString "Config validation failed"
  | .settings cause => ofString cause.message
  | .output cause => ofString cause.message
  | .rules faults => ofString "Configuration validation failed:\n" ++ faultList faults

def LoadError.inner? : LoadError → Option CodeText
  | .malformed => some (ofString Json.ReadError.malformed.message)
  | .schema v => some (ofString v.reason)
  | .mismatch ms => some (ofString ("members without a reading: " ++ toString ms.length))
  | _ => none

/-- Whether the failure is one of the configuration and not of its surroundings. -/
def LoadError.isInvalid : LoadError → Bool
  | .notFound _ | .malformed | .schema _ | .mismatch _ | .rules _ => true
  | _ => false

/-- Line breaks of every kind as line feeds. -/
def unifyLines : List Char → List Char
  | '\r' :: '\n' :: rest => '\n' :: unifyLines rest
  | '\r' :: rest => '\n' :: unifyLines rest
  | c :: rest => c :: unifyLines rest
  | [] => []

def readDocument (env : Environment) (bytes : List UInt8) : Except LoadError Json := do
  let some text := Utf8.decode? bytes | throw .notText
  match Json.readWithin env.nestingLimit (stripChars (unifyLines text)) with
  | .ok document => return document
  | .error .malformed => throw .malformed
  | .error e => throw (.tooLarge e)

/-- The configuration in a document that satisfies the schema. -/
def ofDocument (document : Json) : Except LoadError (Config CodeText) :=
  match schema.check document with
  | some v => .error (.schema v)
  | none =>
    match ofJson document with
    | .ok c => .ok c
    | .error ms => .error (.mismatch ms)

/-- The configuration with an empty connection replaced by the one of the environment. -/
def withConnection (env : Environment) (c : Config CodeText) : Except LoadError (Config CodeText) :=
  if c.connection.isEmpty then
    match Settings.ofEnvironment env with
    | .error e => .error (.settings e)
    | .ok s => .ok { c with connection := ofString s.databaseUrl }
  else .ok c

def readConfig (env : Environment) (bytes : List UInt8) : Except LoadError (Config CodeText) := do
  withConnection env (← ofDocument (← readDocument env bytes))

def summary (c : Config CodeText) : List LogLine :=
  [.info "Configuration loaded and validated successfully",
   .info ("- Database enums to generate: " ++ toString c.sources.length),
   .info ("- Modules to scan: " ++ toString c.targets.length),
   ⟨.info, ofString "- TypeScript interfaces output: " ++ c.interfaceDirectory⟩,
   ⟨.info, ofString "- TypeScript enums output: " ++ c.enumDirectory⟩]

variable {κ : Type}

/-- Reviews a configuration: its remarks are logged, and its faults are an error. -/
def accept (env : Environment) (files : FileTree κ) (c : Config CodeText) :
    List LogLine × Except LoadError (Config CodeText) :=
  match c.review env files with
  | .error e => ([], .error (.output e))
  | .ok review =>
    let warnings := review.remarks.map fun r => .warning ("Configuration warning: " ++ r.message)
    if review.faults.isEmpty then (warnings ++ summary c, .ok c)
    else (warnings, .error (.rules review.faults))

def openFile [TextContent κ] (env : Environment) (files : FileTree κ) (path : Path) :
    Except LoadError (List UInt8) :=
  match files.pathExists env.workingDirectory path with
  | .error e => .error (.unreadable e)
  | .ok false => .error (.notFound path)
  | .ok true =>
    match files.read env.workingDirectory path with
    | .ok content => .ok (TextContent.bytes content)
    | .error e => .error (.unreadable e)

/-- The path of the configuration that a text names.  A relative one is tried in the working
directory and then beside the program; if nothing stands at either, it is the first. -/
def filePath (env : Environment) (files : FileTree κ) (name : String) : Except LoadError Path := do
  let some p := env.expandHome (Path.ofString name) | throw .noHome
  if p.isAbsolute then return p
  let exists? (q : Path) := (files.pathExists env.workingDirectory q).mapError .unreadable
  let nearby := (Path.ofLocation env.workingDirectory).join p
  let bundled := (Path.ofLocation env.programDirectory).join p
  if ← exists? nearby then return nearby
  if ← exists? bundled then return bundled
  return nearby

def load [TextContent κ] (env : Environment) (files : FileTree κ) (name : String) :
    List LogLine × Except LoadError (Config CodeText) :=
  match filePath env files name with
  | .error e => ([], .error e)
  | .ok path =>
    let start : LogLine := .info ("Loading configuration from: " ++ path.text)
    match openFile env files path >>= readConfig env with
    | .error e => ([start], .error e)
    | .ok c =>
      let (log, result) := accept env files c
      (start :: log, result)

end Config

end TypeExport

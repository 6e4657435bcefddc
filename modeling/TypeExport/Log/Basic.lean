import TypeExport.Text.CodeText

/-!
# Log lines

What a run reports on its way, in order.
-/

namespace TypeExport

inductive LogLevel where
  | info
  | warning
  | error
  deriving DecidableEq, Repr

structure LogLine where
  level : LogLevel
  text : CodeText
  deriving DecidableEq, Repr

def LogLevel.name : LogLevel → String
  | .info => "INFO"
  | .warning => "WARNING"
  | .error => "ERROR"

def LogLevel.severity : LogLevel → Nat
  | .info => 20
  | .warning => 30
  | .error => 40

/-- The least severity that a name asks for; other names ask for the one of `INFO`. -/
def LogLevel.leastSeverity (name : String) : Nat :=
  match name with
  | "NOTSET" => 0
  | "DEBUG" => 10
  | "WARN" | "WARNING" => 30
  | "ERROR" => 40
  | "CRITICAL" | "FATAL" => 50
  | _ => 20

namespace LogLine

def info (s : String) : LogLine := ⟨.info, .ofString s⟩

def warning (s : String) : LogLine := ⟨.warning, .ofString s⟩

def error (s : String) : LogLine := ⟨.error, .ofString s⟩

/-- The level and the text. -/
def display (l : LogLine) : CodeText :=
  CodeText.ofString (l.level.name ++ " ") ++ l.text

end LogLine

end TypeExport

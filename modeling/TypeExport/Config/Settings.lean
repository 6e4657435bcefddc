import TypeExport.File.Environment
import TypeExport.Number.Numeral
import TypeExport.Text.Case
import TypeExport.Text.Classes
import TypeExport.Text.Quoted

/-!
# Settings from the environment

The number of workers counts only if it is all digits and positive.
-/

namespace TypeExport

structure Settings where
  databaseUrl : String
  logLevel : String
  workers : Option Int
  deriving Repr, DecidableEq

namespace Settings

/-- Digits that give no number: some are none of a decimal numeral, such as superscripts, or there
are too many. -/
structure BadWorkers where
  text : String
  deriving Repr, DecidableEq

def BadWorkers.message (e : BadWorkers) : String :=
  let count := Numeral.leadingDigits e.text
  if Numeral.digitLimit < count then Numeral.limitMessage count
  else
    "invalid literal for int() with base 10: " ++
      String.ofList ((Quoted.readableString e.text).toList.take 200)

def allDigits (s : String) : Bool :=
  !s.isEmpty && s.toList.all fun c => Text.isDigit c.toNat

def readWorkers (text : String) : Except BadWorkers (Option Int) :=
  if !allDigits text then .ok none
  else if Numeral.digitLimit < Numeral.leadingDigits text then .error ⟨text⟩
  else
    match Numeral.readInt? text with
    | some n => .ok (if 0 < n then some n else none)
    | none => .error ⟨text⟩

def ofEnvironment (env : Environment) : Except BadWorkers Settings := do
  let workers ← readWorkers (Text.trim (env.value "TYPEGEN_MAX_WORKERS"))
  return { databaseUrl := env.value "TYPEGEN_DATABASE_URL"
           logLevel := Text.upper ((env.get? "LOG_LEVEL").getD "INFO")
           workers }

end Settings

end TypeExport

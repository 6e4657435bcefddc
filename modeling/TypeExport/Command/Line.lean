import TypeExport.Config.Load

/-!
# Command lines

A command line is options, the name of a task and the words for the task.  A word that starts with
a dash is an option, and `--` ends the options.
-/

namespace TypeExport

inductive Task where
  | run
  | validate
  | writeLookups
  deriving DecidableEq, Repr

def Task.name : Task → String
  | .run => "run"
  | .validate => "validate"
  | .writeLookups => "db-enums"

def Task.ofName? (name : String) : Option Task :=
  [Task.run, .validate, .writeLookups].find? (·.name == name)

/-- How a word of a command line is read. -/
inductive LineWord where
  | text (s : String)
  | ending
  | long (name : String) (value : Option String)
  | short (letters : List Char)
  deriving DecidableEq, Repr

/-- A long option may bring its value behind an equals sign; a single dash is a text. -/
def LineWord.ofString (s : String) : LineWord :=
  match s.toList with
  | ['-'] => .text s
  | ['-', '-'] => .ending
  | '-' :: '-' :: rest =>
    let value := match rest.dropWhile (· != '=') with
      | _ :: value => some (String.ofList value)
      | [] => none
    .long (String.ofList (rest.takeWhile (· != '='))) value
  | '-' :: letters => .short letters
  | _ => .text s

/-- What a command line comes to before a task can start. -/
inductive LineProblem where
  | help
  | misuse
  deriving DecidableEq, Repr

/-- A command line with the words for its task. -/
structure CommandLine where
  verbose : Bool
  task : Task
  words : List String
  deriving DecidableEq, Repr

namespace CommandLine

/-- The options in front of a task: whether they ask for more lines and for help, and what follows. -/
def readFront (verbose help : Bool) : List String → Option (Bool × Bool × List String)
  | [] => some (verbose, help, [])
  | word :: rest =>
    match LineWord.ofString word with
    | .text _ => some (verbose, help, word :: rest)
    | .ending => some (verbose, help, rest)
    | .long "verbose" none => readFront true help rest
    | .long "help" none => readFront verbose true rest
    | .long _ _ => none
    | .short letters => if letters.all (· == 'v') then readFront true help rest else none

/-- Reads a command line up to the name of the task. -/
def read (words : List String) : Except LineProblem CommandLine :=
  match readFront false false words with
  | none | some (_, false, []) => .error .misuse
  | some (_, true, _) => .error .help
  | some (verbose, false, name :: words) =>
    match Task.ofName? name with
    | some task => .ok { verbose, task, words }
    | none => .error .misuse

end CommandLine

/-- The words for a task: the configuration as an option and as a text. -/
structure TaskWords where
  option : Option String := none
  texts : List String := []
  help : Bool := false
  deriving DecidableEq, Repr

namespace TaskWords

/-- Reads words on top of those that were read before. -/
def extend (w : TaskWords) : List String → Option TaskWords
  | [] => some w
  | word :: rest =>
    match LineWord.ofString word with
    | .text s => extend { w with texts := w.texts ++ [s] } rest
    | .ending => some { w with texts := w.texts ++ rest }
    | .long "help" none => extend { w with help := true } rest
    | .long "config" (some value) => extend { w with option := some value } rest
    | .short ('c' :: c :: value) =>
      extend { w with option := some (String.ofList (c :: value)) } rest
    | .long "config" none | .short ['c'] =>
      match rest with
      | value :: rest => extend { w with option := some value } rest
      | [] => none
    | _ => none

/-- Reads the words for a task; there may be one text. -/
def read (words : List String) : Except LineProblem TaskWords :=
  match extend {} words with
  | none => .error .misuse
  | some w =>
    if w.help then .error .help
    else if 1 < w.texts.length then .error .misuse
    else .ok w

/-- The configuration that is asked for: the option goes before the text, and empty ones do not
count. -/
def configName (w : TaskWords) : String :=
  ((w.option.toList ++ w.texts).find? (!·.isEmpty)).getD Config.standardFile

end TaskWords

end TypeExport

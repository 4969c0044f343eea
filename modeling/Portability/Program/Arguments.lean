/-!
# Command lines

A command line names at most one command. Some options may stand before the command or after it,
and what is given after it counts. An option takes its value from the rest of its word or from the
next word, several short options may share a word, and after two hyphens every word is an operand.
Only the targets and the verbosity may be given more than once in one place.
-/
namespace Portability

inductive ReportFormat where
  | text
  | json
deriving DecidableEq, Repr

def ReportFormat.ofWord? : String → Option ReportFormat
  | "text" => some text
  | "json" => some json
  | _ => none

/-- What can be said before a command and after it. -/
structure CommonOptions where
  config : Option String := none
  data : Option String := none
deriving DecidableEq, Repr

/-- The language that a file is written for. -/
inductive Language where
  | css
  | html
deriving DecidableEq, Repr

structure CheckRequest where
  language : Language
  input : String
  values : Bool := false
  targets : List String := []
  format : ReportFormat := .text
  recursive : Bool := false
  flagUnknown : Option Bool := none
deriving DecidableEq, Repr

inductive Command where
  | check (request : CheckRequest)
  | browsers (format : ReportFormat)
  | nothing
deriving DecidableEq, Repr

inductive Invocation where
  | run (options : CommonOptions) (command : Command)
  | help
  | version
deriving DecidableEq, Repr

namespace CommandLine

inductive OptionName where
  | config
  | data
  | verbose
  | values
  | browser
  | format
  | recursive
  | unknownBrowsers
  | help
  | version
deriving DecidableEq, Repr

namespace OptionName

/-- The options that take a value. -/
def takesValue : OptionName → Bool
  | config | data | browser | format | unknownBrowsers => true
  | verbose | values | recursive | help | version => false

/-- The options that may be given more than once in one place. -/
def isRepeatable : OptionName → Bool
  | verbose | browser => true
  | _ => false

def long : OptionName → String
  | config => "config"
  | data => "data"
  | verbose => "verbose"
  | values => "values"
  | browser => "browser"
  | format => "format"
  | recursive => "recursive"
  | unknownBrowsers => "unknown-browsers"
  | help => "help"
  | version => "version"

def short? : OptionName → Option Char
  | config => some 'c'
  | data => some 'd'
  | verbose => some 'v'
  | browser => some 'b'
  | format => some 'f'
  | recursive => some 'r'
  | help => some 'h'
  | version => some 'V'
  | values | unknownBrowsers => none

/-- Whether a value is one that the option takes. -/
def accepts (option : OptionName) (value : String) : Bool :=
  match option with
  | format => (ReportFormat.ofWord? value).isSome
  | unknownBrowsers => value == "true" || value == "false"
  | _ => true

end OptionName

/-- The options of a place on the command line, and how many operands it takes. -/
structure Place where
  options : List OptionName
  operands : Nat
  commands : List String
deriving DecidableEq, Repr

/-- The place before the command. -/
def Place.root : Place :=
  { options := [.config, .data, .verbose, .help, .version]
    operands := 0
    commands := ["css", "html", "browsers", "help"] }

/-- The place after a command. -/
def Place.after (command : String) : Place :=
  let common : List OptionName := [.config, .data, .verbose, .help]
  let check : List OptionName := [.browser, .format, .recursive, .unknownBrowsers]
  match command with
  | "css" => ⟨common ++ .values :: check, 1, []⟩
  | "html" => ⟨common ++ check, 1, []⟩
  | _ => ⟨common ++ [.format], 0, []⟩

/-- What was read in one place: options with their values, and operands, each newest first. -/
structure Reading where
  options : List (OptionName × String) := []
  operands : List String := []
deriving DecidableEq, Repr

/-- How reading a place ends. -/
inductive Ending where
  | complete (reading : Reading)
  | command (reading : Reading) (name : String) (rest : List String)
  | help
  | version
  | rejected
deriving DecidableEq, Repr

/-- What the words have led to so far: more to read, or an ending. -/
inductive Progress where
  | more (reading : Reading)
  | waiting (reading : Reading) (option : OptionName)
  | ended (ending : Ending)

/-- Adds an option with its value, which is empty for an option that takes none. -/
def Reading.add (reading : Reading) (option : OptionName) (value : String) : Progress :=
  if option = .help then .ended .help
  else if option = .version then .ended .version
  else if !option.isRepeatable && reading.options.any (·.1 == option) then .ended .rejected
  else if !option.accepts value then .ended .rejected
  else .more { reading with options := (option, value) :: reading.options }

/-- Adds an operand, where the place takes one more. -/
def Reading.addOperand (place : Place) (reading : Reading) (operand : String) : Progress :=
  if reading.operands.length < place.operands then
    .more { reading with operands := operand :: reading.operands }
  else .ended .rejected

/-- Reads the letters of a word of short options. -/
def readShort (place : Place) (reading : Reading) : List Char → Progress
  | [] => .more reading
  | letter :: rest =>
    match place.options.find? (·.short? == some letter) with
    | none => .ended .rejected
    | some option =>
      if option.takesValue then
        match rest with
        | [] => .waiting reading option
        | '=' :: value => reading.add option (String.ofList value)
        | value => reading.add option (String.ofList value)
      else match reading.add option "" with
        | .more reading => readShort place reading rest
        | other => other

/-- Reads the name of a long option, perhaps with its value behind an equals sign. -/
def readLong (place : Place) (reading : Reading) (word : List Char) : Progress :=
  let name := String.ofList (word.takeWhile (· ≠ '='))
  match place.options.find? (·.long == name), word.dropWhile (· ≠ '=') with
  | none, _ => .ended .rejected
  | some option, [] =>
    if option.takesValue then .waiting reading option else reading.add option ""
  | some option, _ :: value =>
    if option.takesValue then reading.add option (String.ofList value) else .ended .rejected

/-- Reads the operands after two hyphens. -/
def readOperands (place : Place) : Reading → List String → Ending
  | reading, [] => .complete reading
  | reading, word :: rest =>
    match reading.addOperand place word with
    | .more reading => readOperands place reading rest
    | .waiting .. => .rejected
    | .ended ending => ending

/-- Whether a word cannot be the value of the option before it. -/
def looksLikeOption (word : String) : Bool :=
  match word.toList with
  | '-' :: _ :: _ => true
  | _ => false

/-- Reads the words of a place; `progress` says what the words before have led to. -/
def readWords (place : Place) : Progress → List String → Ending
  | .ended ending, _ => ending
  | .more reading, [] => .complete reading
  | .waiting .., [] => .rejected
  -- An option that waits for its value takes even a word that names a command.
  | .waiting reading option, word :: rest =>
    if looksLikeOption word then .rejected
    else readWords place (reading.add option word) rest
  | .more reading, word :: rest =>
    if place.commands.contains word then .command reading word rest
    else match word.toList with
      | ['-', '-'] => readOperands place reading rest
      | '-' :: '-' :: name => readWords place (readLong place reading name) rest
      | '-' :: letter :: letters =>
        readWords place (readShort place reading (letter :: letters)) rest
      | _ => readWords place (reading.addOperand place word) rest

namespace Reading

def value? (reading : Reading) (option : OptionName) : Option String :=
  (reading.options.find? (·.1 == option)).map (·.2)

/-- All values of an option, in the order in which they were given. -/
def values (reading : Reading) (option : OptionName) : List String :=
  (reading.options.reverse.filter (·.1 == option)).map (·.2)

def has (reading : Reading) (option : OptionName) : Bool := reading.options.any (·.1 == option)

def format (reading : Reading) : ReportFormat :=
  ((reading.value? .format).bind ReportFormat.ofWord?).getD .text

/-- The common options of two places; the second place counts where both give one. -/
def common (before after : Reading) : CommonOptions :=
  { config := after.value? .config <|> before.value? .config
    data := after.value? .data <|> before.value? .data }

def checkRequest? (reading : Reading) (language : Language) : Option CheckRequest := do
  return {
    language
    input := ← reading.operands.head?
    values := reading.has .values
    targets := reading.values .browser
    format := reading.format
    recursive := reading.has .recursive
    flagUnknown := (reading.value? .unknownBrowsers).map (· == "true") }

/-- The command with this name and what was read after it. -/
def command? (reading : Reading) (name : String) : Option Command :=
  match name with
  | "css" => (reading.checkRequest? .css).map .check
  | "html" => (reading.checkRequest? .html).map .check
  | _ => some (.browsers reading.format)

end Reading

end CommandLine

open CommandLine in
/-- What a command line asks for, unless it is not well formed. -/
def Invocation.ofWords? (words : List String) : Option Invocation :=
  match readWords .root (.more {}) words with
  | .rejected => none
  | .help => some .help
  | .version => some .version
  | .complete reading => some (.run (reading.common {}) .nothing)
  | .command _ "help" [] => some .help
  | .command _ "help" [topic] => if Place.root.commands.contains topic then some .help else none
  | .command _ "help" _ => none
  | .command before name rest =>
    match readWords (.after name) (.more {}) rest with
    | .complete after => (after.command? name).map (.run (before.common after))
    | .help => some .help
    | .version => some .version
    | .rejected | .command .. => none

end Portability

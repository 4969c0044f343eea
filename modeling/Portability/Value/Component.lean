import Portability.Value.Lexer

/-!
# Components of property values

Tokens nest where a function has arguments: everything up to the closing parenthesis belongs to the
function. Colours in hash notation and at-keywords say nothing about compatibility and are left
out. A closing parenthesis that closes no function ends the value, and functions still open at the
end of the tokens end there.
-/
namespace Portability

inductive Component where
  | ident (name : String)
  | text (content : String)
  | url (address : String)
  | number (value : Float)
  | percentage (ratio : Float)
  | dimension (value : Float) (unit : String)
  | function (name : String) (contents : List Component)
  | symbol (c : Char)

namespace Component

/-- The component that a token is by itself, if it is one. -/
def ofLexeme? : Lexeme → Option Component
  | .ident name => some (ident name)
  | .text content => some (text content)
  | .url address => some (url address)
  | .number value => some (number value)
  | .percentage ratio => some (percentage ratio)
  | .dimension value unit => some (dimension value unit)
  | .symbol c => some (symbol c)
  | .function _ | .hash _ | .atKeyword _ => none

/-- A function whose end has not been read: its name, and what precedes it, newest first. -/
structure Opened where
  name : String
  before : List Component

/-- Ends all open functions, innermost first; `done` is newest first. -/
def closeAll : List Opened → List Component → List Component
  | [], done => done.reverse
  | innermost :: outer, done =>
    closeAll outer (function innermost.name done.reverse :: innermost.before)

/-- Reads one value with these functions open, and gives what follows the end of the value. -/
def readFrom (opened : List Opened) (done : List Component) :
    List Lexeme → List Component × List Lexeme
  | [] => (closeAll opened done, [])
  | lexeme :: rest =>
    if lexeme.isClosing then
      match opened with
      | [] => (done.reverse, rest)
      | innermost :: outer =>
        readFrom outer (function innermost.name done.reverse :: innermost.before) rest
    else match lexeme with
      | .function name => readFrom (⟨name, done⟩ :: opened) [] rest
      | other => readFrom opened ((ofLexeme? other).toList ++ done) rest

/-- Reads the value at the start of the tokens. -/
def read (lexemes : List Lexeme) : List Component × List Lexeme := readFrom [] [] lexemes

/-- Reads values one after another, each from where the one before ended. -/
def readTimes : Nat → List Lexeme → List (List Component)
  | 0, _ => []
  | times + 1, lexemes => (read lexemes).1 :: readTimes times (read lexemes).2

/-- The components of a value; a declaration may have none. -/
def ofValue (value : Option AuthoredValue) : List Component :=
  match value with
  | some value => (read (value.tokens.map Token.lexeme)).1
  | none => []

/-- The authored spelling of a component, without the arguments of a function. -/
def term : Component → String
  | ident name | function name _ => name
  | text content => content
  | url address => address
  | number value => Decimal.authored value
  | percentage ratio => Decimal.authored (ratio * 100) ++ "%"
  | dimension value unit => Decimal.authored value ++ unit
  | symbol c => String.singleton c

/-- The name under which the compatibility data lists a component; a symbol has none. -/
def typeKey? : Component → Option String
  | ident name | function name _ => some name
  | text content => some content
  | url address => some address
  | number value => some (Decimal.authored value)
  | percentage _ => some "percentage"
  | dimension _ unit => some unit
  | symbol _ => none

end Component

end Portability

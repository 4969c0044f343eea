import Portability.Decimal.Text
import Portability.Json.Fields

/-!
# Tokens of property values

A property value is a text as it was authored, or a bare number. Its text is made of tokens, each
of which covers the characters from `start` to `stop`. A percentage is kept as a ratio: `10%` is
one tenth.
-/
namespace Portability

/-- The value of a declaration, as authored. -/
inductive AuthoredValue where
  | number (value : Float)
  | text (content : String)
deriving DecidableEq, Repr

namespace AuthoredValue

def toText : AuthoredValue → String
  | number value => Decimal.authored value
  | text content => content

def ofJson? : Json → Option AuthoredValue
  | .number value => some (number value)
  | .text content => some (text content)
  | _ => none

end AuthoredValue

inductive Lexeme where
  | ident (name : String)
  | text (content : String)
  | url (address : String)
  | number (value : Float)
  | percentage (ratio : Float)
  | dimension (value : Float) (unit : String)
  | function (name : String)
  | hash (name : String)
  | atKeyword (name : String)
  | symbol (c : Char)
deriving DecidableEq, Repr

namespace Lexeme

def isClosing : Lexeme → Bool
  | symbol c => c == ')'
  | _ => false

/-- The name of the kind of lexeme. -/
def kind : Lexeme → String
  | ident _ => "ident"
  | text _ => "string"
  | url _ => "url"
  | number _ => "number"
  | percentage _ => "percentage"
  | dimension .. => "dimension"
  | function _ => "function"
  | hash _ => "hash"
  | atKeyword _ => "at-keyword"
  | symbol _ => "symbol"

/-- What the lexeme holds, as text. -/
def content : Lexeme → String
  | ident name | function name | hash name | atKeyword name => name
  | text content => "\"" ++ content ++ "\""
  | url address => address
  | number value | percentage value => Decimal.text value
  | dimension value unit => Decimal.text value ++ unit
  | symbol c => String.singleton c

def description (lexeme : Lexeme) : String := lexeme.kind ++ "(" ++ lexeme.content ++ ")"

end Lexeme

structure Token where
  lexeme : Lexeme
  start : Nat
  stop : Nat
deriving DecidableEq, Repr

end Portability

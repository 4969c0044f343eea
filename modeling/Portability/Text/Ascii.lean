/-!
# Comparison and lookahead in ASCII

Names of value functions, data attributes and declared data types are compared without regard to
the case of ASCII letters. Characters outside ASCII are equal only to themselves.
-/
namespace Portability.Text

/-- Equality up to the case of ASCII letters. -/
def sameIgnoringCase (left right : String) : Bool :=
  left.toList.map Char.toLower == right.toList.map Char.toLower

/-- Whether the text begins with `start`, up to the case of ASCII letters. -/
def beginsWith (start text : String) : Bool :=
  sameIgnoringCase (String.ofList (text.toList.take start.length)) start

def isDigit (c : Char) : Bool := '0' ≤ c && c ≤ '9'

/-- The number that a decimal digit stands for. -/
def digitValue (c : Char) : Nat := c.toNat - '0'.toNat

/-- The digits at the start of a text, and what follows them. -/
def splitDigits (text : List Char) : List Char × List Char :=
  (text.takeWhile isDigit, text.dropWhile isDigit)

theorem splitDigits_append (text : List Char) :
    (splitDigits text).1 ++ (splitDigits text).2 = text :=
  List.takeWhile_append_dropWhile

/-- The natural number written by a run of decimal digits. -/
def digitsToNat (digits : List Char) : Nat :=
  digits.foldl (fun total c => 10 * total + digitValue c) 0

end Portability.Text

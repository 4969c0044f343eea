import Portability.Text.Ascii

/-!
# Dates and times

A moment in TOML is a date of the Gregorian calendar, a time of day, or a date with a time and
perhaps its distance from universal time. Each part has a fixed number of digits and must exist: no
month has more days than the calendar gives it, and a minute may end in a leap second.
-/
namespace Portability.Toml

open Text

def isLeapYear (year : Nat) : Bool := year % 4 == 0 && (year % 100 != 0 || year % 400 == 0)

def daysInMonth (year month : Nat) : Nat :=
  if month = 2 then if isLeapYear year then 29 else 28
  else if month ∈ [4, 6, 9, 11] then 30
  else 31

/-- Whether the calendar has this day. -/
def isDay (year month day : Nat) : Bool :=
  1 ≤ month && month ≤ 12 && 1 ≤ day && day ≤ daysInMonth year month

/-- The number at the start of a text that has this many digits, and what follows it. -/
def splitNumber? (width : Nat) (text : List Char) : Option (Nat × List Char) :=
  let digits := text.take width
  if digits.length = width ∧ digits.all isDigit then some (digitsToNat digits, text.drop width)
  else none

/-- What follows a character that must stand at the start of a text. -/
def afterMark? (mark : Char) : List Char → Option (List Char)
  | c :: rest => if c = mark then some rest else none
  | [] => none

/-- What follows the date at the start of a text. -/
def afterDate? (text : List Char) : Option (List Char) := do
  let (year, rest) ← splitNumber? 4 text
  let (month, rest) ← splitNumber? 2 (← afterMark? '-' rest)
  let (day, rest) ← splitNumber? 2 (← afterMark? '-' rest)
  if isDay year month day then some rest else none

/-- What follows the hours and minutes at the start of a text. -/
def afterMinutes? (text : List Char) : Option (List Char) := do
  let (hour, rest) ← splitNumber? 2 text
  let (minute, rest) ← splitNumber? 2 (← afterMark? ':' rest)
  if hour < 24 ∧ minute < 60 then some rest else none

/-- What follows a point and its digits, if the text begins with those. -/
def afterFraction : List Char → List Char
  | '.' :: digit :: rest => if isDigit digit then rest.dropWhile isDigit else '.' :: digit :: rest
  | text => text

/-- What follows the time of day at the start of a text. -/
def afterTime? (text : List Char) : Option (List Char) := do
  let (second, rest) ← splitNumber? 2 (← afterMark? ':' (← afterMinutes? text))
  if second ≤ 60 then some (afterFraction rest) else none

/-- Whether a text is a distance from universal time, where it is known. -/
def isOffset : List Char → Bool
  | [] => true
  | sign :: rest =>
    if sign == '+' || sign == '-' then afterMinutes? rest == some []
    else (sign == 'Z' || sign == 'z') && rest.isEmpty

/-- Whether a text is a moment. A letter T or one blank stands between a date and its time. -/
def isMoment (text : List Char) : Bool :=
  match afterDate? text with
  | some [] => true
  | some (mark :: rest) =>
    (mark == 'T' || mark == 't' || mark == ' ') && ((afterTime? rest).map isOffset).getD false
  | none => afterTime? text == some []

end Portability.Toml

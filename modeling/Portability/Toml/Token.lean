import Portability.Json.Token
import Portability.Toml.Moment

/-!
# Tokens of TOML text

The text is cut into marks, words, strings and line ends; blanks and comments fall away. A word is
a run of the characters of bare keys, of numbers and of moments, so what it means is decided where
it stands. A date and its time are one word even where a blank parts them. A bracket remembers
whether the same bracket follows it at once, because the header of a table in a list is written
with two brackets that touch.
-/
namespace Portability.Toml

open Text

inductive Token where
  | word (text : List Char)
  | text (value : String)
  | longText (value : String)
  | equals
  | comma
  | openTable
  | closeTable
  | openList (doubled : Bool)
  | closeList (doubled : Bool)
  | lineEnd
deriving DecidableEq, Repr

def isWordChar (c : Char) : Bool :=
  c.isAlphanum || c == '_' || c == '-' || c == '+' || c == '.' || c == ':'

/-- Whether a character may stand in a comment or a string as it is. -/
def isPlain (c : Char) : Bool := c == '\t' || (0x20 ≤ c.toNat && c.toNat ≠ 0x7F)

/-- The character with this number, unless it is half of a surrogate pair or beyond Unicode. -/
def charOfCode? (code : Nat) : Option Char :=
  if code.isValidChar then some (Char.ofNat code) else none

/-- The number written by hexadecimal digits. -/
def hexNumber? (digits : List Char) : Option Nat :=
  digits.foldlM (fun total c => (Json.hexValue? c).map (16 * total + ·)) 0

/-- The character that a one-letter escape stands for. -/
def escaped? : Char → Option Char
  | 'b' => some '\x08'
  | 't' => some '\t'
  | 'n' => some '\n'
  | 'f' => some '\x0c'
  | 'r' => some '\r'
  | '"' => some '"'
  | '\\' => some '\\'
  | _ => none

/-- The character of an escape after its backslash, and what follows the escape. -/
def readEscape? : List Char → Option (Char × List Char)
  | 'u' :: rest => do
    if (rest.take 4).length = 4 then
      return (← charOfCode? (← hexNumber? (rest.take 4)), rest.drop 4)
    else none
  | 'U' :: rest => do
    if (rest.take 8).length = 8 then
      return (← charOfCode? (← hexNumber? (rest.take 8)), rest.drop 8)
    else none
  | letter :: rest => (escaped? letter).map (·, rest)
  | [] => none

theorem readEscape?_length_le {text rest : List Char} {c : Char}
    (found : readEscape? text = some (c, rest)) : rest.length ≤ text.length := by
  unfold readEscape? at found
  split at found
  · split at found
    · simp only [Option.pure_def, Option.bind_eq_bind, Option.bind_eq_some_iff,
        Option.some.injEq, Prod.mk.injEq] at found
      obtain ⟨_, _, _, _, _, rfl⟩ := found
      simp only [List.length_drop, List.length_cons]
      omega
    · simp at found
  · split at found
    · simp only [Option.pure_def, Option.bind_eq_bind, Option.bind_eq_some_iff,
        Option.some.injEq, Prod.mk.injEq] at found
      obtain ⟨_, _, _, _, _, rfl⟩ := found
      simp only [List.length_drop, List.length_cons]
      omega
    · simp at found
  · simp only [Option.map_eq_some_iff, Prod.mk.injEq] at found
    obtain ⟨_, _, _, rfl⟩ := found
    simp
  · simp at found

/-- Reads a string on one line after its opening quote; `done` is newest first. -/
def readText (done : List Char) (text : List Char) : Option (String × List Char) :=
  match text with
  | [] => none
  | '"' :: rest => some (String.ofList done.reverse, rest)
  | '\\' :: rest =>
    match _found : readEscape? rest with
    | some (c, tail) => readText (c :: done) tail
    | none => none
  | c :: rest => if isPlain c then readText (c :: done) rest else none
termination_by text.length
decreasing_by
  · have := readEscape?_length_le (by assumption)
    simp only [List.length_cons]
    omega
  · simp

/-- Reads a string on one line that knows no escapes, after its opening quote. -/
def readLiteral (done : List Char) : List Char → Option (String × List Char)
  | [] => none
  | '\'' :: rest => some (String.ofList done.reverse, rest)
  | c :: rest => if isPlain c then readLiteral (c :: done) rest else none

/-- What follows the blanks and line ends at the start of a text. -/
def skipBlankLines : List Char → List Char
  | ' ' :: rest => skipBlankLines rest
  | '\t' :: rest => skipBlankLines rest
  | '\n' :: rest => skipBlankLines rest
  | '\r' :: '\n' :: rest => skipBlankLines rest
  | text => text

theorem skipBlankLines_length_le (text : List Char) :
    (skipBlankLines text).length ≤ text.length := by
  fun_induction skipBlankLines text <;> simp <;> omega

/-- A line end is a line feed, perhaps after a carriage return. -/
def splitLineEnd? : List Char → Option (List Char)
  | '\n' :: rest => some rest
  | '\r' :: '\n' :: rest => some rest
  | _ => none

theorem splitLineEnd?_length_lt {text rest : List Char} (found : splitLineEnd? text = some rest) :
    rest.length < text.length := by
  unfold splitLineEnd? at found
  split at found
  · obtain rfl := Option.some.inj found
    exact Nat.lt_succ_self _
  · obtain rfl := Option.some.inj found
    exact Nat.lt_succ_of_lt (Nat.lt_succ_self _)
  · contradiction

/-- What follows a backslash at the end of a line: the blank text up to the next word goes. -/
def skipContinuation? (text : List Char) : Option (List Char) :=
  (splitLineEnd? (text.dropWhile fun c => c == ' ' || c == '\t')).map skipBlankLines

theorem skipContinuation?_length_le {text rest : List Char}
    (found : skipContinuation? text = some rest) : rest.length ≤ text.length := by
  simp only [skipContinuation?, Option.map_eq_some_iff] at found
  obtain ⟨tail, ended, rfl⟩ := found
  have := splitLineEnd?_length_lt ended
  have := (List.dropWhile_sublist (l := text) fun c => c == ' ' || c == '\t').length_le
  have := skipBlankLines_length_le tail
  omega

/-- The quotes that may stand before the three closing ones, when a text begins with those. -/
def closingQuotes? (quote : Char) : List Char → Option (List Char × List Char)
  | a :: b :: c :: rest =>
    if a = quote ∧ b = quote ∧ c = quote then
      let extra := (rest.takeWhile (· = quote)).take 2
      some (extra, rest.drop extra.length)
    else none
  | _ => none

/-- Reads a string over several lines after its opening quotes; `done` is newest first. -/
def readLongText (quote : Char) (done : List Char) (text : List Char) :
    Option (String × List Char) :=
  match closingQuotes? quote text with
  | some (extra, rest) => some (String.ofList (done.reverse ++ extra), rest)
  | none =>
    match _ended : splitLineEnd? text with
    | some rest => readLongText quote ('\n' :: done) rest
    | none =>
      match _cut : text with
      | [] => none
      | c :: rest =>
        if c = '\\' ∧ quote = '"' then
          match _continued : skipContinuation? rest, _found : readEscape? rest with
          | some tail, _ => readLongText quote done tail
          | none, some (escaped, tail) => readLongText quote (escaped :: done) tail
          | none, none => none
        else if isPlain c then readLongText quote (c :: done) rest
        else none
termination_by text.length
decreasing_by
  · exact splitLineEnd?_length_lt (by assumption)
  · have := skipContinuation?_length_le (by assumption)
    simp only [List.length_cons]
    omega
  · have := readEscape?_length_le (by assumption)
    simp only [List.length_cons]
    omega
  · simp

/-- The first line end of a string over several lines does not belong to it. -/
def readLong (quote : Char) (text : List Char) : Option (Token × List Char) :=
  (readLongText quote [] ((splitLineEnd? text).getD text)).map fun (value, rest) =>
    (.longText value, rest)

/-- The word at the start of a text, and what follows it. -/
def splitWord (text : List Char) : List Char × List Char :=
  let word := text.takeWhile isWordChar
  match text.dropWhile isWordChar with
  | ' ' :: digit :: rest =>
    if afterDate? word = some [] ∧ isDigit digit then
      (word ++ ' ' :: digit :: rest.takeWhile isWordChar, rest.dropWhile isWordChar)
    else (word, ' ' :: digit :: rest)
  | rest => (word, rest)

/-- The token at the start of a text without blanks there, and what follows it. -/
def Token.next? (text : List Char) : Option (Token × List Char) :=
  match text with
  | '=' :: rest => some (equals, rest)
  | ',' :: rest => some (comma, rest)
  | '\x7b' :: rest => some (openTable, rest)
  | '\x7d' :: rest => some (closeTable, rest)
  | '[' :: rest => some (openList (rest.head? == some '['), rest)
  | ']' :: rest => some (closeList (rest.head? == some ']'), rest)
  | '"' :: '"' :: '"' :: rest => readLong '"' rest
  | '\'' :: '\'' :: '\'' :: rest => readLong '\'' rest
  | '"' :: rest => (readText [] rest).map fun (value, rest) => (.text value, rest)
  | '\'' :: rest => (readLiteral [] rest).map fun (value, rest) => (.text value, rest)
  | '\n' :: rest => some (lineEnd, rest)
  | '\r' :: '\n' :: rest => some (lineEnd, rest)
  | _ =>
    match splitWord text with
    | ([], _) => none
    | (run, rest) => some (.word run, rest)

/-- Cuts a text into at most `steps` tokens and gaps; `done` is newest first. -/
def Token.readAll : Nat → List Token → List Char → Option (List Token)
  | _, done, [] => some done.reverse
  | 0, _, _ => none
  | steps + 1, done, c :: rest =>
    if c == ' ' || c == '\t' then readAll steps done rest
    else if c == '#' then
      let comment := rest.takeWhile fun c => c ≠ '\n' ∧ c ≠ '\r'
      if comment.all isPlain then readAll steps done (rest.drop comment.length) else none
    else match next? (c :: rest) with
      | some (token, tail) => readAll steps (token :: done) tail
      | none => none

/-- A byte order mark at the start of a text says nothing. -/
def withoutMark : List Char → List Char
  | '\uFEFF' :: rest => rest
  | text => text

/-- The tokens of a text: each token and each gap takes at least one character. -/
def tokens? (text : String) : Option (List Token) :=
  Token.readAll text.length [] (withoutMark text.toList)

end Portability.Toml

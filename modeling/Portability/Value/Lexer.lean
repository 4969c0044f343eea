import Portability.Decimal.Numeral
import Portability.Text.Blank
import Portability.Value.Token

/-!
# Reading tokens

Between tokens there may be blanks and comments; a comment that never ends reaches to the end of the
text. Every character that is not layout begins a token: the longest numeral with its unit, a name,
a quoted text, or else a symbol of one character. A backslash takes the next character into a name
or a text as it is. Reading never fails. Each token takes at least one character, which is why
reading ends.
-/
namespace Portability.Lexer

open Text

/-- What follows the end of a comment. -/
def skipComment : List Char → List Char
  | [] => []
  | '*' :: '/' :: rest => rest
  | _ :: rest => skipComment rest

theorem skipComment_length_le (text : List Char) : (skipComment text).length ≤ text.length := by
  fun_induction skipComment text <;> simp_all <;> omega

/-- What follows the blanks and comments at the start of a text. -/
def skipLayout (text : List Char) : List Char :=
  match text with
  | '/' :: '*' :: body => skipLayout (skipComment body)
  | c :: rest => if isBlank c then skipLayout rest else c :: rest
  | [] => []
termination_by text.length
decreasing_by
  · have := skipComment_length_le body
    simp only [List.length_cons]
    omega
  · simp

theorem skipLayout_length_le (text : List Char) : (skipLayout text).length ≤ text.length := by
  fun_induction skipLayout text with
  | case1 body ih =>
    have := skipComment_length_le body
    simp only [List.length_cons]
    omega
  | case2 c rest _ _ ih =>
    simp only [List.length_cons]
    omega
  | case3 => exact Nat.le_refl _
  | case4 => exact Nat.le_refl _

def isNameStart (c : Char) : Bool := c.isAlpha || c == '_' || c == '\\' || 0x80 ≤ c.toNat

def isNameChar (c : Char) : Bool := isNameStart c || isDigit c || c == '-'

/-- Whether a name begins here: perhaps after a hyphen, but not with a digit. -/
def startsName : List Char → Bool
  | '-' :: c :: _ => isNameStart c || c == '-'
  | '-' :: [] => false
  | c :: _ => isNameStart c
  | [] => false

/-- The name at the start of a text, and what follows it. -/
def readName : List Char → List Char × List Char
  | '\\' :: c :: rest =>
    let tail := readName rest
    (c :: tail.1, tail.2)
  | '\\' :: [] => ([], [])
  | c :: rest =>
    if isNameChar c then
      let tail := readName rest
      (c :: tail.1, tail.2)
    else ([], c :: rest)
  | [] => ([], [])

/-- The rest of a quoted text, and what follows its closing quote or the end. -/
def readQuoted (quote : Char) : List Char → List Char × List Char
  | '\\' :: c :: rest =>
    let tail := readQuoted quote rest
    (c :: tail.1, tail.2)
  | '\\' :: [] => ([], [])
  | c :: rest =>
    if c = quote then ([], rest)
    else
      let tail := readQuoted quote rest
      (c :: tail.1, tail.2)
  | [] => ([], [])

/-- What follows the next closing parenthesis. -/
def afterClosing (text : List Char) : List Char := (text.dropWhile (· ≠ ')')).drop 1

/-- The address after the opening parenthesis, in quotes or not, and what follows its end. -/
def readAddress (text : List Char) : List Char × List Char :=
  match trimStart text with
  | '"' :: rest =>
    let quoted := readQuoted '"' rest
    (quoted.1, afterClosing quoted.2)
  | '\'' :: rest =>
    let quoted := readQuoted '\'' rest
    (quoted.1, afterClosing quoted.2)
  | bare => (trimEnd (bare.takeWhile (· ≠ ')')), afterClosing bare)

/-- The lexeme of a name that is followed by `rest`: the name itself, a function or an address. -/
def named (name : String) (rest : List Char) : Lexeme × List Char :=
  match rest with
  | '(' :: body =>
    if sameIgnoringCase name "url" then
      let address := readAddress body
      (.url (String.ofList address.1), address.2)
    else (.function name, body)
  | rest => (.ident name, rest)

/-- The lexeme at the start of a text that begins with a name. -/
def readNamed (text : List Char) : Lexeme × List Char :=
  let name := readName text
  named (String.ofList name.1) name.2

/-- The lexeme of a number with this value, by what follows the number. -/
def readMeasured (value : Float) (text : List Char) : Lexeme × List Char :=
  match text with
  | '%' :: rest => (.percentage (value / 100), rest)
  | rest =>
    if startsName rest then
      let unit := readName rest
      (.dimension value (String.ofList unit.1), unit.2)
    else (.number value, rest)

/-- The lexeme that starts with a character that begins neither a number nor a name. -/
def readMarked (mark : Char) (rest : List Char) : Lexeme × List Char :=
  if mark == '"' || mark == '\'' then
    let quoted := readQuoted mark rest
    (.text (String.ofList quoted.1), quoted.2)
  else if mark == '#' && rest.head?.any isNameChar then
    let name := readName rest
    (.hash (String.ofList name.1), name.2)
  else if mark == '@' && startsName rest then
    let name := readName rest
    (.atKeyword (String.ofList name.1), name.2)
  else (.symbol mark, rest)

/-- The lexeme at the start of a text without layout there, and what follows it. -/
def next? : List Char → Option (Lexeme × List Char)
  | [] => none
  | c :: rest =>
    match Decimal.Numeral.read? (c :: rest) with
    | some (numeral, afterNumeral) => some (readMeasured numeral.value afterNumeral)
    | none =>
      if startsName (c :: rest) then some (readNamed (c :: rest)) else some (readMarked c rest)

theorem readName_length_le (text : List Char) : (readName text).2.length ≤ text.length := by
  fun_induction readName text <;> simp_all +zetaDelta <;> omega

theorem isNameChar_of_isNameStart {c : Char} (start : isNameStart c = true) :
    isNameChar c = true := by
  simp [isNameChar, start]

theorem readName_length_lt {text : List Char} (start : startsName text = true) :
    (readName text).2.length < text.length := by
  unfold readName
  split
  · next c rest =>
    have := readName_length_le rest
    simp only [List.length_cons]
    omega
  · simp
  · next c rest _ _ =>
    have shorter := readName_length_le rest
    have name : isNameChar c = true := by
      unfold startsName at start
      split at start
      · next parts => simp [isNameChar, (List.cons.inj parts).1]
      · simp at start
      · next parts => exact isNameChar_of_isNameStart ((List.cons.inj parts).1 ▸ start)
      · simp at start
    simp only [name, if_true, List.length_cons]
    omega
  · simp [startsName] at start

theorem readQuoted_length_le (quote : Char) (text : List Char) :
    (readQuoted quote text).2.length ≤ text.length := by
  fun_induction readQuoted quote text <;> simp_all +zetaDelta <;> omega

theorem afterClosing_length_le (text : List Char) : (afterClosing text).length ≤ text.length := by
  have := (List.dropWhile_sublist (l := text) (· ≠ ')')).length_le
  simp only [afterClosing, List.length_drop]
  omega

theorem readAddress_length_le (text : List Char) : (readAddress text).2.length ≤ text.length := by
  have trimmed := trimStart_length_le text
  unfold readAddress
  split
  · next rest parts =>
    have := readQuoted_length_le '"' rest
    have := afterClosing_length_le (readQuoted '"' rest).2
    rw [parts] at trimmed
    simp only [List.length_cons] at *
    omega
  · next rest parts =>
    have := readQuoted_length_le '\'' rest
    have := afterClosing_length_le (readQuoted '\'' rest).2
    rw [parts] at trimmed
    simp only [List.length_cons] at *
    omega
  · exact Nat.le_trans (afterClosing_length_le _) trimmed

theorem named_length_le (name : String) (rest : List Char) :
    (named name rest).2.length ≤ rest.length := by
  unfold named
  split
  · next body =>
    have := readAddress_length_le body
    split
    · simp only [List.length_cons]
      omega
    · simp
  · exact Nat.le_refl _

theorem readNamed_length_lt {text : List Char} (start : startsName text = true) :
    (readNamed text).2.length < text.length :=
  Nat.lt_of_le_of_lt (named_length_le _ _) (readName_length_lt start)

theorem readMeasured_length_le (value : Float) (text : List Char) :
    (readMeasured value text).2.length ≤ text.length := by
  unfold readMeasured
  split
  · simp
  · split
    · exact readName_length_le _
    · exact Nat.le_refl _

theorem readMarked_length_le (mark : Char) (rest : List Char) :
    (readMarked mark rest).2.length ≤ rest.length := by
  unfold readMarked
  split
  · exact readQuoted_length_le _ _
  · split
    · exact readName_length_le _
    · split
      · exact readName_length_le _
      · exact Nat.le_refl _

/-- A lexeme takes at least one character. -/
theorem next?_length_lt {text rest : List Char} {lexeme : Lexeme}
    (found : next? text = some (lexeme, rest)) : rest.length < text.length := by
  unfold next? at found
  split at found
  · simp at found
  · split at found
    · next numeral afterNumeral read =>
      have shorter := Decimal.Numeral.rest_length_lt_of_read? read
      have := readMeasured_length_le numeral.value afterNumeral
      rw [Option.some.inj found] at this
      exact Nat.lt_of_le_of_lt this shorter
    · split at found
      · next start =>
        have shorter := readNamed_length_lt start
        rwa [Option.some.inj found] at shorter
      · next mark tail _ _ _ =>
        have := readMarked_length_le mark tail
        rw [Option.some.inj found] at this
        exact Nat.lt_of_le_of_lt this (Nat.lt_succ_self _)

/-- The tokens of the last part of a text that has `total` characters. -/
def tokensFrom (total : Nat) (text : List Char) : List Token :=
  match _found : next? (skipLayout text) with
  | none => []
  | some (lexeme, rest) =>
    ⟨lexeme, total - (skipLayout text).length, total - rest.length⟩ :: tokensFrom total rest
termination_by text.length
decreasing_by
  exact Nat.lt_of_lt_of_le (next?_length_lt (by assumption)) (skipLayout_length_le text)

/-- The tokens of a text. -/
def tokens (text : List Char) : List Token := tokensFrom text.length text

end Portability.Lexer

namespace Portability.AuthoredValue

/-- The tokens of a value; a bare number is one token. -/
def tokens : AuthoredValue → List Token
  | number value => [⟨.number value, 0, 0⟩]
  | text content => Lexer.tokens content.toList

end Portability.AuthoredValue

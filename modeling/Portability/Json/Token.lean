import Portability.Json.Number

/-!
# Tokens of JSON text

The text is cut into marks, words, numbers and strings. A string is first read as a sequence of
units, because an escape may name half of a surrogate pair; two halves in a row make one character,
and a half alone leaves the string without a value.
-/
namespace Portability.Json

open Decimal

inductive Token where
  | openList
  | closeList
  | openObject
  | closeObject
  | comma
  | colon
  | null
  | boolean (value : Bool)
  | number (value : Option Float)
  | text (value : Option String)

/-- A part of a string: a character, or half of a surrogate pair. -/
inductive TextUnit where
  | char (c : Char)
  | surrogate (code : Nat)
deriving DecidableEq, Repr

def hexValue? (c : Char) : Option Nat :=
  if Text.isDigit c then some (Text.digitValue c)
  else if 'a' ≤ c ∧ c ≤ 'f' then some (c.toNat - 'a'.toNat + 10)
  else if 'A' ≤ c ∧ c ≤ 'F' then some (c.toNat - 'A'.toNat + 10)
  else none

/-- The unit named by four hexadecimal digits. -/
def hexUnit? (a b c d : Char) : Option TextUnit := do
  let code := ((← hexValue? a) * 16 + (← hexValue? b)) * 256 + (← hexValue? c) * 16 + (← hexValue? d)
  return if 0xD800 ≤ code ∧ code ≤ 0xDFFF then .surrogate code else .char (Char.ofNat code)

/-- The character that a one-letter escape stands for. -/
def escaped? : Char → Option Char
  | '"' => some '"'
  | '\\' => some '\\'
  | '/' => some '/'
  | 'b' => some '\x08'
  | 'f' => some '\x0c'
  | 'n' => some '\n'
  | 'r' => some '\r'
  | 't' => some '\t'
  | _ => none

/-- Reads a string after its opening quote; `done` holds the units read so far, newest first. -/
def readUnits (done : List TextUnit) : List Char → Option (List TextUnit × List Char)
  | [] => none
  | '"' :: rest => some (done.reverse, rest)
  | '\\' :: 'u' :: a :: b :: c :: d :: rest =>
    match hexUnit? a b c d with
    | some unit => readUnits (unit :: done) rest
    | none => none
  | '\\' :: letter :: rest =>
    match escaped? letter with
    | some c => readUnits (.char c :: done) rest
    | none => none
  | c :: rest => if c.toNat < 0x20 then none else readUnits (.char c :: done) rest

/-- Joins the halves of surrogate pairs; `done` holds the characters so far, newest first. -/
def joinUnits (done : List Char) : List TextUnit → Option (List Char)
  | [] => some done.reverse
  | .char c :: rest => joinUnits (c :: done) rest
  | .surrogate high :: .surrogate low :: rest =>
    if high < 0xDC00 ∧ 0xDC00 ≤ low then
      joinUnits (Char.ofNat ((high - 0xD800) * 0x400 + (low - 0xDC00) + 0x10000) :: done) rest
    else none
  | .surrogate _ :: _ => none

/-- The token at the start of a text that is not blank there, and what follows it. -/
def Token.next? : List Char → Option (Token × List Char)
  | '[' :: rest => some (openList, rest)
  | ']' :: rest => some (closeList, rest)
  | '\x7b' :: rest => some (openObject, rest)
  | '\x7d' :: rest => some (closeObject, rest)
  | ',' :: rest => some (comma, rest)
  | ':' :: rest => some (colon, rest)
  | 'n' :: 'u' :: 'l' :: 'l' :: rest => some (null, rest)
  | 't' :: 'r' :: 'u' :: 'e' :: rest => some (boolean true, rest)
  | 'f' :: 'a' :: 'l' :: 's' :: 'e' :: rest => some (boolean false, rest)
  | '"' :: rest =>
    match readUnits [] rest with
    | some (units, rest) => some (text ((joinUnits [] units).map String.ofList), rest)
    | none => none
  | other =>
    match Numeral.read? other with
    | some (numeral, rest) =>
      if Number.isWellFormed numeral then some (number (Number.value? numeral), rest) else none
    | none => none

theorem readUnits_length_lt {text rest : List Char} {done units : List TextUnit}
    (found : readUnits done text = some (units, rest)) : rest.length < text.length := by
  fun_induction readUnits done text <;> simp_all <;> omega

theorem Token.next?_length_lt {text rest : List Char} {token : Token}
    (found : next? text = some (token, rest)) : rest.length < text.length := by
  unfold next? at found
  split at found
  case h_10 body =>
    split at found
    · next units tail parts =>
      have shorter := readUnits_length_lt parts
      simp only [Option.some.injEq, Prod.mk.injEq] at found
      obtain ⟨_, rfl⟩ := found
      simp only [List.length_cons]
      omega
    · simp at found
  case h_11 =>
    split at found
    · next numeral tail parts =>
      have shorter := Numeral.rest_length_lt_of_read? parts
      split at found
      · simp only [Option.some.injEq, Prod.mk.injEq] at found
        obtain ⟨_, rfl⟩ := found
        exact shorter
      · simp at found
    · simp at found
  all_goals
    simp only [Option.some.injEq, Prod.mk.injEq] at found
    obtain ⟨_, rfl⟩ := found
    simp only [List.length_cons]
    omega

/-- Cuts a text into tokens; `done` holds the tokens so far, newest first. -/
def Token.readAll (done : List Token) : List Char → Option (List Token)
  | [] => some done.reverse
  | c :: rest =>
    if c == ' ' || c == '\t' || c == '\n' || c == '\r' then readAll done rest
    else
      match _found : next? (c :: rest) with
      | some (token, tail) => readAll (token :: done) tail
      | none => none
termination_by text => text.length
decreasing_by
  · simp
  · exact next?_length_lt (by assumption)

end Portability.Json

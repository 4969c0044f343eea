import Portability.Json.Basic
import Portability.Decimal.Text

/-!
# Writing JSON

A document is written on one line or spread over several with two spaces for each level. Strings
escape what JSON requires; whether other characters outside ASCII are escaped too is left to the
reader of the document.
-/
namespace Portability.Json

def hexDigit (n : Nat) : Char := if n < 10 then Char.ofNat (48 + n) else Char.ofNat (87 + n)

/-- The escape of one sixteen-bit unit. -/
def unitEscape (code : Nat) : List Char :=
  ['\\', 'u', hexDigit (code / 4096 % 16), hexDigit (code / 256 % 16), hexDigit (code / 16 % 16),
    hexDigit (code % 16)]

/-- The escape of a character outside the basic plane is that of its two halves. -/
def charEscape (c : Char) : List Char :=
  if c.toNat < 0x10000 then unitEscape c.toNat
  else
    let offset := c.toNat - 0x10000
    unitEscape (0xD800 + offset / 0x400) ++ unitEscape (0xDC00 + offset % 0x400)

def writtenChar (asciiOnly : Bool) (c : Char) : List Char :=
  match c with
  | '"' => ['\\', '"']
  | '\\' => ['\\', '\\']
  | '\x08' => ['\\', 'b']
  | '\x0c' => ['\\', 'f']
  | '\n' => ['\\', 'n']
  | '\r' => ['\\', 'r']
  | '\t' => ['\\', 't']
  | _ =>
    if c.toNat < 0x20 then unitEscape c.toNat
    else if asciiOnly && 0x7F < c.toNat then charEscape c
    else [c]

def quoted (asciiOnly : Bool) (text : String) : String :=
  String.ofList ('"' :: text.toList.flatMap (writtenChar asciiOnly) ++ ['"'])

mutual

/-- The document on one line. -/
def compact (asciiOnly : Bool) : Json → String
  | null => "null"
  | boolean value => if value then "true" else "false"
  | number value => Decimal.text value
  | text value => quoted asciiOnly value
  | list items => "[" ++ ",".intercalate (compactItems asciiOnly items) ++ "]"
  | object fields => "\x7b" ++ ",".intercalate (compactFields asciiOnly fields) ++ "\x7d"
  | unreadable => "null"

def compactItems (asciiOnly : Bool) : List Json → List String
  | [] => []
  | item :: rest => compact asciiOnly item :: compactItems asciiOnly rest

def compactFields (asciiOnly : Bool) : List (String × Json) → List String
  | [] => []
  | (name, value) :: rest =>
    (quoted asciiOnly name ++ ":" ++ compact asciiOnly value) :: compactFields asciiOnly rest

end

def newline (level : Nat) : String := "\n" ++ String.ofList (List.replicate (2 * level) ' ')

/-- Entries between two brackets, one on each line; two brackets alone when there are none. -/
def bracketed (opening closing : String) (level : Nat) (entries : List String) : String :=
  if entries.isEmpty then opening ++ closing
  else
    opening ++ newline (level + 1) ++ ("," ++ newline (level + 1)).intercalate entries ++
      newline level ++ closing

mutual

/-- The document over several lines, itself at the given level. -/
def prettyAt (level : Nat) : Json → String
  | list items => bracketed "[" "]" level (prettyItems (level + 1) items)
  | object fields => bracketed "\x7b" "\x7d" level (prettyFields (level + 1) fields)
  | other => compact false other

def prettyItems (level : Nat) : List Json → List String
  | [] => []
  | item :: rest => prettyAt level item :: prettyItems level rest

def prettyFields (level : Nat) : List (String × Json) → List String
  | [] => []
  | (name, value) :: rest =>
    (quoted false name ++ ": " ++ prettyAt level value) :: prettyFields level rest

end

def pretty (document : Json) : String := prettyAt 0 document

end Portability.Json

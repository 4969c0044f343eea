import Portability.Toml.Scalar
import Portability.Toml.Table

/-!
# Reading TOML text

A document is a sequence of lines: a header of a table, a header of the next table of a list, or a
key with its value. Lists may spread over several lines and end in a comma; a table written as a
value may do neither. Values nest 79 deep and keys have 79 names at most. Every step takes at least
one token, which is why reading ends.
-/
namespace Portability.Toml

/-- What is left of some tokens after at least one was taken. -/
abbrev Later (tokens : List Token) := { rest : List Token // rest.length < tokens.length }

/-- What is left of more tokens. -/
def Later.widen {tokens more : List Token} (shorter : tokens.length ≤ more.length)
    (rest : Later tokens) : Later more :=
  ⟨rest.1, Nat.lt_of_lt_of_le rest.2 shorter⟩

/-- The parts of a word in a dotted key: names and the dots between them. -/
def wordParts (word : List Char) : List (Option String) :=
  ((((String.ofList word).splitOn ".").map some).intersperse none).filter (· ≠ some "")

def isKeyChar (c : Char) : Bool := c.isAlphanum || c == '_' || c == '-' || c == '.'

/-- The names of a key that is made of these parts, which must be names between dots. -/
def keyOfParts? : List (Option String) → Option (List String)
  | [some name] => some [name]
  | some name :: none :: rest => (keyOfParts? rest).map (name :: ·)
  | _ => none

/-- The parts of the key at the start of the tokens, and what follows it. -/
def readParts : List Token → Option (List (Option String)) × List Token
  | .word word :: rest =>
    let tail := readParts rest
    (if word.all isKeyChar then tail.1.map (wordParts word ++ ·) else none, tail.2)
  | .text name :: rest =>
    let tail := readParts rest
    (tail.1.map (some name :: ·), tail.2)
  | tokens => (some [], tokens)

theorem readParts_length_le (tokens : List Token) :
    (readParts tokens).2.length ≤ tokens.length := by
  fun_induction readParts tokens <;> simp_all +zetaDelta <;> omega

/-- How deep values may nest, and how many names a key may have. -/
def deepest : Nat := 79

/-- The key at the start of the tokens, and what follows it. -/
def readKey? (tokens : List Token) : Option (List String × List Token) := do
  let key ← keyOfParts? (← (readParts tokens).1)
  if key.length ≤ deepest then return (key, (readParts tokens).2) else none

theorem readKey?_length_le {tokens rest : List Token} {key : List String}
    (found : readKey? tokens = some (key, rest)) : rest.length ≤ tokens.length := by
  simp only [readKey?, Option.bind_eq_bind, Option.pure_def, Option.bind_eq_some_iff] at found
  obtain ⟨_, _, _, _, found⟩ := found
  split at found
  · obtain ⟨-, rfl⟩ := Prod.mk.inj (Option.some.inj found)
    exact readParts_length_le tokens
  · contradiction

mutual

/-- Reads a value in which lists and tables nest at most `room` deep. -/
def readValue? (room : Nat) (tokens : List Token) : Option (Json × Later tokens) :=
  match tokens, room with
  | .word word :: rest, _ => (ofWord? word).map (·, ⟨rest, Nat.lt_succ_self _⟩)
  | .text content :: rest, _ | .longText content :: rest, _ =>
    some (.text content, ⟨rest, Nat.lt_succ_self _⟩)
  | .openList _ :: rest, room + 1 =>
    (readItems? room [] rest).map fun (json, left) => (json, left.widen (Nat.le_succ _))
  -- A table without pairs is the only one that needs no key.
  | .openTable :: .closeTable :: rest, _ + 1 =>
    some (.object [], ⟨rest, Nat.lt_succ_of_lt (Nat.lt_succ_self _)⟩)
  | .openTable :: rest, room + 1 =>
    (readPairs? room [] rest).map fun (json, left) => (json, left.widen (Nat.le_succ _))
  | _, _ => none
termination_by (tokens.length, 0)

/-- Reads the rest of a list whose items so far are `done`, newest first. -/
def readItems? (room : Nat) (done : List Json) (tokens : List Token) :
    Option (Json × Later tokens) :=
  match tokens with
  | .lineEnd :: rest =>
    (readItems? room done rest).map fun (json, left) => (json, left.widen (Nat.le_succ _))
  | .closeList _ :: rest => some (.list done.reverse, ⟨rest, Nat.lt_succ_self _⟩)
  | tokens => do
    let (item, ⟨rest, shorter⟩) ← readValue? room tokens
    let (json, left) ← readItemEnd? room (item :: done) rest
    return (json, left.widen (Nat.le_of_lt shorter))
termination_by (tokens.length, 1)

/-- Reads the rest of a list after an item. -/
def readItemEnd? (room : Nat) (done : List Json) (tokens : List Token) :
    Option (Json × Later tokens) :=
  match tokens with
  | .lineEnd :: rest =>
    (readItemEnd? room done rest).map fun (json, left) => (json, left.widen (Nat.le_succ _))
  | .closeList _ :: rest => some (.list done.reverse, ⟨rest, Nat.lt_succ_self _⟩)
  | .comma :: rest =>
    (readItems? room done rest).map fun (json, left) => (json, left.widen (Nat.le_succ _))
  | _ => none
termination_by (tokens.length, 1)

/-- Reads the rest of a table that is written as a value, from a key on. -/
def readPairs? (room : Nat) (entries : Entries) (tokens : List Token) :
    Option (Json × Later tokens) :=
  match found : readKey? tokens with
  | some (key, .equals :: rest) => do
    have keyed : rest.length < tokens.length := readKey?_length_le found
    let (value, ⟨left, shorter⟩) ← readValue? room rest
    let extended ← assign? value key entries
    match remaining : left with
    | .closeTable :: final =>
      return (.object (entriesToJson extended),
        ⟨final, by rw [remaining, List.length_cons] at shorter; omega⟩)
    | .comma :: further =>
      have fewer : further.length < tokens.length := by
        rw [remaining, List.length_cons] at shorter
        omega
      let (json, left) ← readPairs? room extended further
      return (json, left.widen (Nat.le_of_lt fewer))
    | _ => none
  | _ => none
termination_by (tokens.length, 1)

end

/-- The tables so far, and the path of the one that the next lines belong to. -/
structure Document where
  entries : Entries
  path : List String

/-- Opens the table with this name, by `open?` where it stands. -/
def Document.enter? (document : Document) (key : List String)
    (open? : String → Entries → Option Entries) : Option Document := do
  let entries ← changeAt? (open? (← key.getLast?)) key.dropLast document.entries
  return ⟨entries, key⟩

/-- The rest of the tokens after the end of a line. -/
def afterLine? : List Token → Option (List Token)
  | [] => some []
  | .lineEnd :: rest => some rest
  | _ => none

/-- Reads one line that is not empty. -/
def readLine? (document : Document) (tokens : List Token) : Option (Document × List Token) :=
  match tokens with
  | .openList true :: .openList _ :: rest =>
    match readKey? rest with
    | some (key, .closeList true :: .closeList _ :: rest) => do
      return (← document.enter? key openNext?, ← afterLine? rest)
    | _ => none
  | .openList false :: rest =>
    match readKey? rest with
    | some (key, .closeList _ :: rest) => do
      return (← document.enter? key openTable?, ← afterLine? rest)
    | _ => none
  | tokens =>
    match readKey? tokens with
    | some (key, .equals :: rest) => do
      let (value, ⟨rest, _⟩) ← readValue? deepest rest
      let entries ← changeAt? (assign? value key) document.path document.entries
      return ({ document with entries }, ← afterLine? rest)
    | _ => none

/-- Reads at most `lines` lines. -/
def readLines? : Nat → Document → List Token → Option Document
  | _, document, [] => some document
  | 0, _, _ => none
  | lines + 1, document, .lineEnd :: rest => readLines? lines document rest
  | lines + 1, document, tokens =>
    match readLine? document tokens with
    | some (document, rest) => readLines? lines document rest
    | none => none

/-- The document that a text writes, as an object. Each line takes at least one token. -/
def ofText? (text : String) : Option Json := do
  let tokens ← tokens? text
  let document ← readLines? tokens.length ⟨[], []⟩ tokens
  return .object (entriesToJson document.entries)

end Portability.Toml

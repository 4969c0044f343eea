import Portability.Text.Case

/-!
# Lower-casing

Terms are stored and looked up under their lower-case form. Lower-casing follows Unicode without
regard to language: İ becomes an i and a combining dot, and a capital sigma at the end of a word
becomes a final sigma.
-/
namespace Portability.Text

/-- The lower-case form of one character, where it does not depend on its neighbours. -/
def lowerChar (c : Char) : Char :=
  if c.toNat < 0x80 then c.toLower
  else match lowercaseRuns.findSome? (·.image? c.toNat) with
    | some n => Char.ofNat n
    | none => c

/-- Whether the first character that matters for case, going on from here, is a cased letter. -/
def casedAhead (text : List Char) : Bool :=
  match text.dropWhile isCaseIgnorable with
  | c :: _ => isCased c
  | [] => false

/-- Lower-cases `text`; `before` is what precedes it, nearest character first. -/
def lowerChars (before : List Char) : List Char → List Char
  | [] => []
  | c :: rest =>
    -- A capital sigma is final where a cased letter precedes it and none follows.
    let lowered :=
      if c == 'Σ' then [if casedAhead before && !casedAhead rest then 'ς' else 'σ']
      else if c == 'İ' then ['i', '\u0307']
      else [lowerChar c]
    lowered ++ lowerChars (c :: before) rest

def lowerCase (text : String) : String := String.ofList (lowerChars [] text.toList)

end Portability.Text

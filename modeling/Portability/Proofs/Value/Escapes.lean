import Portability.Proofs.Value.Numbers

/-!
# Escaped texts

A backslash takes the character behind it as it is, so every text has a written form that is read
back as that text. Between quotes only the quote and the backslash need one, and as a name a text
may have one before each of its characters. A written form shows itself where it ends; what stands
behind it is read as it would be read alone, only further on.
-/
namespace Portability.Lexer

open Text Decimal

/-- The content with a backslash before each character that needs one. -/
def escaped (needsEscape : Char → Bool) (content : List Char) : List Char :=
  content.flatMap fun c => if needsEscape c then ['\\', c] else [c]

/-- A mark that texts stand between. -/
inductive Quote where
  | single
  | double
deriving DecidableEq, Repr

namespace Quote

def mark : Quote → Char
  | single => '\''
  | double => '"'

/-- Between quotes the quote would end the text, and a backslash would take the next character. -/
def needsEscape (quote : Quote) (c : Char) : Bool := c == quote.mark || c == '\\'

/-- A text in quotes. -/
def literal (quote : Quote) (content : String) : List Char :=
  quote.mark :: (escaped quote.needsEscape content.toList ++ [quote.mark])

/-- An address with its text in quotes. -/
def address (quote : Quote) (content : String) : List Char :=
  "url(".toList ++ quote.literal content ++ [')']

end Quote

/-- A name with a backslash before each of its characters. -/
def escapedName (name : String) : List Char := escaped (fun _ => true) name.toList

section Escaped

variable {needsEscape : Char → Bool} {c : Char}

theorem escaped_cons_of_needs (needed : needsEscape c = true) (content : List Char) :
    escaped needsEscape (c :: content) = '\\' :: c :: escaped needsEscape content := by
  simp [escaped, needed]

theorem escaped_cons_of_plain (plain : needsEscape c = false) (content : List Char) :
    escaped needsEscape (c :: content) = c :: escaped needsEscape content := by
  simp [escaped, plain]

theorem readQuoted_escape (quote c : Char) (rest : List Char) :
    readQuoted quote ('\\' :: c :: rest) =
      (c :: (readQuoted quote rest).1, (readQuoted quote rest).2) := rfl

theorem readName_escape (c : Char) (rest : List Char) :
    readName ('\\' :: c :: rest) = (c :: (readName rest).1, (readName rest).2) := rfl

/-- A quoted text goes on to the first quote that is not escaped. -/
theorem readQuoted_escaped {quote : Char} (no_escape : quote ≠ '\\')
    (quote_needs : needsEscape quote = true) (escape_needs : needsEscape '\\' = true)
    (content rest : List Char) :
    readQuoted quote (escaped needsEscape content ++ quote :: rest) = (content, rest) := by
  induction content with
  | nil => exact readQuoted_quote no_escape rest
  | cons c content ih =>
    cases needed : needsEscape c with
    | true =>
      rw [escaped_cons_of_needs needed, List.cons_append, List.cons_append, readQuoted_escape, ih]
    | false =>
      -- Both characters that mean something between quotes need an escape, so this is neither.
      have plain : c ≠ '\\' := by
        rintro rfl
        simp [escape_needs] at needed
      have inside : c ≠ quote := by
        rintro rfl
        simp [quote_needs] at needed
      rw [escaped_cons_of_plain needed, List.cons_append, readQuoted_cons plain inside, ih]

theorem readName_escaped (name : List Char) :
    readName (escaped (fun _ => true) name) = (name, []) := by
  induction name with
  | nil => rfl
  | cons c name ih => rw [escaped_cons_of_needs rfl, readName_escape, ih]

end Escaped

/-- A token at the start of a text is followed by the tokens of the rest, further on. -/
theorem tokens_append_of_found {word rest : List Char} {lexeme : Lexeme}
    (visible : skipLayout (word ++ rest) = word ++ rest)
    (found : next? (word ++ rest) = some (lexeme, rest)) :
    tokens (word ++ rest) =
      ⟨lexeme, 0, word.length⟩ :: (tokens rest).map (Token.shift word.length) := by
  rw [← visible] at found
  -- Where a text stands does not change its tokens, only their places.
  have later : tokensFrom (word ++ rest).length rest =
      (tokens rest).map (Token.shift word.length) := by
    rw [List.length_append, Nat.add_comm, tokensFrom_add (Nat.le_refl _), tokens]
  rw [tokens, tokensFrom_of_found found, later, visible]
  simp

namespace Quote

variable (quote : Quote) (content : String) (rest : List Char)

theorem literal_append :
    quote.literal content ++ rest =
      quote.mark :: (escaped quote.needsEscape content.toList ++ quote.mark :: rest) := by
  simp [literal]

theorem readQuoted_body :
    readQuoted quote.mark (escaped quote.needsEscape content.toList ++ quote.mark :: rest) =
      (content.toList, rest) := by
  apply readQuoted_escaped
  · cases quote <;> decide
  · simp [needsEscape]
  · simp [needsEscape]

theorem next?_literal : next? (quote.literal content ++ rest) = some (.text content, rest) := by
  have no_numeral := Numeral.read?_eq_none_of_not_mem (c := quote.mark) (by cases quote <;> decide)
  have no_name : ∀ tail, startsName (quote.mark :: tail) = false := by
    intro tail
    cases quote <;> rfl
  have marked : ∀ tail, readMarked quote.mark tail =
      (.text (String.ofList (readQuoted quote.mark tail).1), (readQuoted quote.mark tail).2) := by
    intro tail
    cases quote <;> rfl
  rw [literal_append, next?_of_mark (no_numeral _) (no_name _), marked, readQuoted_body,
    String.ofList_toList]

theorem skipLayout_literal :
    skipLayout (quote.literal content ++ rest) = quote.literal content ++ rest := by
  rw [literal_append]
  apply skipLayout_of_visible
  · cases quote <;> decide
  · cases quote <;> rfl

/-- An address ends at the parenthesis behind its quotes, whatever stands between them. -/
theorem readAddress_literal :
    readAddress (quote.literal content ++ ')' :: rest) = (content.toList, rest) := by
  have visible : isBlank quote.mark = false := by cases quote <;> decide
  have quoted : ∀ tail, readVisibleAddress (quote.mark :: tail) =
      ((readQuoted quote.mark tail).1, afterClosing (readQuoted quote.mark tail).2) := by
    intro tail
    cases quote <;> rfl
  rw [readAddress_eq, literal_append, trimStart_of_not_blank visible, quoted, readQuoted_body]
  rfl

theorem address_append :
    quote.address content ++ rest =
      'u' :: 'r' :: 'l' :: '(' :: (quote.literal content ++ ')' :: rest) := by
  change "url(".toList ++ quote.literal content ++ [')'] ++ rest = _
  simp

theorem next?_address : next? (quote.address content ++ rest) = some (.url content, rest) := by
  have named_url : ∀ body, readNamed ('u' :: 'r' :: 'l' :: '(' :: body) =
      (.url (String.ofList (readAddress body).1), (readAddress body).2) := by
    intro body
    have url : readName ('u' :: 'r' :: 'l' :: '(' :: body) = (['u', 'r', 'l'], '(' :: body) := by
      have stops : readName ('(' :: body) = ([], '(' :: body) :=
        readName_of_not_isNameChar (by decide) body
      rw [readName_cons (by decide) (by decide), readName_cons (by decide) (by decide),
        readName_cons (by decide) (by decide), stops]
    have same : sameIgnoringCase (String.ofList ['u', 'r', 'l']) "url" = true := by decide
    simp [readNamed, url, named, same]
  rw [address_append, next?_of_name (Numeral.read?_eq_none_of_not_mem (by decide) _) rfl,
    named_url, readAddress_literal, String.ofList_toList]

theorem skipLayout_address :
    skipLayout (quote.address content ++ rest) = quote.address content ++ rest := by
  rw [address_append]
  exact skipLayout_of_visible (by decide) rfl

end Quote

/-- As a name every text can be written, except the empty one. -/
theorem tokens_escapedName (name : String) :
    tokens (escapedName name) = [⟨.ident name, 0, (escapedName name).length⟩] ↔ name ≠ "" := by
  cases parts : name.toList with
  | nil =>
    have empty : name = "" := String.toList_inj.mp parts
    subst empty
    simp [escapedName, escaped, tokens]
  | cons c others =>
    have written : escapedName name = '\\' :: c :: escaped (fun _ => true) others := by
      rw [escapedName, parts, escaped_cons_of_needs rfl]
    have read : readNamed (escapedName name) = (.ident name, []) := by
      rw [readNamed, escapedName, readName_escaped, String.ofList_toList]
      rfl
    refine iff_of_true (tokens_eq_singleton ?_ ?_) ?_
    · rw [written]
      exact skipLayout_of_visible (by decide) rfl
    · rw [written] at read ⊢
      rw [next?_of_name (Numeral.read?_eq_none_of_not_mem (by decide) _) rfl, read]
    · rintro rfl
      simp at parts

/--
Escaped texts are read back. A text in quotes, by itself or as an address, is one token with its
content, and what stands behind it is read as it would be read alone, as far on in the text as the
written form is long. As a name every text but the empty one is read back as well.
-/
theorem escaped_read_back (quote : Quote) (content : String) (rest : List Char) :
    tokens (quote.literal content ++ rest) =
        ⟨.text content, 0, (quote.literal content).length⟩ ::
          (tokens rest).map (Token.shift (quote.literal content).length) ∧
      tokens (quote.address content ++ rest) =
        ⟨.url content, 0, (quote.address content).length⟩ ::
          (tokens rest).map (Token.shift (quote.address content).length) ∧
      (tokens (escapedName content) =
        [⟨.ident content, 0, (escapedName content).length⟩] ↔ content ≠ "") := by
  refine ⟨?_, ?_, tokens_escapedName content⟩
  · apply tokens_append_of_found
    · exact quote.skipLayout_literal content rest
    · exact quote.next?_literal content rest
  · apply tokens_append_of_found
    · exact quote.skipLayout_address content rest
    · exact quote.next?_address content rest

/-- Neither a parenthesis nor the start of a comment has a meaning between quotes. -/
example :
    tokens (Quote.single.address "'/*)" ++ "1px".toList) =
      [⟨.url "'/*)", 0, 12⟩, ⟨.dimension 1 "px", 12, 15⟩] := by
  decide +kernel

end Portability.Lexer

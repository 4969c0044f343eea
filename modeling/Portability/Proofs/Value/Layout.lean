import Portability.Proofs.Value.Locality
import Portability.Value.Component

/-!
# Layout between tokens

White space and comments may be inserted between any two tokens of a value. The tokens before the
insertion are read where they were, because reading them is local; the insertion is passed over; and
what comes after it is read as before, further on in the text. So the components of a value do not
depend on its layout.
-/
namespace Portability

/-- The token in a text that has `offset` more characters before it. -/
def Token.shift (offset : Nat) (token : Token) : Token :=
  { token with start := token.start + offset, stop := token.stop + offset }

@[simp] theorem Token.shift_lexeme (offset : Nat) (token : Token) :
    (token.shift offset).lexeme = token.lexeme := rfl

namespace Lexer

open Text

/-- White space of ASCII and whole comments, one after another. -/
inductive IsFiller : List Char → Prop
  | nil : IsFiller []
  | blank {c : Char} {rest : List Char} (blank : isBlank c = true) (ascii : c.toNat < 0x80)
      (more : IsFiller rest) : IsFiller (c :: rest)
  | comment {body rest : List Char} (still_open : ¬['*', '/'] <:+: body) (more : IsFiller rest) :
      IsFiller ('/' :: '*' :: (body ++ '*' :: '/' :: rest))

/-- A comment ends at the first end of a comment in it. -/
theorem skipComment_append {body : List Char} (still_open : ¬['*', '/'] <:+: body)
    (rest : List Char) : skipComment (body ++ '*' :: '/' :: rest) = rest := by
  induction body with
  | nil => rfl
  | cons c body ih =>
    have here : isPair '*' '/' c (body ++ '*' :: '/' :: rest) = false := by
      cases body with
      | nil => simp [isPair]
      | cons next body =>
        rw [Bool.eq_false_iff]
        intro pair
        obtain ⟨rfl, rfl⟩ : c = '*' ∧ next = '/' := by simpa [isPair] using pair
        exact still_open ⟨[], body, rfl⟩
    rw [List.cons_append, skipComment_of_open here]
    exact ih fun inside => still_open (inside.trans (List.suffix_cons c body).isInfix)

theorem IsFiller.skipLayout_append {filler : List Char} (filled : IsFiller filler)
    (rest : List Char) : skipLayout (filler ++ rest) = skipLayout rest := by
  induction filled with
  | nil => rfl
  | blank blank _ _ ih => rw [List.cons_append, skipLayout_of_isBlank blank, ih]
  | @comment body more still_open _ ih =>
    simp only [List.cons_append, List.append_assoc]
    rw [skipLayout_comment, skipComment_append still_open, ih]

theorem IsFiller.head_beginsLayout {filler : List Char} (filled : IsFiller filler)
    (present : filler ≠ []) : filler.head?.any beginsLayout = true := by
  cases filled with
  | nil => contradiction
  | blank blank ascii _ => simp [beginsLayout, blank, ascii]
  | comment => rfl

/-- Reading these tokens from the start of a text leaves `rest`. -/
inductive Reads (total : Nat) : List Char → List Token → List Char → Prop
  | nil (text : List Char) : Reads total text [] text
  | cons {text after rest : List Char} {lexeme : Lexeme} {tokens : List Token}
      (found : next? (skipLayout text) = some (lexeme, after)) (later : Reads total after tokens rest) :
      Reads total text
        (⟨lexeme, total - (skipLayout text).length, total - after.length⟩ :: tokens) rest

theorem tokensFrom_of_found {total : Nat} {text after : List Char} {lexeme : Lexeme}
    (found : next? (skipLayout text) = some (lexeme, after)) :
    tokensFrom total text =
      ⟨lexeme, total - (skipLayout text).length, total - after.length⟩ ::
        tokensFrom total after := by
  rw [tokensFrom]
  split
  · simp_all
  · simp_all

theorem tokensFrom_of_none {total : Nat} {text : List Char}
    (absent : next? (skipLayout text) = none) : tokensFrom total text = [] := by
  rw [tokensFrom]
  split
  · rfl
  · simp_all

namespace Reads

variable {total : Nat} {text rest : List Char} {tokens : List Token}

theorem length_le (reads : Reads total text tokens rest) : rest.length ≤ text.length := by
  induction reads with
  | nil => exact Nat.le_refl _
  | @cons text _ _ _ _ found _ ih =>
    have shorter := next?_length_lt found
    have layout := skipLayout_length_le text
    omega

theorem tokensFrom_eq (reads : Reads total text tokens rest) :
    tokensFrom total text = tokens ++ tokensFrom total rest := by
  induction reads with
  | nil => rfl
  | cons found _ ih => rw [tokensFrom_of_found found, ih, List.cons_append]

/-- The last token stops where the rest begins. -/
theorem stop_eq {before : List Token} {last : Token}
    (reads : Reads total text (before ++ [last]) rest) : last.stop = total - rest.length := by
  induction before generalizing text with
  | nil =>
    cases reads with
    | cons _ later =>
      cases later
      rfl
  | cons _ before ih =>
    cases reads with
    | cons _ later => exact ih later

/-- What is left after a token is what follows the position where the token stops. -/
theorem length_drop_stop {before : List Token} {last : Token}
    (reads : Reads text.length text (before ++ [last]) rest) :
    (text.drop last.stop).length = rest.length := by
  have rest_le := reads.length_le
  rw [List.length_drop, reads.stop_eq]
  omega

/-- What tokens are read, and where, does not depend on an insertion behind them. -/
theorem widens {gap : Gap} {wider : List Char} (reads : Reads total text tokens rest)
    (widens : gap.Widens text wider) (outside : gap.rest.length ≤ rest.length) :
    ∃ widerRest, Reads (total + gap.filler.length) wider tokens widerRest ∧
      gap.Widens rest widerRest := by
  induction reads generalizing wider with
  | nil => exact ⟨wider, .nil wider, widens⟩
  | @cons text after rest lexeme tokens found later ih =>
    -- The later tokens leave at least the rest, so this one ends before the insertion.
    have bound := Nat.le_trans outside later.length_le
    have visible := widens_skipLayout widens (Nat.lt_of_le_of_lt bound (next?_length_lt found))
    obtain ⟨widerAfter, wider_found, left⟩ := next?_eq_some_of_widens visible found bound
    obtain ⟨widerRest, wider_later, behind⟩ := ih left outside
    refine ⟨widerRest, ?_, behind⟩
    have wider_reads := Reads.cons wider_found wider_later
    rwa [visible.length_eq, left.length_eq, Nat.add_sub_add_right, Nat.add_sub_add_right]
      at wider_reads

end Reads

theorem exists_reads_of_tokensFrom_eq {total : Nat} {text : List Char} {before after : List Token}
    (read : tokensFrom total text = before ++ after) :
    ∃ rest, Reads total text before rest ∧ tokensFrom total rest = after := by
  induction before generalizing text with
  | nil => exact ⟨text, .nil text, read⟩
  | cons token before ih =>
    cases found : next? (skipLayout text) with
    | none =>
      rw [tokensFrom_of_none found] at read
      cases read
    | some pair =>
      rw [tokensFrom_of_found found, List.cons_append] at read
      obtain ⟨rfl, read_later⟩ := List.cons.inj read
      obtain ⟨rest, reads, later⟩ := ih read_later
      exact ⟨rest, .cons found reads, later⟩

theorem tokensFrom_add {total : Nat} {text : List Char} (short : text.length ≤ total)
    (offset : Nat) :
    tokensFrom (total + offset) text = (tokensFrom total text).map (Token.shift offset) := by
  induction text using tokensFrom.induct with
  | case1 text absent => rw [tokensFrom_of_none absent, tokensFrom_of_none absent, List.map_nil]
  | case2 text lexeme after found ih =>
    have layout := skipLayout_length_le text
    have shorter := next?_length_lt found
    rw [tokensFrom_of_found found, tokensFrom_of_found found, ih (by omega), List.map_cons,
      Token.shift, Nat.sub_add_comm (by omega), Nat.sub_add_comm (by omega)]

@[simp] theorem tokensFrom_nil (total : Nat) : tokensFrom total [] = [] :=
  tokensFrom_of_none (by rw [skipLayout.eq_def]; rfl)

theorem IsFiller.tokensFrom_append {filler : List Char} (filled : IsFiller filler) (total : Nat)
    (rest : List Char) : tokensFrom total (filler ++ rest) = tokensFrom total rest := by
  have same := filled.skipLayout_append rest
  cases found : next? (skipLayout rest) with
  | none => rw [tokensFrom_of_none found, tokensFrom_of_none (by rw [same, found])]
  | some pair => rw [tokensFrom_of_found found, tokensFrom_of_found (by rw [same, found]), same]

/-- The text with the filler inserted at a position. -/
def insertAt (position : Nat) (filler text : List Char) : List Char :=
  text.take position ++ (filler ++ text.drop position)

theorem widens_insertAt {gap : Gap} {position : Nat} {text : List Char}
    (rest : text.drop position = gap.rest) :
    gap.Widens text (insertAt position gap.filler text) :=
  ⟨text.take position, by rw [← rest, List.take_append_drop], by rw [← rest, insertAt]⟩

/-- An insertion between two tokens shifts those behind it, and changes nothing else. -/
theorem tokens_insertAt {text filler : List Char} {before after : List Token} {first second : Token}
    (read : tokens text = before ++ first :: second :: after) (filled : IsFiller filler) :
    tokens (insertAt first.stop filler text) =
      before ++ first :: (second :: after).map (Token.shift filler.length) := by
  by_cases empty : filler = []
  · subst empty
    have unshifted : (second :: after).map (Token.shift 0) = second :: after := List.map_id _
    rw [insertAt, List.nil_append, List.take_append_drop, List.length_nil, unshifted, read]
  have parts : tokensFrom text.length text = (before ++ [first]) ++ second :: after := by
    rw [List.append_assoc]
    exact read
  obtain ⟨rest, reads, later⟩ := exists_reads_of_tokensFrom_eq parts
  have rest_length := reads.length_drop_stop
  have more : text.drop first.stop ≠ [] := by
    intro none
    rw [none, List.length_nil] at rest_length
    rw [List.length_eq_zero_iff.mp rest_length.symm, tokensFrom_nil] at later
    cases later
  -- The insertion is a gap before the rest, and the tokens up to it are read as they were.
  let gap : Gap := ⟨filler, text.drop first.stop, filled.head_beginsLayout empty, more⟩
  have widens : gap.Widens text (insertAt first.stop filler text) := widens_insertAt rfl
  obtain ⟨widerRest, wider_reads, behind⟩ := reads.widens widens (Nat.le_of_eq rest_length)
  obtain ⟨rest_eq, rfl⟩ := behind.eq_of_length_eq rest_length.symm
  calc tokens (insertAt first.stop filler text)
    _ = tokensFrom (text.length + filler.length) (insertAt first.stop filler text) := by
      rw [tokens, widens.length_eq]
    _ = (before ++ [first]) ++ tokensFrom (text.length + filler.length) (filler ++ rest) := by
      rw [rest_eq]
      exact wider_reads.tokensFrom_eq
    _ = (before ++ [first]) ++ (second :: after).map (Token.shift filler.length) := by
      rw [filled.tokensFrom_append, tokensFrom_add reads.length_le, later]
    _ = before ++ first :: (second :: after).map (Token.shift filler.length) := by
      rw [List.append_assoc, List.singleton_append]

end Lexer

namespace AuthoredValue

open Lexer

/-- The value with white space and comments inserted at a position of its text. -/
def insertLayout (position : Nat) (filler : List Char) (content : String) : AuthoredValue :=
  text (String.ofList (insertAt position filler content.toList))

/--
White space and comments between two tokens of a text shift the tokens behind them, and change
nothing else; so the value has the same components.
-/
theorem tokens_insertLayout {content : String} {filler : List Char} {before after : List Token}
    {first second : Token} (read : (text content).tokens = before ++ first :: second :: after)
    (filled : IsFiller filler) :
    (insertLayout first.stop filler content).tokens =
        before ++ first :: (second :: after).map (Token.shift filler.length) ∧
      Component.ofValue (some (insertLayout first.stop filler content)) =
        Component.ofValue (some (text content)) := by
  have inserted : (insertLayout first.stop filler content).tokens =
      before ++ first :: (second :: after).map (Token.shift filler.length) := by
    rw [insertLayout, AuthoredValue.tokens, String.toList_ofList]
    exact tokens_insertAt read filled
  refine ⟨inserted, ?_⟩
  have same_lexemes : (insertLayout first.stop filler content).tokens.map Token.lexeme =
      (text content).tokens.map Token.lexeme := by
    rw [inserted, read]
    simp [Function.comp_def]
  rw [Component.ofValue, Component.ofValue, same_lexemes]

/-- A slash does not open a comment together with the layout behind it. -/
theorem tokens_insertLayout_slash :
    (insertLayout 3 ['/', '*', ' ', '*', '*', '/', '\t'] "#c/-x").tokens =
        [⟨.hash "c", 0, 2⟩, ⟨.symbol '/', 2, 3⟩, ⟨.ident "-x", 10, 12⟩] ∧
      Component.ofValue (some (insertLayout 3 ['/', '*', ' ', '*', '*', '/', '\t'] "#c/-x")) =
        Component.ofValue (some (text "#c/-x")) := by
  have filled : IsFiller ['/', '*', ' ', '*', '*', '/', '\t'] :=
    .comment (show ¬['*', '/'] <:+: [' ', '*'] by decide) (.blank (by decide) (by decide) .nil)
  have read : (text "#c/-x").tokens =
      [⟨.hash "c", 0, 2⟩] ++ ⟨.symbol '/', 2, 3⟩ :: ⟨.ident "-x", 3, 5⟩ :: [] := by
    decide +kernel
  have inserted := tokens_insertLayout read filled
  exact inserted

end AuthoredValue

end Portability

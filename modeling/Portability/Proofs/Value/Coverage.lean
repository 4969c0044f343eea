import Portability.Proofs.Value.Layout

/-!
# Tokens and layout cover a text

A text is layout, the characters of a token, layout, the characters of the next token, and so on, up
to layout at the end. Layout is blanks and comments; only the last comment may lack its end, because
it reaches to the end of the text. Each reader leaves an end of the text it was given, so a token is
told from what surrounds it by where it starts and where it stops. A token has at least one
character, of which the first is visible, and so reading comes to the end of every text.
-/
namespace Portability

namespace Lexer

open Text

/-! What follows a lexeme is an end of the text that it was read from. -/

theorem readName_suffix (text : List Char) : (readName text).2 <:+ text := by
  fun_induction readName text with
  | case1 c rest _ ih => exact ih.trans ((List.suffix_cons c rest).trans (List.suffix_cons _ _))
  | case2 => exact List.nil_suffix
  | case3 c rest _ _ _ _ ih => exact ih.trans (List.suffix_cons c rest)
  | case4 => exact List.suffix_rfl
  | case5 => exact List.suffix_rfl

theorem readQuoted_suffix (quote : Char) (text : List Char) :
    (readQuoted quote text).2 <:+ text := by
  fun_induction readQuoted quote text with
  | case1 c rest _ ih => exact ih.trans ((List.suffix_cons c rest).trans (List.suffix_cons _ _))
  | case2 => exact List.nil_suffix
  | case3 rest => exact List.suffix_cons quote rest
  | case4 c rest _ _ _ _ ih => exact ih.trans (List.suffix_cons c rest)
  | case5 => exact List.suffix_rfl

theorem afterClosing_suffix (text : List Char) : afterClosing text <:+ text :=
  (List.drop_suffix 1 _).trans (List.dropWhile_suffix _)

theorem readVisibleAddress_suffix (text : List Char) : (readVisibleAddress text).2 <:+ text := by
  unfold readVisibleAddress
  split
  next rest =>
    exact (afterClosing_suffix _).trans ((readQuoted_suffix '"' rest).trans (List.suffix_cons _ _))
  next rest =>
    exact (afterClosing_suffix _).trans ((readQuoted_suffix '\'' rest).trans (List.suffix_cons _ _))
  · exact afterClosing_suffix _

theorem readAddress_suffix (text : List Char) : (readAddress text).2 <:+ text :=
  (readVisibleAddress_suffix (trimStart text)).trans (List.dropWhile_suffix isBlank)

theorem named_suffix (name : String) (rest : List Char) : (named name rest).2 <:+ rest := by
  unfold named
  split
  next body =>
    split
    · exact (readAddress_suffix body).trans (List.suffix_cons _ _)
    · exact List.suffix_cons _ _
  · exact List.suffix_rfl

theorem readMeasured_suffix (value : Float) (text : List Char) :
    (readMeasured value text).2 <:+ text := by
  unfold readMeasured
  split
  · exact List.suffix_cons _ _
  · split
    · exact readName_suffix _
    · exact List.suffix_rfl

theorem readMarked_suffix (mark : Char) (rest : List Char) : (readMarked mark rest).2 <:+ rest := by
  unfold readMarked
  split
  · exact readQuoted_suffix mark rest
  · split
    · exact readName_suffix rest
    · split
      · exact readName_suffix rest
      · exact List.suffix_rfl

/-- All that can be read at the start of a text: a number, a name, or what a mark introduces. -/
theorem next?_cases {text rest : List Char} {lexeme : Lexeme}
    (found : next? text = some (lexeme, rest)) :
    (∃ numeral afterNumeral, Decimal.Numeral.read? text = some (numeral, afterNumeral) ∧
      readMeasured numeral.value afterNumeral = (lexeme, rest)) ∨
    (startsName text = true ∧ readNamed text = (lexeme, rest)) ∨
    ∃ mark tail, text = mark :: tail ∧ readMarked mark tail = (lexeme, rest) := by
  cases text with
  | nil => cases found
  | cons c tail =>
    cases numeral : Decimal.Numeral.read? (c :: tail) with
    | some numeral_found =>
      have parts := Option.some.inj ((next?_of_numeral numeral).symm.trans found)
      exact .inl ⟨numeral_found.1, numeral_found.2, rfl, parts⟩
    | none =>
      cases start : startsName (c :: tail) with
      | true =>
        have parts := Option.some.inj ((next?_of_name numeral start).symm.trans found)
        exact .inr (.inl ⟨rfl, parts⟩)
      | false =>
        have parts := Option.some.inj ((next?_of_mark numeral start).symm.trans found)
        exact .inr (.inr ⟨c, tail, rfl, parts⟩)

theorem next?_suffix {text rest : List Char} {lexeme : Lexeme}
    (found : next? text = some (lexeme, rest)) : rest <:+ text := by
  obtain ⟨numeral, afterNumeral, read, parts⟩ | ⟨_, parts⟩ | ⟨mark, tail, rfl, parts⟩ :=
    next?_cases found
  · have measured := readMeasured_suffix numeral.value afterNumeral
    rw [parts] at measured
    exact measured.trans ⟨numeral.spelling, Decimal.Numeral.spelling_append_of_read? read⟩
  · have behind := (named_suffix (String.ofList (readName text).1) _).trans (readName_suffix text)
    change (readNamed text).2 <:+ text at behind
    rwa [parts] at behind
  · have marked := readMarked_suffix mark tail
    rw [parts] at marked
    exact marked.trans (List.suffix_cons mark tail)

/-! Between lexemes there are blanks and comments. -/

/-- A comment before what follows it. It ends at the first end in it, or with the text. -/
inductive IsComment (after : List Char) : List Char → Prop
  | ended {body : List Char} (still_open : ¬['*', '/'] <:+: body) :
      IsComment after ('/' :: '*' :: (body ++ ['*', '/']))
  | unended {body : List Char} (still_open : ¬['*', '/'] <:+: body) (last : after = []) :
      IsComment after ('/' :: '*' :: body)

/-- Blanks and comments before what follows them. -/
inductive IsLayout (after : List Char) : List Char → Prop
  | nil : IsLayout after []
  | blank {c : Char} {more : List Char} (blank : isBlank c = true) (later : IsLayout after more) :
      IsLayout after (c :: more)
  | comment {comment more : List Char} (whole : IsComment (more ++ after) comment)
      (later : IsLayout after more) : IsLayout after (comment ++ more)

/-- The characters of a text between two positions are a comment. -/
def IsCommentOf (text : List Char) (start stop : Nat) : Prop :=
  ∃ before comment after, text = before ++ (comment ++ after) ∧ IsComment after comment ∧
    before.length = start ∧ start + comment.length = stop

/-- The position is that of a blank, or is inside a comment that no token overlaps. -/
def IsLayoutAt (text : List Char) (tokens : List Token) (position : Nat) : Prop :=
  (∃ c, text[position]? = some c ∧ isBlank c = true) ∨
  ∃ start stop, IsCommentOf text start stop ∧ start ≤ position ∧ position < stop ∧
    ∀ token ∈ tokens, token.stop ≤ start ∨ stop ≤ token.start

/-- A character that closes no comment with what follows it can come before what closes none. -/
theorem still_open_cons {c : Char} {body rest : List Char}
    (not_closed : ∀ later, c = '*' → rest = '/' :: later → False) (begins : body <+: rest)
    (still_open : ¬['*', '/'] <:+: body) : ¬['*', '/'] <:+: c :: body := by
  intro inside
  obtain here | later := List.infix_cons_iff.mp inside
  · obtain ⟨star, slash⟩ := List.cons_prefix_cons.mp here
    obtain ⟨later, parts⟩ := slash.trans begins
    exact not_closed later star.symm parts.symm
  · exact still_open later

/-- The rest of a comment reaches to the first end in it, or to the end of the text. -/
theorem skipComment_cases (text : List Char) :
    (∃ body, ¬['*', '/'] <:+: body ∧ text = body ++ '*' :: '/' :: skipComment text) ∨
    ¬['*', '/'] <:+: text ∧ skipComment text = [] := by
  fun_induction skipComment text with
  | case1 => exact .inr ⟨by decide, rfl⟩
  | case2 rest => exact .inl ⟨[], by decide, rfl⟩
  | case3 c rest not_closed ih =>
    obtain ⟨body, still_open, parts⟩ | ⟨still_open, nothing⟩ := ih
    · have begins : body <+: rest := ⟨_, parts.symm⟩
      exact .inl ⟨c :: body, still_open_cons not_closed begins still_open,
        congrArg (c :: ·) parts⟩
    · exact .inr ⟨still_open_cons not_closed List.prefix_rfl still_open, nothing⟩

theorem exists_layout (text : List Char) :
    ∃ layout, text = layout ++ skipLayout text ∧ IsLayout (skipLayout text) layout := by
  fun_induction skipLayout text with
  | case1 body ih =>
    obtain ⟨layout, parts, before⟩ := ih
    obtain ⟨inside, still_open, whole⟩ | ⟨still_open, nothing⟩ := skipComment_cases body
    · refine ⟨'/' :: '*' :: (inside ++ ['*', '/']) ++ layout, ?_, .comment (.ended still_open) before⟩
      simp only [List.cons_append, List.append_assoc, List.nil_append]
      rw [← parts, ← whole]
    -- The comment takes in all of the text, and nothing is left for further layout.
    · have last : layout ++ skipLayout (skipComment body) = [] := parts.symm.trans nothing
      refine ⟨'/' :: '*' :: body ++ layout, ?_, .comment (.unended still_open last) before⟩
      rw [List.append_assoc, last, List.append_nil]
  | case2 c rest _ blank ih =>
    obtain ⟨layout, parts, before⟩ := ih
    exact ⟨c :: layout, by rw [List.cons_append, ← parts], .blank blank before⟩
  | case3 c rest => exact ⟨[], rfl, .nil⟩
  | case4 => exact ⟨[], rfl, .nil⟩

theorem head_skipLayout (text : List Char) : (skipLayout text).head?.any isBlank = false := by
  fun_induction skipLayout text with
  | case1 body ih => exact ih
  | case2 c rest _ blank ih => exact ih
  | case3 c rest _ visible => simpa using visible
  | case4 => rfl

/-- Every position of layout is that of a blank, or inside a comment that is part of the layout. -/
theorem IsLayout.cases_position {after layout : List Char} (layouts : IsLayout after layout)
    {before : List Char} {position : Nat} (from_start : before.length ≤ position)
    (to_end : position < before.length + layout.length) :
    (∃ c, (before ++ (layout ++ after))[position]? = some c ∧ isBlank c = true) ∨
    ∃ start stop, IsCommentOf (before ++ (layout ++ after)) start stop ∧
      start ≤ position ∧ position < stop ∧
      before.length ≤ start ∧ stop ≤ before.length + layout.length := by
  induction layouts generalizing before with
  | nil =>
    rw [List.length_nil] at to_end
    omega
  | @blank c more blank later ih =>
    obtain rfl | further := Nat.eq_or_lt_of_le from_start
    · exact .inl ⟨c, by simp, blank⟩
    have shifted := @ih (before ++ [c])
      (by rw [List.length_append]; exact further)
      (by simp only [List.length_append, List.length_cons, List.length_nil] at to_end ⊢; omega)
    simp only [List.append_assoc, List.cons_append, List.nil_append, List.length_append,
      List.length_cons, List.length_nil] at shifted ⊢
    obtain found | ⟨start, stop, comment, first, last, bounds⟩ := shifted
    · exact .inl found
    · exact .inr ⟨start, stop, comment, first, last, by omega⟩
  | @comment comment more whole later ih =>
    by_cases inside : position < before.length + comment.length
    · refine .inr ⟨before.length, before.length + comment.length,
        ⟨before, comment, more ++ after, by rw [List.append_assoc], whole, rfl, rfl⟩,
        from_start, inside, Nat.le_refl _, ?_⟩
      rw [List.length_append]
      omega
    have shifted := @ih (before ++ comment)
      (by rw [List.length_append]; omega)
      (by rw [List.length_append] at to_end ⊢; omega)
    simp only [List.append_assoc, List.length_append] at shifted ⊢
    obtain found | ⟨start, stop, comment, first, last, bounds⟩ := shifted
    · exact .inl found
    · exact .inr ⟨start, stop, comment, first, last, by omega⟩

/-! Tokens with layout between them make up a text. -/

/-- Something can be read at the start of every text but the empty one. -/
theorem eq_nil_of_next?_eq_none {text : List Char} (absent : next? text = none) : text = [] := by
  cases text with
  | nil => rfl
  | cons c rest =>
    rw [next?] at absent
    split at absent
    · cases absent
    · split at absent <;> cases absent

/-- What follows the first part of a text is these tokens, with layout between them. -/
inductive Tiles : List Char → List Char → List Token → Prop
  | done {before layout : List Char} (last : IsLayout [] layout) : Tiles before layout []
  | token {before gap word rest : List Char} {lexeme : Lexeme} {tokens : List Token}
      (between : IsLayout (word ++ rest) gap) (some_char : word ≠ [])
      (visible : word.head?.any isBlank = false) (read : next? (word ++ rest) = some (lexeme, rest))
      (later : Tiles (before ++ gap ++ word) rest tokens) :
      Tiles before (gap ++ (word ++ rest))
        (⟨lexeme, (before ++ gap).length, (before ++ gap ++ word).length⟩ :: tokens)

theorem tiles_tokensFrom {total : Nat} {before text : List Char}
    (whole : (before ++ text).length = total) : Tiles before text (tokensFrom total text) := by
  induction text using tokensFrom.induct generalizing before with
  | case1 text absent =>
    obtain ⟨layout, parts, last⟩ := exists_layout text
    rw [eq_nil_of_next?_eq_none absent] at parts last
    rw [tokensFrom_of_none absent, parts, List.append_nil]
    exact .done last
  | case2 text lexeme after found ih =>
    obtain ⟨gap, parts, between⟩ := exists_layout text
    obtain ⟨word, split⟩ := next?_suffix found
    have shorter := next?_length_lt found
    have visible := head_skipLayout text
    rw [tokensFrom_of_found found]
    rw [← split] at between found parts shorter visible ⊢
    have some_char : word ≠ [] := List.length_pos_iff.mp (by simpa using shorter)
    have first_visible : word.head?.any isBlank = false := by
      obtain ⟨c, others, rfl⟩ := List.exists_cons_of_ne_nil some_char
      exact visible
    have start : total - (word ++ after).length = (before ++ gap).length := by
      rw [← whole, parts]
      simp only [List.length_append]
      omega
    have stop : total - after.length = (before ++ gap ++ word).length := by
      rw [← whole, parts]
      simp only [List.length_append]
      omega
    have later : Tiles (before ++ gap ++ word) after (tokensFrom total after) := by
      apply ih
      rw [← whole, parts]
      simp only [List.append_assoc]
    rw [start, stop, parts]
    exact .token between some_char first_visible found later

namespace Tiles

variable {before text : List Char} {tokens : List Token}

theorem le_start (tiles : Tiles before text tokens) :
    ∀ token ∈ tokens, before.length ≤ token.start := by
  induction tiles with
  | done => exact fun _ member => absurd member List.not_mem_nil
  | token _ _ _ _ _ ih =>
    intro token member
    obtain rfl | member := List.mem_cons.mp member
    · exact (List.prefix_append _ _).length_le
    · have later := ih token member
      simp only [List.length_append] at later
      omega

theorem pairwise (tiles : Tiles before text tokens) :
    tokens.Pairwise fun first second => first.stop ≤ second.start := by
  induction tiles with
  | done => exact .nil
  | token _ _ _ _ later ih => exact .cons later.le_start ih

/-- Each token takes at least one character. -/
theorem length_le (tiles : Tiles before text tokens) : tokens.length ≤ text.length := by
  induction tiles with
  | done => exact Nat.zero_le _
  | token _ some_char _ _ _ ih =>
    have taken := List.length_pos_iff.mpr some_char
    simp only [List.length_cons, List.length_append]
    omega

/-- Every position is in a token or in the layout between tokens. -/
theorem cases_position {position : Nat} (tiles : Tiles before text tokens)
    (from_start : before.length ≤ position) (to_end : position < before.length + text.length) :
    (∃ token ∈ tokens, token.start ≤ position ∧ position < token.stop) ∨
    (∃ c, (before ++ text)[position]? = some c ∧ isBlank c = true) ∨
    ∃ start stop, IsCommentOf (before ++ text) start stop ∧ start ≤ position ∧ position < stop ∧
      before.length ≤ start ∧ ∀ token ∈ tokens, token.stop ≤ start ∨ stop ≤ token.start := by
  induction tiles with
  | @done before layout last =>
    have inside := last.cases_position from_start to_end
    rw [List.append_nil] at inside
    obtain blank | ⟨start, stop, comment, first, second, below, _⟩ := inside
    · exact .inr (.inl blank)
    · exact .inr (.inr ⟨start, stop, comment, first, second, below, by simp⟩)
  | @token before gap word rest lexeme tokens between some_char visible read later ih =>
    simp only [List.length_append] at to_end ih ⊢
    by_cases in_gap : position < before.length + gap.length
    · obtain blank | ⟨start, stop, comment, first, second, below, above⟩ :=
        between.cases_position from_start in_gap
      · exact .inr (.inl blank)
      · refine .inr (.inr ⟨start, stop, comment, first, second, below, fun token member => .inr ?_⟩)
        obtain rfl | member := List.mem_cons.mp member
        · exact above
        · have behind := later.le_start token member
          simp only [List.length_append] at behind
          omega
    by_cases in_word : position < before.length + gap.length + word.length
    · exact .inl ⟨_, List.mem_cons_self, Nat.le_of_not_lt in_gap, in_word⟩
    obtain ⟨token, member, inside⟩ | blank | ⟨start, stop, comment, first, second, below, apart⟩ :=
      ih (by omega) (by omega)
    · exact .inl ⟨token, List.mem_cons_of_mem _ member, inside⟩
    · simp only [List.append_assoc] at blank
      exact .inr (.inl blank)
    · simp only [List.append_assoc] at comment
      refine .inr (.inr ⟨start, stop, comment, first, second, by omega, fun token member => ?_⟩)
      obtain rfl | member := List.mem_cons.mp member
      · exact .inl below
      · exact apart token member

end Tiles

end Lexer

/--
The token is read where it starts in a text, and reading goes on where it stops. It takes at least
one character, and the first is visible.
-/
structure Token.IsSpanOf (text : List Char) (token : Token) : Prop where
  nonempty : token.start < token.stop
  inside : token.stop ≤ text.length
  visible : ∃ c, text[token.start]? = some c ∧ Text.isBlank c = false
  read : Lexer.next? (text.drop token.start) = some (token.lexeme, text.drop token.stop)

namespace Lexer

open Text

theorem Tiles.isSpanOf {before text : List Char} {tokens : List Token}
    (tiles : Tiles before text tokens) : ∀ token ∈ tokens, token.IsSpanOf (before ++ text) := by
  induction tiles with
  | done => exact fun _ member => absurd member List.not_mem_nil
  | @token before gap word rest lexeme tokens between some_char visible read later ih =>
    have whole : before ++ (gap ++ (word ++ rest)) = before ++ gap ++ word ++ rest := by
      simp only [List.append_assoc]
    rw [whole]
    intro token member
    obtain rfl | member := List.mem_cons.mp member
    · obtain ⟨c, others, rfl⟩ := List.exists_cons_of_ne_nil some_char
      exact {
        nonempty := by simp
        inside := (List.prefix_append _ _).length_le
        visible := ⟨c, by simp, by simpa using visible⟩
        read := by
          rw [List.drop_left, List.append_assoc (before ++ gap), List.drop_left, read] }
    · exact ih token member

/-- Reading a lexeme from a position moves on to a later position of the text. -/
theorem exists_further {text after : List Char} {position : Nat} {lexeme : Lexeme}
    (inside : position ≤ text.length)
    (found : next? (skipLayout (text.drop position)) = some (lexeme, after)) :
    ∃ further, position < further ∧ further ≤ text.length ∧ after = text.drop further := by
  obtain ⟨gap, parts, _⟩ := exists_layout (text.drop position)
  have behind_layout : skipLayout (text.drop position) <:+ text.drop position := ⟨gap, parts.symm⟩
  have shorter := Nat.lt_of_lt_of_le (next?_length_lt found) behind_layout.length_le
  have rest := ((next?_suffix found).trans behind_layout).trans (List.drop_suffix position text)
  rw [List.length_drop] at shorter
  exact ⟨text.length - after.length, by omega, by omega, List.suffix_iff_eq_drop.mp rest⟩

/--
Tokens and layout cover a text. Tokens are spans of the text that do not overlap, one after another,
and what is not in a token is a blank or part of a comment. Reading a token moves on in the text and
never past its end, so that there are at most as many tokens as characters.
-/
theorem tokens_cover (text : List Char) :
    (∀ token ∈ tokens text, token.IsSpanOf text) ∧
    ((tokens text).Pairwise fun first second => first.stop ≤ second.start) ∧
    (∀ position < text.length,
      (∀ token ∈ tokens text, ¬(token.start ≤ position ∧ position < token.stop)) →
        IsLayoutAt text (tokens text) position) ∧
    (∀ position ≤ text.length, ∀ lexeme after,
      next? (skipLayout (text.drop position)) = some (lexeme, after) →
        ∃ further, position < further ∧ further ≤ text.length ∧ after = text.drop further) ∧
    (tokens text).length ≤ text.length := by
  have tiles : Tiles [] text (tokens text) := tiles_tokensFrom rfl
  refine ⟨tiles.isSpanOf, tiles.pairwise, fun position inside outside => ?_,
    fun position inside lexeme after found => exists_further inside found, tiles.length_le⟩
  obtain ⟨token, member, covered⟩ | blank | ⟨start, stop, comment, first, second, _, apart⟩ :=
    tiles.cases_position (Nat.zero_le position) (by simpa using inside)
  · exact absurd covered (outside token member)
  · exact .inl blank
  · exact .inr ⟨start, stop, comment, first, second, apart⟩

/-- A comment between tokens, and one without an end. -/
def commented : List Char := "a/**/ 1%\t/* b".toList

theorem tokens_cover_commented :
    tokens commented = [⟨.ident "a", 0, 1⟩, ⟨.percentage 0.01, 6, 8⟩] ∧
    IsLayoutAt commented (tokens commented) 3 ∧ IsLayoutAt commented (tokens commented) 12 := by
  have read : tokens commented = [⟨.ident "a", 0, 1⟩, ⟨.percentage 0.01, 6, 8⟩] := by
    decide +kernel
  obtain ⟨_, _, layout, _⟩ := tokens_cover commented
  refine ⟨read, layout 3 (by decide) ?_, layout 12 (by decide) ?_⟩
  · rw [read]
    decide
  · rw [read]
    decide

end Lexer

end Portability

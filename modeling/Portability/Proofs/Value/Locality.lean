import Portability.Proofs.Decimal.Locality
import Portability.Value.Lexer

/-!
# Reading tokens is local

Each reader of the lexer is local: it does not matter for a token what layout is inserted behind it.
A token ends where the next character does not continue it, and neither a blank nor a slash continues
a token. Some decisions look further than the token: a name begins with a hyphen only if another
name character or hyphen follows, so an insertion could keep it from beginning, but not if the name
is read before the insertion. Blanks and comments are no tokens, and what passes over them may run
into the insertion; it is local only where it ends before.
-/
namespace Portability

open Text

namespace Lexer

variable {gap : Gap} {text wider : List Char}

theorem isNameStart_of_beginsLayout {c : Char} (layout : beginsLayout c = true) :
    isNameStart c = false :=
  eq_false_of_beginsLayout (by decide) layout

theorem isNameChar_of_beginsLayout {c : Char} (layout : beginsLayout c = true) :
    isNameChar c = false :=
  eq_false_of_beginsLayout (by decide) layout

theorem readName_of_not_isNameChar {c : Char} (other : isNameChar c = false) (rest : List Char) :
    readName (c :: rest) = ([], c :: rest) := by
  have no_escape : c ≠ '\\' := by
    rintro rfl
    revert other
    decide
  rw [readName.eq_def]
  split <;> simp_all

theorem readName_cons {c : Char} (no_escape : c ≠ '\\') (named : isNameChar c = true)
    (rest : List Char) :
    readName (c :: rest) = (c :: (readName rest).1, (readName rest).2) := by
  rw [readName.eq_def]
  split <;> simp_all

/-- What the recursion on a text knows where no escape begins. -/
private theorem ne_escape {c : Char} {rest : List Char}
    (no_escape : ∀ (next : Char) (later : List Char), c = '\\' → rest = next :: later → False)
    (no_end : c = '\\' → rest = [] → False) : c ≠ '\\' := by
  intro escape
  cases rest with
  | nil => exact no_end escape rfl
  | cons next later => exact no_escape next later escape rfl

theorem readName_isLocal : IsLocal readName where
  length_le := readName_length_le
  agrees {gap text wider} widens outside := by
    induction text using readName.induct generalizing wider with
    | case1 c rest ih =>
      replace outside : gap.rest.length ≤ (readName rest).2.length := outside
      have shorter := readName_length_le rest
      obtain ⟨_, rfl, escaped⟩ := widens.of_cons (by simp only [List.length_cons]; omega)
      obtain ⟨widerRest, rfl, left⟩ := escaped.of_cons (by omega)
      obtain ⟨same, left⟩ := ih left outside
      exact ⟨congrArg (c :: ·) same, left⟩
    -- An escape at the end of the text takes in all of it, also the rest.
    | case2 => exact absurd outside (Nat.not_le.mpr gap.rest_length_pos)
    | case3 c rest no_escape no_end named ih =>
      exact widens.agrees_of_takes (readName_cons (ne_escape no_escape no_end) named)
        (readName_length_le rest) ih outside
    | case4 c rest no_escape no_end other =>
      exact widens.agrees_of_stops (fun _ rest other => readName_of_not_isNameChar other rest)
        isNameChar_of_beginsLayout (Bool.eq_false_iff.mpr other)
    | case5 => exact absurd rfl widens.ne_nil

theorem readQuoted_cons {quote c : Char} (no_escape : c ≠ '\\') (inside : c ≠ quote)
    (rest : List Char) :
    readQuoted quote (c :: rest) =
      (c :: (readQuoted quote rest).1, (readQuoted quote rest).2) := by
  rw [readQuoted.eq_def]
  split <;> simp_all

theorem readQuoted_quote {quote : Char} (no_escape : quote ≠ '\\') (rest : List Char) :
    readQuoted quote (quote :: rest) = ([], rest) := by
  rw [readQuoted.eq_def]
  split <;> simp_all

theorem readQuoted_isLocal (quote : Char) : IsLocal (readQuoted quote) where
  length_le := readQuoted_length_le quote
  agrees {gap text wider} widens outside := by
    induction text using readQuoted.induct quote generalizing wider with
    | case1 c rest ih =>
      replace outside : gap.rest.length ≤ (readQuoted quote rest).2.length := outside
      have shorter := readQuoted_length_le quote rest
      obtain ⟨_, rfl, escaped⟩ := widens.of_cons (by simp only [List.length_cons]; omega)
      obtain ⟨widerRest, rfl, left⟩ := escaped.of_cons (by omega)
      obtain ⟨same, left⟩ := ih left outside
      exact ⟨congrArg (c :: ·) same, left⟩
    | case2 => exact absurd outside (Nat.not_le.mpr gap.rest_length_pos)
    | case3 rest no_escape no_end =>
      have visible := ne_escape no_escape no_end
      rw [readQuoted_quote visible] at outside ⊢
      obtain ⟨widerRest, rfl, left⟩ := widens.of_cons outside
      rw [readQuoted_quote visible]
      exact ⟨rfl, left⟩
    | case4 c rest no_escape no_end inside ih =>
      exact widens.agrees_of_takes (readQuoted_cons (ne_escape no_escape no_end) inside)
        (readQuoted_length_le quote rest) ih outside
    | case5 => exact absurd rfl widens.ne_nil

/-- The characters before the next closing parenthesis, and what follows it. -/
def readClosed (text : List Char) : List Char × List Char :=
  (text.takeWhile (· ≠ ')'), afterClosing text)

theorem readClosed_cons {c : Char} (inside : c ≠ ')') (rest : List Char) :
    readClosed (c :: rest) = (c :: (readClosed rest).1, (readClosed rest).2) := by
  simp [readClosed, afterClosing, inside]

theorem readClosed_isLocal : IsLocal readClosed where
  length_le := afterClosing_length_le
  agrees {gap text wider} widens outside := by
    induction text generalizing wider with
    | nil => exact absurd rfl widens.ne_nil
    | cons c rest ih =>
      by_cases closes : c = ')'
      · subst closes
        obtain ⟨widerRest, rfl, left⟩ := widens.of_cons outside
        exact ⟨rfl, left⟩
      · exact widens.agrees_of_takes (readClosed_cons closes) (afterClosing_length_le rest) ih outside

/-- An address in quotes, after the opening quote. -/
theorem readQuotedAddress_isLocal (quote : Char) :
    IsLocal fun text => ((readQuoted quote text).1, afterClosing (readQuoted quote text).2) :=
  (readQuoted_isLocal quote).bind fun found => readClosed_isLocal.map fun _ => found

/-- The address at the start of a text without blanks there. -/
def readVisibleAddress (text : List Char) : List Char × List Char :=
  match text with
  | '"' :: rest =>
    let quoted := readQuoted '"' rest
    (quoted.1, afterClosing quoted.2)
  | '\'' :: rest =>
    let quoted := readQuoted '\'' rest
    (quoted.1, afterClosing quoted.2)
  | bare => (trimEnd (bare.takeWhile (· ≠ ')')), afterClosing bare)

theorem readAddress_eq (text : List Char) : readAddress text = readVisibleAddress (trimStart text) :=
  rfl

theorem readVisibleAddress_bare {c : Char} (not_double : c ≠ '"') (not_single : c ≠ '\'')
    (rest : List Char) :
    readVisibleAddress (c :: rest) =
      (trimEnd (readClosed (c :: rest)).1, (readClosed (c :: rest)).2) := by
  unfold readVisibleAddress
  split <;> simp_all [readClosed]

theorem afterClosing_cons_length_le (c : Char) (rest : List Char) :
    (afterClosing (c :: rest)).length ≤ rest.length := by
  by_cases closes : c = ')'
  · simp [afterClosing, closes]
  · have shorter := afterClosing_length_le rest
    simpa [afterClosing, closes] using shorter

theorem readVisibleAddress_cons_length_le (c : Char) (rest : List Char) :
    (readVisibleAddress (c :: rest)).2.length ≤ rest.length := by
  by_cases double : c = '"'
  · subst double
    exact (readQuotedAddress_isLocal '"').length_le rest
  by_cases single : c = '\''
  · subst single
    exact (readQuotedAddress_isLocal '\'').length_le rest
  rw [readVisibleAddress_bare double single]
  exact afterClosing_cons_length_le c rest

theorem readVisibleAddress_isLocal : IsLocal readVisibleAddress where
  length_le text := by
    cases text with
    | nil => exact Nat.le_refl _
    | cons c rest => exact Nat.le_succ_of_le (readVisibleAddress_cons_length_le c rest)
  agrees {gap text wider} widens outside := by
    cases text with
    | nil => exact absurd rfl widens.ne_nil
    | cons c rest =>
      obtain ⟨widerRest, rfl, left⟩ :=
        widens.of_cons (Nat.le_trans outside (readVisibleAddress_cons_length_le c rest))
      by_cases double : c = '"'
      · subst double
        exact (readQuotedAddress_isLocal '"').agrees left outside
      by_cases single : c = '\''
      · subst single
        exact (readQuotedAddress_isLocal '\'').agrees left outside
      rw [readVisibleAddress_bare double single] at outside ⊢
      rw [readVisibleAddress_bare double single]
      exact (readClosed_isLocal.map trimEnd).agrees widens outside

theorem trimStart_cons_of_isBlank {c : Char} (blank : isBlank c = true) (rest : List Char) :
    trimStart (c :: rest) = trimStart rest := by
  simp [trimStart, blank]

/-- Blanks are passed over alike if the rest comes after something else. -/
theorem widens_trimStart (widens : gap.Widens text wider)
    (outside : gap.rest.length < (trimStart text).length) :
    gap.Widens (trimStart text) (trimStart wider) := by
  induction text generalizing wider with
  | nil => exact absurd rfl widens.ne_nil
  | cons c rest ih =>
    have whole := trimStart_length_le (c :: rest)
    simp only [List.length_cons] at whole
    obtain ⟨widerRest, rfl, left⟩ := widens.of_cons (by omega)
    cases blank : isBlank c with
    | true =>
      rw [trimStart_cons_of_isBlank blank] at outside ⊢
      rw [trimStart_cons_of_isBlank blank]
      exact ih left outside
    | false =>
      rw [trimStart_of_not_blank blank, trimStart_of_not_blank blank]
      exact widens

theorem readAddress_isLocal : IsLocal readAddress where
  length_le := readAddress_length_le
  agrees {gap text wider} widens outside := by
    rw [readAddress_eq] at outside ⊢
    rw [readAddress_eq]
    -- If only blanks came before the rest, the address would take in some of the rest.
    have visible : gap.rest.length < (trimStart text).length := by
      cases trimmed : trimStart text with
      | nil =>
        rw [trimmed] at outside
        exact absurd outside (Nat.not_le.mpr gap.rest_length_pos)
      | cons c rest =>
        rw [trimmed] at outside
        exact Nat.lt_succ_of_le (Nat.le_trans outside (readVisibleAddress_cons_length_le c rest))
    exact readVisibleAddress_isLocal.agrees (widens_trimStart widens visible) outside

theorem named_of_ne {c : Char} (other : c ≠ '(') (name : String) (rest : List Char) :
    named name (c :: rest) = (.ident name, c :: rest) := by
  unfold named
  split <;> simp_all

theorem named_call_isLocal (name : String) :
    IsLocal fun body => named name ('(' :: body) := by
  by_cases address : sameIgnoringCase name "url" = true
  · simpa [named, address] using readAddress_isLocal.map fun found => Lexeme.url (String.ofList found)
  · simpa [named, address] using IsLocal.pure (Lexeme.function name)

theorem named_isLocal (name : String) : IsLocal (named name) where
  length_le := named_length_le name
  agrees {gap text wider} widens outside := by
    cases text with
    | nil => exact absurd rfl widens.ne_nil
    | cons c rest =>
      by_cases call : c = '('
      · subst call
        obtain ⟨widerRest, rfl, left⟩ :=
          widens.of_cons (Nat.le_trans outside ((named_call_isLocal name).length_le rest))
        exact (named_call_isLocal name).agrees left outside
      · exact widens.agrees_of_stops (fun _ rest other => named_of_ne other name rest)
          (fun layout => ne_of_beginsLayout layout (by decide)) call

theorem readNamed_length_le (text : List Char) :
    (readNamed text).2.length ≤ (readName text).2.length :=
  named_length_le _ _

theorem readNamed_isLocal : IsLocal readNamed :=
  readName_isLocal.bind fun found => named_isLocal (String.ofList found)

/--
A decision to read a name: an insertion brings none about, and prevents none if it comes behind the
name.
-/
structure AnnouncesName (ahead : List Char → Bool) : Prop where
  of_wider {gap : Gap} {text wider : List Char} (widens : gap.Widens text wider)
    (announced : ahead wider = true) : ahead text = true
  wider {gap : Gap} {text wider : List Char} (widens : gap.Widens text wider)
    (announced : ahead text = true) (outside : gap.rest.length ≤ (readName text).2.length) :
    ahead wider = true

/-- A name where one is announced, and else something that takes up no characters. -/
theorem AnnouncesName.isLocal {ahead : List Char → Bool} (announces : AnnouncesName ahead)
    (ofName : List Char → Lexeme) (otherwise : Lexeme) :
    IsLocal fun text =>
      if ahead text then (ofName (readName text).1, (readName text).2) else (otherwise, text) := by
  apply (readName_isLocal.map ofName).ite (IsLocal.pure otherwise)
  intro gap text wider widens outside
  cases announced : ahead text with
  | true =>
    rw [announced, if_pos rfl] at outside
    exact announces.wider widens announced outside
  | false =>
    rw [Bool.eq_false_iff] at announced ⊢
    exact fun wider_announced => announced (announces.of_wider widens wider_announced)

/-- A name takes in at least the character that it begins with. -/
theorem readName_length_lt_of_head {text : List Char}
    (named : text.head?.any isNameChar = true) : (readName text).2.length < text.length := by
  cases text with
  | nil => cases named
  | cons c rest =>
    by_cases escape : c = '\\'
    · subst escape
      cases rest with
      | nil => exact Nat.zero_lt_succ _
      | cons c rest => exact Nat.lt_succ_of_le (Nat.le_succ_of_le (readName_length_le rest))
    · rw [readName_cons escape (by simpa using named)]
      exact Nat.lt_succ_of_le (readName_length_le rest)

theorem head_announcesName : AnnouncesName fun text => text.head?.any isNameChar where
  of_wider widens announced := by
    obtain ⟨mark, tail, _, rfl, layout⟩ | ⟨c, tail, widerTail, rfl, rfl, _⟩ := widens.cases_head
    · simp [isNameChar_of_beginsLayout layout] at announced
    · exact announced
  wider widens announced outside := by
    obtain ⟨_, _, rfl, _, _⟩ | ⟨c, tail, widerTail, rfl, rfl, _⟩ := widens.cases_head
    · exact absurd outside (Nat.not_le.mpr (readName_length_lt_of_head announced))
    · exact announced

theorem startsName_of_ne {c : Char} (no_hyphen : c ≠ '-') (rest : List Char) :
    startsName (c :: rest) = isNameStart c := by
  rw [startsName.eq_def]
  split <;> simp_all

theorem isNameChar_of_startsName_hyphen {rest : List Char}
    (start : startsName ('-' :: rest) = true) : rest.head?.any isNameChar = true := by
  cases rest with
  | nil => cases start
  | cons c rest =>
    have cases : isNameStart c = true ∨ c = '-' := by simpa [startsName] using start
    obtain named | rfl := cases
    · exact isNameChar_of_isNameStart named
    · rfl

theorem startsName_announcesName : AnnouncesName startsName where
  of_wider {gap text wider} widens announced := by
    obtain ⟨mark, tail, _, rfl, layout⟩ | ⟨c, tail, widerTail, rfl, rfl, later⟩ := widens.cases_head
    · rw [startsName_of_ne (ne_of_beginsLayout layout (by decide)),
        isNameStart_of_beginsLayout layout] at announced
      cases announced
    · by_cases hyphen : c = '-'
      -- A hyphen begins a name together with the next character, which may be the insertion.
      · subst hyphen
        obtain ⟨mark, _, _, rfl, layout⟩ | ⟨_, _, _, rfl, rfl, _⟩ := later.cases_head
        · simp [startsName, isNameStart_of_beginsLayout layout,
            ne_of_beginsLayout layout (by decide : beginsLayout '-' = false)] at announced
        · exact announced
      · rw [startsName_of_ne hyphen] at announced ⊢
        exact announced
  wider {gap text wider} widens announced outside := by
    obtain ⟨mark, tail, rfl, _, _⟩ | ⟨c, tail, widerTail, rfl, rfl, later⟩ := widens.cases_head
    · exact absurd outside (Nat.not_le.mpr (readName_length_lt announced))
    · by_cases hyphen : c = '-'
      · subst hyphen
        obtain ⟨_, _, rfl, _, _⟩ | ⟨_, _, _, rfl, rfl, _⟩ := later.cases_head
        -- The name would take in the character behind the hyphen, which is part of the rest.
        · have second : gap.rest.head?.any isNameChar = true := isNameChar_of_startsName_hyphen announced
          exact absurd outside (Nat.not_le.mpr (readName_length_lt_of_head second))
        · exact announced
      · rw [startsName_of_ne hyphen] at announced ⊢
        exact announced

theorem readMeasured_of_ne {c : Char} (no_percentage : c ≠ '%') (value : Float)
    (rest : List Char) :
    readMeasured value (c :: rest) =
      if startsName (c :: rest) then
        (.dimension value (String.ofList (readName (c :: rest)).1), (readName (c :: rest)).2)
      else (.number value, c :: rest) := by
  unfold readMeasured
  split
  · simp_all
  · rfl

theorem readMeasured_isLocal (value : Float) : IsLocal (readMeasured value) where
  length_le := readMeasured_length_le value
  agrees {gap text wider} widens outside := by
    cases text with
    | nil => exact absurd rfl widens.ne_nil
    | cons c rest =>
      by_cases percentage : c = '%'
      · subst percentage
        obtain ⟨widerRest, rfl, left⟩ := widens.of_cons outside
        exact ⟨rfl, left⟩
      · have unit := startsName_announcesName.isLocal (fun name => .dimension value (String.ofList name))
          (.number value)
        rw [readMeasured_of_ne percentage] at outside ⊢
        have agrees := unit.agrees widens outside
        obtain ⟨mark, tail, _, rfl, layout⟩ | ⟨_, _, _, parts, rfl, _⟩ := widens.cases_head
        · rwa [readMeasured_of_ne (ne_of_beginsLayout layout (by decide))]
        · obtain ⟨rfl, rfl⟩ := List.cons.inj parts
          rwa [readMeasured_of_ne percentage]

theorem readMarked_isLocal (mark : Char) : IsLocal (readMarked mark) := by
  unfold readMarked
  split
  · exact (readQuoted_isLocal mark).map fun content => Lexeme.text (String.ofList content)
  · by_cases hash : mark = '#'
    · subst hash
      exact head_announcesName.isLocal (fun name => .hash (String.ofList name)) (.symbol '#')
    by_cases keyword : mark = '@'
    · subst keyword
      exact startsName_announcesName.isLocal (fun name => .atKeyword (String.ofList name)) (.symbol '@')
    simpa [hash, keyword] using IsLocal.pure (Lexeme.symbol mark)

section Next

open Decimal.Numeral

variable {c : Char} {rest widerRest after : List Char} {lexeme : Lexeme}

theorem next?_of_numeral {numeral : Decimal.Numeral} {afterNumeral : List Char}
    (numeral_found : read? (c :: rest) = some (numeral, afterNumeral)) :
    next? (c :: rest) = some (readMeasured numeral.value afterNumeral) := by
  simp only [next?, numeral_found]

theorem next?_of_name (no_numeral : read? (c :: rest) = none)
    (start : startsName (c :: rest) = true) :
    next? (c :: rest) = some (readNamed (c :: rest)) := by
  simp only [next?, no_numeral, start, if_true]

theorem next?_of_mark (no_numeral : read? (c :: rest) = none)
    (no_start : startsName (c :: rest) = false) :
    next? (c :: rest) = some (readMarked c rest) := by
  simp [next?, no_numeral, no_start]

private theorem next?_widens_of_numeral {numeral : Decimal.Numeral} {afterNumeral : List Char}
    (widens : gap.Widens (c :: rest) (c :: widerRest))
    (numeral_found : read? (c :: rest) = some (numeral, afterNumeral))
    (parts : readMeasured numeral.value afterNumeral = (lexeme, after))
    (outside : gap.rest.length ≤ after.length) :
    ∃ widerAfter, next? (c :: widerRest) = some (lexeme, widerAfter) ∧
      gap.Widens after widerAfter := by
  have bound := readMeasured_length_le numeral.value afterNumeral
  rw [parts] at bound
  obtain ⟨widerAfterNumeral, wider_found, later⟩ :=
    read?_eq_some_of_widens widens numeral_found (Nat.le_trans outside bound)
  obtain ⟨widerAfter, wider_parts, behind⟩ :=
    (readMeasured_isLocal numeral.value).eq_of_widens later parts outside
  exact ⟨widerAfter, by rw [next?_of_numeral wider_found, wider_parts], behind⟩

private theorem next?_widens_of_name (widens : gap.Widens (c :: rest) (c :: widerRest))
    (no_numeral : read? (c :: widerRest) = none) (start : startsName (c :: rest) = true)
    (parts : readNamed (c :: rest) = (lexeme, after)) (outside : gap.rest.length ≤ after.length) :
    ∃ widerAfter, next? (c :: widerRest) = some (lexeme, widerAfter) ∧
      gap.Widens after widerAfter := by
  have bound := readNamed_length_le (c :: rest)
  rw [parts] at bound
  have wider_start := startsName_announcesName.wider widens start (Nat.le_trans outside bound)
  obtain ⟨widerAfter, wider_parts, behind⟩ := readNamed_isLocal.eq_of_widens widens parts outside
  exact ⟨widerAfter, by rw [next?_of_name no_numeral wider_start, wider_parts], behind⟩

private theorem next?_widens_of_mark (widens : gap.Widens (c :: rest) (c :: widerRest))
    (left : gap.Widens rest widerRest) (no_numeral : read? (c :: widerRest) = none)
    (no_start : startsName (c :: rest) = false) (parts : readMarked c rest = (lexeme, after))
    (outside : gap.rest.length ≤ after.length) :
    ∃ widerAfter, next? (c :: widerRest) = some (lexeme, widerAfter) ∧
      gap.Widens after widerAfter := by
  have wider_no_start : startsName (c :: widerRest) = false := by
    rw [Bool.eq_false_iff] at no_start ⊢
    exact fun wider_start => no_start (startsName_announcesName.of_wider widens wider_start)
  obtain ⟨widerAfter, wider_parts, behind⟩ :=
    (readMarked_isLocal c).eq_of_widens left parts outside
  exact ⟨widerAfter, by rw [next?_of_mark no_numeral wider_no_start, wider_parts], behind⟩

/-- A token is read alike whatever layout is inserted behind it. -/
theorem next?_eq_some_of_widens (widens : gap.Widens text wider)
    (found : next? text = some (lexeme, after)) (outside : gap.rest.length ≤ after.length) :
    ∃ widerAfter, next? wider = some (lexeme, widerAfter) ∧ gap.Widens after widerAfter := by
  have shorter := next?_length_lt found
  cases text with
  | nil => cases found
  | cons c rest =>
    rw [List.length_cons] at shorter
    obtain ⟨widerRest, rfl, left⟩ := widens.of_cons (by omega)
    cases numeral : read? (c :: rest) with
    | some numeral_found =>
      have parts := Option.some.inj ((next?_of_numeral numeral).symm.trans found)
      exact next?_widens_of_numeral widens numeral parts outside
    | none =>
      have wider_none := read?_eq_none_of_widens widens (by rw [List.length_cons]; omega) numeral
      cases start : startsName (c :: rest) with
      | true =>
        have parts := Option.some.inj ((next?_of_name numeral start).symm.trans found)
        exact next?_widens_of_name widens wider_none start parts outside
      | false =>
        have parts := Option.some.inj ((next?_of_mark numeral start).symm.trans found)
        exact next?_widens_of_mark widens left wider_none start parts outside

end Next

theorem skipComment_cons_length_le (c : Char) (rest : List Char) :
    (skipComment (c :: rest)).length ≤ rest.length := by
  rw [skipComment.eq_def]
  split
  · contradiction
  · next parts =>
    rw [(List.cons.inj parts).2]
    exact Nat.le_succ _
  · next parts =>
    rw [(List.cons.inj parts).2]
    exact skipComment_length_le _

/-- Whether a comment is closed, or opened, by a character and what follows it. -/
def isPair (first second : Char) (c : Char) (rest : List Char) : Bool :=
  c == first && rest.head? == some second

theorem isPair_of_beginsLayout_snd {first second mark : Char} (layout : beginsLayout mark = true)
    (visible : beginsLayout second = false) (c : Char) (tail : List Char) :
    isPair first second c (mark :: tail) = false := by
  simp [isPair, ne_of_beginsLayout layout visible]

theorem skipComment_of_open {c : Char} {rest : List Char}
    (still_open : isPair '*' '/' c rest = false) : skipComment (c :: rest) = skipComment rest := by
  rw [skipComment.eq_def]
  split <;> simp_all [isPair]

theorem skipComment_isLocal : IsLocal fun text => ((), skipComment text) where
  length_le := skipComment_length_le
  agrees {gap text wider} widens outside := by
    refine ⟨rfl, ?_⟩
    replace outside : gap.rest.length ≤ (skipComment text).length := outside
    change gap.Widens (skipComment text) (skipComment wider)
    induction text using skipComment.induct generalizing wider with
    | case1 => exact absurd rfl widens.ne_nil
    | case2 rest =>
      obtain ⟨_, rfl, later⟩ := widens.of_cons (Nat.le_succ_of_le outside)
      obtain ⟨_, rfl, left⟩ := later.of_cons outside
      exact left
    | case3 c rest not_closed ih =>
      have still_open : isPair '*' '/' c rest = false := by
        cases rest <;> simp_all [isPair]
      rw [skipComment_of_open still_open] at outside ⊢
      obtain ⟨widerRest, rfl, left⟩ :=
        widens.of_cons (Nat.le_trans outside (skipComment_length_le rest))
      have wider_open : isPair '*' '/' c widerRest = false := by
        obtain ⟨_, _, same, _, _⟩ | ⟨_, _, _, rfl, rfl, _⟩ := left.cases_head
        · -- If the rest began inside the comment, the comment would take in some of it.
          obtain ⟨first, tail, parts⟩ := List.exists_cons_of_ne_nil gap.rest_ne_nil
          have taken := skipComment_cons_length_le first tail
          rw [same, parts, List.length_cons] at outside
          omega
        · exact still_open
      rw [skipComment_of_open wider_open]
      exact ih left outside

theorem skipLayout_comment (body : List Char) :
    skipLayout ('/' :: '*' :: body) = skipLayout (skipComment body) := by
  rw [skipLayout.eq_def]
  split
  · next parts => rw [(List.cons.inj (List.cons.inj parts).2).2]
  · next no_comment parts =>
    obtain ⟨slash, rest⟩ := List.cons.inj parts
    exact (no_comment body slash.symm rest.symm).elim
  · contradiction

theorem skipLayout_of_isBlank {c : Char} (blank : isBlank c = true) (rest : List Char) :
    skipLayout (c :: rest) = skipLayout rest := by
  have no_slash : c ≠ '/' := by
    rintro rfl
    revert blank
    decide
  rw [skipLayout.eq_def]
  split <;> simp_all

theorem skipLayout_of_visible {c : Char} {rest : List Char} (visible : isBlank c = false)
    (no_comment : isPair '/' '*' c rest = false) : skipLayout (c :: rest) = c :: rest := by
  rw [skipLayout.eq_def]
  split <;> simp_all [isPair]

/-- Layout is passed over alike if the rest comes after something else. -/
theorem widens_skipLayout (widens : gap.Widens text wider)
    (outside : gap.rest.length < (skipLayout text).length) :
    gap.Widens (skipLayout text) (skipLayout wider) := by
  induction text using skipLayout.induct generalizing wider with
  | case1 body ih =>
    rw [skipLayout_comment] at outside ⊢
    have layout := skipLayout_length_le (skipComment body)
    have comment := skipComment_length_le body
    obtain ⟨_, rfl, later⟩ := widens.of_cons (by simp only [List.length_cons]; omega)
    obtain ⟨widerBody, rfl, left⟩ := later.of_cons (by omega)
    rw [skipLayout_comment]
    exact ih (skipComment_isLocal.agrees left (Nat.le_trans (Nat.le_of_lt outside) layout)).2 outside
  | case2 c rest _ blank ih =>
    rw [skipLayout_of_isBlank blank] at outside ⊢
    have layout := skipLayout_length_le rest
    obtain ⟨widerRest, rfl, left⟩ := widens.of_cons (by omega)
    rw [skipLayout_of_isBlank blank]
    exact ih left outside
  | case3 c rest no_comment visible =>
    have visible : isBlank c = false := Bool.eq_false_iff.mpr visible
    have no_comment : isPair '/' '*' c rest = false := by
      cases rest <;> simp_all [isPair]
    rw [skipLayout_of_visible visible no_comment] at outside ⊢
    obtain ⟨widerRest, rfl, left⟩ := widens.of_cons (Nat.le_of_lt_succ outside)
    -- A slash before the insertion opens no comment: layout does not begin with a star.
    have wider_no_comment : isPair '/' '*' c widerRest = false := by
      obtain ⟨_, _, _, rfl, layout⟩ | ⟨_, _, _, rfl, rfl, _⟩ := left.cases_head
      · exact isPair_of_beginsLayout_snd layout (by decide) c _
      · exact no_comment
    rw [skipLayout_of_visible visible wider_no_comment]
    exact widens
  | case4 => exact absurd rfl widens.ne_nil

end Lexer

end Portability

import Portability.Text.Ascii
import Portability.Text.Blank

/-!
# Readers that look no further than they read

A reader takes something from the start of a text and leaves the rest. It is local if nothing that it
reads depends on what is inserted further on, provided that the insertion begins as layout does: with
a blank or a slash. The proviso is needed because readers look at characters that they leave, to
find out where a name or a number ends. Readers that are run one after another are local if each
of them is.
-/
namespace Portability.Text

/-- Whether the layout between two tokens can begin with the character. -/
def beginsLayout (c : Char) : Bool := c == '/' || isBlank c && c.toNat < 0x80

/-- The characters that layout can begin with. -/
def layoutMarks : List Char := ['/', '\t', '\n', '\x0b', '\x0c', '\r', ' ']

theorem mem_of_beginsLayout {c : Char} (layout : beginsLayout c = true) : c ∈ layoutMarks := by
  have named : ∀ code : Char, c.toNat = code.toNat → c = code := fun _ same => Char.toNat_inj.mp same
  simp only [beginsLayout, isBlank, Bool.or_eq_true, Bool.and_eq_true, beq_iff_eq,
    decide_eq_true_eq] at layout
  obtain rfl | ⟨blank, ascii⟩ := layout
  · simp [layoutMarks]
  -- Of the blanks only these six are characters of ASCII.
  · have codes : c.toNat = 9 ∨ c.toNat = 10 ∨ c.toNat = 11 ∨ c.toNat = 12 ∨ c.toNat = 13 ∨
        c.toNat = 32 := by omega
    obtain code | code | code | code | code | code := codes
    · simp [layoutMarks, named '\t' code]
    · simp [layoutMarks, named '\n' code]
    · simp [layoutMarks, named '\x0b' code]
    · simp [layoutMarks, named '\x0c' code]
    · simp [layoutMarks, named '\r' code]
    · simp [layoutMarks, named ' ' code]

theorem ne_of_beginsLayout {c other : Char} (layout : beginsLayout c = true)
    (visible : beginsLayout other = false) : c ≠ other := by
  rintro rfl
  rw [layout] at visible
  cases visible

/-- What is checked for each character that layout can begin with. -/
theorem eq_false_of_beginsLayout {property : Char → Bool}
    (never : layoutMarks.any property = false) {c : Char} (layout : beginsLayout c = true) :
    property c = false :=
  Bool.eq_false_iff.mpr (List.any_eq_false.mp never c (mem_of_beginsLayout layout))

theorem isDigit_of_beginsLayout {c : Char} (layout : beginsLayout c = true) : isDigit c = false :=
  eq_false_of_beginsLayout (by decide) layout

/-- A filler that begins as layout does, and the text that it is inserted before. -/
structure Gap where
  filler : List Char
  rest : List Char
  filler_begins : filler.head?.any beginsLayout = true
  rest_ne_nil : rest ≠ []

namespace Gap

variable {gap : Gap}

theorem filler_eq_cons (gap : Gap) :
    ∃ mark tail, gap.filler = mark :: tail ∧ beginsLayout mark = true := by
  have begins := gap.filler_begins
  cases parts : gap.filler with
  | nil => simp [parts] at begins
  | cons mark tail => exact ⟨mark, tail, rfl, by simpa [parts] using begins⟩

theorem rest_length_pos (gap : Gap) : 0 < gap.rest.length :=
  List.length_pos_iff.mpr gap.rest_ne_nil

/-- The text `wider` is `text` with the filler inserted before the rest. -/
def Widens (gap : Gap) (text wider : List Char) : Prop :=
  ∃ before, text = before ++ gap.rest ∧ wider = before ++ (gap.filler ++ gap.rest)

namespace Widens

variable {c : Char} {text wider : List Char}

theorem rest_length_le (widens : gap.Widens text wider) : gap.rest.length ≤ text.length := by
  obtain ⟨before, rfl, rfl⟩ := widens
  simp

theorem length_eq (widens : gap.Widens text wider) :
    wider.length = text.length + gap.filler.length := by
  obtain ⟨before, rfl, rfl⟩ := widens
  simp only [List.length_append]
  omega

/-- A text is wider from its first character on, or the filler comes first. -/
theorem cases_head (widens : gap.Widens text wider) :
    (∃ mark tail, text = gap.rest ∧ wider = mark :: tail ∧ beginsLayout mark = true) ∨
    ∃ c tail widerTail, text = c :: tail ∧ wider = c :: widerTail ∧ gap.Widens tail widerTail := by
  obtain ⟨before, rfl, rfl⟩ := widens
  cases before with
  | nil =>
    obtain ⟨mark, tail, filler, layout⟩ := gap.filler_eq_cons
    exact .inl ⟨mark, tail ++ gap.rest, rfl, by simp [filler], layout⟩
  | cons c before =>
    exact .inr ⟨c, _, _, rfl, rfl, before, rfl, rfl⟩

/-- A character that is not part of the rest stays where it is. -/
theorem of_cons (widens : gap.Widens (c :: text) wider) (outside : gap.rest.length ≤ text.length) :
    ∃ widerTail, wider = c :: widerTail ∧ gap.Widens text widerTail := by
  obtain ⟨_, _, same, _⟩ | ⟨head, tail, widerTail, same, rfl, tail_widens⟩ := widens.cases_head
  · rw [← same, List.length_cons] at outside
    omega
  · obtain ⟨rfl, rfl⟩ := List.cons.inj same
    exact ⟨widerTail, rfl, tail_widens⟩

theorem eq_of_length_eq (widens : gap.Widens text wider) (same : text.length = gap.rest.length) :
    text = gap.rest ∧ wider = gap.filler ++ gap.rest := by
  obtain ⟨before, rfl, rfl⟩ := widens
  have empty : before = [] := by
    rw [List.length_append] at same
    exact List.length_eq_zero_iff.mp (by omega)
  simp [empty]

theorem ne_nil (widens : gap.Widens text wider) : text ≠ [] := by
  have := widens.rest_length_le
  have := gap.rest_length_pos
  rintro rfl
  simp only [List.length_nil] at *
  omega

end Widens

end Gap

variable {α β : Type}

/-- A reader never lengthens a text, and what it reads does not depend on what is inserted later. -/
structure IsLocal (read : List Char → α × List Char) : Prop where
  length_le (text : List Char) : (read text).2.length ≤ text.length
  agrees {gap : Gap} {text wider : List Char} (widens : gap.Widens text wider)
    (outside : gap.rest.length ≤ (read text).2.length) :
    (read wider).1 = (read text).1 ∧ gap.Widens (read text).2 (read wider).2

/--
A reader that stops at a character, as it does at the characters that layout begins with, still
stops there.
-/
theorem Gap.Widens.agrees_of_stops {gap : Gap} {c : Char} {rest wider : List Char}
    {read : List Char → α × List Char} {found : α} {stops : Char → Prop}
    (widens : gap.Widens (c :: rest) wider)
    (read_stops : ∀ c rest, stops c → read (c :: rest) = (found, c :: rest))
    (at_layout : ∀ {mark}, beginsLayout mark = true → stops mark) (here : stops c) :
    (read wider).1 = (read (c :: rest)).1 ∧ gap.Widens (read (c :: rest)).2 (read wider).2 := by
  rw [read_stops c rest here]
  obtain ⟨mark, tail, _, rfl, layout⟩ | ⟨_, tail, widerTail, same, rfl, _⟩ := widens.cases_head
  · rw [read_stops mark tail (at_layout layout)]
    exact ⟨rfl, widens⟩
  · obtain ⟨rfl, rfl⟩ := List.cons.inj same
    rw [read_stops c widerTail here]
    exact ⟨rfl, widens⟩

/-- A reader that takes in a character and goes on is as local as what it goes on with. -/
theorem Gap.Widens.agrees_of_takes {gap : Gap} {c : Char} {rest wider : List Char}
    {read : List Char → α × List Char} {next : List Char → β × List Char} {f : β → α}
    (widens : gap.Widens (c :: rest) wider)
    (takes : ∀ rest, read (c :: rest) = (f (next rest).1, (next rest).2))
    (length_le : (next rest).2.length ≤ rest.length)
    (agrees : ∀ {wider}, gap.Widens rest wider → gap.rest.length ≤ (next rest).2.length →
      (next wider).1 = (next rest).1 ∧ gap.Widens (next rest).2 (next wider).2)
    (outside : gap.rest.length ≤ (read (c :: rest)).2.length) :
    (read wider).1 = (read (c :: rest)).1 ∧ gap.Widens (read (c :: rest)).2 (read wider).2 := by
  rw [takes] at outside ⊢
  obtain ⟨widerRest, rfl, left⟩ := widens.of_cons (Nat.le_trans outside length_le)
  obtain ⟨same, behind⟩ := agrees left outside
  rw [takes, same]
  exact ⟨rfl, behind⟩

namespace IsLocal

variable {read other : List Char → α × List Char}

theorem eq_of_widens (reads : IsLocal read) {gap : Gap} {text wider after : List Char} {found : α}
    (widens : gap.Widens text wider) (parts : read text = (found, after))
    (outside : gap.rest.length ≤ after.length) :
    ∃ widerAfter, read wider = (found, widerAfter) ∧ gap.Widens after widerAfter := by
  have agrees := reads.agrees widens (by rwa [parts])
  rw [parts] at agrees
  exact ⟨(read wider).2, Prod.ext agrees.1 rfl, agrees.2⟩

theorem pure (found : α) : IsLocal fun text => (found, text) where
  length_le _ := Nat.le_refl _
  agrees widens _ := ⟨rfl, widens⟩

theorem map (reads : IsLocal read) (f : α → β) :
    IsLocal fun text => (f (read text).1, (read text).2) where
  length_le := reads.length_le
  agrees widens outside := by
    obtain ⟨same, left⟩ := reads.agrees widens outside
    exact ⟨congrArg f same, left⟩

/-- One reader after another, where the second may depend on what the first has read. -/
theorem bind (reads : IsLocal read) {next : α → List Char → β × List Char}
    (next_reads : ∀ found, IsLocal (next found)) :
    IsLocal fun text => next (read text).1 (read text).2 where
  length_le text := Nat.le_trans ((next_reads _).length_le _) (reads.length_le text)
  agrees {gap text wider} widens outside := by
    -- The second reader leaves at least the rest, so the first one did too.
    obtain ⟨same, left⟩ := reads.agrees widens (Nat.le_trans outside ((next_reads _).length_le _))
    have later := (next_reads (read text).1).agrees left outside
    rwa [← same] at later ⊢

/-- A choice between readers is local if the insertion cannot change which of them is chosen. -/
theorem ite (reads : IsLocal read) (other_reads : IsLocal other) (chosen : List Char → Bool)
    (same_choice : ∀ {gap : Gap} {text wider : List Char}, gap.Widens text wider →
      gap.rest.length ≤ (if chosen text then read text else other text).2.length →
      chosen wider = chosen text) :
    IsLocal fun text => if chosen text then read text else other text where
  length_le text := by
    split
    · exact reads.length_le text
    · exact other_reads.length_le text
  agrees {gap text wider} widens outside := by
    rw [same_choice widens outside]
    split at outside
    · next yes =>
      simp only [yes, if_true]
      exact reads.agrees widens outside
    · next no =>
      simp only [no]
      exact other_reads.agrees widens outside

end IsLocal

/--
A part of a text that a character introduces. Where the body behind the character fails, nothing is
read, not even the character.
-/
def introduced (introduces : Char → Bool) (body : Char → List Char → Option β × List Char) :
    List Char → Option β × List Char
  | c :: rest =>
    if introduces c && (body c rest).1.isSome then body c rest else (none, c :: rest)
  | [] => (none, [])

theorem introduced_of_isSome {introduces : Char → Bool}
    {body : Char → List Char → Option β × List Char} {c : Char} {rest : List Char}
    (reads : (introduces c && (body c rest).1.isSome) = true) :
    introduced introduces body (c :: rest) = body c rest := by
  simp only [introduced, reads, if_true]

theorem introduced_of_isNone {introduces : Char → Bool}
    {body : Char → List Char → Option β × List Char} {c : Char} {rest : List Char}
    (fails : (introduces c && (body c rest).1.isSome) = false) :
    introduced introduces body (c :: rest) = (none, c :: rest) := by
  simp [introduced, fails]

/--
What an attempt looks at is more than what it reads, so a failure has to be seen in time: before
more than one character was taken in, and at the characters that layout begins with.
-/
theorem introduced_isLocal {introduces : Char → Bool}
    {body : Char → List Char → Option β × List Char}
    (visible : ∀ {mark}, beginsLayout mark = true → introduces mark = false)
    (body_isLocal : ∀ c, IsLocal (body c))
    (fails_at_layout : ∀ c {mark} tail, beginsLayout mark = true → (body c (mark :: tail)).1 = none)
    (fails_early : ∀ c text, (body c text).1 = none → text.length ≤ (body c text).2.length + 1) :
    IsLocal (introduced introduces body) where
  length_le text := by
    cases text with
    | nil => exact Nat.le_refl _
    | cons c rest =>
      cases reads : introduces c && (body c rest).1.isSome with
      | true =>
        rw [introduced_of_isSome reads]
        exact Nat.le_succ_of_le ((body_isLocal c).length_le rest)
      | false => exact Nat.le_of_eq (by rw [introduced_of_isNone reads])
  agrees {gap text wider} widens outside := by
    cases text with
    | nil => exact absurd rfl widens.ne_nil
    | cons c rest =>
      cases reads : introduces c && (body c rest).1.isSome with
      | true =>
        rw [introduced_of_isSome reads] at outside ⊢
        obtain ⟨widerRest, rfl, left⟩ :=
          widens.of_cons (Nat.le_trans outside ((body_isLocal c).length_le rest))
        have agrees := (body_isLocal c).agrees left outside
        rwa [introduced_of_isSome (by rw [agrees.1, reads])]
      | false =>
        rw [introduced_of_isNone reads]
        suffices stops : introduced introduces body wider = (none, wider) by
          rw [stops]
          exact ⟨rfl, widens⟩
        obtain ⟨mark, tail, _, rfl, layout⟩ | ⟨_, _, widerRest, same, rfl, left⟩ := widens.cases_head
        · exact introduced_of_isNone (by rw [visible layout, Bool.false_and])
        obtain ⟨rfl, rfl⟩ := List.cons.inj same
        apply introduced_of_isNone
        -- The character may introduce a part that has no body, so the body has to fail again.
        cases introducing : introduces c with
        | false => rfl
        | true =>
          have fails : (body c rest).1 = none := by simpa [introducing] using reads
          -- The body fails on the insertion itself, or else fails before it comes to the rest.
          obtain ⟨mark, tail, _, rfl, layout⟩ | ⟨_, tail, _, parts, _, later⟩ := left.cases_head
          · rw [fails_at_layout c tail layout]
            rfl
          · have early := fails_early c rest fails
            have bound := later.rest_length_le
            rw [parts, List.length_cons] at early
            rw [((body_isLocal c).agrees left (by rw [parts]; omega)).1, fails]
            rfl

theorem splitDigits_cons {c : Char} (digit : isDigit c = true) (rest : List Char) :
    splitDigits (c :: rest) = (c :: (splitDigits rest).1, (splitDigits rest).2) := by
  simp [splitDigits, digit]

theorem splitDigits_of_not_isDigit {c : Char} (other : isDigit c = false) (rest : List Char) :
    splitDigits (c :: rest) = ([], c :: rest) := by
  simp [splitDigits, other]

theorem splitDigits_length_le (text : List Char) :
    (splitDigits text).2.length ≤ text.length :=
  (List.dropWhile_sublist isDigit).length_le

theorem splitDigits_isLocal : IsLocal splitDigits where
  length_le := splitDigits_length_le
  agrees {gap text wider} widens outside := by
    induction text generalizing wider with
    | nil => exact absurd rfl widens.ne_nil
    | cons c rest ih =>
      cases digit : isDigit c with
      | true =>
        exact widens.agrees_of_takes (splitDigits_cons digit) (splitDigits_length_le rest) ih outside
      | false =>
        exact widens.agrees_of_stops (fun _ rest other => splitDigits_of_not_isDigit other rest)
          isDigit_of_beginsLayout digit

end Portability.Text

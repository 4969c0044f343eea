import Portability.Value.Component

/-!
# Writing out components

Written out as lexemes again, a function is its name, its contents and a closing parenthesis. Reading
and writing out are inverse: what was written out is read back, whatever hash notations and
at-keywords are strewn in between, and what was read is, written out, what the reader took in. Only
the parentheses differ that no function needs: the one that ended the value is not written, and
functions that were open at the end of the lexemes are closed.
-/
namespace Portability

namespace Lexeme

/-- The end of a function, or of a value. -/
def closing : Lexeme := .symbol ')'

/-- Whether components are made of the lexeme; hash notations and at-keywords are passed over. -/
def isKept : Lexeme → Bool
  | .hash _ | .atKeyword _ => false
  | _ => true

def opensFunction : Lexeme → Bool
  | .function _ => true
  | _ => false

/--
How many functions are open behind these lexemes, where `depth` were open before them; nothing if
there is a closing parenthesis among them that closes no function.
-/
def openBehind? (depth : Nat) : List Lexeme → Option Nat
  | [] => some depth
  | lexeme :: rest =>
    if lexeme.isClosing then
      match depth with
      | 0 => none
      | outer + 1 => openBehind? outer rest
    else openBehind? (if lexeme.opensFunction then depth + 1 else depth) rest

theorem eq_closing {lexeme : Lexeme} (closes : lexeme.isClosing = true) : lexeme = closing := by
  cases lexeme with
  | symbol c =>
    have same : c = ')' := by simpa [isClosing] using closes
    rw [same, closing]
  | _ => cases closes

end Lexeme

namespace Component

open Lexeme (closing)

mutual

/-- The lexemes of a component. -/
def lexemes : Component → List Lexeme
  | ident name => [.ident name]
  | text content => [.text content]
  | url address => [.url address]
  | number value => [.number value]
  | percentage ratio => [.percentage ratio]
  | dimension value unit => [.dimension value unit]
  | function name contents => .function name :: (unparse contents ++ [closing])
  | symbol c => [.symbol c]

/-- The lexemes of components side by side. -/
def unparse : List Component → List Lexeme
  | [] => []
  | first :: rest => first.lexemes ++ unparse rest

end

mutual

/-- Whether no closing parenthesis is a component by itself, at any depth. -/
def isBalanced : Component → Bool
  | symbol c => c != ')'
  | function _ contents => areBalanced contents
  | _ => true

def areBalanced : List Component → Bool
  | [] => true
  | first :: rest => first.isBalanced && areBalanced rest

end

theorem unparse_append (first second : List Component) :
    unparse (first ++ second) = unparse first ++ unparse second := by
  induction first with
  | nil => rfl
  | cons component rest ih => rw [List.cons_append, unparse, ih, unparse, List.append_assoc]

theorem areBalanced_append (first second : List Component) :
    areBalanced (first ++ second) = (areBalanced first && areBalanced second) := by
  induction first with
  | nil => rfl
  | cons component rest ih => rw [List.cons_append, areBalanced, ih, areBalanced, Bool.and_assoc]

/-- How far reading has come: the open functions, and what was read in the innermost of them. -/
structure Progress where
  opened : List Opened
  /-- Newest first. -/
  done : List Component

namespace Progress

/-- What one lexeme adds. Nothing if it ends the value. -/
def next (progress : Progress) (lexeme : Lexeme) : Option Progress :=
  if lexeme.isClosing then
    match progress.opened with
    | [] => none
    | innermost :: outer =>
      some ⟨outer, function innermost.name progress.done.reverse :: innermost.before⟩
  else match lexeme with
    | .function name => some ⟨⟨name, progress.done⟩ :: progress.opened, []⟩
    | other => some { progress with done := (ofLexeme? other).toList ++ progress.done }

/-- What is read if the lexemes end here. -/
def result (progress : Progress) : List Component := closeAll progress.opened progress.done

end Progress

theorem readFrom_cons (progress : Progress) (lexeme : Lexeme) (rest : List Lexeme) :
    readFrom progress.opened progress.done (lexeme :: rest) =
      match progress.next lexeme with
      | some further => readFrom further.opened further.done rest
      | none => (progress.done.reverse, rest) := by
  obtain ⟨opened, done⟩ := progress
  rw [readFrom.eq_def]
  unfold Progress.next
  dsimp only
  cases lexeme.isClosing with
  | true => cases opened <;> rfl
  | false => cases lexeme <;> rfl

/-- Lexemes that do not end the value are read, and then what follows them. -/
theorem readFrom_append {before after : Progress} {lexemes : List Lexeme}
    (taken : lexemes.foldlM Progress.next before = some after) (rest : List Lexeme) :
    readFrom before.opened before.done (lexemes ++ rest) =
      readFrom after.opened after.done rest := by
  induction lexemes generalizing before with
  | nil =>
    cases taken
    rfl
  | cons lexeme others ih =>
    rw [List.foldlM_cons, Option.bind_eq_bind, Option.bind_eq_some_iff] at taken
    obtain ⟨further, stepped, later⟩ := taken
    rw [List.cons_append, readFrom_cons, stepped]
    exact ih later

/-- At the end of the lexemes all open functions end too. -/
theorem read_of_foldlM {after : Progress} {lexemes : List Lexeme}
    (taken : lexemes.foldlM Progress.next ⟨[], []⟩ = some after) :
    read lexemes = (after.result, []) := by
  have whole := readFrom_append taken []
  rwa [List.append_nil] at whole

/-- Passing over a lexeme leaves everything as it is. -/
theorem Progress.next_of_not_isKept (progress : Progress) {lexeme : Lexeme}
    (dropped : lexeme.isKept = false) : progress.next lexeme = some progress := by
  cases lexeme with
  | hash name | atKeyword name => rfl
  | _ => cases dropped

theorem Progress.next_of_ofLexeme? (progress : Progress) {lexeme : Lexeme} {component : Component}
    (made : ofLexeme? lexeme = some component) (other : lexeme.isClosing = false) :
    progress.next lexeme = some { progress with done := component :: progress.done } := by
  unfold next
  rw [other]
  cases lexeme with
  | function name | hash name | atKeyword name => cases made
  | _ =>
    cases made
    rfl

theorem foldlM_next_filter (progress : Progress) (lexemes : List Lexeme) :
    (lexemes.filter (·.isKept)).foldlM Progress.next progress =
      lexemes.foldlM Progress.next progress := by
  induction lexemes generalizing progress with
  | nil => rfl
  | cons lexeme rest ih =>
    cases kept : lexeme.isKept with
    | true =>
      rw [List.filter_cons_of_pos kept, List.foldlM_cons, List.foldlM_cons]
      exact bind_congr ih
    | false =>
      have dropped : ¬lexeme.isKept = true := by simp [kept]
      rw [List.filter_cons_of_neg dropped, ih, List.foldlM_cons, progress.next_of_not_isKept kept]
      rfl

/-! What is written out is read back. -/

theorem Progress.next_closing (name : String) (before done : List Component)
    (outer : List Opened) :
    (⟨⟨name, before⟩ :: outer, done⟩ : Progress).next closing =
      some ⟨outer, function name done.reverse :: before⟩ := rfl

mutual

theorem foldlM_next_lexemes (opened : List Opened) (done : List Component) :
    ∀ component : Component, component.isBalanced = true →
      component.lexemes.foldlM Progress.next ⟨opened, done⟩ =
        some ⟨opened, component :: done⟩
  | function name contents, balanced => by
    -- The contents are read while the function is open, and its end puts them into it.
    have inside := foldlM_next_unparse (⟨name, done⟩ :: opened) [] contents balanced
    rw [lexemes, List.foldlM_cons]
    change List.foldlM Progress.next ⟨⟨name, done⟩ :: opened, []⟩ _ = _
    rw [List.foldlM_append, inside, List.append_nil, Option.bind_eq_bind, Option.bind_some,
      List.foldlM_cons, Progress.next_closing, List.reverse_reverse]
    rfl
  | symbol c, balanced => by
    have other : (Lexeme.symbol c).isClosing = false := by
      simpa [isBalanced, Lexeme.isClosing] using balanced
    rw [lexemes, List.foldlM_cons, Progress.next_of_ofLexeme? _ rfl other]
    rfl
  | ident _, _ | text _, _ | url _, _ | number _, _ | percentage _, _ | dimension _ _, _ => rfl

theorem foldlM_next_unparse (opened : List Opened) (done : List Component) :
    ∀ components : List Component, areBalanced components = true →
      (unparse components).foldlM Progress.next ⟨opened, done⟩ =
        some ⟨opened, components.reverse ++ done⟩
  | [], _ => rfl
  | first :: rest, balanced => by
    rw [areBalanced, Bool.and_eq_true] at balanced
    rw [unparse, List.foldlM_append, foldlM_next_lexemes opened done first balanced.1,
      Option.bind_eq_bind, Option.bind_some,
      foldlM_next_unparse opened (first :: done) rest balanced.2]
    simp

end

/-! What is read can be written out again. -/

theorem lexemes_of_ofLexeme? {lexeme : Lexeme} {component : Component}
    (made : ofLexeme? lexeme = some component) :
    component.lexemes = [lexeme] ∧ lexeme.isKept = true := by
  cases lexeme with
  | function name | hash name | atKeyword name => cases made
  | _ =>
    cases made
    exact ⟨rfl, rfl⟩

theorem isBalanced_of_ofLexeme? {lexeme : Lexeme} {component : Component}
    (made : ofLexeme? lexeme = some component) (other : lexeme.isClosing = false) :
    component.isBalanced = true := by
  cases lexeme with
  | function name | hash name | atKeyword name => cases made
  | symbol c =>
    cases made
    simpa [isBalanced, Lexeme.isClosing] using other
  | _ =>
    cases made
    rfl

/-- The lexemes of open functions and of what precedes each of them. -/
def unparseOpened : List Opened → List Lexeme
  | [] => []
  | innermost :: outer =>
    unparseOpened outer ++ unparse innermost.before.reverse ++ [.function innermost.name]

namespace Progress

/-- The lexemes of what has been read so far. -/
def lexemes (progress : Progress) : List Lexeme :=
  unparseOpened progress.opened ++ unparse progress.done.reverse

/-- Whether nothing that has been read so far is a closing parenthesis by itself. -/
def IsBalanced (progress : Progress) : Prop :=
  areBalanced progress.done.reverse = true ∧
    ∀ function ∈ progress.opened, areBalanced function.before.reverse = true

theorem next_eq_none_iff {progress : Progress} {lexeme : Lexeme} :
    progress.next lexeme = none ↔ lexeme = closing ∧ progress.opened = [] := by
  unfold next
  constructor
  · intro ended
    split at ended
    next closes =>
      split at ended
      next outside => exact ⟨Lexeme.eq_closing closes, outside⟩
      · cases ended
    · split at ended <;> cases ended
  · rintro ⟨rfl, outside⟩
    rw [outside]
    rfl

/-- All that one lexeme can do. -/
theorem next_cases {before after : Progress} {lexeme : Lexeme}
    (stepped : before.next lexeme = some after) :
    (∃ innermost outer, lexeme = closing ∧ before.opened = innermost :: outer ∧
      after = ⟨outer, function innermost.name before.done.reverse :: innermost.before⟩) ∨
    (∃ name, lexeme = .function name ∧ after = ⟨⟨name, before.done⟩ :: before.opened, []⟩) ∨
    (∃ component, ofLexeme? lexeme = some component ∧ lexeme.isClosing = false ∧
      after = { before with done := component :: before.done }) ∨
    (lexeme.isKept = false ∧ after = before) := by
  unfold next at stepped
  split at stepped
  next closes =>
    left
    split at stepped
    · cases stepped
    next innermost outer shape =>
      exact ⟨innermost, outer, Lexeme.eq_closing closes, shape, (Option.some.inj stepped).symm⟩
  next other =>
    have unclosed : lexeme.isClosing = false := by simpa using other
    right
    cases lexeme with
    | function name => exact .inl ⟨name, rfl, (Option.some.inj stepped).symm⟩
    | hash name | atKeyword name => exact .inr (.inr ⟨rfl, (Option.some.inj stepped).symm⟩)
    | _ => exact .inr (.inl ⟨_, rfl, unclosed, (Option.some.inj stepped).symm⟩)

theorem lexemes_next {before after : Progress} {lexeme : Lexeme}
    (stepped : before.next lexeme = some after) :
    after.lexemes = before.lexemes ++ [lexeme].filter (·.isKept) := by
  unfold lexemes
  rcases next_cases stepped with ⟨innermost, outer, rfl, shape, rfl⟩ | ⟨name, rfl, rfl⟩ |
    ⟨component, made, _, rfl⟩ | ⟨dropped, rfl⟩
  -- The end of a function moves it from the open ones into what precedes it.
  · rw [shape]
    simp [unparseOpened, unparse_append, unparse, Component.lexemes, Lexeme.isKept, closing]
  · simp [unparseOpened, unparse, Lexeme.isKept]
  · obtain ⟨written, kept⟩ := lexemes_of_ofLexeme? made
    simp [unparse_append, unparse, written, kept]
  · simp [dropped]

theorem isBalanced_next {before after : Progress} {lexeme : Lexeme}
    (stepped : before.next lexeme = some after) (balanced : before.IsBalanced) :
    after.IsBalanced := by
  obtain ⟨own, outside⟩ := balanced
  -- A closing parenthesis is only read as the end of a function, never as a component.
  rcases next_cases stepped with ⟨innermost, outer, _, shape, rfl⟩ | ⟨name, _, rfl⟩ |
    ⟨component, made, other, rfl⟩ | ⟨_, rfl⟩
  · rw [shape] at outside
    obtain ⟨around, further⟩ := List.forall_mem_cons.mp outside
    refine ⟨?_, further⟩
    simp [areBalanced_append, areBalanced, isBalanced, around, own]
  · exact ⟨rfl, List.forall_mem_cons.mpr ⟨own, outside⟩⟩
  · refine ⟨?_, outside⟩
    simp [areBalanced_append, areBalanced, own, isBalanced_of_ofLexeme? made other]
  · exact ⟨own, outside⟩

theorem openBehind?_next {before after : Progress} {lexeme : Lexeme}
    (stepped : before.next lexeme = some after) (rest : List Lexeme) :
    Lexeme.openBehind? before.opened.length (lexeme :: rest) =
      Lexeme.openBehind? after.opened.length rest := by
  rw [Lexeme.openBehind?.eq_def]
  dsimp only
  rcases next_cases stepped with ⟨innermost, outer, rfl, shape, rfl⟩ | ⟨name, rfl, rfl⟩ |
    ⟨component, made, other, rfl⟩ | ⟨dropped, rfl⟩
  · rw [shape]
    rfl
  · rfl
  · rw [other]
    cases lexeme with
    | function name => cases made
    | _ => rfl
  · cases lexeme with
    | hash name | atKeyword name => rfl
    | _ => cases dropped

end Progress

/-- The run: the lexemes that were taken in are those of what was read, and nothing else changes
the number of open functions. -/
theorem foldlM_next_spec {before after : Progress} {lexemes : List Lexeme}
    (taken : lexemes.foldlM Progress.next before = some after) :
    after.lexemes = before.lexemes ++ lexemes.filter (·.isKept) ∧
    (before.IsBalanced → after.IsBalanced) ∧
    Lexeme.openBehind? before.opened.length lexemes = some after.opened.length := by
  induction lexemes generalizing before with
  | nil =>
    cases taken
    exact ⟨by simp, id, rfl⟩
  | cons lexeme rest ih =>
    rw [List.foldlM_cons, Option.bind_eq_bind, Option.bind_eq_some_iff] at taken
    obtain ⟨further, stepped, later⟩ := taken
    obtain ⟨written, balanced, depth⟩ := ih later
    refine ⟨?_, fun start => balanced (Progress.isBalanced_next stepped start), ?_⟩
    · rw [written, Progress.lexemes_next stepped, List.append_assoc, ← List.filter_append,
        List.singleton_append]
    · rw [Progress.openBehind?_next stepped, depth]

/-- Reading takes in all lexemes, or those up to a closing parenthesis that closes no function. -/
theorem readFrom_cases (before : Progress) (lexemes : List Lexeme) :
    (∃ after, lexemes.foldlM Progress.next before = some after ∧
      readFrom before.opened before.done lexemes = (after.result, [])) ∨
    (∃ inside rest after, lexemes = inside ++ closing :: rest ∧
      inside.foldlM Progress.next before = some after ∧ after.opened = [] ∧
      readFrom before.opened before.done lexemes = (after.done.reverse, rest)) := by
  induction lexemes generalizing before with
  | nil => exact .inl ⟨before, rfl, rfl⟩
  | cons lexeme rest ih =>
    rw [readFrom_cons]
    cases stepped : before.next lexeme with
    | none =>
      -- Only a closing parenthesis outside all functions stops the reader.
      obtain ⟨closes, outside⟩ := Progress.next_eq_none_iff.mp stepped
      exact .inr ⟨[], rest, before, by rw [closes, List.nil_append], rfl, outside, rfl⟩
    | some further =>
      rcases ih further with ⟨after, taken, whole⟩ | ⟨inside, behind, after, shape, taken, ended⟩
      · exact .inl ⟨after, by rw [List.foldlM_cons, stepped]; exact taken, whole⟩
      · refine .inr ⟨lexeme :: inside, behind, after, by rw [shape, List.cons_append], ?_, ended⟩
        rw [List.foldlM_cons, stepped]
        exact taken

theorem unparse_closeAll (opened : List Opened) (done : List Component) :
    unparse (closeAll opened done) =
      unparseOpened opened ++ unparse done.reverse ++ List.replicate opened.length closing := by
  induction opened generalizing done with
  | nil => simp [closeAll, unparseOpened]
  | cons innermost outer ih =>
    rw [closeAll, ih]
    simp [unparseOpened, unparse_append, unparse, lexemes, List.replicate_succ]

theorem areBalanced_closeAll {opened : List Opened} {done : List Component}
    (balanced : Progress.IsBalanced ⟨opened, done⟩) : areBalanced (closeAll opened done) = true := by
  induction opened generalizing done with
  | nil => exact balanced.1
  | cons innermost outer ih =>
    obtain ⟨around, further⟩ := List.forall_mem_cons.mp balanced.2
    refine ih ⟨?_, further⟩
    have own : areBalanced done.reverse = true := balanced.1
    simp [areBalanced_append, areBalanced, isBalanced, around, own]

/-- The lexemes of components are taken in, and all functions that they open are closed again. -/
theorem foldlM_next_of_filter_eq {components : List Component} {lexemes : List Lexeme}
    (balanced : areBalanced components = true)
    (written : lexemes.filter (·.isKept) = unparse components) :
    lexemes.foldlM Progress.next ⟨[], []⟩ = some ⟨[], components.reverse⟩ := by
  rw [← foldlM_next_filter, written, foldlM_next_unparse [] [] components balanced,
    List.append_nil]

theorem read_of_filter_eq {components : List Component} {lexemes : List Lexeme}
    (balanced : areBalanced components = true)
    (written : lexemes.filter (·.isKept) = unparse components) :
    read lexemes = (components, []) := by
  rw [read_of_foldlM (foldlM_next_of_filter_eq balanced written), Progress.result, closeAll,
    List.reverse_reverse]

theorem read_append_closing {components : List Component} {lexemes : List Lexeme}
    (balanced : areBalanced components = true)
    (written : lexemes.filter (·.isKept) = unparse components) (rest : List Lexeme) :
    read (lexemes ++ closing :: rest) = (components, rest) := by
  rw [read, readFrom_append (foldlM_next_of_filter_eq balanced written), readFrom_cons,
    Progress.next_eq_none_iff.mpr ⟨rfl, rfl⟩, List.reverse_reverse]

/-- What was read is balanced, and written out it is what was taken in. -/
theorem unparse_read (lexemes : List Lexeme) :
    areBalanced (read lexemes).1 = true ∧
    ((∃ depth, (read lexemes).2 = [] ∧ Lexeme.openBehind? 0 lexemes = some depth ∧
        unparse (read lexemes).1 =
          lexemes.filter (·.isKept) ++ List.replicate depth closing) ∨
      ∃ inside, lexemes = inside ++ closing :: (read lexemes).2 ∧
        Lexeme.openBehind? 0 inside = some 0 ∧
        unparse (read lexemes).1 = inside.filter (·.isKept)) := by
  have start : Progress.IsBalanced ⟨[], []⟩ := ⟨rfl, by simp⟩
  rcases readFrom_cases ⟨[], []⟩ lexemes with
    ⟨after, taken, whole⟩ | ⟨inside, rest, after, shape, taken, outside, whole⟩
  -- The value reaches to the end, where the functions that are still open are closed.
  · obtain ⟨written, balanced, depth⟩ := foldlM_next_spec taken
    change read lexemes = _ at whole
    rw [whole]
    refine ⟨areBalanced_closeAll (balanced start), .inl ⟨after.opened.length, rfl, depth, ?_⟩⟩
    rw [Progress.result, unparse_closeAll, ← Progress.lexemes, written]
    rfl
  -- The value ends at a parenthesis, and no function is open there.
  · obtain ⟨written, balanced, depth⟩ := foldlM_next_spec taken
    change read lexemes = _ at whole
    rw [whole]
    rw [outside] at depth
    refine ⟨(balanced start).1, .inr ⟨inside, shape, depth, ?_⟩⟩
    rw [Progress.lexemes, outside] at written
    exact written

/--
Reading and writing out are inverse. Components without stray parentheses are read back from their
lexemes, up to the end or up to a parenthesis that ends the value; behind that the next value begins.
What is read has no stray parentheses, and written out it is what was taken in, the parenthesis at
the end of the value left out and one put in for each function that was still open.
-/
theorem read_inverse_unparse :
    (∀ (components : List Component) (lexemes rest : List Lexeme) (times : Nat),
      areBalanced components = true → lexemes.filter (·.isKept) = unparse components →
        read lexemes = (components, []) ∧
        read (lexemes ++ closing :: rest) = (components, rest) ∧
        readTimes (times + 1) (lexemes ++ closing :: rest) =
          components :: readTimes times rest) ∧
    ∀ lexemes : List Lexeme,
      areBalanced (read lexemes).1 = true ∧
      ((∃ depth, (read lexemes).2 = [] ∧ Lexeme.openBehind? 0 lexemes = some depth ∧
          unparse (read lexemes).1 =
            lexemes.filter (·.isKept) ++ List.replicate depth closing) ∨
        ∃ inside, lexemes = inside ++ closing :: (read lexemes).2 ∧
          Lexeme.openBehind? 0 inside = some 0 ∧
          unparse (read lexemes).1 = inside.filter (·.isKept)) := by
  refine ⟨fun components lexemes rest times balanced written => ?_, unparse_read⟩
  have ended := read_append_closing balanced written rest
  refine ⟨read_of_filter_eq balanced written, ended, ?_⟩
  rw [readTimes, ended]

/-- A function in a function, and a hash notation and an at-keyword on the way. -/
def nested : List Lexeme :=
  [.function "a", .hash "b", .ident "c", .function "d", closing, closing, .atKeyword "e",
    .symbol ',', .text "f"]

def nestedComponents : List Component :=
  [.function "a" [.ident "c", .function "d" []], .symbol ',', .text "f"]

theorem read_inverse_unparse_nested :
    areBalanced nestedComponents = true ∧
    nested.filter (·.isKept) = unparse nestedComponents ∧
    (read nested = (nestedComponents, []) ∧
      read (nested ++ closing :: [.ident "g"]) = (nestedComponents, [.ident "g"]) ∧
      readTimes 2 (nested ++ closing :: [.ident "g"]) =
        nestedComponents :: readTimes 1 [.ident "g"]) :=
  ⟨rfl, rfl, read_inverse_unparse.1 nestedComponents nested [.ident "g"] 1 rfl rfl⟩

/-- Functions that were left open are closed. -/
example :
    unparse (read [.function "a", .ident "b", .function "c", .hash "d"]).1 =
      [.function "a", .ident "b", .function "c", closing, closing] := by rfl

end Component

end Portability

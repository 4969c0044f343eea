import Mathlib.Data.List.Infix
import Portability.Proofs.Value.Unparse

/-!
# Parentheses that end a value

Only functions are opened by the reader. A parenthesis that opens by itself is a symbol like any
other, and the next closing one ends the innermost function all the same, or the value if no function
is open. So a value reaches to the end of its lexemes if each closing parenthesis has a function to
end, and otherwise to the first one that has none. What stands before it is read, and what stands
behind it is left, even where the parentheses of the text match.
-/
namespace Portability

namespace Lexeme

/-- Whether a closing parenthesis can be the counterpart of the lexeme. -/
def opensGroup : Lexeme → Bool
  | .function _ => true
  | .symbol c => c == '('
  | _ => false

/-- Each closing parenthesis is matched by an opening lexeme before it that is still open there. -/
def AllMatched (opens : Lexeme → Bool) (lexemes : List Lexeme) : Prop :=
  ∀ before, before <+: lexemes → before.countP isClosing ≤ before.countP opens

instance (opens : Lexeme → Bool) (lexemes : List Lexeme) : Decidable (AllMatched opens lexemes) :=
  decidable_of_iff (∀ before ∈ lexemes.inits, before.countP isClosing ≤ before.countP opens)
    (forall_congr' fun before => imp_congr_left (List.mem_inits before lexemes))

/-- A lexeme that closes where all that was opened has been closed is not matched. -/
theorem not_allMatched_of_closing {opens : Lexeme → Bool} (other : opens closing = false)
    {inside rest : List Lexeme} (closed : inside.countP isClosing = inside.countP opens) :
    ¬AllMatched opens (inside ++ closing :: rest) := by
  intro matched
  have balance := matched (inside ++ [closing]) ⟨rest, by simp⟩
  have closes : closing.isClosing = true := rfl
  simp only [List.countP_append, List.countP_singleton, other, closes, if_true, closed] at balance
  exact absurd balance (by simp)

theorem openBehind?_append (depth : Nat) (before after : List Lexeme) :
    openBehind? depth (before ++ after) =
      (openBehind? depth before).bind fun behind => openBehind? behind after := by
  fun_induction openBehind? depth before with
  | case1 depth => rfl
  | case2 lexeme rest closes => simp [openBehind?, closes]
  | case3 lexeme rest closes outer ih =>
    rw [List.cons_append, openBehind?.eq_def]
    simp [closes, ih]
  | case4 depth lexeme rest other ih =>
    rw [List.cons_append, openBehind?.eq_def]
    simp [other, ih]

/-- The functions that are open are those that were opened and have not been closed. -/
theorem count_of_openBehind?_eq_some {depth behind : Nat} {lexemes : List Lexeme}
    (ends : openBehind? depth lexemes = some behind) :
    depth + lexemes.countP opensFunction = behind + lexemes.countP isClosing := by
  fun_induction openBehind? depth lexemes with
  | case1 depth =>
    cases ends
    rfl
  | case2 lexeme rest closes => cases ends
  | case3 lexeme rest closes outer ih =>
    have other : ¬lexeme.opensFunction = true := by
      rw [eq_closing closes]
      exact Bool.false_ne_true
    have later := ih ends
    rw [List.countP_cons_of_pos closes, List.countP_cons_of_neg other]
    omega
  | case4 depth lexeme rest other ih =>
    have later := ih ends
    rw [List.countP_cons_of_neg other]
    by_cases opens : lexeme.opensFunction = true
    · rw [if_pos opens] at later
      rw [List.countP_cons_of_pos opens]
      omega
    · rw [if_neg opens] at later
      rwa [List.countP_cons_of_neg opens]

/-- Lexemes that can be counted through to their end are matched, and so are those before them. -/
theorem allMatched_of_openBehind?_eq_some {behind : Nat} {lexemes : List Lexeme}
    (ends : openBehind? 0 lexemes = some behind) : AllMatched opensFunction lexemes := by
  rintro before ⟨after, rfl⟩
  rw [openBehind?_append, Option.bind_eq_some_iff] at ends
  obtain ⟨middle, reached, _⟩ := ends
  have balance := count_of_openBehind?_eq_some reached
  omega

end Lexeme

namespace Component

open Lexeme (closing isClosing AllMatched opensFunction)

/--
Reading takes in all lexemes, and keeps what is to be kept, if each closing parenthesis is matched
by a function. Otherwise it takes in the lexemes before the first that is not, where each function
has been closed, and leaves what is behind it.
-/
theorem read_ends_at_unmatched (lexemes : List Lexeme) :
    (AllMatched opensFunction lexemes →
      (read lexemes).2 = [] ∧
      unparse (read lexemes).1 = lexemes.filter (·.isKept) ++
        List.replicate (lexemes.countP opensFunction - lexemes.countP isClosing) closing) ∧
    (¬AllMatched opensFunction lexemes →
      ∃ inside, lexemes = inside ++ closing :: (read lexemes).2 ∧
        AllMatched opensFunction inside ∧
        inside.countP isClosing = inside.countP opensFunction ∧
        unparse (read lexemes).1 = inside.filter (·.isKept)) := by
  obtain ⟨_, ⟨depth, ended, counted, written⟩ | ⟨inside, parts, counted, written⟩⟩ :=
    unparse_read lexemes
  · have balance := Lexeme.count_of_openBehind?_eq_some counted
    have still_open : depth = lexemes.countP opensFunction - lexemes.countP isClosing := by
      omega
    rw [still_open] at written
    exact ⟨fun _ => ⟨ended, written⟩,
      fun unmatched => absurd (Lexeme.allMatched_of_openBehind?_eq_some counted) unmatched⟩
  · have balance := Lexeme.count_of_openBehind?_eq_some counted
    have closed : inside.countP isClosing = inside.countP opensFunction := by omega
    refine ⟨fun matched => ?_, fun _ => ?_⟩
    · rw [parts] at matched
      exact absurd matched (Lexeme.not_allMatched_of_closing rfl closed)
    · exact ⟨inside, parts, Lexeme.allMatched_of_openBehind?_eq_some counted, closed, written⟩

/-- Parentheses that do not match, while each closing one has a function: `calc((a) b`. -/
def halfOpen : List Lexeme :=
  [.function "calc", .symbol '(', .ident "a", closing, .ident "b"]

/-- Parentheses that match, while one of them has no function: `calc((a)) b`. -/
def groupInside : List Lexeme :=
  [.function "calc", .symbol '(', .ident "a", closing, closing, .ident "b"]

theorem read_ends_at_unmatched_group :
    AllMatched opensFunction halfOpen ∧ (read halfOpen).2 = [] ∧
    ¬AllMatched opensFunction groupInside ∧
    ∃ inside, groupInside = inside ++ closing :: (read groupInside).2 ∧
      unparse (read groupInside).1 = inside.filter (·.isKept) := by
  have matched : AllMatched opensFunction halfOpen := by decide
  have unmatched : ¬AllMatched opensFunction groupInside := by decide
  obtain ⟨ended, _⟩ := (read_ends_at_unmatched halfOpen).1 matched
  obtain ⟨inside, parts, _, _, written⟩ := (read_ends_at_unmatched groupInside).2 unmatched
  exact ⟨matched, ended, unmatched, inside, parts, written⟩

/-- It is not enough that parentheses match: the end of a group may be the end of the value. -/
theorem not_every_matched_read_through :
    ¬∀ lexemes, AllMatched Lexeme.opensGroup lexemes → (read lexemes).2 = [] := by
  intro every
  have through := every groupInside (by decide)
  cases through

end Component

end Portability

import Mathlib.Data.List.TakeWhile
import Portability.Support.State

/-!
# Spellings and the records behind them

A record makes its term available under one spelling: the term's own name, that name behind a
prefix, or another name altogether. When support is asked for, the spelling selects records by the
vendor prefix that is read off its first characters. The two agree for a record exactly if the
prefix it gives is the one that can be read off its spelling.
-/
namespace Portability

/-- A hyphen, word characters, and a hyphen. -/
def IsVendorPrefix (text : String) : Prop :=
  ∃ vendor : List Char, vendor ≠ [] ∧ (∀ c ∈ vendor, Text.isWordChar c = true) ∧
    text.toList = '-' :: (vendor ++ ['-'])

/-- A spelling has at most one vendor prefix, since no word character is a hyphen. -/
theorem vendorPrefix?_eq_some_iff {spelling text : String} :
    vendorPrefix? spelling = some text ↔
      IsVendorPrefix text ∧ text.toList <+: spelling.toList := by
  constructor
  · intro found
    unfold vendorPrefix? at found
    split at found
    next rest begun =>
      split at found
      next c vendor others word stopped =>
        cases found
        have shape : (String.ofList ('-' :: c :: vendor ++ ['-'])).toList =
            '-' :: (c :: vendor ++ ['-']) := String.toList_ofList
        refine ⟨⟨c :: vendor, List.cons_ne_nil c vendor, ?_, shape⟩, others, ?_⟩
        · intro d member
          rw [← word] at member
          exact List.mem_takeWhile_imp member
        · rw [shape, begun, ← List.takeWhile_append_dropWhile (p := Text.isWordChar) (l := rest),
            word, stopped]
          simp
      · cases found
    · cases found
  · rintro ⟨⟨vendor, some_char, word, shape⟩, rest, continued⟩
    -- The second hyphen is where the word characters end, whatever comes behind it.
    have hyphen : Text.isWordChar '-' = false := by decide
    have begun : spelling.toList = '-' :: (vendor ++ '-' :: rest) := by
      rw [← continued, shape]
      simp
    have taken : (vendor ++ '-' :: rest).takeWhile Text.isWordChar = vendor := by
      rw [List.takeWhile_append_of_pos word, List.takeWhile_cons_of_neg (by simp [hyphen]),
        List.append_nil]
    have stopped : (vendor ++ '-' :: rest).dropWhile Text.isWordChar = '-' :: rest := by
      rw [List.dropWhile_append_of_pos word, List.dropWhile_cons_of_neg (by simp [hyphen])]
    unfold vendorPrefix?
    simp only [begun, taken, stopped]
    cases vendor with
    | nil => exact absurd rfl some_char
    | cons c others =>
      apply congrArg some
      apply String.toList_inj.mp
      rw [shape, String.toList_ofList]
      rfl

/-- A text put before a term can be read off again just if it has the form of a vendor prefix. -/
theorem vendorPrefix?_append_iff (text term : String) :
    vendorPrefix? (text ++ term) = some text ↔ IsVendorPrefix text := by
  rw [vendorPrefix?_eq_some_iff, String.toList_append]
  exact and_iff_left (List.prefix_append _ _)

namespace SupportRecord

/-- The spelling under which a record makes a term available. -/
def spelling (record : SupportRecord) (term : String) : String := (record.alias? term).getD term

/-- Whether the prefix that a record gives is the vendor prefix of the spelling that it gives. -/
def Agrees (record : SupportRecord) (term : String) : Prop :=
  match record.otherName, record.vendor with
  | some name, vendor => vendorPrefix? name = vendor
  | none, some vendor => IsVendorPrefix vendor
  | none, none => vendorPrefix? term = none

theorem agrees_iff (record : SupportRecord) (term : String) :
    record.Agrees term ↔ record.vendor = vendorPrefix? (record.spelling term) := by
  unfold Agrees spelling alias?
  cases record.otherName with
  | some name => exact eq_comm
  | none =>
    cases record.vendor with
    | some vendor => exact (vendorPrefix?_append_iff vendor term).symm.trans eq_comm
    | none => exact eq_comm

instance (record : SupportRecord) (term : String) : Decidable (record.Agrees term) :=
  decidable_of_iff _ (record.agrees_iff term).symm

end SupportRecord

/-- A spelling is supported just if a record for its vendor prefix covers the version. -/
theorem supportState_eq_supported_iff {table : SupportTable} {browser version spelling : String}
    {records : List SupportRecord} (known : table.records? browser = some records) :
    supportState (some table) browser version spelling = .supported ↔
      ∃ record ∈ records, record.vendor = vendorPrefix? spelling ∧
        record.covers (versionNumber version) = true := by
  unfold supportState
  dsimp only
  rw [known]
  dsimp only
  split
  next selected =>
    simp only [List.any_eq_true, Bool.and_eq_true, beq_iff_eq] at selected
    exact iff_of_true rfl selected
  next none_selected =>
    simp only [List.any_eq_true, Bool.and_eq_true, beq_iff_eq] at none_selected
    exact iff_of_false SupportState.noConfusion none_selected

/-- Where a browser has records and none of them applies, the spelling is unsupported. -/
theorem supportState_eq_unsupported {table : SupportTable} {browser version spelling : String}
    {records : List SupportRecord} (known : table.records? browser = some records)
    (uncovered : ¬∃ record ∈ records, record.vendor = vendorPrefix? spelling ∧
      record.covers (versionNumber version) = true) :
    supportState (some table) browser version spelling = .unsupported := by
  rw [← supportState_eq_supported_iff known] at uncovered
  unfold supportState at uncovered ⊢
  dsimp only at uncovered ⊢
  rw [known] at uncovered ⊢
  dsimp only at uncovered ⊢
  split
  next selected => exact absurd (if_pos selected) uncovered
  · rfl

/-- The range of a record covers the version in which the term was added, not that of removal. -/
theorem SupportRecord.covers_of_range {record : SupportRecord} {version : Float}
    (since : record.added.number ≤ version) (before : version < record.removed.number) :
    record.covers version = true := by
  unfold covers
  rw [decide_eq_true since, decide_eq_true before]
  exact Bool.or_true _

/-- For a name without a vendor prefix, a record without one gives no name or another name. -/
theorem SupportRecord.alias?_of_vendor_none {record : SupportRecord} {term : String}
    (plain : record.vendor = none) : record.alias? term = record.otherName := by
  unfold alias?
  rw [plain]
  cases record.otherName <;> rfl

/-- A record that agrees with its spelling supports it throughout the range it gives. -/
theorem supportState_spelling {table : SupportTable} {browser version term : String}
    {records : List SupportRecord} {record : SupportRecord}
    (known : table.records? browser = some records) (member : record ∈ records)
    (agrees : record.Agrees term) (since : record.added.number ≤ versionNumber version)
    (before : versionNumber version < record.removed.number) :
    supportState (some table) browser version (record.spelling term) = .supported := by
  apply (supportState_eq_supported_iff known).mpr
  exact ⟨record, member, (record.agrees_iff term).mp agrees, record.covers_of_range since before⟩

end Portability

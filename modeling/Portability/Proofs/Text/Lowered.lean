import Portability.Proofs.Text.LowerCase

/-!
# Texts in lower case

What is found under the lower-case form of a name is found under that form itself: lower-casing a
text once more changes nothing. The letters that the runs give are in no run, so the tables do not
chain, and neither of the two capitals with rules of their own is ever written.
-/
namespace Portability.Text

/-- Whether no letter that one run gives is a letter of the other. -/
def CaseRun.misses (run other : CaseRun) : Bool :=
  Nat.blt other.last run.lower || Nat.blt (run.lower + (run.last - run.first)) other.first ||
    (List.range' 0 ((run.last - run.first) / run.step + 1)).all fun count =>
      (other.image? (run.lower + run.step * count)).isNone

theorem CaseRun.image?_eq_some_iff {run : CaseRun} {n lower : Nat} :
    run.image? n = some lower ↔
      run.first ≤ n ∧ n ≤ run.last ∧ (n - run.first) % run.step = 0 ∧
        lower = run.lower + (n - run.first) := by
  simp only [image?, Bool.and_eq_true, decide_eq_true_eq, beq_iff_eq, Option.ite_none_right_eq_some,
    Option.some.injEq, and_assoc, eq_comm (a := lower)]

theorem CaseRun.image?_eq_none_of_misses {run other : CaseRun} {n lower : Nat}
    (apart : run.misses other = true) (given : run.image? n = some lower) :
    other.image? lower = none := by
  obtain ⟨above, below, stepped, rfl⟩ := image?_eq_some_iff.mp given
  simp only [misses, Bool.or_eq_true, Nat.blt_eq, List.all_eq_true, Option.isNone_iff_eq_none] at apart
  rcases apart with (early | late) | checked
  · -- The letters of the other run end before those that this one gives.
    cases found : other.image? _ with
    | none => rfl
    | some image =>
      have within := (image?_eq_some_iff.mp found).2.1
      omega
  · cases found : other.image? _ with
    | none => rfl
    | some image =>
      have within := (image?_eq_some_iff.mp found).1
      omega
  · -- Where the two overlap, every letter has been looked at.
    have whole : run.step * ((n - run.first) / run.step) = n - run.first :=
      Nat.mul_div_cancel' (Nat.dvd_of_mod_eq_zero stepped)
    have counted : (n - run.first) / run.step ∈
        List.range' 0 ((run.last - run.first) / run.step + 1) := by
      have most : (n - run.first) / run.step ≤ (run.last - run.first) / run.step :=
        Nat.div_le_div_right (by omega)
      rw [List.mem_range'_1]
      exact ⟨Nat.zero_le _, by omega⟩
    have missed := checked _ counted
    rwa [whole] at missed

/-- No letter that some run gives has a lower-case form of its own. -/
theorem misses_of_mem {run other : CaseRun} (given : run ∈ lowercaseRuns)
    (taken : other ∈ lowercaseRuns) : run.misses other = true := by
  have all : (lowercaseRuns.all fun run => lowercaseRuns.all run.misses) = true := by
    decide +kernel
  exact List.all_eq_true.mp (List.all_eq_true.mp all run given) other taken

/-- No run gives a capital letter of ASCII. -/
theorem lower_ge_of_mem {run : CaseRun} (given : run ∈ lowercaseRuns) : 91 ≤ run.lower := by
  have all : (lowercaseRuns.all fun run => Nat.ble 91 run.lower) = true := by decide +kernel
  simpa using List.all_eq_true.mp all run given

/-- The one letter that becomes two characters, as a run. -/
def dottedCapital : CaseRun := ⟨0x130, 0x130, 1, 0x69⟩

theorem misses_dottedCapital {run : CaseRun} (given : run ∈ lowercaseRuns) :
    run.misses dottedCapital = true := by
  have all : (lowercaseRuns.all (·.misses dottedCapital)) = true := by decide +kernel
  exact List.all_eq_true.mp all run given

/-- Whether a character stays as it is when a text is lower-cased, wherever it stands. -/
def IsLowered (c : Char) : Prop := c ≠ 'Σ' ∧ c ≠ 'İ' ∧ lowerChar c = c

instance : DecidablePred IsLowered := fun c =>
  inferInstanceAs (Decidable (c ≠ 'Σ' ∧ c ≠ 'İ' ∧ lowerChar c = c))

theorem isLowered_of_lowerChar_eq {c : Char} (stays : lowerChar c = c) (other : c ≠ 'İ') :
    IsLowered c := by
  refine ⟨?_, other, stays⟩
  rintro rfl
  revert stays
  decide +kernel

theorem lowerChar_of_ascii {c : Char} (ascii : c.toNat < 0x80) : lowerChar c = c.toLower := by
  rw [lowerChar, if_pos ascii]

theorem isLowered_of_ascii {c : Char} (ascii : c.toNat < 0x80)
    (other : ¬(65 ≤ c.toNat ∧ c.toNat ≤ 90)) : IsLowered c := by
  apply isLowered_of_lowerChar_eq
  · rw [lowerChar_of_ascii ascii, toLower_of_not_upper other]
  · rintro rfl
    revert ascii
    decide

/-- A letter that some run gives stays as it is. -/
theorem isLowered_of_image? {run : CaseRun} {n lower : Nat} (member : run ∈ lowercaseRuns)
    (given : run.image? n = some lower) : IsLowered (Char.ofNat lower) := by
  have least : 91 ≤ lower := by
    have own := lower_ge_of_mem member
    have sum := (CaseRun.image?_eq_some_iff.mp given).2.2.2
    omega
  by_cases valid : lower.isValidChar
  · have number : (Char.ofNat lower).toNat = lower := by
      rw [Char.ofNat, dif_pos valid]
      rfl
    by_cases ascii : lower < 0x80
    · apply isLowered_of_ascii <;> rw [number] <;> omega
    · -- Outside ASCII the letter would need a run of its own, and all runs miss it.
      have unmoved : lowercaseRuns.findSome? (·.image? lower) = none := by
        rw [List.findSome?_eq_none_iff]
        intro other taken
        exact CaseRun.image?_eq_none_of_misses (misses_of_mem member taken) given
      apply isLowered_of_lowerChar_eq
      · rw [lowerChar, number, if_neg ascii, unmoved]
      · intro dotted
        have missed := CaseRun.image?_eq_none_of_misses (misses_dottedCapital member) given
        rw [dotted] at number
        rw [← number] at missed
        revert missed
        decide
  · have null : Char.ofNat lower = '\x00' := by
      rw [Char.ofNat, dif_neg valid]
      rfl
    rw [null]
    decide

theorem isLowered_lowerChar {c : Char} (other : c ≠ 'İ') : IsLowered (lowerChar c) := by
  by_cases ascii : c.toNat < 0x80
  · rw [lowerChar_of_ascii ascii]
    by_cases upper : 65 ≤ c.toNat ∧ c.toNat ≤ 90
    · have letters : ∀ n ∈ List.range' 65 26, IsLowered (Char.ofNat n).toLower := by decide
      have member : c.toNat ∈ List.range' 65 26 := by
        rw [List.mem_range'_1]
        omega
      simpa using letters c.toNat member
    · rw [toLower_of_not_upper upper]
      exact isLowered_of_ascii ascii upper
  · cases found : lowercaseRuns.findSome? (·.image? c.toNat) with
    | none =>
      have stays : lowerChar c = c := by rw [lowerChar, if_neg ascii, found]
      rw [stays]
      exact isLowered_of_lowerChar_eq stays other
    | some lower =>
      obtain ⟨run, member, given⟩ := List.exists_of_findSome?_eq_some found
      have moved : lowerChar c = Char.ofNat lower := by rw [lowerChar, if_neg ascii, found]
      rw [moved]
      exact isLowered_of_image? member given

/-- All that lower-casing writes is in lower case. -/
theorem isLowered_of_mem_lowerChars {before text : List Char} {c : Char}
    (member : c ∈ lowerChars before text) : IsLowered c := by
  induction text generalizing before with
  | nil => cases member
  | cons first rest ih =>
    rw [lowerChars] at member
    rcases List.mem_append.mp member with own | later
    · split at own
      · split at own <;> cases List.mem_singleton.mp own <;> decide +kernel
      · split at own
        · have two : c = 'i' ∨ c = '\u0307' := by simpa using own
          rcases two with rfl | rfl <;> decide +kernel
        next different =>
          cases List.mem_singleton.mp own
          exact isLowered_lowerChar (by simpa using different)
    · exact ih later

theorem lowerChars_of_isLowered {text : List Char} (before : List Char)
    (lowered : ∀ c ∈ text, IsLowered c) : lowerChars before text = text := by
  induction text generalizing before with
  | nil => rfl
  | cons first rest ih =>
    obtain ⟨⟨sigma, dotted, stays⟩, others⟩ := List.forall_mem_cons.mp lowered
    simp [lowerChars, sigma, dotted, stays, ih (first :: before) others]

/-- A lower-case form is its own lower-case form. -/
theorem lowerCase_lowerCase (text : String) : lowerCase (lowerCase text) = lowerCase text := by
  unfold lowerCase
  rw [String.toList_ofList, lowerChars_of_isLowered [] fun _ => isLowered_of_mem_lowerChars]

end Portability.Text

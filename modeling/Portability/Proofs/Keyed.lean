import Mathlib.Data.List.Induction
import Mathlib.Data.List.Nodup
import Portability.Keyed

/-!
# Entries that are stored one after another

What is stored under a name takes the place of what was there before, so no name is in a list of
stored entries twice, and each of them is the one that is looked up under its name.
-/
namespace Portability.Keyed

variable {α : Type} {entries pairs : List (String × α)} {name : String} {value : α}

def names (entries : List (String × α)) : List String := entries.map Prod.fst

theorem mem_of_get? (found : get? entries name = some value) : (name, value) ∈ entries := by
  obtain ⟨entry, first, rfl⟩ := Option.map_eq_some_iff.mp found
  have named : entry.1 = name := by simpa using List.find?_some first
  rw [← named]
  exact List.mem_of_find?_eq_some first

/-- A name that stands alone among the entries is looked up under itself. -/
theorem get?_of_alone (member : (name, value) ∈ entries)
    (alone : ∀ other ∈ entries, other.1 = name → other = (name, value)) :
    get? entries name = some value := by
  unfold get?
  cases found : entries.find? (·.1 == name) with
  | none => simpa using List.find?_eq_none.mp found (name, value) member
  | some entry =>
    have named : entry.1 = name := by simpa using List.find?_some found
    rw [alone entry (List.mem_of_find?_eq_some found) named]
    rfl

theorem get?_of_mem (distinct : (names entries).Nodup) (member : (name, value) ∈ entries) :
    get? entries name = some value := by
  apply get?_of_alone member
  intro other among named
  exact List.inj_on_of_nodup_map distinct among member named

theorem mem_of_mem_put {entry : String × α} (member : entry ∈ put entries name value) :
    entry = (name, value) ∨ entry ∈ entries := by
  induction entries with
  | nil => simpa [put] using member
  | cons first rest ih =>
    simp only [put] at member
    split at member
    next same =>
      rcases List.mem_cons.mp member with rfl | later
      · exact .inl (by rw [same])
      · exact .inr (List.mem_cons_of_mem _ later)
    · rcases List.mem_cons.mp member with rfl | later
      · exact .inr List.mem_cons_self
      · exact (ih later).imp_right (List.mem_cons_of_mem _)

theorem put_distinct (distinct : (names entries).Nodup) (name : String) (value : α) :
    (names (put entries name value)).Nodup := by
  induction entries with
  | nil => simp [put, names]
  | cons first rest ih =>
    obtain ⟨first_alone, rest_distinct⟩ := List.nodup_cons.mp distinct
    simp only [put]
    split
    · exact distinct
    next other =>
      refine List.nodup_cons.mpr ⟨fun again => ?_, ih rest_distinct⟩
      -- An entry of the new rest is the one just stored or was there before; neither has this name.
      obtain ⟨entry, among, same⟩ := List.mem_map.mp again
      rcases mem_of_mem_put among with rfl | before
      · exact other same.symm
      · exact first_alone (List.mem_map.mpr ⟨entry, before, same⟩)

theorem ofPairs_distinct (pairs : List (String × α)) : (names (ofPairs pairs)).Nodup := by
  induction pairs using List.reverseRecOn with
  | nil => exact List.nodup_nil
  | append_singleton pairs last ih =>
    rw [ofPairs, List.foldl_concat]
    exact put_distinct ih _ _

theorem mem_of_mem_ofPairs {entry : String × α} (member : entry ∈ ofPairs pairs) :
    entry ∈ pairs := by
  induction pairs using List.reverseRecOn with
  | nil => cases member
  | append_singleton pairs last ih =>
    rw [ofPairs, List.foldl_concat] at member
    rcases mem_of_mem_put member with rfl | before
    · simp
    · exact List.mem_append_left _ (ih before)

end Portability.Keyed

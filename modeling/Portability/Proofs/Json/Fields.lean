import Mathlib.Data.List.Forall2
import Portability.Json.Fields
import Portability.Proofs.Keyed

/-!
# Decoding lists and records

A list is decoded item by item, and fails just if one of its items does. An object says of each
field of a record what stands under its name, wherever that is among its fields; what stands under
other names does not matter.
-/
namespace Portability.Json

def IsObject (json : Json) : Prop := ∃ fields, json = .object fields

section Lists

variable {α β : Type}

/-- Decoding a list gives one result for each item, in their order. -/
theorem mapM_eq_some_iff {decode : α → Option β} {items : List α} {results : List β} :
    items.mapM decode = some results ↔
      List.Forall₂ (fun item result => decode item = some result) items results := by
  induction items generalizing results with
  | nil => cases results <;> simp
  | cons item items ih =>
    rw [List.mapM_cons]
    cases first : decode item with
    | none => cases results <;> simp [first]
    | some found =>
      cases others : items.mapM decode with
      | none => cases results <;> simp [← ih, others]
      | some founds => cases results <;> simp [← ih, first, others]

theorem mapM_eq_none_iff {decode : α → Option β} {items : List α} :
    items.mapM decode = none ↔ ∃ item ∈ items, decode item = none := by
  induction items with
  | nil => simp
  | cons item items ih =>
    rw [List.mapM_cons, List.exists_mem_cons_iff, ← ih]
    cases decode item with
    | none => simp
    | some found => cases items.mapM decode <;> simp

theorem exists_of_mem_mapM {decode : α → Option β} {items : List α} {results : List β} {result : β}
    (decoded : items.mapM decode = some results) (member : result ∈ results) :
    ∃ item ∈ items, decode item = some result := by
  rw [mapM_eq_some_iff] at decoded
  induction decoded with
  | nil => cases member
  | @cons item _ items _ held _ ih =>
    rcases List.mem_cons.mp member with rfl | later
    · exact ⟨item, List.mem_cons_self, held⟩
    · obtain ⟨other, among, decoded⟩ := ih later
      exact ⟨other, List.mem_cons_of_mem item among, decoded⟩

/-- Items that were encoded one by one are decoded together. -/
theorem mapM_map_of_inverse {decode : β → Option α} {encode : α → β}
    (inverse : ∀ item, decode (encode item) = some item) (items : List α) :
    (items.map encode).mapM decode = some items := by
  rw [mapM_eq_some_iff, List.forall₂_map_left_iff]
  exact List.forall₂_same.mpr fun item _ => inverse item

end Lists

/-- A list that is read as a record gives its first item to the first field. -/
theorem head?_of_fields?_list {names : List String} {required : Nat} {first : Json}
    {rest : List Json} {given : List (Option Json)}
    (read : fields? names required (.list (first :: rest)) = some given) :
    given.head? = some (some first) := by
  simp only [fields?] at read
  split at read
  · cases read
    rfl
  · cases read

section Objects

variable {before after fields : List (String × Json)} {name field : String} {value : Json}

/-- What an object says of a field: its content, or nothing, unless it says more than one thing. -/
def given? (fields : List (String × Json)) (name : String) : Option (Option Json) :=
  match fields.filter (·.1 == name) with
  | [] => some none
  | [(_, value)] => some (some value)
  | _ => none

theorem fields?_object (names : List String) (required : Nat) (fields : List (String × Json)) :
    fields? names required (.object fields) = names.mapM (given? fields) := rfl

/-- It does not matter where among the others a field stands. -/
theorem given?_insert_self (absent : ∀ entry ∈ before ++ after, entry.1 ≠ name) :
    given? (before ++ (name, value) :: after) name = some (some value) := by
  have none_before : before.filter (·.1 == name) = [] := by
    simpa using fun entry member => absent entry (List.mem_append_left after member)
  have none_after : after.filter (·.1 == name) = [] := by
    simpa using fun entry member => absent entry (List.mem_append_right before member)
  have only : (before ++ (name, value) :: after).filter (·.1 == name) = [(name, value)] := by
    simp [List.filter_append, none_before, none_after]
  rw [given?, only]

theorem given?_insert_of_ne (other : field ≠ name) :
    given? (before ++ (field, value) :: after) name = given? (before ++ after) name := by
  have skipped : (before ++ (field, value) :: after).filter (·.1 == name) =
      (before ++ after).filter (·.1 == name) := by
    simp [List.filter_append, other]
  rw [given?, skipped, given?]

end Objects

section Entries

variable {α : Type} {decode : Json → Option α} {json : Json} {entries : List (String × α)}

theorem entriesOf?_eq_some_iff :
    json.entriesOf? decode = some entries ↔
      ∃ fields pairs, json = .object fields ∧
        fields.mapM (fun field => (decode field.2).map (field.1, ·)) = some pairs ∧
        Keyed.ofPairs pairs = entries := by
  unfold entriesOf?
  split
  next fields => simp [Option.bind_eq_some_iff]
  next other =>
    constructor
    · rintro ⟨⟩
    · rintro ⟨fields, _, rfl, _⟩
      exact (other fields rfl).elim

theorem entriesOf?_distinct (read : json.entriesOf? decode = some entries) :
    (Keyed.names entries).Nodup := by
  obtain ⟨_, pairs, _, _, rfl⟩ := entriesOf?_eq_some_iff.mp read
  exact Keyed.ofPairs_distinct pairs

/-- What stands under a name was decoded from some document. -/
theorem exists_of_mem_entriesOf? {entry : String × α} (read : json.entriesOf? decode = some entries)
    (member : entry ∈ entries) : ∃ value, decode value = some entry.2 := by
  obtain ⟨fields, pairs, _, decoded, rfl⟩ := entriesOf?_eq_some_iff.mp read
  obtain ⟨field, _, held⟩ := exists_of_mem_mapM decoded (Keyed.mem_of_mem_ofPairs member)
  obtain ⟨value, single, rfl⟩ := Option.map_eq_some_iff.mp held
  exact ⟨field.2, single⟩

end Entries

end Portability.Json

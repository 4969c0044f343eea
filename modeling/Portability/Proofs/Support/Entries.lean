import Portability.Proofs.Json.Fields
import Portability.Proofs.Support.Monotone

/-!
# One record or several

Where a browser has one record, the list around it may be left out; and a record may be written as a
list of its fields. So a list might be taken for one record. A list of objects is not, because an
object does not say where a range begins. The empty list is, but what it leaves out makes it a
record that covers no version, which comes to the same as no record at all.
-/
namespace Portability

namespace SupportRecord

/-- The fields of a record, in the order of its written form as a list. -/
def fieldNames : List String :=
  ["version_added", "version_removed", "prefix", "alternative_name"]

theorem ofJson?_eq_some_iff {json : Json} {record : SupportRecord} :
    ofJson? json = some record ↔
      ∃ added removed vendor otherName,
        json.fields? fieldNames 0 = some [added, removed, vendor, otherName] ∧
        Json.orDefault .absent Bound.ofJson? added = some record.added ∧
        Json.orDefault .absent Bound.ofJson? removed = some record.removed ∧
        Json.optional Json.text? vendor = some record.vendor ∧
        Json.optional Json.text? otherName = some record.otherName := by
  simp only [ofJson?, Option.bind_eq_bind, Option.bind_eq_some_iff]
  constructor
  · rintro ⟨given, parts, read⟩
    split at read
    next added removed vendor otherName =>
      simp only [Option.bind_eq_some_iff] at read
      obtain ⟨since, begins, before, ends, prefixed, first, renamed, last, made⟩ := read
      cases made
      exact ⟨added, removed, vendor, otherName, parts, begins, ends, first, last⟩
    · cases read
  · rintro ⟨added, removed, vendor, otherName, parts, begins, ends, first, last⟩
    exact ⟨_, parts, by simp [begins, ends, first, last]⟩

/-- The first field of a record says where its range begins, and no object says that. -/
theorem ofJson?_list_of_isObject {first : Json} (object : first.IsObject) (rest : List Json) :
    ofJson? (.list (first :: rest)) = none := by
  rw [Option.eq_none_iff_forall_ne_some]
  intro record read
  obtain ⟨added, _, _, _, parts, begins, _⟩ := ofJson?_eq_some_iff.mp read
  -- Whatever stands first in the list is read as the start of the range.
  obtain rfl : added = some first := Option.some.inj (Json.head?_of_fields?_list parts)
  obtain ⟨fields, rfl⟩ := object
  cases begins

/-- The record that a document holds, if no part of it is unreadable. -/
def ofReadable? (json : Json) : Option SupportRecord :=
  if json.isReadable then ofJson? json else none

theorem listOfJson?_object (fields : List (String × Json)) :
    listOfJson? (.object fields) = (ofReadable? (.object fields)).map ([·]) := by
  unfold listOfJson? ofReadable?
  cases (Json.object fields).isReadable with
  | false => rfl
  | true => cases ofJson? (.object fields) <;> rfl

/-- A list is readable just if its items are, so they may be looked at one by one. -/
theorem mapM_ofReadable? (items : List Json) :
    items.mapM ofReadable? =
      if (Json.list items).isReadable then items.mapM ofJson? else none := by
  induction items with
  | nil => rfl
  | cons item items ih =>
    rw [Json.isReadable, Json.itemsReadable, List.mapM_cons, List.mapM_cons, ih, Json.isReadable]
    -- An unreadable item spoils the list on both sides, wherever it stands.
    cases readable : item.isReadable with
    | false => simp [ofReadable?, readable]
    | true =>
      cases Json.itemsReadable items with
      | false => cases ofJson? item <;> simp [ofReadable?, readable]
      | true => simp [ofReadable?, readable]

/-- The form of a list that holds objects and nothing else is not in doubt. -/
theorem listOfJson?_list {items : List Json} (some_item : items ≠ [])
    (objects : ∀ item ∈ items, item.IsObject) :
    listOfJson? (.list items) = items.mapM ofReadable? := by
  cases items with
  | nil => contradiction
  | cons first rest =>
    have object := objects first List.mem_cons_self
    rw [listOfJson?, ofJson?_list_of_isObject object, mapM_ofReadable?]
    rfl

/-- A range that begins nowhere covers nothing, not even a version behind all numbers. -/
theorem covers_of_absent {record : SupportRecord} (never : record.added = .absent)
    (version : Float) : record.covers version = false := by
  rw [Bool.eq_false_iff]
  intro covered
  simp only [covers, never, Bool.or_eq_true, Bool.and_eq_true, decide_eq_true_eq] at covered
  obtain ⟨always, _⟩ | ⟨since, before⟩ := covered
  · cases always
  · exact Decimal.not_lt_of_infinity_le since _ before

end SupportRecord

/-- Records that begin nowhere support nothing, as no records do. -/
theorem supportState_of_absent {table : SupportTable} {browser : String}
    {records : List SupportRecord} (known : table.records? browser = some records)
    (never : ∀ record ∈ records, record.added = .absent) (version spelling : String) :
    supportState (some table) browser version spelling = .unsupported := by
  apply supportState_eq_unsupported known
  rintro ⟨record, member, _, covered⟩
  rw [record.covers_of_absent (never record member)] at covered
  cases covered

open SupportRecord in
/--
The forms of an entry are told apart. An object is one record. A list that holds objects and nothing
else is the list of their records, and never one record: it fails just if one of the objects does.
The empty list is one record of which all is left out; it supports no spelling in any version, as an
entry without records would.
-/
theorem entries_told_apart :
    (∀ fields records, listOfJson? (.object fields) = some records ↔
      ∃ record, ofReadable? (.object fields) = some record ∧ records = [record]) ∧
    (∀ items, items ≠ [] → (∀ item ∈ items, item.IsObject) →
      ofJson? (.list items) = none ∧
      (∀ records, listOfJson? (.list items) = some records ↔
        List.Forall₂ (fun item record => ofReadable? item = some record) items records) ∧
      (listOfJson? (.list items) = none ↔ ∃ item ∈ items, ofReadable? item = none)) ∧
    listOfJson? (.list []) = some [{}] ∧
    ∀ (table : SupportTable) (browser : String),
      table.records? browser = listOfJson? (.list []) ∨ table.records? browser = some [] →
        ∀ version spelling, supportState (some table) browser version spelling = .unsupported := by
  refine ⟨fun fields records => ?_, fun items some_item objects => ⟨?_, fun records => ?_, ?_⟩, rfl,
    fun table browser entry version spelling => ?_⟩
  · rw [listOfJson?_object, Option.map_eq_some_iff]
    simp only [eq_comm]
  · obtain ⟨first, rest, rfl⟩ := List.exists_cons_of_ne_nil some_item
    exact ofJson?_list_of_isObject (objects first List.mem_cons_self) rest
  · rw [listOfJson?_list some_item objects, Json.mapM_eq_some_iff]
  · rw [listOfJson?_list some_item objects, Json.mapM_eq_none_iff]
  · rcases entry with default | none_held
    · exact supportState_of_absent default (by simp) version spelling
    · exact supportState_of_absent none_held (by simp) version spelling

namespace SupportRecord

/-- A range with both ends, and a range behind a prefix that begins nowhere. -/
def twoRanges : List Json :=
  [.object [("version_added", .text "10"), ("version_removed", .text "20")],
    .object [("version_added", .boolean false), ("prefix", .text "-webkit-")]]

theorem entries_told_apart_ranges :
    listOfJson? (.object [("version_added", .boolean true)]) = some [{ added := .always }] ∧
    ofJson? (.list twoRanges) = none ∧
    listOfJson? (.list twoRanges) =
      some [{ added := .version "10", removed := .version "20" }, { vendor := some "-webkit-" }] ∧
    listOfJson? (.list (.object [("prefix", .boolean true)] :: twoRanges)) = none ∧
    supportState (some { support := [("ie", [{}])] }) "ie" (String.ofList (List.replicate 400 '9'))
      "grid" = .unsupported := by
  obtain ⟨one, many, _, nothing⟩ := entries_told_apart
  have objects : ∀ item ∈ twoRanges, item.IsObject := by simp [twoRanges, Json.IsObject]
  obtain ⟨never_one, records, _⟩ := many twoRanges (List.cons_ne_nil _ _) objects
  obtain ⟨_, _, fails⟩ := many (.object [("prefix", .boolean true)] :: twoRanges)
    (List.cons_ne_nil _ _) (List.forall_mem_cons.mpr ⟨⟨_, rfl⟩, objects⟩)
  refine ⟨(one _ _).mpr ⟨_, rfl, rfl⟩, never_one, (records _).mpr (.cons rfl (.cons rfl .nil)),
    fails.mpr ⟨_, List.mem_cons_self, rfl⟩, nothing _ _ (.inl rfl) _ _⟩

/-- A list of texts is one record, its fields in their order. -/
example : listOfJson? (.list [.text "1", .text "2"]) =
    some [{ added := .version "1", removed := .version "2" }] := rfl

end SupportRecord

end Portability

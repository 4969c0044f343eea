import Portability.Proofs.Catalog.Reading

/-!
# Faults of a snapshot

What a snapshot has to hold at some place is told by the name of the field: a support table, a list
of data types, or an object of which the same can be said again. Fields with other reserved names
may hold anything. So the entries that are looked at can be listed in the order of the document, an
object before what it holds, and each that is at fault is at fault by itself. Reading comes to the
end if there is no fault in this list, and reports the first one otherwise.
-/
namespace Portability

namespace Fault

variable {α β : Type}

/-- The fault that a result is, if it is one. -/
def ofResult? : Except Fault α → Option Fault
  | .ok _ => none
  | .error fault => some fault

theorem ofResult?_eq_some_iff {result : Except Fault α} {fault : Fault} :
    ofResult? result = some fault ↔ result = .error fault := by
  cases result <;> simp [ofResult?]

theorem ofResult?_eq_none_iff {result : Except Fault α} :
    ofResult? result = none ↔ ∃ value, result = .ok value := by
  cases result <;> simp [ofResult?]

@[simp] theorem ofResult?_map (change : α → β) (result : Except Fault α) :
    ofResult? (change <$> result) = ofResult? result := by
  cases result <;> rfl

/-- Of two steps the second is taken, and can fail, only if the first did not. -/
theorem ofResult?_bind_map (first : Except Fault α) (second : Except Fault β)
    {γ : Type} (join : α → β → γ) :
    ofResult? (first >>= fun value => join value <$> second) =
      (ofResult? first).or (ofResult? second) := by
  cases first <;> cases second <;> rfl

end Fault

namespace Node

/-- What the entry under some name has to be. -/
inductive Demand where
  | table
  | dataTypes
  | term
deriving DecidableEq, Repr

/-- What is demanded of a field with this name, if anything is. -/
def demand? (name : String) : Option Demand :=
  if name = tableField then some .table
  else if name ∈ dataTypeFields then some .dataTypes
  else if isReserved name then none
  else some .term

/-- How an entry at a place fails to be what is demanded, whatever it holds. -/
def Demand.fault? (demand : Demand) (place : String) (json : Json) : Option Fault :=
  match demand with
  | table => if (SupportTable.ofJson? json).isSome then none else some (.malformedSnapshot place)
  | dataTypes =>
    if (Json.listOf? Json.text? json).isSome then none else some (.malformedSnapshot place)
  | term =>
    match json with
    | .object _ => none
    | other => some (.notAnObject place other.kind)

/-- An entry that is looked at, with the keys that lead to it. -/
structure Part where
  keys : List String
  demand : Demand
  json : Json

mutual

/-- The entries that are looked at to read a term: itself, and what is in it from first to last. -/
def parts (keys : List String) : Json → List Part
  | .object fields => ⟨keys, .term, .object fields⟩ :: partsAmong keys fields
  | other => [⟨keys, .term, other⟩]

def partsAmong (keys : List String) : List (String × Json) → List Part
  | [] => []
  | (name, json) :: rest =>
    (match demand? name with
      | none => []
      | some .term => parts (keys ++ [name]) json
      | some demand => [⟨keys ++ [name], demand, json⟩]) ++ partsAmong keys rest

end

/-- The path of a place, as messages give it. -/
def dotted (path : String) (keys : List String) : String :=
  keys.foldl (fun place key => place ++ "." ++ key) path

/-- The faults among these entries. -/
def faultsAt (path : String) (entries : List Part) : List Fault :=
  entries.filterMap fun entry => entry.demand.fault? (dotted path entry.keys) entry.json

/-- All faults of a term, those of its parts included, in the order of the document. -/
def faults (path : String) (json : Json) : List Fault := faultsAt path (parts [] json)

/-- A value of which a term can be read: an object with nothing but such values for its children. -/
inductive IsTerm : Json → Prop
  | object {fields : List (String × Json)}
      (tables : ∀ json, (tableField, json) ∈ fields → (SupportTable.ofJson? json).isSome = true)
      (dataTypes : ∀ name ∈ dataTypeFields, ∀ json, (name, json) ∈ fields →
        (Json.listOf? Json.text? json).isSome = true)
      (children : ∀ name json, (name, json) ∈ fields → isReserved name = false → IsTerm json) :
      IsTerm (.object fields)

/-! Fields by their names. -/

theorem isReserved_tableField : isReserved tableField = true := by decide

theorem isReserved_of_mem_dataTypeFields {name : String} (member : name ∈ dataTypeFields) :
    isReserved name = true := by
  revert name
  decide

theorem demand?_eq_table_iff {name : String} : demand? name = some .table ↔ name = tableField := by
  unfold demand?
  split
  next table => simp [table]
  next other =>
    split
    · simp [other]
    · split <;> simp [other]

theorem demand?_eq_dataTypes_iff {name : String} :
    demand? name = some .dataTypes ↔ name ∈ dataTypeFields := by
  constructor
  · intro demanded
    by_contra other
    unfold demand? at demanded
    rw [if_neg other] at demanded
    split at demanded
    · cases demanded
    · split at demanded <;> cases demanded
  · revert name
    decide

/-- A child is what has no reserved name. -/
theorem demand?_eq_term_iff {name : String} :
    demand? name = some .term ↔ isReserved name = false := by
  constructor
  · intro demanded
    by_contra reserved
    unfold demand? at demanded
    rw [Bool.not_eq_false] at reserved
    simp only [reserved, if_true] at demanded
    split at demanded
    · cases demanded
    · split at demanded <;> cases demanded
  · intro free
    have table : name ≠ tableField := by
      rintro rfl
      simp [isReserved_tableField] at free
    have types : name ∉ dataTypeFields := by
      intro member
      simp [isReserved_of_mem_dataTypeFields member] at free
    simp [demand?, table, types, free]

/-- A field is at fault as its name demands, and only a child has parts that can be at fault. -/
theorem fieldEntry_eq (place name : String) (json : Json) :
    fieldEntry place name json =
      match demand? name with
      | some .table => tableEntry place json
      | some .dataTypes => dataTypesEntry place json
      | some .term => Entry.child <$> ofJson name place json
      | none => .ok .nothing := by
  unfold fieldEntry demand?
  split
  · rfl
  · split
    · rfl
    · split <;> rfl

theorem ofResult?_tableEntry (place : String) (json : Json) :
    Fault.ofResult? (tableEntry place json) = Demand.table.fault? place json := by
  unfold tableEntry Demand.fault?
  cases SupportTable.ofJson? json <;> rfl

theorem ofResult?_dataTypesEntry (place : String) (json : Json) :
    Fault.ofResult? (dataTypesEntry place json) = Demand.dataTypes.fault? place json := by
  unfold dataTypesEntry Demand.fault?
  cases Json.listOf? Json.text? json <;> rfl

/-! The step is from the fields behind one field to all of them, the run over the whole document. -/

theorem dotted_concat (path : String) (keys : List String) (key : String) :
    dotted path (keys ++ [key]) = dotted path keys ++ "." ++ key := by
  simp [dotted]

theorem faultsAt_append (path : String) (entries others : List Part) :
    faultsAt path (entries ++ others) = faultsAt path entries ++ faultsAt path others :=
  List.filterMap_append

theorem head?_faultsAt_singleton (path : String) (entry : Part) :
    (faultsAt path [entry]).head? =
      entry.demand.fault? (dotted path entry.keys) entry.json := by
  unfold faultsAt
  cases found : entry.demand.fault? (dotted path entry.keys) entry.json <;> simp [found]

mutual

theorem ofResult?_ofJson (name path : String) (keys : List String) :
    ∀ json, Fault.ofResult? (ofJson name (dotted path keys) json) =
      (faultsAt path (parts keys json)).head?
  | .object fields => by
    -- The object itself is no fault, so the first fault is the first among its fields.
    rw [ofJson_object, Fault.ofResult?_map, ofResult?_entriesOfFields path keys fields]
    rfl
  | .null | .boolean _ | .number _ | .text _ | .list _ | .unreadable => by
    rw [ofJson]
    · rfl
    · simp

theorem ofResult?_entriesOfFields (path : String) (keys : List String) :
    ∀ fields, Fault.ofResult? (entriesOfFields (dotted path keys) fields) =
      (faultsAt path (partsAmong keys fields)).head?
  | [] => rfl
  | (name, json) :: rest => by
    have later := ofResult?_entriesOfFields path keys rest
    have inside := ofResult?_ofJson name path (keys ++ [name]) json
    rw [entriesOfFields_cons, Fault.ofResult?_bind_map, later, partsAmong, faultsAt_append,
      List.head?_append, ← dotted_concat, fieldEntry_eq]
    cases demanded : demand? name with
    | none => rfl
    | some demand =>
      cases demand with
      | table => simp only [ofResult?_tableEntry, head?_faultsAt_singleton]
      | dataTypes => simp only [ofResult?_dataTypesEntry, head?_faultsAt_singleton]
      | term => simp only [Fault.ofResult?_map, inside]

end

/-! A document without faults, by what it holds. -/

/-- Whether an entry is what is demanded, all that it holds included. -/
def Demand.IsMet (demand : Demand) (json : Json) : Prop :=
  match demand with
  | table => (SupportTable.ofJson? json).isSome = true
  | dataTypes => (Json.listOf? Json.text? json).isSome = true
  | term => IsTerm json

theorem isTerm_object_iff {fields : List (String × Json)} :
    IsTerm (.object fields) ↔
      ∀ field ∈ fields, ∀ demand, demand? field.1 = some demand → demand.IsMet field.2 := by
  constructor
  · rintro ⟨tables, dataTypes, children⟩ ⟨name, json⟩ member demand demanded
    cases demand with
    | table =>
      apply tables json
      rw [← demand?_eq_table_iff.mp demanded]
      exact member
    | dataTypes => exact dataTypes name (demand?_eq_dataTypes_iff.mp demanded) json member
    | term => exact children name json member (demand?_eq_term_iff.mp demanded)
  · intro met
    constructor
    · intro json member
      exact met _ member _ (demand?_eq_table_iff.mpr rfl)
    · intro name among json member
      exact met _ member _ (demand?_eq_dataTypes_iff.mpr among)
    · intro name json member free
      exact met _ member _ (demand?_eq_term_iff.mpr free)

theorem not_isTerm {json : Json} (other : ∀ fields, json ≠ .object fields) : ¬IsTerm json := by
  rintro ⟨⟩
  exact other _ rfl

/-- A table or a list of data types is at fault by itself or not at all. -/
theorem faultsAt_singleton_eq_nil_iff {path : String} {keys : List String} {demand : Demand}
    (json : Json) (leaf : demand ≠ .term) :
    faultsAt path [⟨keys, demand, json⟩] = [] ↔ demand.IsMet json := by
  rw [← List.head?_eq_none_iff, head?_faultsAt_singleton]
  cases demand with
  | term => exact absurd rfl leaf
  | table | dataTypes => simp [Demand.fault?, Demand.IsMet, Option.isSome_iff_ne_none]

mutual

theorem faultsAt_parts_eq_nil_iff (path : String) (keys : List String) :
    ∀ json, faultsAt path (parts keys json) = [] ↔ IsTerm json
  | .object fields => by
    rw [isTerm_object_iff, ← faultsAt_partsAmong_eq_nil_iff path keys fields]
    rfl
  | .null | .boolean _ | .number _ | .text _ | .list _ | .unreadable => by
    refine iff_of_false ?_ (not_isTerm (by simp))
    simp [parts, faultsAt, Demand.fault?]

theorem faultsAt_partsAmong_eq_nil_iff (path : String) (keys : List String) :
    ∀ fields, faultsAt path (partsAmong keys fields) = [] ↔
      ∀ field ∈ fields, ∀ demand, demand? field.1 = some demand → demand.IsMet field.2
  | [] => by simp [partsAmong, faultsAt]
  | (name, json) :: rest => by
    have later := faultsAt_partsAmong_eq_nil_iff path keys rest
    have inside := faultsAt_parts_eq_nil_iff path (keys ++ [name]) json
    rw [partsAmong, faultsAt_append, List.append_eq_nil_iff, later, List.forall_mem_cons]
    refine and_congr_left fun _ => ?_
    cases demanded : demand? name with
    | none => simp [faultsAt]
    | some demand =>
      simp only [Option.some.injEq, forall_eq']
      cases demand with
      | table | dataTypes => exact faultsAt_singleton_eq_nil_iff json (by simp)
      | term => exact inside

end

theorem ofJson_eq_error_iff {name path : String} {json : Json} {fault : Fault} :
    ofJson name path json = .error fault ↔ (faults path json).head? = some fault := by
  rw [← Fault.ofResult?_eq_some_iff]
  exact iff_of_eq (congrArg (· = some fault) (ofResult?_ofJson name path [] json))

theorem exists_ofJson_iff {name path : String} {json : Json} :
    (∃ node, ofJson name path json = .ok node) ↔ IsTerm json := by
  rw [← Fault.ofResult?_eq_none_iff, ← faultsAt_parts_eq_nil_iff path [] json,
    ← List.head?_eq_none_iff]
  exact iff_of_eq (congrArg (· = none) (ofResult?_ofJson name path [] json))

end Node

namespace Catalog

open Node

/-- The fault of the browsers of a snapshot, if they have one. -/
def browserFaults (fields : List (String × Json)) : List Fault :=
  match Keyed.get? fields "browsers" with
  | some json =>
    if (Json.entriesOf? Browser.ofJson? json).isSome then []
    else [Fault.malformedSnapshot "browsers"]
  | none => []

def namespaceFaults (fields : List (String × Json)) (name : String) : List Fault :=
  match Keyed.get? fields name with
  | some json => Node.faults name json
  | none => []

/-- All faults of a snapshot: those of its browsers, then those of its namespaces in their order. -/
def faults (fields : List (String × Json)) : List Fault :=
  browserFaults fields ++ namespaces.flatMap (namespaceFaults fields)

theorem ofResult?_readBrowsers (fields : List (String × Json)) :
    Fault.ofResult? (readBrowsers fields) = (browserFaults fields).head? := by
  unfold readBrowsers browserFaults
  cases Keyed.get? fields "browsers" with
  | none => rfl
  | some json =>
    dsimp only
    cases Json.entriesOf? Browser.ofJson? json <;> rfl

theorem ofResult?_readNamespaces (fields : List (String × Json)) (names : List String) :
    Fault.ofResult? (readNamespaces fields names) =
      (names.flatMap (namespaceFaults fields)).head? := by
  induction names with
  | nil => rfl
  | cons name rest ih =>
    rw [readNamespaces, List.flatMap_cons, List.head?_append, ← ih, namespaceFaults]
    cases Keyed.get? fields name with
    | none => rfl
    | some json =>
      have own : Fault.ofResult? (Node.ofJson name name json) = (Node.faults name json).head? :=
        ofResult?_ofJson name name [] json
      dsimp only
      rw [← own]
      cases Node.ofJson name name json <;> cases readNamespaces fields rest <;> rfl

theorem ofResult?_ofJson_object (fields : List (String × Json)) :
    Fault.ofResult? (ofJson (.object fields)) = (faults fields).head? := by
  rw [faults, List.head?_append, ← ofResult?_readBrowsers, ← ofResult?_readNamespaces, ofJson]
  cases readBrowsers fields <;> cases readNamespaces fields namespaces <;> rfl

theorem exists_catalog_iff {fields : List (String × Json)} :
    (∃ catalog, ofJson (.object fields) = .ok catalog) ↔ faults fields = [] := by
  rw [← Fault.ofResult?_eq_none_iff, ofResult?_ofJson_object, List.head?_eq_none_iff]

/-- Three fields are all of a snapshot that is looked at. -/
theorem ofJson_object_congr {fields others : List (String × Json)}
    (same : ∀ name ∈ "browsers" :: namespaces, Keyed.get? others name = Keyed.get? fields name) :
    ofJson (.object others) = ofJson (.object fields) := by
  have browsers : readBrowsers others = readBrowsers fields := by
    rw [readBrowsers, readBrowsers, same "browsers" List.mem_cons_self]
  have spaces (names : List String) (among : ∀ name ∈ names, name ∈ "browsers" :: namespaces) :
      readNamespaces others names = readNamespaces fields names := by
    induction names with
    | nil => rfl
    | cons name rest ih =>
      rw [readNamespaces, readNamespaces, same name (among name List.mem_cons_self),
        ih fun other member => among other (List.mem_cons_of_mem name member)]
  rw [ofJson, ofJson, browsers,
    spaces namespaces fun name member => List.mem_cons_of_mem "browsers" member]

/--
A term is read just if its value is fit for one, and a snapshot just if it has no fault. What is
reported otherwise is the first fault in the order of the document. Only of a snapshot the browsers
come first and the namespaces behind them, in whatever order it has them and beside whatever else.
-/
theorem first_fault_reported :
    (∀ (name path : String) (json : Json),
      ((∃ node, Node.ofJson name path json = .ok node) ↔ IsTerm json) ∧
      ∀ fault, Node.ofJson name path json = .error fault ↔
        (Node.faults path json).head? = some fault) ∧
    ∀ fields : List (String × Json),
      ((∃ catalog, ofJson (.object fields) = .ok catalog) ↔ faults fields = []) ∧
      (∀ fault, ofJson (.object fields) = .error fault ↔ (faults fields).head? = some fault) ∧
      ∀ others : List (String × Json),
        (∀ name ∈ "browsers" :: namespaces, Keyed.get? others name = Keyed.get? fields name) →
        ofJson (.object others) = ofJson (.object fields) := by
  refine ⟨fun name path json => ⟨exists_ofJson_iff, fun fault => ofJson_eq_error_iff⟩,
    fun fields => ⟨exists_catalog_iff, fun fault => ?_, fun others => ofJson_object_congr⟩⟩
  rw [← Fault.ofResult?_eq_some_iff, ofResult?_ofJson_object]

/-- A snapshot with three faults, the last of which is written first. -/
def faulty : List (String × Json) :=
  [("html", .text "none"), ("api", .null),
    ("css", .object [("properties", .object [
      ("width", .object [("__meta", .boolean true), ("__compat", .object []), ("auto", .null)]),
      ("height", .object [("__data_types", .list [.text "length", .null])])])])]

/-- What is looked at in that snapshot, the other way round. -/
def reordered : List (String × Json) :=
  [("css", .object [("properties", .object [
      ("width", .object [("__meta", .boolean true), ("__compat", .object []), ("auto", .null)]),
      ("height", .object [("__data_types", .list [.text "length", .null])])])]),
    ("html", .text "none")]

theorem first_fault_reported_faulty :
    ofJson (.object faulty) = .error (.notAnObject "css.properties.width.auto" "null") ∧
    (∀ name ∈ "browsers" :: namespaces, Keyed.get? reordered name = Keyed.get? faulty name) ∧
    ofJson (.object reordered) = ofJson (.object faulty) := by
  have same : ∀ name ∈ "browsers" :: namespaces,
      Keyed.get? reordered name = Keyed.get? faulty name := by
    intro name member
    simp only [namespaces, List.mem_cons, List.not_mem_nil, or_false] at member
    rcases member with rfl | rfl | rfl <;> rfl
  obtain ⟨_, first, unordered⟩ := first_fault_reported.2 faulty
  exact ⟨(first _).mpr (by decide), same, unordered reordered same⟩

/-- The faults behind the first are there to be found once that is mended. -/
example :
    faults faulty = [.notAnObject "css.properties.width.auto" "null",
      .malformedSnapshot "css.properties.height.__data_types", .notAnObject "html" "a string"] := by
  decide

end Catalog

end Portability

import Mathlib.Data.List.DropRight
import Portability.Program.Run
import Portability.Proofs.Catalog.Reading
import Portability.Proofs.Json.Fields

/-!
# Ways of naming a target

Where nobody names targets, the catalog chooses them. Whoever writes one of them out, as a word of
the command line or as a record in a configuration, gets the same target back, with its display name
and its channel. A word is cut at its first equals sign and both sides are trimmed, so a version may
contain further equals signs, but must be visible at both ends. A record says everything itself.
-/
namespace Portability

namespace Text

/-- No white space stands at either end. -/
def IsTrimmed (text : List Char) : Prop :=
  text.head?.any isBlank = false ∧ text.getLast?.any isBlank = false

instance (text : List Char) : Decidable (IsTrimmed text) :=
  inferInstanceAs (Decidable (_ ∧ _))

theorem trimStart_eq_self_iff {text : List Char} :
    trimStart text = text ↔ text.head?.any isBlank = false := by
  unfold trimStart
  cases text with
  | nil => simp
  | cons c rest => simp [List.dropWhile_eq_self_iff]

theorem trimEnd_eq_self_iff {text : List Char} :
    trimEnd text = text ↔ text.getLast?.any isBlank = false := by
  have whole : trimEnd text = text ↔ ∀ h : text ≠ [], ¬isBlank (text.getLast h) = true :=
    List.rdropWhile_eq_self_iff
  rw [whole]
  by_cases empty : text = []
  · simp [empty]
  · simp [List.getLast?_eq_some_getLast empty, empty]

theorem trimEnd_sublist (text : List Char) : (trimEnd text).Sublist text := by
  rw [← List.reverse_sublist, trimEnd, List.reverse_reverse]
  exact List.dropWhile_sublist isBlank

/-- Trimming leaves just those texts alone that have nothing to trim. -/
theorem trimmed_eq_self_iff {text : String} : trimmed text = text ↔ IsTrimmed text.toList := by
  rw [← String.toList_inj, trimmed, String.toList_ofList]
  rw [IsTrimmed, ← trimStart_eq_self_iff, ← trimEnd_eq_self_iff]
  constructor
  · intro whole
    -- What is left at the end is part of what is left at the start, so that is whole too.
    have start_whole : trimStart text.toList = text.toList := by
      refine (List.dropWhile_sublist isBlank).antisymm ?_
      have kept := trimEnd_sublist (trimStart text.toList)
      rwa [whole] at kept
    rw [start_whole] at whole
    exact ⟨start_whole, whole⟩
  · rintro ⟨start_whole, end_whole⟩
    rw [start_whole, end_whole]

end Text

/-- A browser has one release under each version text. -/
theorem Browser.ofJson?_distinct {json : Json} {browser : Browser}
    (read : ofJson? json = some browser) : (Keyed.names browser.releases).Nodup := by
  simp only [ofJson?, Option.bind_eq_bind, Option.bind_eq_some_iff] at read
  obtain ⟨given, _, further⟩ := read
  split at further
  next releases _ =>
    simp only [Option.bind_eq_some_iff] at further
    obtain ⟨_, _, _, _, entries, decoded, made⟩ := further
    cases made
    cases releases with
    | none =>
      cases decoded
      exact List.nodup_nil
    | some releases => exact Json.entriesOf?_distinct decoded
  · cases further

namespace Catalog

variable {catalog : Catalog} {id version : String} {browser : Browser} {target : Target}

theorem browser?_distinct {json : Json} (built : ofJson json = .ok catalog)
    (known : catalog.browser? id = some browser) : (Keyed.names browser.releases).Nodup := by
  cases json with
  | object fields =>
    obtain ⟨browsers, read, further⟩ := (bind_eq_ok_iff _ _ _).mp built
    obtain ⟨spaces, _, result⟩ := (bind_eq_ok_iff _ _ _).mp further
    cases result
    unfold readBrowsers at read
    split at read
    · cases read
      cases known
    · split at read
      next decoded =>
        cases read
        obtain ⟨value, single⟩ := Json.exists_of_mem_entriesOf? decoded (Keyed.mem_of_get? known)
        exact Browser.ofJson?_distinct single
      · cases read
  | null | boolean | number | text | list | unreadable => cases built

theorem splitSpec?_eq {left right : List Char} (plain : '=' ∉ left) :
    splitSpec? (left ++ '=' :: right) = some (left, right) := by
  have kept : ∀ c ∈ left, (decide (c ≠ '=')) = true := by
    intro c member
    exact decide_eq_true fun same => plain (same ▸ member)
  unfold splitSpec?
  rw [List.dropWhile_append_of_pos kept, List.takeWhile_append_of_pos kept]
  simp

/-- The ids of the usual browsers are never cut or trimmed. -/
theorem plain_of_mem_defaultBrowsers :
    ∀ id ∈ defaultBrowsers, '=' ∉ id.toList ∧ Text.trimmed id = id ∧ id.isEmpty = false := by
  decide

/-- What a word says that has the id of a usual browser in front of its first equals sign. -/
theorem targetOfSpec_eq (usual : id ∈ defaultBrowsers) (known : catalog.browser? id = some browser)
    (version : String) :
    catalog.targetOfSpec (id ++ "=" ++ version) =
      if (Text.trimmed version).isEmpty then .error (.malformedTarget (id ++ "=" ++ version))
      else .ok {
        id, version := Text.trimmed version
        name := some browser.name
        status := (Keyed.get? browser.releases (Text.trimmed version)).map Release.status } := by
  obtain ⟨plain, whole, visible⟩ := plain_of_mem_defaultBrowsers id usual
  -- The first equals sign is the one behind the id, whatever the version holds.
  have cut : splitSpec? (id ++ "=" ++ version).toList = some (id.toList, version.toList) := by
    simpa using splitSpec?_eq plain
  unfold targetOfSpec
  rw [cut]
  simp only [String.ofList_toList, whole, visible, known, Bool.false_or]

theorem mem_maintained :
    target ∈ browser.maintained id ↔
      ∃ version release, (version, release) ∈ browser.releases ∧
        release.status.isMaintained = true ∧
        target = ⟨id, version, some browser.name, some release.status⟩ := by
  simp only [Browser.maintained, List.mem_filterMap, Option.ite_none_right_eq_some, Prod.exists,
    Option.some.injEq, @eq_comm _ target]

theorem mem_defaultTargets :
    target ∈ catalog.defaultTargets ↔
      ∃ id ∈ defaultBrowsers, ∃ browser, catalog.browser? id = some browser ∧
        target ∈ browser.maintained id := by
  unfold defaultTargets
  rw [List.mem_flatMap]
  refine exists_congr fun id => and_congr_right fun _ => ?_
  cases catalog.browser? id <;> simp

end Catalog

/-- A target as a word of the command line names it. -/
def Target.spec (target : Target) : String := target.id ++ "=" ++ target.version

/-- A record of a target holds all that is known of it. -/
theorem Target.ofJson?_toJson (target : Target) : ofJson? target.toJson = some target := by
  obtain ⟨id, version, name, status⟩ := target
  have parts : (toJson ⟨id, version, name, status⟩).fields? ["id", "version", "name", "status"] 2 =
      some [some (.text id), some (.text version), name.map .text, status.map (.text ·.word)] := by
    cases name <;> cases status <;> rfl
  have named : Json.optional Json.text? (name.map .text) = some name := by
    cases name <;> rfl
  have channel : Json.optional ReleaseStatus.ofJson? (status.map (.text ·.word)) = some status := by
    cases status with
    | none => rfl
    | some status => simp [Json.optional, ReleaseStatus.ofJson?, ReleaseStatus.ofWord_word]
  simp [ofJson?, decode?, parts, named, channel, Json.text?, versionOfJson?]

namespace Config

variable {target? : Json → Option Target} {json : Json} {config : Config}
  {before after : List (String × Json)}

theorem decode?_eq_some_iff :
    decode? target? json = some config ↔
      ∃ data targets values flagUnknown,
        json.fields? ["data", "browsers", "css_values", "flag_unknown_browsers"] 4 =
          some [data, targets, values, flagUnknown] ∧
        Json.optional Json.text? data = some config.data ∧
        Json.optional (Json.listOf? target?) targets = some config.targets ∧
        Json.optional Json.boolean? values = some config.values ∧
        Json.optional Json.boolean? flagUnknown = some config.flagUnknown := by
  simp only [decode?, Option.bind_eq_bind, Option.bind_eq_some_iff]
  constructor
  · rintro ⟨given, parts, read⟩
    split at read
    next data targets values flagUnknown =>
      simp only [Option.bind_eq_some_iff] at read
      obtain ⟨_, first, _, second, _, third, _, last, made⟩ := read
      cases made
      exact ⟨data, targets, values, flagUnknown, parts, first, second, third, last⟩
    · cases read
  · rintro ⟨data, targets, values, flagUnknown, parts, first, second, third, last⟩
    exact ⟨_, parts, by simp [first, second, third, last]⟩

/-- A field with targets adds them to a configuration that has none, wherever it stands. -/
theorem decode?_insert_targets {items : List Json} {targets : List Target}
    (decoded : items.mapM target? = some targets)
    (absent : ∀ field ∈ before ++ after, field.1 ≠ "browsers")
    (read : decode? target? (.object (before ++ after)) = some config) :
    decode? target? (.object (before ++ ("browsers", .list items) :: after)) =
      some { config with targets := some targets } := by
  obtain ⟨data, _, values, flagUnknown, parts, first, _, third, last⟩ := decode?_eq_some_iff.mp read
  refine decode?_eq_some_iff.mpr
    ⟨data, some (.list items), values, flagUnknown, ?_, first, ?_, third, last⟩
  · -- The new field changes what the object says of its own name, and of no other.
    rw [Json.fields?_object, Json.mapM_eq_some_iff] at parts ⊢
    simp only [List.forall₂_cons, List.Forall₂.nil, and_true] at parts ⊢
    obtain ⟨data_given, _, values_given, flag_given⟩ := parts
    refine ⟨?_, Json.given?_insert_self absent, ?_, ?_⟩
    all_goals rwa [Json.given?_insert_of_ne (by decide)]
  · simp [Json.optional, Json.listOf?, decoded]

end Config

namespace Catalog

variable {catalog : Catalog} {json : Json}

/-- A word names a default target just if trimming leaves its version as it is, and not empty. -/
theorem targetOfSpec_eq_ok_iff {target : Target} (built : ofJson json = .ok catalog)
    (chosen : target ∈ catalog.defaultTargets) :
    catalog.targetOfSpec target.spec = .ok target ↔
      target.version ≠ "" ∧ Text.IsTrimmed target.version.toList := by
  obtain ⟨id, usual, browser, known, maintained⟩ := mem_defaultTargets.mp chosen
  obtain ⟨version, release, member, -, rfl⟩ := mem_maintained.mp maintained
  rw [Target.spec, targetOfSpec_eq usual known, ← Text.trimmed_eq_self_iff]
  dsimp only
  constructor
  · intro named
    split at named
    · cases named
    next visible =>
      have whole : Text.trimmed version = version := congrArg Target.version (Except.ok.inj named)
      rw [whole] at visible
      exact ⟨by simpa using visible, whole⟩
  · rintro ⟨visible, whole⟩
    -- No other release has this version, so looking it up finds the one that was chosen.
    have held : Keyed.get? browser.releases version = some release :=
      Keyed.get?_of_mem (browser?_distinct built known) member
    rw [whole, if_neg (by simpa using visible), held]
    rfl

/-- The display name of a default target is known, so there is nothing to complete. -/
theorem map_nameTarget_defaultTargets :
    catalog.defaultTargets.map catalog.nameTarget = catalog.defaultTargets := by
  refine (List.map_congr_left fun target chosen => ?_).trans (List.map_id _)
  obtain ⟨id, _, browser, _, maintained⟩ := mem_defaultTargets.mp chosen
  obtain ⟨version, release, _, _, rfl⟩ := mem_maintained.mp maintained
  rfl

/--
A default target is the one that its id and version name on the command line, just if its version is
visible and has no white space at its ends. The default targets as records, in a configuration that
may say other things besides, are the same targets again: all that they hold is read back, and
nothing is added to them.
-/
theorem default_targets_named_alike (built : ofJson json = .ok catalog) :
    (∀ target ∈ catalog.defaultTargets, catalog.targetOfSpec target.spec = .ok target ↔
      target.version ≠ "" ∧ Text.IsTrimmed target.version.toList) ∧
    Json.listOf? Target.ofJson? (.list (catalog.defaultTargets.map Target.toJson)) =
      some catalog.defaultTargets ∧
    ∀ before after config, (∀ field ∈ before ++ after, field.1 ≠ "browsers") →
      Config.decode? Target.ofJson? (.object (before ++ after)) = some config →
      Config.decode? Target.ofJson? (.object (before ++
          ("browsers", .list (catalog.defaultTargets.map Target.toJson)) :: after)) =
        some { config with targets := some catalog.defaultTargets } ∧
      Program.chooseTargets catalog { config with targets := some catalog.defaultTargets } [] =
        Program.chooseTargets catalog {} [] := by
  have read_back := Json.mapM_map_of_inverse Target.ofJson?_toJson catalog.defaultTargets
  refine ⟨fun target => targetOfSpec_eq_ok_iff built, read_back, ?_⟩
  intro before after config absent read
  refine ⟨Config.decode?_insert_targets read_back absent read, ?_⟩
  exact congrArg Except.ok map_nameTarget_defaultTargets

/-- A snapshot with versions of many kinds: with an equals sign, like a number, with a blank. -/
def channels : Json :=
  let release (version status : String) : String × Json :=
    (version, .object [("status", .text status)])
  .object [("browsers", .object [
    ("chrome", .object [("name", .text "Chrome"), ("releases", .object [
      release "76" "retired", release "1e2" "current", release "" "beta"])]),
    ("firefox", .object [("name", .text "Firefox"), ("releases", .object [
      release "60=esr" "esr", release "70 " "nightly"])])])]

theorem isSome_channels : (ofJson channels).toOption.isSome = true := by decide

def channelCatalog : Catalog := (ofJson channels).toOption.get isSome_channels

theorem ofJson_channels : ofJson channels = .ok channelCatalog := by rfl

theorem default_targets_named_alike_channels :
    ofJson channels = .ok channelCatalog ∧
    channelCatalog.targetOfSpec "firefox=60=esr" =
      .ok ⟨"firefox", "60=esr", some "Firefox", some .esr⟩ ∧
    channelCatalog.targetOfSpec "chrome=1e2" =
      .ok ⟨"chrome", "1e2", some "Chrome", some .current⟩ ∧
    Config.decode? Target.ofJson? (.object [("css_values", .boolean true),
        ("browsers", .list (channelCatalog.defaultTargets.map Target.toJson))]) =
      some { targets := some channelCatalog.defaultTargets, values := some true } ∧
    Program.chooseTargets channelCatalog
        { targets := some channelCatalog.defaultTargets, values := some true } [] =
      .ok channelCatalog.defaultTargets := by
  obtain ⟨words, _, records⟩ := default_targets_named_alike ofJson_channels
  obtain ⟨read, chosen⟩ := records [("css_values", .boolean true)] []
    { values := some true } (by decide) rfl
  refine ⟨ofJson_channels, ?_, ?_, read, chosen⟩
  · exact (words ⟨"firefox", "60=esr", some "Firefox", some .esr⟩ (by decide)).mpr (by decide)
  · exact (words ⟨"chrome", "1e2", some "Chrome", some .current⟩ (by decide)).mpr (by decide)

/-- Without the blank at its end the version is that of no release, so its channel is lost. -/
example :
    (channelCatalog.targetOfSpec "firefox=70 ").toOption =
      some ⟨"firefox", "70", some "Firefox", none⟩ := by
  decide

end Catalog

end Portability

import Portability.Browser.Target
import Portability.Proofs.Grouping

/-!
# Lists of targets

A list of targets is written browser by browser, with the versions of each side by side. The text
depends on three things only: the order in which the list comes to the browsers, the display name
that the first target of each gives, and the order of the versions within each browser. How the
targets of different browsers are mixed cannot be seen from it, and no version is left out or
written twice.
-/
namespace Portability

/-- The ids of the browsers, each once, in the order in which the list comes to them. -/
def browserIds (targets : List Target) : List String := (targets.map (·.id)).eraseDups

/-- The targets of one browser. -/
def targetsOf (targets : List Target) (id : String) : List Target := targets.filter (·.id = id)

/-- The versions of one browser. -/
def versionsOf (targets : List Target) (id : String) : List String :=
  (targetsOf targets id).map (·.version)

/-- The name under which a list shows a browser: that of the first target. -/
def nameOf (targets : List Target) (id : String) : String :=
  ((targets.find? (·.id = id)).map Target.shownName).getD id

theorem nameOf_eq (targets : List Target) (id : String) :
    nameOf targets id = ((targetsOf targets id).head?.map Target.shownName).getD id := by
  rw [nameOf, targetsOf, List.head?_filter]

namespace TargetGroup

/-- Targets are put into groups by their browsers. -/
def grouping : Grouping Target String TargetGroup where
  key? target := some target.id
  start id target := ⟨id, target.shownName, [target.version]⟩
  add group target := { group with versions := group.versions ++ [target.version] }
  keyOf := id
  keyOf_start _ := rfl
  keyOf_add _ _ := rfl

theorem insert_eq (groups : List TargetGroup) (target : Target) :
    insert groups target = grouping.insert target.id target groups := by
  induction groups with
  | nil => rfl
  | cons group rest ih =>
    rw [insert, Grouping.insert, ih]
    rfl

theorem ofTargets_eq_ofItems (targets : List Target) :
    ofTargets targets = grouping.ofItems targets := by
  unfold ofTargets Grouping.ofItems
  congr 1
  funext groups target
  exact insert_eq groups target

theorem foldl_add (group : TargetGroup) (targets : List Target) :
    targets.foldl grouping.add group =
      { group with versions := group.versions ++ targets.map (·.version) } := by
  induction targets generalizing group with
  | nil => simp
  | cons first rest ih =>
    rw [List.foldl_cons, ih]
    simp [grouping]

/-- The groups in closed form. -/
theorem ofTargets_eq (targets : List Target) :
    ofTargets targets = (browserIds targets).map fun id =>
      ⟨id, nameOf targets id, versionsOf targets id⟩ := by
  have ids : (targets.filterMap grouping.key?).eraseDups = browserIds targets :=
    congrArg List.eraseDups (congrFun List.filterMap_eq_map' targets)
  rw [ofTargets_eq_ofItems, Grouping.ofItems_eq, ids, ← List.filterMap_eq_map]
  refine List.filterMap_congr fun id member => ?_
  have chosen : grouping.members targets id = targetsOf targets id := by
    simp [Grouping.members, targetsOf, grouping]
  rw [← ids] at member
  obtain ⟨group, made, _⟩ := grouping.exists_ofMembers? member
  rw [chosen] at made ⊢
  -- A browser of the list has a target, and the group takes its name from the first.
  cases found : targetsOf targets id with
  | nil =>
    rw [found] at made
    cases made
  | cons first rest =>
    rw [Grouping.ofMembers?, foldl_add, Function.comp_apply, nameOf_eq, versionsOf, found]
    rfl

end TargetGroup

/-- The browsers share the targets among them. -/
theorem perm_targetsOf (targets : List Target) :
    ((browserIds targets).flatMap (targetsOf targets)).Perm targets := by
  have parts := perm_flatMap_filter (nodup_eraseDups (targets.map (·.id))) Target.id targets
  have whole : targets.filter (·.id ∈ (targets.map (·.id)).eraseDups) = targets := by
    refine List.filter_eq_self.mpr fun target member => decide_eq_true ?_
    exact List.mem_eraseDups.mpr (List.mem_map_of_mem member)
  rwa [whole] at parts

/-- The versions of the browsers are those of the targets, and none is there more often. -/
theorem perm_versionsOf (targets : List Target) :
    ((browserIds targets).flatMap fun id => (versionsOf targets id).map (id, ·)).Perm
      (targets.map fun target => (target.id, target.version)) := by
  have paired : ((browserIds targets).flatMap fun id => (versionsOf targets id).map (id, ·)) =
      ((browserIds targets).flatMap (targetsOf targets)).map
        fun target => (target.id, target.version) := by
    rw [List.map_flatMap]
    refine List.flatMap_congr fun id _ => ?_
    rw [versionsOf, List.map_map]
    refine List.map_congr_left fun target member => ?_
    have own : target.id = id := by simpa [targetsOf] using (List.mem_filter.mp member).2
    rw [Function.comp_apply, own]
  rw [paired]
  exact (perm_targetsOf targets).map _

/-- Lists that come to the same browsers in the same order, with the same targets of each, have the
same groups. -/
theorem TargetGroup.ofTargets_congr {targets others : List Target}
    (order : browserIds others = browserIds targets)
    (same : ∀ id, targetsOf others id = targetsOf targets id) :
    ofTargets others = ofTargets targets := by
  simp only [ofTargets_eq, nameOf_eq, versionsOf, order, same]

/--
The text of a list names each browser once, in the order in which the list comes to them and by the
name that its first target gives, and behind the name stand the versions of all its targets in the
order of the list. The versions behind the names are those of all targets, so each target's version
is written once. Targets of different browsers may be mixed in any way that leaves the order of the
browsers as it is.
-/
theorem browserListText_by_browser (targets : List Target) :
    browserListText targets =
      ", ".intercalate ((browserIds targets).map fun id =>
        nameOf targets id ++ " " ++ ", ".intercalate (versionsOf targets id)) ∧
    ((browserIds targets).flatMap fun id => (versionsOf targets id).map (id, ·)).Perm
      (targets.map fun target => (target.id, target.version)) ∧
    ∀ others, browserIds others = browserIds targets →
      (∀ id, targetsOf others id = targetsOf targets id) →
      browserListText others = browserListText targets := by
  refine ⟨?_, perm_versionsOf targets, fun others order same => ?_⟩
  · rw [browserListText, TargetGroup.ofTargets_eq, List.map_map]
    rfl
  · rw [browserListText, browserListText, TargetGroup.ofTargets_congr order same]

/-- Two browsers in turn, one of them under several names and with one version twice. -/
def mixedTargets : List Target :=
  [⟨"firefox", "1", some "Firefox", none⟩, ⟨"safari", "13", none, none⟩,
    ⟨"firefox", "2", some "Nightly", none⟩, ⟨"safari", "12", some "Safari", none⟩,
    ⟨"firefox", "1", none, some .retired⟩]

def sortedTargets : List Target :=
  [⟨"firefox", "1", some "Firefox", none⟩, ⟨"firefox", "2", some "Nightly", none⟩,
    ⟨"firefox", "1", none, some .retired⟩, ⟨"safari", "13", none, none⟩,
    ⟨"safari", "12", some "Safari", none⟩]

theorem targetsOf_sortedTargets (id : String) :
    targetsOf sortedTargets id = targetsOf mixedTargets id := by
  by_cases firefox : "firefox" = id
  · subst firefox
    decide
  · by_cases safari : "safari" = id
    · subst safari
      decide
    · simp [targetsOf, sortedTargets, mixedTargets, firefox, safari]

theorem browserListText_by_browser_mixed :
    browserListText mixedTargets = "Firefox 1, 2, 1, safari 13, 12" ∧
    browserIds sortedTargets = browserIds mixedTargets ∧
    (∀ id, targetsOf sortedTargets id = targetsOf mixedTargets id) ∧
    browserListText sortedTargets = browserListText mixedTargets := by
  obtain ⟨text, _, reordered⟩ := browserListText_by_browser mixedTargets
  have order : browserIds sortedTargets = browserIds mixedTargets := by decide
  exact ⟨text.trans (by decide +kernel), order, targetsOf_sortedTargets,
    reordered sortedTargets order targetsOf_sortedTargets⟩

end Portability

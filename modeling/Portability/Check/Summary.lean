import Portability.Catalog.Basic
import Portability.Check.Issue
import Portability.Support.State

/-!
# Summaries

Every term that is checked first gets a summary: what the catalog says about it, which targets do
not support it, and of which other term it is a spelling.
-/
namespace Portability

structure CheckOptions where
  /-- Whether the values of declarations are checked too. -/
  values : Bool := false
  /-- Whether a browser of which a support table says nothing counts as unsupported. -/
  flagUnknown : Bool := true
deriving DecidableEq, Repr

/-- What a check found out about one term. -/
structure Findings where
  invalid : Bool := false
  deprecated : Bool := false
  experimental : Bool := false
  unsupported : List Target := []
  aliasOf : Option String := none
deriving DecidableEq, Repr

/-- Whether a state of support counts as a failure. -/
def CheckOptions.fails (options : CheckOptions) : SupportState → Bool
  | .supported => false
  | .browserNotFound => options.flagUnknown
  | .unsupported | .dataNotFound => true

/-- The targets that fail for a term with this table under a spelling. -/
def failingTargets (table : SupportTable) (spelling : String) (targets : List Target)
    (options : CheckOptions) : List Target :=
  targets.filter fun target =>
    options.fails (supportState (some table) target.id target.version spelling)

/-- Checks the term at the end of a path. A term without a table is invalid. -/
def findings (catalog : Catalog) (path : List String) (targets : List Target)
    (options : CheckOptions) : Findings :=
  match catalog.root.tableAt? path with
  | none => { invalid := true }
  | some table =>
    { deprecated := table.standing.deprecated
      experimental := table.standing.experimental
      unsupported := failingTargets table (path.getLast?.getD "") targets options
      aliasOf := catalog.root.canonicalName? path }

/-- An issue of some kind with these findings. -/
def Findings.issue (findings : Findings) (kind : IssueKind) : Issue :=
  { kind
    invalid := findings.invalid
    deprecated := findings.deprecated
    experimental := findings.experimental
    unsupported := findings.unsupported }

end Portability

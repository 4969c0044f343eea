import Portability.Check.Summary
import Portability.Check.Verdict

/-!
# Checking declarations

The declarations of a block give one summary each, and one for each component of their values that
the catalog lists. Summaries of spellings of one term are merged: an author who writes a property
with several vendor prefixes is told only of the targets for which all of them fail. Properties and
values never share a group.
-/
namespace Portability

structure Declaration where
  name : String
  value : Option AuthoredValue := none
deriving DecidableEq, Repr

def Declaration.ofJson? (json : Json) : Option Declaration := do
  let [name, value] ← json.fields? ["name", "value"] 1 | none
  return {
    name := ← Json.text? (← name)
    value := ← Json.optional AuthoredValue.ofJson? value }

/-- An issue that may yet be merged with others: the authored term and the term it spells. -/
structure Summary where
  issue : Issue
  term : String
  aliasOf : Option String
deriving DecidableEq, Repr

namespace Summary

def ofProperty (name : String) (found : Findings) : Summary :=
  { issue := { found.issue .property with property := some name }
    term := name
    aliasOf := found.aliasOf }

def ofValue (property term : String) (found : Findings) : Summary :=
  { issue := { found.issue .value with property := some property, value := some term }
    term
    aliasOf := found.aliasOf }

/-- The summaries of the listed components of a declaration's value. -/
def ofComponents (catalog : Catalog) (targets : List Target) (options : CheckOptions)
    (declaration : Declaration) : List Summary :=
  (Component.ofValue declaration.value).filterMap fun component =>
    match Verdict.of catalog declaration.name component with
    | .listed term path =>
      some (ofValue declaration.name term (findings catalog path targets options))
    | .safe | .unverifiable => none

/-- The summaries of a declaration. The value of an unknown property is not looked at. -/
def ofDeclaration (catalog : Catalog) (targets : List Target) (options : CheckOptions)
    (declaration : Declaration) : List Summary :=
  let found := findings catalog (Catalog.properties ++ [declaration.name]) targets options
  -- Without the property nothing can be said of its values.
  ofProperty declaration.name found ::
    if options.values && !found.invalid then ofComponents catalog targets options declaration
    else []

def isValue (summary : Summary) : Bool := summary.issue.kind == .value

end Summary

/-- The issues of all spellings of one term so far, merged into one. -/
structure AliasGroup where
  canonical : String
  isValue : Bool
  issue : Issue
deriving DecidableEq, Repr

namespace AliasGroup

/-- Starts a group with its first member. -/
def start (canonical : String) (summary : Summary) : AliasGroup :=
  { canonical
    isValue := summary.isValue
    issue :=
      if summary.isValue then
        { summary.issue with
          kind := .valueAliases, value := some canonical, aliases := [summary.term] }
      else
        { summary.issue with
          kind := .propertyAliases, property := some canonical, aliases := [summary.term] } }

/-- Adds a member: only targets for which it fails too stay in the list. -/
def add (group : AliasGroup) (summary : Summary) : AliasGroup :=
  { group with
    issue := { group.issue with
      unsupported := group.issue.unsupported.filter fun target =>
        summary.issue.unsupported.any (·.isSameRelease target)
      aliases :=
        if group.issue.aliases.contains summary.term then group.issue.aliases
        else group.issue.aliases ++ [summary.term] } }

/-- Adds a spelling of a term to its group, or starts one behind the others. -/
def insert (canonical : String) (summary : Summary) : List AliasGroup → List AliasGroup
  | [] => [start canonical summary]
  | group :: rest =>
    if group.canonical = canonical ∧ group.isValue = summary.isValue then
      group.add summary :: rest
    else group :: insert canonical summary rest

/-- The groups of all summaries that are spellings of some term. -/
def ofSummaries (summaries : List Summary) : List AliasGroup :=
  summaries.foldl
    (fun groups summary =>
      match summary.aliasOf with
      | some canonical => insert canonical summary groups
      | none => groups) []

end AliasGroup

/-- The issues of a list of summaries: those of terms with one spelling, then those of groups. -/
def issuesOfSummaries (summaries : List Summary) : List Issue :=
  let single := (summaries.filter (·.aliasOf.isNone)).map (·.issue)
  let groups := (AliasGroup.ofSummaries summaries).map (·.issue)
  (single ++ groups).filter Issue.isReportable

/-- The issues of a declaration block. -/
def cssIssues (catalog : Catalog) (declarations : List Declaration) (targets : List Target)
    (options : CheckOptions) : List Issue :=
  issuesOfSummaries (declarations.flatMap (Summary.ofDeclaration catalog targets options))

/-- The issues of the declarations that a JSON text lists. -/
def cssIssuesOfText (catalog : Catalog) (source : String) (targets : List Target)
    (options : CheckOptions) : Except Fault (List Issue) :=
  match (Json.ofText? source).bind (Json.listOf? Declaration.ofJson?) with
  | some declarations => .ok (cssIssues catalog declarations targets options)
  | none => .error .malformedJson

end Portability

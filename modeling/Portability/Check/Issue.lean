import Portability.Browser.Target

/-!
# Issues

An issue says of one term, or of one group of spellings of a term, that it is no known term, that
standards advise against it, or that some target does not support it. Which of the fields are
present depends on the kind of the issue.
-/
namespace Portability

inductive IssueKind where
  | property
  | propertyAliases
  | value
  | valueAliases
  | element
  | elementAttribute
deriving DecidableEq, Repr

namespace IssueKind

def word : IssueKind → String
  | property => "CSS_PROPERTY"
  | propertyAliases => "CSS_PROPERTY_ALIASES"
  | value => "CSS_VALUE"
  | valueAliases => "CSS_VALUE_ALIASES"
  | element => "HTML_ELEMENT"
  | elementAttribute => "HTML_ATTRIBUTE"

def all : List IssueKind := [property, propertyAliases, value, valueAliases, element, elementAttribute]

def ofWord? (word : String) : Option IssueKind := all.find? (·.word == word)

def isGroup (kind : IssueKind) : Bool := kind == propertyAliases || kind == valueAliases

end IssueKind

structure Issue where
  kind : IssueKind
  property : Option String := none
  element : Option String := none
  attributeName : Option String := none
  value : Option String := none
  aliases : List String := []
  invalid : Bool := false
  deprecated : Bool := false
  experimental : Bool := false
  unsupported : List Target := []
deriving DecidableEq, Repr

namespace Issue

/-- Whether there is anything to report. -/
def isReportable (issue : Issue) : Bool :=
  issue.invalid || issue.deprecated || issue.experimental || !issue.unsupported.isEmpty

def toJson (issue : Issue) : Json :=
  let optional (name : String) (content : Option String) :=
    (content.map fun content => (name, Json.text content)).toList
  .object (
    [("type", .text issue.kind.word)] ++
    optional "property" issue.property ++
    optional "element" issue.element ++
    optional "attribute" issue.attributeName ++
    optional "value" issue.value ++
    (if issue.aliases.isEmpty then [] else [("aliases", .list (issue.aliases.map .text))]) ++
    [("invalid", .boolean issue.invalid),
      ("deprecated", .boolean issue.deprecated),
      ("experimental", .boolean issue.experimental),
      ("unsupported_browsers", .list (issue.unsupported.map Target.toJson))])

/-- The spellings of a group. -/
def aliasText (issue : Issue) : String :=
  ", ".intercalate issue.aliases ++ if issue.aliases.length = 1 then " alias" else " aliases"

/-- What the issue is about, as authored. -/
def subject (issue : Issue) : String :=
  let property := issue.property.getD ""
  let element := issue.element.getD ""
  match issue.kind with
  | .property => property
  | .propertyAliases => issue.aliasText
  | .value => property ++ ": " ++ issue.value.getD ""
  | .valueAliases => property ++ ": " ++ issue.aliasText
  | .element => "<" ++ element ++ ">"
  | .elementAttribute => "<" ++ element ++ " " ++ issue.attributeName.getD "" ++ ">"

/-- Whether the subject is several spellings. -/
def isPlural (issue : Issue) : Bool := issue.kind.isGroup && 1 < issue.aliases.length

/-- What standards say, in the words of a report. -/
def standing? (issue : Issue) : Option String :=
  match issue.deprecated, issue.experimental with
  | true, true => some "deprecated and experimental"
  | true, false => some "deprecated"
  | false, true => some "experimental"
  | false, false => none

/-- The statements that a report makes of a term that is known. -/
def clauses (issue : Issue) : List String :=
  let standing := issue.standing?.map fun standing =>
    (if issue.isPlural then "are " else "is ") ++ standing
  let support :=
    if issue.unsupported.isEmpty then none
    else some ((if issue.isPlural then "do" else "does") ++ " not support " ++
      browserListText issue.unsupported)
  standing.toList ++ support.toList

/-- The sentence of a report. -/
def text (issue : Issue) : String :=
  if issue.invalid then
    issue.subject ++ (if issue.isPlural then " are" else " is") ++ " invalid."
  else issue.subject ++ " " ++ " and ".intercalate issue.clauses ++ "."

end Issue

end Portability

import Portability.Check.Issue
import Portability.Fault
import Portability.Json.Printer
import Portability.Program.Arguments

/-!
# Reports

Checking a list of files gives for each of them its issues or the fault that kept it from being
checked. A fault in one file has no effect on the report of another. The issues go to the standard
output, as sentences or as JSON, and the faults to the standard error output.
-/
namespace Portability

/-- What a run leaves behind. -/
structure Outcome where
  exitCode : Nat
  output : String
  errors : String
deriving DecidableEq, Repr

/-- The result of checking one file. -/
structure FileResult where
  file : String
  result : Except Fault (List Issue)

structure FileReport where
  file : String
  issues : List Issue
deriving DecidableEq, Repr

namespace FileResult

def report? (result : FileResult) : Option FileReport :=
  match result.result with
  | .ok issues => some ⟨result.file, issues⟩
  | .error _ => none

def fault? (result : FileResult) : Option (String × Fault) :=
  match result.result with
  | .ok _ => none
  | .error fault => some (result.file, fault)

end FileResult

def unlines (lines : List String) : String := String.join (lines.map (· ++ "\n"))

def faultLine (fault : Fault) : String := "❌ " ++ fault.message

namespace FileReport

def toJson (report : FileReport) : Json :=
  .object [("file", .text report.file), ("issues", .list (report.issues.map Issue.toJson))]

/-- The lines of a report in sentences. -/
def lines (report : FileReport) : List String :=
  if report.issues.isEmpty then ["✅ " ++ report.file ++ " - No issues found"]
  else
    ("🔍 " ++ report.file ++ " - " ++ toString report.issues.length ++ " issues") ::
      report.issues.map fun issue => "   ⚠️  " ++ issue.text

end FileReport

/-- The lines that sum up a run over several files. -/
def summaryLines (files : Nat) (reports : List FileReport) (faults : Nat) (elapsed : String) :
    List String :=
  let issues := reports.foldl (fun total report => total + report.issues.length) 0
  ["", "📊 Check Summary:",
    "   Total files: " ++ toString files,
    "   Files with issues: " ++ toString (reports.countP (!·.issues.isEmpty)),
    "   Total issues: " ++ toString issues] ++
  (if faults = 0 then [] else ["   Files with errors: " ++ toString faults]) ++
  ["   Time: " ++ elapsed ++ "ms"]

/-- The outcome of checking some files. -/
def outcomeOfResults (format : ReportFormat) (results : List FileResult) (elapsed : String) :
    Outcome :=
  let reports := results.filterMap FileResult.report?
  let faults := results.filterMap FileResult.fault?
  let lines := match format with
    | .json => [(Json.list (reports.map FileReport.toJson)).pretty]
    | .text =>
      reports.flatMap FileReport.lines ++
        if 1 < results.length then summaryLines results.length reports faults.length elapsed
        else []
  -- A fault in some file fails the run, but only after all files were looked at.
  let failed := faults.map fun (file, fault) => "❌ " ++ file ++ " - " ++ fault.message
  if faults.isEmpty then ⟨0, unlines lines, ""⟩
  else ⟨1, unlines lines, unlines (failed ++ [faultLine (.uncheckedFiles faults.length)])⟩

/-- The outcome of a run that could not begin. -/
def outcomeOfFault (fault : Fault) : Outcome := ⟨1, "", unlines [faultLine fault]⟩

/-- The outcome of a run whose files could not be found out. -/
def outcomeOfSearchProblem (found : SearchProblem) : Outcome :=
  ⟨1, "", unlines ["IO Error: " ++ found.message]⟩

/-- The list of the default targets. -/
def outcomeOfTargets (format : ReportFormat) (targets : List Target) : Outcome :=
  let line (target : Target) : String :=
    match target.status with
    | some status => "   " ++ target.text ++ " (" ++ status.word ++ ")"
    | none => "   " ++ target.text
  let lines := match format with
    | .json => [(Json.list (targets.map Target.toJson)).pretty]
    | .text => "🌐 Default target browsers:" :: targets.map line
  ⟨0, unlines lines, ""⟩

end Portability

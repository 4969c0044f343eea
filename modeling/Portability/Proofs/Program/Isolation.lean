import Portability.Program.Run
import Portability.Proofs.Program.Report

/-!
# Each file by itself

A run over several files deals with each of them alone: what a file holds, or whether it can be
read, is nothing to the others. A file that can be read and checked gives a report with the issues
that its text has by itself, and any other file gives one line among the errors. Both stand in the
order of the files, so the numbers add up, and the run succeeds just if no file is at fault. Only
if it cannot be found out which files there are, there is no report at all.
-/
namespace Portability.Program

variable {read : String → Except FileProblem String} {check : String → Except Fault (List Issue)}

/--
How files are dealt with, one by one: the reports of those that can be read and checked, and the
others with what is wrong with them.
-/
inductive Settled (read : String → Except FileProblem String)
    (check : String → Except Fault (List Issue)) :
    List String → List FileReport → List (String × Fault) → Prop
  | nil : Settled read check [] [] []
  | checked {file text : String} {issues : List Issue} {files : List String}
      {reports : List FileReport} {faults : List (String × Fault)}
      (held : read file = .ok text) (passed : check text = .ok issues)
      (others : Settled read check files reports faults) :
      Settled read check (file :: files) (⟨file, issues⟩ :: reports) faults
  | unchecked {file text : String} {fault : Fault} {files : List String}
      {reports : List FileReport} {faults : List (String × Fault)}
      (held : read file = .ok text) (failed : check text = .error fault)
      (others : Settled read check files reports faults) :
      Settled read check (file :: files) reports ((file, fault) :: faults)
  | unread {file : String} {problem : FileProblem} {files : List String}
      {reports : List FileReport} {faults : List (String × Fault)}
      (missing : read file = .error problem) (others : Settled read check files reports faults) :
      Settled read check (file :: files) reports
        ((file, .unreadableFile file problem) :: faults)

/-- Whether a file can be read and checked. -/
def isCheckable (read : String → Except FileProblem String)
    (check : String → Except Fault (List Issue)) (file : String) : Bool :=
  match read file with
  | .ok text => (check text).isOk
  | .error _ => false

namespace Settled

variable {files : List String} {reports : List FileReport} {faults : List (String × Fault)}

/-- One more file adds its report or its fault, and leaves the others as they are. -/
theorem add (file : String) (others : Settled read check files reports faults) :
    Settled read check (file :: files)
      ((checkFile check file (read file)).report?.toList ++ reports)
      ((checkFile check file (read file)).fault?.toList ++ faults) := by
  unfold checkFile
  cases held : read file with
  | error problem => exact .unread held others
  | ok text =>
    unfold FileResult.report? FileResult.fault?
    dsimp only
    cases result : check text with
    | error fault => exact .unchecked held result others
    | ok issues => exact .checked held result others

theorem length_eq (settled : Settled read check files reports faults) :
    files.length = reports.length + faults.length := by
  induction settled with
  | nil => rfl
  | checked _ _ _ ih | unchecked _ _ _ ih | unread _ _ ih =>
    simp only [List.length_cons]
    omega

/-- Without the files at fault the reports are the same. -/
theorem filter (settled : Settled read check files reports faults) :
    Settled read check (files.filter (isCheckable read check)) reports [] := by
  induction settled with
  | nil => exact .nil
  | checked held passed _ ih =>
    rw [List.filter_cons_of_pos (by simp [isCheckable, held, passed, Except.isOk, Except.toBool])]
    exact .checked held passed ih
  | unchecked held failed _ ih =>
    rwa [List.filter_cons_of_neg (by simp [isCheckable, held, failed, Except.isOk, Except.toBool])]
  | unread missing _ ih => rwa [List.filter_cons_of_neg (by simp [isCheckable, missing])]

end Settled

/-! The steps of a run up to its files. -/

variable {host : Host Id} {words : List String} {options : CommonOptions} {request : CheckRequest}
  {config : Config} {catalog : Catalog} {targets : List Target}

end Portability.Program

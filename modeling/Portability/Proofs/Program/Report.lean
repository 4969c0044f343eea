import Portability.Program.Report
import Portability.Proofs.Json.Printer

/-!
# What a run prints

The texts that a run over some files leaves behind, spelled out by the reports and the faults alone.
Every file that was checked has its report on the standard output, as sentences or in one JSON
document that reads as the list of the reports. Every file at fault has a line among the errors, and
one more line counts them.
-/
namespace Portability.Program

open Json

section Outcome

variable (format : ReportFormat) (results : List FileResult) (elapsed : String)

end Outcome

end Portability.Program

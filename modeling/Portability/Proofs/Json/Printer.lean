import Portability.Json.Printer
import Portability.Json.Reader
import Portability.Proofs.Json.Fields

/-!
# Documents are read back

What is written of a document over several lines reads as this document, if there are no numbers in
it and its containers are not nested too deeply. The machine that reads goes through the text of a
value as through a single step: it adds the value to what it holds, whatever stands behind the text.
-/
namespace Portability.Json

/-- What may stand between tokens. -/
def isBlank (c : Char) : Bool := c == ' ' || c == '\t' || c == '\n' || c == '\r'

namespace Token

end Token

namespace Machine

/-- Reads a text from this state on. -/
def run (machine : Machine) (text : List Char) : Option Machine :=
  (Token.readAll [] text).bind (·.foldlM step machine)

section Entries

variable {ε : Type} {machine : Machine} {frame : List ε → Frame} {first next : Expected}
  {write : ε → String} {entries : List ε}

end Entries

end Machine

end Portability.Json

import Portability.Main
import Portability.Proofs.Catalog.Idempotence
import Portability.Proofs.Catalog.Place
import Portability.Proofs.Check.Mentions
import Portability.Proofs.Check.Spellings
import Portability.Proofs.Check.Telling
import Portability.Proofs.Check.Levels
import Portability.Proofs.Check.Order
import Portability.Proofs.Catalog.Exactness
import Portability.Proofs.Catalog.Faults
import Portability.Proofs.Catalog.Written
import Portability.Proofs.Check.UnknownBrowsers
import Portability.Proofs.Check.LetterCase
import Portability.Proofs.Check.WellFormed
import Portability.Proofs.Value.Unparse
import Portability.Proofs.Decimal.Locality
import Portability.Proofs.Value.Layout
import Portability.Proofs.Catalog.Search
import Portability.Proofs.Check.Priority
import Portability.Proofs.Check.Respelling
import Portability.Proofs.Program.Isolation
import Portability.Proofs.Support.Monotone
import Portability.Proofs.Value.Parentheses
import Portability.Proofs.Value.Numbers
import Portability.Proofs.Value.Escapes
import Portability.Proofs.Support.Entries
import Portability.Proofs.Check.Elements
import Portability.Proofs.Program.Targets
import Portability.Proofs.Browser.Listing
import Portability.Proofs.Support.VersionNumber

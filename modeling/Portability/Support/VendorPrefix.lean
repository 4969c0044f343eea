import Portability.Text.Word

/-!
# Vendor prefixes

A spelling such as `-moz-user-select` begins with the name of a vendor between two hyphens.
-/
namespace Portability

/-- The vendor prefix of a spelling: a hyphen, word characters, and a hyphen. -/
def vendorPrefix? (spelling : String) : Option String :=
  match spelling.toList with
  | '-' :: rest =>
    match rest.takeWhile Text.isWordChar, rest.dropWhile Text.isWordChar with
    | c :: vendor, '-' :: _ => some (String.ofList ('-' :: c :: vendor ++ ['-']))
    | _, _ => none
  | _ => none

end Portability

import Gatehouse.Text.Blank

/-! # Names of servers, roles and channels

A name is acceptable if it has between 1 and 100 characters once the blanks at its ends are cut. It
is kept as given: the blanks count for nothing here, but they are stored.
-/

namespace Gatehouse.Name

def limit : Nat := 100

def acceptable (name : String) : Bool :=
  let length := (Text.trimChars name.toList).length
  1 ≤ length && length ≤ limit

/-- What is said about a name that is not acceptable. -/
def complaint : String := "name must be between 1 and 100 characters"

end Gatehouse.Name

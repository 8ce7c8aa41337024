/-!
# Sets of characters

A set of characters given by the ranges of their code points, both ends included.
-/

namespace Audience.Text

/-- The ranges of code points of a set of characters. -/
abbrev CharSet := List (Nat × Nat)

/-- Whether a character is in a set. -/
def CharSet.has (set : CharSet) (c : Char) : Bool :=
  set.any fun range => range.1 ≤ c.toNat && c.toNat ≤ range.2

end Audience.Text

/-!
# Sets of code points

A large set of code points is written as the increasing list of its
boundaries: the first code point inside, the first one outside again, and so
on.  This is the form in which the tables of Unicode properties are kept.
-/

namespace InstrumentBench.Text

/-- The increasing boundaries at which membership changes, starting outside. -/
abbrev CharSet := List Nat

namespace CharSet

/-- Whether a code point lies in the set: it has passed an odd number of
boundaries. -/
def contains : CharSet → Nat → Bool
  | [], _ => false
  | boundary :: rest, code => boundary ≤ code && !contains rest code

end CharSet

end InstrumentBench.Text

/-!
# Sets of code points

A set of code points is held as its boundary list: the increasing list of the code points at
which membership changes, the first boundary starting the first run of members. A code point
belongs to the set when an odd number of boundaries do not exceed it.
-/
namespace ClassAtlas.Text

/-- Whether an odd number of leading boundaries do not exceed the code point. -/
def within : List Nat → Nat → Bool
  | [], _ => false
  | boundary :: boundaries, code => boundary ≤ code && !within boundaries code

end ClassAtlas.Text

/-!
# Gelf.Text.Ranges

Sets of code points written as a sorted list of closed ranges.

* `Ranges`: the list of ranges, each with its first and last member.
* `Ranges.has`: membership; the search stops at the first range that begins too high.
-/

namespace Gelf.Text

abbrev Ranges := List (Nat × Nat)

/-- Is `n` in one of the ranges? The ranges are in ascending order. -/
def Ranges.has : Ranges → Nat → Bool
  | [], _ => false
  | (lo, hi) :: rest, n =>
    if n < lo then false
    else if n ≤ hi then true
    else Ranges.has rest n

end Gelf.Text

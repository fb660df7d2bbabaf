/-!
# Sets of characters given by ranges of code points

The Unicode properties used by this library are finite unions of intervals of
code points. A set is listed as its intervals, both ends included.
-/

namespace EnvTags
namespace Text

/-- A set of characters, listed as closed intervals of code points. -/
abbrev Ranges := List (Nat × Nat)

namespace Ranges

/-- Membership of a character in a set of ranges. -/
def contains (ranges : Ranges) (c : Char) : Bool :=
  ranges.any fun range => range.1 ≤ c.toNat && c.toNat ≤ range.2

theorem contains_iff
    (ranges : Ranges)
    (c : Char) :
    ranges.contains c = true ↔
      ∃ range ∈ ranges, range.1 ≤ c.toNat ∧ c.toNat ≤ range.2 := by
  simp [contains]

end Ranges

/-- The characters of the first block of Unicode, the only ones for which the
classes of the core library are exact. -/
def isAscii (c : Char) : Bool :=
  c.toNat < 128

end Text
end EnvTags

/-!
# Ranges of code points

A set of characters as a list of closed ranges of code points, in ascending order.
-/

namespace MojoToolchain.Text

/-- Closed ranges of code points. -/
abbrev Ranges := List (Nat × Nat)

/-- A character lies in one of the ranges. -/
def Ranges.holds (ranges : Ranges) (c : Char) : Bool :=
  ranges.any fun (low, high) => low ≤ c.toNat && c.toNat ≤ high

theorem Ranges.holds_iff {ranges : Ranges} {c : Char} :
  ranges.holds c ↔ ∃ r ∈ ranges, r.1 ≤ c.toNat ∧ c.toNat ≤ r.2
  := by
  simp [Ranges.holds]

end MojoToolchain.Text

/-!
# Tables of code points

A property of characters is a table of inclusive ranges of code points in ascending order. Looking
a code point up stops at the first range that starts behind it, so a range out of order would be
missed without a sign of it. That is why no table can be built without a check of its order.

## Main definitions

* `RangeTable`: ranges in order and apart
* `RangeTable.covers`: the membership test

## Main results

* `RangeTable.covers_iff`: the test finds the code points of every range and no other
-/

namespace Lexing.Unicode

/-- Whether ranges are in order and apart, and none of them starts before a given code point. -/
def ascendingFrom (least : Nat) : List (Nat × Nat) → Bool
  | [] => true
  | (low, high) :: ranges => least ≤ low && low ≤ high && ascendingFrom (high + 1) ranges

/-- Inclusive ranges of code points, in ascending order. -/
structure RangeTable where
  ranges : List (Nat × Nat)
  ascending : ascendingFrom 0 ranges = true := by decide +kernel

namespace RangeTable

/-- Whether a code point lies in one of the ranges. What starts behind it is not looked at. -/
def search (code : Nat) : List (Nat × Nat) → Bool
  | [] => false
  | (low, high) :: ranges => low ≤ code && (code ≤ high || search code ranges)

/-- Whether a code point lies in one of the ranges of a table. -/
def covers (table : RangeTable) (code : Nat) : Bool := search code table.ranges

theorem ascendingFrom_cons {least low high : Nat} {ranges : List (Nat × Nat)} :
    ascendingFrom least ((low, high) :: ranges) = true ↔
      least ≤ low ∧ low ≤ high ∧ ascendingFrom (high + 1) ranges = true := by
  simp only [ascendingFrom, Bool.and_eq_true, decide_eq_true_eq, and_assoc]

/-- No range starts before the bound. -/
theorem le_of_ascendingFrom {least : Nat} {ranges : List (Nat × Nat)}
    (ascending : ascendingFrom least ranges = true) {range : Nat × Nat} (inside : range ∈ ranges) :
    least ≤ range.1 := by
  induction ranges generalizing least with
  | nil => contradiction
  | cons first ranges ih =>
    obtain ⟨low, high⟩ := first
    obtain ⟨bound, proper, later⟩ := ascendingFrom_cons.1 ascending
    rcases List.mem_cons.1 inside with rfl | behind
    · exact bound
    · have next := ih later behind
      omega

/-- The early stop of the search misses nothing where the ranges are in order. -/
theorem search_iff {least : Nat} {ranges : List (Nat × Nat)}
    (ascending : ascendingFrom least ranges = true) (code : Nat) :
    search code ranges = true ↔ ∃ range ∈ ranges, range.1 ≤ code ∧ code ≤ range.2 := by
  induction ranges generalizing least with
  | nil => simp [search]
  | cons first ranges ih =>
    obtain ⟨low, high⟩ := first
    obtain ⟨-, proper, later⟩ := ascendingFrom_cons.1 ascending
    simp only [search, Bool.and_eq_true, decide_eq_true_eq, Bool.or_eq_true, ih later,
      List.mem_cons, exists_eq_or_imp]
    constructor
    · rintro ⟨above, below | found⟩
      · exact .inl ⟨above, below⟩
      · exact .inr found
    · rintro (⟨above, below⟩ | ⟨range, behind, above, below⟩)
      · exact ⟨above, .inl below⟩
      · have next := le_of_ascendingFrom later behind
        exact ⟨by omega, .inr ⟨range, behind, above, below⟩⟩

/-- The test finds the code points of every range and no other. -/
theorem covers_iff (table : RangeTable) (code : Nat) :
    table.covers code = true ↔ ∃ range ∈ table.ranges, range.1 ≤ code ∧ code ≤ range.2 :=
  search_iff table.ascending code

end RangeTable

end Lexing.Unicode

/-!
# Sets of code points

A property of characters is a list of disjoint code point ranges in ascending order. Membership
stops at the first range that starts above the character, so the common low characters are
decided at once.

Results:
1. `CodeSet.contains_iff`: in an ascending set, membership is lying within one of the ranges.
2. `CodeSet.not_contains_of_lt`: nothing below the first range is a member.
-/

namespace Abacus.Text

/-- Code point ranges, both ends included. -/
abbrev CodeSet := List (Nat × Nat)

namespace CodeSet

/-- Looks the code point up from the lowest range on. -/
def containsCode : CodeSet → Nat → Bool
  | [], _ => false
  | (first, last) :: above, n => if n < first then false else n ≤ last || containsCode above n

/-- A character is a member if its code point lies in one of the ranges. -/
def contains (set : CodeSet) (c : Char) : Bool :=
  set.containsCode c.toNat

/-- Tests that ranges are well formed, disjoint, in order and none below the bound. -/
def ascendingFrom : Nat → CodeSet → Bool
  | _, [] => true
  | bound, (first, last) :: above =>
    decide (bound ≤ first) && decide (first ≤ last) && ascendingFrom (last + 1) above

/-- Only ranges of the set hold members. -/
theorem exists_range_of_containsCode {set : CodeSet} {n : Nat} (h : set.containsCode n = true) :
    ∃ range ∈ set, range.1 ≤ n ∧ n ≤ range.2 := by
  induction set with
  | nil => simp [containsCode] at h
  | cons range above ih =>
    obtain ⟨first, last⟩ := range
    by_cases low : n < first
    · simp [containsCode, low] at h
    · by_cases within : n ≤ last
      · exact ⟨(first, last), by simp, by omega, within⟩
      · have rest : containsCode above n = true := by simpa [containsCode, low, within] using h
        obtain ⟨found, mem, bounds⟩ := ih rest
        exact ⟨found, List.mem_cons_of_mem _ mem, bounds⟩

/-- The order bounds every range from below. -/
theorem le_of_ascendingFrom {set : CodeSet} {bound : Nat} (h : ascendingFrom bound set = true)
    {range : Nat × Nat} (mem : range ∈ set) : bound ≤ range.1 := by
  induction set generalizing bound with
  | nil => simp at mem
  | cons head above ih =>
    obtain ⟨first, last⟩ := head
    simp only [ascendingFrom, Bool.and_eq_true, decide_eq_true_eq] at h
    rcases List.mem_cons.mp mem with rfl | later
    · exact h.1.1
    · have := ih h.2 later
      omega

/-- In an ascending set, membership is lying within one of the ranges. -/
theorem contains_iff {set : CodeSet} {bound : Nat} (h : ascendingFrom bound set = true)
    {c : Char} : set.contains c = true ↔ ∃ range ∈ set, range.1 ≤ c.toNat ∧ c.toNat ≤ range.2 := by
  refine ⟨exists_range_of_containsCode, ?_⟩
  unfold contains
  generalize c.toNat = n
  induction set generalizing bound with
  | nil => simp
  | cons head above ih =>
    obtain ⟨first, last⟩ := head
    simp only [ascendingFrom, Bool.and_eq_true, decide_eq_true_eq] at h
    rintro ⟨range, mem, low, high⟩
    rcases List.mem_cons.mp mem with rfl | later
    · have notLow : ¬ n < first := by simp only at low; omega
      have within : n ≤ last := high
      simp [containsCode, notLow, within]
    · have above_last := le_of_ascendingFrom h.2 later
      have notLow : ¬ n < first := by omega
      simp [containsCode, notLow, ih h.2 ⟨range, later, low, high⟩]

/-- Nothing below the first range is a member. -/
theorem not_contains_of_lt {set : CodeSet} {bound : Nat} (h : ascendingFrom bound set = true)
    {c : Char} (low : c.toNat < bound) : set.contains c = false := by
  cases eq : set.contains c with
  | false => rfl
  | true =>
    obtain ⟨range, mem, first, _⟩ := (contains_iff h).mp eq
    have := le_of_ascendingFrom h mem
    omega

end CodeSet

end Abacus.Text

import Garage.Text.PrintableTable

/-! Which characters show something of their own when a text is printed. -/

namespace Garage.Text

/-- `c` lies in one of the ranges. -/
def inRanges (ranges : List (Nat × Nat)) (c : Char) : Bool :=
  ranges.any fun r => r.1 ≤ c.toNat && c.toNat ≤ r.2

/-- A character is printable when it is neither a control, a format character, a private or
unassigned code point, a separator other than the ASCII space, nor one that is shown as nothing. -/
def isPrintable (c : Char) : Bool :=
  !inRanges unprintableRanges c

/-- A character is extending when it is drawn on the one before it. -/
def isExtending (c : Char) : Bool :=
  inRanges extendingRanges c

theorem inRanges_of_mem {ranges : List (Nat × Nat)} {c : Char} {lo hi : Nat}
    (h : (lo, hi) ∈ ranges) (hlo : lo ≤ c.toNat) (hhi : c.toNat ≤ hi) : inRanges ranges c = true :=
  List.any_eq_true.2 ⟨(lo, hi), h, by simp [hlo, hhi]⟩

end Garage.Text

namespace Dispatch.Text

/-- Whether a character lies in one of the ranges, ends included. -/
def within (ranges : List (Nat × Nat)) (c : Char) : Bool :=
  ranges.any fun range => range.1 ≤ c.toNat && c.toNat ≤ range.2

/-- Ranges in ascending order with a gap between neighbours: there is no shorter way to give the class. -/
def areSpaced (ranges : List (Nat × Nat)) : Bool :=
  ranges.all (fun range => range.1 ≤ range.2) &&
    (ranges.zip (ranges.drop 1)).all fun pair => pair.1.2 + 1 < pair.2.1

end Dispatch.Text

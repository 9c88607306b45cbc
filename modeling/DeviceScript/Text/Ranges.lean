/-!
# Tables of code points

A character class beyond ASCII is given as a table of code point ranges, both ends included.
Membership is a plain search through the table, so a statement about a class is a statement
about the ranges that stand in it. A long table is written as gaps and lengths.
-/

namespace DeviceScript.Text

abbrev Ranges := Array (Nat × Nat)

/-- The ranges from a code point on that are given by how many code points are left out before each
range and how many belong to it. -/
def spaced (start : Nat) : List Nat → List (Nat × Nat)
  | gap :: length :: others =>
    (start + gap, start + gap + length - 1) :: spaced (start + gap + length) others
  | _ => []

def Ranges.ofGaps (numbers : List Nat) : Ranges := (spaced 0 numbers).toArray

def Ranges.contains (table : Ranges) (c : Char) : Bool :=
  table.any fun range => range.1 ≤ c.toNat && c.toNat ≤ range.2

end DeviceScript.Text

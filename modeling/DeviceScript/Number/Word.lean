import DeviceScript.Number.Binary64

/-!
# Numbers in words of the machine

A word of some bits with a sign holds the whole numbers from `-2 ^ (bits - 1)` up to, but not
including, `2 ^ (bits - 1)`. A whole number outside of that range is refused (`fits`) or loses its
upper bits (`wrapped`), and a real number outside of it is cut to the least number of the word
(`cut`).
-/

namespace DeviceScript.Number

def fits (bits : Nat) (n : Int) : Bool :=
  -(twoTo (bits - 1) : Int) ≤ n && n < twoTo (bits - 1)

/-- What a word keeps of a whole number, read with a sign. -/
def wrapped (bits : Nat) (n : Int) : Int := n.bmod (twoTo bits)

/-- A real number without its fraction in a word; what does not fit is the least number. -/
def cut (bits : Nat) (x : Float) : Int :=
  match wholePart? x with
  | some n => if fits bits n then n else -(twoTo (bits - 1) : Int)
  | none => -(twoTo (bits - 1) : Int)

/-- The number of bits of the mantissa of a number of the 32 bit binary format. -/
def singleBits : Nat := 24

/-- The whole number of the 32 bit binary format that is nearest to a whole number, a tie to the
even mantissa. -/
def single (n : Int) : Int :=
  let unit := twoTo (Nat.log2 n.natAbs + 1 - singleBits)
  n.sign * (roundQuotient n.natAbs unit * unit : Nat)

end DeviceScript.Number

/-!
# Words

Which whole numbers fit into a word of so many bits, and what is left of those that do not.
-/

namespace SpendLedger

namespace Word

/-- How many values a word has. -/
def values (bits : Nat) : Nat := Nat.pow 2 bits

/-- Whether a number fits into a word without a sign. -/
def holds (bits n : Nat) : Bool :=
  decide (n < values bits)

/-- Whether a number fits into a word with a sign, which takes one of its bits. -/
def holdsSigned (bits : Nat) (n : Int) : Bool :=
  decide (-(values (bits - 1) : Int) ≤ n) && decide (n < values (bits - 1))

/-- What is left of a number in a word without a sign. -/
def wrap (bits : Nat) (n : Int) : Nat :=
  (n % values bits).toNat

/-- What is left of a number in a word with a sign. -/
def wrapSigned (bits : Nat) (n : Int) : Int :=
  n.bmod (values bits)

end Word

end SpendLedger

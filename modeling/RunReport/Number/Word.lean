/-!
# Words of 64 Bits

How many numbers fit into 64 bits, with and without a sign.

Ids, milliseconds and the numbers of most formats are words of 64 bits. Their readers compare a
number of any size with these limits before they make a word of it, so that nothing is wrapped
around.

## Main definitions

* `Word.count`: The least number that is too large for 64 bits.
* `Word.signedLimit`: The least one if one of the bits is a sign.
-/

namespace RunReport

namespace Word

/-- The least number that does not fit into 64 bits. -/
abbrev count : Nat := 18446744073709551616

/-- The least number that does not fit into 64 bits if one of them is a sign. -/
abbrev signedLimit : Nat := 9223372036854775808

/-- One more bit doubles the numbers. -/
theorem count_eq : count = 2 * signedLimit := rfl

end Word

end RunReport

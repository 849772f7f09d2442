/-!
The limits of integers of 64 bits.
-/

namespace RunTable

/-- One more than the largest number of 64 bits without a sign. -/
def wordLimit : Nat := 18446744073709551616

/-- One more than the largest number of 64 bits with a sign; the smallest is minus this. -/
def signedLimit : Nat := 9223372036854775808

end RunTable

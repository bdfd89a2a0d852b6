/-!
# Signed 64-bit integers

Documents hold integers of a wider range than values do, so which of them are
signed 64-bit integers is asked in several places.
-/

namespace StartStep

/-- Whether an integer is a signed 64-bit integer. -/
def fitsInt64 (i : Int) : Bool := -0x8000000000000000 ≤ i && i < 0x8000000000000000

end StartStep

/-!
# Words

Integers that are exchanged and stored fit 64 bits: those with a sign lie from −2⁶³ up to below 2⁶³,
and those without from 0 up to below 2⁶⁴. The two limits are written out, since everything that
depends on them compares with them and nothing computes with them.
-/

namespace Tuner.Word

/-- The first natural number too large for 64 bits, 2⁶⁴. -/
def limit : Nat := 0x10000000000000000

/-- The first integer too large for 64 bits with a sign, 2⁶³. Its negation still fits. -/
def signedLimit : Nat := 0x8000000000000000

/-- The integers without a sign reach twice as far. -/
theorem limit_eq : limit = 2 * signedLimit := by decide

end Tuner.Word

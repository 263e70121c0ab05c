import Dsvd.Compact.Rounding

/-! # The sign of a compact word

`CompactToBig` reads a compact word as a sign and a magnitude, and `BigToCompact` sets the sign
bit for a negative number. It takes the mantissa from `x.Rsh`, which rounds a negative `x`
toward minus infinity. When the bytes of `n` below its top three are zero, the word of `-n` is
the word of `n` with the sign bit set. Otherwise the kept part of `-n` is rounded up, and a
rounded mantissa of `2^24` spills into the exponent byte.
-/

namespace Dsvd

/-- At `n = 2^24 + 1` the low byte is dropped: the code keeps `⌈n / 256⌉ = 0x010001` for `-n`
and `⌊n / 256⌋ = 0x010000` for `n`, so the two words differ in more than the sign bit and `-n`
decodes to a larger magnitude. At `n = 2^32 - 1` the rounded-up mantissa `2^24` carries into
the exponent byte, and the word of `-n` decodes to zero. -/
theorem bigToCompact_neg_rounds_up :
    bigToCompact (-0x1000001) = 0x04810001 ∧ bigToCompact 0x1000001 = 0x04010000 ∧
      compactToBig (bigToCompact (-0x1000001)) = -0x1000100 ∧
      compactToBig (bigToCompact 0x1000001) = 0x1000000 ∧
      bigToCompact (-0xffffffff) = 0x05800000 ∧ bigToCompact 0xffffffff = 0x0500ffff ∧
      compactToBig (bigToCompact (-0xffffffff)) = 0 := by
  refine ⟨?_, ?_, ?_, ?_, ?_, ?_, ?_⟩ <;> decide

end Dsvd

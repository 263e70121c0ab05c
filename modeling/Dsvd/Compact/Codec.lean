import Mathlib.Tactic.Positivity
import Dsvd.Basic.GoInt

/-! # The compact target codec

`CompactToBig` and `BigToCompact` convert between a 32-bit compact word (an 8-bit
base-256 exponent, a sign bit and a 23-bit mantissa) and an arbitrary-precision
integer, and `CalcWork` turns compact bits into the work a block adds to its chain.
The definitions follow `blockchain/difficulty.go`; the lemmas below restate them as
arithmetic on the three fields, which is what every later proof uses.
-/

namespace Dsvd

/-- `len(n.Bytes())`: the number of bytes of the big-endian magnitude `n`. The walk divides
by 256 at most `n` times. -/
def byteLen (n : Nat) : Nat := go n n
where
  go : Nat → Nat → Nat
    | 0, _ => 0
    | fuel + 1, n => if n = 0 then 0 else go fuel (n / 256) + 1

/-- `CompactToBig`: the integer `(-1)^sign * mantissa * 256^(exponent-3)`. -/
def compactToBig (compact : UInt32) : Int :=
  let mantissa := compact.toNat &&& 0x007fffff
  let isNegative := compact.toNat &&& 0x00800000 != 0
  let exponent := compact.toNat >>> 24
  let bn : Int :=
    if exponent ≤ 3 then ((mantissa >>> (8 * (3 - exponent)) : Nat) : Int)
    else ((mantissa <<< (8 * (exponent - 3)) : Nat) : Int)
  if isNegative then -bn else bn

/-- `BigToCompact`. `uint32(x.Bits()[0])` keeps the low 32 bits of the magnitude of `x`, and
`x.Rsh` of a negative `x` rounds toward minus infinity. -/
def bigToCompact (n : Int) : UInt32 :=
  if n = 0 then 0 else
  let exponent := byteLen n.natAbs
  let mantissa : Nat :=
    if exponent ≤ 3 then ((n.natAbs % 2 ^ 32) <<< (8 * (3 - exponent))) % 2 ^ 32
    else (n >>> (8 * (exponent - 3))).natAbs % 2 ^ 32
  let signSet := mantissa &&& 0x00800000 != 0
  let mantissa := if signSet then mantissa >>> 8 else mantissa
  let exponent := if signSet then exponent + 1 else exponent
  let compact := (exponent <<< 24) % 2 ^ 32 ||| mantissa
  UInt32.ofNat (if n < 0 then compact ||| 0x00800000 else compact)

/-- `CalcWork`: `2^256 / (target + 1)`, and no work for a target that is not positive. -/
def calcWork (bits : UInt32) : Int :=
  let difficultyNum := compactToBig bits
  if difficultyNum ≤ 0 then 0 else 2 ^ 256 / (difficultyNum + 1)

/-! ## The three fields -/

/-- The magnitude a sign-clear compact word with mantissa `m` and exponent `e` denotes. -/
def gridVal (m e : Nat) : Nat := if e ≤ 3 then m / 256 ^ (3 - e) else m * 256 ^ (e - 3)

/-- The mantissa `BigToCompact` reads from a magnitude `n` of `e` bytes, before the
sign-bit normalisation. -/
def rawMantissa (n e : Nat) : Nat := if e ≤ 3 then n * 256 ^ (3 - e) else n / 256 ^ (e - 3)

/-- The compact word `BigToCompact` builds for a positive magnitude `n`, as a number. -/
def compactOf (n : Nat) : Nat :=
  let e := byteLen n
  let m := rawMantissa n e
  if 2 ^ 23 ≤ m then (e + 1) % 256 * 2 ^ 24 + m / 256 else e % 256 * 2 ^ 24 + m

theorem byteLen_go_le_iff {fuel n : Nat} (hn : n ≤ fuel) (k : Nat) :
    byteLen.go fuel n ≤ k ↔ n < 256 ^ k := by
  induction fuel generalizing n k with
  | zero => simp [byteLen.go, Nat.le_zero.mp hn, Nat.pos_pow_of_pos]
  | succ fuel ih =>
    rw [byteLen.go]
    split
    · simp [*, Nat.pos_pow_of_pos]
    · cases k with
      | zero => simp; omega
      | succ k =>
        rw [Nat.add_le_add_iff_right, ih (by omega), Nat.div_lt_iff_lt_mul (by omega), pow_succ]

/-- The byte length is the least `k` with `n < 256^k`. -/
theorem byteLen_le_iff (n k : Nat) : byteLen n ≤ k ↔ n < 256 ^ k :=
  byteLen_go_le_iff le_rfl k

theorem lt_pow_byteLen (n : Nat) : n < 256 ^ byteLen n := (byteLen_le_iff n _).mp le_rfl

theorem pow_byteLen_pred_le {n : Nat} (hn : 0 < n) : 256 ^ (byteLen n - 1) ≤ n := by
  have h : ¬ byteLen n ≤ byteLen n - 1 := by
    have : byteLen n ≠ 0 := fun h => by simpa [h] using (byteLen_le_iff n 0).not.mpr (by omega)
    omega
  simpa [byteLen_le_iff] using h

theorem byteLen_le_32 {n : Nat} (h : n < 2 ^ 256) : byteLen n ≤ 32 :=
  (byteLen_le_iff n 32).mpr (by simpa using h)

theorem toNat_uint32_ofNat (n : Nat) : (UInt32.ofNat n).toNat = n % 2 ^ 32 :=
  BitVec.toNat_ofNat _ _

/-- The mask `0x00800000` reads bit 23. -/
theorem land_signBit (m : Nat) : m &&& 0x00800000 = m / 2 ^ 23 % 2 * 2 ^ 23 := by
  rw [show (0x00800000 : Nat) = 2 ^ 23 from rfl, Nat.and_two_pow, Nat.testBit_to_div_mod]
  rcases Nat.mod_two_eq_zero_or_one (m / 2 ^ 23) with h | h <;> rw [h] <;> rfl

theorem land_signBit_ne_zero_iff {m : Nat} (hm : m < 2 ^ 24) :
    m &&& 0x00800000 ≠ 0 ↔ 2 ^ 23 ≤ m := by
  rw [land_signBit]; omega

theorem shiftRight_byte (m k : Nat) : m >>> (8 * k) = m / 256 ^ k := by
  rw [Nat.shiftRight_eq_div_pow, pow_mul]; rfl

theorem shiftLeft_byte (m k : Nat) : m <<< (8 * k) = m * 256 ^ k := by
  rw [Nat.shiftLeft_eq, pow_mul]; rfl

/-- `CompactToBig` as arithmetic on the sign bit, the mantissa and the exponent. -/
theorem compactToBig_eq (c : UInt32) :
    compactToBig c = (if c.toNat / 2 ^ 23 % 2 = 1 then -1 else 1) *
      (gridVal (c.toNat % 2 ^ 23) (c.toNat / 2 ^ 24) : Int) := by
  have hm : c.toNat &&& 0x007fffff = c.toNat % 2 ^ 23 :=
    Nat.and_pow_two_sub_one_eq_mod c.toNat 23
  have hs : (c.toNat &&& 0x00800000 != 0) = decide (c.toNat / 2 ^ 23 % 2 = 1) := by
    rw [land_signBit]
    rcases Nat.mod_two_eq_zero_or_one (c.toNat / 2 ^ 23) with h | h <;> rw [h] <;> rfl
  simp only [compactToBig, hm, hs, Nat.shiftRight_eq_div_pow (c.toNat) 24, shiftRight_byte,
    shiftLeft_byte, gridVal, decide_eq_true_eq]
  split_ifs <;> simp

/-- A compact word denotes less than `2^23 * 256^252 = 2^2039`. -/
theorem compactToBig_lt (c : UInt32) : compactToBig c < 2 ^ 2039 := by
  have he : c.toNat / 2 ^ 24 - 3 ≤ 252 := by
    have := c.toNat_lt_size; simp only [UInt32.size] at this; omega
  have hm : c.toNat % 2 ^ 23 < 2 ^ 23 := Nat.mod_lt _ (by norm_num)
  have hg : gridVal (c.toNat % 2 ^ 23) (c.toNat / 2 ^ 24) < 2 ^ 23 * 256 ^ 252 := by
    unfold gridVal
    split_ifs
    · exact (Nat.div_le_self _ _).trans_lt (hm.trans_le (Nat.le_mul_of_pos_right _ (by positivity)))
    · exact Nat.mul_lt_mul_of_lt_of_le hm (Nat.pow_le_pow_right (by norm_num) he) (by positivity)
  rw [show 2 ^ 23 * 256 ^ 252 = 2 ^ 2039 by rw [show (256 : Nat) = 2 ^ 8 from rfl, ← pow_mul,
    ← pow_add]] at hg
  rw [compactToBig_eq]
  split_ifs <;> omega

/-- A word whose exponent field is `e` and whose mantissa `m` leaves the sign bit clear. -/
theorem compactToBig_ofNat {e m : Nat} (he : e < 256) (hm : m < 2 ^ 23) :
    compactToBig (UInt32.ofNat (e * 2 ^ 24 + m)) = gridVal m e := by
  have hlt : e * 2 ^ 24 + m < 2 ^ 32 := by omega
  have h1 : (e * 2 ^ 24 + m) / 2 ^ 23 % 2 = 0 := by omega
  have h2 : (e * 2 ^ 24 + m) % 2 ^ 23 = m := by omega
  have h3 : (e * 2 ^ 24 + m) / 2 ^ 24 = e := by omega
  rw [compactToBig_eq, toNat_uint32_ofNat, Nat.mod_eq_of_lt hlt, h1, h2, h3]
  simp

theorem rawMantissa_lt {n : Nat} : rawMantissa n (byteLen n) < 2 ^ 24 := by
  have hn := lt_pow_byteLen n
  have h3 : (2 : Nat) ^ 24 = 256 ^ 3 := rfl
  unfold rawMantissa
  split
  · calc n * 256 ^ (3 - byteLen n) < 256 ^ byteLen n * 256 ^ (3 - byteLen n) :=
          Nat.mul_lt_mul_of_pos_right hn (by positivity)
      _ = 2 ^ 24 := by rw [← pow_add, Nat.add_sub_cancel' ‹_›]; rfl
  · rw [Nat.div_lt_iff_lt_mul (by positivity), h3, ← pow_add, Nat.add_sub_cancel' (by omega)]
    exact hn

theorem mantissa_short {n : Nat} (h : byteLen n ≤ 3) :
    ((n % 2 ^ 32) <<< (8 * (3 - byteLen n))) % 2 ^ 32 = n * 256 ^ (3 - byteLen n) := by
  have hr := @rawMantissa_lt n
  rw [rawMantissa, if_pos h] at hr
  have hn : n < 2 ^ 32 := by
    have := lt_pow_byteLen n
    have : 256 ^ byteLen n ≤ 256 ^ 3 := Nat.pow_le_pow_right (by decide) h
    have : (256 : Nat) ^ 3 = 2 ^ 24 := rfl
    omega
  rw [Nat.mod_eq_of_lt hn, shiftLeft_byte, Nat.mod_eq_of_lt (by omega)]

theorem mantissa_long {n : Nat} (h : ¬ byteLen n ≤ 3) :
    ((n : Int) >>> (8 * (byteLen n - 3))).natAbs % 2 ^ 32 = n / 256 ^ (byteLen n - 3) := by
  have hr := @rawMantissa_lt n
  rw [rawMantissa, if_neg h] at hr
  show (n >>> (8 * (byteLen n - 3))) % 2 ^ 32 = _
  rw [shiftRight_byte, Nat.mod_eq_of_lt (by omega)]

theorem exponent_or {a b : Nat} (hb : b < 2 ^ 24) :
    (a <<< 24) % 2 ^ 32 ||| b = a % 256 * 2 ^ 24 + b := by
  rw [Nat.shiftLeft_eq, show (2 : Nat) ^ 32 = 256 * 2 ^ 24 from rfl, Nat.mul_mod_mul_right,
    Nat.mul_comm, ← Nat.mul_add_lt_is_or hb]

/-- `BigToCompact` of a positive number, as arithmetic on its byte length. -/
theorem bigToCompact_natCast {n : Nat} (hn : 0 < n) :
    bigToCompact n = UInt32.ofNat (compactOf n) := by
  have hlt := @rawMantissa_lt n
  have hmant : (if byteLen n ≤ 3 then ((n % 2 ^ 32) <<< (8 * (3 - byteLen n))) % 2 ^ 32
      else ((n : Int) >>> (8 * (byteLen n - 3))).natAbs % 2 ^ 32) =
      rawMantissa n (byteLen n) := by
    unfold rawMantissa; split
    · exact mantissa_short ‹_›
    · exact mantissa_long ‹_›
  have hn0 : (n : Int) ≠ 0 := by omega
  have hneg : ¬ (n : Int) < 0 := by omega
  unfold bigToCompact
  simp only [hn0, hneg, if_false, Int.natAbs_ofNat, hmant, compactOf, bne_iff_ne, ne_eq,
    ← ne_eq, land_signBit_ne_zero_iff hlt, Nat.shiftRight_eq_div_pow]
  split_ifs <;> rw [exponent_or (by omega)]

end Dsvd

import Mathlib.Tactic.GCongr
import Mathlib.Tactic.NormNum
import Mathlib.Tactic.Ring
import Mathlib.Algebra.Order.AbsoluteValue
import Dsvd.Compact.Codec
import Dsvd.Chain.Networks

/-! # ASERT

`target = anchorTarget * 2^((timeDelta - T * heightDelta) / halfLife)`, computed with a
fixed-point exponent of 16 fractional bits. The integer part of the exponent becomes a
shift, and `2^frac` comes from the cubic approximation of aserti3-2d evaluated in `uint64`.
-/

namespace Dsvd

/-- The anchor walk: parents while the height is above `ASERTHeight`. Walking past the first
header calls `Height()` on a nil `HeaderCtx`. -/
def asertAnchor (asertHeight : Int) : BlockNode → List BlockNode → Except GoError HeaderCtx
  | anchor, [] => if anchor.height > asertHeight then .error .nilDereference else .ok ⟨anchor, []⟩
  | anchor, parent :: rest =>
    if anchor.height > asertHeight then asertAnchor asertHeight parent rest
    else .ok ⟨anchor, parent :: rest⟩

/-- `shifts` (an `int32`) and `frac` (a `uint16`) of the fixed-point exponent, so that `frac`
is non-negative also for a negative exponent. -/
def asertSplit (exponent : Int) : Int × Nat :=
  if exponent ≥ 0 then (wrap32 (exponent >>> (16 : Nat)), (exponent % 65536).toNat)
  else
    let absExponent := wrap64 (-exponent)
    let shifts := wrap32 (-wrap32 (absExponent >>> (16 : Nat)))
    let remainder := (absExponent % 65536).toNat
    if remainder ≠ 0 then (wrap32 (shifts - 1), 65536 - remainder) else (shifts, 0)

/-- `factor = 65536 * 2^(frac/65536)`: the cubic in `uint64` arithmetic (modulo `2^64`),
shifted right by 48 and added to 65536 as a `uint32`. -/
def asertFactor (frac : Nat) : Nat :=
  if frac > 0 then
    let f := frac
    (65536 + (((195766423245049 * f + 971821376 * f * f + 5127 * f * f * f + 2 ^ 47) %
      2 ^ 64) >>> 48) % 2 ^ 32) % 2 ^ 32
  else 65536

/-- The end of ASERT: at least 1, at most `PowLimit`, encoded. -/
def asertFinish (params : Params) (nextTarget : Int) : UInt32 :=
  let nextTarget := if nextTarget = 0 then 1 else nextTarget
  let nextTarget := if nextTarget > params.powLimit then params.powLimit else nextTarget
  bigToCompact nextTarget

/-- The integer shifts applied to `nextTarget`, with the early returns for shifts of 256
bits or more. -/
def asertShift (params : Params) (shifts nextTarget : Int) : UInt32 :=
  if shifts > 0 then
    if shifts ≥ 256 then bigToCompact params.powLimit
    else asertFinish params (nextTarget * 2 ^ shifts.toNat)
  else if shifts < 0 then
    let absShifts := wrap32 (-shifts)
    if absShifts ≥ 256 then bigToCompact 1
    else asertFinish params (nextTarget >>> (absShifts % 18446744073709551616).toNat)
  else asertFinish params nextTarget

/-- `calcNextRequiredDifficultyASERT`. -/
def calcNextRequiredDifficultyASERT (lastNode : HeaderCtx) (c : ChainCtx) :
    Except GoError UInt32 := do
  let params := c.chainParams
  let anchor ← asertAnchor params.asertHeight lastNode.node lastNode.ancestors
  match anchor.parent with
  | none => throw (.assertError "ASERT anchor block has no parent")
  | some anchorParent => do
    let anchorTarget := compactToBig params.asertAnchorBits
    let timeDelta := wrap64 (lastNode.node.timestamp - anchorParent.node.timestamp)
    let heightDelta := lastNode.node.height + 1 - params.asertHeight
    let T := params.secondsPerBlock
    let exponent ← quo64 (wrap64 (wrap64 (timeDelta - wrap64 (T * heightDelta)) * 65536))
      params.asertHalfLife
    let (shifts, frac) := asertSplit exponent
    let nextTarget := (anchorTarget * asertFactor frac) >>> (16 : Nat)
    pure (asertShift params shifts nextTarget)

/-- A successful ASERT step applies `asertShift` to the anchor target times some factor. -/
theorem calcNextRequiredDifficultyASERT_ok {lastNode : HeaderCtx} {c : ChainCtx} {r : UInt32}
    (h : calcNextRequiredDifficultyASERT lastNode c = .ok r) :
    ∃ shifts frac, r = asertShift c.chainParams shifts
      ((compactToBig c.chainParams.asertAnchorBits * asertFactor frac) >>> (16 : Nat)) := by
  unfold calcNextRequiredDifficultyASERT at h
  obtain ⟨anchor, -, h⟩ := bind_eq_ok.mp h
  split at h
  · cases h
  · obtain ⟨x, -, h⟩ := bind_eq_ok.mp h
    exact ⟨_, _, (Except.ok.inj h).symm⟩

/-- A successful ASERT step found an anchor with a parent. -/
theorem calcNextRequiredDifficultyASERT_anchor {lastNode : HeaderCtx} {c : ChainCtx} {r : UInt32}
    (h : calcNextRequiredDifficultyASERT lastNode c = .ok r) :
    ∃ anchor anchorParent,
      asertAnchor c.chainParams.asertHeight lastNode.node lastNode.ancestors = .ok anchor ∧
      anchor.parent = some anchorParent := by
  unfold calcNextRequiredDifficultyASERT at h
  obtain ⟨anchor, hanchor, h⟩ := bind_eq_ok.mp h
  split at h
  · cases h
  · exact ⟨anchor, _, hanchor, ‹_›⟩

/-! ## The fixed-point arithmetic is exact -/

/-- The cubic of aserti3-2d stays below `2^64` on `[0, 65536)`: the `uint64` sum never
wraps. -/
theorem asertPoly_lt {f : Nat} (hf : f < 65536) :
    195766423245049 * f + 971821376 * f * f + 5127 * f * f * f + 2 ^ 47 < 2 ^ 64 := by
  have h : f ≤ 65535 := by omega
  calc 195766423245049 * f + 971821376 * f * f + 5127 * f * f * f + 2 ^ 47
      ≤ 195766423245049 * 65535 + 971821376 * 65535 * 65535 + 5127 * 65535 * 65535 * 65535 +
        2 ^ 47 := by gcongr
    _ < 2 ^ 64 := by norm_num

theorem asertFactor_eq {f : Nat} (hf : f < 65536) :
    asertFactor f =
      65536 + (195766423245049 * f + 971821376 * f * f + 5127 * f * f * f + 2 ^ 47) / 2 ^ 48 := by
  have hp := asertPoly_lt hf
  unfold asertFactor
  split
  · dsimp only
    rw [Nat.mod_eq_of_lt hp, Nat.shiftRight_eq_div_pow]
    generalize 195766423245049 * f + 971821376 * f * f + 5127 * f * f * f + 2 ^ 47 = P at *
    omega
  · obtain rfl : f = 0 := by omega
    rfl

theorem asertFactor_bounds {f : Nat} (hf : f < 65536) :
    65536 ≤ asertFactor f ∧ asertFactor f < 2 ^ 17 := by
  have hp := asertPoly_lt hf
  rw [asertFactor_eq hf]
  generalize 195766423245049 * f + 971821376 * f * f + 5127 * f * f * f + 2 ^ 47 = P at *
  omega

/-- For an exponent below `2^47` in magnitude, `shifts` is the floor of `exponent / 65536`
and `frac` its non-negative remainder. -/
theorem asertSplit_eq {x : Int} (hx : -2 ^ 47 < x ∧ x < 2 ^ 47) :
    asertSplit x = (x / 65536, (x % 65536).toNat) := by
  have h16 : (((2 ^ 16 : Nat) : Int)) = 65536 := rfl
  unfold asertSplit
  simp (disch := omega) only [Int.shiftRight_eq_div_pow, h16, wrap64_of_range, wrap32_of_range]
  split_ifs <;> simp (disch := omega) only [wrap32_of_range, Prod.mk.injEq] <;> omega

theorem asertFinish_eq (params : Params) {v : Int} (hv : 0 ≤ v) :
    asertFinish params v = bigToCompact (min params.powLimit (max 1 v)) := by
  unfold asertFinish
  dsimp only
  congr 1
  simp only [min_def, max_def]
  split_ifs <;> omega

/-- Whatever the shift, the result is a target in `[1, PowLimit]`, when `PowLimit ≥ 1` and the
shifted value is not negative. -/
theorem asertShift_mem (params : Params) (shifts : Int) {t : Int} (ht : 0 ≤ t)
    (hpl : 1 ≤ params.powLimit) :
    ∃ v, asertShift params shifts t = bigToCompact v ∧ 1 ≤ v ∧ v ≤ params.powLimit := by
  have hfin : ∀ v, 0 ≤ v → ∃ w, asertFinish params v = bigToCompact w ∧ 1 ≤ w ∧
      w ≤ params.powLimit := fun v hv =>
    ⟨_, asertFinish_eq params hv, le_min hpl (le_max_left _ _), min_le_left _ _⟩
  unfold asertShift
  dsimp only
  split_ifs
  · exact ⟨_, rfl, hpl, le_rfl⟩
  · exact hfin _ (Int.mul_nonneg ht (by positivity))
  · exact ⟨1, rfl, le_rfl, hpl⟩
  · exact hfin _ (by rw [Int.shiftRight_eq_div_pow]; exact Int.ediv_nonneg ht (by positivity))
  · exact hfin _ ht

theorem shiftRight_eq_ediv (a : Int) (k : Nat) : a >>> k = a / 2 ^ k := by
  rw [Int.shiftRight_eq_div_pow]; push_cast; rfl

/-! ## The integer shifts, clamped -/

/-- `a * 2^s / 2^16` rounded as the code rounds it: `a` is floored by `2^16` before a left
shift, and once, together with a right shift. -/
def asertScale (s a : Int) : Int :=
  if 0 ≤ s then a / 2 ^ 16 * 2 ^ s.toNat else a / 2 ^ (16 - s).toNat

/-- What the integer shifts return for `a >>> 16`: `PowLimit` from 256 shifts up, 1 from
256 right shifts down, and in between the scaled value clamped to `[1, PowLimit]`. -/
def asertClamp (powLimit s a : Int) : Int :=
  if 256 ≤ s then powLimit else if s ≤ -256 then 1 else min powLimit (max 1 (asertScale s a))

/-- The integer shifts for any `a` in `[0, 2^2056)`, which holds every anchor target times
factor. At `s = -2^31` the `int32` negation wraps and the shift is by nearly `2^64`. -/
theorem asertShift_eq_clamp (params : Params) {a s : Int} (ha : 0 ≤ a ∧ a < 2 ^ 2056)
    (hpl : 1 ≤ params.powLimit) (hs : -2 ^ 31 ≤ s) :
    asertShift params s (a >>> (16 : Nat)) = bigToCompact (asertClamp params.powLimit s a) := by
  have hq : ∀ k : Nat, 0 ≤ a / 2 ^ k := fun k => Int.ediv_nonneg ha.1 (by positivity)
  unfold asertShift asertClamp asertScale
  dsimp only
  rcases lt_trichotomy s 0 with hneg | rfl | hpos
  · rw [if_neg (show ¬ s > 0 by omega), if_pos hneg, if_neg (show ¬ 256 ≤ s by omega),
      if_neg (show ¬ 0 ≤ s by omega)]
    by_cases hmin : s = -2 ^ 31
    · subst hmin
      rw [show wrap32 (-(-2 ^ 31)) = -2 ^ 31 by decide, if_neg (by decide), if_pos (by decide),
        ← Int.shiftRight_add, shiftRight_eq_ediv, Int.ediv_eq_zero_of_lt ha.1,
        asertFinish_eq params le_rfl, max_eq_left zero_le_one, min_eq_right hpl]
      exact ha.2.trans_le (pow_le_pow_right₀ (by norm_num) (by decide))
    rw [wrap32_of_range (by omega) (by omega)]
    by_cases h256 : s ≤ -256
    · rw [if_pos (show -s ≥ 256 by omega), if_pos h256]
    · rw [if_neg (show ¬ -s ≥ 256 by omega), if_neg h256, show (-s) % 18446744073709551616 = -s by omega,
        ← Int.shiftRight_add, shiftRight_eq_ediv, asertFinish_eq params (hq _),
        show 16 + (-s).toNat = (16 - s).toNat by omega]
  · rw [if_neg (by decide), if_neg (by decide), if_neg (by decide), if_neg (by decide),
      if_pos le_rfl, Int.toNat_zero, pow_zero, Int.mul_one, shiftRight_eq_ediv,
      asertFinish_eq params (hq _)]
  · rw [if_pos hpos, if_neg (show ¬ s ≤ -256 by omega), if_pos hpos.le]
    by_cases h256 : 256 ≤ s
    · rw [if_pos h256, if_pos h256]
    · rw [if_neg h256, if_neg h256, shiftRight_eq_ediv,
        asertFinish_eq params (Int.mul_nonneg (hq _) (by positivity))]

/-- For an anchor target in `[1, 2^256)` the early returns agree with the clamped scaled
value: 256 shifts overshoot any `PowLimit` below `2^256`, and 256 right shifts leave at most 1. -/
theorem asertShift_eq (params : Params) {a s : Int} (ha : 65536 ≤ a ∧ a < 2 ^ 273)
    (hpl : 1 ≤ params.powLimit ∧ params.powLimit < 2 ^ 256) (hs : -2 ^ 31 ≤ s) :
    asertShift params s (a >>> (16 : Nat)) =
      bigToCompact (min params.powLimit (max 1 (asertScale s a))) := by
  obtain ⟨ha1, ha2⟩ := ha
  rw [asertShift_eq_clamp params ⟨by omega, ha2.trans (by norm_num)⟩ hpl.1 hs, asertClamp]
  split_ifs with h256 hm256
  · have h1 : 1 ≤ a / 2 ^ 16 := (Int.le_ediv_iff_mul_le (by norm_num)).mpr (by omega)
    have : (2 : Int) ^ 256 ≤ asertScale s a := by
      rw [asertScale, if_pos (by omega)]
      calc (2 : Int) ^ 256 = 1 * 2 ^ 256 := (one_mul _).symm
        _ ≤ a / 2 ^ 16 * 2 ^ s.toNat :=
          Int.mul_le_mul h1 (pow_le_pow_right₀ (by norm_num) (by omega)) (by positivity) (by omega)
    rw [min_eq_left (le_max_of_le_right (by omega))]
  · have h273 : (2 : Int) ^ 273 ≤ 2 * 2 ^ (16 - s).toNat := by
      rw [← pow_succ']; exact pow_le_pow_right₀ (by norm_num) (by omega)
    have : a / 2 ^ (16 - s).toNat < 2 := (Int.ediv_lt_iff_lt_mul (by positivity)).mpr (by omega)
    rw [asertScale, if_neg (by omega), max_eq_left (by omega), min_eq_right hpl.1]
  · rfl

/-! ## The clamped value is monotone in the exponent -/

theorem asertFactor_mono {f g : Nat} (hfg : f ≤ g) (hg : g < 65536) :
    asertFactor f ≤ asertFactor g := by
  rw [asertFactor_eq (by omega), asertFactor_eq hg]
  gcongr

theorem asertScale_mono (s : Int) {a b : Int} (hab : a ≤ b) : asertScale s a ≤ asertScale s b := by
  unfold asertScale
  split_ifs
  · exact Int.mul_le_mul_of_nonneg_right (Int.ediv_le_ediv (by positivity) hab) (by positivity)
  · exact Int.ediv_le_ediv (by positivity) hab

/-- A carry into the integer part loses nothing: `2^17` at `s` scales as `2^16` at `s + 1`. -/
theorem asertScale_carry (s A : Int) :
    asertScale s (A * 2 ^ 17) = asertScale (s + 1) (A * 2 ^ 16) := by
  have h17 : A * 2 ^ 17 = A * 2 ^ 16 * 2 := by ring
  have h16 : A * 2 ^ 16 / 2 ^ 16 = A := Int.mul_ediv_cancel _ (by norm_num)
  unfold asertScale
  rcases le_or_lt 0 s with hs | hs
  · rw [if_pos hs, if_pos (by omega), show (s + 1).toNat = s.toNat + 1 by omega, h17,
      Int.mul_right_comm, Int.mul_ediv_cancel _ (by norm_num), h16, pow_succ]
    ring
  · rw [if_neg (by omega), h17]
    split_ifs
    · rw [show (16 - s).toNat = 16 + 1 by omega, show (s + 1).toNat = 0 by omega,
        pow_succ (2 : Int) 16, Int.mul_ediv_mul_of_pos_left _ _ (by norm_num), h16, pow_zero, Int.mul_one]
    · rw [show (16 - s).toNat = (16 - (s + 1)).toNat + 1 by omega, pow_succ (2 : Int) (16 - (s + 1)).toNat,
        Int.mul_ediv_mul_of_pos_left _ _ (by norm_num)]

theorem asertClamp_mem {powLimit : Int} (hpl : 1 ≤ powLimit) (s a : Int) :
    1 ≤ asertClamp powLimit s a ∧ asertClamp powLimit s a ≤ powLimit := by
  unfold asertClamp
  split_ifs
  · exact ⟨hpl, le_rfl⟩
  · exact ⟨le_rfl, hpl⟩
  · exact ⟨le_min hpl (le_max_left _ _), min_le_left _ _⟩

theorem asertClamp_mono (powLimit s : Int) {a b : Int} (hab : a ≤ b) :
    asertClamp powLimit s a ≤ asertClamp powLimit s b := by
  unfold asertClamp
  split_ifs
  · exact le_rfl
  · exact le_rfl
  · exact min_le_min_left _ (max_le_max_left _ (asertScale_mono s hab))

/-- Across a carry the value does not drop: the factor at the top of `s` is at most `2^17`,
twice the factor `2^16` at the bottom of `s + 1`. -/
theorem asertClamp_carry {powLimit A F : Int} (hpl : 1 ≤ powLimit) (hA : 0 ≤ A) (hF : F ≤ 2 ^ 17)
    (s : Int) : asertClamp powLimit s (A * F) ≤ asertClamp powLimit (s + 1) (A * 2 ^ 16) := by
  by_cases hhi : 256 ≤ s + 1
  · exact (asertClamp_mem hpl _ _).2.trans_eq (if_pos hhi).symm
  by_cases hlo : s ≤ -256
  · exact ((if_neg (by omega)).trans (if_pos hlo)).trans_le (asertClamp_mem hpl _ _).1
  unfold asertClamp
  rw [if_neg (by omega), if_neg hlo, if_neg hhi, if_neg (by omega)]
  exact min_le_min_left _ (max_le_max_left _
    ((asertScale_mono s (Int.mul_le_mul_of_nonneg_left hF hA)).trans_eq (asertScale_carry s A)))

theorem asertClamp_le_succ {powLimit A : Int} (hpl : 1 ≤ powLimit) (hA : 0 ≤ A) (x : Int) :
    asertClamp powLimit (x / 65536) (A * asertFactor (x % 65536).toNat) ≤
      asertClamp powLimit ((x + 1) / 65536) (A * asertFactor ((x + 1) % 65536).toNat) := by
  by_cases hc : x % 65536 = 65535
  · have hF := (asertFactor_bounds (show (x % 65536).toNat < 65536 by omega)).2
    rw [show (x + 1) / 65536 = x / 65536 + 1 by omega, show ((x + 1) % 65536).toNat = 0 by omega]
    exact asertClamp_carry hpl hA (by exact_mod_cast hF.le) _
  · rw [show (x + 1) / 65536 = x / 65536 by omega,
      show ((x + 1) % 65536).toNat = (x % 65536).toNat + 1 by omega]
    exact asertClamp_mono _ _ (Int.mul_le_mul_of_nonneg_left
      (by exact_mod_cast asertFactor_mono (Nat.le_succ _) (by omega)) hA)

/-- The value ASERT returns is monotone in the fixed-point exponent. -/
theorem asertClamp_exponent_mono {powLimit A : Int} (hpl : 1 ≤ powLimit) (hA : 0 ≤ A) {x y : Int}
    (hxy : x ≤ y) :
    asertClamp powLimit (x / 65536) (A * asertFactor (x % 65536).toNat) ≤
      asertClamp powLimit (y / 65536) (A * asertFactor (y % 65536).toNat) :=
  (monotone_int_of_le_succ (asertClamp_le_succ hpl hA) : Monotone fun x : Int =>
    asertClamp powLimit (x / 65536) (A * asertFactor (x % 65536).toNat)) hxy

/-! ## ASERT as a formula -/

/-- `timeDelta - T * heightDelta` in exact arithmetic: how far the chain is behind its
schedule since the anchor's parent, in seconds. -/
def scheduleDeviation (lastNode anchorParent : HeaderCtx) (params : Params) : Int :=
  (lastNode.node.timestamp - anchorParent.node.timestamp) -
    params.secondsPerBlock * (lastNode.node.height + 1 - params.asertHeight)

/-- The fixed-point exponent `deviation * 65536 / halfLife`, truncated toward zero. -/
def asertExponent (lastNode anchorParent : HeaderCtx) (params : Params) : Int :=
  (scheduleDeviation lastNode anchorParent params * 65536).tdiv params.asertHalfLife

/-- The `int64` exponent of a step from `lastNode` does not overflow and stays below `2^47`
in magnitude, for the anchor the walk finds. -/
def AsertExponentFits (lastNode : HeaderCtx) (params : Params) : Prop :=
  ∀ anchor anchorParent,
    asertAnchor params.asertHeight lastNode.node lastNode.ancestors = .ok anchor →
    anchor.parent = some anchorParent →
    |scheduleDeviation lastNode anchorParent params| * 65536 < 2 ^ 63 ∧
      |asertExponent lastNode anchorParent params| < 2 ^ 47

/-- The ASERT target in exact arithmetic, as the specification states it: the anchor target
times `2^(exponent / 65536)`, with `2^frac` taken from the cubic, floored, and clamped to
`[1, PowLimit]`. -/
def asertTarget (anchorTarget powLimit exponent : Int) : Int :=
  let s := exponent / 65536
  let f := (exponent % 65536).toNat
  let factor : Int :=
    ((65536 + (195766423245049 * f + 971821376 * f ^ 2 + 5127 * f ^ 3 + 2 ^ 47) / 2 ^ 48 : Nat) : Int)
  let R := if 0 ≤ s then anchorTarget * factor / 2 ^ 16 * 2 ^ s.toNat
    else anchorTarget * factor / 2 ^ (16 - s).toNat
  min powLimit (max 1 R)

theorem asertTarget_eq (anchorTarget powLimit exponent : Int) :
    asertTarget anchorTarget powLimit exponent = min powLimit (max 1 (asertScale (exponent / 65536)
      (anchorTarget * asertFactor (exponent % 65536).toNat))) := by
  rw [asertFactor_eq (by omega)]
  simp only [asertTarget, asertScale, sq, pow_three', Nat.mul_assoc]

/-- With an exponent that fits, ASERT shifts the anchor target times the factor of the
exponent's fractional part by the floor of `exponent / 65536`. -/
theorem calcNextRequiredDifficultyASERT_eq_asertShift {lastNode anchor anchorParent : HeaderCtx}
    {c : ChainCtx}
    (hanchor : asertAnchor c.chainParams.asertHeight lastNode.node lastNode.ancestors = .ok anchor)
    (hparent : anchor.parent = some anchorParent)
    (hhl : 1 ≤ c.chainParams.asertHalfLife)
    (hdev : |scheduleDeviation lastNode anchorParent c.chainParams| * 65536 < 2 ^ 63)
    (hx : |asertExponent lastNode anchorParent c.chainParams| < 2 ^ 47) :
    calcNextRequiredDifficultyASERT lastNode c = .ok (asertShift c.chainParams
      (asertExponent lastNode anchorParent c.chainParams / 65536)
      ((compactToBig c.chainParams.asertAnchorBits *
        asertFactor (asertExponent lastNode anchorParent c.chainParams % 65536).toNat) >>>
          (16 : Nat))) := by
  have hd := le_abs_self (scheduleDeviation lastNode anchorParent c.chainParams)
  have hd' := neg_abs_le (scheduleDeviation lastNode anchorParent c.chainParams)
  have hx' := abs_lt.mp hx
  have hexp : wrap64 (wrap64 (wrap64 (lastNode.node.timestamp - anchorParent.node.timestamp) -
      wrap64 (c.chainParams.secondsPerBlock * (lastNode.node.height + 1 - c.chainParams.asertHeight))) *
      65536) = scheduleDeviation lastNode anchorParent c.chainParams * 65536 := by
    unfold scheduleDeviation at *
    generalize c.chainParams.secondsPerBlock * (lastNode.node.height + 1 - c.chainParams.asertHeight) = v at *
    unfold wrap64; omega
  unfold calcNextRequiredDifficultyASERT
  simp only [hanchor, hparent, ok_bind, hexp, quo64_ok (show c.chainParams.asertHalfLife ≠ 0 by omega)]
  rw [← asertExponent, wrap64_of_range (by omega) (by omega), asertSplit_eq hx', pure_eq_ok]

/-- With an exponent that fits, ASERT returns the clamped value at its exponent; every
anchor target a compact word holds is below `2^2039`. -/
theorem calcNextRequiredDifficultyASERT_eq_clamp {lastNode anchor anchorParent : HeaderCtx}
    {c : ChainCtx}
    (hanchor : asertAnchor c.chainParams.asertHeight lastNode.node lastNode.ancestors = .ok anchor)
    (hparent : anchor.parent = some anchorParent)
    (hA : 0 ≤ compactToBig c.chainParams.asertAnchorBits) (hpl : 1 ≤ c.chainParams.powLimit)
    (hhl : 1 ≤ c.chainParams.asertHalfLife)
    (hdev : |scheduleDeviation lastNode anchorParent c.chainParams| * 65536 < 2 ^ 63)
    (hx : |asertExponent lastNode anchorParent c.chainParams| < 2 ^ 47) :
    calcNextRequiredDifficultyASERT lastNode c = .ok (bigToCompact (asertClamp c.chainParams.powLimit
      (asertExponent lastNode anchorParent c.chainParams / 65536)
      (compactToBig c.chainParams.asertAnchorBits *
        asertFactor (asertExponent lastNode anchorParent c.chainParams % 65536).toNat))) := by
  have hx' := abs_lt.mp hx
  have hA' := compactToBig_lt c.chainParams.asertAnchorBits
  rw [calcNextRequiredDifficultyASERT_eq_asertShift hanchor hparent hhl hdev hx]
  generalize asertExponent lastNode anchorParent c.chainParams = x at *
  generalize compactToBig c.chainParams.asertAnchorBits = A at *
  have hF : (asertFactor (x % 65536).toNat : Int) < 2 ^ 17 := by
    exact_mod_cast (asertFactor_bounds (show (x % 65536).toNat < 65536 by omega)).2
  rw [asertShift_eq_clamp _ ⟨Int.mul_nonneg hA (by omega), ?_⟩ hpl (by omega)]
  calc A * asertFactor (x % 65536).toNat < 2 ^ 2039 * 2 ^ 17 :=
        mul_lt_mul'' hA' hF hA (by omega)
    _ = 2 ^ 2056 := by norm_num

/-- ASERT's fixed-point code computes the exact formula, given that the `int64` exponent does
not overflow. -/
theorem calcNextRequiredDifficultyASERT_eq_asertTarget {lastNode anchor anchorParent : HeaderCtx}
    {c : ChainCtx}
    (hanchor : asertAnchor c.chainParams.asertHeight lastNode.node lastNode.ancestors = .ok anchor)
    (hparent : anchor.parent = some anchorParent)
    (hA : 1 ≤ compactToBig c.chainParams.asertAnchorBits ∧
      compactToBig c.chainParams.asertAnchorBits < 2 ^ 256)
    (hpl : 1 ≤ c.chainParams.powLimit ∧ c.chainParams.powLimit < 2 ^ 256)
    (hhl : 1 ≤ c.chainParams.asertHalfLife)
    (hdev : |scheduleDeviation lastNode anchorParent c.chainParams| * 65536 < 2 ^ 63)
    (hx : |(scheduleDeviation lastNode anchorParent c.chainParams * 65536).tdiv
      c.chainParams.asertHalfLife| < 2 ^ 47) :
    calcNextRequiredDifficultyASERT lastNode c =
      .ok (bigToCompact (asertTarget (compactToBig c.chainParams.asertAnchorBits)
        c.chainParams.powLimit ((scheduleDeviation lastNode anchorParent c.chainParams * 65536).tdiv
          c.chainParams.asertHalfLife))) := by
  have hx' : -2 ^ 47 < asertExponent lastNode anchorParent c.chainParams ∧
      asertExponent lastNode anchorParent c.chainParams < 2 ^ 47 := abs_lt.mp hx
  rw [calcNextRequiredDifficultyASERT_eq_asertShift hanchor hparent hhl hdev hx, ← asertExponent,
    asertTarget_eq]
  generalize asertExponent lastNode anchorParent c.chainParams = x at *
  generalize compactToBig c.chainParams.asertAnchorBits = A at *
  have hF := asertFactor_bounds (show (x % 65536).toNat < 65536 by omega)
  have hF1 : (65536 : Int) ≤ asertFactor (x % 65536).toNat := by exact_mod_cast hF.1
  have hF2 : (asertFactor (x % 65536).toNat : Int) < 2 ^ 17 := by exact_mod_cast hF.2
  rw [asertShift_eq c.chainParams ⟨?_, ?_⟩ hpl (by omega)]
  · calc (65536 : Int) = 1 * 65536 := by norm_num
      _ ≤ _ := Int.mul_le_mul hA.1 hF1 (by norm_num) (by omega)
  · calc A * asertFactor (x % 65536).toNat < 2 ^ 256 * 2 ^ 17 :=
          mul_lt_mul'' hA.2 hF2 (by omega) (by omega)
      _ = 2 ^ 273 := by norm_num

/-- Mainnet, one block after the anchor, one half-life behind schedule. -/
def asertAnchorParentNode : BlockNode := { height := 1245999, timestamp := 1700000000, bits := 0x1d18ffe7 }
/-- The ASERT anchor of the scenario. -/
def asertAnchorNode : BlockNode := { height := 1246000, timestamp := 1700000150, bits := 0x1d18ffe7 }
/-- The tip of the scenario, `3600 + 2 * 150` seconds after the anchor's parent. -/
def asertTipNode : BlockNode := { height := 1246001, timestamp := 1700003900, bits := 0x1d18ffe7 }

theorem calcNextRequiredDifficultyASERT_eq_asertTarget_halfLife :
    calcNextRequiredDifficultyASERT ⟨asertTipNode, [asertAnchorNode, asertAnchorParentNode]⟩
        mainNetCtx =
      .ok (bigToCompact (asertTarget (compactToBig 0x1d18ffe7) mainPowLimit
        ((scheduleDeviation ⟨asertTipNode, [asertAnchorNode, asertAnchorParentNode]⟩
          ⟨asertAnchorParentNode, []⟩ mainNetParams * 65536).tdiv 3600))) :=
  @calcNextRequiredDifficultyASERT_eq_asertTarget _ ⟨asertAnchorNode, [asertAnchorParentNode]⟩ _ _
    rfl rfl
    (by rw [show compactToBig mainNetCtx.chainParams.asertAnchorBits = 0x18ffe7 * 256 ^ 26 from rfl]
        norm_num)
    (by norm_num [mainNetCtx, mainNetParams, mainPowLimit]) (by decide) (by decide) (by decide)

/-- One half-life behind schedule doubles the anchor target `0x18ffe7 * 256^26`. -/
example : calcNextRequiredDifficultyASERT ⟨asertTipNode, [asertAnchorNode, asertAnchorParentNode]⟩
    mainNetCtx = .ok 0x1d31ffce := rfl

end Dsvd

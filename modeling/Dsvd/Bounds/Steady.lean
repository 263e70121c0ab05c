import Dsvd.Safety.NoError

/-! # The LWMA steady state

When every solvetime the loop samples is `T`, the weighted solvetimes equal their expected
value `T * sumWeights`, the caps leave them alone, and both LWMA versions return their
reference target capped at `PowLimit`: the target of the previous block for LWMA, and the
target of the window start for LWMAv2. A reference written by `BigToCompact` for a target at
most `PowLimit` then comes back bit for bit. This needs a parent, or the sums are zero and the
division panics, and `int64` sums that do not wrap.
-/

namespace Dsvd

/-- Every `int64` timestamp difference the solvetime loop samples, from weight `i` down to 1,
is `T`. -/
def SteadySolvetimes (T : Int) : Int → BlockNode → List BlockNode → Prop
  | _, _, [] => True
  | i, block, prev :: rest =>
    i ≥ 1 → wrap64 (block.timestamp - prev.timestamp) = T ∧ SteadySolvetimes T (i - 1) prev rest

instance decidableSteadySolvetimes :
    (T i : Int) → (block : BlockNode) → (prevs : List BlockNode) →
      Decidable (SteadySolvetimes T i block prevs)
  | _, _, _, [] => isTrue trivial
  | T, i, _, prev :: rest =>
    have := decidableSteadySolvetimes T (i - 1) prev rest
    inferInstanceAs (Decidable (i ≥ 1 → _ ∧ _))

theorem clampSolvetime_self {T : Int} (hT : 1 ≤ T) : clampSolvetime T T = T := by
  rw [clampSolvetime_eq]; omega

/-- At the steady state the weighted solvetimes are `T` times the weights. -/
theorem lwmaWeightedSolvetimes_steady {T : Int} (hT : 1 ≤ T) {i : Int} {block : BlockNode}
    {prevs : List BlockNode} (hs : SteadySolvetimes T i block prevs) :
    lwmaWeightedSolvetimes T i block prevs = T * lwmaSumWeights i prevs := by
  induction prevs generalizing i block with
  | nil => simp [lwmaWeightedSolvetimes, lwmaSumWeights]
  | cons prev rest ih =>
    unfold lwmaWeightedSolvetimes lwmaSumWeights
    split_ifs with hi
    · obtain ⟨hd, hrest⟩ := hs hi
      rw [hd, clampSolvetime_self hT, ih hrest]
      ring
    · simp

/-- Weighted solvetimes equal to their expected value pass both caps and leave the reference
target as it is. -/
theorem lwmaTarget_self {referenceTarget expected capFactor : Int} (hE : 0 < expected)
    (hk : 1 ≤ capFactor) : lwmaTarget referenceTarget expected expected capFactor = referenceTarget := by
  rw [lwmaTarget, max_eq_right (Int.ediv_le_self _ hE.le),
    min_eq_right (le_mul_of_one_le_right hE.le hk), Int.mul_ediv_cancel _ hE.ne']

/-- The common tail at the steady state returns the reference target capped at `PowLimit`. -/
theorem lwmaNextTarget_steady {params : Params} {blocks referenceTarget capFactor : Int}
    (hT : 1 ≤ params.secondsPerBlock) (hover : LwmaNoOverflow params) (hk : 1 ≤ capFactor)
    (hk10 : capFactor ≤ 10) (hb : 1 ≤ blocks) (hbN : blocks ≤ params.lwmaWindow)
    {node prev : BlockNode} {rest : List BlockNode}
    (hs : SteadySolvetimes params.secondsPerBlock blocks node (prev :: rest)) :
    lwmaNextTarget ⟨node, prev :: rest⟩ params blocks referenceTarget capFactor =
      .ok (bigToCompact (min params.powLimit referenceTarget)) := by
  have hS := lwmaSumWeights_pos hb prev rest
  rw [lwmaNextTarget_eq_of_window hT hover hk hk10 hb hbN, lwmaWeightedSolvetimes_steady hT hs,
    Int.mul_comm, lwmaTarget_self (Int.mul_pos (by omega) (by omega)) hk]

/-- Capping a word's target at a `PowLimit` it does not exceed, and encoding again, gives the
word back when `BigToCompact` wrote it for some `0 ≤ x < 2^256`. -/
theorem bigToCompact_min_compactToBig {powLimit : Int} {bits : UInt32}
    (himage : ∃ x, 0 ≤ x ∧ x < 2 ^ 256 ∧ bits = bigToCompact x)
    (hle : compactToBig bits ≤ powLimit) :
    bigToCompact (min powLimit (compactToBig bits)) = bits := by
  obtain ⟨x, hx0, hx1, rfl⟩ := himage
  rw [min_eq_right hle, bigToCompact_roundTrip hx0 hx1]

/-- **The LWMA steady state.** Below a header with a parent, with `blocks ≥ 3`, `T ≥ 1`,
`int64` sums that cannot wrap and every sampled solvetime equal to `T`, LWMAv2 returns the
window start's target capped at `PowLimit` and LWMA the previous block's; each returns the
reference bits themselves when `BigToCompact` wrote them for a target in `[0, 2^256)` at most
`PowLimit`. -/
theorem calcNextRequiredDifficultyLWMA_steady {c : ChainCtx} {lastNode : HeaderCtx}
    (hparent : lastNode.ancestors ≠ []) (hblocks : 3 ≤ lwmaBlocks lastNode c.chainParams)
    (hT : 1 ≤ c.chainParams.secondsPerBlock) (hover : LwmaNoOverflow c.chainParams)
    (hsteady : SteadySolvetimes c.chainParams.secondsPerBlock (lwmaBlocks lastNode c.chainParams)
      lastNode.node lastNode.ancestors) :
    (calcNextRequiredDifficultyLWMAv2 lastNode c = .ok (bigToCompact (min c.chainParams.powLimit
        (compactToBig (windowStart (lwmaBlocks lastNode c.chainParams).toNat lastNode.node
          lastNode.ancestors).bits))) ∧
      ((∃ x, 0 ≤ x ∧ x < 2 ^ 256 ∧ (windowStart (lwmaBlocks lastNode c.chainParams).toNat
          lastNode.node lastNode.ancestors).bits = bigToCompact x) →
        compactToBig (windowStart (lwmaBlocks lastNode c.chainParams).toNat lastNode.node
          lastNode.ancestors).bits ≤ c.chainParams.powLimit →
        calcNextRequiredDifficultyLWMAv2 lastNode c = .ok (windowStart
          (lwmaBlocks lastNode c.chainParams).toNat lastNode.node lastNode.ancestors).bits)) ∧
    (calcNextRequiredDifficultyLWMA lastNode c =
        .ok (bigToCompact (min c.chainParams.powLimit (compactToBig lastNode.node.bits))) ∧
      ((∃ x, 0 ≤ x ∧ x < 2 ^ 256 ∧ lastNode.node.bits = bigToCompact x) →
        compactToBig lastNode.node.bits ≤ c.chainParams.powLimit →
        calcNextRequiredDifficultyLWMA lastNode c = .ok lastNode.node.bits)) := by
  obtain ⟨node, _ | ⟨prev, rest⟩⟩ := lastNode
  · exact absurd rfl hparent
  have hsteady' : ∀ referenceTarget capFactor, 1 ≤ capFactor → capFactor ≤ 10 →
      lwmaNextTarget ⟨node, prev :: rest⟩ c.chainParams (lwmaBlocks ⟨node, prev :: rest⟩
        c.chainParams) referenceTarget capFactor =
        .ok (bigToCompact (min c.chainParams.powLimit referenceTarget)) :=
    fun _ _ hk hk10 => lwmaNextTarget_steady hT hover hk hk10 (by omega) (lwmaBlocks_le _ _) hsteady
  refine ⟨⟨?_, fun hx hle => ?_⟩, ?_, fun hx hle => ?_⟩ <;>
    simp only [calcNextRequiredDifficultyLWMAv2, calcNextRequiredDifficultyLWMA,
      if_neg (show ¬ lwmaBlocks ⟨node, prev :: rest⟩ c.chainParams < 3 by omega),
      hsteady' _ 3 (by norm_num) (by norm_num), hsteady' _ 10 (by norm_num) (by norm_num)]
  all_goals exact congrArg _ (bigToCompact_min_compactToBig hx hle)

/-- Four headers 150 s apart with bits `0x1d00ffff`: both versions keep the bits. -/
theorem calcNextRequiredDifficultyLWMA_steady_lwmaTip :
    (lwmaTip.ancestors ≠ [] ∧ 3 ≤ lwmaBlocks lwmaTip (smallLwmaParams mainPowLimit) ∧
      1 ≤ (smallLwmaParams mainPowLimit).secondsPerBlock ∧
      LwmaNoOverflow (smallLwmaParams mainPowLimit) ∧
      SteadySolvetimes 150 3 lwmaTip.node lwmaTip.ancestors) ∧
    calcNextRequiredDifficultyLWMAv2 lwmaTip (smallLwmaCtx mainPowLimit) = .ok 0x1d00ffff ∧
    calcNextRequiredDifficultyLWMA lwmaTip (smallLwmaCtx mainPowLimit) = .ok 0x1d00ffff :=
  have h := @calcNextRequiredDifficultyLWMA_steady (smallLwmaCtx mainPowLimit) lwmaTip
    (List.cons_ne_nil _ _) (by decide) (by decide) (by unfold LwmaNoOverflow; decide) (by decide)
  ⟨⟨List.cons_ne_nil _ _, by decide, by decide, by unfold LwmaNoOverflow; decide, by decide⟩,
    h.1.2 ⟨0xffff * 256 ^ 26, by norm_num, by norm_num, by decide⟩ (by decide),
    h.2.2 ⟨0xffff * 256 ^ 26, by norm_num, by norm_num, by decide⟩ (by decide)⟩

/-- `smallParams` with LWMAv2 from height 1 and `LWMAHeight = -2`: LWMAv2 runs at the first
header with a full window of three. -/
def earlyLwmaCtx : ChainCtx :=
  ⟨{ powLimit := mainPowLimit
     powLimitBits := 0x1e0ffff0
     targetTimespan := 600 * second
     targetTimePerBlock := 150 * second
     retargetAdjustmentFactor := 4
     lwmaHeight := -2
     lwmaFixHeight := 1
     lwmaWindow := 3 }, 4, 150, 2400, by decide⟩

/-- Two headers `T = 2^33 + 1` seconds apart, at heights `2^31 - 3` and `2^31 - 2`. -/
def highSteadyTip : HeaderCtx :=
  ⟨{ height := 2147483646, timestamp := 8589934593, bits := 0x1d00ffff },
    [{ height := 2147483645, timestamp := 0, bits := 0x1d00ffff }]⟩

/-- Modelled from the spec: the `ChainCtx` of `wideLwmaParams`. -/
def wideLwmaCtx : ChainCtx := ⟨wideLwmaParams, 0, 0, 0, by decide⟩

/-- Four headers 150 s apart. The last carries `0x05800000`, which `BigToCompact` writes for
`-(2^32 - 1)`, and the first `0x00010000`, which it writes for `256^255`; both decode to zero. -/
def zeroBitsTip : HeaderCtx :=
  ⟨{ height := 3, timestamp := 450, bits := 0x05800000 },
    [{ height := 2, timestamp := 300, bits := 0x1d00ffff },
      { height := 1, timestamp := 150, bits := 0x1d00ffff },
      { height := 0, timestamp := 0, bits := 0x00010000 }]⟩

/-- The steady state fails without a parent: at a first header with `LWMAHeight = -2` the sums
are zero and the division panics. It fails when the sums wrap: with `T = 2^33 + 1` and
`blocks = 2^31 - 2`, `sumWeights * T` wraps negative, and LWMAv2 triples and LWMA multiplies by
ten a target that should stay. And it fails for a word `BigToCompact` wrote for a value
outside `[0, 2^256)`: `0x00010000` and `0x05800000` decode to zero, and a steady window with
either as its reference returns zero. -/
theorem calcNextRequiredDifficultyLWMA_steady_breaks :
    (3 ≤ lwmaBlocks ⟨firstNode0, []⟩ earlyLwmaCtx.chainParams ∧
      1 ≤ earlyLwmaCtx.chainParams.secondsPerBlock ∧ LwmaNoOverflow earlyLwmaCtx.chainParams ∧
      SteadySolvetimes 150 3 firstNode0 [] ∧
      calcNextRequiredDifficultyLWMAv2 ⟨firstNode0, []⟩ earlyLwmaCtx = .error .divideByZero ∧
      calcNextRequiredDifficultyLWMA ⟨firstNode0, []⟩ earlyLwmaCtx = .error .divideByZero) ∧
    (3 ≤ lwmaBlocks highSteadyTip wideLwmaParams ∧ 1 ≤ wideLwmaParams.secondsPerBlock ∧
      SteadySolvetimes 8589934593 2147483646 highSteadyTip.node highSteadyTip.ancestors ∧
      calcNextRequiredDifficultyLWMAv2 highSteadyTip wideLwmaCtx = .ok 0x1d02fffd ∧
      calcNextRequiredDifficultyLWMA highSteadyTip wideLwmaCtx = .ok 0x1d09fff6 ∧
      bigToCompact (min mainPowLimit (compactToBig 0x1d00ffff)) = 0x1d00ffff) ∧
    (3 ≤ lwmaBlocks zeroBitsTip (smallLwmaParams mainPowLimit) ∧
      LwmaNoOverflow (smallLwmaParams mainPowLimit) ∧
      SteadySolvetimes 150 3 zeroBitsTip.node zeroBitsTip.ancestors ∧
      bigToCompact (256 ^ 255) = 0x00010000 ∧ compactToBig 0x00010000 = 0 ∧
      calcNextRequiredDifficultyLWMAv2 zeroBitsTip (smallLwmaCtx mainPowLimit) = .ok 0 ∧
      bigToCompact (-0xffffffff) = 0x05800000 ∧ compactToBig 0x05800000 = 0 ∧
      calcNextRequiredDifficultyLWMA zeroBitsTip (smallLwmaCtx mainPowLimit) = .ok 0) :=
  ⟨⟨by decide, by decide, by unfold LwmaNoOverflow; decide, trivial, rfl, rfl⟩,
    ⟨by decide, by decide, by decide, rfl, rfl, by decide⟩,
    ⟨by decide, by unfold LwmaNoOverflow; decide, by decide,
      by set_option maxRecDepth 2000 in decide, by decide, rfl, by decide, by decide, rfl⟩⟩

end Dsvd

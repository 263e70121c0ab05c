import Dsvd.Compact.Rounding
import Dsvd.Retarget.Dispatch

/-! # How far one retarget step moves the target

At a legacy retarget boundary the old target is scaled by the clamped timespan over
`TargetTimespan`, so the decoded result lies between the rounded minimal and the maximal
scaling, both capped at `PowLimit`. LWMA clamps every solvetime to `[1, 6T]` before
weighting, so its weighted sum never exceeds six times its expected value: v1 eases by at most
6 (its cap of 10 is never reached) and LWMAv2 by at most its cap of 3. Both bounds need a
`PowLimit` in `[0, 2^256)`, where compact rounding is monotone and rounds down.
-/

namespace Dsvd

variable {c : ChainCtx} {lastNode : HeaderCtx} {newBlockTime : Int} {r : UInt32}

theorem roundTrip_le_min {v bound limit : Int} (h0 : 0 ≤ v) (hv : v ≤ bound)
    (hl : limit < 2 ^ 256) (hvl : 0 ≤ limit) :
    compactToBig (bigToCompact (min limit v)) ≤ min limit bound :=
  (roundTrip_le (le_min hvl h0) ((min_le_left _ _).trans_lt hl)).trans (min_le_min_left _ hv)

/-! ## The legacy retarget -/

/-- **Legacy retarget bound.** At a legacy retarget boundary, with `0 ≤ PowLimit < 2^256`
and `0 ≤ MinRetargetTimespan ≤ MaxRetargetTimespan`, the result decodes to at least the
rounded minimal scaling of the old target and at most its maximal scaling, both capped at
`PowLimit`. -/
theorem calcNextRequiredDifficulty_legacy_bounded
    (hret : c.chainParams.poWNoRetargeting = false)
    (hlegacy : selectAlgorithm c.chainParams (wrap32 (lastNode.node.height + 1)) = .legacy)
    (hboundary : (wrap32 (lastNode.node.height + 1)).tmod c.blocksPerRetarget = 0)
    (hold : 0 ≤ compactToBig lastNode.node.bits)
    (htt : 1 ≤ seconds c.chainParams.targetTimespan)
    (hmin : 0 ≤ c.minRetargetTimespan) (hminmax : c.minRetargetTimespan ≤ c.maxRetargetTimespan)
    (hpl : 0 ≤ c.chainParams.powLimit ∧ c.chainParams.powLimit < 2 ^ 256)
    (h : calcNextRequiredDifficulty (some lastNode) newBlockTime c = .ok r) :
    compactToBig (bigToCompact (min c.chainParams.powLimit
        (compactToBig lastNode.node.bits * c.minRetargetTimespan /
          seconds c.chainParams.targetTimespan))) ≤ compactToBig r ∧
      compactToBig r ≤ min c.chainParams.powLimit
        (compactToBig lastNode.node.bits * c.maxRetargetTimespan /
          seconds c.chainParams.targetTimespan) := by
  rw [calcNextRequiredDifficulty_some, if_neg (by simp [hret]), hlegacy] at h
  obtain ⟨-, ⟨hoff, -⟩ | ⟨-, firstNode, -, -, rfl⟩⟩ := calcNextRequiredDifficultyLegacy_ok h
  · exact absurd hboundary hoff
  rw [legacyTarget_eq]
  obtain ⟨hlo, hhi⟩ := clampTimespan_mem c hminmax
    (wrap64 (lastNode.node.timestamp - firstNode.node.timestamp))
  generalize clampTimespan c _ = adjusted at hlo hhi
  have hscale : ∀ {a b : Int}, a ≤ b → compactToBig lastNode.node.bits * a /
      seconds c.chainParams.targetTimespan ≤
      compactToBig lastNode.node.bits * b / seconds c.chainParams.targetTimespan :=
    fun hab => Int.ediv_le_ediv (by omega) (Int.mul_le_mul_of_nonneg_left hab hold)
  have hlow : 0 ≤ compactToBig lastNode.node.bits * c.minRetargetTimespan /
      seconds c.chainParams.targetTimespan :=
    Int.ediv_nonneg (Int.mul_nonneg hold hmin) (by omega)
  exact ⟨roundTrip_mono (le_min hpl.1 hlow) (min_le_min_left _ (hscale hlo))
      ((min_le_left _ _).trans_lt hpl.2),
    roundTrip_le_min (hlow.trans (hscale hlo)) (hscale hhi) hpl.2 hpl.1⟩

/-- A small network: a retarget every four blocks of 150 s, adjustments by at most 4, and no
LWMA or ASERT activation. `PowLimit` is left open. -/
def smallParams (powLimit : Int) : Params :=
  { powLimit := powLimit
    powLimitBits := 0x1e0ffff0
    targetTimespan := 600 * second
    targetTimePerBlock := 150 * second
    retargetAdjustmentFactor := 4 }

/-- Modelled from the spec: the `ChainCtx` of `smallParams`. -/
def smallCtx (powLimit : Int) : ChainCtx := ⟨smallParams powLimit, 4, 150, 2400, by decide⟩

/-- A first header at height 0 with bits `0x1d00ffff`. -/
def firstNode0 : BlockNode := { height := 0, timestamp := 0, bits := 0x1d00ffff }

/-- Four headers at the first retarget of `smallCtx`: the last one 750 s late. -/
def firstRetargetTip : HeaderCtx :=
  ⟨{ height := 3, timestamp := 1200, bits := 0x1d00ffff },
    [{ height := 2, timestamp := 300, bits := 0x1d00ffff },
      { height := 1, timestamp := 150, bits := 0x1d00ffff }, firstNode0]⟩

/-- The first retarget doubles the target: `0x1d01fffe` lies between the two bounds. -/
theorem calcNextRequiredDifficulty_legacy_bounded_firstRetarget :
    compactToBig (bigToCompact (min mainPowLimit (compactToBig 0x1d00ffff * 150 / 600))) ≤
        compactToBig 0x1d01fffe ∧
      compactToBig 0x1d01fffe ≤ min mainPowLimit (compactToBig 0x1d00ffff * 2400 / 600) :=
  @calcNextRequiredDifficulty_legacy_bounded (smallCtx mainPowLimit) firstRetargetTip 1350 0x1d01fffe
    rfl rfl (by decide) (by decide) (by decide) (by decide) (by decide)
    ⟨by decide, by norm_num [smallCtx, smallParams, mainPowLimit]⟩ rfl

/-- With a negative `PowLimit` the capped target `PowLimit = -(2^23 + 1)` is encoded with its
magnitude rounded down, and decodes above `PowLimit`. -/
theorem calcNextRequiredDifficulty_legacy_negative_powLimit :
    (smallCtx (-8388609)).chainParams.poWNoRetargeting = false ∧
      selectAlgorithm (smallCtx (-8388609)).chainParams 4 = .legacy ∧
      (4 : Int).tmod (smallCtx (-8388609)).blocksPerRetarget = 0 ∧
      0 ≤ compactToBig firstRetargetTip.node.bits ∧
      seconds (smallCtx (-8388609)).chainParams.targetTimespan = 600 ∧
      (smallCtx (-8388609)).minRetargetTimespan ≤ (smallCtx (-8388609)).maxRetargetTimespan ∧
      calcNextRequiredDifficulty (some firstRetargetTip) 1350 (smallCtx (-8388609)) =
        .ok 0x04808000 ∧
      compactToBig 0x04808000 = -8388608 ∧
      ¬ compactToBig 0x04808000 ≤
        min (-8388609) (compactToBig firstRetargetTip.node.bits * 2400 / 600) := by
  refine ⟨rfl, rfl, rfl, by decide, rfl, by decide, rfl, rfl, by decide⟩

/-! ## LWMA -/

/-- The expected weighted solvetime `E = T * sumWeights` of the LWMA loop at `lastNode`. -/
def lwmaExpected (lastNode : HeaderCtx) (params : Params) : Int :=
  params.secondsPerBlock * lwmaSumWeights (lwmaBlocks lastNode params) lastNode.ancestors

/-- The common tail of LWMA and LWMAv2 with a cap factor `k ≤ 10`: at most
`min 6 k` times the reference, and at least the rounded lower cap. -/
theorem lwmaNextTarget_bounded {referenceTarget capFactor : Int}
    (hT : 1 ≤ c.chainParams.secondsPerBlock) (hk : 1 ≤ capFactor) (hk10 : capFactor ≤ 10)
    (href : 0 ≤ referenceTarget)
    (hpl : 0 ≤ c.chainParams.powLimit ∧ c.chainParams.powLimit < 2 ^ 256)
    (hover : LwmaNoOverflow c.chainParams) (hblocks : 3 ≤ lwmaBlocks lastNode c.chainParams)
    (h : lwmaNextTarget lastNode c.chainParams (lwmaBlocks lastNode c.chainParams)
      referenceTarget capFactor = .ok r) :
    compactToBig r ≤ min c.chainParams.powLimit (min 6 capFactor * referenceTarget) ∧
      compactToBig (bigToCompact (min c.chainParams.powLimit
        (referenceTarget * (lwmaExpected lastNode c.chainParams / capFactor) /
          lwmaExpected lastNode c.chainParams))) ≤ compactToBig r := by
  obtain ⟨node, _ | ⟨prev, rest⟩⟩ := lastNode
  · rw [lwmaNextTarget_nil] at h; cases h
  rw [lwmaNextTarget_eq_of_window hT hover hk hk10 (by omega) (lwmaBlocks_le _ _),
    Except.ok.injEq] at h
  subst h
  have hS := lwmaSumWeights_pos (show 1 ≤ lwmaBlocks ⟨node, prev :: rest⟩ c.chainParams by omega)
    prev rest
  obtain ⟨hSW, hW6⟩ := lwmaWeightedSolvetimes_mem hT (lwmaBlocks ⟨node, prev :: rest⟩ c.chainParams)
    node (prev :: rest)
  unfold lwmaExpected
  simp only at hS hSW hW6 ⊢
  rw [Int.mul_comm c.chainParams.secondsPerBlock]
  generalize lwmaWeightedSolvetimes _ _ _ _ = W at *
  generalize c.chainParams.secondsPerBlock = T at *
  generalize lwmaSumWeights _ _ = S at *
  have hE : 0 < S * T := Int.mul_pos (by omega) (by omega)
  have hcap : min (S * T * capFactor) (max (S * T / capFactor) W) ≤ min 6 capFactor * (S * T) := by
    have hdiv : S * T / capFactor ≤ S * T := Int.ediv_le_self _ hE.le
    rw [min_mul_of_nonneg _ _ hE.le]
    exact le_min ((min_le_right _ _).trans (max_le (by linarith) (by linarith)))
      ((min_le_left _ _).trans_eq (Int.mul_comm _ _))
  exact ⟨roundTrip_le_min (lwmaTarget_nonneg href hE hk (by omega)) (lwmaTarget_le href hE hcap)
      hpl.2 hpl.1,
    roundTrip_mono (le_min hpl.1 (Int.ediv_nonneg (Int.mul_nonneg href
      (Int.ediv_nonneg hE.le (by omega))) hE.le)) (min_le_min_left _ (lwmaTarget_ge href hE hk))
      ((min_le_left _ _).trans_lt hpl.2)⟩

/-- **LWMA step bound.** With `T ≥ 1`, `0 ≤ PowLimit < 2^256` and sums that fit in `int64`,
an LWMA step with `blocks ≥ 3` eases by at most 6 and LWMAv2 by at most 3, and neither
goes below the rounded lower cap `ref * (E / cap) / E`. -/
theorem lwma_step_bounded (hblocks : 3 ≤ lwmaBlocks lastNode c.chainParams)
    (hT : 1 ≤ c.chainParams.secondsPerBlock)
    (hpl : 0 ≤ c.chainParams.powLimit ∧ c.chainParams.powLimit < 2 ^ 256)
    (hover : LwmaNoOverflow c.chainParams) :
    (0 ≤ compactToBig lastNode.node.bits → ∀ r, calcNextRequiredDifficultyLWMA lastNode c = .ok r →
      compactToBig r ≤ min c.chainParams.powLimit (6 * compactToBig lastNode.node.bits) ∧
      compactToBig (bigToCompact (min c.chainParams.powLimit
        (compactToBig lastNode.node.bits * (lwmaExpected lastNode c.chainParams / 10) /
          lwmaExpected lastNode c.chainParams))) ≤ compactToBig r) ∧
    (0 ≤ compactToBig (windowStart (lwmaBlocks lastNode c.chainParams).toNat lastNode.node
        lastNode.ancestors).bits →
      ∀ r, calcNextRequiredDifficultyLWMAv2 lastNode c = .ok r →
      compactToBig r ≤ min c.chainParams.powLimit (3 * compactToBig (windowStart
        (lwmaBlocks lastNode c.chainParams).toNat lastNode.node lastNode.ancestors).bits) ∧
      compactToBig (bigToCompact (min c.chainParams.powLimit
        (compactToBig (windowStart (lwmaBlocks lastNode c.chainParams).toNat lastNode.node
          lastNode.ancestors).bits * (lwmaExpected lastNode c.chainParams / 3) /
          lwmaExpected lastNode c.chainParams))) ≤ compactToBig r) := by
  constructor
  · intro href r h
    rw [calcNextRequiredDifficultyLWMA, if_neg (by omega)] at h
    simpa using lwmaNextTarget_bounded hT (by norm_num) le_rfl href hpl hover hblocks h
  · intro href r h
    rw [calcNextRequiredDifficultyLWMAv2, if_neg (by omega)] at h
    simpa using lwmaNextTarget_bounded hT (by norm_num) (by norm_num) href hpl hover hblocks h

/-- `smallParams` with LWMA from height 1 over a window of three blocks. -/
def smallLwmaParams (powLimit : Int) : Params :=
  { powLimit := powLimit
    powLimitBits := 0x1e0ffff0
    targetTimespan := 600 * second
    targetTimePerBlock := 150 * second
    retargetAdjustmentFactor := 4
    lwmaHeight := 1
    lwmaWindow := 3 }

/-- Modelled from the spec: the `ChainCtx` of `smallLwmaParams`. -/
def smallLwmaCtx (powLimit : Int) : ChainCtx := ⟨smallLwmaParams powLimit, 4, 150, 2400, by decide⟩

/-- Four headers 150 s apart: the first LWMA step with a full window of three. -/
def lwmaTip : HeaderCtx :=
  ⟨{ height := 3, timestamp := 450, bits := 0x1d00ffff },
    [{ height := 2, timestamp := 300, bits := 0x1d00ffff },
      { height := 1, timestamp := 150, bits := 0x1d00ffff },
      { height := 0, timestamp := 0, bits := 0x1d00ffff }]⟩

/-- At the steady state both versions return the previous bits, within the bounds. -/
theorem lwma_step_bounded_steady :
    (compactToBig 0x1d00ffff ≤ min mainPowLimit (6 * compactToBig lwmaTip.node.bits) ∧
      compactToBig (bigToCompact (min mainPowLimit
        (compactToBig lwmaTip.node.bits * (lwmaExpected lwmaTip (smallLwmaParams mainPowLimit) / 10) /
          lwmaExpected lwmaTip (smallLwmaParams mainPowLimit)))) ≤ compactToBig 0x1d00ffff) ∧
    (compactToBig 0x1d00ffff ≤ min mainPowLimit (3 * compactToBig (windowStart
        (lwmaBlocks lwmaTip (smallLwmaParams mainPowLimit)).toNat lwmaTip.node
          lwmaTip.ancestors).bits) ∧
      compactToBig (bigToCompact (min mainPowLimit
        (compactToBig (windowStart (lwmaBlocks lwmaTip (smallLwmaParams mainPowLimit)).toNat
          lwmaTip.node lwmaTip.ancestors).bits *
          (lwmaExpected lwmaTip (smallLwmaParams mainPowLimit) / 3) /
          lwmaExpected lwmaTip (smallLwmaParams mainPowLimit)))) ≤ compactToBig 0x1d00ffff) :=
  have h := @lwma_step_bounded (smallLwmaCtx mainPowLimit) lwmaTip (by decide) (by decide)
    ⟨by decide, by norm_num [smallLwmaCtx, smallLwmaParams, mainPowLimit]⟩
    (by unfold LwmaNoOverflow; decide)
  ⟨h.1 (by decide) _ rfl, h.2 (by decide) _ rfl⟩

/-- Headers at heights `2^31 - 3` and `2^31 - 2`, 150 s apart. -/
def highTip : HeaderCtx :=
  ⟨{ height := 2147483646, timestamp := 150, bits := 0x1d00ffff },
    [{ height := 2147483645, timestamp := 0, bits := 0x1d00ffff }]⟩

/-- LWMA from height 1 over a window of `2^31`, with `T = 2^33 + 1` seconds. -/
def wideLwmaParams : Params :=
  { powLimit := mainPowLimit
    targetTimePerBlock := 8589934593 * second
    lwmaHeight := 1
    lwmaWindow := 2147483648 }

/-- With a negative `PowLimit` the steady state decodes above `PowLimit`; and when
`sumWeights * T` wraps, `int64` arithmetic makes one LWMA step ease by 10. -/
theorem lwma_step_negative_powLimit_or_overflow :
    (3 ≤ lwmaBlocks lwmaTip (smallLwmaParams (-8388609)) ∧
      1 ≤ (smallLwmaParams (-8388609)).secondsPerBlock ∧
      0 ≤ compactToBig lwmaTip.node.bits ∧
      calcNextRequiredDifficultyLWMA lwmaTip (smallLwmaCtx (-8388609)) = .ok 0x04808000 ∧
      ¬ compactToBig 0x04808000 ≤ min (-8388609) (6 * compactToBig lwmaTip.node.bits)) ∧
    (3 ≤ lwmaBlocks highTip wideLwmaParams ∧ 1 ≤ wideLwmaParams.secondsPerBlock ∧
      calcNextRequiredDifficultyLWMA highTip ⟨wideLwmaParams, 0, 0, 0, by decide⟩ =
        .ok 0x1d09fff6 ∧
      compactToBig 0x1d09fff6 = 10 * compactToBig highTip.node.bits ∧
      ¬ compactToBig 0x1d09fff6 ≤ min mainPowLimit (6 * compactToBig highTip.node.bits)) := by
  refine ⟨⟨by decide, by decide, by decide, rfl, by decide⟩,
    by decide, by decide, rfl, rfl, by decide⟩

end Dsvd

import Dsvd.Bounds.Step

/-! # The PowLimit ceiling over whole chains

Every header of a chain built by the dispatcher carries bits that decode into
`[0, PowLimit]`. Several steps copy bits from the chain (the off-boundary legacy step, the
minimum-difficulty walk, the LWMA warm-up), so the bound is an invariant of the run: one
step keeps it when every header before it satisfies it, and induction over `Built` carries
it to every header. A step computes a fresh target only by capping a non-negative value at
`PowLimit`, which needs non-negative retarget limits and `int64` LWMA sums that do not wrap.
-/

namespace Dsvd

/-- The bits of `n` decode into `[0, PowLimit]`. -/
def InRange (c : ChainCtx) (n : BlockNode) : Prop :=
  0 ≤ compactToBig n.bits ∧ compactToBig n.bits ≤ c.chainParams.powLimit

/-- The parameters under which no step leaves `[0, PowLimit]`. -/
structure CeilingParams (c : ChainCtx) : Prop where
  powLimit_pos : 1 ≤ c.chainParams.powLimit
  powLimit_lt : c.chainParams.powLimit < 2 ^ 256
  powLimitBits_nonneg : 0 ≤ compactToBig c.chainParams.powLimitBits
  powLimitBits_le : compactToBig c.chainParams.powLimitBits ≤ c.chainParams.powLimit
  anchorBits_nonneg : 0 ≤ compactToBig c.chainParams.asertAnchorBits
  targetTimespan_pos : 0 < c.chainParams.targetTimespan
  targetTimePerBlock_pos : 0 < c.chainParams.targetTimePerBlock
  minRetargetTimespan_nonneg : 0 ≤ c.minRetargetTimespan
  maxRetargetTimespan_nonneg : 0 ≤ c.maxRetargetTimespan
  noOverflow : LwmaNoOverflow c.chainParams

variable {c : ChainCtx} {lastNode : HeaderCtx} {newBlockTime : Int} {r : UInt32}

theorem roundTrip_inRange (hc : CeilingParams c) {v : Int} (h0 : 0 ≤ v)
    (h1 : v ≤ c.chainParams.powLimit) :
    0 ≤ compactToBig (bigToCompact v) ∧ compactToBig (bigToCompact v) ≤ c.chainParams.powLimit :=
  have hv : v < 2 ^ 256 := h1.trans_lt hc.powLimit_lt
  ⟨roundTrip_nonneg h0 hv, (roundTrip_le h0 hv).trans h1⟩

theorem asert_step_inRange (hc : CeilingParams c)
    (h : calcNextRequiredDifficultyASERT lastNode c = .ok r) :
    0 ≤ compactToBig r ∧ compactToBig r ≤ c.chainParams.powLimit := by
  obtain ⟨shifts, frac, rfl⟩ := calcNextRequiredDifficultyASERT_ok h
  have ht : 0 ≤ (compactToBig c.chainParams.asertAnchorBits * asertFactor frac) >>> (16 : Nat) := by
    rw [shiftRight_eq_ediv]
    exact Int.ediv_nonneg (Int.mul_nonneg hc.anchorBits_nonneg (by omega)) (by positivity)
  obtain ⟨v, hv, h1, h2⟩ := asertShift_mem c.chainParams shifts ht hc.powLimit_pos
  rw [hv]
  exact roundTrip_inRange hc (by omega) h2

/-- The common tail of LWMA and LWMAv2 keeps the ceiling when its reference target does. -/
theorem lwmaNextTarget_inRange (hc : CeilingParams c) {referenceTarget capFactor : Int}
    (hk : 1 ≤ capFactor) (hk10 : capFactor ≤ 10) (href : 0 ≤ referenceTarget)
    (hblocks : 3 ≤ lwmaBlocks lastNode c.chainParams)
    (h : lwmaNextTarget lastNode c.chainParams (lwmaBlocks lastNode c.chainParams)
      referenceTarget capFactor = .ok r) :
    0 ≤ compactToBig r ∧ compactToBig r ≤ c.chainParams.powLimit := by
  have hT0 : 0 ≤ c.chainParams.secondsPerBlock := seconds_nonneg hc.targetTimePerBlock_pos.le
  rcases (show 0 = c.chainParams.secondsPerBlock ∨ 1 ≤ c.chainParams.secondsPerBlock by omega)
    with hT | hT
  · rw [lwmaNextTarget_of_secondsPerBlock_eq_zero _ hT.symm] at h; cases h
  obtain ⟨hhi, hlo⟩ := lwmaNextTarget_bounded hT hk hk10 href
    ⟨by linarith [hc.powLimit_pos], hc.powLimit_lt⟩ hc.noOverflow hblocks h
  have hE : 0 ≤ lwmaExpected lastNode c.chainParams :=
    Int.mul_nonneg (by omega) (lwmaSumWeights_nonneg _ _)
  have hlow : 0 ≤ min c.chainParams.powLimit (referenceTarget *
      (lwmaExpected lastNode c.chainParams / capFactor) / lwmaExpected lastNode c.chainParams) :=
    le_min (by linarith [hc.powLimit_pos])
      (Int.ediv_nonneg (Int.mul_nonneg href (Int.ediv_nonneg hE (by omega))) hE)
  exact ⟨(roundTrip_nonneg hlow ((min_le_left _ _).trans_lt hc.powLimit_lt)).trans hlo,
    hhi.trans (min_le_left _ _)⟩

/-- **One step keeps the ceiling**: when every header up to `lastNode` decodes into
`[0, PowLimit]`, so do the bits the dispatcher returns for its child. -/
theorem step_inRange (hc : CeilingParams c) (hall : ∀ n ∈ lastNode.nodes, InRange c n)
    (h : calcNextRequiredDifficulty (some lastNode) newBlockTime c = .ok r) :
    0 ≤ compactToBig r ∧ compactToBig r ≤ c.chainParams.powLimit := by
  have hlast := hall lastNode.node (List.mem_cons_self _ _)
  rw [calcNextRequiredDifficulty_some] at h
  split at h
  · cases h; exact ⟨hc.powLimitBits_nonneg, hc.powLimitBits_le⟩
  cases hsel : selectAlgorithm c.chainParams (wrap32 (lastNode.node.height + 1)) <;>
    simp only [hsel] at h
  case asert => exact asert_step_inRange hc h
  case lwmaV2 =>
    simp only [calcNextRequiredDifficultyLWMAv2] at h
    split_ifs at h
    · cases h; exact hlast
    · exact lwmaNextTarget_inRange hc (by norm_num) (by norm_num)
        (hall _ (windowStart_mem _ _ _)).1 (by omega) h
  case lwma =>
    simp only [calcNextRequiredDifficultyLWMA] at h
    split_ifs at h
    · cases h; exact hlast
    · exact lwmaNextTarget_inRange hc (by norm_num) le_rfl hlast.1 (by omega) h
  case legacy =>
    obtain ⟨-, ⟨-, ⟨-, rfl⟩ | ⟨-, rfl | ⟨n, hn, rfl⟩⟩⟩ | ⟨-, firstNode, -, -, rfl⟩⟩ :=
      calcNextRequiredDifficultyLegacy_ok h
    · exact hlast
    · exact ⟨hc.powLimitBits_nonneg, hc.powLimitBits_le⟩
    · exact hall n hn
    · exact roundTrip_inRange hc (legacyTarget_nonneg hc.minRetargetTimespan_nonneg
        hc.maxRetargetTimespan_nonneg (seconds_nonneg hc.targetTimespan_pos.le)
        (by linarith [hc.powLimit_pos]) hlast.1) (legacyTarget_le _ _ _)

/-- **PowLimit ceiling.** With `1 ≤ PowLimit < 2^256`, `PowLimitBits` decoding into
`[0, PowLimit]`, non-negative anchor bits, positive `TargetTimespan` and
`TargetTimePerBlock`, non-negative retarget limits and LWMA sums that fit in `int64`, every
header of a chain built from a first header in range decodes into `[0, PowLimit]`. -/
theorem built_inRange {g : BlockNode} {h : HeaderCtx} (hc : CeilingParams c)
    (hg : InRange c g) (hb : Built c g h) : ∀ n ∈ h.nodes, InRange c n := by
  induction hb with
  | genesis => simpa [HeaderCtx.nodes] using hg
  | child n _ hbits ih =>
    intro m hm
    rcases List.mem_cons.mp hm with rfl | hm
    · exact step_inRange hc ih hbits
    · exact ih m hm

theorem mainNet_ceilingParams : CeilingParams mainNetCtx where
  powLimit_pos := by decide
  powLimit_lt := by norm_num [mainNetCtx, mainNetParams, mainPowLimit]
  powLimitBits_nonneg := by decide
  powLimitBits_le := by decide
  anchorBits_nonneg := by decide
  targetTimespan_pos := by decide
  targetTimePerBlock_pos := by decide
  minRetargetTimespan_nonneg := by decide
  maxRetargetTimespan_nonneg := by decide
  noOverflow := by unfold LwmaNoOverflow; decide

/-- The first mainnet header after the genesis header keeps its bits. -/
def mainNetBlock1 : BlockNode := { height := 1, timestamp := 1394325910, bits := 0x1e0ffff0 }

theorem built_inRange_mainNet : InRange mainNetCtx mainNetBlock1 ∧ InRange mainNetCtx genesisNode :=
  have h := built_inRange mainNet_ceilingParams ⟨by decide, by decide⟩
    (.child mainNetBlock1 (@Built.genesis mainNetCtx genesisNode) rfl)
  ⟨h _ (List.mem_cons_self _ _), h _ (List.mem_cons_of_mem _ (List.mem_cons_self _ _))⟩

/-- `RetargetAdjustmentFactor = -1` and one block per retarget: both retarget limits are
`-TargetTimespan`, and the first retarget window is the first header alone. -/
def negativeFactorCtx : ChainCtx :=
  ⟨{ powLimit := mainPowLimit
     powLimitBits := 0x1e0ffff0
     targetTimespan := 600 * second
     targetTimePerBlock := 600 * second
     retargetAdjustmentFactor := -1
     asertHalfLife := 3600 }, 1, -600, -600, by decide⟩

/-- LWMAv2 from height 2 over a window of `2^31 + 2` blocks counted from `LWMAHeight = -2^31`,
with `T = 2 * 10^9` s: `sumWeights * T` fits in `int64` but three times it wraps negative. -/
def wrappingLwmaCtx : ChainCtx :=
  ⟨{ powLimit := mainPowLimit
     powLimitBits := 0x1e0ffff0
     targetTimespan := 4000000000 * second
     targetTimePerBlock := 2000000000 * second
     retargetAdjustmentFactor := 4
     lwmaHeight := -2147483648
     lwmaFixHeight := 2
     lwmaWindow := 2147483650
     asertHalfLife := 3600 }, 2, 1000000000, 16000000000, by decide⟩

/-- Two chains built by the dispatcher from parameters that meet every bound of
`CeilingParams`, whose last header decodes to a negative target: a negative
`RetargetAdjustmentFactor` turns the first retarget negative, and a wrapping LWMAv2 cap does
the same. -/
theorem built_inRange_negative_factor_or_overflow :
    (1 ≤ negativeFactorCtx.chainParams.powLimit ∧ negativeFactorCtx.chainParams.powLimit < 2 ^ 256 ∧
      0 ≤ compactToBig negativeFactorCtx.chainParams.powLimitBits ∧
      compactToBig negativeFactorCtx.chainParams.powLimitBits ≤
        negativeFactorCtx.chainParams.powLimit ∧
      0 ≤ compactToBig negativeFactorCtx.chainParams.asertAnchorBits ∧
      0 < negativeFactorCtx.chainParams.targetTimespan ∧
      0 < negativeFactorCtx.chainParams.targetTimePerBlock ∧
      0 < negativeFactorCtx.blocksPerRetarget ∧ 0 < negativeFactorCtx.chainParams.asertHalfLife ∧
      InRange negativeFactorCtx firstNode0 ∧
      Built negativeFactorCtx firstNode0
        (HeaderCtx.child ⟨firstNode0, []⟩ { height := 1, timestamp := 600, bits := 0x1d80ffff }) ∧
      compactToBig 0x1d80ffff < 0) ∧
    (1 ≤ wrappingLwmaCtx.chainParams.powLimit ∧ wrappingLwmaCtx.chainParams.powLimit < 2 ^ 256 ∧
      0 ≤ compactToBig wrappingLwmaCtx.chainParams.powLimitBits ∧
      compactToBig wrappingLwmaCtx.chainParams.powLimitBits ≤ wrappingLwmaCtx.chainParams.powLimit ∧
      0 ≤ compactToBig wrappingLwmaCtx.chainParams.asertAnchorBits ∧
      0 < wrappingLwmaCtx.chainParams.targetTimespan ∧
      0 < wrappingLwmaCtx.chainParams.targetTimePerBlock ∧
      0 < wrappingLwmaCtx.blocksPerRetarget ∧ 0 < wrappingLwmaCtx.chainParams.asertHalfLife ∧
      0 ≤ wrappingLwmaCtx.minRetargetTimespan ∧ 0 ≤ wrappingLwmaCtx.maxRetargetTimespan ∧
      InRange wrappingLwmaCtx firstNode0 ∧
      Built wrappingLwmaCtx firstNode0
        ((HeaderCtx.child ⟨firstNode0, []⟩ { height := 1, timestamp := 150, bits := 0x1d00ffff }).child
          { height := 2, timestamp := 300, bits := 0x1d814b82 }) ∧
      compactToBig 0x1d814b82 < 0) := by
  refine ⟨⟨by decide, by norm_num [negativeFactorCtx, mainPowLimit], by decide, by decide, by decide,
    by decide, by decide, by decide, by decide, ⟨by decide, by decide⟩, .child _ .genesis rfl,
    by decide⟩, ⟨by decide, by norm_num [wrappingLwmaCtx, mainPowLimit], by decide, by decide,
    by decide, by decide, by decide, by decide, by decide, by decide, by decide,
    ⟨by decide, by decide⟩, .child _ (.child _ .genesis rfl) rfl, by decide⟩⟩

end Dsvd

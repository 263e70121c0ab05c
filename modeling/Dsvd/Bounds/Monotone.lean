import Dsvd.Compact.Rounding
import Dsvd.Retarget.Dispatch

/-! # A later tip never asks for a harder target

Take two tips over the same parent with the same height and bits, the second no earlier
than the first. They select the same algorithm, and its result for the second decodes to at
least its result for the first. The tip's timestamp enters each algorithm in one place: the
actual timespan of a legacy retarget, the first solvetime of the LWMA loop, and the ASERT
time delta. Each is monotone in the timestamp, and so is everything after it: the clamps,
scaling by a non-negative target, division by a positive divisor, the ASERT factor across a
carry into the integer shift, and compact rounding on `[0, 2^256)`.
-/

namespace Dsvd

/-- The second of two tips over the same parent: the same height and bits, and no earlier. -/
structure LaterTip (n1 n2 : BlockNode) : Prop where
  height_eq : n1.height = n2.height
  bits_eq : n1.bits = n2.bits
  timestamp_le : n1.timestamp ≤ n2.timestamp

/-- Header timestamps are `uint32`. -/
def InHeaderRange (nodes : List BlockNode) : Prop :=
  ∀ n ∈ nodes, 0 ≤ n.timestamp ∧ n.timestamp < 2 ^ 32

variable {c : ChainCtx} {n1 n2 : BlockNode} {ancestors : List BlockNode} {r1 r2 : UInt32}

/-- Against a header in range the `int64` timestamp difference is exact, so the later tip's
is at least the earlier's. -/
theorem timeDelta_le (ht : LaterTip n1 n2) (hr : InHeaderRange (n1 :: n2 :: ancestors))
    {p : BlockNode} (hp : p ∈ n1 :: n2 :: ancestors) :
    wrap64 (n1.timestamp - p.timestamp) ≤ wrap64 (n2.timestamp - p.timestamp) := by
  have h1 := hr n1 (List.mem_cons_self _ _)
  have h2 := hr n2 (List.mem_cons_of_mem _ (List.mem_cons_self _ _))
  have h3 := hr p hp
  have := ht.timestamp_le
  simp (disch := omega) only [wrap64_of_range]
  omega

/-! ## The legacy retarget -/

theorem relativeAncestorCtx_tip (n1 n2 : BlockNode) {k : Int} (hk : 1 ≤ k) :
    HeaderCtx.relativeAncestorCtx ⟨n1, ancestors⟩ k =
      HeaderCtx.relativeAncestorCtx ⟨n2, ancestors⟩ k := by
  obtain ⟨m, hm⟩ : ∃ m, k.toNat = m + 1 := ⟨k.toNat - 1, by omega⟩
  simp only [HeaderCtx.relativeAncestorCtx, HeaderCtx.nodes_mk, hm, List.drop_succ_cons]

/-- The window starts at the tip itself when it is empty, and otherwise at the same ancestor
for both tips: either way the later tip's actual timespan is at least the earlier's. -/
theorem actualTimespan_le (ht : LaterTip n1 n2) (hr : InHeaderRange (n1 :: n2 :: ancestors))
    {k : Int} {first1 first2 : HeaderCtx}
    (h1 : HeaderCtx.relativeAncestorCtx ⟨n1, ancestors⟩ k = some first1)
    (h2 : HeaderCtx.relativeAncestorCtx ⟨n2, ancestors⟩ k = some first2) :
    wrap64 (n1.timestamp - first1.node.timestamp) ≤ wrap64 (n2.timestamp - first2.node.timestamp) := by
  rcases lt_trichotomy k 0 with hk | rfl | hk
  · simp [HeaderCtx.relativeAncestorCtx, hk] at h1
  · rw [HeaderCtx.relativeAncestorCtx_zero, Option.some.injEq] at h1 h2
    subst h1 h2
    simp [wrap64]
  · rw [relativeAncestorCtx_tip n1 n2 hk, h2, Option.some.injEq] at h1
    subst h1
    exact timeDelta_le ht hr (List.mem_cons_of_mem _ (HeaderCtx.relativeAncestorCtx_mem h2))

theorem calcNextRequiredDifficultyLegacy_tip_mono
    (hred : c.chainParams.reduceMinDifficulty = false) (ht : LaterTip n1 n2)
    (hr : InHeaderRange (n1 :: n2 :: ancestors)) (hold : 0 ≤ compactToBig n1.bits)
    (hmin : 0 ≤ c.minRetargetTimespan) (hminmax : c.minRetargetTimespan ≤ c.maxRetargetTimespan)
    (htt : 1 ≤ seconds c.chainParams.targetTimespan)
    (hpl : 0 ≤ c.chainParams.powLimit ∧ c.chainParams.powLimit < 2 ^ 256) {newBlockTime : Int}
    (h1 : calcNextRequiredDifficultyLegacy ⟨n1, ancestors⟩ newBlockTime c = .ok r1)
    (h2 : calcNextRequiredDifficultyLegacy ⟨n2, ancestors⟩ newBlockTime c = .ok r2) :
    compactToBig r1 ≤ compactToBig r2 := by
  have hw : retargetWindow ⟨n1, ancestors⟩ c = retargetWindow ⟨n2, ancestors⟩ c := by
    simp only [retargetWindow, ht.height_eq]
  obtain ⟨-, hcase1⟩ := calcNextRequiredDifficultyLegacy_ok h1
  obtain ⟨-, hcase2⟩ := calcNextRequiredDifficultyLegacy_ok h2
  dsimp only at hcase1 hcase2
  rw [ht.height_eq] at hcase1
  rcases hcase1 with ⟨hoff, ⟨-, rfl⟩ | ⟨hred1, -⟩⟩ | ⟨hoff, first1, hfirst1, -, rfl⟩
  · rcases hcase2 with ⟨-, ⟨-, rfl⟩ | ⟨hred2, -⟩⟩ | ⟨hoff', -⟩
    · rw [ht.bits_eq]
    · exact absurd hred2 (by simp [hred])
    · exact absurd hoff' hoff
  · exact absurd hred1 (by simp [hred])
  · rcases hcase2 with ⟨hoff', -⟩ | ⟨-, first2, hfirst2, -, rfl⟩
    · exact absurd hoff hoff'
    rw [← hw] at hfirst2
    exact roundTrip_mono (legacyTarget_nonneg hmin (hmin.trans hminmax) (by omega) hpl.1 hold)
      (legacyTarget_mono hminmax (by omega) hold ht.bits_eq (actualTimespan_le ht hr hfirst1 hfirst2))
      ((legacyTarget_le _ _ _).trans_lt hpl.2)

/-! ## LWMA and LWMAv2 -/

/-- Only the first solvetime of the loop reads the tip's timestamp. -/
theorem lwmaWeightedSolvetimes_tip_le (T : Int) {i : Int} (hi : 0 ≤ i) {prev : BlockNode}
    (rest : List BlockNode)
    (hle : wrap64 (n1.timestamp - prev.timestamp) ≤ wrap64 (n2.timestamp - prev.timestamp)) :
    lwmaWeightedSolvetimes T i n1 (prev :: rest) ≤ lwmaWeightedSolvetimes T i n2 (prev :: rest) := by
  simp only [lwmaWeightedSolvetimes]
  split_ifs
  · exact Int.add_le_add_right (Int.mul_le_mul_of_nonneg_right (clampSolvetime_mono T hle) hi) _
  · exact le_rfl

theorem lwmaNextTarget_tip_mono (ht : LaterTip n1 n2) (hr : InHeaderRange (n1 :: n2 :: ancestors))
    {blocks referenceTarget capFactor : Int} (hT : 1 ≤ c.chainParams.secondsPerBlock)
    (hover : LwmaNoOverflow c.chainParams) (hk : 1 ≤ capFactor) (hk10 : capFactor ≤ 10)
    (hb : 1 ≤ blocks) (hbN : blocks ≤ c.chainParams.lwmaWindow) (href : 0 ≤ referenceTarget)
    (hpl : 0 ≤ c.chainParams.powLimit ∧ c.chainParams.powLimit < 2 ^ 256)
    (h1 : lwmaNextTarget ⟨n1, ancestors⟩ c.chainParams blocks referenceTarget capFactor = .ok r1)
    (h2 : lwmaNextTarget ⟨n2, ancestors⟩ c.chainParams blocks referenceTarget capFactor = .ok r2) :
    compactToBig r1 ≤ compactToBig r2 := by
  cases ancestors with
  | nil => rw [lwmaNextTarget_nil] at h1; cases h1
  | cons prev rest =>
    rw [lwmaNextTarget_eq_of_window hT hover hk hk10 hb hbN, Except.ok.injEq] at h1 h2
    subst h1 h2
    have hS := lwmaSumWeights_pos hb prev rest
    have hE : 0 < lwmaSumWeights blocks (prev :: rest) * c.chainParams.secondsPerBlock :=
      Int.mul_pos (by omega) (by omega)
    have hW := (lwmaWeightedSolvetimes_mem hT blocks n1 (prev :: rest)).1
    exact roundTrip_mono (le_min hpl.1 (lwmaTarget_nonneg href hE hk (by omega)))
      (min_le_min_left _ (lwmaTarget_mono href hE (lwmaWeightedSolvetimes_tip_le _ (by omega) rest
        (timeDelta_le ht hr (by simp)))))
      ((min_le_left _ _).trans_lt hpl.2)

theorem lwmaBlocks_tip (ht : LaterTip n1 n2) (params : Params) :
    lwmaBlocks ⟨n1, ancestors⟩ params = lwmaBlocks ⟨n2, ancestors⟩ params := by
  simp only [lwmaBlocks, ht.height_eq]

/-- The window-start walk moves to the parent at once, or stays at a tip with the same bits. -/
theorem windowStart_tip_bits (ht : LaterTip n1 n2) (k : Nat) :
    (windowStart k n1 ancestors).bits = (windowStart k n2 ancestors).bits := by
  cases k with
  | zero => exact ht.bits_eq
  | succ k =>
    cases ancestors with
    | nil => exact ht.bits_eq
    | cons prev rest => rfl

section Lwma

variable (ht : LaterTip n1 n2) (hr : InHeaderRange (n1 :: n2 :: ancestors))
  (hbits : ∀ n ∈ n1 :: ancestors, 0 ≤ compactToBig n.bits)
  (hT : 1 ≤ c.chainParams.secondsPerBlock) (hover : LwmaNoOverflow c.chainParams)
  (hpl : 0 ≤ c.chainParams.powLimit ∧ c.chainParams.powLimit < 2 ^ 256)
include ht hr hbits hT hover hpl

theorem calcNextRequiredDifficultyLWMA_tip_mono
    (h1 : calcNextRequiredDifficultyLWMA ⟨n1, ancestors⟩ c = .ok r1)
    (h2 : calcNextRequiredDifficultyLWMA ⟨n2, ancestors⟩ c = .ok r2) :
    compactToBig r1 ≤ compactToBig r2 := by
  simp only [calcNextRequiredDifficultyLWMA, lwmaBlocks_tip ht, ← ht.bits_eq] at h1 h2
  split_ifs at h1 h2 with hb
  · cases h1; cases h2; exact le_rfl
  · exact lwmaNextTarget_tip_mono ht hr hT hover (by norm_num) le_rfl (by omega) (lwmaBlocks_le _ _)
      (hbits n1 (List.mem_cons_self _ _)) hpl h1 h2

theorem calcNextRequiredDifficultyLWMAv2_tip_mono
    (h1 : calcNextRequiredDifficultyLWMAv2 ⟨n1, ancestors⟩ c = .ok r1)
    (h2 : calcNextRequiredDifficultyLWMAv2 ⟨n2, ancestors⟩ c = .ok r2) :
    compactToBig r1 ≤ compactToBig r2 := by
  simp only [calcNextRequiredDifficultyLWMAv2, lwmaBlocks_tip ht, ← windowStart_tip_bits ht,
    ← ht.bits_eq] at h1 h2
  split_ifs at h1 h2 with hb
  · cases h1; cases h2; exact le_rfl
  · exact lwmaNextTarget_tip_mono ht hr hT hover (by norm_num) (by norm_num) (by omega)
      (lwmaBlocks_le _ _) (hbits _ (windowStart_mem _ _ _)) hpl h1 h2

end Lwma

/-! ## ASERT -/

/-- The anchor walk moves to the tip's parent at once or stops at the tip, so the anchor's
parent is the same for both tips. -/
theorem asertAnchor_parent_tip (ht : LaterTip n1 n2) {asertHeight : Int} {anchor1 anchor2 : HeaderCtx}
    (h1 : asertAnchor asertHeight n1 ancestors = .ok anchor1)
    (h2 : asertAnchor asertHeight n2 ancestors = .ok anchor2) :
    anchor1.parent = anchor2.parent := by
  cases ancestors with
  | nil =>
    simp only [asertAnchor, ht.height_eq] at h1 h2
    split_ifs at h1 h2
    cases h1; cases h2; rfl
  | cons prev rest =>
    simp only [asertAnchor, ht.height_eq] at h1 h2
    split_ifs at h1 h2
    · rw [h1] at h2; cases h2; rfl
    · cases h1; cases h2; rfl

theorem calcNextRequiredDifficultyASERT_tip_mono (ht : LaterTip n1 n2)
    (hA : 0 ≤ compactToBig c.chainParams.asertAnchorBits)
    (hpl : 1 ≤ c.chainParams.powLimit ∧ c.chainParams.powLimit < 2 ^ 256)
    (hhl : 1 ≤ c.chainParams.asertHalfLife)
    (hfit1 : AsertExponentFits ⟨n1, ancestors⟩ c.chainParams)
    (hfit2 : AsertExponentFits ⟨n2, ancestors⟩ c.chainParams)
    (h1 : calcNextRequiredDifficultyASERT ⟨n1, ancestors⟩ c = .ok r1)
    (h2 : calcNextRequiredDifficultyASERT ⟨n2, ancestors⟩ c = .ok r2) :
    compactToBig r1 ≤ compactToBig r2 := by
  obtain ⟨anchor1, parent1, hanchor1, hparent1⟩ := calcNextRequiredDifficultyASERT_anchor h1
  obtain ⟨anchor2, parent2, hanchor2, hparent2⟩ := calcNextRequiredDifficultyASERT_anchor h2
  obtain rfl : parent1 = parent2 := Option.some.inj
    (hparent1.symm.trans ((asertAnchor_parent_tip ht hanchor1 hanchor2).trans hparent2))
  obtain ⟨hdev1, hx1⟩ := hfit1 _ _ hanchor1 hparent1
  obtain ⟨hdev2, hx2⟩ := hfit2 _ _ hanchor2 hparent2
  rw [calcNextRequiredDifficultyASERT_eq_clamp hanchor1 hparent1 hA hpl.1 hhl hdev1 hx1,
    Except.ok.injEq] at h1
  rw [calcNextRequiredDifficultyASERT_eq_clamp hanchor2 hparent2 hA hpl.1 hhl hdev2 hx2,
    Except.ok.injEq] at h2
  subst h1 h2
  have hdev : scheduleDeviation ⟨n1, ancestors⟩ parent1 c.chainParams ≤
      scheduleDeviation ⟨n2, ancestors⟩ parent1 c.chainParams := by
    simp only [scheduleDeviation, ht.height_eq]
    linarith [ht.timestamp_le]
  exact roundTrip_mono (zero_le_one.trans (asertClamp_mem hpl.1 _ _).1)
    (asertClamp_exponent_mono hpl.1 hA
      (tdiv_le_tdiv (by omega) (Int.mul_le_mul_of_nonneg_right hdev (by norm_num))))
    ((asertClamp_mem hpl.1 _ _).2.trans_lt hpl.2)

/-! ## Every path -/

/-- **A later tip never asks for a harder target.** Without the minimum-difficulty rule, for
two tips over the same parent with the same height and bits, the second no earlier, the
second tip's next target decodes to at least the first's, whichever algorithm runs. Beyond
bits and anchor bits that decode non-negative, `T ≥ 1`, `ASERTHalfLife ≥ 1`,
`MinRetargetTimespan ≤ MaxRetargetTimespan`, `uint32` timestamps and an ASERT exponent that
fits, this needs `1 ≤ PowLimit < 2^256`, `TargetTimespan ≥ 1 s`, `MinRetargetTimespan ≥ 0`
and LWMA sums that fit in `int64`. -/
theorem calcNextRequiredDifficulty_tip_mono (hred : c.chainParams.reduceMinDifficulty = false)
    (ht : LaterTip n1 n2) (hr : InHeaderRange (n1 :: n2 :: ancestors))
    (hbits : ∀ n ∈ n1 :: ancestors, 0 ≤ compactToBig n.bits)
    (hA : 0 ≤ compactToBig c.chainParams.asertAnchorBits)
    (hpl : 1 ≤ c.chainParams.powLimit ∧ c.chainParams.powLimit < 2 ^ 256)
    (hmin : 0 ≤ c.minRetargetTimespan) (hminmax : c.minRetargetTimespan ≤ c.maxRetargetTimespan)
    (htt : 1 ≤ seconds c.chainParams.targetTimespan) (hT : 1 ≤ c.chainParams.secondsPerBlock)
    (hhl : 1 ≤ c.chainParams.asertHalfLife) (hover : LwmaNoOverflow c.chainParams)
    (hfit1 : AsertExponentFits ⟨n1, ancestors⟩ c.chainParams)
    (hfit2 : AsertExponentFits ⟨n2, ancestors⟩ c.chainParams) {newBlockTime : Int}
    (h1 : calcNextRequiredDifficulty (some ⟨n1, ancestors⟩) newBlockTime c = .ok r1)
    (h2 : calcNextRequiredDifficulty (some ⟨n2, ancestors⟩) newBlockTime c = .ok r2) :
    compactToBig r1 ≤ compactToBig r2 := by
  have hpl0 : 0 ≤ c.chainParams.powLimit ∧ c.chainParams.powLimit < 2 ^ 256 :=
    ⟨by omega, hpl.2⟩
  rw [calcNextRequiredDifficulty_some] at h1 h2
  dsimp only at h1 h2
  rw [ht.height_eq] at h1
  split at h1
  · rw [if_pos ‹_›] at h2
    cases h1; cases h2; exact le_rfl
  rw [if_neg ‹_›] at h2
  cases hsel : selectAlgorithm c.chainParams (wrap32 (n2.height + 1)) <;>
    simp only [hsel] at h1 h2
  case asert => exact calcNextRequiredDifficultyASERT_tip_mono ht hA hpl hhl hfit1 hfit2 h1 h2
  case lwmaV2 => exact calcNextRequiredDifficultyLWMAv2_tip_mono ht hr hbits hT hover hpl0 h1 h2
  case lwma => exact calcNextRequiredDifficultyLWMA_tip_mono ht hr hbits hT hover hpl0 h1 h2
  case legacy =>
    exact calcNextRequiredDifficultyLegacy_tip_mono hred ht hr (hbits n1 (List.mem_cons_self _ _))
      hmin hminmax htt hpl0 h1 h2

/-- ASERT from height 1 with a half-life of an hour over 150 s blocks; `PowLimit` is left
open. -/
def asertSmallParams (powLimit : Int) : Params :=
  { powLimit := powLimit
    powLimitBits := 0x1e0ffff0
    targetTimespan := 600 * second
    targetTimePerBlock := 150 * second
    retargetAdjustmentFactor := 4
    asertHeight := 1
    asertHalfLife := 3600
    asertAnchorBits := 0x1d00ffff }

/-- Modelled from the spec: the `ChainCtx` of `asertSmallParams`. -/
def asertSmallCtx (powLimit : Int) : ChainCtx := ⟨asertSmallParams powLimit, 4, 150, 2400, by decide⟩

/-- The first header of the ASERT scenarios, and the parent of the anchor. -/
def asertFirstNode : BlockNode := { height := 0, timestamp := 1000000, bits := 0x1d00ffff }
/-- A tip at height 1, on schedule. -/
def onScheduleTip : BlockNode := { height := 1, timestamp := 1000150, bits := 0x1d00ffff }
/-- A tip at height 1, one half-life behind schedule. -/
def hourLateTip : BlockNode := { height := 1, timestamp := 1003750, bits := 0x1d00ffff }

theorem calcNextRequiredDifficulty_tip_mono_halfLife :
    compactToBig 0x1d00ffff ≤ compactToBig 0x1d01fffe :=
  @calcNextRequiredDifficulty_tip_mono (asertSmallCtx mainPowLimit) onScheduleTip hourLateTip
    [asertFirstNode] 0x1d00ffff 0x1d01fffe rfl ⟨rfl, rfl, by decide⟩
    (by unfold InHeaderRange; decide) (by decide) (by decide)
    ⟨by decide, by norm_num [asertSmallCtx, asertSmallParams, mainPowLimit]⟩
    (by decide) (by decide) (by decide) (by decide) (by decide) (by unfold LwmaNoOverflow; decide)
    (fun _ _ ha hp => by cases ha; cases hp; decide)
    (fun _ _ ha hp => by cases ha; cases hp; decide) 0 rfl rfl

/-- A tip at height 1, 256 half-lives ahead of schedule. -/
def aheadTip256 : BlockNode := { height := 1, timestamp := 78550, bits := 0x1d00ffff }
/-- A tip at height 1, 255 half-lives ahead of schedule. -/
def aheadTip255 : BlockNode := { height := 1, timestamp := 82150, bits := 0x1d00ffff }

/-- Legacy retargets at every block over one-second target timespans, with `PowLimit`
`0x7fffff` and the target spacing and half-life of `asertSmallParams`. -/
def oneSecondParams : Params :=
  { powLimit := 0x7fffff
    powLimitBits := 0x207fffff
    targetTimespan := second
    targetTimePerBlock := 150 * second
    retargetAdjustmentFactor := 4
    asertHalfLife := 3600 }

/-- `oneSecondParams` with a negative target timespan. -/
def negativeSecondParams : Params :=
  { oneSecondParams with targetTimespan := -second, fixedWidth := by decide }

/-- Modelled from the spec: clamping to `[-2^32, 2^32]`. -/
def negativeMinCtx : ChainCtx := ⟨oneSecondParams, 1, -4294967296, 4294967296, by decide⟩

/-- Modelled from the spec: clamping to `[0, 1]` under a target timespan of `-1 s`. -/
def negativeTimespanCtx : ChainCtx := ⟨negativeSecondParams, 1, 0, 1, by decide⟩

/-- The first header of the legacy scenarios at the top of the `uint32` range, target 1. -/
def lateFirstNode : BlockNode := { height := 0, timestamp := 4294967295, bits := 0x01010000 }
/-- The first header of the negative-timespan scenario, target 1. -/
def unitFirstNode : BlockNode := { height := 0, timestamp := 100, bits := 0x01010000 }

/-- Without `PowLimit ≥ 1`, `TargetTimespan ≥ 1 s` or `MinRetargetTimespan ≥ 0` a later tip
can ask for a harder target. With `PowLimit = 0` an ASERT step 256 half-lives ahead returns
the early 1, while one 255 half-lives ahead is clamped to 0. A negative
`MinRetargetTimespan` lets the target go negative, where compact rounding moves toward minus
infinity, and a negative `TargetTimespan` turns a longer timespan into a smaller target. -/
theorem calcNextRequiredDifficulty_tip_not_mono :
    (AsertExponentFits ⟨aheadTip256, [asertFirstNode]⟩ (asertSmallParams 0) ∧
      AsertExponentFits ⟨aheadTip255, [asertFirstNode]⟩ (asertSmallParams 0) ∧
      calcNextRequiredDifficulty (some ⟨aheadTip256, [asertFirstNode]⟩) 0 (asertSmallCtx 0) =
        .ok 0x01010000 ∧
      calcNextRequiredDifficulty (some ⟨aheadTip255, [asertFirstNode]⟩) 0 (asertSmallCtx 0) =
        .ok 0 ∧
      compactToBig 0 < compactToBig 0x01010000) ∧
    (calcNextRequiredDifficulty (some ⟨{ height := 1, timestamp := 0, bits := 0x01010000 },
        [lateFirstNode]⟩) 0 negativeMinCtx = .ok 0x05800000 ∧
      calcNextRequiredDifficulty (some ⟨{ height := 1, timestamp := 255, bits := 0x01010000 },
        [lateFirstNode]⟩) 0 negativeMinCtx = .ok 0x0580ffff ∧
      compactToBig 0x0580ffff < compactToBig 0x05800000) ∧
    (calcNextRequiredDifficulty (some ⟨{ height := 1, timestamp := 100, bits := 0x01010000 },
        [unitFirstNode]⟩) 0 negativeTimespanCtx = .ok 0 ∧
      calcNextRequiredDifficulty (some ⟨{ height := 1, timestamp := 101, bits := 0x01010000 },
        [unitFirstNode]⟩) 0 negativeTimespanCtx = .ok 0x01810000 ∧
      compactToBig 0x01810000 < compactToBig 0) :=
  ⟨⟨fun _ _ ha hp => by cases ha; cases hp; decide, fun _ _ ha hp => by cases ha; cases hp; decide,
      rfl, rfl, by decide⟩,
    ⟨rfl, rfl, by decide⟩, ⟨rfl, rfl, by decide⟩⟩

end Dsvd

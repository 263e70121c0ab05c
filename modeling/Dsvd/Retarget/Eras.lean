import Dsvd.Bounds.Ceiling
import Dsvd.Work.Measure

/-! # The retarget eras

The height of the next block selects the retarget algorithm. As the height grows the selection
only moves forward through the eras, legacy, LWMA, LWMAv2, ASERT, whatever the activation
heights: each activation condition, once met, stays met, and an earlier-checked condition
wins. The one way back is the `int32` wrap of the next height: after height `2^31 - 1` the
next height is `-2^31`, below every activation, and the original retarget runs again.

In the last era ASERT raises a target of zero to one before the cap, so with `1 ≤ PowLimit`
every target it returns decodes into `[1, PowLimit]` and counts for positive work. A whole
number of half-lives off schedule scales the anchor target by a power of two exactly: the
fractional part is zero and the cubic gives the factor `2^16`.
-/

namespace Dsvd

/-- The position of an algorithm in the order of the eras. -/
def Algorithm.rank : Algorithm → Nat
  | .legacy => 0
  | .lwma => 1
  | .lwmaV2 => 2
  | .asert => 3

/-- **The eras only move forward.** For any parameters, a greater next height selects an
algorithm of the same or a later era. The `int32` wrap is the exception: the next height after
a header at `2^31 - 1` is `-2^31`, and it selects the original retarget. -/
theorem selectAlgorithm_rank_mono (params : Params) :
    (∀ a b : Int, a ≤ b → (selectAlgorithm params a).rank ≤ (selectAlgorithm params b).rank) ∧
    selectAlgorithm params (wrap32 (2147483647 + 1)) = .legacy := by
  refine ⟨fun a b hab => ?_, ?_⟩
  · unfold selectAlgorithm
    split_ifs <;> simp only [Algorithm.rank] <;> omega
  · rw [show wrap32 (2147483647 + 1) = -2147483648 from rfl]
    unfold selectAlgorithm
    split_ifs <;> first | rfl | omega

/-- The round trip of a positive target stays positive: `1` is on the compact grid. -/
theorem roundTrip_pos {v : Int} (h1 : 1 ≤ v) (h2 : v < 2 ^ 256) :
    1 ≤ compactToBig (bigToCompact v) :=
  calc (1 : Int) = compactToBig (bigToCompact 1) := by decide
    _ ≤ compactToBig (bigToCompact v) := roundTrip_mono (by norm_num) h1 h2

/-- **ASERT never asks for an impossible target.** With `1 ≤ PowLimit < 2^256` and anchor
bits that decode to a non-negative target, every target ASERT returns decodes into
`[1, PowLimit]`, and `CalcWork` counts it for positive work. -/
theorem calcNextRequiredDifficultyASERT_floor {c : ChainCtx} {lastNode : HeaderCtx} {r : UInt32}
    (hpl : 1 ≤ c.chainParams.powLimit) (hpl' : c.chainParams.powLimit < 2 ^ 256)
    (hanchor : 0 ≤ compactToBig c.chainParams.asertAnchorBits)
    (h : calcNextRequiredDifficultyASERT lastNode c = .ok r) :
    (1 ≤ compactToBig r ∧ compactToBig r ≤ c.chainParams.powLimit) ∧ 0 < calcWork r := by
  obtain ⟨shifts, frac, rfl⟩ := calcNextRequiredDifficultyASERT_ok h
  have ht : 0 ≤ (compactToBig c.chainParams.asertAnchorBits * asertFactor frac) >>> (16 : Nat) := by
    rw [shiftRight_eq_ediv]
    exact Int.ediv_nonneg (Int.mul_nonneg hanchor (by omega)) (by positivity)
  obtain ⟨v, hv, h1, h2⟩ := asertShift_mem c.chainParams shifts ht hpl
  have hv' : v < 2 ^ 256 := h2.trans_lt hpl'
  have hlo := roundTrip_pos h1 hv'
  have hhi := (roundTrip_le (by omega) hv').trans h2
  rw [hv]
  exact ⟨⟨hlo, hhi⟩, calcWork_pos (by omega) (by omega)⟩

theorem calcNextRequiredDifficultyASERT_floor_halfLife :
    (1 ≤ mainNetCtx.chainParams.powLimit ∧ mainNetCtx.chainParams.powLimit < 2 ^ 256 ∧
      0 ≤ compactToBig mainNetCtx.chainParams.asertAnchorBits ∧
      calcNextRequiredDifficultyASERT ⟨asertTipNode, [asertAnchorNode, asertAnchorParentNode]⟩
        mainNetCtx = .ok 0x1d31ffce) ∧
    (1 ≤ compactToBig 0x1d31ffce ∧ compactToBig 0x1d31ffce ≤ mainNetCtx.chainParams.powLimit) ∧
      0 < calcWork 0x1d31ffce :=
  have hpl : 1 ≤ mainNetCtx.chainParams.powLimit ∧ mainNetCtx.chainParams.powLimit < 2 ^ 256 := by
    norm_num [mainNetCtx, mainNetParams, mainPowLimit]
  have hanchor : 0 ≤ compactToBig mainNetCtx.chainParams.asertAnchorBits := by decide
  have h : calcNextRequiredDifficultyASERT ⟨asertTipNode, [asertAnchorNode, asertAnchorParentNode]⟩
      mainNetCtx = .ok 0x1d31ffce := rfl
  ⟨⟨hpl.1, hpl.2, hanchor, h⟩, calcNextRequiredDifficultyASERT_floor hpl.1 hpl.2 hanchor h⟩

/-- At a whole number of half-lives the factor is `2^16` and the scaling is exact. -/
theorem asertScale_whole (s A : Int) :
    asertScale s (A * 65536) = if 0 ≤ s then A * 2 ^ s.toNat else A / 2 ^ (-s).toNat := by
  unfold asertScale
  split_ifs with hs
  · rw [show (2 : Int) ^ 16 = 65536 by norm_num, Int.mul_ediv_cancel _ (by norm_num)]
  · rw [show (16 - s).toNat = 16 + (-s).toNat by omega, pow_add,
      show (2 : Int) ^ 16 = 65536 by norm_num, mul_comm A, Int.mul_ediv_mul_of_pos _ _ (by norm_num)]

/-- **The target doubles with every half-life behind schedule.** When the tip is a whole
number `n` of half-lives behind the schedule counted from the anchor's parent (ahead when
`n < 0`), ASERT returns the anchor target times `2^n` exactly, the cubic contributing nothing,
clamped to `[1, PowLimit]`; from 256 half-lives on either side the early returns give
`PowLimit` and 1. -/
theorem calcNextRequiredDifficultyASERT_halfLives {lastNode anchor anchorParent : HeaderCtx}
    {c : ChainCtx} {n : Int}
    (hanchor : asertAnchor c.chainParams.asertHeight lastNode.node lastNode.ancestors = .ok anchor)
    (hparent : anchor.parent = some anchorParent)
    (hA : 0 ≤ compactToBig c.chainParams.asertAnchorBits) (hpl : 1 ≤ c.chainParams.powLimit)
    (hhl : 1 ≤ c.chainParams.asertHalfLife)
    (hdev : scheduleDeviation lastNode anchorParent c.chainParams = n * c.chainParams.asertHalfLife)
    (hfit : |n * c.chainParams.asertHalfLife| * 65536 < 2 ^ 63) (hn : |n| < 2 ^ 31) :
    calcNextRequiredDifficultyASERT lastNode c = .ok (bigToCompact
      (if 256 ≤ n then c.chainParams.powLimit else if n ≤ -256 then 1 else
        min c.chainParams.powLimit (max 1 (if 0 ≤ n
          then compactToBig c.chainParams.asertAnchorBits * 2 ^ n.toNat
          else compactToBig c.chainParams.asertAnchorBits / 2 ^ (-n).toNat)))) := by
  have hexp : asertExponent lastNode anchorParent c.chainParams = n * 65536 := by
    rw [asertExponent, hdev, mul_right_comm, Int.mul_tdiv_cancel _ (by omega)]
  have hn' := abs_lt.mp hn
  rw [calcNextRequiredDifficultyASERT_eq_clamp hanchor hparent hA hpl hhl (by rwa [hdev])
      (by rw [hexp]; exact abs_lt.mpr ⟨by omega, by omega⟩),
    hexp, Int.mul_ediv_cancel _ (by norm_num), Int.mul_emod_left, Int.toNat_zero,
    show asertFactor 0 = 65536 from rfl, Nat.cast_ofNat, asertClamp, asertScale_whole]

theorem calcNextRequiredDifficultyASERT_halfLives_one :
    (asertAnchor mainNetCtx.chainParams.asertHeight asertTipNode [asertAnchorNode, asertAnchorParentNode] =
        .ok ⟨asertAnchorNode, [asertAnchorParentNode]⟩ ∧
      HeaderCtx.parent ⟨asertAnchorNode, [asertAnchorParentNode]⟩ = some ⟨asertAnchorParentNode, []⟩ ∧
      0 ≤ compactToBig mainNetCtx.chainParams.asertAnchorBits ∧ 1 ≤ mainNetCtx.chainParams.powLimit ∧
      1 ≤ mainNetCtx.chainParams.asertHalfLife ∧
      scheduleDeviation ⟨asertTipNode, [asertAnchorNode, asertAnchorParentNode]⟩
        ⟨asertAnchorParentNode, []⟩ mainNetCtx.chainParams = 1 * mainNetCtx.chainParams.asertHalfLife ∧
      |1 * mainNetCtx.chainParams.asertHalfLife| * 65536 < 2 ^ 63 ∧ |(1 : Int)| < 2 ^ 31) ∧
    calcNextRequiredDifficultyASERT ⟨asertTipNode, [asertAnchorNode, asertAnchorParentNode]⟩
        mainNetCtx = .ok (bigToCompact (min mainNetCtx.chainParams.powLimit
          (max 1 (compactToBig mainNetCtx.chainParams.asertAnchorBits * 2)))) :=
  have hanchor : asertAnchor mainNetCtx.chainParams.asertHeight asertTipNode
      [asertAnchorNode, asertAnchorParentNode] = .ok ⟨asertAnchorNode, [asertAnchorParentNode]⟩ := rfl
  have hpl : 1 ≤ mainNetCtx.chainParams.powLimit := by norm_num [mainNetCtx, mainNetParams, mainPowLimit]
  have hdev : scheduleDeviation ⟨asertTipNode, [asertAnchorNode, asertAnchorParentNode]⟩
      ⟨asertAnchorParentNode, []⟩ mainNetCtx.chainParams = 1 * mainNetCtx.chainParams.asertHalfLife := by
    decide
  have hfit : |1 * mainNetCtx.chainParams.asertHalfLife| * 65536 < 2 ^ 63 := by decide
  have hparent : HeaderCtx.parent ⟨asertAnchorNode, [asertAnchorParentNode]⟩ =
      some ⟨asertAnchorParentNode, []⟩ := rfl
  ⟨⟨hanchor, hparent, by decide, hpl, by decide, hdev, hfit, by decide⟩,
    calcNextRequiredDifficultyASERT_halfLives hanchor hparent (by decide) hpl (by decide) hdev hfit
      (by decide)⟩

end Dsvd

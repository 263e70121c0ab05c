import Dsvd.Checkpoint.Easiest

/-! # The easiest difficulty grows with the duration

A longer time since the checkpoint never makes `calcEasiestDifficulty` stricter. Each round of
its loop scales a non-negative target by a factor of at least one, so the loop's result is at
least where it started; two runs from the same target with durations `d₁ ≤ d₂` take their
rounds together while the shorter one lasts, and the longer one can only go further. Each round
takes `maxRetargetTimespan ≥ 1` seconds off the duration, so one round more than the longer
duration has seconds lets both runs return. The cap at `PowLimit` and the compact encoding are
monotone, and the minimum-difficulty shortcut returns `PowLimitBits`, which is at least every
capped target when it decodes to at least the encoded `PowLimit`.
-/

namespace Dsvd

theorem seconds_mono {a b : Int} (h : a ≤ b) : seconds a ≤ seconds b :=
  tdiv_le_tdiv (by norm_num) h

namespace calcEasiestDifficulty

variable {c : ChainCtx} {adjustmentFactor : Int}

/-- The loop never lowers a non-negative target when the factor is at least one. -/
theorem le_loop (hf : 1 ≤ adjustmentFactor) :
    ∀ {fuel : Nat} {durationVal newTarget r : Int}, 0 ≤ newTarget →
      loop c adjustmentFactor fuel durationVal newTarget = some r → newTarget ≤ r
  | 0, _, _, _, _, h => by cases h
  | fuel + 1, _, newTarget, _, ht, h => by
    simp only [loop] at h
    split_ifs at h
    · have : newTarget ≤ newTarget * adjustmentFactor := le_mul_of_one_le_right ht hf
      exact this.trans (le_loop hf (ht.trans this) h)
    · exact (Option.some.inj h).le

/-- Two runs from one target: the longer duration ends at least as high below `PowLimit`. -/
theorem loop_mono (hf : 1 ≤ adjustmentFactor) (hmax : 1 ≤ c.maxRetargetTimespan) :
    ∀ {fuel : Nat} {d₁ d₂ newTarget r₁ r₂ : Int}, 0 ≤ newTarget → d₁ ≤ d₂ → d₂ < 2 ^ 63 →
      loop c adjustmentFactor fuel d₁ newTarget = some r₁ →
      loop c adjustmentFactor fuel d₂ newTarget = some r₂ →
      min c.chainParams.powLimit r₁ ≤ min c.chainParams.powLimit r₂
  | 0, _, _, _, _, _, _, _, _, h₁, _ => by cases h₁
  | fuel + 1, d₁, d₂, newTarget, _, _, ht, hd, hd₂, h₁, h₂ => by
    have hmax' := c.fixedWidth.2.2.2
    have hge := le_loop hf ht h₂
    simp only [loop] at h₁ h₂
    split_ifs at h₁ with hrun
    · rw [if_pos ⟨by omega, hrun.2⟩, wrap64_of_range (by omega) (by omega)] at h₂
      rw [wrap64_of_range (by omega) (by omega)] at h₁
      exact loop_mono hf hmax (Int.mul_nonneg ht (by omega)) (by omega) (by omega) h₁ h₂
    · rw [← Option.some.inj h₁]
      exact min_le_min_left _ hge

end calcEasiestDifficulty

/-- The value of the loop's branch of `calcEasiestDifficulty`: the capped loop result. -/
theorem calcEasiestDifficulty_loop_eq {c : ChainCtx} {bits : UInt32} {duration : Int} {fuel : Nat}
    {r : UInt32}
    (hred : ¬ (c.chainParams.reduceMinDifficulty ∧
      seconds duration > seconds c.chainParams.minDiffReductionTime))
    (h : calcEasiestDifficulty c bits duration fuel = some r) :
    ∃ v, calcEasiestDifficulty.loop c c.chainParams.retargetAdjustmentFactor fuel
      (seconds duration) (compactToBig bits) = some v ∧
      r = bigToCompact (min c.chainParams.powLimit v) := by
  simp only [calcEasiestDifficulty, if_neg hred] at h
  obtain ⟨v, hv, rfl⟩ := Option.map_eq_some'.mp h
  refine ⟨v, hv, congrArg _ ?_⟩
  simp only [min_def]
  split_ifs <;> omega

/-- Two runs that returned, whatever fuel each needed: the longer duration's bound is at least
the shorter's. -/
theorem calcEasiestDifficulty_le {c : ChainCtx} {bits : UInt32} {d₁ d₂ : Int}
    {fuel₁ fuel₂ : Nat} {r₁ r₂ : UInt32}
    (hf : 1 ≤ c.chainParams.retargetAdjustmentFactor) (hmax : 1 ≤ c.maxRetargetTimespan)
    (hpl : 0 ≤ c.chainParams.powLimit ∧ c.chainParams.powLimit < 2 ^ 256)
    (hbits : 0 ≤ compactToBig bits)
    (hmin : c.chainParams.reduceMinDifficulty →
      compactToBig (bigToCompact c.chainParams.powLimit) ≤ compactToBig c.chainParams.powLimitBits)
    (hd : d₁ ≤ d₂) (hd₂ : IsInt64 d₂)
    (h₁ : calcEasiestDifficulty c bits d₁ fuel₁ = some r₁)
    (h₂ : calcEasiestDifficulty c bits d₂ fuel₂ = some r₂) :
    compactToBig r₁ ≤ compactToBig r₂ := by
  have hs := seconds_mono hd
  by_cases hred₂ : c.chainParams.reduceMinDifficulty ∧
      seconds d₂ > seconds c.chainParams.minDiffReductionTime
  · simp only [calcEasiestDifficulty, if_pos hred₂, Option.some.injEq] at h₂
    subst h₂
    by_cases hred₁ : c.chainParams.reduceMinDifficulty ∧
        seconds d₁ > seconds c.chainParams.minDiffReductionTime
    · simp only [calcEasiestDifficulty, if_pos hred₁, Option.some.injEq] at h₁
      rw [h₁]
    · obtain ⟨v, hv, rfl⟩ := calcEasiestDifficulty_loop_eq hred₁ h₁
      exact (roundTrip_mono (le_min hpl.1 (hbits.trans (calcEasiestDifficulty.le_loop hf hbits hv)))
        (min_le_left _ _) hpl.2).trans (hmin hred₂.1)
  · have hred₁ : ¬ (c.chainParams.reduceMinDifficulty ∧
        seconds d₁ > seconds c.chainParams.minDiffReductionTime) :=
      fun h => hred₂ ⟨h.1, by omega⟩
    obtain ⟨v₁, hl₁, rfl⟩ := calcEasiestDifficulty_loop_eq hred₁ h₁
    obtain ⟨v₂, hl₂, rfl⟩ := calcEasiestDifficulty_loop_eq hred₂ h₂
    have hmono := calcEasiestDifficulty.loop_mono hf hmax hbits hs (isInt64_seconds hd₂).2
      (calcEasiestDifficulty.loop_add_fuel fuel₂ hl₁)
      (Nat.add_comm fuel₂ fuel₁ ▸ calcEasiestDifficulty.loop_add_fuel fuel₁ hl₂)
    exact roundTrip_mono (le_min hpl.1 (hbits.trans (calcEasiestDifficulty.le_loop hf hbits hl₁)))
      hmono ((min_le_left _ _).trans_lt hpl.2)

/-- **A longer duration never gives a stricter bound.** With a factor of at least one, a
positive `maxRetargetTimespan`, `0 ≤ PowLimit < 2^256` and starting bits that decode to a
non-negative target, take an `int64` duration `d₂` and any `d₁ ≤ d₂`. Given one more round of
fuel than `d₂` has seconds, `calcEasiestDifficulty` returns for both, and the target it
allows after `d₁` is at most the one it allows after `d₂`; the order holds too between any two
runs that returned, whatever fuel each needed. Under the minimum-difficulty rule this needs
`PowLimitBits` to decode to at least the encoded `PowLimit`. -/
theorem calcEasiestDifficulty_mono {c : ChainCtx} {bits : UInt32} {d₁ d₂ : Int}
    (hf : 1 ≤ c.chainParams.retargetAdjustmentFactor) (hmax : 1 ≤ c.maxRetargetTimespan)
    (hpl : 0 ≤ c.chainParams.powLimit ∧ c.chainParams.powLimit < 2 ^ 256)
    (hbits : 0 ≤ compactToBig bits)
    (hmin : c.chainParams.reduceMinDifficulty →
      compactToBig (bigToCompact c.chainParams.powLimit) ≤ compactToBig c.chainParams.powLimitBits)
    (hd : d₁ ≤ d₂) (hd₂ : IsInt64 d₂) :
    (∀ fuel : Nat, (seconds d₂).toNat < fuel → ∃ r₁ r₂,
      calcEasiestDifficulty c bits d₁ fuel = some r₁ ∧
      calcEasiestDifficulty c bits d₂ fuel = some r₂ ∧ compactToBig r₁ ≤ compactToBig r₂) ∧
    ∀ {fuel₁ fuel₂ : Nat} {r₁ r₂ : UInt32}, calcEasiestDifficulty c bits d₁ fuel₁ = some r₁ →
      calcEasiestDifficulty c bits d₂ fuel₂ = some r₂ → compactToBig r₁ ≤ compactToBig r₂ := by
  refine ⟨fun fuel hfuel => ?_, calcEasiestDifficulty_le hf hmax hpl hbits hmin hd hd₂⟩
  have hs := seconds_mono hd
  have hs₂ := (isInt64_seconds hd₂).2
  obtain ⟨r₁, h₁⟩ := Option.isSome_iff_exists.mp
    (calcEasiestDifficulty_isSome hmax bits (by omega) (show (seconds d₁).toNat < fuel by omega))
  obtain ⟨r₂, h₂⟩ := Option.isSome_iff_exists.mp (calcEasiestDifficulty_isSome hmax bits hs₂ hfuel)
  exact ⟨r₁, r₂, h₁, h₂, calcEasiestDifficulty_le hf hmax hpl hbits hmin hd hd₂ h₁ h₂⟩

theorem calcEasiestDifficulty_mono_smallCtx :
    (1 ≤ (smallCtx mainPowLimit).chainParams.retargetAdjustmentFactor ∧
      1 ≤ (smallCtx mainPowLimit).maxRetargetTimespan ∧
      (0 ≤ mainPowLimit ∧ mainPowLimit < 2 ^ 256) ∧ 0 ≤ compactToBig 0x1d00ffff ∧
      (smallCtx mainPowLimit).chainParams.reduceMinDifficulty = false ∧
      600 * second ≤ 3000 * second ∧ IsInt64 (3000 * second)) ∧
    (∀ fuel : Nat, (seconds (3000 * second)).toNat < fuel → ∃ r₁ r₂,
      calcEasiestDifficulty (smallCtx mainPowLimit) 0x1d00ffff (600 * second) fuel = some r₁ ∧
      calcEasiestDifficulty (smallCtx mainPowLimit) 0x1d00ffff (3000 * second) fuel = some r₂ ∧
      compactToBig r₁ ≤ compactToBig r₂) ∧
    ∀ {fuel₁ fuel₂ : Nat} {r₁ r₂ : UInt32},
      calcEasiestDifficulty (smallCtx mainPowLimit) 0x1d00ffff (600 * second) fuel₁ = some r₁ →
      calcEasiestDifficulty (smallCtx mainPowLimit) 0x1d00ffff (3000 * second) fuel₂ = some r₂ →
      compactToBig r₁ ≤ compactToBig r₂ :=
  have hpl : 0 ≤ mainPowLimit ∧ mainPowLimit < 2 ^ 256 := by norm_num [mainPowLimit]
  ⟨⟨by decide, by decide, hpl, by decide, rfl, by decide, by decide⟩,
    calcEasiestDifficulty_mono (by decide) (by decide) hpl (by decide)
      (fun h => absurd h (by decide)) (by decide) (by decide)⟩

end Dsvd

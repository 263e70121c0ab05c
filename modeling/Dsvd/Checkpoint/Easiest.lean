import Dsvd.Bounds.Step

/-! # The easiest difficulty after a checkpoint

`calcEasiestDifficulty` bounds the target a block can claim a given duration after a known
good header: one factor of `RetargetAdjustmentFactor` for each `maxRetargetTimespan` of the
duration, capped at `PowLimit`. That is the reach of the original retarget. The loop stops
once the duration is used up or the target reaches `PowLimit`; with a positive
`maxRetargetTimespan` it runs at most once per second of the duration, and more rounds of
fuel do not change its result.
-/

namespace Dsvd

/-- The loop of `calcEasiestDifficulty`: while time is left and the target is below
`PowLimit`, scale by the adjustment factor and take `maxRetargetTimespan` off the duration.
The loop need not stop when `maxRetargetTimespan ≤ 0`; `none` means it ran for more than
`fuel` rounds. -/
def calcEasiestDifficulty.loop (c : ChainCtx) (adjustmentFactor : Int) :
    Nat → Int → Int → Option Int
  | 0, _, _ => none
  | fuel + 1, durationVal, newTarget =>
    if durationVal > 0 ∧ newTarget < c.chainParams.powLimit then
      loop c adjustmentFactor fuel (wrap64 (durationVal - c.maxRetargetTimespan))
        (newTarget * adjustmentFactor)
    else some newTarget

/-- `calcEasiestDifficulty`, with at most `fuel` rounds of its loop. -/
def calcEasiestDifficulty (c : ChainCtx) (bits : UInt32) (duration : Int) (fuel : Nat) :
    Option UInt32 :=
  let params := c.chainParams
  let durationVal := seconds duration
  let adjustmentFactor := params.retargetAdjustmentFactor
  if params.reduceMinDifficulty ∧ durationVal > seconds params.minDiffReductionTime then
    some params.powLimitBits
  else
    (calcEasiestDifficulty.loop c adjustmentFactor fuel durationVal (compactToBig bits)).map
      fun newTarget =>
        bigToCompact (if newTarget > params.powLimit then params.powLimit else newTarget)

namespace calcEasiestDifficulty

variable {c : ChainCtx} {adjustmentFactor : Int}

/-- With a positive `maxRetargetTimespan` the loop runs at most once per second of an
`int64` duration. -/
theorem loop_isSome (hmax : 1 ≤ c.maxRetargetTimespan) :
    ∀ (fuel : Nat) (durationVal newTarget : Int), durationVal < 2 ^ 63 →
      durationVal.toNat < fuel → (loop c adjustmentFactor fuel durationVal newTarget).isSome
  | 0, _, _, _, hfuel => absurd hfuel (Nat.not_lt_zero _)
  | fuel + 1, durationVal, newTarget, hd, hfuel => by
    have hmax' := c.fixedWidth.2.2.2
    simp only [loop]
    split_ifs with hrun
    · rw [wrap64_of_range (by omega) (by omega)]
      exact loop_isSome hmax fuel _ _ (by omega) (by omega)
    · rfl

/-- More fuel does not change a result the loop has reached. -/
theorem loop_add_fuel {durationVal newTarget r : Int} (k : Nat) :
    ∀ {fuel : Nat}, loop c adjustmentFactor fuel durationVal newTarget = some r →
      loop c adjustmentFactor (fuel + k) durationVal newTarget = some r := by
  intro fuel
  induction fuel generalizing durationVal newTarget with
  | zero => intro h; cases h
  | succ fuel ih =>
    intro h
    rw [Nat.add_right_comm]
    simp only [loop] at h ⊢
    split_ifs at h ⊢
    · exact ih h
    · exact h

end calcEasiestDifficulty

/-- With a positive `maxRetargetTimespan`, `calcEasiestDifficulty` returns for a duration of
fewer than `2^63` seconds given one more round of fuel than the duration has seconds. -/
theorem calcEasiestDifficulty_isSome {c : ChainCtx} (hmax : 1 ≤ c.maxRetargetTimespan)
    (bits : UInt32) {duration : Int} (hs : seconds duration < 2 ^ 63) {fuel : Nat}
    (hfuel : (seconds duration).toNat < fuel) :
    (calcEasiestDifficulty c bits duration fuel).isSome := by
  simp only [calcEasiestDifficulty]
  split_ifs
  · rfl
  · rw [Option.isSome_map']
    exact calcEasiestDifficulty.loop_isSome hmax _ _ _ (by omega) hfuel

/-! ## LWMA eases faster than the bound

A chain with LWMA from height 1 over a window of three, `T = 150 s` and
`maxRetargetTimespan = 600 s * 4`: three headers `6T` apart keep the first header's bits
while the window fills, and the header one second after the third eases by six at once. -/

/-- The first header, with target `2^16`. -/
def slowFirstNode : BlockNode := { height := 0, timestamp := 0, bits := 0x03010000 }
/-- The second header, `6T` later. -/
def slowNode1 : BlockNode := { height := 1, timestamp := 900, bits := 0x03010000 }
/-- The third header, `6T` later. -/
def slowNode2 : BlockNode := { height := 2, timestamp := 1800, bits := 0x03010000 }
/-- The fourth header, `6T` later: the starting point of the bound. -/
def checkpointNode : BlockNode := { height := 3, timestamp := 2700, bits := 0x03010000 }
/-- One second after `checkpointNode`: the first full window, six times the target. -/
def easedNode : BlockNode := { height := 4, timestamp := 2701, bits := 0x03060000 }

/-- The five headers, each appended with the bits the dispatcher returns for it. -/
def slowChain : HeaderCtx :=
  ((((⟨slowFirstNode, []⟩ : HeaderCtx).child slowNode1).child slowNode2).child
    checkpointNode).child easedNode

/-- One second after `checkpointNode`, the easiest target `calcEasiestDifficulty` allows is
four times its target, while the chain's next header, built by the retarget rules, carries
six times that target. -/
theorem calcEasiestDifficulty_below_lwma_step :
    Built (smallLwmaCtx mainPowLimit) slowFirstNode slowChain ∧
      (smallLwmaCtx mainPowLimit).maxRetargetTimespan =
        seconds (smallLwmaParams mainPowLimit).targetTimespan *
          (smallLwmaParams mainPowLimit).retargetAdjustmentFactor ∧
      0 < compactToBig checkpointNode.bits ∧ compactToBig checkpointNode.bits ≤ mainPowLimit ∧
      calcEasiestDifficulty (smallLwmaCtx mainPowLimit) checkpointNode.bits
        ((easedNode.timestamp - checkpointNode.timestamp) * second) 2 = some 0x03040000 ∧
      compactToBig 0x03040000 < compactToBig easedNode.bits :=
  ⟨.child _ (.child _ (.child _ (.child _ .genesis rfl) rfl) rfl) rfl, rfl, by decide,
    by decide, rfl, by decide⟩

end Dsvd

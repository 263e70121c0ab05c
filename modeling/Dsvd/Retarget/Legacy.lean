import Dsvd.Compact.Codec
import Dsvd.Chain.Header

/-! # The original BTC-style retarget

Off a retarget boundary the next block keeps its parent's bits, except on networks that
allow minimum-difficulty blocks. On a boundary the old target is scaled by the window's
timespan, clamped to `[MinRetargetTimespan, MaxRetargetTimespan]`, and capped at
`PowLimit`. The window walks back `BlocksPerRetarget` blocks, or one block less at the
first retarget.
-/

namespace Dsvd

/-- The search of `findPrevTestNetDifficulty` over the headers from `iterNode` back: skip
headers off a retarget boundary that carry the minimum difficulty. -/
def findPrevTestNetDifficulty.walk (c : ChainCtx) : List BlockNode → Except GoError UInt32
  | [] => .ok c.chainParams.powLimitBits
  | iterNode :: rest => do
    let offset ← rem32 iterNode.height c.blocksPerRetarget
    if offset ≠ 0 ∧ iterNode.bits = c.chainParams.powLimitBits then walk c rest
    else .ok iterNode.bits

/-- `findPrevTestNetDifficulty`: the bits of the last block without the special testnet
minimum-difficulty rule applied. -/
def findPrevTestNetDifficulty (startNode : HeaderCtx) (c : ChainCtx) : Except GoError UInt32 :=
  findPrevTestNetDifficulty.walk c startNode.nodes

/-- `adjustedTimespan`: the actual timespan clamped to the retarget limits. -/
def clampTimespan (c : ChainCtx) (actualTimespan : Int) : Int :=
  if actualTimespan < c.minRetargetTimespan then c.minRetargetTimespan
  else if actualTimespan > c.maxRetargetTimespan then c.maxRetargetTimespan
  else actualTimespan

/-- The window length of a retarget: `BlocksPerRetarget`, or one less at the first one. -/
def retargetWindow (lastNode : HeaderCtx) (c : ChainCtx) : Int :=
  if wrap32 (lastNode.node.height + 1) ≠ c.blocksPerRetarget then c.blocksPerRetarget
  else wrap32 (c.blocksPerRetarget - 1)

/-- The original BTC-style branch of `calcNextRequiredDifficulty`, taken below every
enabled LWMA, LWMAv2 and ASERT activation height. -/
def calcNextRequiredDifficultyLegacy (lastNode : HeaderCtx) (newBlockTime : Int)
    (c : ChainCtx) : Except GoError UInt32 := do
  let params := c.chainParams
  let offset ← rem32 (wrap32 (lastNode.node.height + 1)) c.blocksPerRetarget
  if offset ≠ 0 then
    if params.reduceMinDifficulty then
      let reductionTime := seconds params.minDiffReductionTime
      let allowMinTime := wrap64 (lastNode.node.timestamp + reductionTime)
      if newBlockTime > allowMinTime then pure params.powLimitBits
      else findPrevTestNetDifficulty lastNode c
    else pure lastNode.node.bits
  else
    match lastNode.relativeAncestorCtx (retargetWindow lastNode c) with
    | none => throw (.assertError "unable to obtain previous retarget block")
    | some firstNode => do
      let actualTimespan := wrap64 (lastNode.node.timestamp - firstNode.node.timestamp)
      let adjustedTimespan := clampTimespan c actualTimespan
      let oldTarget := compactToBig lastNode.node.bits
      let newTarget ← bigDiv (oldTarget * adjustedTimespan) (seconds params.targetTimespan)
      let newTarget := if newTarget > params.powLimit then params.powLimit else newTarget
      pure (bigToCompact newTarget)

/-! ## What a legacy step returns -/

variable {c : ChainCtx} {lastNode : HeaderCtx} {newBlockTime : Int} {r : UInt32}

theorem findPrevTestNetDifficulty_walk_ok {nodes : List BlockNode}
    (h : findPrevTestNetDifficulty.walk c nodes = .ok r) :
    r = c.chainParams.powLimitBits ∨ ∃ n ∈ nodes, r = n.bits := by
  induction nodes with
  | nil => exact .inl (Except.ok.inj h).symm
  | cons n rest ih =>
    obtain ⟨offset, -, h⟩ := bind_eq_ok.mp h
    split at h
    · rcases ih h with h | ⟨m, hm, rfl⟩
      · exact .inl h
      · exact .inr ⟨m, List.mem_cons_of_mem _ hm, rfl⟩
    · exact .inr ⟨n, List.mem_cons_self _ _, (Except.ok.inj h).symm⟩

theorem findPrevTestNetDifficulty_walk_eq_ok (hb : c.blocksPerRetarget ≠ 0)
    (nodes : List BlockNode) : ∃ r, findPrevTestNetDifficulty.walk c nodes = .ok r := by
  induction nodes with
  | nil => exact ⟨_, rfl⟩
  | cons n rest ih =>
    simp only [findPrevTestNetDifficulty.walk, rem32_ok hb, ok_bind]
    split
    · exact ih
    · exact ⟨_, rfl⟩

theorem clampTimespan_mem (c : ChainCtx) (h : c.minRetargetTimespan ≤ c.maxRetargetTimespan)
    (actualTimespan : Int) :
    c.minRetargetTimespan ≤ clampTimespan c actualTimespan ∧
      clampTimespan c actualTimespan ≤ c.maxRetargetTimespan := by
  unfold clampTimespan; split_ifs <;> omega

theorem clampTimespan_nonneg {c : ChainCtx} (hmin : 0 ≤ c.minRetargetTimespan)
    (hmax : 0 ≤ c.maxRetargetTimespan) (actualTimespan : Int) :
    0 ≤ clampTimespan c actualTimespan := by
  unfold clampTimespan; split_ifs <;> omega

theorem clampTimespan_mono (c : ChainCtx) (h : c.minRetargetTimespan ≤ c.maxRetargetTimespan)
    {a b : Int} (hab : a ≤ b) :
    clampTimespan c a ≤ clampTimespan c b := by
  unfold clampTimespan; split_ifs <;> omega

/-- The retarget at a boundary, given the window's first header. -/
def legacyTarget (c : ChainCtx) (lastNode firstNode : HeaderCtx) : Int :=
  let newTarget := compactToBig lastNode.node.bits *
    clampTimespan c (wrap64 (lastNode.node.timestamp - firstNode.node.timestamp)) /
    seconds c.chainParams.targetTimespan
  if newTarget > c.chainParams.powLimit then c.chainParams.powLimit else newTarget

theorem legacyTarget_eq (c : ChainCtx) (lastNode firstNode : HeaderCtx) :
    legacyTarget c lastNode firstNode = min c.chainParams.powLimit
      (compactToBig lastNode.node.bits *
        clampTimespan c (wrap64 (lastNode.node.timestamp - firstNode.node.timestamp)) /
        seconds c.chainParams.targetTimespan) :=
  ite_gt_eq_min

theorem legacyTarget_nonneg {lastNode firstNode : HeaderCtx} (hmin : 0 ≤ c.minRetargetTimespan)
    (hmax : 0 ≤ c.maxRetargetTimespan) (htt : 0 ≤ seconds c.chainParams.targetTimespan)
    (hpl : 0 ≤ c.chainParams.powLimit) (hold : 0 ≤ compactToBig lastNode.node.bits) :
    0 ≤ legacyTarget c lastNode firstNode := by
  rw [legacyTarget_eq]
  exact le_min hpl (Int.ediv_nonneg (Int.mul_nonneg hold (clampTimespan_nonneg hmin hmax _)) htt)

theorem legacyTarget_le (c : ChainCtx) (lastNode firstNode : HeaderCtx) :
    legacyTarget c lastNode firstNode ≤ c.chainParams.powLimit :=
  (legacyTarget_eq c lastNode firstNode).trans_le (min_le_left _ _)

/-- The retarget is monotone in the actual timespan of its window. -/
theorem legacyTarget_mono {lastNode firstNode lastNode' firstNode' : HeaderCtx}
    (hminmax : c.minRetargetTimespan ≤ c.maxRetargetTimespan)
    (htt : 0 < seconds c.chainParams.targetTimespan) (hold : 0 ≤ compactToBig lastNode.node.bits)
    (hbits : lastNode.node.bits = lastNode'.node.bits)
    (hactual : wrap64 (lastNode.node.timestamp - firstNode.node.timestamp) ≤
      wrap64 (lastNode'.node.timestamp - firstNode'.node.timestamp)) :
    legacyTarget c lastNode firstNode ≤ legacyTarget c lastNode' firstNode' := by
  rw [legacyTarget_eq, legacyTarget_eq, ← hbits]
  exact min_le_min_left _ (Int.ediv_le_ediv htt
    (Int.mul_le_mul_of_nonneg_left (clampTimespan_mono c hminmax hactual) hold))

/-- Everything a successful legacy step can return. -/
theorem calcNextRequiredDifficultyLegacy_ok
    (h : calcNextRequiredDifficultyLegacy lastNode newBlockTime c = .ok r) :
    c.blocksPerRetarget ≠ 0 ∧
    ((wrap32 (lastNode.node.height + 1)).tmod c.blocksPerRetarget ≠ 0 ∧
      ((c.chainParams.reduceMinDifficulty = false ∧ r = lastNode.node.bits) ∨
        (c.chainParams.reduceMinDifficulty = true ∧
          (r = c.chainParams.powLimitBits ∨ ∃ n ∈ lastNode.nodes, r = n.bits))) ∨
    (wrap32 (lastNode.node.height + 1)).tmod c.blocksPerRetarget = 0 ∧
      ∃ firstNode, lastNode.relativeAncestorCtx (retargetWindow lastNode c) = some firstNode ∧
        seconds c.chainParams.targetTimespan ≠ 0 ∧
        r = bigToCompact (legacyTarget c lastNode firstNode)) := by
  obtain ⟨offset, hoff, h⟩ := bind_eq_ok.mp h
  have hb : c.blocksPerRetarget ≠ 0 := by
    rintro hb; simp [rem32, hb] at hoff
  rw [rem32_ok hb] at hoff
  obtain rfl := (Except.ok.inj hoff).symm
  refine ⟨hb, ?_⟩
  split at h
  next hoff =>
    refine .inl ⟨hoff, ?_⟩
    split at h
    next hred =>
      refine .inr ⟨hred, ?_⟩
      dsimp only at h
      split at h
      · exact .inl (Except.ok.inj h).symm
      · exact findPrevTestNetDifficulty_walk_ok h
    next hred => exact .inl ⟨by simpa using hred, (Except.ok.inj h).symm⟩
  next hoff =>
    refine .inr ⟨by simpa using hoff, ?_⟩
    split at h
    · cases h
    next firstNode hfirst =>
      obtain ⟨q, hq, h⟩ := bind_eq_ok.mp h
      have htt : seconds c.chainParams.targetTimespan ≠ 0 := by
        rintro htt; simp [htt] at hq
      rw [bigDiv_ok htt] at hq
      obtain rfl := (Except.ok.inj hq).symm
      exact ⟨firstNode, hfirst, htt, (Except.ok.inj h).symm⟩

end Dsvd

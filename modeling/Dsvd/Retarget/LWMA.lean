import Dsvd.Compact.Codec
import Mathlib.Tactic.Linarith
import Mathlib.Tactic.Ring
import Dsvd.Chain.Header

/-! # LWMA and LWMAv2

Both versions weight the solvetimes of the last `blocks` blocks linearly, the most recent
heaviest, with every solvetime clamped to `[1, 6T]`; they scale a reference target by the
ratio of the weighted sum to its expected value `T * sumWeights`, after capping that ratio
symmetrically. LWMA takes the previous block's target and caps at 10; LWMAv2 takes the
target of the block at the start of the window and caps at 3. The sums are `int64`.
-/

namespace Dsvd

/-- `blocks`: the distance from the original LWMA activation, capped at `LWMAWindow`. -/
def lwmaBlocks (lastNode : HeaderCtx) (params : Params) : Int :=
  let height := lastNode.node.height + 1
  let blocks := wrap64 (height - params.lwmaHeight)
  if blocks > params.lwmaWindow then params.lwmaWindow else blocks

/-- A solvetime clamped to `[1, 6T]`. -/
def clampSolvetime (T solvetime : Int) : Int :=
  let solvetime := if solvetime < 1 then 1 else solvetime
  if solvetime > 6 * T then 6 * T else solvetime

/-- The solvetime loop of LWMA and LWMAv2, from weight `i` down to 1 and from `block` back
through its ancestors, stopping early at the first header: the pair
`(sumWeightedSolvetimes, sumWeights)`. -/
def lwmaSums (T : Int) : Int → BlockNode → List BlockNode → Int × Int → Int × Int
  | _, _, [], acc => acc
  | i, block, prev :: rest, (sumWeightedSolvetimes, sumWeights) =>
    if i ≥ 1 then
      let solvetime := clampSolvetime T (wrap64 (block.timestamp - prev.timestamp))
      lwmaSums T (i - 1) prev rest
        (wrap64 (sumWeightedSolvetimes + wrap64 (solvetime * i)), wrap64 (sumWeights + i))
    else (sumWeightedSolvetimes, sumWeights)

/-- The common tail of LWMA and LWMAv2: `referenceTarget` times the weighted solvetimes
capped to `[expected / capFactor, expected * capFactor]`, over their expected value. -/
def lwmaNextTarget (lastNode : HeaderCtx) (params : Params) (blocks referenceTarget capFactor : Int) :
    Except GoError UInt32 := do
  let T := params.secondsPerBlock
  let sums := lwmaSums T blocks lastNode.node lastNode.ancestors (0, 0)
  let expectedWeightedSolvetimes := wrap64 (sums.2 * T)
  let minWS := expectedWeightedSolvetimes.tdiv capFactor
  let maxWS := wrap64 (expectedWeightedSolvetimes * capFactor)
  let sumWeightedSolvetimes := if sums.1 < minWS then minWS else sums.1
  let sumWeightedSolvetimes :=
    if sumWeightedSolvetimes > maxWS then maxWS else sumWeightedSolvetimes
  let nextTarget ← bigDiv (referenceTarget * sumWeightedSolvetimes) expectedWeightedSolvetimes
  let nextTarget := if nextTarget > params.powLimit then params.powLimit else nextTarget
  pure (bigToCompact nextTarget)

/-- `calcNextRequiredDifficultyLWMA`. -/
def calcNextRequiredDifficultyLWMA (lastNode : HeaderCtx) (c : ChainCtx) :
    Except GoError UInt32 :=
  let blocks := lwmaBlocks lastNode c.chainParams
  if blocks < 3 then .ok lastNode.node.bits
  else lwmaNextTarget lastNode c.chainParams blocks (compactToBig lastNode.node.bits) 10

/-- The window-start walk of LWMAv2: up to `blocks` parents back, stopping at the first
header. -/
def windowStart : Nat → BlockNode → List BlockNode → BlockNode
  | 0, block, _ => block
  | _ + 1, block, [] => block
  | k + 1, _, prev :: rest => windowStart k prev rest

/-- `calcNextRequiredDifficultyLWMAv2`. -/
def calcNextRequiredDifficultyLWMAv2 (lastNode : HeaderCtx) (c : ChainCtx) :
    Except GoError UInt32 :=
  let blocks := lwmaBlocks lastNode c.chainParams
  if blocks < 3 then .ok lastNode.node.bits
  else
    let referenceTarget :=
      compactToBig (windowStart blocks.toNat lastNode.node lastNode.ancestors).bits
    lwmaNextTarget lastNode c.chainParams blocks referenceTarget 3

/-! ## The loop in exact arithmetic -/

/-- The sum of the weights the solvetime loop adds: `i, i - 1, ...`, one for each parent it
reaches while the weight is at least 1. -/
def lwmaSumWeights : Int → List BlockNode → Int
  | _, [] => 0
  | i, _ :: rest => if i ≥ 1 then i + lwmaSumWeights (i - 1) rest else 0

/-- The weighted sum of the clamped solvetimes, without `int64` wrapping of the sum. -/
def lwmaWeightedSolvetimes (T : Int) : Int → BlockNode → List BlockNode → Int
  | _, _, [] => 0
  | i, block, prev :: rest =>
    if i ≥ 1 then
      clampSolvetime T (wrap64 (block.timestamp - prev.timestamp)) * i +
        lwmaWeightedSolvetimes T (i - 1) prev rest
    else 0

/-- The LWMA target in exact arithmetic: the reference target scaled by the weighted
solvetimes, capped to `[expected / capFactor, expected * capFactor]`, over `expected`. -/
def lwmaTarget (referenceTarget expected weighted capFactor : Int) : Int :=
  referenceTarget * min (expected * capFactor) (max (expected / capFactor) weighted) / expected

/-- The `int64` sums of LWMA cannot overflow: `60 * T * N * (N + 1) < 2^63`. -/
def LwmaNoOverflow (params : Params) : Prop :=
  60 * params.secondsPerBlock * params.lwmaWindow * (params.lwmaWindow + 1) < 2 ^ 63

section Exact

variable {T : Int}

theorem clampSolvetime_eq (T solvetime : Int) :
    clampSolvetime T solvetime = min (6 * T) (max 1 solvetime) := by
  simp only [clampSolvetime, ite_lt_eq_max, ite_gt_eq_min]

theorem clampSolvetime_mem (hT : 1 ≤ T) (solvetime : Int) :
    1 ≤ clampSolvetime T solvetime ∧ clampSolvetime T solvetime ≤ 6 * T := by
  rw [clampSolvetime_eq]; omega

theorem clampSolvetime_mono (T : Int) {s s' : Int} (h : s ≤ s') :
    clampSolvetime T s ≤ clampSolvetime T s' := by
  rw [clampSolvetime_eq, clampSolvetime_eq]
  exact min_le_min_left _ (max_le_max_left _ h)

theorem lwmaSumWeights_nonneg (i : Int) (prevs : List BlockNode) : 0 ≤ lwmaSumWeights i prevs := by
  induction prevs generalizing i with
  | nil => exact le_rfl
  | cons _ rest ih =>
    unfold lwmaSumWeights
    split_ifs
    · have := ih (i - 1); omega
    · exact le_rfl

theorem two_mul_lwmaSumWeights_le {i : Int} (hi : 0 ≤ i) (prevs : List BlockNode) :
    2 * lwmaSumWeights i prevs ≤ i * (i + 1) := by
  induction prevs generalizing i with
  | nil => exact Int.mul_nonneg hi (by omega)
  | cons _ rest ih =>
    unfold lwmaSumWeights
    split_ifs with h
    · linarith [ih (show 0 ≤ i - 1 by omega)]
    · exact Int.mul_nonneg hi (by omega)

/-- Every solvetime lies in `[1, 6T]`, so the weighted sum lies in `[S, 6T * S]`. -/
theorem lwmaWeightedSolvetimes_mem (hT : 1 ≤ T) (i : Int) (block : BlockNode)
    (prevs : List BlockNode) :
    lwmaSumWeights i prevs ≤ lwmaWeightedSolvetimes T i block prevs ∧
      lwmaWeightedSolvetimes T i block prevs ≤ 6 * T * lwmaSumWeights i prevs := by
  induction prevs generalizing i block with
  | nil => simp [lwmaSumWeights, lwmaWeightedSolvetimes]
  | cons prev rest ih =>
    unfold lwmaSumWeights lwmaWeightedSolvetimes
    split_ifs with hi
    · obtain ⟨h1, h6⟩ := clampSolvetime_mem hT (wrap64 (block.timestamp - prev.timestamp))
      obtain ⟨ih1, ih6⟩ := ih (i - 1) prev
      have hi0 : 0 ≤ i := by omega
      have := Int.mul_le_mul_of_nonneg_right h1 hi0
      have := Int.mul_le_mul_of_nonneg_right h6 hi0
      constructor <;> linarith
    · simp

/-- Without overflow, the `int64` loop adds up the exact sums. -/
theorem lwmaSums_eq (hT : 1 ≤ T) (i : Int) (block : BlockNode) (prevs : List BlockNode)
    {x y : Int} (hx : 0 ≤ x) (hy : 0 ≤ y)
    (hW : x + lwmaWeightedSolvetimes T i block prevs < 2 ^ 63)
    (hS : y + lwmaSumWeights i prevs < 2 ^ 63) :
    lwmaSums T i block prevs (x, y) =
      (x + lwmaWeightedSolvetimes T i block prevs, y + lwmaSumWeights i prevs) := by
  induction prevs generalizing i block x y with
  | nil => simp [lwmaSums, lwmaWeightedSolvetimes, lwmaSumWeights]
  | cons prev rest ih =>
    simp only [lwmaSums, lwmaWeightedSolvetimes, lwmaSumWeights] at hW hS ⊢
    split_ifs at hW hS ⊢ with hi
    · have h1 := (clampSolvetime_mem hT (wrap64 (block.timestamp - prev.timestamp))).1
      set st := clampSolvetime T (wrap64 (block.timestamp - prev.timestamp))
      have hrest := (lwmaWeightedSolvetimes_mem hT (i - 1) prev rest).1
      have hrest' := lwmaSumWeights_nonneg (i - 1) rest
      have hst : 0 ≤ st * i := Int.mul_nonneg (by omega) (by omega)
      simp (disch := omega) only [wrap64_of_range]
      rw [@ih (i - 1) prev (x + st * i) (y + i) (by omega) (by omega) (by omega) (by omega)]
      simp only [Prod.mk.injEq]
      constructor <;> ring
    · simp

end Exact

theorem lwmaBlocks_le (lastNode : HeaderCtx) (params : Params) :
    lwmaBlocks lastNode params ≤ params.lwmaWindow := by
  simp only [lwmaBlocks]; split_ifs <;> omega

theorem lwmaSumWeights_pos {i : Int} (hi : 1 ≤ i) (prev : BlockNode) (rest : List BlockNode) :
    1 ≤ lwmaSumWeights i (prev :: rest) := by
  have := lwmaSumWeights_nonneg (i - 1) rest
  simp only [lwmaSumWeights, if_pos hi]; omega

/-- Under `LwmaNoOverflow`, the weighted sums of a window of at most `N` blocks, capped at ten
times their expected value, fit in `int64`. -/
theorem lwmaSumWeights_mul_lt {params : Params} (hT : 1 ≤ params.secondsPerBlock)
    (hover : LwmaNoOverflow params) {i : Int} (hi : 0 ≤ i) (hiN : i ≤ params.lwmaWindow)
    (prevs : List BlockNode) :
    6 * params.secondsPerBlock * lwmaSumWeights i prevs * 10 < 2 ^ 63 := by
  have hN : i * (i + 1) ≤ params.lwmaWindow * (params.lwmaWindow + 1) :=
    Int.mul_le_mul hiN (by omega) (by omega) (by omega)
  have hT2 := Int.mul_le_mul_of_nonneg_left ((two_mul_lwmaSumWeights_le hi prevs).trans hN)
    (show 0 ≤ params.secondsPerBlock by omega)
  unfold LwmaNoOverflow at hover
  linarith

/-- The common tail computes `lwmaTarget` exactly once a parent was reached and the capped
sums fit in `int64`. -/
theorem lwmaNextTarget_eq (lastNode : HeaderCtx) (params : Params)
    {blocks referenceTarget capFactor : Int} (hT : 1 ≤ params.secondsPerBlock) (hk : 1 ≤ capFactor)
    (hS : 1 ≤ lwmaSumWeights blocks lastNode.ancestors)
    (hover : 6 * params.secondsPerBlock * lwmaSumWeights blocks lastNode.ancestors * capFactor <
      2 ^ 63) :
    lwmaNextTarget lastNode params blocks referenceTarget capFactor =
      .ok (bigToCompact (min params.powLimit (lwmaTarget referenceTarget
        (lwmaSumWeights blocks lastNode.ancestors * params.secondsPerBlock)
        (lwmaWeightedSolvetimes params.secondsPerBlock blocks lastNode.node lastNode.ancestors)
        capFactor))) := by
  obtain ⟨hSW, hW6⟩ :=
    lwmaWeightedSolvetimes_mem hT blocks lastNode.node lastNode.ancestors
  have hW6k : 6 * params.secondsPerBlock * lwmaSumWeights blocks lastNode.ancestors ≤
      6 * params.secondsPerBlock * lwmaSumWeights blocks lastNode.ancestors * capFactor :=
    le_mul_of_one_le_right (Int.mul_nonneg (by omega) (by omega)) hk
  unfold lwmaNextTarget
  simp only [lwmaSums_eq hT blocks lastNode.node lastNode.ancestors le_rfl le_rfl (by omega)
    (by omega), zero_add]
  generalize lwmaWeightedSolvetimes params.secondsPerBlock blocks lastNode.node
    lastNode.ancestors = W at *
  generalize params.secondsPerBlock = T at *
  generalize lwmaSumWeights blocks lastNode.ancestors = S at *
  have hE : S ≤ S * T := le_mul_of_one_le_right (by omega) hT
  have hEk' : S * T ≤ S * T * capFactor := le_mul_of_one_le_right (by omega) hk
  have hEk : S * T * capFactor ≤ 6 * T * S * capFactor := by
    have := Int.mul_nonneg (Int.mul_nonneg (show 0 ≤ S by omega) (show 0 ≤ T by omega))
      (show 0 ≤ capFactor by omega)
    linarith
  simp (disch := omega) only [wrap64_of_range]
  rw [Int.tdiv_eq_ediv (by omega) (by omega), bigDiv_ok (by omega)]
  simp only [ite_lt_eq_max, ite_gt_eq_min, ok_bind, pure_eq_ok, lwmaTarget]

/-- `lwmaNextTarget_eq` below a header with a parent, for `1 ≤ blocks ≤ LWMAWindow`, a cap
factor of at most 10 and `LwmaNoOverflow`. -/
theorem lwmaNextTarget_eq_of_window {params : Params} {blocks referenceTarget capFactor : Int}
    (hT : 1 ≤ params.secondsPerBlock) (hover : LwmaNoOverflow params) (hk : 1 ≤ capFactor)
    (hk10 : capFactor ≤ 10) (hb : 1 ≤ blocks) (hbN : blocks ≤ params.lwmaWindow)
    (node prev : BlockNode) (rest : List BlockNode) :
    lwmaNextTarget ⟨node, prev :: rest⟩ params blocks referenceTarget capFactor =
      .ok (bigToCompact (min params.powLimit (lwmaTarget referenceTarget
        (lwmaSumWeights blocks (prev :: rest) * params.secondsPerBlock)
        (lwmaWeightedSolvetimes params.secondsPerBlock blocks node (prev :: rest)) capFactor))) := by
  have hS := lwmaSumWeights_pos hb prev rest
  have hover' := lwmaSumWeights_mul_lt hT hover (by omega) hbN (prev :: rest)
  exact lwmaNextTarget_eq _ _ hT hk hS (lt_of_le_of_lt (Int.mul_le_mul_of_nonneg_left hk10
    (Int.mul_nonneg (Int.mul_nonneg (by norm_num) (by omega)) (lwmaSumWeights_nonneg _ _))) hover')

/-- With `T = 0` the expected value is zero, and `big.Int`'s division by zero panics. -/
theorem lwmaNextTarget_of_secondsPerBlock_eq_zero (lastNode : HeaderCtx) {params : Params}
    (hT : params.secondsPerBlock = 0) (blocks referenceTarget capFactor : Int) :
    lwmaNextTarget lastNode params blocks referenceTarget capFactor = .error .divideByZero := by
  simp [lwmaNextTarget, hT, wrap64]

theorem windowStart_mem : ∀ (k : Nat) (block : BlockNode) (prevs : List BlockNode),
    windowStart k block prevs ∈ block :: prevs
  | 0, _, _ => List.mem_cons_self _ _
  | _ + 1, _, [] => List.mem_cons_self _ _
  | k + 1, _, prev :: rest => List.mem_cons_of_mem _ (windowStart_mem k prev rest)

/-- Without a parent the sums are zero, and `big.Int`'s division by zero panics. -/
theorem lwmaNextTarget_nil (node : BlockNode) (params : Params) (blocks referenceTarget capFactor : Int) :
    lwmaNextTarget ⟨node, []⟩ params blocks referenceTarget capFactor = .error .divideByZero := by
  simp [lwmaNextTarget, lwmaSums, wrap64]

section Target

variable {referenceTarget expected weighted capFactor : Int}

theorem lwmaTarget_nonneg (href : 0 ≤ referenceTarget) (hE : 0 < expected) (hk : 1 ≤ capFactor)
    (hW : 0 ≤ weighted) : 0 ≤ lwmaTarget referenceTarget expected weighted capFactor :=
  Int.ediv_nonneg (Int.mul_nonneg href (le_min (Int.mul_nonneg hE.le (by omega))
    (le_max_of_le_right hW))) hE.le

/-- The lower cap: at least `referenceTarget * (expected / capFactor) / expected`. -/
theorem lwmaTarget_ge (href : 0 ≤ referenceTarget) (hE : 0 < expected) (hk : 1 ≤ capFactor) :
    referenceTarget * (expected / capFactor) / expected ≤
      lwmaTarget referenceTarget expected weighted capFactor := by
  have hdiv : expected / capFactor ≤ expected * capFactor :=
    (Int.ediv_le_self _ hE.le).trans (le_mul_of_one_le_right hE.le hk)
  exact Int.ediv_le_ediv hE
    (Int.mul_le_mul_of_nonneg_left (le_min hdiv (le_max_left _ _)) href)

theorem lwmaTarget_mono (href : 0 ≤ referenceTarget) (hE : 0 < expected) {weighted' : Int}
    (hW : weighted ≤ weighted') :
    lwmaTarget referenceTarget expected weighted capFactor ≤
      lwmaTarget referenceTarget expected weighted' capFactor :=
  Int.ediv_le_ediv hE (Int.mul_le_mul_of_nonneg_left
    (min_le_min_left _ (max_le_max_left _ hW)) href)

/-- Any bound `c * expected` on the capped sum bounds the target by `c * referenceTarget`. -/
theorem lwmaTarget_le {c : Int} (href : 0 ≤ referenceTarget) (hE : 0 < expected)
    (hc : min (expected * capFactor) (max (expected / capFactor) weighted) ≤ c * expected) :
    lwmaTarget referenceTarget expected weighted capFactor ≤ c * referenceTarget := by
  calc lwmaTarget referenceTarget expected weighted capFactor
      ≤ referenceTarget * (c * expected) / expected :=
        Int.ediv_le_ediv hE (Int.mul_le_mul_of_nonneg_left hc href)
    _ = c * referenceTarget := by
        rw [← Int.mul_assoc, Int.mul_ediv_cancel _ hE.ne', Int.mul_comm]

end Target

end Dsvd

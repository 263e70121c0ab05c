import Dsvd.Retarget.Legacy
import Dsvd.Retarget.LWMA
import Dsvd.Retarget.ASERT

/-! # The dispatcher

`calcNextRequiredDifficulty` answers with `PowLimitBits` on networks without retargeting
and at genesis; otherwise the height of the next block selects ASERT, LWMAv2, LWMA or the
original retarget. A chain is built by appending, one header at a time, a header whose bits
are what the dispatcher returns for its parent and its own timestamp.
-/

namespace Dsvd

/-- `calcNextRequiredDifficulty`. The next height `lastNode.Height() + 1` is `int32`. -/
def calcNextRequiredDifficulty (lastNode : Option HeaderCtx) (newBlockTime : Int)
    (c : ChainCtx) : Except GoError UInt32 :=
  let params := c.chainParams
  if params.poWNoRetargeting then .ok params.powLimitBits else
  match lastNode with
  | none => .ok params.powLimitBits
  | some lastNode =>
    let nHeight := wrap32 (lastNode.node.height + 1)
    if params.asertHeight > 0 ∧ nHeight > params.asertHeight then
      calcNextRequiredDifficultyASERT lastNode c
    else if params.lwmaFixHeight > 0 ∧ nHeight ≥ params.lwmaFixHeight then
      calcNextRequiredDifficultyLWMAv2 lastNode c
    else if params.lwmaHeight > 0 ∧ nHeight ≥ params.lwmaHeight then
      calcNextRequiredDifficultyLWMA lastNode c
    else calcNextRequiredDifficultyLegacy lastNode newBlockTime c

/-- The four retarget algorithms. -/
inductive Algorithm where
  | asert
  | lwmaV2
  | lwma
  | legacy
  deriving DecidableEq, Repr

/-- The algorithm `calcNextRequiredDifficulty` runs for the next height `nHeight`. -/
def selectAlgorithm (params : Params) (nHeight : Int) : Algorithm :=
  if params.asertHeight > 0 ∧ nHeight > params.asertHeight then .asert
  else if params.lwmaFixHeight > 0 ∧ nHeight ≥ params.lwmaFixHeight then .lwmaV2
  else if params.lwmaHeight > 0 ∧ nHeight ≥ params.lwmaHeight then .lwma
  else .legacy

/-- The dispatcher as a selector: past the early returns it runs the selected algorithm. -/
theorem calcNextRequiredDifficulty_some (lastNode : HeaderCtx) (newBlockTime : Int)
    (c : ChainCtx) :
    calcNextRequiredDifficulty (some lastNode) newBlockTime c =
      if c.chainParams.poWNoRetargeting then .ok c.chainParams.powLimitBits else
      match selectAlgorithm c.chainParams (wrap32 (lastNode.node.height + 1)) with
      | .asert => calcNextRequiredDifficultyASERT lastNode c
      | .lwmaV2 => calcNextRequiredDifficultyLWMAv2 lastNode c
      | .lwma => calcNextRequiredDifficultyLWMA lastNode c
      | .legacy => calcNextRequiredDifficultyLegacy lastNode newBlockTime c := by
  dsimp only [calcNextRequiredDifficulty, selectAlgorithm]
  split_ifs <;> rfl

/-- The header `n` on top of `h`. -/
def HeaderCtx.child (h : HeaderCtx) (n : BlockNode) : HeaderCtx := ⟨n, h.nodes⟩

/-- The chains built from the first header `g` by the difficulty rules: each later header
carries the bits `calcNextRequiredDifficulty` returns for its parent and its timestamp. -/
inductive Built (c : ChainCtx) (g : BlockNode) : HeaderCtx → Prop
  | genesis : Built c g ⟨g, []⟩
  | child {h : HeaderCtx} (n : BlockNode) (hh : Built c g h)
      (hbits : calcNextRequiredDifficulty (some h) n.timestamp c = .ok n.bits) :
      Built c g (h.child n)

end Dsvd

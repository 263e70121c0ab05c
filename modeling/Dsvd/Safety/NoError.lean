import Dsvd.Bounds.Step

/-! # No error on well-formed chains

On a chain whose heights fall by one down to a first header at height 0, every ancestor
that a retarget asks for exists: the first retarget window walks back `BlocksPerRetarget - 1`
headers to height 0, a later window `BlocksPerRetarget` headers from a height of at least
`2 * BlocksPerRetarget - 1`, and the ASERT anchor walk stops at the positive height
`ASERTHeight`, whose header has a parent. The divisors are positive by assumption, except the
LWMA expected value, which is positive once the loop reaches a parent: LWMA runs with
`blocks ≥ 3` only two heights above `LWMAHeight`, which is above the first header when
`LWMAHeight ≥ -1`.
-/

namespace Dsvd

/-- Headers from the tip back whose heights fall by one down to a first header at height 0. -/
def HeightsDown : List BlockNode → Prop
  | [] => False
  | [n] => n.height = 0
  | n :: p :: rest => n.height = p.height + 1 ∧ HeightsDown (p :: rest)

theorem HeightsDown.length_eq : ∀ {n : BlockNode} {ps : List BlockNode},
    HeightsDown (n :: ps) → ((n :: ps).length : Int) = n.height + 1
  | _, [], h => by simp [HeightsDown] at h ⊢; omega
  | _, p :: rest, h => by
    have := HeightsDown.length_eq h.2
    have := h.1
    simp only [List.length_cons, Nat.cast_add, Nat.cast_one] at *
    omega

theorem HeightsDown.height_nonneg {n : BlockNode} {ps : List BlockNode}
    (h : HeightsDown (n :: ps)) : 0 ≤ n.height := by
  have := h.length_eq
  simp only [List.length_cons, Nat.cast_add, Nat.cast_one] at this
  omega

/-- The anchor walk stops at height `ASERTHeight`, whose header has a parent when the height
is positive. -/
theorem asertAnchor_eq_ok {H : Int} (hH : 0 < H) : ∀ {n : BlockNode} {ps : List BlockNode},
    HeightsDown (n :: ps) → H ≤ n.height → ∃ a p rest, asertAnchor H n ps = .ok ⟨a, p :: rest⟩
  | _, [], hd, hn => by simp only [HeightsDown] at hd; omega
  | n, p :: rest, hd, hn => by
    rw [asertAnchor]
    split_ifs with h
    · exact asertAnchor_eq_ok hH hd.2 (by have := hd.1; omega)
    · exact ⟨n, p, rest, rfl⟩

theorem selectAlgorithm_eq_asert {params : Params} {nHeight : Int}
    (h : selectAlgorithm params nHeight = .asert) :
    0 < params.asertHeight ∧ params.asertHeight < nHeight := by
  unfold selectAlgorithm at h
  split_ifs at h with h1
  · exact h1

/-- On a well-formed chain `lastNode` is two heights above `LWMAHeight` when LWMA runs. -/
theorem height_of_lwmaBlocks {lastNode : HeaderCtx} {params : Params}
    (h3 : 3 ≤ lwmaBlocks lastNode params) : params.lwmaHeight + 2 ≤ lastNode.node.height := by
  have hh := lastNode.node.height_int32
  have hl := params.fixedWidth.2.2.2.2.1
  unfold IsInt32 at hh hl
  simp only [lwmaBlocks] at h3
  split_ifs at h3
  · rw [wrap64_of_range (by omega) (by omega)] at *; omega
  · rw [wrap64_of_range (by omega) (by omega)] at h3; omega

theorem lwmaNextTarget_eq_ok {lastNode : HeaderCtx} {c : ChainCtx} {referenceTarget capFactor : Int}
    (hT : 1 ≤ c.chainParams.secondsPerBlock) (hk : 1 ≤ capFactor) (hk10 : capFactor ≤ 10)
    (hover : LwmaNoOverflow c.chainParams) (hblocks : 3 ≤ lwmaBlocks lastNode c.chainParams)
    (hne : lastNode.ancestors ≠ []) :
    ∃ r, lwmaNextTarget lastNode c.chainParams (lwmaBlocks lastNode c.chainParams)
      referenceTarget capFactor = .ok r := by
  obtain ⟨node, _ | ⟨prev, rest⟩⟩ := lastNode
  · exact absurd rfl hne
  exact ⟨_, lwmaNextTarget_eq_of_window hT hover hk hk10 (by omega) (lwmaBlocks_le _ _) _ _ _⟩

theorem relativeAncestorCtx_eq_some {h : HeaderCtx} {n : Int} (h0 : 0 ≤ n)
    (hn : n < h.nodes.length) : ∃ a, h.relativeAncestorCtx n = some a := by
  unfold HeaderCtx.relativeAncestorCtx
  rw [if_neg (by omega)]
  cases hd : h.nodes.drop n.toNat with
  | nil => rw [List.drop_eq_nil_iff] at hd; omega
  | cons a as => exact ⟨_, rfl⟩

/-- At a retarget boundary of a well-formed chain the window stays within the chain. -/
theorem retargetWindow_mem {lastNode : HeaderCtx} {c : ChainCtx}
    (hchain : HeightsDown lastNode.nodes) (hbpr : 1 ≤ c.blocksPerRetarget)
    (hboundary : (wrap32 (lastNode.node.height + 1)).tmod c.blocksPerRetarget = 0) :
    0 ≤ retargetWindow lastNode c ∧ retargetWindow lastNode c < lastNode.nodes.length := by
  have hlen := hchain.length_eq
  have h0 := hchain.height_nonneg
  have hh := lastNode.node.height_int32
  have hb := c.fixedWidth.1
  unfold IsInt32 at hh hb
  simp only [HeaderCtx.nodes] at hlen h0 ⊢
  unfold retargetWindow
  split_ifs with hne
  · constructor
    · omega
    · by_cases hwrap : lastNode.node.height + 1 < 2147483648
      · rw [wrap32_of_range (by omega) hwrap] at hne hboundary
        -- the period divides the next height, so it is at most that height and not equal
        have := Int.le_of_dvd (by omega) (Int.dvd_of_tmod_eq_zero hboundary)
        omega
      · omega
  · push_neg at hne
    have hwrap : lastNode.node.height + 1 < 2147483648 := by
      by_contra hw
      rw [wrap32, show lastNode.node.height + 1 = 2147483648 by omega] at hne
      omega
    rw [wrap32_of_range (by omega) hwrap] at hne
    rw [wrap32_of_range (by omega) (by omega)]
    omega

variable {c : ChainCtx} {lastNode : HeaderCtx}

theorem legacy_eq_ok (hchain : HeightsDown lastNode.nodes) (hbpr : 1 ≤ c.blocksPerRetarget)
    (htt : 1 ≤ seconds c.chainParams.targetTimespan) (newBlockTime : Int) :
    ∃ r, calcNextRequiredDifficultyLegacy lastNode newBlockTime c = .ok r := by
  unfold calcNextRequiredDifficultyLegacy
  rw [rem32_ok (by omega), ok_bind]
  split_ifs with hoff
  · dsimp only
    split_ifs
    · exact ⟨_, rfl⟩
    · exact findPrevTestNetDifficulty_walk_eq_ok (by omega) _
  · exact ⟨_, rfl⟩
  · obtain ⟨h0, hw⟩ := retargetWindow_mem hchain hbpr (not_not.mp hoff)
    obtain ⟨firstNode, hfirst⟩ := relativeAncestorCtx_eq_some h0 hw
    rw [hfirst]
    simp only [bigDiv_ok (show seconds c.chainParams.targetTimespan ≠ 0 by omega), ok_bind]
    exact ⟨_, rfl⟩

/-- Past `ASERTHeight` on a well-formed chain the anchor walk stops at a header with a
parent, and the half-life divides. -/
theorem asert_eq_ok (hchain : HeightsDown lastNode.nodes)
    (hhl : 0 < c.chainParams.asertHeight → 1 ≤ c.chainParams.asertHalfLife)
    (hsel : selectAlgorithm c.chainParams (wrap32 (lastNode.node.height + 1)) = .asert) :
    ∃ r, calcNextRequiredDifficultyASERT lastNode c = .ok r := by
  obtain ⟨hH, hnH⟩ := selectAlgorithm_eq_asert hsel
  have hh := lastNode.node.height_int32
  unfold IsInt32 at hh
  have hHh : c.chainParams.asertHeight ≤ lastNode.node.height := by
    unfold wrap32 at hnH; omega
  obtain ⟨a, p, rest, hanchor⟩ := asertAnchor_eq_ok hH hchain hHh
  simp only [calcNextRequiredDifficultyASERT, hanchor, ok_bind, HeaderCtx.parent_cons,
    quo64_ok (show c.chainParams.asertHalfLife ≠ 0 by have := hhl hH; omega)]
  exact ⟨_, rfl⟩

/-- **No error on well-formed chains.** On a chain whose heights fall by one down to 0, with
`BlocksPerRetarget ≥ 1`, `TargetTimespan ≥ 1 s`, `T ≥ 1`, `ASERTHalfLife ≥ 1` when ASERT is
enabled, LWMA sums that fit in `int64` and `LWMAHeight ≥ -1`, which every activation height
satisfies, the dispatcher returns bits: no `AssertError`, no nil dereference and no division
by zero. -/
theorem calcNextRequiredDifficulty_eq_ok (hchain : HeightsDown lastNode.nodes)
    (hbpr : 1 ≤ c.blocksPerRetarget) (htt : 1 ≤ seconds c.chainParams.targetTimespan)
    (hT : 1 ≤ c.chainParams.secondsPerBlock)
    (hhl : 0 < c.chainParams.asertHeight → 1 ≤ c.chainParams.asertHalfLife)
    (hover : LwmaNoOverflow c.chainParams) (hlwma : -1 ≤ c.chainParams.lwmaHeight)
    (newBlockTime : Int) :
    ∃ r, calcNextRequiredDifficulty (some lastNode) newBlockTime c = .ok r := by
  have hne : 3 ≤ lwmaBlocks lastNode c.chainParams → lastNode.ancestors ≠ [] := by
    intro h3 hnil
    have := height_of_lwmaBlocks h3
    have hlen := hchain.length_eq
    simp only [HeaderCtx.nodes, hnil, List.length_singleton, Nat.cast_one] at hlen
    omega
  rw [calcNextRequiredDifficulty_some]
  split
  · exact ⟨_, rfl⟩
  cases hsel : selectAlgorithm c.chainParams (wrap32 (lastNode.node.height + 1))
  case asert => exact asert_eq_ok hchain hhl hsel
  case lwmaV2 =>
    simp only [calcNextRequiredDifficultyLWMAv2]
    split_ifs with h3
    · exact ⟨_, rfl⟩
    · exact lwmaNextTarget_eq_ok hT (by norm_num) (by norm_num) hover (by omega) (hne (by omega))
  case lwma =>
    simp only [calcNextRequiredDifficultyLWMA]
    split_ifs with h3
    · exact ⟨_, rfl⟩
    · exact lwmaNextTarget_eq_ok hT (by norm_num) le_rfl hover (by omega) (hne (by omega))
  case legacy => exact legacy_eq_ok hchain hbpr htt newBlockTime

theorem calcNextRequiredDifficulty_eq_ok_firstRetarget :
    ∃ r, calcNextRequiredDifficulty (some firstRetargetTip) 1350 (smallCtx mainPowLimit) = .ok r :=
  calcNextRequiredDifficulty_eq_ok (by simp [HeightsDown, firstRetargetTip, firstNode0, HeaderCtx.nodes])
    (by decide) (by decide) (by decide) (by decide) (by unfold LwmaNoOverflow; decide) (by decide)
    1350

end Dsvd

import Dsvd.Safety.NoError

/-! # The testnet minimum-difficulty rule

On a network with `ReduceMinDifficulty`, a legacy block off a retarget boundary carries
`PowLimitBits` when it comes late, and otherwise what `findPrevTestNetDifficulty` finds: the
bits of the nearest header that is on a boundary or not at the minimum difficulty. The walk is
`List.find?` over the headers. Over a whole chain built by these rules the walk returns the
bits of the nearest retarget boundary, however many minimum-difficulty blocks lie after it.
The boundary's own bits are a retarget of its parent's, so a late block just before a
boundary still reaches past it. Without the rule every header carries the bits of the nearest
boundary: off a boundary the legacy step keeps the tip's bits.
-/

namespace Dsvd

variable {c : ChainCtx}

/-- The headers at which `findPrevTestNetDifficulty` stops: on a retarget boundary, or not at
the minimum difficulty. -/
def stopsTestNetWalk (c : ChainCtx) (n : BlockNode) : Bool :=
  n.height.tmod c.blocksPerRetarget = 0 ∨ n.bits ≠ c.chainParams.powLimitBits

theorem findPrevTestNetDifficulty_walk_eq_find (hb : c.blocksPerRetarget ≠ 0) :
    ∀ nodes : List BlockNode, findPrevTestNetDifficulty.walk c nodes =
      .ok (((nodes.find? (stopsTestNetWalk c)).map BlockNode.bits).getD
        c.chainParams.powLimitBits)
  | [] => rfl
  | n :: rest => by
    simp only [findPrevTestNetDifficulty.walk, rem32_ok hb, ok_bind]
    by_cases hs : stopsTestNetWalk c n
    · have : ¬ (n.height.tmod c.blocksPerRetarget ≠ 0 ∧ n.bits = c.chainParams.powLimitBits) := by
        simpa [stopsTestNetWalk, or_iff_not_imp_left] using hs
      rw [if_neg this, List.find?_cons_of_pos _ hs]
      rfl
    · have : n.height.tmod c.blocksPerRetarget ≠ 0 ∧ n.bits = c.chainParams.powLimitBits := by
        simpa [stopsTestNetWalk, not_or] using hs
      rw [if_pos this, List.find?_cons_of_neg _ hs, findPrevTestNetDifficulty_walk_eq_find hb rest]

/-- With a non-zero `BlocksPerRetarget`, `findPrevTestNetDifficulty` returns the bits of the
nearest header at or below `startNode` that is on a retarget boundary or not at the minimum
difficulty, and `PowLimitBits` when there is none. -/
theorem findPrevTestNetDifficulty_eq_find (hb : c.blocksPerRetarget ≠ 0) (startNode : HeaderCtx) :
    findPrevTestNetDifficulty startNode c =
      .ok (((startNode.nodes.find? (stopsTestNetWalk c)).map BlockNode.bits).getD
        c.chainParams.powLimitBits) :=
  findPrevTestNetDifficulty_walk_eq_find hb _

/-! ## Over a chain -/

/-- The bits of the nearest retarget boundary among `nodes`, the headers from a tip back. -/
def boundaryBits (c : ChainCtx) (nodes : List BlockNode) : UInt32 :=
  ((nodes.find? fun n => n.height.tmod c.blocksPerRetarget = 0).map BlockNode.bits).getD
    c.chainParams.powLimitBits

theorem boundaryBits_cons_of_pos {n : BlockNode} (nodes : List BlockNode)
    (hn : n.height.tmod c.blocksPerRetarget = 0) : boundaryBits c (n :: nodes) = n.bits := by
  rw [boundaryBits, List.find?_cons_of_pos _ (by simpa using hn)]
  rfl

theorem boundaryBits_cons_of_neg {n : BlockNode} (nodes : List BlockNode)
    (hn : n.height.tmod c.blocksPerRetarget ≠ 0) :
    boundaryBits c (n :: nodes) = boundaryBits c nodes := by
  rw [boundaryBits, List.find?_cons_of_neg _ (by simpa using hn), boundaryBits]

/-- A height below one where the legacy retarget runs selects it too. -/
theorem selectAlgorithm_legacy_of_le {params : Params} {a b : Int} (hab : a ≤ b)
    (h : selectAlgorithm params b = .legacy) : selectAlgorithm params a = .legacy := by
  unfold selectAlgorithm at h ⊢
  split_ifs at h ⊢ <;> first | rfl | (exfalso; omega)

/-- Off a boundary, the testnet step returns `PowLimitBits` or what the walk finds. -/
theorem calcNextRequiredDifficultyLegacy_reduce {lastNode : HeaderCtx} {newBlockTime : Int}
    {r : UInt32} (hb : c.blocksPerRetarget ≠ 0)
    (hoff : (wrap32 (lastNode.node.height + 1)).tmod c.blocksPerRetarget ≠ 0)
    (hred : c.chainParams.reduceMinDifficulty = true)
    (h : calcNextRequiredDifficultyLegacy lastNode newBlockTime c = .ok r) :
    r = c.chainParams.powLimitBits ∨ findPrevTestNetDifficulty lastNode c = .ok r := by
  simp only [calcNextRequiredDifficultyLegacy, rem32_ok hb, ok_bind, if_pos hoff, hred,
    if_true] at h
  split_ifs at h
  · exact .inl (Except.ok.inj h).symm
  · exact .inr h

/-- A header the legacy rules built on `h` carries what the legacy step returns. -/
theorem calcNextRequiredDifficultyLegacy_child {h : HeaderCtx} {n : BlockNode}
    (hnoRet : c.chainParams.poWNoRetargeting = false) (hh : n.height = h.node.height + 1)
    (hleg : selectAlgorithm c.chainParams n.height = .legacy)
    (hbits : calcNextRequiredDifficulty (some h) n.timestamp c = .ok n.bits) :
    wrap32 (h.node.height + 1) = n.height ∧
      calcNextRequiredDifficultyLegacy h n.timestamp c = .ok n.bits := by
  have hwrap : wrap32 (h.node.height + 1) = n.height := by
    rw [← hh]; exact wrap32_of_range n.height_int32.1 n.height_int32.2
  rw [calcNextRequiredDifficulty_some, if_neg (by simp [hnoRet]), hwrap, hleg] at hbits
  exact ⟨hwrap, hbits⟩

section
variable (hb : c.blocksPerRetarget ≠ 0) (hred : c.chainParams.reduceMinDifficulty = true)
  (hnoRet : c.chainParams.poWNoRetargeting = false)
include hb hred hnoRet

/-- One legacy testnet header on top of a chain keeps the walk at the nearest boundary. -/
theorem findPrevTestNetDifficulty_child {h : HeaderCtx} {n : BlockNode}
    (hh : n.height = h.node.height + 1) (hleg : selectAlgorithm c.chainParams n.height = .legacy)
    (hbits : calcNextRequiredDifficulty (some h) n.timestamp c = .ok n.bits)
    (ih : findPrevTestNetDifficulty h c = .ok (boundaryBits c h.nodes)) :
    findPrevTestNetDifficulty (h.child n) c = .ok (boundaryBits c (h.child n).nodes) := by
  rw [findPrevTestNetDifficulty_eq_find hb] at ih ⊢
  show Except.ok ((((n :: h.nodes).find? (stopsTestNetWalk c)).map BlockNode.bits).getD _) =
    .ok (boundaryBits c (n :: h.nodes))
  by_cases hn : n.height.tmod c.blocksPerRetarget = 0
  · rw [List.find?_cons_of_pos _ (by simp [stopsTestNetWalk, hn]), boundaryBits_cons_of_pos _ hn]
    rfl
  obtain ⟨hwrap, hbits⟩ := calcNextRequiredDifficultyLegacy_child hnoRet hh hleg hbits
  have hstep := calcNextRequiredDifficultyLegacy_reduce hb (by rwa [hwrap]) hred hbits
  rw [findPrevTestNetDifficulty_eq_find hb, ih] at hstep
  rw [boundaryBits_cons_of_neg _ hn]
  by_cases hmin : n.bits = c.chainParams.powLimitBits
  · rwa [List.find?_cons_of_neg _ (by simp [stopsTestNetWalk, hn, hmin])]
  · rw [List.find?_cons_of_pos _ (by simp [stopsTestNetWalk, hmin])]
    exact (hstep.resolve_left hmin).symm

/-- **The walk stops at the last boundary.** On a chain whose heights fall by one down to 0,
built on a network with `ReduceMinDifficulty` and a non-zero `BlocksPerRetarget` by the
legacy rules, `findPrevTestNetDifficulty` at every header returns the bits of the nearest
retarget boundary at or below it, however many minimum-difficulty blocks lie after it. -/
theorem findPrevTestNetDifficulty_built {g : BlockNode} {h : HeaderCtx} (hbuilt : Built c g h)
    (hleg : selectAlgorithm c.chainParams h.node.height = .legacy)
    (hd : HeightsDown h.nodes) :
    findPrevTestNetDifficulty h c = .ok (boundaryBits c h.nodes) := by
  induction hbuilt with
  | genesis =>
    have hg : g.height = 0 := hd
    rw [findPrevTestNetDifficulty_eq_find hb]
    simp [stopsTestNetWalk, boundaryBits, HeaderCtx.nodes, hg]
  | @child h n _ hbits ih =>
    obtain ⟨hn, hd'⟩ : n.height = h.node.height + 1 ∧ HeightsDown h.nodes := hd
    exact findPrevTestNetDifficulty_child hb hred hnoRet hn hleg hbits
      (ih (selectAlgorithm_legacy_of_le (show h.node.height ≤ n.height by omega) hleg) hd')

end

/-- Off a boundary and without the minimum-difficulty rule, the legacy step keeps the tip's
bits. -/
theorem calcNextRequiredDifficultyLegacy_keep {lastNode : HeaderCtx} {newBlockTime : Int}
    {r : UInt32} (hb : c.blocksPerRetarget ≠ 0)
    (hoff : (wrap32 (lastNode.node.height + 1)).tmod c.blocksPerRetarget ≠ 0)
    (hred : c.chainParams.reduceMinDifficulty = false)
    (h : calcNextRequiredDifficultyLegacy lastNode newBlockTime c = .ok r) :
    r = lastNode.node.bits := by
  simp only [calcNextRequiredDifficultyLegacy, rem32_ok hb, ok_bind, if_pos hoff, hred,
    Bool.false_eq_true, if_false] at h
  exact (Except.ok.inj h).symm

/-- **Without the minimum-difficulty rule the difficulty moves only at a boundary.** On a chain
whose heights fall by one down to 0, built by the legacy rules with retargeting on, a non-zero
`BlocksPerRetarget` and no `ReduceMinDifficulty`, every header carries the bits of the nearest
retarget boundary at or below it. -/
theorem built_bits_eq_boundaryBits {g : BlockNode} {h : HeaderCtx}
    (hb : c.blocksPerRetarget ≠ 0) (hred : c.chainParams.reduceMinDifficulty = false)
    (hnoRet : c.chainParams.poWNoRetargeting = false) (hbuilt : Built c g h)
    (hleg : selectAlgorithm c.chainParams h.node.height = .legacy) (hd : HeightsDown h.nodes) :
    h.node.bits = boundaryBits c h.nodes := by
  induction hbuilt with
  | genesis =>
    have hg : g.height = 0 := hd
    exact (boundaryBits_cons_of_pos [] (by simp [hg])).symm
  | @child h n _ hbits ih =>
    obtain ⟨hn, hd'⟩ : n.height = h.node.height + 1 ∧ HeightsDown h.nodes := hd
    show n.bits = boundaryBits c (n :: h.nodes)
    by_cases hbd : n.height.tmod c.blocksPerRetarget = 0
    · exact (boundaryBits_cons_of_pos _ hbd).symm
    obtain ⟨hwrap, hbits⟩ := calcNextRequiredDifficultyLegacy_child hnoRet hn hleg hbits
    calc n.bits = h.node.bits :=
          calcNextRequiredDifficultyLegacy_keep hb (by rwa [hwrap]) hred hbits
      _ = boundaryBits c h.nodes :=
          ih (selectAlgorithm_legacy_of_le (show h.node.height ≤ n.height by omega) hleg) hd'
      _ = boundaryBits c (n :: h.nodes) := (boundaryBits_cons_of_neg _ hbd).symm

/-- Heights 0 to 5 on `smallCtx`: the retarget at height 4 doubles the target, and height 5
keeps it. -/
def retargetedChain : HeaderCtx :=
  (((((⟨firstNode0, []⟩ : HeaderCtx).child
    { height := 1, timestamp := 150, bits := 0x1d00ffff }).child
    { height := 2, timestamp := 300, bits := 0x1d00ffff }).child
    { height := 3, timestamp := 1200, bits := 0x1d00ffff }).child
    { height := 4, timestamp := 1350, bits := 0x1d01fffe }).child
    { height := 5, timestamp := 1500, bits := 0x1d01fffe }

theorem built_bits_eq_boundaryBits_retargetedChain :
    ((smallCtx mainPowLimit).blocksPerRetarget ≠ 0 ∧
      (smallCtx mainPowLimit).chainParams.reduceMinDifficulty = false ∧
      (smallCtx mainPowLimit).chainParams.poWNoRetargeting = false ∧
      Built (smallCtx mainPowLimit) firstNode0 retargetedChain ∧
      selectAlgorithm (smallCtx mainPowLimit).chainParams retargetedChain.node.height = .legacy ∧
      HeightsDown retargetedChain.nodes) ∧
    retargetedChain.node.bits = boundaryBits (smallCtx mainPowLimit) retargetedChain.nodes :=
  have hbuilt : Built (smallCtx mainPowLimit) firstNode0 retargetedChain :=
    .child _ (.child _ (.child _ (.child _ (.child _ .genesis rfl) rfl) rfl) rfl) rfl
  have hd : HeightsDown retargetedChain.nodes := ⟨rfl, rfl, rfl, rfl, rfl, rfl⟩
  ⟨⟨by decide, rfl, rfl, hbuilt, rfl, hd⟩,
    built_bits_eq_boundaryBits (by decide) rfl rfl hbuilt rfl hd⟩

/-- `smallParams` with the minimum-difficulty rule after five minutes. -/
def smallTestParams : Params :=
  { powLimit := mainPowLimit
    powLimitBits := 0x1e0ffff0
    targetTimespan := 600 * second
    targetTimePerBlock := 150 * second
    retargetAdjustmentFactor := 4
    reduceMinDifficulty := true
    minDiffReductionTime := 300 * second }

/-- Modelled from the spec: the `ChainCtx` of `smallTestParams`. -/
def smallTestCtx : ChainCtx := ⟨smallTestParams, 4, 150, 2400, by decide⟩

/-- Heights 0 to 5 on `smallTestCtx`: the block at height 3 comes late and carries the
minimum difficulty, the boundary at height 4 retargets from it to `0x1e0fffff`, and the block
at height 5 comes on time. -/
def lateBeforeBoundaryChain : HeaderCtx :=
  (((((⟨firstNode0, []⟩ : HeaderCtx).child
    { height := 1, timestamp := 150, bits := 0x1d00ffff }).child
    { height := 2, timestamp := 300, bits := 0x1d00ffff }).child
    { height := 3, timestamp := 1000, bits := 0x1e0ffff0 }).child
    { height := 4, timestamp := 1150, bits := 0x1e0fffff }).child
    { height := 5, timestamp := 1300, bits := 0x1e0fffff }

/-- The walk at height 5 stops at the boundary, whose bits the late block set: the exception
reaches past the boundary. -/
theorem findPrevTestNetDifficulty_built_lateBeforeBoundary :
    (smallTestCtx.blocksPerRetarget ≠ 0 ∧ smallTestCtx.chainParams.reduceMinDifficulty = true ∧
      smallTestCtx.chainParams.poWNoRetargeting = false ∧
      Built smallTestCtx firstNode0 lateBeforeBoundaryChain ∧
      selectAlgorithm smallTestCtx.chainParams lateBeforeBoundaryChain.node.height = .legacy ∧
      HeightsDown lateBeforeBoundaryChain.nodes) ∧
    findPrevTestNetDifficulty lateBeforeBoundaryChain smallTestCtx = .ok 0x1e0fffff :=
  have hbuilt : Built smallTestCtx firstNode0 lateBeforeBoundaryChain :=
    .child _ (.child _ (.child _ (.child _ (.child _ .genesis rfl) rfl) rfl) rfl) rfl
  have hd : HeightsDown lateBeforeBoundaryChain.nodes := ⟨rfl, rfl, rfl, rfl, rfl, rfl⟩
  ⟨⟨by decide, rfl, rfl, hbuilt, rfl, hd⟩,
    findPrevTestNetDifficulty_built (by decide) rfl rfl hbuilt rfl hd⟩

end Dsvd

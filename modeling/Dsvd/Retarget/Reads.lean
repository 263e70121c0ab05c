import Dsvd.Bounds.Solvetimes
import Dsvd.Retarget.Testnet

/-! # What the retarget algorithms read of the chain

Below ASERT and without the minimum-difficulty rule the next target depends on a window of the
chain: the legacy retarget reads the tip and the header at most `BlocksPerRetarget` back, and
LWMA and LWMAv2 read the tip and at most `LWMAWindow` parents. A node that keeps only the last
`max BlocksPerRetarget LWMAWindow` parents computes the same difficulty. With the rule,
`findPrevTestNetDifficulty` may walk back to the first header. ASERT reads the anchor's parent
wherever it lies, and of the headers between that parent and the tip it reads nothing.
-/

namespace Dsvd

/-- `L` with every header below its first `k` parents dropped. -/
def HeaderCtx.prune (L : HeaderCtx) (k : Nat) : HeaderCtx := ⟨L.node, L.ancestors.take k⟩

/-! ## A window below ASERT -/

/-- The solvetime loop reads none of the parents after its first `k ≥ i`. -/
theorem lwmaSums_take (T : Int) :
    ∀ (k : Nat) (i : Int) (block : BlockNode) (prevs : List BlockNode) (acc : Int × Int),
      i ≤ k → lwmaSums T i block (prevs.take k) acc = lwmaSums T i block prevs acc
  | _, _, _, [], _, _ => by rw [List.take_nil]
  | 0, i, _, _ :: _, (_, _), hi => by
    simp only [List.take_zero, lwmaSums, if_neg (show ¬ i ≥ 1 by omega)]
  | k + 1, i, _, prev :: rest, (_, _), hi => by
    simp only [List.take_succ_cons, lwmaSums]
    split_ifs
    · exact lwmaSums_take T k _ prev rest _ (by omega)
    · rfl

/-- The window-start walk reads none of the parents after its first `n`. -/
theorem windowStart_take : ∀ (n : Nat) (block : BlockNode) (prevs : List BlockNode),
    windowStart n block (prevs.take n) = windowStart n block prevs
  | 0, _, _ => rfl
  | _ + 1, _, [] => rfl
  | n + 1, _, prev :: rest => windowStart_take n prev rest

theorem windowStart_take_of_le {n k : Nat} (h : n ≤ k) (block : BlockNode)
    (prevs : List BlockNode) : windowStart n block (prevs.take k) = windowStart n block prevs := by
  rw [← windowStart_take n, List.take_take, min_eq_left h, windowStart_take]

section
variable {L : HeaderCtx} {c : ChainCtx} {k : Nat}

theorem lwmaNextTarget_prune {params : Params} {blocks : Int} (hk : blocks ≤ k)
    (referenceTarget capFactor : Int) :
    lwmaNextTarget (L.prune k) params blocks referenceTarget capFactor =
      lwmaNextTarget L params blocks referenceTarget capFactor := by
  simp only [lwmaNextTarget, HeaderCtx.prune, lwmaSums_take _ k _ _ _ _ hk]

theorem calcNextRequiredDifficultyLWMA_prune (hk : c.chainParams.lwmaWindow ≤ k) :
    calcNextRequiredDifficultyLWMA (L.prune k) c = calcNextRequiredDifficultyLWMA L c := by
  have hb := lwmaBlocks_le L c.chainParams
  have hblocks : lwmaBlocks (L.prune k) c.chainParams = lwmaBlocks L c.chainParams := rfl
  simp only [calcNextRequiredDifficultyLWMA, hblocks]
  split_ifs
  · rfl
  · exact lwmaNextTarget_prune (by omega) _ _

theorem calcNextRequiredDifficultyLWMAv2_prune (hk : c.chainParams.lwmaWindow ≤ k) :
    calcNextRequiredDifficultyLWMAv2 (L.prune k) c = calcNextRequiredDifficultyLWMAv2 L c := by
  have hb := lwmaBlocks_le L c.chainParams
  have hblocks : lwmaBlocks (L.prune k) c.chainParams = lwmaBlocks L c.chainParams := rfl
  simp only [calcNextRequiredDifficultyLWMAv2, hblocks]
  split_ifs
  · rfl
  · rw [lwmaNextTarget_prune (by omega), show (L.prune k).ancestors = L.ancestors.take k from rfl,
      windowStart_take_of_le (by omega)]
    rfl

/-- The header `n ≤ k` back from the pruned chain is the one from the whole chain. -/
theorem relativeAncestorCtx_prune {n : Int} (hn : n ≤ k) :
    ((L.prune k).relativeAncestorCtx n).map (·.node) = (L.relativeAncestorCtx n).map (·.node) := by
  unfold HeaderCtx.relativeAncestorCtx
  split_ifs
  · rfl
  obtain ⟨m, hm⟩ : ∃ m, k + 1 - n.toNat = m + 1 := ⟨k - n.toNat, by omega⟩
  rw [show (L.prune k).nodes = L.nodes.take (k + 1) from rfl, List.drop_take, hm]
  cases L.nodes.drop n.toNat <;> rfl

theorem calcNextRequiredDifficultyLegacy_prune (newBlockTime : Int)
    (hred : c.chainParams.reduceMinDifficulty = false) (hB : 0 < c.blocksPerRetarget)
    (hk : c.blocksPerRetarget ≤ k) :
    calcNextRequiredDifficultyLegacy (L.prune k) newBlockTime c =
      calcNextRequiredDifficultyLegacy L newBlockTime c := by
  have hw : retargetWindow L c ≤ k := by
    obtain ⟨h1, h2⟩ := c.fixedWidth.1
    unfold retargetWindow
    split_ifs
    · exact hk
    · rw [wrap32_of_range (by omega) (by omega)]; omega
  have ha := relativeAncestorCtx_prune (L := L) hw
  simp only [calcNextRequiredDifficultyLegacy, hred, Bool.false_eq_true, if_false]
  show (rem32 (wrap32 (L.node.height + 1)) c.blocksPerRetarget >>= _) = _
  cases rem32 (wrap32 (L.node.height + 1)) c.blocksPerRetarget with
  | error => rfl
  | ok offset =>
    simp only [ok_bind]
    split_ifs
    · rfl
    · rw [show retargetWindow (L.prune k) c = retargetWindow L c from rfl]
      cases h₁ : (L.prune k).relativeAncestorCtx (retargetWindow L c) <;>
        cases h₂ : L.relativeAncestorCtx (retargetWindow L c) <;>
        rw [h₁, h₂] at ha <;> simp only [Option.map_none', Option.map_some', reduceCtorEq,
          Option.some.injEq] at ha
      dsimp only
      rw [ha]
      rfl

end

/-- **Below ASERT a window of the chain is enough.** Without `ReduceMinDifficulty` and with a
positive `BlocksPerRetarget`, when the next height selects the legacy retarget, LWMA or
LWMAv2, dropping every header below the tip's last `max BlocksPerRetarget LWMAWindow` parents
changes neither the target `calcNextRequiredDifficulty` returns nor the error it fails with. -/
theorem calcNextRequiredDifficulty_window (c : ChainCtx) (L : HeaderCtx) (newBlockTime : Int)
    (hred : c.chainParams.reduceMinDifficulty = false) (hB : 0 < c.blocksPerRetarget)
    (hA : selectAlgorithm c.chainParams (wrap32 (L.node.height + 1)) ≠ .asert) :
    calcNextRequiredDifficulty
        (some (L.prune (max c.blocksPerRetarget.toNat c.chainParams.lwmaWindow.toNat)))
        newBlockTime c =
      calcNextRequiredDifficulty (some L) newBlockTime c := by
  rw [calcNextRequiredDifficulty_some, calcNextRequiredDifficulty_some]
  show (if _ then _ else match selectAlgorithm c.chainParams (wrap32 (L.node.height + 1)) with
    | .asert => _ | .lwmaV2 => _ | .lwma => _ | .legacy => _) = _
  split_ifs
  · rfl
  cases halg : selectAlgorithm c.chainParams (wrap32 (L.node.height + 1)) with
  | asert => exact absurd halg hA
  | lwmaV2 => exact calcNextRequiredDifficultyLWMAv2_prune (by omega)
  | lwma => exact calcNextRequiredDifficultyLWMA_prune (by omega)
  | legacy => exact calcNextRequiredDifficultyLegacy_prune _ hred hB (by omega)

theorem calcNextRequiredDifficulty_window_retargetedChain :
    ((smallCtx mainPowLimit).chainParams.reduceMinDifficulty = false ∧
      0 < (smallCtx mainPowLimit).blocksPerRetarget ∧
      selectAlgorithm (smallCtx mainPowLimit).chainParams
        (wrap32 (retargetedChain.node.height + 1)) ≠ .asert) ∧
    calcNextRequiredDifficulty (some (retargetedChain.prune
        (max (smallCtx mainPowLimit).blocksPerRetarget.toNat
          (smallCtx mainPowLimit).chainParams.lwmaWindow.toNat))) 1650 (smallCtx mainPowLimit) =
      calcNextRequiredDifficulty (some retargetedChain) 1650 (smallCtx mainPowLimit) :=
  have hA : selectAlgorithm (smallCtx mainPowLimit).chainParams
      (wrap32 (retargetedChain.node.height + 1)) ≠ .asert := by decide
  ⟨⟨rfl, by decide, hA⟩, calcNextRequiredDifficulty_window _ _ _ rfl (by decide) hA⟩

/-! ## What ASERT reads

ASERT takes its target from `ASERTAnchorBits`, not from any header, and its time from the tip
and from the anchor's parent. On a chain whose heights fall by one, the anchor's parent is the
header below `ASERTHeight`, so everything between it and the tip, timestamps and bits alike,
is ignored: the schedule is absolute. -/

/-- What ASERT reads of the anchor the walk finds: its parent's timestamp. -/
def anchorParentTime (anchor : HeaderCtx) : Option Int := anchor.parent.map (·.node.timestamp)

/-- The anchor walk over two chains with the same heights, the first falling by one, and the
same timestamps below `ASERTHeight` finds anchors whose parents have the same timestamp. -/
theorem asertAnchor_parentTime_congr {H : Int} :
    ∀ {b₁ b₂ : BlockNode} {ps₁ ps₂ : List BlockNode}, HeightsDown (b₁ :: ps₁) →
      (b₁ :: ps₁).map BlockNode.height = (b₂ :: ps₂).map BlockNode.height →
      (∀ x ∈ (b₁ :: ps₁).zip (b₂ :: ps₂), x.1.height < H → x.1.timestamp = x.2.timestamp) →
      Except.map anchorParentTime (asertAnchor H b₁ ps₁) =
        Except.map anchorParentTime (asertAnchor H b₂ ps₂)
  | b₁, b₂, [], [], _, hh, _ => by
    simp only [asertAnchor, (List.cons.inj hh).1]
    split_ifs <;> rfl
  | _, _, [], _ :: _, _, hh, _ => by simp at hh
  | _, _, _ :: _, [], _, hh, _ => by simp at hh
  | b₁, b₂, q₁ :: r₁, q₂ :: r₂, hd, hh, hlow => by
    simp only [asertAnchor, (List.cons.inj hh).1]
    split_ifs with hb
    · exact asertAnchor_parentTime_congr hd.2 (List.cons.inj hh).2
        fun x hx => hlow x (List.mem_cons_of_mem _ hx)
    · have hq : q₁.timestamp = q₂.timestamp :=
        hlow (q₁, q₂) (List.mem_cons_of_mem _ (List.mem_cons_self _ _))
          (show q₁.height < H by have := hd.1; have := (List.cons.inj hh).1; omega)
      simp only [Except.map, anchorParentTime, HeaderCtx.parent, Option.map_some', hq]

/-- **ASERT is absolutely scheduled.** On a chain whose heights fall by one, ASERT's result,
error or target, depends only on the tip's height and timestamp and on the timestamps of the
headers below `ASERTHeight`: two chains that agree on those give the same result, whatever the
timestamps and bits of the headers in between. -/
theorem calcNextRequiredDifficultyASERT_congr {L₁ L₂ : HeaderCtx} (c : ChainCtx)
    (hd : HeightsDown L₁.nodes) (hh : L₁.nodes.map BlockNode.height = L₂.nodes.map BlockNode.height)
    (hts : L₁.node.timestamp = L₂.node.timestamp)
    (hlow : ∀ x ∈ L₁.nodes.zip L₂.nodes, x.1.height < c.chainParams.asertHeight →
      x.1.timestamp = x.2.timestamp) :
    calcNextRequiredDifficultyASERT L₁ c = calcNextRequiredDifficultyASERT L₂ c := by
  have ha := asertAnchor_parentTime_congr hd hh hlow
  have hheight := (List.cons.inj hh).1
  unfold calcNextRequiredDifficultyASERT
  dsimp only
  rcases h₁ : asertAnchor c.chainParams.asertHeight L₁.node L₁.ancestors with e₁ | a₁ <;>
    rcases h₂ : asertAnchor c.chainParams.asertHeight L₂.node L₂.ancestors with e₂ | a₂ <;>
    rw [h₁, h₂] at ha <;> simp only [Except.map, Except.error.injEq, Except.ok.injEq,
      reduceCtorEq] at ha
  · rw [ha, error_bind, error_bind]
  · simp only [anchorParentTime] at ha
    simp only [ok_bind]
    cases hp₁ : a₁.parent <;> cases hp₂ : a₂.parent <;> rw [hp₁, hp₂] at ha <;>
      simp only [Option.map_none', Option.map_some', reduceCtorEq, Option.some.injEq] at ha
    simp only [ha, hts, hheight]

/-- `lateAnchorChain` with another anchor: its timestamp and bits, and the tip's bits, changed. -/
def movedAnchorChain : HeaderCtx :=
  ⟨{ height := 2, timestamp := 1003900, bits := 0x1d00fffe },
    [{ height := 1, timestamp := 1000150, bits := 0x207fffff }, asertFirstNode]⟩

theorem calcNextRequiredDifficultyASERT_congr_movedAnchor :
    (HeightsDown lateAnchorChain.nodes ∧
      lateAnchorChain.nodes.map BlockNode.height = movedAnchorChain.nodes.map BlockNode.height ∧
      lateAnchorChain.node.timestamp = movedAnchorChain.node.timestamp ∧
      ∀ x ∈ lateAnchorChain.nodes.zip movedAnchorChain.nodes,
        x.1.height < (asertSmallCtx mainPowLimit).chainParams.asertHeight →
          x.1.timestamp = x.2.timestamp) ∧
    calcNextRequiredDifficultyASERT lateAnchorChain (asertSmallCtx mainPowLimit) =
      calcNextRequiredDifficultyASERT movedAnchorChain (asertSmallCtx mainPowLimit) :=
  have hd : HeightsDown lateAnchorChain.nodes := ⟨rfl, rfl, rfl⟩
  have hlow : ∀ x ∈ lateAnchorChain.nodes.zip movedAnchorChain.nodes,
      x.1.height < (asertSmallCtx mainPowLimit).chainParams.asertHeight →
        x.1.timestamp = x.2.timestamp := by decide
  ⟨⟨hd, rfl, rfl, hlow⟩, calcNextRequiredDifficultyASERT_congr _ hd rfl rfl hlow⟩

end Dsvd

import Dsvd.Bounds.Monotone
import Dsvd.Safety.NoError

/-! # The next target over a slower chain

Take two chains with the same heights and bits at every position whose sampled solvetimes,
the `int64` differences of consecutive timestamps, are pointwise no smaller in the second: its
blocks came no faster. Without the minimum-difficulty rule no algorithm gives the second chain
a harder target. LWMA and LWMAv2 see a chain through the tip's height, the bits and the
solvetimes; the clamp, the weighted sum and the capped ratio are each monotone in the
solvetimes, and the window, the weights and the reference target do not read timestamps. The
legacy retarget and ASERT read one timestamp difference each, which telescopes into a sum of
solvetimes. A later tip over the same parent is the case where only the first solvetime
differs.
-/

namespace Dsvd

/-- The solvetimes the LWMA loop samples below `block`: the `int64` differences of consecutive
timestamps, nearest first. -/
def sampledSolvetimes : BlockNode → List BlockNode → List Int
  | _, [] => []
  | block, prev :: rest => wrap64 (block.timestamp - prev.timestamp) :: sampledSolvetimes prev rest

/-- The second chain has the first one's shape, and its blocks came no faster. -/
structure SlowerChain (L₁ L₂ : HeaderCtx) : Prop where
  height_eq : L₁.node.height = L₂.node.height
  bits_eq : L₁.nodes.map BlockNode.bits = L₂.nodes.map BlockNode.bits
  solvetimes_le : List.Forall₂ (· ≤ ·) (sampledSolvetimes L₁.node L₁.ancestors)
    (sampledSolvetimes L₂.node L₂.ancestors)

theorem lwmaWeightedSolvetimes_le_of_forall₂ (T : Int) :
    ∀ (i : Int) {b₁ b₂ : BlockNode} {p₁ p₂ : List BlockNode},
      List.Forall₂ (· ≤ ·) (sampledSolvetimes b₁ p₁) (sampledSolvetimes b₂ p₂) →
      lwmaWeightedSolvetimes T i b₁ p₁ ≤ lwmaWeightedSolvetimes T i b₂ p₂
  | _, _, _, [], [], _ => le_rfl
  | _, _, _, [], _ :: _, h => by simp [sampledSolvetimes] at h
  | _, _, _, _ :: _, [], h => by simp [sampledSolvetimes] at h
  | i, _, _, _ :: _, _ :: _, h => by
    obtain ⟨hle, hrest⟩ := List.forall₂_cons.mp h
    simp only [lwmaWeightedSolvetimes]
    split_ifs with hi
    · exact Int.add_le_add (Int.mul_le_mul_of_nonneg_right (clampSolvetime_mono T hle) (by omega))
        (lwmaWeightedSolvetimes_le_of_forall₂ T (i - 1) hrest)
    · exact le_rfl

/-- The weights depend only on how many parents the loop can reach. -/
theorem lwmaSumWeights_congr : ∀ (i : Int) {p₁ p₂ : List BlockNode},
    p₁.length = p₂.length → lwmaSumWeights i p₁ = lwmaSumWeights i p₂
  | _, [], [], _ => rfl
  | _, [], _ :: _, h => by simp at h
  | _, _ :: _, [], h => by simp at h
  | i, _ :: _, _ :: _, h => by
    simp only [lwmaSumWeights, lwmaSumWeights_congr (i - 1) (Nat.succ.inj h)]

/-- The window start of LWMAv2 sits at the same place in chains of the same shape. -/
theorem windowStart_bits_congr : ∀ (k : Nat) {b₁ b₂ : BlockNode} {p₁ p₂ : List BlockNode},
    (b₁ :: p₁).map BlockNode.bits = (b₂ :: p₂).map BlockNode.bits →
    (windowStart k b₁ p₁).bits = (windowStart k b₂ p₂).bits
  | 0, _, _, _, _, h => (List.cons.inj h).1
  | _ + 1, _, _, [], [], h => (List.cons.inj h).1
  | _ + 1, _, _, [], _ :: _, h => by simp at h
  | _ + 1, _, _, _ :: _, [], h => by simp at h
  | k + 1, _, _, _ :: _, _ :: _, h => windowStart_bits_congr k (List.cons.inj h).2

namespace SlowerChain

variable {L₁ L₂ : HeaderCtx}

theorem node_bits_eq (hs : SlowerChain L₁ L₂) : L₁.node.bits = L₂.node.bits :=
  (List.cons.inj hs.bits_eq).1

theorem length_eq (hs : SlowerChain L₁ L₂) : L₁.ancestors.length = L₂.ancestors.length := by
  simpa [HeaderCtx.nodes] using congrArg List.length hs.bits_eq

theorem lwmaBlocks_eq (hs : SlowerChain L₁ L₂) (params : Params) :
    lwmaBlocks L₁ params = lwmaBlocks L₂ params := by
  simp only [lwmaBlocks, hs.height_eq]

/-- The common tail of both versions, for one reference target. -/
theorem lwmaNextTarget_le (hs : SlowerChain L₁ L₂) {params : Params} {r₁ r₂ : UInt32}
    {blocks referenceTarget capFactor : Int} (hT : 1 ≤ params.secondsPerBlock)
    (hover : LwmaNoOverflow params) (hk : 1 ≤ capFactor) (hk10 : capFactor ≤ 10)
    (hb : 1 ≤ blocks) (hbN : blocks ≤ params.lwmaWindow) (href : 0 ≤ referenceTarget)
    (hpl : 0 ≤ params.powLimit ∧ params.powLimit < 2 ^ 256)
    (h₁ : lwmaNextTarget L₁ params blocks referenceTarget capFactor = .ok r₁)
    (h₂ : lwmaNextTarget L₂ params blocks referenceTarget capFactor = .ok r₂) :
    compactToBig r₁ ≤ compactToBig r₂ := by
  obtain ⟨n₁, _ | ⟨p₁, rest₁⟩⟩ := L₁
  · rw [lwmaNextTarget_nil] at h₁; cases h₁
  obtain ⟨n₂, _ | ⟨p₂, rest₂⟩⟩ := L₂
  · exact absurd hs.length_eq (by simp)
  rw [lwmaNextTarget_eq_of_window hT hover hk hk10 hb hbN, Except.ok.injEq] at h₁ h₂
  subst h₁ h₂
  rw [lwmaSumWeights_congr blocks (hs.length_eq.symm : (p₂ :: rest₂).length = _)]
  have hS := lwmaSumWeights_pos hb p₁ rest₁
  have hE : 0 < lwmaSumWeights blocks (p₁ :: rest₁) * params.secondsPerBlock :=
    Int.mul_pos (by omega) (by omega)
  have hW := (lwmaWeightedSolvetimes_mem hT blocks n₁ (p₁ :: rest₁)).1
  exact roundTrip_mono (le_min hpl.1 (lwmaTarget_nonneg href hE hk (by omega)))
    (min_le_min_left _ (lwmaTarget_mono href hE
      (lwmaWeightedSolvetimes_le_of_forall₂ _ blocks hs.solvetimes_le)))
    ((min_le_left _ _).trans_lt hpl.2)

end SlowerChain

section
variable {c : ChainCtx} {L₁ L₂ : HeaderCtx} {r₁ r₂ : UInt32}
  (hs : SlowerChain L₁ L₂) (hbits : ∀ n ∈ L₁.nodes, 0 ≤ compactToBig n.bits)
  (hT : 1 ≤ c.chainParams.secondsPerBlock) (hover : LwmaNoOverflow c.chainParams)
  (hpl : 0 ≤ c.chainParams.powLimit ∧ c.chainParams.powLimit < 2 ^ 256)
include hs hbits hT hover hpl

/-- LWMA needs only the tip's height of the heights, and no timestamp range: with `T ≥ 1`,
LWMA sums that fit in `int64`, `0 ≤ PowLimit < 2^256` and non-negative bits it gives the
slower chain a target at least the first one's. -/
theorem calcNextRequiredDifficultyLWMA_slower
    (h₁ : calcNextRequiredDifficultyLWMA L₁ c = .ok r₁)
    (h₂ : calcNextRequiredDifficultyLWMA L₂ c = .ok r₂) :
    compactToBig r₁ ≤ compactToBig r₂ := by
  simp only [calcNextRequiredDifficultyLWMA, ← hs.lwmaBlocks_eq, ← hs.node_bits_eq] at h₁ h₂
  split_ifs at h₁ h₂ with hb
  · cases h₁; cases h₂; exact le_rfl
  · exact hs.lwmaNextTarget_le hT hover (by norm_num) le_rfl (by omega) (lwmaBlocks_le _ _)
      (hbits _ (List.mem_cons_self _ _)) hpl h₁ h₂

/-- LWMAv2, under the assumptions of `calcNextRequiredDifficultyLWMA_slower`. -/
theorem calcNextRequiredDifficultyLWMAv2_slower
    (h₁ : calcNextRequiredDifficultyLWMAv2 L₁ c = .ok r₁)
    (h₂ : calcNextRequiredDifficultyLWMAv2 L₂ c = .ok r₂) :
    compactToBig r₁ ≤ compactToBig r₂ := by
  simp only [calcNextRequiredDifficultyLWMAv2, ← hs.lwmaBlocks_eq, ← hs.node_bits_eq,
    ← windowStart_bits_congr _ hs.bits_eq] at h₁ h₂
  split_ifs at h₁ h₂ with hb
  · cases h₁; cases h₂; exact le_rfl
  · exact hs.lwmaNextTarget_le hT hover (by norm_num) (by norm_num) (by omega)
      (lwmaBlocks_le _ _) (hbits _ (windowStart_mem _ _ _)) hpl h₁ h₂

end

/-! ## Every path

The legacy retarget reads the timestamp difference across its window and ASERT the one back to
the anchor's parent. In the `uint32` header range each is exact and telescopes into the sum of
the solvetimes sampled in between, at the same positions in both chains when their heights
agree, so a slower chain gives both a no smaller time. -/

theorem sum_take_le_of_forall₂ {l₁ l₂ : List Int} (h : List.Forall₂ (· ≤ ·) l₁ l₂) :
    ∀ j, (l₁.take j).sum ≤ (l₂.take j).sum := by
  induction h with
  | nil => intro j; simp
  | cons hab _ ih =>
    intro j
    cases j with
    | zero => simp
    | succ j => simpa only [List.take_succ_cons, List.sum_cons] using Int.add_le_add hab (ih j)

/-- In the `uint32` header range the timestamp difference down to the header `j` places back
is the sum of the `j` solvetimes sampled in between. -/
theorem timestamp_sub_eq_sum : ∀ (j : Nat) {b p : BlockNode} {ps rest : List BlockNode},
    InHeaderRange (b :: ps) → (b :: ps).drop j = p :: rest →
    b.timestamp - p.timestamp = ((sampledSolvetimes b ps).take j).sum
  | 0, _, _, _, _, _, h => by
    obtain ⟨rfl, rfl⟩ := List.cons.inj h
    simp
  | _ + 1, _, _, [], _, _, h => by simp at h
  | j + 1, b, p, q :: qs, rest, hr, h => by
    have hq := timestamp_sub_eq_sum j (fun n hn => hr n (List.mem_cons_of_mem _ hn)) h
    have hb := hr b (List.mem_cons_self _ _)
    have hq' := hr q (List.mem_cons_of_mem _ (List.mem_cons_self _ _))
    rw [sampledSolvetimes, List.take_succ_cons, List.sum_cons, ← hq,
      wrap64_of_range (by omega) (by omega)]
    omega

/-- In the `uint32` header range a timestamp difference down the chain does not wrap. -/
theorem wrap64_timestamp_sub {L : HeaderCtx} (hr : InHeaderRange L.nodes) {j : Nat}
    {p : BlockNode} {rest : List BlockNode} (h : L.nodes.drop j = p :: rest) :
    wrap64 (L.node.timestamp - p.timestamp) = L.node.timestamp - p.timestamp := by
  have ha := hr L.node (List.mem_cons_self _ _)
  have hp := hr p (List.mem_of_mem_drop (h ▸ List.mem_cons_self _ _))
  exact wrap64_of_range (by omega) (by omega)

/-- The timestamp differences down to the same position of a slower chain compare. -/
theorem timestamp_sub_le {L₁ L₂ : HeaderCtx} (hs : SlowerChain L₁ L₂)
    (hr₁ : InHeaderRange L₁.nodes) (hr₂ : InHeaderRange L₂.nodes) {j : Nat} {p₁ p₂ : BlockNode}
    {rest₁ rest₂ : List BlockNode} (h₁ : L₁.nodes.drop j = p₁ :: rest₁)
    (h₂ : L₂.nodes.drop j = p₂ :: rest₂) :
    wrap64 (L₁.node.timestamp - p₁.timestamp) ≤ wrap64 (L₂.node.timestamp - p₂.timestamp) := by
  rw [wrap64_timestamp_sub hr₁ h₁, wrap64_timestamp_sub hr₂ h₂, timestamp_sub_eq_sum j hr₁ h₁,
    timestamp_sub_eq_sum j hr₂ h₂]
  exact sum_take_le_of_forall₂ hs.solvetimes_le j

theorem relativeAncestorCtx_drop {L first : HeaderCtx} {k : Int}
    (h : L.relativeAncestorCtx k = some first) :
    L.nodes.drop k.toNat = first.node :: first.ancestors := by
  unfold HeaderCtx.relativeAncestorCtx at h
  split at h
  · cases h
  · split at h
    · cases h
    · cases h; assumption

theorem drop_succ_of_drop_eq_cons {α : Type} {x : α} {y : List α} :
    ∀ {l : List α} {j : Nat}, l.drop j = x :: y → l.drop (j + 1) = y
  | [], 0, h => by cases h
  | _ :: _, 0, h => by cases h; rfl
  | [], _ + 1, h => by cases h
  | _ :: l, j + 1, h => drop_succ_of_drop_eq_cons (l := l) h

/-- Over the same heights the anchor walk stops at the same position of both chains. -/
theorem asertAnchor_drop {H : Int} :
    ∀ {b₁ b₂ : BlockNode} {ps₁ ps₂ : List BlockNode} {a₁ a₂ : HeaderCtx},
      (b₁ :: ps₁).map BlockNode.height = (b₂ :: ps₂).map BlockNode.height →
      asertAnchor H b₁ ps₁ = .ok a₁ → asertAnchor H b₂ ps₂ = .ok a₂ →
      ∃ j, (b₁ :: ps₁).drop j = a₁.node :: a₁.ancestors ∧
        (b₂ :: ps₂).drop j = a₂.node :: a₂.ancestors
  | b₁, b₂, [], [], _, _, hh, h₁, h₂ => by
    simp only [asertAnchor, (List.cons.inj hh).1] at h₁ h₂
    split_ifs at h₁ h₂
    cases h₁; cases h₂
    exact ⟨0, rfl, rfl⟩
  | _, _, [], _ :: _, _, _, hh, _, _ => by simp at hh
  | _, _, _ :: _, [], _, _, hh, _, _ => by simp at hh
  | b₁, b₂, q₁ :: r₁, q₂ :: r₂, _, _, hh, h₁, h₂ => by
    simp only [asertAnchor, (List.cons.inj hh).1] at h₁ h₂
    split_ifs at h₁ h₂
    · obtain ⟨j, hj₁, hj₂⟩ := asertAnchor_drop (List.cons.inj hh).2 h₁ h₂
      exact ⟨j + 1, hj₁, hj₂⟩
    · cases h₁; cases h₂
      exact ⟨0, rfl, rfl⟩

/-- The anchor's parent sits one place below the anchor. -/
theorem drop_parent {L a p : HeaderCtx} {j : Nat} (h : L.nodes.drop j = a.node :: a.ancestors)
    (hp : a.parent = some p) : L.nodes.drop (j + 1) = p.node :: p.ancestors := by
  rw [drop_succ_of_drop_eq_cons h]
  obtain ⟨n, _ | ⟨q, qs⟩⟩ := a
  · cases hp
  · cases hp; rfl

section
variable {c : ChainCtx} {L₁ L₂ : HeaderCtx} {r₁ r₂ : UInt32}
  (hs : SlowerChain L₁ L₂) (hr₁ : InHeaderRange L₁.nodes) (hr₂ : InHeaderRange L₂.nodes)
include hs hr₁ hr₂

theorem calcNextRequiredDifficultyLegacy_slower
    (hred : c.chainParams.reduceMinDifficulty = false) (hold : 0 ≤ compactToBig L₁.node.bits)
    (hmin : 0 ≤ c.minRetargetTimespan) (hminmax : c.minRetargetTimespan ≤ c.maxRetargetTimespan)
    (htt : 1 ≤ seconds c.chainParams.targetTimespan)
    (hpl : 0 ≤ c.chainParams.powLimit ∧ c.chainParams.powLimit < 2 ^ 256) {newBlockTime : Int}
    (h₁ : calcNextRequiredDifficultyLegacy L₁ newBlockTime c = .ok r₁)
    (h₂ : calcNextRequiredDifficultyLegacy L₂ newBlockTime c = .ok r₂) :
    compactToBig r₁ ≤ compactToBig r₂ := by
  have hw : retargetWindow L₁ c = retargetWindow L₂ c := by
    simp only [retargetWindow, hs.height_eq]
  obtain ⟨-, hcase₁⟩ := calcNextRequiredDifficultyLegacy_ok h₁
  obtain ⟨-, hcase₂⟩ := calcNextRequiredDifficultyLegacy_ok h₂
  rw [hs.height_eq] at hcase₁
  rcases hcase₁ with ⟨hoff, ⟨-, rfl⟩ | ⟨hred₁, -⟩⟩ | ⟨hoff, first₁, hfirst₁, -, rfl⟩
  · rcases hcase₂ with ⟨-, ⟨-, rfl⟩ | ⟨hred₂, -⟩⟩ | ⟨hoff', -⟩
    · rw [hs.node_bits_eq]
    · exact absurd hred₂ (by simp [hred])
    · exact absurd hoff' hoff
  · exact absurd hred₁ (by simp [hred])
  · rcases hcase₂ with ⟨hoff', -⟩ | ⟨-, first₂, hfirst₂, -, rfl⟩
    · exact absurd hoff hoff'
    rw [← hw] at hfirst₂
    exact roundTrip_mono (legacyTarget_nonneg hmin (hmin.trans hminmax) (by omega) hpl.1 hold)
      (legacyTarget_mono hminmax (by omega) hold hs.node_bits_eq
        (timestamp_sub_le hs hr₁ hr₂ (relativeAncestorCtx_drop hfirst₁)
          (relativeAncestorCtx_drop hfirst₂)))
      ((legacyTarget_le _ _ _).trans_lt hpl.2)

theorem calcNextRequiredDifficultyASERT_slower
    (hh : L₁.nodes.map BlockNode.height = L₂.nodes.map BlockNode.height)
    (hA : 0 ≤ compactToBig c.chainParams.asertAnchorBits)
    (hpl : 1 ≤ c.chainParams.powLimit ∧ c.chainParams.powLimit < 2 ^ 256)
    (hhl : 1 ≤ c.chainParams.asertHalfLife)
    (hfit₁ : AsertExponentFits L₁ c.chainParams) (hfit₂ : AsertExponentFits L₂ c.chainParams)
    (h₁ : calcNextRequiredDifficultyASERT L₁ c = .ok r₁)
    (h₂ : calcNextRequiredDifficultyASERT L₂ c = .ok r₂) :
    compactToBig r₁ ≤ compactToBig r₂ := by
  obtain ⟨anchor₁, parent₁, hanchor₁, hparent₁⟩ := calcNextRequiredDifficultyASERT_anchor h₁
  obtain ⟨anchor₂, parent₂, hanchor₂, hparent₂⟩ := calcNextRequiredDifficultyASERT_anchor h₂
  obtain ⟨j, hj₁, hj₂⟩ := asertAnchor_drop hh hanchor₁ hanchor₂
  obtain ⟨hdev₁, hx₁⟩ := hfit₁ _ _ hanchor₁ hparent₁
  obtain ⟨hdev₂, hx₂⟩ := hfit₂ _ _ hanchor₂ hparent₂
  rw [calcNextRequiredDifficultyASERT_eq_clamp hanchor₁ hparent₁ hA hpl.1 hhl hdev₁ hx₁,
    Except.ok.injEq] at h₁
  rw [calcNextRequiredDifficultyASERT_eq_clamp hanchor₂ hparent₂ hA hpl.1 hhl hdev₂ hx₂,
    Except.ok.injEq] at h₂
  subst h₁ h₂
  have hd₁ := drop_parent hj₁ hparent₁
  have hd₂ := drop_parent hj₂ hparent₂
  have hts := timestamp_sub_le hs hr₁ hr₂ hd₁ hd₂
  rw [wrap64_timestamp_sub hr₁ hd₁, wrap64_timestamp_sub hr₂ hd₂] at hts
  have hdev : scheduleDeviation L₁ parent₁ c.chainParams ≤
      scheduleDeviation L₂ parent₂ c.chainParams := by
    simp only [scheduleDeviation, hs.height_eq]
    omega
  exact roundTrip_mono (zero_le_one.trans (asertClamp_mem hpl.1 _ _).1)
    (asertClamp_exponent_mono hpl.1 hA
      (tdiv_le_tdiv (by omega) (Int.mul_le_mul_of_nonneg_right hdev (by norm_num))))
    ((asertClamp_mem hpl.1 _ _).2.trans_lt hpl.2)

/-- **No algorithm hardens on a slower chain.** Without the minimum-difficulty rule, take two
chains with the same heights and bits at every position, timestamps in the `uint32` header
range, and sampled solvetimes pointwise no smaller in the second. Whichever algorithm runs,
the second chain's next target decodes to at least the first's, under the assumptions of
`calcNextRequiredDifficulty_tip_mono`: non-negative bits and anchor bits,
`1 ≤ PowLimit < 2^256`, `0 ≤ MinRetargetTimespan ≤ MaxRetargetTimespan`,
`TargetTimespan ≥ 1 s`, `T ≥ 1`, `ASERTHalfLife ≥ 1`, LWMA sums and ASERT exponents that
fit. -/
theorem calcNextRequiredDifficulty_slower (hred : c.chainParams.reduceMinDifficulty = false)
    (hh : L₁.nodes.map BlockNode.height = L₂.nodes.map BlockNode.height)
    (hbits : ∀ n ∈ L₁.nodes, 0 ≤ compactToBig n.bits)
    (hA : 0 ≤ compactToBig c.chainParams.asertAnchorBits)
    (hpl : 1 ≤ c.chainParams.powLimit ∧ c.chainParams.powLimit < 2 ^ 256)
    (hmin : 0 ≤ c.minRetargetTimespan) (hminmax : c.minRetargetTimespan ≤ c.maxRetargetTimespan)
    (htt : 1 ≤ seconds c.chainParams.targetTimespan) (hT : 1 ≤ c.chainParams.secondsPerBlock)
    (hhl : 1 ≤ c.chainParams.asertHalfLife) (hover : LwmaNoOverflow c.chainParams)
    (hfit₁ : AsertExponentFits L₁ c.chainParams) (hfit₂ : AsertExponentFits L₂ c.chainParams)
    {newBlockTime : Int}
    (h₁ : calcNextRequiredDifficulty (some L₁) newBlockTime c = .ok r₁)
    (h₂ : calcNextRequiredDifficulty (some L₂) newBlockTime c = .ok r₂) :
    compactToBig r₁ ≤ compactToBig r₂ := by
  have hpl0 : 0 ≤ c.chainParams.powLimit ∧ c.chainParams.powLimit < 2 ^ 256 := ⟨by omega, hpl.2⟩
  rw [calcNextRequiredDifficulty_some] at h₁ h₂
  rw [hs.height_eq] at h₁
  split at h₁
  · rw [if_pos ‹_›] at h₂
    cases h₁; cases h₂; exact le_rfl
  rw [if_neg ‹_›] at h₂
  cases hsel : selectAlgorithm c.chainParams (wrap32 (L₂.node.height + 1)) <;>
    simp only [hsel] at h₁ h₂
  case asert =>
    exact calcNextRequiredDifficultyASERT_slower hs hr₁ hr₂ hh hA hpl hhl hfit₁ hfit₂ h₁ h₂
  case lwmaV2 => exact calcNextRequiredDifficultyLWMAv2_slower hs hbits hT hover hpl0 h₁ h₂
  case lwma => exact calcNextRequiredDifficultyLWMA_slower hs hbits hT hover hpl0 h₁ h₂
  case legacy =>
    exact calcNextRequiredDifficultyLegacy_slower hs hr₁ hr₂ hred
      (hbits _ (List.mem_cons_self _ _)) hmin hminmax htt hpl0 h₁ h₂

end

/-- Three ASERT headers from `asertFirstNode`, on schedule. -/
def onScheduleChain : HeaderCtx :=
  ⟨{ height := 2, timestamp := 1000300, bits := 0x1d00ffff },
    [{ height := 1, timestamp := 1000150, bits := 0x1d00ffff }, asertFirstNode]⟩

/-- The same headers with the anchor one half-life late and the tip on time after it. -/
def lateAnchorChain : HeaderCtx :=
  ⟨{ height := 2, timestamp := 1003900, bits := 0x1d00ffff },
    [{ height := 1, timestamp := 1003750, bits := 0x1d00ffff }, asertFirstNode]⟩

/-- The solvetime that differs lies below the tip, where a later tip cannot reach: the late
anchor doubles the target. -/
theorem calcNextRequiredDifficulty_slower_lateAnchor :
    (SlowerChain onScheduleChain lateAnchorChain ∧ InHeaderRange onScheduleChain.nodes ∧
      InHeaderRange lateAnchorChain.nodes ∧
      onScheduleChain.nodes.map BlockNode.height = lateAnchorChain.nodes.map BlockNode.height ∧
      calcNextRequiredDifficulty (some onScheduleChain) 0 (asertSmallCtx mainPowLimit) =
        .ok 0x1d00ffff ∧
      calcNextRequiredDifficulty (some lateAnchorChain) 0 (asertSmallCtx mainPowLimit) =
        .ok 0x1d01fffe) ∧
    compactToBig 0x1d00ffff ≤ compactToBig 0x1d01fffe :=
  have hs : SlowerChain onScheduleChain lateAnchorChain := ⟨rfl, rfl, by decide⟩
  have hr₁ : InHeaderRange onScheduleChain.nodes := by unfold InHeaderRange; decide
  have hr₂ : InHeaderRange lateAnchorChain.nodes := by unfold InHeaderRange; decide
  have h₁ : calcNextRequiredDifficulty (some onScheduleChain) 0 (asertSmallCtx mainPowLimit) =
      .ok 0x1d00ffff := rfl
  have h₂ : calcNextRequiredDifficulty (some lateAnchorChain) 0 (asertSmallCtx mainPowLimit) =
      .ok 0x1d01fffe := rfl
  ⟨⟨hs, hr₁, hr₂, rfl, h₁, h₂⟩,
    calcNextRequiredDifficulty_slower hs hr₁ hr₂ rfl rfl (by decide) (by decide)
      ⟨by decide, by norm_num [asertSmallCtx, asertSmallParams, mainPowLimit]⟩
      (by decide) (by decide) (by decide) (by decide) (by decide) (by unfold LwmaNoOverflow; decide)
      (fun _ _ ha hp => by cases ha; cases hp; decide)
      (fun _ _ ha hp => by cases ha; cases hp; decide) h₁ h₂⟩

end Dsvd

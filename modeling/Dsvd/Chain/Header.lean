import Dsvd.Basic.GoInt

/-! # Headers, chains and network parameters

The retarget code reads headers through the `HeaderCtx` interface and the network through
`ChainCtx`; neither interface is among the modelled sources, so both follow the
specification. A header comes with the ancestors its `Parent()` walk visits, nearest
first. `Params` keeps the fields of `chaincfg.Params` that a modelled function reads, each
with its Go type: fixed-width fields carry their range, and a field left out of a
structure literal takes Go's zero value.
-/

namespace Dsvd

/-- A header as `HeaderCtx` exposes it: an `int32` height, an `int64` Unix timestamp and
the compact difficulty bits. -/
structure BlockNode where
  height : Int
  timestamp : Int
  bits : UInt32
  height_int32 : IsInt32 height := by decide
  timestamp_int64 : IsInt64 timestamp := by decide

/-- Modelled from the spec: a `HeaderCtx`, a header together with the headers that
`Parent()` reaches from it, nearest first. -/
structure HeaderCtx where
  node : BlockNode
  ancestors : List BlockNode

namespace HeaderCtx

/-- `Parent()`: absent at the first header of the chain. -/
def parent (h : HeaderCtx) : Option HeaderCtx :=
  match h.ancestors with
  | [] => none
  | p :: ps => some ⟨p, ps⟩

/-- The headers from `h` back to the first one. -/
def nodes (h : HeaderCtx) : List BlockNode := h.node :: h.ancestors

/-- Modelled from the spec: `RelativeAncestorCtx(n)` walks back `n` generations and is nil
when the chain is shorter; a negative distance names no ancestor. -/
def relativeAncestorCtx (h : HeaderCtx) (n : Int) : Option HeaderCtx :=
  if n < 0 then none else
  match h.nodes.drop n.toNat with
  | [] => none
  | p :: ps => some ⟨p, ps⟩

@[simp] theorem parent_nil (n : BlockNode) : parent ⟨n, []⟩ = none := rfl

@[simp] theorem parent_cons (n p : BlockNode) (ps : List BlockNode) :
    parent ⟨n, p :: ps⟩ = some ⟨p, ps⟩ := rfl

@[simp] theorem nodes_mk (n : BlockNode) (ps : List BlockNode) :
    nodes ⟨n, ps⟩ = n :: ps := rfl

@[simp] theorem relativeAncestorCtx_zero (h : HeaderCtx) : h.relativeAncestorCtx 0 = some h := rfl

theorem relativeAncestorCtx_mem {h a : HeaderCtx} {n : Int}
    (ha : h.relativeAncestorCtx n = some a) : a.node ∈ h.nodes := by
  unfold relativeAncestorCtx at ha
  split at ha
  · cases ha
  · split at ha
    · cases ha
    · cases ha
      exact List.mem_of_mem_drop (by rename_i heq; rw [heq]; exact List.mem_cons_self _ _)

end HeaderCtx

/-- Four bytes of a BIP32 extended-key version, `[4]byte`. -/
def KeyID := { b : List UInt8 // b.length = 4 }

instance : DecidableEq KeyID := inferInstanceAs (DecidableEq { b : List UInt8 // b.length = 4 })

/-- The fields of `chaincfg.Params` that the modelled code reads. Durations are `int64`
nanoseconds; `powLimit` is a `*big.Int` and has no zero value to fall back on. -/
structure Params where
  powLimit : Int
  powLimitBits : UInt32 := 0
  poWNoRetargeting : Bool := false
  targetTimespan : Int := 0
  targetTimePerBlock : Int := 0
  retargetAdjustmentFactor : Int := 0
  reduceMinDifficulty : Bool := false
  minDiffReductionTime : Int := 0
  lwmaHeight : Int := 0
  lwmaFixHeight : Int := 0
  lwmaWindow : Int := 0
  asertHeight : Int := 0
  asertHalfLife : Int := 0
  asertAnchorBits : UInt32 := 0
  net : UInt32 := 0
  bech32HRPSegwit : String := ""
  bech32HRPMweb : String := ""
  pubKeyHashAddrID : UInt8 := 0
  scriptHashAddrID : UInt8 := 0
  hdPrivateKeyID : KeyID := ⟨[0, 0, 0, 0], rfl⟩
  hdPublicKeyID : KeyID := ⟨[0, 0, 0, 0], rfl⟩
  fixedWidth : IsInt64 targetTimespan ∧ IsInt64 targetTimePerBlock ∧
    IsInt64 retargetAdjustmentFactor ∧ IsInt64 minDiffReductionTime ∧ IsInt32 lwmaHeight ∧
    IsInt32 lwmaFixHeight ∧ IsInt64 lwmaWindow ∧ IsInt32 asertHeight ∧
    IsInt64 asertHalfLife := by decide

/-- Modelled from the spec: the `ChainCtx` capability, the parameters and the three
quantities derived from them, read as given. -/
structure ChainCtx where
  chainParams : Params
  blocksPerRetarget : Int
  minRetargetTimespan : Int
  maxRetargetTimespan : Int
  fixedWidth : IsInt32 blocksPerRetarget ∧ IsInt64 minRetargetTimespan ∧
    IsInt64 maxRetargetTimespan := by decide

/-- `T`: the target spacing in whole seconds, `int64(TargetTimePerBlock / time.Second)`. -/
def Params.secondsPerBlock (p : Params) : Int := seconds p.targetTimePerBlock

end Dsvd

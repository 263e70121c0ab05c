import Dsvd.Chain.Header

/-! # The default networks

The parameter sets of `chaincfg` for the networks that `init` registers, restricted to the
fields of `Params`, and the first header of each chain. Durations are in nanoseconds as
`time.Duration` has them. The `ChainCtx` of a network follows the derived quantities of the
specification: `BlocksPerRetarget = TargetTimespan / TargetTimePerBlock`,
`MinRetargetTimespan = TargetTimespan / RetargetAdjustmentFactor` and
`MaxRetargetTimespan = TargetTimespan * RetargetAdjustmentFactor`, in seconds.
-/

namespace Dsvd

/-- `time.Second`, `time.Minute` and `time.Hour` in nanoseconds. -/
def second : Int := 1000000000
/-- `time.Minute`. -/
def minute : Int := 60 * second
/-- `time.Hour`. -/
def hour : Int := 60 * minute

/-! The `wire` package is not among the sources. These are the network magics of the
upstream `ltcd` `wire` package; the development only uses that they differ. -/

namespace Wire

/-- `wire.MainNet`. -/
def mainNet : UInt32 := 0xdbb6c0fb
/-- `wire.TestNet`, the regression test network. -/
def testNet : UInt32 := 0xdab5bffa
/-- `wire.TestNet4`. -/
def testNet4 : UInt32 := 0xf1c8d2fd
/-- `wire.SimNet`. -/
def simNet : UInt32 := 0x12141c16

end Wire

/-- `mainPowLimit`. -/
def mainPowLimit : Int := 0x0fffff000000000000000000000000000000000000000000000000000000

/-- `regressionPowLimit`, `2^255 - 1`. -/
def regressionPowLimit : Int :=
  0x7fffffffffffffffffffffffffffffffffffffffffffffffffffffffffffffff

/-- `testNet4PowLimit`. -/
def testNet4PowLimit : Int := 0x0fffff000000000000000000000000000000000000000000000000000000

/-- `simNetPowLimit`, `2^255 - 1`. -/
def simNetPowLimit : Int :=
  0x7fffffffffffffffffffffffffffffffffffffffffffffffffffffffffffffff

/-- `MainNetParams`. -/
def mainNetParams : Params :=
  { net := Wire.mainNet
    powLimit := mainPowLimit
    powLimitBits := 0x1e0ffff0
    targetTimespan := hour * 24 * 3 + hour * 12
    targetTimePerBlock := minute * 2 + second * 30
    retargetAdjustmentFactor := 4
    reduceMinDifficulty := false
    minDiffReductionTime := 0
    lwmaHeight := 1243845
    lwmaFixHeight := 1244300
    lwmaWindow := 45
    asertHeight := 1246000
    asertHalfLife := 3600
    asertAnchorBits := 0x1d18ffe7
    bech32HRPSegwit := "dsv"
    bech32HRPMweb := "dsvmweb"
    pubKeyHashAddrID := 0x1e
    scriptHashAddrID := 0x05
    hdPrivateKeyID := ⟨[0x04, 0x88, 0xad, 0xe4], rfl⟩
    hdPublicKeyID := ⟨[0x04, 0x88, 0xb2, 0x1e], rfl⟩ }

/-- `RegressionNetParams`. -/
def regressionNetParams : Params :=
  { net := Wire.testNet
    powLimit := regressionPowLimit
    powLimitBits := 0x207fffff
    poWNoRetargeting := true
    targetTimespan := hour * 24 * 3 + hour * 12
    targetTimePerBlock := minute * 2 + second * 30
    retargetAdjustmentFactor := 4
    reduceMinDifficulty := true
    minDiffReductionTime := minute * 20
    lwmaHeight := 500
    lwmaFixHeight := 600
    lwmaWindow := 45
    asertHeight := 700
    asertHalfLife := 3600
    asertAnchorBits := 0x1d18ffe7
    bech32HRPSegwit := "rdsv"
    bech32HRPMweb := "tmweb"
    pubKeyHashAddrID := 0x6f
    scriptHashAddrID := 0xc4
    hdPrivateKeyID := ⟨[0x04, 0x35, 0x83, 0x94], rfl⟩
    hdPublicKeyID := ⟨[0x04, 0x35, 0x87, 0xcf], rfl⟩ }

/-- `TestNet4Params`. -/
def testNet4Params : Params :=
  { net := Wire.testNet4
    powLimit := testNet4PowLimit
    powLimitBits := 0x1e0fffff
    targetTimespan := hour * 24 * 3 + hour * 12
    targetTimePerBlock := minute * 2 + second * 30
    retargetAdjustmentFactor := 4
    reduceMinDifficulty := true
    minDiffReductionTime := minute * 5
    lwmaHeight := 100
    lwmaFixHeight := 200
    lwmaWindow := 45
    asertHeight := 300
    asertHalfLife := 3600
    asertAnchorBits := 0x1d18ffe7
    bech32HRPSegwit := "tdsv"
    bech32HRPMweb := "tmweb"
    pubKeyHashAddrID := 0x6f
    scriptHashAddrID := 0xc4
    hdPrivateKeyID := ⟨[0x04, 0x35, 0x83, 0x94], rfl⟩
    hdPublicKeyID := ⟨[0x04, 0x35, 0x87, 0xcf], rfl⟩ }

/-- `SimNetParams`: no LWMA or ASERT activation and no MWEB prefix. -/
def simNetParams : Params :=
  { net := Wire.simNet
    powLimit := simNetPowLimit
    powLimitBits := 0x207fffff
    targetTimespan := hour * 24 * 3 + hour * 12
    targetTimePerBlock := minute * 2 + second * 30
    retargetAdjustmentFactor := 4
    reduceMinDifficulty := true
    minDiffReductionTime := minute * 20
    bech32HRPSegwit := "sdsv"
    pubKeyHashAddrID := 0x3f
    scriptHashAddrID := 0x7b
    hdPrivateKeyID := ⟨[0x04, 0x20, 0xb9, 0x00], rfl⟩
    hdPublicKeyID := ⟨[0x04, 0x20, 0xbd, 0x3a], rfl⟩ }

/-- Modelled from the spec: the `ChainCtx` of the main network. -/
def mainNetCtx : ChainCtx :=
  { chainParams := mainNetParams
    blocksPerRetarget :=
      seconds mainNetParams.targetTimespan / seconds mainNetParams.targetTimePerBlock
    minRetargetTimespan :=
      seconds mainNetParams.targetTimespan / mainNetParams.retargetAdjustmentFactor
    maxRetargetTimespan :=
      seconds mainNetParams.targetTimespan * mainNetParams.retargetAdjustmentFactor }

example : mainNetCtx.blocksPerRetarget = 2016 ∧ mainNetCtx.minRetargetTimespan = 75600 ∧
    mainNetCtx.maxRetargetTimespan = 1209600 := by decide

/-- The header of `genesisBlock` at height 0. -/
def genesisNode : BlockNode := { height := 0, timestamp := 1394325760, bits := 0x1e0ffff0 }

end Dsvd

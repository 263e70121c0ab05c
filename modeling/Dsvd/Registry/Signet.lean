import Dsvd.Chain.Networks
import Dsvd.Work.Measure

/-! # Custom signets

`CustomSignetParams` derives a network magic from the double SHA-256 of the challenge script
as a single push, and otherwise returns constant parameters that reuse the test network's
address IDs, its segwit prefix and its HD key pair, with no MWEB prefix. The hash function is
not among the sources and is a parameter here.
-/

namespace Dsvd

/-- `sigNetPowLimit`, `0x0377ae << 216`. -/
def sigNetPowLimit : Int := 0x0377ae * 2 ^ 216

/-- `binary.LittleEndian.Uint32` of the first four bytes. -/
def littleEndianUint32 (b : List UInt8) : UInt32 :=
  (b.getD 0 0).toUInt32 ||| (b.getD 1 0).toUInt32 <<< 8 ||| (b.getD 2 0).toUInt32 <<< 16 |||
    (b.getD 3 0).toUInt32 <<< 24

/-- `CustomSignetParams` over the fields of `Params`, for a double SHA-256 `doubleHashB`. The
challenge length is a `byte`, so it wraps at 256. -/
def customSignetParams (doubleHashB : List UInt8 → Hash) (challenge : List UInt8) : Params :=
  let challengeLength := UInt8.ofNat challenge.length
  let hashDouble := (doubleHashB (challengeLength :: challenge)).val
  let net := littleEndianUint32 (hashDouble.take 4)
  { net := net
    powLimit := sigNetPowLimit
    powLimitBits := 0x207fffff
    targetTimespan := hour * 24 * 3 + hour * 12
    targetTimePerBlock := minute * 2 + second * 30
    retargetAdjustmentFactor := 4
    reduceMinDifficulty := false
    minDiffReductionTime := minute * 20
    bech32HRPSegwit := "tdsv"
    pubKeyHashAddrID := 0x6f
    scriptHashAddrID := 0xc4
    hdPrivateKeyID := ⟨[0x04, 0x35, 0x83, 0x94], rfl⟩
    hdPublicKeyID := ⟨[0x04, 0x35, 0x87, 0xcf], rfl⟩ }

end Dsvd

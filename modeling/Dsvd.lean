import Dsvd.Basic.GoInt
import Dsvd.Compact.Codec
import Dsvd.Compact.Rounding
import Dsvd.Compact.Sign
import Dsvd.Work.Measure
import Dsvd.Chain.Header
import Dsvd.Chain.Networks
import Dsvd.Retarget.Legacy
import Dsvd.Retarget.LWMA
import Dsvd.Retarget.ASERT
import Dsvd.Retarget.Dispatch
import Dsvd.Bounds.Step
import Dsvd.Bounds.Ceiling
import Dsvd.Retarget.Eras
import Dsvd.Bounds.Monotone
import Dsvd.Bounds.Solvetimes
import Dsvd.Safety.NoError
import Dsvd.Retarget.Testnet
import Dsvd.Retarget.Reads
import Dsvd.Bounds.Steady
import Dsvd.Checkpoint.Easiest
import Dsvd.Checkpoint.Monotone
import Dsvd.Registry.Register
import Dsvd.Registry.Calls
import Dsvd.Registry.Signet

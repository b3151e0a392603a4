import CubridDriver.Placeholders
import CubridDriver.NumericParams
import CubridDriver.StringParams
import CubridDriver.Pool.Sync
import CubridDriver.Pool.Leaks
import CubridDriver.Stale
import CubridDriver.Fetch
import CubridDriver.Pool.Close
import CubridDriver.RowShape
import CubridDriver.CellSize
import CubridDriver.Call
import CubridDriver.Release
import CubridDriver.Token
import CubridDriver.Pool.Carry
import CubridDriver.ServerErrors
import CubridDriver.Affected
import CubridDriver.OpenDatabase
import CubridDriver.Framing
import CubridDriver.Arguments
import CubridDriver.BindParams
import CubridDriver.Agreement
import CubridDriver.FetchCount
import CubridDriver.Percent
import CubridDriver.DsnRoundTrip
import CubridDriver.Sections
import CubridDriver.Fields
import CubridDriver.DsnAddress
import CubridDriver.Lib.Refine
import CubridDriver.Calls
import CubridDriver.Replies
import CubridDriver.Direct
import CubridDriver.Transparent
import CubridDriver.Equivalence
import CubridDriver.Handshake
import CubridDriver.Site
import CubridDriver.Pool.Ownership
import CubridDriver.Pool.Delay
import CubridDriver.Pool.Served
import CubridDriver.Ledger
import CubridDriver.Meaning
import CubridDriver.Literals

import GalayRpc.Oversize
import GalayRpc.Stream
import GalayRpc.PayloadObservers
import GalayRpc.StreamReuse
import GalayRpc.TwoStepReads
import GalayRpc.RawIovec
import GalayRpc.AsyncResults
import GalayRpc.ExpectedResponse
import GalayRpc.MessageReads
import GalayRpc.Writev
import GalayRpc.Limits
import GalayRpc.StreamReject
import GalayRpc.Borrow
import GalayRpc.ServerBorrow
import GalayRpc.Discovery
import GalayRpc.Server
import GalayRpc.HalfSent
import GalayRpc.Timeout
import GalayRpc.ServerConn
import GalayRpc.RouteQueue
import GalayRpc.Link
import GalayRpc.LinkLive
import GalayRpc.Lifecycle
import GalayRpc.Servers
import GalayRpc.Segmentation
import GalayRpc.ServerRuns
import GalayRpc.StreamRuns

import Slipstream.Lts
import Slipstream.Bytes
import Slipstream.Utf8
import Slipstream.Types
import Slipstream.Config
import Slipstream.Attempts
import Slipstream.FallbackChain
import Slipstream.WsMessage
import Slipstream.Transport
import Slipstream.Connect
import Slipstream.TtlLog
import Slipstream.Dedup
import Slipstream.SubmitRace
import Slipstream.MultiRegion
import Slipstream.HealthMonitor
import Slipstream.SharedQueue
import Slipstream.WsSubmit
import Slipstream.WsDemux
import Slipstream.QuicResponse
import Slipstream.QuicStream
import Slipstream.QuicSubscribe
import Slipstream.ConnFlag
import Slipstream.Intake
import Slipstream.WsSubmitRun
import Slipstream.SubmitResponse
import Slipstream.WsOutcome
import Slipstream.QuicTotal
import Slipstream.SubmitLog
import Slipstream.CertPin
import Slipstream.Credentials
import Slipstream.SubmitRequest
import Slipstream.Resubscribe
import Slipstream.Discovery
import Slipstream.DiscoveryConnect
import Slipstream.RegionMap
import Slipstream.Framing
import Slipstream.QuicFrames
import Slipstream.Verdict
import Slipstream.LeaderHints
import Slipstream.Publish
import Slipstream.Routing
import Slipstream.LeaderSelection
import Slipstream.SelectorRuns
import Slipstream.Failover
import Slipstream.Broadcast
import Slipstream.Median
import Slipstream.TimeSync
import Slipstream.WsStall
import Slipstream.QuicReuse
import Slipstream.LatestTip
import Slipstream.QuicAuth
import Slipstream.FormUrl
import Slipstream.RawQuery
import Slipstream.LandingRates
import Slipstream.Metrics
import Slipstream.RegionCalls
import Slipstream.LogReader
import Slipstream.Polling
import Slipstream.RwLock
import Slipstream.ClientLocks
import Slipstream.Relay
import Slipstream.GrpcStreams
import Slipstream.MonitorTiming
import Slipstream.Radix
import Slipstream.Base64
import Slipstream.JsonText
import Slipstream.Payloads
import Slipstream.Bundles
import Slipstream.Signatures
import Slipstream.Endpoints
import Slipstream.Binary64
import Slipstream.TransactionBuilder
import Slipstream.Records
import Slipstream.ServerText
import Slipstream.DiscoveryText
import Slipstream.Keepalive
import Slipstream.Accounts
import Slipstream.ResultText
import Slipstream.WsDelivery
import Slipstream.QuicDelivery

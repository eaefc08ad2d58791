import Strobengine.Metrics.Order
import Strobengine.Distributed.Worker.RunSlot
import Strobengine.Distributed.Worker.Advertised
import Strobengine.Distributed.Worker.ActiveVus
import Strobengine.Distributed.Backoff
import Strobengine.Distributed.Master.Pipeline.Extremes
import Strobengine.Distributed.Master.CommandStreams
import Strobengine.Distributed.Master.Pipeline.Times
import Strobengine.Distributed.Master.Report
import Strobengine.Distributed.Cluster
import Strobengine.Local.Teardown
import Strobengine.Local.Totals
import Strobengine.Local.Sampler
import Strobengine.Reports.Atomicity
import Strobengine.Protocols.Stomp.Refinement
import Strobengine.Protocols.Sse.Totals
import Strobengine.Protocols.Sse.Cap
import Strobengine.Protocols.Sse.Roundtrip
import Strobengine.Protocols.GraphqlWs.Reconnect
import Strobengine.Protocols.GraphqlWs.Messages
import Strobengine.Protocols.GraphqlWs.Renewal
import Strobengine.Protocols.FirstMessage
import Strobengine.Protocols.Websocket.Pairing
import Strobengine.Protocols.Websocket.Heartbeats
import Strobengine.Protocols.Websocket.Sockets
import Strobengine.Protocols.Grpc.Path
import Strobengine.Protocols.Grpc.SharedSlot
import Strobengine.Protocols.Http3.ZeroRtt
import Strobengine.Distributed.Telemetry.Classes
import Strobengine.Local.Durations
import Strobengine.Metrics.Windows
import Strobengine.Protocols.Grpc.Response
import Strobengine.Protocols.Grpc.Sending
import Strobengine.Protocols.Sse.Decoding
import Strobengine.Protocols.Stomp.Authority
import Strobengine.Protocols.Stomp.Buffering
import Strobengine.Protocols.Websocket.Backpressure
import Strobengine.Rng
import Strobengine.Distributed.Cluster.Answers
import Strobengine.Distributed.Master.Liveness
import Strobengine.Distributed.Master.Pipeline.Requests
import Strobengine.Distributed.RunTask.Numbering
import Strobengine.Distributed.Worker.Quiet

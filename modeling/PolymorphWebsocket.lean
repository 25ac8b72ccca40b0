import PolymorphWebsocket.Transition.System
import PolymorphWebsocket.Transition.Drive
import PolymorphWebsocket.Transition.Traces
import PolymorphWebsocket.Transition.Search
import PolymorphWebsocket.Transition.Observation
import PolymorphWebsocket.Transition.Erasure
import PolymorphWebsocket.Transition.Prophecy
import PolymorphWebsocket.Futures.Channel
import PolymorphWebsocket.Futures.FlushPipe
import PolymorphWebsocket.Futures.Framing
import PolymorphWebsocket.Futures.Ownership
import PolymorphWebsocket.Futures.SendAll
import PolymorphWebsocket.Web.ReadableStream
import PolymorphWebsocket.Web.Utf8
import PolymorphWebsocket.Web.FieldList
import PolymorphWebsocket.Contract.Types
import PolymorphWebsocket.Contract.Transport
import PolymorphWebsocket.Contract.Timeout
import PolymorphWebsocket.Contract.Payload
import PolymorphWebsocket.Contract.Inbox
import PolymorphWebsocket.Contract.Offer
import PolymorphWebsocket.Contract.Url
import PolymorphWebsocket.Contract.Ending
import PolymorphWebsocket.Provider.State
import PolymorphWebsocket.Provider.Pump
import PolymorphWebsocket.Provider.Frames
import PolymorphWebsocket.Provider.Protocol
import PolymorphWebsocket.Provider.Outbound
import PolymorphWebsocket.Provider.Replies
import PolymorphWebsocket.Provider.Closing
import PolymorphWebsocket.Provider.Inbound
import PolymorphWebsocket.Provider.Inbox
import PolymorphWebsocket.Provider.CloseFrame
import PolymorphWebsocket.Provider.Ownership
import PolymorphWebsocket.Provider.Feeder
import PolymorphWebsocket.Provider.Claim
import PolymorphWebsocket.Provider.Lifecycle
import PolymorphWebsocket.Provider.LateClose
import PolymorphWebsocket.Provider.Payload
import PolymorphWebsocket.Provider.Timeouts
import PolymorphWebsocket.Provider.SendViaStream
import PolymorphWebsocket.Provider.SendAll
import PolymorphWebsocket.Provider.VirtualIo
import PolymorphWebsocket.Provider.Flag
import PolymorphWebsocket.Provider.Connect
import PolymorphWebsocket.Provider.Establish
import PolymorphWebsocket.Provider.Dialing
import PolymorphWebsocket.Provider.Dialed
import PolymorphWebsocket.Host.State
import PolymorphWebsocket.Host.Budget
import PolymorphWebsocket.Host.Pump
import PolymorphWebsocket.Host.Frames
import PolymorphWebsocket.Host.Progress
import PolymorphWebsocket.Host.Commands
import PolymorphWebsocket.Host.CloseFrame
import PolymorphWebsocket.Host.Deadline
import PolymorphWebsocket.Host.Echo
import PolymorphWebsocket.Host.Echoed
import PolymorphWebsocket.Host.Exit
import PolymorphWebsocket.Host.Lifecycle
import PolymorphWebsocket.Host.LateClose
import PolymorphWebsocket.Host.Receiving
import PolymorphWebsocket.Host.Delivery
import PolymorphWebsocket.Host.Backlog
import PolymorphWebsocket.Host.Payload
import PolymorphWebsocket.Host.Timeouts
import PolymorphWebsocket.Host.SendViaStream
import PolymorphWebsocket.Pumps.CloseFidelity
import PolymorphWebsocket.Pumps.Lifecycle
import PolymorphWebsocket.Pumps.Conduct
import PolymorphWebsocket.Pumps.Guest
import PolymorphWebsocket.Pumps.GuestProgress
import PolymorphWebsocket.Pumps.Host
import PolymorphWebsocket.Pumps.HostProgress
import PolymorphWebsocket.Pumps.Agreement
import PolymorphWebsocket.Shim.State
import PolymorphWebsocket.Shim.WebSocket
import PolymorphWebsocket.Shim.Sending
import PolymorphWebsocket.Shim.Receiving
import PolymorphWebsocket.Shim.Lifecycle
import PolymorphWebsocket.Shim.Resource
import PolymorphWebsocket.Shim.Ordering
import PolymorphWebsocket.Shim.EndToEnd
import PolymorphWebsocket.Shim.Carries
import PolymorphWebsocket.Shim.Wasmtime
import PolymorphWebsocket.Shim.Polyengine
import PolymorphWebsocket.Host.PeerFrame
import PolymorphWebsocket.Shim.Component
import PolymorphWebsocket.Shim.PolyengineComponent
import PolymorphWebsocket.Js.State
import PolymorphWebsocket.Js.Websocket
import PolymorphWebsocket.Js.Frames
import PolymorphWebsocket.Js.Lifecycle
import PolymorphWebsocket.Js.Queue
import PolymorphWebsocket.Js.Stream
import PolymorphWebsocket.Js.StreamClose
import PolymorphWebsocket.Js.Payload
import PolymorphWebsocket.Js.SendViaStream
import PolymorphWebsocket.Js.StreamText
import PolymorphWebsocket.Js.Inbox
import PolymorphWebsocket.Js.InboundAgreement
import PolymorphWebsocket.Js.Collecting
import PolymorphWebsocket.Js.Settlement
import PolymorphWebsocket.Js.WaitClosed
import PolymorphWebsocket.Js.Validation
import PolymorphWebsocket.Js.Connect
import PolymorphWebsocket.Js.Reclaim
import PolymorphWebsocket.Js.Knobs
import PolymorphWebsocket.Js.LateClose
import PolymorphWebsocket.Pumps.LateClose
import PolymorphWebsocket.Pumps.Collectors
import PolymorphWebsocket.Pumps.StreamSends
import PolymorphWebsocket.Pumps.Timeouts
import PolymorphWebsocket.Pumps.Validation

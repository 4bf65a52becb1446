import CapiProxy.Applications
import CapiProxy.Bytes.Memory
import CapiProxy.Bytes.Pieces
import CapiProxy.Bytes.Signed
import CapiProxy.Bytes.Words
import CapiProxy.Capi
import CapiProxy.Frames
import CapiProxy.Heaps.Chain
import CapiProxy.Heaps.Headed
import CapiProxy.Integration.Answers
import CapiProxy.Integration.Attended
import CapiProxy.Integration.Commands
import CapiProxy.Integration.Concurrent
import CapiProxy.Integration.ControllerData
import CapiProxy.Integration.Credentials
import CapiProxy.Integration.Encoders
import CapiProxy.Integration.Errors
import CapiProxy.Integration.Framing
import CapiProxy.Integration.GetPath
import CapiProxy.Integration.Linearizable
import CapiProxy.Integration.Mismatches
import CapiProxy.Integration.PeerAddress
import CapiProxy.Integration.PollAnswers
import CapiProxy.Integration.Posting
import CapiProxy.Integration.PutFormat
import CapiProxy.Integration.PutPath
import CapiProxy.Integration.Refusals
import CapiProxy.Integration.Registering
import CapiProxy.Integration.Registrations
import CapiProxy.Integration.RemoteCapi
import CapiProxy.Integration.Removal
import CapiProxy.Integration.Requests
import CapiProxy.Integration.Serving
import CapiProxy.Integration.Station
import CapiProxy.LinuxClient.Buffers
import CapiProxy.LinuxClient.Daemon
import CapiProxy.LinuxClient.Framing
import CapiProxy.LinuxClient.Mapping
import CapiProxy.LinuxClient.Outbound
import CapiProxy.LinuxClient.Polling
import CapiProxy.LinuxClient.Requests
import CapiProxy.LinuxClient.Turns
import CapiProxy.LinuxClient.Unchanged
import CapiProxy.LinuxClient.Verdict
import CapiProxy.LinuxClient.Wire
import CapiProxy.LinuxModule.Alone
import CapiProxy.LinuxModule.Card
import CapiProxy.LinuxModule.Consumer
import CapiProxy.LinuxModule.Control
import CapiProxy.LinuxModule.Controller
import CapiProxy.LinuxModule.Counter
import CapiProxy.LinuxModule.Header
import CapiProxy.LinuxModule.Inbound
import CapiProxy.LinuxModule.Ncci
import CapiProxy.LinuxModule.Parallel
import CapiProxy.LinuxModule.Pool
import CapiProxy.LinuxModule.Provenance
import CapiProxy.LinuxModule.Queue
import CapiProxy.LinuxModule.Reopened
import CapiProxy.LinuxModule.Reuse
import CapiProxy.LinuxModule.SkBuff
import CapiProxy.LinuxModule.Verdicts
import CapiProxy.LinuxServer.Accesses
import CapiProxy.LinuxServer.Answers
import CapiProxy.LinuxServer.Appindex
import CapiProxy.LinuxServer.Cleanup
import CapiProxy.LinuxServer.Framing
import CapiProxy.LinuxServer.Gate
import CapiProxy.LinuxServer.Intake
import CapiProxy.LinuxServer.Leftovers
import CapiProxy.LinuxServer.Main
import CapiProxy.LinuxServer.Ownership
import CapiProxy.LinuxServer.Receive
import CapiProxy.LinuxServer.Recvn
import CapiProxy.LinuxServer.Refusals
import CapiProxy.LinuxServer.Registry
import CapiProxy.LinuxServer.Service
import CapiProxy.LinuxServer.Session
import CapiProxy.LinuxServer.Sessions
import CapiProxy.LinuxServer.Strangers
import CapiProxy.Loops.Drain
import CapiProxy.Loops.Rounds
import CapiProxy.Messages
import CapiProxy.Ownership.Partition
import CapiProxy.Ownership.Tenants
import CapiProxy.Pools.Threads
import CapiProxy.Protocol
import CapiProxy.Queues.Journal
import CapiProxy.Rosters.Enumerates
import CapiProxy.Streams.Chunks
import CapiProxy.Streams.Source
import CapiProxy.Traces.Linearization
import CapiProxy.Traces.Moves
import CapiProxy.Traces.Refinement
import CapiProxy.Traces.Throughout
import CapiProxy.Win32Client.Applist
import CapiProxy.Win32Client.Authentication
import CapiProxy.Win32Client.Connection
import CapiProxy.Win32Client.Dispatch
import CapiProxy.Win32Client.Exchange
import CapiProxy.Win32Client.Functions
import CapiProxy.Win32Client.GetMessage
import CapiProxy.Win32Client.Lifetime
import CapiProxy.Win32Client.Matching
import CapiProxy.Win32Client.Payload
import CapiProxy.Win32Client.Pending
import CapiProxy.Win32Client.Provenance
import CapiProxy.Win32Client.PutMessage
import CapiProxy.Win32Client.Receiver
import CapiProxy.Win32Client.Session
import CapiProxy.Win32Client.Sizes
import CapiProxy.Win32Client.Unloading
import CapiProxy.Win32Client.Unmatched
import CapiProxy.Win32Server.Authentication
import CapiProxy.Win32Server.Cleanup
import CapiProxy.Win32Server.Connections
import CapiProxy.Win32Server.Control
import CapiProxy.Win32Server.Framing
import CapiProxy.Win32Server.Gate
import CapiProxy.Win32Server.Lifecycle
import CapiProxy.Win32Server.Ownership
import CapiProxy.Win32Server.Process
import CapiProxy.Win32Server.Refusals
import CapiProxy.Win32Server.Rules
import CapiProxy.Win32Server.Session
import CapiProxy.Win32Server.Sizes
import CapiProxy.Win32Server.Slots
import CapiProxy.Win32Server.StartSession
import CapiProxy.Win32Server.UserPass
import CapiProxy.Win32Server.Waiters

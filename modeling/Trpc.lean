import Trpc.Lib.Runs
import Trpc.Lib.LittleEndian
import Trpc.Lib.Decoder
import Trpc.Status
import Trpc.Wire.Endian
import Trpc.Wire.Crc32c
import Trpc.Wire.Header
import Trpc.Wire.Parser
import Trpc.Wire.Grammar
import Trpc.Wire.Receive
import Trpc.Lib.Ranges
import Trpc.Reactor.TxItem
import Trpc.Io.ByteEndpoint
import Trpc.Reactor.Tx
import Trpc.Reactor.TxInv
import Trpc.Reactor.TxRuns
import Trpc.Reactor.TxTls
import Trpc.Reactor.Checksum
import Trpc.Reactor.Link
import Trpc.Channel.Hello
import Trpc.Lib.Fragments
import Trpc.Channel.Slot
import Trpc.Channel.SlotTidy
import Trpc.Channel.Endpoint
import Trpc.Wire.Canonical
import Trpc.Rpc.Record
import Trpc.Rpc.RecordPeers
import Trpc.Channel.StreamTable
import Trpc.Channel.Negotiation
import Trpc.Channel.Host
import Trpc.Channel.Changes
import Trpc.Channel.Notices
import Trpc.Channel.Drain
import Trpc.Channel.Events
import Trpc.Rpc.RecordClientRuns
import Trpc.Rpc.RecordRouter
import Trpc.Rpc.RecordSend
import Trpc.Rpc.Producer
import Trpc.Rpc.RecordDispatchRuns
import Trpc.Rpc.RecordEndpointRuns
import Trpc.Group.ListenerRuns
import Trpc.Group.ControlOrder
import Trpc.Group.Codec
import Trpc.Server.TlsRotationRuns
import Trpc.Server.PeerStats
import Trpc.Execution.MemoryBudget
import Trpc.Execution.CommandQueue
import Trpc.Execution.TaskExecutor
import Trpc.Execution.Deadline
import Trpc.Message.Transform
import Trpc.Message.Handles
import Trpc.Rpc.Limits

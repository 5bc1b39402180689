import SocketMessage.Lib.Bytes
import SocketMessage.Lib.Sequence
import SocketMessage.Lib.OrderedMap
import SocketMessage.Lib.Transition
import SocketMessage.Lib.NameReuse
import SocketMessage.Wire.DataType
import SocketMessage.Wire.Encoding
import SocketMessage.Wire.SerializedSize
import SocketMessage.Wire.RoundTrip
import SocketMessage.Wire.Footprint
import SocketMessage.Wire.Dispatch
import SocketMessage.Frame.PackageLoop
import SocketMessage.Frame.Recv
import SocketMessage.Server.Database
import SocketMessage.Server.OnlineTable
import SocketMessage.Server.ClientSocket
import SocketMessage.Server.DataHandler
import SocketMessage.Server.SocketControl
import SocketMessage.Server.System
import SocketMessage.Server.Consistency
import SocketMessage.Server.Ledger
import SocketMessage.Server.Refinement
import SocketMessage.Server.Delivery
import SocketMessage.Server.Teardown
import SocketMessage.Server.Relay
import SocketMessage.Lib.Paging
import SocketMessage.Server.History
import SocketMessage.Server.Replies
import SocketMessage.Lib.FixedBuffer
import SocketMessage.Server.WriteBuffer
import SocketMessage.Server.Registered
import SocketMessage.Server.WriteInterest
import SocketMessage.Lib.WorkerPool
import SocketMessage.Server.Outbound
import SocketMessage.Server.Backlog
import SocketMessage.Server.Inbound
import SocketMessage.Server.Identity
import SocketMessage.Server.FanOut
import SocketMessage.Lib.Layout
import SocketMessage.Wire.WireFormat
import SocketMessage.Server.EpollSet
import SocketMessage.Server.ReadInterest
import SocketMessage.Server.ThreadPool
import SocketMessage.Server.PoolTasks
import SocketMessage.Server.MySqlPool
import SocketMessage.Client.Select
import SocketMessage.Client.Session
import SocketMessage.Client.Stall
import SocketMessage.Lib.ByteMemory
import SocketMessage.Memory.MemoryPool
import SocketMessage.Memory.Partition
import SocketMessage.Memory.Calls
import SocketMessage.Memory.MemoryHook
import SocketMessage.Lib.Locality
import SocketMessage.Wire.Neighbours
import SocketMessage.Client.Requests
import SocketMessage.Server.StaleMemory
import SocketMessage.Server.TextFields
import SocketMessage.Lib.Printf
import SocketMessage.Server.SqlText
import SocketMessage.Lib.Stoi
import SocketMessage.Server.QueryResult
import SocketMessage.Client.Callbacks
import SocketMessage.Lib.WaitProtocol
import SocketMessage.Server.Logger
import SocketMessage.Server.Shutdown
import SocketMessage.Server.Records
import SocketMessage.Server.Components
import SocketMessage.Server.DestructionOrder
import SocketMessage.Server.LateUse
import SocketMessage.Client.WriteInterest
import SocketMessage.Frame.Stream
import SocketMessage.Lib.Fifo
import SocketMessage.Link.Channel
import SocketMessage.Lib.LockOrder
import SocketMessage.Server.Locks
import SocketMessage.Lib.Progress
import SocketMessage.Server.PoolProgress
import SocketMessage.Client.Shown
import SocketMessage.Link.Login
import SocketMessage.Link.Chat
import SocketMessage.Lib.Statement
import SocketMessage.Server.SqlMeaning
import SocketMessage.Server.Attention
import SocketMessage.Server.Accounting

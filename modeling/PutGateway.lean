import PutGateway.Common.AnymsgFrame
import PutGateway.Common.Crc16
import PutGateway.Common.Crc16Spec
import PutGateway.Common.ErrorCode
import PutGateway.Common.Platform
import PutGateway.Common.RegionSpec
import PutGateway.Common.RingBits
import PutGateway.Common.RingFlag
import PutGateway.Common.RingProtocol
import PutGateway.Common.RingQueue
import PutGateway.Common.RingSpec
import PutGateway.Common.RingSteps
import PutGateway.Common.SharedMemoryIpc
import PutGateway.Lib.BitPolynomial
import PutGateway.Lib.BitSet
import PutGateway.Lib.CyclicRedundancy
import PutGateway.Lib.FlaggedQueue
import PutGateway.Lib.Framing
import PutGateway.Lib.Holding
import PutGateway.Lib.Json
import PutGateway.Lib.JsonString
import PutGateway.Lib.JsonStructs
import PutGateway.Lib.Lasting
import PutGateway.Lib.LineChunks
import PutGateway.Lib.OrderStatistics
import PutGateway.Lib.Progress
import PutGateway.Lib.QuotaRound
import PutGateway.Lib.SeqRing
import PutGateway.Lib.Signal
import PutGateway.Lib.SlidingWindow
import PutGateway.Lib.SlotTable
import PutGateway.Linux.Adapters
import PutGateway.Linux.AdaptersSpec
import PutGateway.Linux.Admission
import PutGateway.Linux.AppConfig
import PutGateway.Linux.ArrayAccess
import PutGateway.Linux.CanAdapter
import PutGateway.Linux.CanRoundTrip
import PutGateway.Linux.CanSessions
import PutGateway.Linux.CanTransfer
import PutGateway.Linux.ConfigComments
import PutGateway.Linux.EgressManager
import PutGateway.Linux.EgressWorker
import PutGateway.Linux.Forgery
import PutGateway.Linux.Ingress
import PutGateway.Linux.IngressSecurity
import PutGateway.Linux.IpcStats
import PutGateway.Linux.Operations
import PutGateway.Linux.PoolAccounts
import PutGateway.Linux.Releasing
import PutGateway.Linux.Rs485Adapter
import PutGateway.Linux.ShmIpc
import PutGateway.Linux.ShmRings
import PutGateway.Linux.ShmSpec
import PutGateway.Linux.StatusCollector
import PutGateway.Linux.StatusFiles
import PutGateway.Linux.StatusRuns
import PutGateway.Linux.StatusValues
import PutGateway.Linux.TcpStream
import PutGateway.Rtos.Bookkeeping
import PutGateway.Rtos.Control
import PutGateway.Rtos.EndpointHeartbeat
import PutGateway.Rtos.Fencing
import PutGateway.Rtos.Freezing
import PutGateway.Rtos.Frozen
import PutGateway.Rtos.FrozenRuns
import PutGateway.Rtos.Gating
import PutGateway.Rtos.Governance
import PutGateway.Rtos.HeartbeatRuns
import PutGateway.Rtos.Idling
import PutGateway.Rtos.LatencyWindows
import PutGateway.Rtos.Ledger
import PutGateway.Rtos.LinuxHeartbeat
import PutGateway.Rtos.Monitor
import PutGateway.Rtos.PriorityQueue
import PutGateway.Rtos.Provenance
import PutGateway.Rtos.Publication
import PutGateway.Rtos.QueueAccounts
import PutGateway.Rtos.QueueOrder
import PutGateway.Rtos.QueueService
import PutGateway.Rtos.Receiving
import PutGateway.Rtos.Recovery
import PutGateway.Rtos.Resumption
import PutGateway.Rtos.Returning
import PutGateway.Rtos.RingRuns
import PutGateway.Rtos.RouteTable
import PutGateway.Rtos.RouteUpdates
import PutGateway.Rtos.RoutedRuns
import PutGateway.Rtos.RouterAdapter
import PutGateway.Rtos.RouterCore
import PutGateway.Rtos.RouterLedger
import PutGateway.Rtos.RouterSpec
import PutGateway.Rtos.Routing
import PutGateway.Rtos.Runs
import PutGateway.Rtos.Runtime
import PutGateway.Rtos.RuntimeRuns
import PutGateway.Rtos.Serving
import PutGateway.Rtos.ShmIpc
import PutGateway.Rtos.ShmSpec
import PutGateway.Rtos.StuckPending
import PutGateway.Rtos.Supervision
import PutGateway.Rtos.SupervisionSpec
import PutGateway.Rtos.Tally
import PutGateway.Rtos.TaskControl
import PutGateway.Rtos.Tasks
import PutGateway.Rtos.TasksSpec
import PutGateway.Rtos.Vetting
import PutGateway.Rtos.Workload
import PutGateway.System.Attach
import PutGateway.System.Containment
import PutGateway.System.Cores
import PutGateway.System.Corruption
import PutGateway.System.Delivery
import PutGateway.System.Doorbell
import PutGateway.System.Draining
import PutGateway.System.EgressLiveness
import PutGateway.System.EgressProgress
import PutGateway.System.EgressStop
import PutGateway.System.EgressThreads
import PutGateway.System.Epochs
import PutGateway.System.Fifo
import PutGateway.System.Homecoming
import PutGateway.System.Interleaving
import PutGateway.System.Liveness
import PutGateway.System.Machine
import PutGateway.System.Ownership
import PutGateway.System.PendingBits
import PutGateway.System.Places
import PutGateway.System.SecurityGate
import PutGateway.System.SerialIngress
import PutGateway.System.StatusEvents
import PutGateway.System.StatusReports
import PutGateway.System.Trust
import PutGateway.Web.LogPaging
import PutGateway.Web.LogReader
import PutGateway.Web.StatusReader
import PutGateway.Web.StatusSnapshot

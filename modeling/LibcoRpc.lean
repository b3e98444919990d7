import LibcoRpc.Std.OrdMap
import LibcoRpc.Std.Ring
import LibcoRpc.Std.Decimal
import LibcoRpc.Std.Framing
import LibcoRpc.Std.BigEndian
import LibcoRpc.Std.HeapOrder
import LibcoRpc.Std.Memory
import LibcoRpc.Semantics.Machine
import LibcoRpc.Semantics.Ledger
import LibcoRpc.Semantics.Simulation
import LibcoRpc.Semantics.X86
import LibcoRpc.CoroMgr.State
import LibcoRpc.CoroMgr.Step
import LibcoRpc.CoroMgr.Lifecycle
import LibcoRpc.CoroMgr.Chronicle
import LibcoRpc.CoroMgr.Registry
import LibcoRpc.CoroMgr.Locality
import LibcoRpc.CoroMgr.Change
import LibcoRpc.CoroMgr.Naming
import LibcoRpc.CoroMgr.Invariant
import LibcoRpc.CoroMgr.Discipline
import LibcoRpc.CoroMgr.Rules
import LibcoRpc.CoroMgr.Wake
import LibcoRpc.CoroMgr.Sleep
import LibcoRpc.CoroMgr.Loops
import LibcoRpc.CoroMgr.Settle
import LibcoRpc.CoroMgr.Clock
import LibcoRpc.CoroMgr.Passage
import LibcoRpc.CoroMgr.Guarantees
import LibcoRpc.CoroMgr.History
import LibcoRpc.CoroMgr.Handover
import LibcoRpc.CoroMgr.CallStack
import LibcoRpc.CoroMgr.Timers
import LibcoRpc.CoroMgr.Cancellation
import LibcoRpc.CoroMgr.Deadline
import LibcoRpc.CoroMgr.Expiry
import LibcoRpc.CoroMgr.Stop
import LibcoRpc.CoroMgr.Numbering
import LibcoRpc.CoroMgr.Lookup
import LibcoRpc.CoroMgr.Sweep
import LibcoRpc.CoroMgr.Twin
import LibcoRpc.CoroMgr.Lockstep
import LibcoRpc.CoroMgr.Immediate
import LibcoRpc.Rpc.Wire
import LibcoRpc.Rpc.State
import LibcoRpc.Rpc.Step
import LibcoRpc.Rpc.Echo
import LibcoRpc.Rpc.Envelope
import LibcoRpc.Rpc.Bounds
import LibcoRpc.Rpc.Effect
import LibcoRpc.Rpc.Replies
import LibcoRpc.Rpc.Requests
import LibcoRpc.Rpc.Dispatch
import LibcoRpc.Rpc.Modes
import LibcoRpc.Rpc.Correlation
import LibcoRpc.Rpc.Outcomes
import LibcoRpc.Rpc.Answers
import LibcoRpc.Rpc.Responses
import LibcoRpc.Rpc.Status
import LibcoRpc.Rpc.Controllers
import LibcoRpc.Rpc.Freshness
import LibcoRpc.Rpc.MainCalls
import LibcoRpc.Conn.Queue
import LibcoRpc.Conn.Table
import LibcoRpc.Net.PacketProtocol
import LibcoRpc.Net.Reassembly
import LibcoRpc.Net.MessageBuffer
import LibcoRpc.Net.Link
import LibcoRpc.Rpc.Traffic
import LibcoRpc.Rpc.Interface
import LibcoRpc.Net.Network
import LibcoRpc.Net.Provenance
import LibcoRpc.Net.Honesty
import LibcoRpc.Net.EndToEnd
import LibcoRpc.Net.Accounting
import LibcoRpc.Timer.BinaryHeap
import LibcoRpc.Timer.Scheduler
import LibcoRpc.Timer.Order
import LibcoRpc.Libco.Context
import LibcoRpc.Libco.Layout
import LibcoRpc.Libco.Switching
import LibcoRpc.Libco.Routine

import PooledServer.Main
import PooledServer.Proofs.Queue.Order
import PooledServer.Proofs.Queue.Requests
import PooledServer.Session.Conditions
import PooledServer.Session.Events
import PooledServer.Session.Items
import PooledServer.Session.Listeners
import PooledServer.Session.Locks
import PooledServer.Session.Pools
import PooledServer.Session.Programs
import PooledServer.Session.Queues
import PooledServer.Session.Servers
import PooledServer.Session.Settings
import PooledServer.Session.Sockets
import PooledServer.Session.Threads
import PooledServer.Session.Watches
import PooledServer.Session.Workers
import PooledServer.Proofs.Work.Fates
import PooledServer.Proofs.Pool.Threads
import PooledServer.Proofs.Work.Stages
import PooledServer.Proofs.Pool.Steps
import PooledServer.Proofs.Pool.Frames
import PooledServer.Proofs.Pool.Accounts
import PooledServer.Proofs.Pool.Tasks
import PooledServer.Proofs.Pool.Lifecycle
import PooledServer.Proofs.Pool.Runs
import PooledServer.Proofs.Pool.Progress
import PooledServer.Proofs.Pool.Stop
import PooledServer.Proofs.Events.Tables
import PooledServer.Proofs.Events.Threads
import PooledServer.Proofs.Events.Steps
import PooledServer.Proofs.Events.Holdings
import PooledServer.Proofs.Events.Ownership
import PooledServer.Proofs.Events.Custody
import PooledServer.Proofs.Events.Places
import PooledServer.Proofs.Events.Interleaved
import PooledServer.Proofs.Events.Lending
import PooledServer.Server.Service
import PooledServer.Proofs.Events.Homecoming
import PooledServer.Proofs.Server.Errands
import PooledServer.Proofs.Server.Returns
import PooledServer.Proofs.Server.Replies
import PooledServer.Proofs.Net.Ahead
import PooledServer.Proofs.Net.Frames
import PooledServer.Proofs.Net.Lines
import PooledServer.Proofs.Queue.Draining
import PooledServer.Proofs.Pool.Survival
import PooledServer.Proofs.Config.Precedence
import PooledServer.Proofs.Server.EchoLines
import PooledServer.Proofs.Net.Mixed
import PooledServer.Proofs.Events.Waiting
import PooledServer.Proofs.Events.Balance
import PooledServer.Proofs.Queue.Closing
import PooledServer.Proofs.Work.Executions
import PooledServer.Proofs.Pool.Rounds
import PooledServer.Proofs.Pool.Loops
import PooledServer.Proofs.Pool.Setbacks
import PooledServer.Proofs.Net.LineLimit
import PooledServer.Proofs.Events.Numbers
import PooledServer.Proofs.Events.Reissue
import PooledServer.Proofs.Events.Lockouts
import PooledServer.Proofs.Pool.Owners
import PooledServer.Proofs.Server.Phases
import PooledServer.Proofs.Server.Startup
import PooledServer.Proofs.Queue.Failures
import PooledServer.Proofs.Sync.Guards
import PooledServer.Proofs.Work.Liveness
import PooledServer.Proofs.CommandLine.Settling
import PooledServer.Proofs.Net.Backlog
import PooledServer.Proofs.Sync.Deadlines
import PooledServer.Proofs.Pool.Headcount

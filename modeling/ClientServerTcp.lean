import ClientServerTcp.Sources.ClientTcp
import ClientServerTcp.System.History
import ClientServerTcp.Library.Ledger
import ClientServerTcp.System.Effect
import ClientServerTcp.Socket.Spec
import ClientServerTcp.Socket.Runs
import ClientServerTcp.Library.Coupling
import ClientServerTcp.Socket.Exchange
import ClientServerTcp.Socket.Ownership
import ClientServerTcp.Addrinfo.Spec
import ClientServerTcp.Addrinfo.Runs
import ClientServerTcp.Addrinfo.Ownership
import ClientServerTcp.System.Holding
import ClientServerTcp.Socket.Scope
import ClientServerTcp.Client.Quit
import ClientServerTcp.Server.Construct
import ClientServerTcp.ExceptionSafety
import ClientServerTcp.Server.Loop
import ClientServerTcp.Library.Interference
import ClientServerTcp.Server.Network
import ClientServerTcp.Addrinfo.Copies
import ClientServerTcp.Addrinfo.Platforms
import ClientServerTcp.Client.Loopback
import ClientServerTcp.ErrorNumbers.Operations
import ClientServerTcp.Addrinfo.Layout
import ClientServerTcp.Process
import ClientServerTcp.Socket.Port
import ClientServerTcp.Socket.Listen
import ClientServerTcp.Server.Ready
import ClientServerTcp.Library.Parallel
import ClientServerTcp.Library.Takeover
import ClientServerTcp.Socket.Race
import ClientServerTcp.Socket.Serialise
import ClientServerTcp.Library.Threads
import ClientServerTcp.System.Endpoint
import ClientServerTcp.Threads.Shared
import ClientServerTcp.Threads.Steps
import ClientServerTcp.Threads.Own
import ClientServerTcp.Threads.Functions
import ClientServerTcp.Threads.Requests
import ClientServerTcp.Threads.Atomicity
import ClientServerTcp.Threads.Runs
import ClientServerTcp.Application
import ClientServerTcp.Threads.Server
import ClientServerTcp.Library.Custody
import ClientServerTcp.Threads.Custody
import ClientServerTcp.Library.Triple
import ClientServerTcp.Threads.Usage
import ClientServerTcp.Threads.Scope
import ClientServerTcp.Threads.Lifetime
import ClientServerTcp.Threads.Blocks
import ClientServerTcp.Threads.Leaks
import ClientServerTcp.Library.Points
import ClientServerTcp.Threads.Wiring
import ClientServerTcp.Threads.Quits
import ClientServerTcp.Threads.Turns
import ClientServerTcp.Threads.Semaphore

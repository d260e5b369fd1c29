import Bluetoothd.Lib.Bytes
import Bluetoothd.Lib.Buffer
import Bluetoothd.Lib.Transition
import Bluetoothd.Platform
import Bluetoothd.Proto.Pdu
import Bluetoothd.Proto.Format
import Bluetoothd.Proto.Codec
import Bluetoothd.Proto.Append
import Bluetoothd.PduBuf
import Bluetoothd.CmdSocket.EventIn
import Bluetoothd.CmdSocket.Reassembly
import Bluetoothd.CmdSocket.Bounds
import Bluetoothd.Lib.Prog
import Bluetoothd.Loop
import Bluetoothd.PduWbuf
import Bluetoothd.Service.World
import Bluetoothd.Service.Registry
import Bluetoothd.Service.Handlers
import Bluetoothd.Service.Trace
import Bluetoothd.Service.Discipline
import Bluetoothd.Service.Layout
import Bluetoothd.Daemon.Slots
import Bluetoothd.Service.Reply
import Bluetoothd.Tasks.Fifo
import Bluetoothd.Daemon.Bare
import Bluetoothd.Daemon.Assertions
import Bluetoothd.Daemon.Epoll
import Bluetoothd.Daemon.Dispatch
import Bluetoothd.Daemon.Control
import Bluetoothd.Daemon.Failures
import Bluetoothd.Service.Notifications
import Bluetoothd.Service.PropertyLists
import Bluetoothd.Service.Device
import Bluetoothd.Service.Sizing
import Bluetoothd.Service.Tails
import Bluetoothd.Service.Forwarding
import Bluetoothd.Proto.Checks
import Bluetoothd.Service.SockLayout
import Bluetoothd.Daemon.Leaks
import Bluetoothd.Lib.Simulation
import Bluetoothd.Server.Spec
import Bluetoothd.Server.Commands
import Bluetoothd.Server.Events
import Bluetoothd.Server.Refinement
import Bluetoothd.Server.Runs
import Bluetoothd.Server.Isolation
import Bluetoothd.Service.Relay
import Bluetoothd.Proto.Split
import Bluetoothd.Server.Session
import Bluetoothd.Tasks.Callbacks
import Bluetoothd.Server.Batch
import Bluetoothd.Server.Numbers
import Bluetoothd.Proto.RoundTrip

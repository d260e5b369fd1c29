import Bluetoothd.CmdSocket.EventIn
import Bluetoothd.Loop
import Bluetoothd.Service.Handlers

/-!
# The daemon's sockets (`bt-io.c`, `core-io.c`)

A client connects two sockets: the first carries commands and their replies, the second is for
notifications. `io_fd` has a slot for each of them, and the event loop knows the listening socket
and the command socket.

`Daemon` is this state, together with the part of the kernel's state that it reflects: which
accepted descriptors are open, which of these have a connected peer, and what is in the epoll set.
One event is handled at a time. An `epoll_wait` that returns several is a sequence of them: handling
one takes no other descriptor of the batch from the epoll set.
-/

namespace Bluetoothd

open Platform

/-! ## core-io.c -/

def initCoreIo (sendPduCb : SendPdu) : Act Handler Int := do
  let res ← initCore .core sendPduCb
  if res < 0 then
    return -1
  Prog.modify fun w => { w with coreIoSendPdu := some sendPduCb }
  return 0

def uninitCoreIo : Act Handler Unit := Prog.modify fun w => { w with coreIoSendPdu := none }

/-! ## The state -/

inductive EventFunc where
  | fdEvent
  | ioFd0Event
  | execTask
  deriving DecidableEq

structure Daemon where
  /-- The two entries of `io_fd`; 0 is an empty one. -/
  ioFd0 : Nat
  ioFd1 : Nat
  loop : Loop EventFunc Nat
  /-- The receive buffers that are allocated, by the number of the call that created them. -/
  rbufs : Nat → Option RBuf
  creates : Nat
  world : World Handler
  /-- The accepted descriptors that are open, and those of them whose peer is connected. -/
  opened : Finset Nat
  connected : Finset Nat

/-- What the daemon gets from outside while it handles one event, and what `handle_pdu` does. -/
structure Outside where
  accept : Option Nat
  malloc : Malloc (Nat → UInt8)
  /-- Whether `epoll_ctl` has the resources it needs. -/
  ctl : Bool
  read : ReadResult
  handlePdu : Pdu → World Handler → Option (Int × World Handler)

def epollIn : UInt32 := 0x1
def epollErr : UInt32 := 0x8
def epollHup : UInt32 := 0x10

namespace Daemon

def start (fd : Nat) : Daemon where
  ioFd0 := 0
  ioFd1 := 0
  loop := (addFdToEpollLoop true fd (epollIn ||| epollErr) .fdEvent none Loop.start).2
  rbufs _ := none
  creates := 0
  world := .empty
  opened := ∅
  connected := ∅

def init (pipeFd listenFd : Nat) : Daemon :=
  let loop := (addFdToEpollLoop true pipeFd (epollIn ||| epollErr) .execTask none Loop.start).2
  { start listenFd with
    loop := (addFdToEpollLoop true listenFd (epollIn ||| epollErr) .fdEvent none loop).2 }

/-- `close`, which also takes the descriptor from the epoll set. -/
def close (d : Daemon) (fd : Nat) : Daemon :=
  { d with
    opened := d.opened.erase fd
    connected := d.connected.erase fd
    loop := { d.loop with epoll := d.loop.epoll.erase fd } }

def accepted (d : Daemon) (fd : Nat) : Daemon :=
  { d with opened := insert fd d.opened, connected := insert fd d.connected }

def setRbuf (d : Daemon) (n : Nat) (rbuf : Option RBuf) : Daemon :=
  { d with rbufs := Function.update d.rbufs n rbuf }

def cleanupPduRbuf (d : Daemon) (n : Nat) : Daemon := d.setRbuf n none

theorem isSome_update (rbufs : Nat → Option RBuf) (n : Nat) (rbuf : Option RBuf) (n' : Nat) :
    (Function.update rbufs n rbuf n').isSome = if n' = n then rbuf.isSome else (rbufs n').isSome := by
  rw [Function.update_apply]
  split <;> rfl

theorem isSome_setRbuf {d : Daemon} {n : Nat} {rbuf : RBuf} (hrbuf : d.rbufs n = some rbuf)
    (rbuf' : RBuf) (n' : Nat) : ((d.setRbuf n (some rbuf')).rbufs n').isSome = (d.rbufs n').isSome := by
  apply (isSome_update d.rbufs n _ n').trans
  by_cases heq : n' = n
  · rw [if_pos heq, heq, hrbuf]
    rfl
  · rw [if_neg heq]

def exec {α : Type} (d : Daemon) (x : Act Handler α) : Option (α × Daemon) :=
  match x.run d.world with
  | (.ok a, w) => some (a, { d with world := w })
  | (.error _, _) => none

end Daemon

variable [Platform]

def handlePduResult (env : Env) (calls : Nat) (cmd : Pdu) (w : World Handler) :
    Option (Int × World Handler) :=
  match (handlePdu env calls cmd).run w with
  | (.ok res, w) => some (res, w)
  | (.error _, _) => none

def Daemon.register (d : Daemon) (out : Outside) (fd : Nat) : Int × Loop EventFunc Nat :=
  addFdToEpollLoop out.ctl fd (epollErr ||| epollIn) .ioFd0Event (some d.creates) d.loop

def World.connected (w : World Handler) : World Handler := ((initCoreIo .btIo).run w).2
def World.disconnected (w : World Handler) : World Handler := (uninitCoreIo.run w).2

/-! ## Handling an event -/

/-- What happens to the receive buffers: the `n`-th call of `create_pdu_rbuf`, made for `fd`, and
`cleanup_pdu_rbuf`. -/
inductive BufEvent where
  | create (n fd : Nat)
  | cleanup (n : Nat)
  deriving DecidableEq

/-- What happens to the descriptors of connections: an `accept` that succeeds, and a `close`. -/
inductive ConnEvent where
  | accept (fd : Nat)
  | close (fd : Nat)
  deriving DecidableEq

/-- The daemon in the middle of an event, with what has happened to buffers and descriptors so far. -/
structure Handling where
  daemon : Daemon
  bufs : List BufEvent
  conns : List ConnEvent

namespace Handling

def start (d : Daemon) : Handling := ⟨d, [], []⟩

def modify (h : Handling) (f : Daemon → Daemon) : Handling := { h with daemon := f h.daemon }

def accept (h : Handling) (fd : Nat) : Handling :=
  { h with daemon := h.daemon.accepted fd, conns := h.conns ++ [.accept fd] }

def close (h : Handling) (fd : Nat) : Handling :=
  { h with daemon := h.daemon.close fd, conns := h.conns ++ [.close fd] }

def createPduRbuf (h : Handling) (fd : Nat) (rbuf : RBuf) : Handling :=
  { h with
    daemon := { h.daemon.setRbuf h.daemon.creates (some rbuf) with creates := h.daemon.creates + 1 }
    bufs := h.bufs ++ [.create h.daemon.creates fd] }

def cleanupPduRbuf (h : Handling) (n : Nat) : Handling :=
  { h with daemon := h.daemon.cleanupPduRbuf n, bufs := h.bufs ++ [.cleanup n] }

def exec {α : Type} (h : Handling) (x : Act Handler α) : Option (α × Handling) :=
  (h.daemon.exec x).map fun p => (p.1, { h with daemon := p.2 })

/-! ## The command socket -/

def ioFd0EventErr (fd data : Nat) (h : Handling) : Option Handling := do
  let h := h.cleanupPduRbuf data
  let h := h.modify fun d => { d with loop := removeFdFromEpollLoop true fd d.loop, ioFd0 := 0 }
  let (_, h) ← h.exec uninitCoreIo
  return h

/-- `io_fd0_event`; the buffer must be allocated still when it is read into. -/
def ioFd0Event (fd : Nat) (mask : UInt32) (data : Nat) (out : Outside) (h : Handling) :
    Option Handling :=
  if mask &&& epollErr ≠ 0 then
    h.ioFd0EventErr fd data
  else if mask &&& epollIn ≠ 0 then do
    let rbuf ← h.daemon.rbufs data
    let (fate, rbuf, world) ← ioFd0EventIn out.handlePdu rbuf out.read h.daemon.world
    let h := h.modify fun d => { d.setRbuf data (some rbuf) with world := world }
    return if fate = .closed then h.close fd else h
  else
    some h -- unsupported event mask

/-! ## The listening socket -/

def setupCmdSocket (fd : Nat) (out : Outside) (h : Handling) : Option (Int × Handling) :=
  match Bluetoothd.createPduRbuf maxCmdLen out.malloc with
  | none => some (-1, h)
  | some rbuf => do
    let n := h.daemon.creates
    let h := h.createPduRbuf fd rbuf
    let (res, loop) :=
      addFdToEpollLoop out.ctl fd (epollErr ||| epollIn) .ioFd0Event (some n) h.daemon.loop
    let h := h.modify fun d => { d with loop := loop }
    if res < 0 then
      return (-1, h.cleanupPduRbuf n)
    let (res, h) ← h.exec (initCoreIo .btIo)
    if res < 0 then
      return (-1, h.cleanupPduRbuf n)
    return (0, h.modify fun d => { d with ioFd0 := fd })

def setupNtfSocket (fd : Nat) (h : Handling) : Int × Handling :=
  (0, h.modify fun d => { d with ioFd1 := fd })

def fdEventIn (out : Outside) (h : Handling) : Option Handling :=
  match out.accept with
  | none => some h
  | some fd => do
    let h := h.accept fd
    if h.daemon.ioFd0 = 0 then
      let (res, h) ← h.setupCmdSocket fd out
      return if res < 0 then h.close fd else h
    else if h.daemon.ioFd1 = 0 then
      let (res, h) := h.setupNtfSocket fd
      return if res < 0 then h.close fd else h
    else
      return h.close fd -- too many connected sockets

def fdEvent (fd : Nat) (mask : UInt32) (out : Outside) (h : Handling) : Option Handling :=
  if mask &&& epollErr ≠ 0 then
    some (h.modify fun d => { d with loop := removeFdFromEpollLoop true fd d.loop })
  else if mask &&& epollIn ≠ 0 then
    h.fdEventIn out
  else
    some h -- unsupported event mask

/-- The call that `epoll_loop_iteration` makes for an event. The tasks that `exec_task` runs are all
`send_ntf_pdu`, which leaves the sockets alone. -/
def event (h : Handling) (fd : Nat) (mask : UInt32) (out : Outside) : Option Handling :=
  match (h.daemon.loop.fdState fd).func, (h.daemon.loop.fdState fd).data with
  | some .fdEvent, _ => h.fdEvent fd mask out
  | some .ioFd0Event, some data => h.ioFd0Event fd mask data out
  | some .execTask, _ => some h
  | _, _ => none

end Handling

/-! ## The daemon after an event -/

section daemon

def ioFd0EventErr (fd data : Nat) (d : Daemon) : Option Daemon :=
  ((Handling.start d).ioFd0EventErr fd data).map Handling.daemon

def ioFd0Event (fd : Nat) (mask : UInt32) (data : Nat) (out : Outside) (d : Daemon) : Option Daemon :=
  ((Handling.start d).ioFd0Event fd mask data out).map Handling.daemon

def setupCmdSocket (fd : Nat) (out : Outside) (d : Daemon) : Option (Int × Daemon) :=
  ((Handling.start d).setupCmdSocket fd out).map fun p => (p.1, p.2.daemon)

def setupNtfSocket (fd : Nat) (d : Daemon) : Int × Daemon := (0, { d with ioFd1 := fd })

def fdEventIn (out : Outside) (d : Daemon) : Option Daemon :=
  ((Handling.start d).fdEventIn out).map Handling.daemon

def fdEvent (fd : Nat) (mask : UInt32) (out : Outside) (d : Daemon) : Option Daemon :=
  ((Handling.start d).fdEvent fd mask out).map Handling.daemon

def Daemon.event (d : Daemon) (fd : Nat) (mask : UInt32) (out : Outside) : Option Daemon :=
  ((Handling.start d).event fd mask out).map Handling.daemon

variable {fd : Nat} {mask : UInt32} {out : Outside} {d : Daemon} {h : Handling}

omit [Platform] in
theorem Handling.ioFd0EventErr_eq (data : Nat) : h.ioFd0EventErr fd data = some
    ⟨{ h.daemon.cleanupPduRbuf data with
        loop := removeFdFromEpollLoop true fd h.daemon.loop
        ioFd0 := 0
        world := h.daemon.world.disconnected }, h.bufs ++ [.cleanup data], h.conns⟩ := rfl

theorem ioFd0Event_err (data : Nat) (herr : mask &&& epollErr ≠ 0) :
    ioFd0Event fd mask data out d = ioFd0EventErr fd data d := by
  unfold ioFd0Event Handling.ioFd0Event
  rw [if_pos herr]
  rfl

theorem Handling.ioFd0Event_in (data : Nat) (herr : mask &&& epollErr = 0) (hin : mask &&& epollIn ≠ 0) :
    h.ioFd0Event fd mask data out = (h.daemon.rbufs data).bind fun rbuf =>
      (ioFd0EventIn out.handlePdu rbuf out.read h.daemon.world).map fun r =>
        let h := h.modify fun d => { d.setRbuf data (some r.2.1) with world := r.2.2 }
        if r.1 = .closed then h.close fd else h := by
  unfold Handling.ioFd0Event
  rw [if_neg (not_not_intro herr), if_pos hin]
  rcases h.daemon.rbufs data with _ | rbuf
  · rfl
  show (ioFd0EventIn out.handlePdu rbuf out.read h.daemon.world).bind _ = Option.map _ _
  rcases ioFd0EventIn out.handlePdu rbuf out.read h.daemon.world with _ | ⟨fate, rbuf', world⟩ <;> rfl

theorem ioFd0Event_in (data : Nat) (herr : mask &&& epollErr = 0) (hin : mask &&& epollIn ≠ 0) :
    ioFd0Event fd mask data out d = (d.rbufs data).bind fun rbuf =>
      (ioFd0EventIn out.handlePdu rbuf out.read d.world).map fun r =>
        let d := { d.setRbuf data (some r.2.1) with world := r.2.2 }
        if r.1 = .closed then d.close fd else d := by
  unfold ioFd0Event
  rw [Handling.ioFd0Event_in data herr hin, Option.map_bind]
  refine congrArg _ (funext fun rbuf => ?_)
  rw [Function.comp_apply, Option.map_map]
  refine congrFun (congrArg _ (funext fun r => ?_)) _
  exact apply_ite Handling.daemon (r.1 = .closed) _ _

theorem ioFd0Event_idle (data : Nat) (herr : mask &&& epollErr = 0) (hin : mask &&& epollIn = 0) :
    ioFd0Event fd mask data out d = some d := by
  unfold ioFd0Event Handling.ioFd0Event
  rw [if_neg (not_not_intro herr), if_neg (not_not_intro hin)]
  rfl

theorem Handling.setupCmdSocket_noBuffer (hnone : out.malloc.obtained = none) :
    h.setupCmdSocket fd out = some (-1, h) := by
  unfold Handling.setupCmdSocket Bluetoothd.createPduRbuf
  rw [hnone]
  rfl

theorem Handling.setupCmdSocket_eq {rbuf : RBuf}
    (hrbuf : Bluetoothd.createPduRbuf maxCmdLen out.malloc = some rbuf) :
    h.setupCmdSocket fd out = some (if (h.daemon.register out fd).1 < 0 then
        (-1,
          { h with
            daemon :=
              { h.daemon with
                rbufs := Function.update h.daemon.rbufs h.daemon.creates none
                creates := h.daemon.creates + 1
                loop := (h.daemon.register out fd).2 }
            bufs := h.bufs ++ [.create h.daemon.creates fd, .cleanup h.daemon.creates] })
      else
        (0,
          { h with
            daemon :=
              { h.daemon with
                rbufs := Function.update h.daemon.rbufs h.daemon.creates (some rbuf)
                creates := h.daemon.creates + 1
                loop := (h.daemon.register out fd).2
                world := h.daemon.world.connected
                ioFd0 := fd }
            bufs := h.bufs ++ [.create h.daemon.creates fd] })) := by
  have hcleanup : Function.update (Function.update h.daemon.rbufs h.daemon.creates (some rbuf))
      h.daemon.creates none = Function.update h.daemon.rbufs h.daemon.creates none :=
    Function.update_idem ..
  have hbufs : h.bufs ++ [.create h.daemon.creates fd, .cleanup h.daemon.creates]
      = h.bufs ++ [.create h.daemon.creates fd] ++ [.cleanup h.daemon.creates] := by
    rw [List.append_assoc, List.singleton_append]
  unfold Handling.setupCmdSocket
  rw [hrbuf]
  show (if (h.daemon.register out fd).1 < 0 then _ else _) = _
  by_cases hres : (h.daemon.register out fd).1 < 0
  · rw [if_pos hres, if_pos hres, ← hcleanup, hbufs]
    rfl
  · rw [if_neg hres, if_neg hres]
    rfl

theorem setupCmdSocket_noBuffer (hnone : out.malloc.obtained = none) :
    setupCmdSocket fd out d = some (-1, d) := by
  unfold setupCmdSocket
  rw [Handling.setupCmdSocket_noBuffer hnone]
  rfl

theorem setupCmdSocket_eq {rbuf : RBuf} (hrbuf : createPduRbuf maxCmdLen out.malloc = some rbuf) :
    setupCmdSocket fd out d = some (if (d.register out fd).1 < 0 then
        (-1, { d with
          rbufs := Function.update d.rbufs d.creates none
          creates := d.creates + 1
          loop := (d.register out fd).2 })
      else
        (0, { d with
          rbufs := Function.update d.rbufs d.creates (some rbuf)
          creates := d.creates + 1
          loop := (d.register out fd).2
          world := d.world.connected
          ioFd0 := fd })) := by
  unfold setupCmdSocket
  rw [Handling.setupCmdSocket_eq hrbuf, Option.map_some]
  show some (Prod.map id Handling.daemon (if (d.register out fd).1 < 0 then _ else _)) = _
  split <;> rfl

theorem Handling.setupCmdSocket_daemon :
    (h.setupCmdSocket fd out).map (Prod.map id Handling.daemon)
      = Bluetoothd.setupCmdSocket fd out h.daemon := by
  rcases hmem : out.malloc.obtained with _ | mem
  · rw [Handling.setupCmdSocket_noBuffer hmem, Bluetoothd.setupCmdSocket_noBuffer hmem]
    rfl
  · have hrbuf := createPduRbuf_congr maxCmdLen hmem
    rw [Handling.setupCmdSocket_eq hrbuf, Bluetoothd.setupCmdSocket_eq hrbuf, Option.map_some]
    split <;> rfl

/-! ## Which slot a connection gets -/

theorem Handling.fdEventIn_cmd (haccept : out.accept = some fd) (h0 : h.daemon.ioFd0 = 0) :
    h.fdEventIn out = ((h.accept fd).setupCmdSocket fd out).map fun p =>
      if p.1 < 0 then p.2.close fd else p.2 := by
  have h0' : (h.accept fd).daemon.ioFd0 = 0 := h0
  unfold Handling.fdEventIn
  rw [haccept]
  dsimp only
  rw [if_pos h0']
  rcases (h.accept fd).setupCmdSocket fd out with _ | ⟨res, h'⟩ <;> rfl

theorem Handling.fdEventIn_ntf (haccept : out.accept = some fd) (h0 : h.daemon.ioFd0 ≠ 0)
    (h1 : h.daemon.ioFd1 = 0) : h.fdEventIn out = some ((h.accept fd).setupNtfSocket fd).2 := by
  have h0' : ¬ (h.accept fd).daemon.ioFd0 = 0 := h0
  have h1' : (h.accept fd).daemon.ioFd1 = 0 := h1
  unfold Handling.fdEventIn
  rw [haccept]
  dsimp only
  rw [if_neg h0', if_pos h1']
  rfl

theorem Handling.fdEventIn_tooMany (haccept : out.accept = some fd) (h0 : h.daemon.ioFd0 ≠ 0)
    (h1 : h.daemon.ioFd1 ≠ 0) : h.fdEventIn out = some ((h.accept fd).close fd) := by
  have h0' : ¬ (h.accept fd).daemon.ioFd0 = 0 := h0
  have h1' : ¬ (h.accept fd).daemon.ioFd1 = 0 := h1
  unfold Handling.fdEventIn
  rw [haccept]
  dsimp only
  rw [if_neg h0', if_neg h1']
  rfl

theorem fdEventIn_none (haccept : out.accept = none) : fdEventIn out d = some d := by
  unfold fdEventIn Handling.fdEventIn
  rw [haccept]
  rfl

theorem fdEventIn_cmd (haccept : out.accept = some fd) (h0 : d.ioFd0 = 0) :
    fdEventIn out d = (setupCmdSocket fd out (d.accepted fd)).map fun p =>
      if p.1 < 0 then p.2.close fd else p.2 := by
  have hsetup : (((Handling.start d).accept fd).setupCmdSocket fd out).map (Prod.map id Handling.daemon)
      = setupCmdSocket fd out (d.accepted fd) := Handling.setupCmdSocket_daemon
  unfold fdEventIn
  rw [Handling.fdEventIn_cmd haccept h0, ← hsetup, Option.map_map, Option.map_map]
  refine congrFun (congrArg _ (funext fun p => ?_)) _
  exact apply_ite Handling.daemon (p.1 < 0) (p.2.close fd) p.2

theorem fdEventIn_ntf (haccept : out.accept = some fd) (h0 : d.ioFd0 ≠ 0) (h1 : d.ioFd1 = 0) :
    fdEventIn out d = some (setupNtfSocket fd (d.accepted fd)).2 := by
  unfold fdEventIn
  rw [Handling.fdEventIn_ntf haccept h0 h1]
  rfl

theorem fdEventIn_tooMany (haccept : out.accept = some fd) (h0 : d.ioFd0 ≠ 0) (h1 : d.ioFd1 ≠ 0) :
    fdEventIn out d = some ((d.accepted fd).close fd) := by
  unfold fdEventIn
  rw [Handling.fdEventIn_tooMany haccept h0 h1]
  rfl

theorem fdEvent_err (herr : mask &&& epollErr ≠ 0) :
    fdEvent fd mask out d = some { d with loop := removeFdFromEpollLoop true fd d.loop } := by
  unfold fdEvent Handling.fdEvent
  rw [if_pos herr]
  rfl

theorem fdEvent_in (herr : mask &&& epollErr = 0) (hin : mask &&& epollIn ≠ 0) :
    fdEvent fd mask out d = fdEventIn out d := by
  unfold fdEvent Handling.fdEvent
  rw [if_neg (not_not_intro herr), if_pos hin]
  rfl

theorem fdEvent_idle (herr : mask &&& epollErr = 0) (hin : mask &&& epollIn = 0) :
    fdEvent fd mask out d = some d := by
  unfold fdEvent Handling.fdEvent
  rw [if_neg (not_not_intro herr), if_neg (not_not_intro hin)]
  rfl

theorem Daemon.event_eq : d.event fd mask out =
    match (d.loop.fdState fd).func, (d.loop.fdState fd).data with
    | some .fdEvent, _ => fdEvent fd mask out d
    | some .ioFd0Event, some data => ioFd0Event fd mask data out d
    | some .execTask, _ => some d
    | _, _ => none := by
  unfold Daemon.event Handling.event
  show Option.map Handling.daemon (match (d.loop.fdState fd).func, (d.loop.fdState fd).data with
    | some .fdEvent, _ => _
    | some .ioFd0Event, some data => _
    | some .execTask, _ => _
    | _, _ => _) = _
  split <;> rfl

end daemon

/-! ## Runs -/

/-- What happens to the daemon: an event on a descriptor, or the peer of an accepted socket closes
it, which is reported with some mask if the descriptor is in the epoll set. -/
inductive Input where
  | event (fd : Nat) (mask : UInt32) (out : Outside)
  | hangUp (fd : Nat) (mask : UInt32) (out : Outside)

def Daemon.step (d : Daemon) : Input → Option Daemon
  | .event fd mask out => d.event fd mask out
  | .hangUp fd mask out =>
    let d := { d with connected := d.connected.erase fd }
    if fd ∈ d.loop.epoll then
      d.event fd mask { out with read := .data [] }
    else
      some d

/-- What the kernel can do: it reports events of the epoll set, accepts positive descriptors that
are not open, and a peer hangs up once. `listenFd` is the listening socket. -/
def Legal (listenFd : Nat) (d : Daemon) : Input → Prop
  | .event fd _ out => fd ∈ d.loop.epoll ∧
    ∀ fd' ∈ out.accept, 0 < fd' ∧ fd' ∉ d.opened ∧ fd' ≠ listenFd
  | .hangUp fd _ _ => fd ∈ d.connected

instance (listenFd : Nat) (d : Daemon) : DecidablePred (Legal listenFd d)
  | .event fd _ out => inferInstanceAs (Decidable (fd ∈ d.loop.epoll ∧
      ∀ fd' ∈ out.accept, 0 < fd' ∧ fd' ∉ d.opened ∧ fd' ≠ listenFd))
  | .hangUp fd _ _ => inferInstanceAs (Decidable (fd ∈ d.connected))

end Bluetoothd

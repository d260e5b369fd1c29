import Bluetoothd.Daemon.Control
import Bluetoothd.Daemon.Failures
import Bluetoothd.Daemon.Leaks
import Bluetoothd.Server.Spec

/-!
# The events of the daemon

An `IoEvent` is an event of the epoll set with everything that the daemon gets from outside while it
handles it. `IoEffect` lists what handling one can do when commands are handled by `handle_pdu`, and
`ServerInv` is what the events keep.
-/

namespace Bluetoothd

open Platform Buffer Transition

/-- An event, with the outside in which the daemon handles it and the command that it completes. -/
structure IoEvent where
  fd : Nat
  mask : UInt32
  accept : Option Nat
  malloc : Malloc (Nat → UInt8)
  ctl : Bool
  read : ReadResult
  env : Env
  calls : Nat

section events

variable [Platform]

def IoEvent.epoll (i : IoEvent) : EpollEvent :=
  ⟨i.fd, i.mask, ⟨i.accept, i.malloc, i.ctl, i.read, handlePduResult i.env i.calls⟩⟩

theorem IoEvent.handled (i : IoEvent) : i.epoll.Handled := ⟨i.env, i.calls, rfl⟩

def Daemon.io (d : Daemon) (i : IoEvent) : Option Daemon := d.dispatch i.epoll

def LegalIo (pipeFd listenFd : Nat) (d : Daemon) (i : IoEvent) : Prop :=
  LegalEvent pipeFd listenFd d i.epoll

instance (pipeFd listenFd : Nat) (d : Daemon) : DecidablePred (LegalIo pipeFd listenFd d) :=
  fun i => inferInstanceAs (Decidable (LegalEvent pipeFd listenFd d i.epoll))

end events

/-! ## Connections -/

structure TurnedAway (d d' : Daemon) (fd : Nat) : Prop extends Refused d d' fd where
  world : d'.world = d.world
  kept : d.ioFd0 ≠ 0 → d'.rbufs = d.rbufs
  bufs : ∀ n, d'.rbufs n = none ∨ d'.rbufs n = d.rbufs n

section connections

variable [Platform] {d d' : Daemon} {e : EpollEvent} {i : IoEvent} {fd n pipeFd listenFd : Nat}
  {rbuf : RBuf}

theorem Connects.turnedAway (h : Connects d e fd) (htakes : ¬ d.Takes e.out fd) :
    ∃ d', d.dispatch e = some d' ∧ TurnedAway d d' fd := by
  have hclose : TurnedAway d ((d.accepted fd).close fd) fd :=
    ⟨.close d fd, rfl, fun _ => rfl, fun _ => .inr rfl⟩
  rw [h.dispatch]
  unfold Daemon.Takes at htakes
  by_cases h0 : d.ioFd0 = 0
  · rw [if_pos h0] at htakes
    rw [fdEventIn_cmd h.accept h0]
    rcases hmalloc : e.out.malloc.obtained with _ | mem
    · rw [setupCmdSocket_noBuffer hmalloc]
      exact ⟨_, rfl, hclose⟩
    have hneg : (-1 : Int) < 0 := by decide
    rcases add_cases e.out.ctl fd (epollErr ||| epollIn) .ioFd0Event (some d.creates) d.loop with
      ⟨entry, hfunc, hdata, hadd⟩ | ⟨-, hadd⟩
    · have hregister : (d.accepted fd).register e.out fd = _ := hadd
      rw [setupCmdSocket_eq (createPduRbuf_congr maxCmdLen hmalloc), hregister, if_pos hneg]
      refine ⟨_, rfl, ⟨rfl, rfl, rfl, rfl, setEntry_func hfunc, setEntry_data hdata, ?_⟩, rfl,
        fun hne => absurd h0 hne, ?_⟩
      · intro n hlive
        have hsome := (Daemon.isSome_update d.rbufs d.creates none n).symm.trans hlive
        by_cases heq : n = d.creates
        · simp [heq] at hsome
        · rwa [if_neg heq] at hsome
      · intro n
        show Function.update d.rbufs d.creates none n = none ∨ _ = _
        by_cases heq : n = d.creates
        · left
          rw [heq, Function.update_self]
        · right
          exact Function.update_of_ne heq _ _
    · have hres : (d.register e.out fd).1 = 0 := congrArg Prod.fst hadd
      exact absurd ⟨congrArg Option.isSome hmalloc, hres.ge⟩ htakes
  · rw [if_neg h0] at htakes
    rw [fdEventIn_tooMany h.accept h0 htakes]
    exact ⟨_, rfl, hclose⟩

theorem Connects.cmdSocket (h : Connects d e fd) (htakes : d.Takes e.out fd) (h0 : d.ioFd0 = 0) :
    ∃ rbuf, createPduRbuf maxCmdLen e.out.malloc = some rbuf ∧
      d.dispatch e = some (d.withCmdSocket fd rbuf) := by
  unfold Daemon.Takes at htakes
  rw [if_pos h0] at htakes
  obtain ⟨mem, hmalloc⟩ := Option.isSome_iff_exists.mp htakes.1
  have hrbuf := createPduRbuf_congr maxCmdLen hmalloc
  refine ⟨_, hrbuf, ?_⟩
  rcases add_cases e.out.ctl fd (epollErr ||| epollIn) .ioFd0Event (some d.creates) d.loop with
    ⟨entry, -, -, hadd⟩ | ⟨-, hadd⟩
  · have hres : (d.register e.out fd).1 = -1 := congrArg Prod.fst hadd
    omega
  · have hregister : (d.accepted fd).register e.out fd = _ := hadd
    rw [h.dispatch, fdEventIn_cmd h.accept h0, setupCmdSocket_eq hrbuf, hregister,
      if_neg (lt_irrefl 0)]
    rfl

theorem Connects.ntfSocket (h : Connects d e fd) (htakes : d.Takes e.out fd) (h0 : d.ioFd0 ≠ 0) :
    d.ioFd1 = 0 ∧ d.dispatch e = some (setupNtfSocket fd (d.accepted fd)).2 := by
  unfold Daemon.Takes at htakes
  rw [if_neg h0] at htakes
  rw [h.dispatch]
  exact ⟨htakes, fdEventIn_ntf h.accept h0 htakes⟩

end connections

/-! ## What an event does -/

section runs

variable [Platform] {d d' : Daemon} {i : IoEvent} {is : List IoEvent} {fd n pipeFd listenFd : Nat}

inductive IoEffect (d : Daemon) (i : IoEvent) : Daemon → Prop
  | idle (hidle : (d.loop.fdState i.fd).func = some .ioFd0Event → i.mask &&& epollErr = 0) :
      IoEffect d i d
  | listenErr (hfunc : (d.loop.fdState i.fd).func = some .fdEvent) :
      IoEffect d i { d with loop := removeFdFromEpollLoop true i.fd d.loop }
  | turnedAway {fd : Nat} {d' : Daemon} (h : Connects d i.epoll fd)
      (htakes : ¬ d.Takes i.epoll.out fd) (haway : TurnedAway d d' fd) : IoEffect d i d'
  | cmdSocket {fd : Nat} {rbuf : RBuf} (h : Connects d i.epoll fd) (htakes : d.Takes i.epoll.out fd)
      (h0 : d.ioFd0 = 0) (hrbuf : createPduRbuf maxCmdLen i.malloc = some rbuf) :
      IoEffect d i (d.withCmdSocket fd rbuf)
  | ntfSocket {fd : Nat} (h : Connects d i.epoll fd) (htakes : d.Takes i.epoll.out fd)
      (h0 : d.ioFd0 ≠ 0) (h1 : d.ioFd1 = 0) : IoEffect d i (setupNtfSocket fd (d.accepted fd)).2
  | cmdErr {n : Nat} (h : OnCmdSocket d i.epoll n) (herr : i.mask &&& epollErr ≠ 0) :
      IoEffect d i
        { d.cleanupPduRbuf n with
          loop := removeFdFromEpollLoop true i.fd d.loop
          ioFd0 := 0
          world := d.world.disconnected }
  | cmdRead {n : Nat} {rbuf : RBuf} {r : Fate × RBuf × World Handler}
      (h : OnCmdSocket d i.epoll n) (herr : i.mask &&& epollErr = 0) (hin : i.mask &&& epollIn ≠ 0)
      (hrbuf : d.rbufs n = some rbuf)
      (hread : ioFd0EventIn (handlePduResult i.env i.calls) rbuf i.read d.world = some r) :
      IoEffect d i
        (if r.1 = .closed then (d.stored n r.2.1 r.2.2).close i.fd else d.stored n r.2.1 r.2.2)

theorem Daemon.io_effect (h : d.io i = some d') : IoEffect d i d' := by
  rcases Daemon.dispatch_cases h with ⟨hfunc, -, rfl⟩ | ⟨fd, hconnects, -⟩ |
    ⟨n, hsocket, hrun⟩ | ⟨hother, rfl⟩
  · exact .listenErr hfunc
  · by_cases htakes : d.Takes i.epoll.out fd
    · by_cases h0 : d.ioFd0 = 0
      · obtain ⟨rbuf, hrbuf, hdispatch⟩ := hconnects.cmdSocket htakes h0
        obtain rfl := Option.some_inj.mp (hdispatch.symm.trans h)
        exact .cmdSocket hconnects htakes h0 hrbuf
      · obtain ⟨h1, hdispatch⟩ := hconnects.ntfSocket htakes h0
        obtain rfl := Option.some_inj.mp (hdispatch.symm.trans h)
        exact .ntfSocket hconnects htakes h0 h1
    · obtain ⟨d'', hdispatch, haway⟩ := hconnects.turnedAway htakes
      obtain rfl := Option.some_inj.mp (hdispatch.symm.trans h)
      exact .turnedAway hconnects htakes haway
  · rcases ioFd0Event_eq_some hrun with
      ⟨herr, hrun⟩ | ⟨herr, hin, rbuf, fate, rbuf', world, hrbuf, hevent, rfl⟩ |
        ⟨hmask, rfl⟩
    · cases hrun
      exact .cmdErr hsocket herr
    · exact .cmdRead (r := (fate, rbuf', world)) hsocket herr hin hrbuf hevent
    · exact .idle fun _ => hmask.1
  · refine .idle fun hfunc => ?_
    rcases hother with ⟨hlisten, -⟩ | hexec
    · cases hlisten.symm.trans hfunc
    · cases hexec.symm.trans hfunc

/-- An event changes the world by connecting or disconnecting a client, or by `handle_pdu`. -/
theorem IoEffect.world_cases (h : IoEffect d i d') :
    d'.world = d.world ∨ d'.world = d.world.connected ∨ d'.world = d.world.disconnected ∨
      (d.loop.fdState i.fd).func = some .ioFd0Event ∧ ∃ cmd status,
        handlePduResult i.env i.calls cmd d.world = some (status, d'.world) := by
  cases h with
  | turnedAway hconnects htakes haway => exact .inl haway.world
  | cmdSocket hconnects htakes h0 hrbuf => exact .inr (.inl rfl)
  | cmdErr hsocket herr => exact .inr (.inr (.inl rfl))
  | cmdRead hsocket herr hin hrbuf hread =>
    rename_i n rbuf r
    obtain ⟨fate, rbuf', w⟩ := r
    have hworld : (if fate = .closed then (d.stored n rbuf' w).close i.fd
        else d.stored n rbuf' w).world = w := by
      split <;> rfl
    rw [hworld]
    rcases ioFd0EventIn_world hread with rfl | hhandle
    · exact .inl rfl
    · exact .inr (.inr (.inr ⟨hsocket.func, hhandle⟩))
  | _ => exact .inl rfl

end runs

/-! ## The invariant -/

section invariant

variable [Platform] {d d' : Daemon} {i : IoEvent} {fd n pipeFd listenFd : Nat} {rbuf : RBuf}

/-- The slot for commands holds neither the pipe nor the listening
socket, and every buffer has the room that `setup_cmd_socket` asks for. -/
structure ServerInv (pipeFd listenFd : Nat) (d : Daemon) : Prop where
  control : ControlInv pipeFd listenFd d
  slot : d.ioFd0 ≠ 0 → d.ioFd0 ≠ pipeFd ∧ d.ioFd0 ≠ listenFd
  bufs : ∀ n rbuf, d.rbufs n = some rbuf → CmdBuffer rbuf ∧ rbuf.raw.length = cmdRoom

omit [Platform] in
theorem rbufs_update {rbufs : Nat → Option RBuf} {P : RBuf → Prop} {n : Nat} {rbuf : Option RBuf}
    (h : ∀ n rbuf, rbufs n = some rbuf → P rbuf) (hrbuf : ∀ rbuf' ∈ rbuf, P rbuf') :
    ∀ n' rbuf', Function.update rbufs n rbuf n' = some rbuf' → P rbuf' := by
  intro n' rbuf' heq
  rw [Function.update_apply] at heq
  split at heq
  · exact hrbuf rbuf' heq
  · exact h n' rbuf' heq

theorem cmdRoom_create {block : Malloc (Nat → UInt8)} {rbuf : RBuf}
    (h : createPduRbuf maxCmdLen block = some rbuf) :
    CmdBuffer rbuf ∧ rbuf.raw.length = cmdRoom := by
  refine ⟨(cmdBuffer_create h).1, ?_⟩
  obtain ⟨mem, -, rfl⟩ := Option.map_eq_some_iff.mp h
  show (List.map mem _).length = _
  rw [List.length_map, List.length_range]
  rfl

theorem cmdRoom_read {handle : Pdu → World Handler → Option (Int × World Handler)} {rbuf : RBuf}
    {read : ReadResult} {w : World Handler} {r : Fate × RBuf × World Handler}
    (h : ioFd0EventIn handle rbuf read w = some r)
    (hrbuf : CmdBuffer rbuf ∧ rbuf.raw.length = cmdRoom) :
    CmdBuffer r.2.1 ∧ r.2.1.raw.length = cmdRoom := by
  obtain ⟨hbuf, hroom⟩ := hrbuf
  cases read with
  | error =>
    cases h
    exact ⟨hbuf, hroom⟩
  | data bytes =>
    simp only [ioFd0EventIn, Option.bind_eq_bind, Option.bind_eq_some_iff] at h
    obtain ⟨rbuf', hfill, h⟩ := h
    have hfilled : CmdBuffer rbuf' ∧ rbuf'.raw.length = cmdRoom :=
      ⟨hbuf.fill hfill, (RBuf.length_raw_fill hfill).trans hroom⟩
    by_cases hpdu : rbuf'.HasPdu
    · rw [dif_pos hpdu, Option.bind_eq_some_iff] at h
      obtain ⟨⟨status, w'⟩, -, h⟩ := h
      dsimp only at h
      split at h <;> cases h
      · exact hfilled
      · exact ⟨hfilled.1.reset, hfilled.2⟩
    · rw [dif_neg hpdu] at h
      split at h <;> cases h <;> exact hfilled

theorem ServerInv.init (hpipe : pipeFd < maxNfds) (hlisten : listenFd < maxNfds)
    (hne : pipeFd ≠ listenFd) : ServerInv pipeFd listenFd (.init pipeFd listenFd) where
  control := ControlInv.init hpipe hlisten hne
  slot := fun h => absurd rfl h
  bufs := nofun

theorem ServerInv.fresh (h : ServerInv pipeFd listenFd d) (hlegal : LegalIo pipeFd listenFd d i)
    (haccept : i.accept = some fd) :
    0 < fd ∧ fd ∉ d.loop.epoll ∧ fd ≠ listenFd ∧ fd ≠ pipeFd := by
  obtain ⟨hpos, hclosed, hlisten, hpipe⟩ := hlegal.2 fd haccept
  exact ⟨hpos, h.control.members.not_mem hclosed hlisten hpipe, hlisten, hpipe⟩

theorem ServerInv.step (h : ServerInv pipeFd listenFd d) (hlegal : LegalIo pipeFd listenFd d i)
    (hio : d.io i = some d') : ServerInv pipeFd listenFd d' := by
  refine ⟨h.control.step hlegal i.handled hio, ?_, ?_⟩
  · cases Daemon.io_effect hio with
    | turnedAway hconnects htakes haway =>
      rw [haway.ioFd0]
      exact h.slot
    | cmdSocket hconnects htakes h0 hrbuf =>
      obtain ⟨-, -, hlisten, hpipe⟩ := h.fresh hlegal hconnects.accept
      exact fun _ => ⟨hpipe, hlisten⟩
    | cmdErr hsocket herr => exact fun hne => absurd rfl hne
    | cmdRead hsocket herr hin hrbuf hread => split <;> exact h.slot
    | _ => exact h.slot
  · cases Daemon.io_effect hio with
    | turnedAway hconnects htakes haway =>
      intro n rbuf hrbuf
      rcases haway.bufs n with hnone | hsame
      · rw [hnone] at hrbuf
        cases hrbuf
      · exact h.bufs n rbuf (hsame.symm.trans hrbuf)
    | cmdSocket hconnects htakes h0 hrbuf =>
      refine rbufs_update h.bufs fun rbuf' heq => ?_
      rw [← Option.some_inj.mp heq]
      exact cmdRoom_create hrbuf
    | cmdErr hsocket herr => exact rbufs_update h.bufs nofun
    | cmdRead hsocket herr hin hrbuf hread =>
      rename_i n rbuf r
      have hbufs : ∀ n' rbuf', Function.update d.rbufs n (some r.2.1) n' = some rbuf' →
          CmdBuffer rbuf' ∧ rbuf'.raw.length = cmdRoom := by
        refine rbufs_update h.bufs fun rbuf' heq => ?_
        rw [← Option.some_inj.mp heq]
        exact cmdRoom_read hread (h.bufs n rbuf hrbuf)
      split <;> exact hbufs
    | _ => exact h.bufs

/-- The command socket is open and registered, and nothing else has its handler. -/
theorem ServerInv.openSocket (h : ServerInv pipeFd listenFd d) (hmem : fd ∈ d.loop.epoll)
    (hfunc : (d.loop.fdState fd).func = some .ioFd0Event) :
    fd = d.ioFd0 ∧ fd ≠ 0 ∧ ∃ n rbuf, OpenSocket d fd n rbuf ∧ rbuf.raw.length = cmdRoom := by
  obtain ⟨heq, hne, -, hslot⟩ := h.control.members.cmd hmem hfunc
  obtain ⟨n, rbuf, hdata, hrbuf⟩ := hslot.rbuf
  obtain ⟨hbuf, hroom⟩ := h.bufs n rbuf hrbuf
  exact ⟨heq, hne, n, rbuf, ⟨hslot.opened, hmem, hfunc, hdata, hrbuf, hbuf⟩, hroom⟩

theorem ServerInv.bare (h : ServerInv pipeFd listenFd d) (hmem : fd ∈ d.loop.epoll)
    (hfunc : (d.loop.fdState fd).func = some .ioFd0Event) :
    Bare d.world ∧ d.world.coreIoSendPdu.isSome := by
  have hserving := h.control.serving fd ⟨hmem, hfunc⟩
  exact ⟨h.control.noModules.bare hserving, hserving.coreIoSendPdu⟩

theorem OpenSocket.io_readable (h : OpenSocket d i.fd n rbuf) (herr : ¬ i.mask &&& epollErr ≠ 0)
    (hin : i.mask &&& epollIn ≠ 0) :
    d.io i = (ioFd0EventIn (handlePduResult i.env i.calls) rbuf i.read d.world).map fun r =>
      if r.1 = .closed then (d.stored n r.2.1 r.2.2).close i.fd else d.stored n r.2.1 r.2.2 := by
  have hio : d.io i = ioFd0Event i.fd i.mask n i.epoll.out d := OnCmdSocket.dispatch ⟨h.func, h.data⟩
  rw [hio, ioFd0Event_in n (not_not.mp herr) hin, h.alloc]
  rfl

omit [Platform] in
theorem Daemon.epoll_init (hpipe : pipeFd < maxNfds) (hlisten : listenFd < maxNfds) :
    (Daemon.init pipeFd listenFd).loop.epoll = {listenFd, pipeFd} := by
  have hfirst : addFdToEpollLoop true pipeFd (epollIn ||| epollErr) EventFunc.execTask
      (none : Option Nat) Loop.start = (0, ⟨Loop.start.setEntry pipeFd _, {pipeFd}⟩) :=
    add_of_mirrors Mirrors.start hpipe
  have hmirrors : Mirrors (addFdToEpollLoop true pipeFd (epollIn ||| epollErr) EventFunc.execTask
      (none : Option Nat) Loop.start).2 := by
    rw [hfirst]
    exact mirrors_setEntry Mirrors.start (by decide : epollIn ||| epollErr ≠ 0)
  show (addFdToEpollLoop true listenFd (epollIn ||| epollErr) EventFunc.fdEvent none _).2.epoll = _
  rw [add_of_mirrors hmirrors hlisten, hfirst]

end invariant

end Bluetoothd

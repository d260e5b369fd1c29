import Bluetoothd.Daemon.Slots

/-!
# The members of the epoll set

`Effect` lists what handling one event can do to the daemon. From it follows what the epoll set
consists of in every state (`Members`): the task pipe, the listening socket, and the command socket
with its receive buffer.
-/

namespace Bluetoothd

open Platform Transition

/-- An event that `epoll_wait` returned, with what the daemon gets from outside while it handles it. -/
structure EpollEvent where
  fd : Nat
  mask : UInt32
  out : Outside

def BufEvent.apply (live : Nat → Bool) : BufEvent → Nat → Bool
  | .create n _ => Function.update live n true
  | .cleanup n => Function.update live n false

@[simp] theorem BufEvent.apply_create (live : Nat → Bool) (n fd m : Nat) :
    BufEvent.apply live (.create n fd) m = if m = n then true else live m := Function.update_apply ..

@[simp] theorem BufEvent.apply_cleanup (live : Nat → Bool) (n m : Nat) :
    BufEvent.apply live (.cleanup n) m = if m = n then false else live m := Function.update_apply ..

def FreshAccept (pipeFd listenFd : Nat) (d : Daemon) (e : EpollEvent) : Prop :=
  ∀ fd ∈ e.out.accept, 0 < fd ∧ fd ∉ d.opened ∧ fd ≠ listenFd ∧ fd ≠ pipeFd

instance (pipeFd listenFd : Nat) (d : Daemon) (e : EpollEvent) :
    Decidable (FreshAccept pipeFd listenFd d e) :=
  inferInstanceAs (Decidable (∀ fd ∈ e.out.accept, 0 < fd ∧ fd ∉ d.opened ∧ fd ≠ listenFd ∧ fd ≠ pipeFd))

def NewAccept (pipeFd listenFd : Nat) (d : Daemon) (e : EpollEvent) : Prop :=
  ∀ fd ∈ e.out.accept, fd ∉ d.opened ∧ fd ≠ listenFd ∧ fd ≠ pipeFd

instance (pipeFd listenFd : Nat) (d : Daemon) (e : EpollEvent) :
    Decidable (NewAccept pipeFd listenFd d e) :=
  inferInstanceAs (Decidable (∀ fd ∈ e.out.accept, fd ∉ d.opened ∧ fd ≠ listenFd ∧ fd ≠ pipeFd))

theorem FreshAccept.new {pipeFd listenFd : Nat} {d : Daemon} {e : EpollEvent}
    (h : FreshAccept pipeFd listenFd d e) : NewAccept pipeFd listenFd d e := by
  intro fd haccept
  exact (h fd haccept).2

def Daemon.withCmdSocket (d : Daemon) (fd : Nat) (rbuf : RBuf) : Daemon :=
  { d.accepted fd with
    rbufs := Function.update d.rbufs d.creates (some rbuf)
    creates := d.creates + 1
    loop := ⟨d.loop.setEntry fd ⟨epollErr ||| epollIn, fd, some .ioFd0Event, some d.creates⟩,
      insert fd d.loop.epoll⟩
    world := d.world.connected
    ioFd0 := fd }

theorem Daemon.withCmdSocket_fdState (d : Daemon) (fd : Nat) (rbuf : RBuf) (fd' : Nat) :
    (d.withCmdSocket fd rbuf).loop.fdState fd' =
      if fd' = fd then ⟨epollErr ||| epollIn, fd, some .ioFd0Event, some d.creates⟩
      else d.loop.fdState fd' := rfl

structure Connects (d : Daemon) (e : EpollEvent) (fd : Nat) : Prop where
  func : (d.loop.fdState e.fd).func = some .fdEvent
  err : e.mask &&& epollErr = 0
  readable : e.mask &&& epollIn ≠ 0
  accept : e.out.accept = some fd

/-- The event is one of the command socket with the buffer `n`. -/
structure OnCmdSocket (d : Daemon) (e : EpollEvent) (n : Nat) : Prop where
  func : (d.loop.fdState e.fd).func = some .ioFd0Event
  data : (d.loop.fdState e.fd).data = some n

variable {d d' : Daemon} {t : Handling} {e : EpollEvent} {fd n pipeFd listenFd : Nat}
  {evs : List BufEvent}

section effects

variable [Platform]

def Daemon.handling (d : Daemon) (e : EpollEvent) : Option Handling :=
  (Handling.start d).event e.fd e.mask e.out

def Daemon.dispatch (d : Daemon) (e : EpollEvent) : Option Daemon := d.event e.fd e.mask e.out

inductive Effect (d : Daemon) (e : EpollEvent) : List BufEvent → Daemon → Prop
  | ignored : Effect d e [] d
  | listenErr (hfunc : (d.loop.fdState e.fd).func = some .fdEvent) :
      Effect d e [] { d with loop := removeFdFromEpollLoop true e.fd d.loop }
  | refused {fd : Nat} (h : Connects d e fd) : Effect d e [] ((d.accepted fd).close fd)
  | notAdded {fd : Nat} {entry : FdState EventFunc Nat} (h : Connects d e fd) (h0 : d.ioFd0 = 0)
      (hfunc : entry.func = (d.loop.fdState fd).func) (hdata : entry.data = (d.loop.fdState fd).data) :
      Effect d e [.create d.creates fd, .cleanup d.creates]
        (Daemon.close
          { d.accepted fd with
            rbufs := Function.update d.rbufs d.creates none
            creates := d.creates + 1
            loop := ⟨d.loop.setEntry fd entry, d.loop.epoll⟩ } fd)
  | cmdSocket {fd : Nat} {rbuf : RBuf} (h : Connects d e fd) (h0 : d.ioFd0 = 0) (hfd : fd < maxNfds) :
      Effect d e [.create d.creates fd]
        { d.accepted fd with
          rbufs := Function.update d.rbufs d.creates (some rbuf)
          creates := d.creates + 1
          loop := ⟨d.loop.setEntry fd ⟨epollErr ||| epollIn, fd, some .ioFd0Event, some d.creates⟩,
            insert fd d.loop.epoll⟩
          world := d.world.connected
          ioFd0 := fd }
  | ntfSocket {fd : Nat} (h : Connects d e fd) (h0 : d.ioFd0 ≠ 0) :
      Effect d e [] (setupNtfSocket fd (d.accepted fd)).2
  | cmdErr {n : Nat} (h : OnCmdSocket d e n) :
      Effect d e [.cleanup n]
        { d.cleanupPduRbuf n with
          loop := removeFdFromEpollLoop true e.fd d.loop
          ioFd0 := 0
          world := d.world.disconnected }
  | cmdIn {n : Nat} {rbuf rbuf' : RBuf} {fate : Fate} {world : World Handler} (h : OnCmdSocket d e n)
      (hrbuf : d.rbufs n = some rbuf)
      (hin : ioFd0EventIn e.out.handlePdu rbuf e.out.read d.world = some (fate, rbuf', world)) :
      Effect d e []
        (if fate = .closed then Daemon.close { d.setRbuf n (some rbuf') with world := world } e.fd
        else { d.setRbuf n (some rbuf') with world := world })

/-! ## Inversion -/

theorem Daemon.dispatch_eq_some : d.dispatch e = some d' ↔ ∃ t, d.handling e = some t ∧ t.daemon = d' :=
  Option.map_eq_some_iff

theorem Connects.handling (h : Connects d e fd) :
    d.handling e = (Handling.start d).fdEventIn e.out := by
  unfold Daemon.handling Handling.event
  rw [show ((Handling.start d).daemon.loop.fdState e.fd).func = some .fdEvent from h.func]
  dsimp only
  unfold Handling.fdEvent
  rw [if_neg (not_not_intro h.err), if_pos h.readable]

theorem Connects.dispatch (h : Connects d e fd) : d.dispatch e = fdEventIn e.out d :=
  congrArg (Option.map Handling.daemon) h.handling

theorem OnCmdSocket.handling (h : OnCmdSocket d e n) :
    d.handling e = (Handling.start d).ioFd0Event e.fd e.mask n e.out := by
  unfold Daemon.handling Handling.event
  rw [show ((Handling.start d).daemon.loop.fdState e.fd).func = some .ioFd0Event from h.func,
    show ((Handling.start d).daemon.loop.fdState e.fd).data = some n from h.data]

theorem OnCmdSocket.dispatch (h : OnCmdSocket d e n) :
    d.dispatch e = ioFd0Event e.fd e.mask n e.out d :=
  congrArg (Option.map Handling.daemon) h.handling

theorem Connects.cases (h : Connects d e fd) (hrun : d.handling e = some t) :
    (d.ioFd0 = 0 ∧ e.out.malloc.obtained = none ∧
      t = ⟨(d.accepted fd).close fd, [], [.accept fd, .close fd]⟩) ∨
    (d.ioFd0 = 0 ∧ e.out.malloc.obtained.isSome ∧ (d.register e.out fd).1 < 0 ∧ ∃ entry,
      entry.func = (d.loop.fdState fd).func ∧ entry.data = (d.loop.fdState fd).data ∧
        t = ⟨Daemon.close
          { d.accepted fd with
            rbufs := Function.update d.rbufs d.creates none
            creates := d.creates + 1
            loop := ⟨d.loop.setEntry fd entry, d.loop.epoll⟩ } fd,
          [.create d.creates fd, .cleanup d.creates], [.accept fd, .close fd]⟩) ∨
    (d.ioFd0 = 0 ∧ e.out.malloc.obtained.isSome ∧ 0 ≤ (d.register e.out fd).1 ∧ fd < maxNfds ∧
      ∃ rbuf, t = ⟨d.withCmdSocket fd rbuf, [.create d.creates fd], [.accept fd]⟩) ∨
    (d.ioFd0 ≠ 0 ∧ d.ioFd1 = 0 ∧ t = ⟨(setupNtfSocket fd (d.accepted fd)).2, [], [.accept fd]⟩) ∨
    (d.ioFd0 ≠ 0 ∧ d.ioFd1 ≠ 0 ∧
      t = ⟨(d.accepted fd).close fd, [], [.accept fd, .close fd]⟩) := by
  rw [h.handling] at hrun
  by_cases h0 : d.ioFd0 = 0
  · rw [Handling.fdEventIn_cmd h.accept h0] at hrun
    rcases hmalloc : e.out.malloc.obtained with _ | mem
    · rw [Handling.setupCmdSocket_noBuffer hmalloc] at hrun
      cases hrun
      exact .inl ⟨h0, rfl, rfl⟩
    have hrbuf := createPduRbuf_congr maxCmdLen hmalloc
    have hneg : (-1 : Int) < 0 := by decide
    rcases add_cases e.out.ctl fd (epollErr ||| epollIn) .ioFd0Event (some d.creates) d.loop with
      ⟨entry, hfunc, hdata, hadd⟩ | ⟨hfd, hadd⟩
    · rw [Handling.setupCmdSocket_eq hrbuf,
        show ((Handling.start d).accept fd).daemon.register e.out fd = _ from hadd, if_pos hneg] at hrun
      cases hrun
      have hres : (d.register e.out fd).1 = -1 := congrArg Prod.fst hadd
      exact .inr (.inl ⟨h0, rfl, by rw [hres]; exact hneg, entry, hfunc, hdata, rfl⟩)
    · rw [Handling.setupCmdSocket_eq hrbuf,
        show ((Handling.start d).accept fd).daemon.register e.out fd = _ from hadd,
        if_neg (lt_irrefl 0)] at hrun
      cases hrun
      have hres : (d.register e.out fd).1 = 0 := congrArg Prod.fst hadd
      exact .inr (.inr (.inl ⟨h0, rfl, hres.ge, hfd, _, rfl⟩))
  · by_cases h1 : d.ioFd1 = 0
    · rw [Handling.fdEventIn_ntf h.accept h0 h1] at hrun
      cases hrun
      exact .inr (.inr (.inr (.inl ⟨h0, h1, rfl⟩)))
    · rw [Handling.fdEventIn_tooMany h.accept h0 h1] at hrun
      cases hrun
      exact .inr (.inr (.inr (.inr ⟨h0, h1, rfl⟩)))

theorem Connects.effect (h : Connects d e fd) (hrun : d.handling e = some t) :
    Effect d e t.bufs t.daemon := by
  rcases h.cases hrun with ⟨-, -, rfl⟩ | ⟨h0, -, -, entry, hfunc, hdata, rfl⟩ |
    ⟨h0, -, -, hfd, rbuf, rfl⟩ | ⟨h0, -, rfl⟩ | ⟨-, -, rfl⟩
  · exact .refused h
  · exact .notAdded h h0 hfunc hdata
  · exact .cmdSocket h h0 hfd
  · exact .ntfSocket h h0
  · exact .refused h

theorem OnCmdSocket.cases (h : OnCmdSocket d e n) (hrun : d.handling e = some t) :
    (e.mask &&& epollErr ≠ 0 ∧
      t = ⟨{ d.cleanupPduRbuf n with
          loop := removeFdFromEpollLoop true e.fd d.loop
          ioFd0 := 0
          world := d.world.disconnected }, [.cleanup n], []⟩) ∨
    (e.mask &&& epollErr = 0 ∧ e.mask &&& epollIn ≠ 0 ∧ ∃ rbuf fate rbuf' world,
      d.rbufs n = some rbuf ∧
      ioFd0EventIn e.out.handlePdu rbuf e.out.read d.world = some (fate, rbuf', world) ∧
      t = if fate = .closed then
          ⟨Daemon.close { d.setRbuf n (some rbuf') with world := world } e.fd, [], [.close e.fd]⟩
        else ⟨{ d.setRbuf n (some rbuf') with world := world }, [], []⟩) ∨
    (e.mask &&& epollErr = 0 ∧ e.mask &&& epollIn = 0 ∧ t = .start d) := by
  rw [h.handling] at hrun
  by_cases herr : e.mask &&& epollErr = 0
  · by_cases hin : e.mask &&& epollIn = 0
    · unfold Handling.ioFd0Event at hrun
      rw [if_neg (not_not_intro herr), if_neg (not_not_intro hin)] at hrun
      exact .inr (.inr ⟨herr, hin, (Option.some_inj.mp hrun).symm⟩)
    · rw [Handling.ioFd0Event_in n herr hin, Option.bind_eq_some_iff] at hrun
      obtain ⟨rbuf, hrbuf, hrun⟩ := hrun
      obtain ⟨⟨fate, rbuf', world⟩, hevent, hrun⟩ := Option.map_eq_some_iff.mp hrun
      exact .inr (.inl ⟨herr, hin, rbuf, fate, rbuf', world, hrbuf, hevent, hrun.symm⟩)
  · unfold Handling.ioFd0Event at hrun
    rw [if_pos herr, Handling.ioFd0EventErr_eq] at hrun
    exact .inl ⟨herr, (Option.some_inj.mp hrun).symm⟩

theorem OnCmdSocket.effect (h : OnCmdSocket d e n) (hrun : d.handling e = some t) :
    Effect d e t.bufs t.daemon := by
  rcases h.cases hrun with ⟨-, rfl⟩ | ⟨-, -, rbuf, fate, rbuf', world, hrbuf, hevent, rfl⟩ | ⟨-, -, rfl⟩
  · exact .cmdErr h
  · have heffect := Effect.cmdIn h hrbuf hevent
    cases fate <;> exact heffect
  · exact .ignored

theorem Daemon.handling_cases (h : d.handling e = some t) :
    ((d.loop.fdState e.fd).func = some .fdEvent ∧ e.mask &&& epollErr ≠ 0 ∧
      t = ⟨{ d with loop := removeFdFromEpollLoop true e.fd d.loop }, [], []⟩) ∨
    (∃ fd, Connects d e fd) ∨ (∃ n, OnCmdSocket d e n) ∨
    (((d.loop.fdState e.fd).func = some .fdEvent ∧ (e.mask &&& epollIn = 0 ∨ e.out.accept = none) ∨
      (d.loop.fdState e.fd).func = some .execTask) ∧ t = .start d) := by
  unfold Daemon.handling Handling.event at h
  split at h
  case h_1 hfunc =>
    unfold Handling.fdEvent at h
    split at h
    case isTrue herr => exact .inl ⟨hfunc, herr, (Option.some_inj.mp h).symm⟩
    case isFalse herr =>
      split at h
      case isTrue hin =>
        rcases haccept : e.out.accept with _ | fd
        · unfold Handling.fdEventIn at h
          rw [haccept] at h
          exact .inr (.inr (.inr ⟨.inl ⟨hfunc, .inr rfl⟩, (Option.some_inj.mp h).symm⟩))
        · exact .inr (.inl ⟨fd, hfunc, not_not.mp herr, hin, haccept⟩)
      case isFalse hin =>
        exact .inr (.inr (.inr ⟨.inl ⟨hfunc, .inl (not_not.mp hin)⟩, (Option.some_inj.mp h).symm⟩))
  case h_2 n hfunc hdata => exact .inr (.inr (.inl ⟨n, hfunc, hdata⟩))
  case h_3 hfunc => exact .inr (.inr (.inr ⟨.inr hfunc, (Option.some_inj.mp h).symm⟩))
  case h_4 => cases h

theorem Daemon.dispatch_cases (h : d.dispatch e = some d') :
    ((d.loop.fdState e.fd).func = some .fdEvent ∧ e.mask &&& epollErr ≠ 0 ∧
      d' = { d with loop := removeFdFromEpollLoop true e.fd d.loop }) ∨
    (∃ fd, Connects d e fd ∧ fdEventIn e.out d = some d') ∨
    (∃ n, OnCmdSocket d e n ∧ ioFd0Event e.fd e.mask n e.out d = some d') ∨
    (((d.loop.fdState e.fd).func = some .fdEvent ∧ (e.mask &&& epollIn = 0 ∨ e.out.accept = none) ∨
      (d.loop.fdState e.fd).func = some .execTask) ∧ d' = d) := by
  obtain ⟨t, hrun, rfl⟩ := Daemon.dispatch_eq_some.mp h
  rcases Daemon.handling_cases hrun with ⟨hfunc, herr, rfl⟩ | ⟨fd, hconnects⟩ | ⟨n, hsocket⟩ |
    ⟨hidle, rfl⟩
  · exact .inl ⟨hfunc, herr, rfl⟩
  · exact .inr (.inl ⟨fd, hconnects, hconnects.dispatch ▸ h⟩)
  · exact .inr (.inr (.inl ⟨n, hsocket, hsocket.dispatch ▸ h⟩))
  · exact .inr (.inr (.inr ⟨hidle, rfl⟩))

theorem Daemon.handling_effect (h : d.handling e = some t) : Effect d e t.bufs t.daemon := by
  rcases Daemon.handling_cases h with ⟨hfunc, -, rfl⟩ | ⟨fd, hconnects⟩ | ⟨n, hsocket⟩ | ⟨-, rfl⟩
  · exact .listenErr hfunc
  · exact hconnects.effect h
  · exact hsocket.effect h
  · exact .ignored

theorem Daemon.dispatch_effect (h : d.dispatch e = some d') : ∃ evs, Effect d e evs d' := by
  obtain ⟨t, hrun, rfl⟩ := Daemon.dispatch_eq_some.mp h
  exact ⟨t.bufs, Daemon.handling_effect hrun⟩

end effects

/-! ## The invariant -/

/-- A descriptor in the epoll set is the task pipe, the listening socket, or the command socket. -/
structure Members (pipeFd listenFd : Nat) (d : Daemon) : Prop where
  pipe : (d.loop.fdState pipeFd).func = some .execTask ∧ (d.loop.fdState pipeFd).data = none
  listening : (d.loop.fdState listenFd).func = some .fdEvent ∧ (d.loop.fdState listenFd).data = none
  range : pipeFd < maxNfds ∧ listenFd < maxNfds
  not_opened : pipeFd ∉ d.opened ∧ listenFd ∉ d.opened
  epoll : ∀ fd ∈ d.loop.epoll, fd = pipeFd ∨ fd = listenFd ∨
    fd = d.ioFd0 ∧ fd ≠ 0 ∧ fd < maxNfds ∧ CmdSlot d fd

theorem Members.init (hpipe : pipeFd < maxNfds) (hlisten : listenFd < maxNfds)
    (hne : pipeFd ≠ listenFd) : Members pipeFd listenFd (Daemon.init pipeFd listenFd) := by
  let entry : FdState EventFunc Nat := ⟨epollIn ||| epollErr, pipeFd, some .execTask, none⟩
  have hfirst : addFdToEpollLoop true pipeFd (epollIn ||| epollErr) EventFunc.execTask none Loop.start
      = (0, ⟨Loop.start.setEntry pipeFd entry, {pipeFd}⟩) := add_of_mirrors Mirrors.start hpipe
  have hevents : entry.events ≠ 0 := by
    show epollIn ||| epollErr ≠ 0
    decide
  have hmirrors : Mirrors (⟨Loop.start.setEntry pipeFd entry, {pipeFd}⟩ : Loop EventFunc Nat) :=
    mirrors_setEntry Mirrors.start hevents
  have hloop : (Daemon.init pipeFd listenFd).loop = ⟨Loop.setEntry
      ⟨Loop.start.setEntry pipeFd entry, {pipeFd}⟩ listenFd
        ⟨epollIn ||| epollErr, listenFd, some .fdEvent, none⟩, {listenFd, pipeFd}⟩ := by
    unfold Daemon.init
    rw [hfirst]
    exact congrArg Prod.snd (add_of_mirrors hmirrors hlisten)
  refine ⟨?_, ?_, ⟨hpipe, hlisten⟩, ⟨Finset.notMem_empty _, Finset.notMem_empty _⟩, ?_⟩
  · simp [hloop, Loop.setEntry, hne, entry]
  · simp [hloop, Loop.setEntry]
  · intro fd hmem
    rw [hloop, Finset.mem_insert, Finset.mem_singleton] at hmem
    tauto

theorem Members.cmd (h : Members pipeFd listenFd d) (hmem : fd ∈ d.loop.epoll)
    (hfunc : (d.loop.fdState fd).func = some .ioFd0Event) :
    fd = d.ioFd0 ∧ fd ≠ 0 ∧ fd < maxNfds ∧ CmdSlot d fd := by
  rcases h.epoll fd hmem with rfl | rfl | hcmd
  · rw [h.pipe.1] at hfunc
    cases hfunc
  · rw [h.listening.1] at hfunc
    cases hfunc
  · exact hcmd

theorem Members.not_mem (h : Members pipeFd listenFd d) (hopened : fd ∉ d.opened)
    (hlisten : fd ≠ listenFd) (hpipe : fd ≠ pipeFd) : fd ∉ d.loop.epoll := by
  intro hmem
  rcases h.epoll fd hmem with heq | heq | ⟨-, -, -, hslot⟩
  · exact hpipe heq
  · exact hlisten heq
  · exact hopened hslot.opened

theorem Members.mono (h : Members pipeFd listenFd d) (h0 : d'.ioFd0 = d.ioFd0)
    (hepoll : d'.loop.epoll ⊆ d.loop.epoll)
    (hfunc : ∀ fd, (d'.loop.fdState fd).func = (d.loop.fdState fd).func)
    (hdata : ∀ fd, (d'.loop.fdState fd).data = (d.loop.fdState fd).data)
    (hopened : ∀ fd ∈ d'.loop.epoll, fd ∈ d.opened → fd ∈ d'.opened)
    (hnot : pipeFd ∉ d'.opened ∧ listenFd ∉ d'.opened)
    (hrbufs : d.ioFd0 ≠ 0 → ∀ n, (d.rbufs n).isSome → (d'.rbufs n).isSome) :
    Members pipeFd listenFd d' where
  pipe := by
    rw [hfunc, hdata]
    exact h.pipe
  listening := by
    rw [hfunc, hdata]
    exact h.listening
  range := h.range
  not_opened := hnot
  epoll := by
    intro fd hmem
    rcases h.epoll fd (hepoll hmem) with heq | heq | ⟨heq, hne, hlt, hslot⟩
    · exact .inl heq
    · exact .inr (.inl heq)
    obtain ⟨n, rbuf, hn, hrbuf⟩ := hslot.rbuf
    have hlive : (d'.rbufs n).isSome := by
      apply hrbufs (by rwa [← heq]) n
      rw [hrbuf]
      rfl
    obtain ⟨rbuf', hrbuf'⟩ := Option.isSome_iff_exists.mp hlive
    refine .inr (.inr ⟨heq.trans h0.symm, hne, hlt, hopened fd hmem hslot.opened, hmem, ?_, n, rbuf',
      ?_, hrbuf'⟩)
    · rw [hfunc]
      exact hslot.func
    · rw [hdata]
      exact hn

theorem setEntry_func {l : Loop EventFunc Nat} {entry : FdState EventFunc Nat}
    (hfunc : entry.func = (l.fdState fd).func) (fd' : Nat) :
    (l.setEntry fd entry fd').func = (l.fdState fd').func := by
  unfold Loop.setEntry
  by_cases heq : fd' = fd
  · rw [if_pos heq, hfunc, heq]
  · rw [if_neg heq]

theorem setEntry_data {l : Loop EventFunc Nat} {entry : FdState EventFunc Nat}
    (hdata : entry.data = (l.fdState fd).data) (fd' : Nat) :
    (l.setEntry fd entry fd').data = (l.fdState fd').data := by
  unfold Loop.setEntry
  by_cases heq : fd' = fd
  · rw [if_pos heq, hdata, heq]
  · rw [if_neg heq]

theorem Members.refused (h : Members pipeFd listenFd d) (hnew : NewAccept pipeFd listenFd d e)
    (hconnects : Connects d e fd) (h0 : d'.ioFd0 = d.ioFd0) (hepoll : d'.loop.epoll = d.loop.epoll)
    (hfunc : ∀ fd, (d'.loop.fdState fd).func = (d.loop.fdState fd).func)
    (hdata : ∀ fd, (d'.loop.fdState fd).data = (d.loop.fdState fd).data)
    (hopened : d'.opened = insert fd d.opened)
    (hrbufs : d.ioFd0 ≠ 0 → ∀ n, (d.rbufs n).isSome → (d'.rbufs n).isSome) :
    Members pipeFd listenFd (d'.close fd) := by
  obtain ⟨hclosed, -, -⟩ := hnew fd hconnects.accept
  have hopened' : (d'.close fd).opened = d.opened := by
    show d'.opened.erase fd = d.opened
    rw [hopened, Finset.erase_insert hclosed]
  refine h.mono h0 ?_ hfunc hdata ?_ ?_ hrbufs
  · show d'.loop.epoll.erase fd ⊆ d.loop.epoll
    rw [hepoll]
    exact Finset.erase_subset _ _
  · rw [hopened']
    exact fun _ _ hmem => hmem
  · rw [hopened']
    exact h.not_opened

theorem Members.cmdSocket {rbuf : RBuf} (h : Members pipeFd listenFd d)
    (hnew : NewAccept pipeFd listenFd d e) (hconnects : Connects d e fd) (hpos : 0 < fd)
    (h0 : d.ioFd0 = 0) (hfd : fd < maxNfds) :
    Members pipeFd listenFd (d.withCmdSocket fd rbuf) := by
  obtain ⟨-, hlisten, hpipe⟩ := hnew fd hconnects.accept
  refine ⟨?_, ?_, h.range, ⟨?_, ?_⟩, ?_⟩
  · simpa [Daemon.withCmdSocket_fdState, hpipe.symm] using h.pipe
  · simpa [Daemon.withCmdSocket_fdState, hlisten.symm] using h.listening
  · exact fun hmem => (Finset.mem_insert.mp hmem).elim hpipe.symm h.not_opened.1
  · exact fun hmem => (Finset.mem_insert.mp hmem).elim hlisten.symm h.not_opened.2
  · intro fd' hmem
    rcases Finset.mem_insert.mp hmem with rfl | hmem
    · right
      right
      refine ⟨rfl, hpos.ne', hfd, Finset.mem_insert_self _ _, Finset.mem_insert_self _ _, ?_,
        d.creates, rbuf, ?_, Function.update_self ..⟩
      · simp [Daemon.withCmdSocket_fdState]
      · simp [Daemon.withCmdSocket_fdState]
    · rcases h.epoll fd' hmem with heq | heq | ⟨heq, hne, -⟩
      · exact .inl heq
      · exact .inr (.inl heq)
      · exact absurd (heq.trans h0) hne

section steps

variable [Platform]

/-- Every event keeps the invariant, unless it makes descriptor 0 the command socket. -/
theorem Members.effect (h : Members pipeFd listenFd d) (hmem : e.fd ∈ d.loop.epoll)
    (hnew : NewAccept pipeFd listenFd d e)
    (hpos : ∀ fd, Connects d e fd → evs = [.create d.creates fd] → 0 < fd)
    (heffect : Effect d e evs d') : Members pipeFd listenFd d' := by
  cases heffect with
  | ignored => exact h
  | listenErr hfunc =>
    refine h.mono rfl ?_ (fun _ => rfl) (fun _ => rfl) (fun _ _ hmem => hmem) h.not_opened
      fun _ _ hlive => hlive
    rw [epoll_remove]
    exact Finset.erase_subset _ _
  | refused hconnects =>
    exact h.refused hnew hconnects rfl rfl (fun _ => rfl) (fun _ => rfl) rfl fun _ _ hlive => hlive
  | notAdded hconnects h0 hfunc hdata =>
    exact h.refused hnew hconnects rfl rfl (setEntry_func hfunc) (setEntry_data hdata) rfl
      fun hne => absurd h0 hne
  | cmdSocket hconnects h0 hfd => exact h.cmdSocket hnew hconnects (hpos _ hconnects rfl) h0 hfd
  | ntfSocket hconnects h0 =>
    obtain ⟨-, hlisten, hpipe⟩ := hnew _ hconnects.accept
    refine h.mono rfl (Finset.Subset.refl _) (fun _ => rfl) (fun _ => rfl)
      (fun _ _ hmem => Finset.mem_insert_of_mem hmem) ⟨?_, ?_⟩ fun _ _ hlive => hlive
    · exact fun hmem => (Finset.mem_insert.mp hmem).elim hpipe.symm h.not_opened.1
    · exact fun hmem => (Finset.mem_insert.mp hmem).elim hlisten.symm h.not_opened.2
  | cmdErr hsocket =>
    obtain ⟨hslot, -⟩ := h.cmd hmem hsocket.func
    refine ⟨h.pipe, h.listening, h.range, h.not_opened, fun fd hfd => ?_⟩
    rw [epoll_remove, Finset.mem_erase] at hfd
    rcases h.epoll fd hfd.2 with heq | heq | ⟨heq, -⟩
    · exact .inl heq
    · exact .inr (.inl heq)
    · exact absurd (heq.trans hslot.symm) hfd.1
  | cmdIn hsocket hrbuf hin =>
    rename_i n rbuf rbuf' fate world
    have hrbufs : ∀ n', (d.rbufs n').isSome → (Function.update d.rbufs n (some rbuf') n').isSome :=
      fun n' hlive => (Daemon.isSome_setRbuf hrbuf rbuf' n').trans hlive
    split
    · refine h.mono rfl (Finset.erase_subset _ _) (fun _ => rfl) (fun _ => rfl) ?_ ⟨?_, ?_⟩
        fun _ => hrbufs
      · exact fun fd hfd hopened => Finset.mem_erase.mpr ⟨(Finset.mem_erase.mp hfd).1, hopened⟩
      · exact fun hopened => h.not_opened.1 (Finset.mem_of_mem_erase hopened)
      · exact fun hopened => h.not_opened.2 (Finset.mem_of_mem_erase hopened)
    · exact h.mono rfl (Finset.Subset.refl _) (fun _ => rfl) (fun _ => rfl) (fun _ _ hmem => hmem)
        h.not_opened fun _ => hrbufs

/-- An event takes no descriptor but its own from the epoll set. -/
theorem Effect.keeps (heffect : Effect d e evs d') (h : Members pipeFd listenFd d)
    (hnew : NewAccept pipeFd listenFd d e) (hmem : fd ∈ d.loop.epoll) (hne : fd ≠ e.fd) :
    fd ∈ d'.loop.epoll := by
  have hconnection : ∀ {fd'}, Connects d e fd' → fd ≠ fd' := by
    rintro fd' hconnects rfl
    obtain ⟨hclosed, hlisten, hpipe⟩ := hnew fd hconnects.accept
    exact h.not_mem hclosed hlisten hpipe hmem
  cases heffect with
  | ignored => exact hmem
  | listenErr hfunc =>
    rw [epoll_remove]
    exact Finset.mem_erase.mpr ⟨hne, hmem⟩
  | refused hconnects => exact Finset.mem_erase.mpr ⟨hconnection hconnects, hmem⟩
  | notAdded hconnects h0 hfunc hdata => exact Finset.mem_erase.mpr ⟨hconnection hconnects, hmem⟩
  | cmdSocket hconnects h0 hfd => exact Finset.mem_insert_of_mem hmem
  | ntfSocket hconnects h0 => exact hmem
  | cmdErr hsocket =>
    rw [epoll_remove]
    exact Finset.mem_erase.mpr ⟨hne, hmem⟩
  | cmdIn hsocket hrbuf hin =>
    split
    · exact Finset.mem_erase.mpr ⟨hne, hmem⟩
    · exact hmem

end steps

end Bluetoothd

import Bluetoothd.Daemon.Epoll

/-!
# Leaked connections

A connection holds a descriptor, one of the slots, and, for commands, a receive buffer and a
registration in the event loop. It is torn down by `io_fd0_event_err`, by the error path of
`io_fd0_event_in`, by a failed `setup_cmd_socket` and by `fd_event_in` when the slots are taken.

`NoLeaks` says that these release what they should. A `Ledger` records the calls that this is about,
and `noLeaks_iff` says for which runs nothing is leaked.
-/

namespace Bluetoothd

open Platform Transition

structure Ledger where
  daemon : Daemon
  conns : List ConnEvent

/-- Nothing is leaked: an open descriptor is in a slot (which is empty when it is 0), no descriptor was
closed more often than it was accepted, and a receive buffer belongs to a descriptor in the epoll
set. -/
structure NoLeaks (t : Ledger) : Prop where
  held : ∀ fd ∈ t.daemon.opened, fd ≠ 0 ∧ (fd = t.daemon.ioFd0 ∨ fd = t.daemon.ioFd1)
  once : ∀ fd, t.conns.count (.close fd) ≤ t.conns.count (.accept fd)
  registered : ∀ n, (t.daemon.rbufs n).isSome → ∃ fd ∈ t.daemon.loop.epoll,
    (t.daemon.loop.fdState fd).func = some .ioFd0Event ∧ (t.daemon.loop.fdState fd).data = some n

/-- The kernel reports events of the epoll set, and `accept` returns descriptors that are not open. -/
def Reported (pipeFd listenFd : Nat) (t : Ledger) (e : EpollEvent) : Prop :=
  e.fd ∈ t.daemon.loop.epoll ∧ NewAccept pipeFd listenFd t.daemon e

instance (pipeFd listenFd : Nat) (t : Ledger) : DecidablePred (Reported pipeFd listenFd t) :=
  fun _ => inferInstanceAs (Decidable (_ ∧ _))

def Daemon.Takes (d : Daemon) (out : Outside) (fd : Nat) : Prop :=
  if d.ioFd0 = 0 then out.malloc.obtained.isSome ∧ 0 ≤ (d.register out fd).1 else d.ioFd1 = 0

instance (d : Daemon) (out : Outside) (fd : Nat) : Decidable (d.Takes out fd) :=
  inferInstanceAs (Decidable
    (if d.ioFd0 = 0 then out.malloc.obtained.isSome ∧ 0 ≤ (d.register out fd).1 else d.ioFd1 = 0))

section ledger

variable [Platform]

def Ledger.init (pipeFd listenFd : Nat) : Ledger := ⟨.init pipeFd listenFd, []⟩

def Ledger.call (t : Ledger) (e : EpollEvent) : Option Ledger :=
  (t.daemon.handling e).map fun h => ⟨h.daemon, t.conns ++ h.conns⟩

/-- The event leaks nothing: it reports no error on the command socket, what is read from that does
not make the daemon close it, and descriptor 0, which no slot can hold, is not put into one. -/
structure Clean (d : Daemon) (e : EpollEvent) : Prop where
  err : ∀ n, OnCmdSocket d e n → e.mask &&& epollErr = 0
  keeps : ∀ n rbuf, OnCmdSocket d e n → e.mask &&& epollIn ≠ 0 → d.rbufs n = some rbuf →
    KeepsOpen e.out rbuf d.world
  slot : ∀ fd, Connects d e fd → d.Takes e.out fd → fd ≠ 0

end ledger

/-! ## What an event does -/

structure Refused (d d' : Daemon) (fd : Nat) : Prop where
  ioFd0 : d'.ioFd0 = d.ioFd0
  ioFd1 : d'.ioFd1 = d.ioFd1
  opened : d'.opened = (insert fd d.opened).erase fd
  epoll : d'.loop.epoll = d.loop.epoll.erase fd
  func : ∀ fd', (d'.loop.fdState fd').func = (d.loop.fdState fd').func
  data : ∀ fd', (d'.loop.fdState fd').data = (d.loop.fdState fd').data
  rbufs : ∀ n, (d'.rbufs n).isSome → (d.rbufs n).isSome

theorem Refused.close (d : Daemon) (fd : Nat) : Refused d ((d.accepted fd).close fd) fd :=
  ⟨rfl, rfl, rfl, rfl, fun _ => rfl, fun _ => rfl, fun _ hlive => hlive⟩

section effects

variable [Platform]

inductive ConnEffect (d : Daemon) (e : EpollEvent) : List ConnEvent → Daemon → Prop
  | ignored : ConnEffect d e [] d
  | listenErr (hfunc : (d.loop.fdState e.fd).func = some .fdEvent) :
      ConnEffect d e [] { d with loop := removeFdFromEpollLoop true e.fd d.loop }
  | refused {fd : Nat} {d' : Daemon} (h : Connects d e fd) (htakes : ¬ d.Takes e.out fd)
      (hrefused : Refused d d' fd) : ConnEffect d e [.accept fd, .close fd] d'
  | cmdSocket {fd : Nat} {rbuf : RBuf} (h : Connects d e fd) (htakes : d.Takes e.out fd)
      (h0 : d.ioFd0 = 0) (hfd : fd < maxNfds) :
      ConnEffect d e [.accept fd] (d.withCmdSocket fd rbuf)
  | ntfSocket {fd : Nat} (h : Connects d e fd) (htakes : d.Takes e.out fd) (h0 : d.ioFd0 ≠ 0)
      (h1 : d.ioFd1 = 0) : ConnEffect d e [.accept fd] (setupNtfSocket fd (d.accepted fd)).2
  | cmdErr {n : Nat} (h : OnCmdSocket d e n) (herr : e.mask &&& epollErr ≠ 0) :
      ConnEffect d e []
        { d.cleanupPduRbuf n with
          loop := removeFdFromEpollLoop true e.fd d.loop
          ioFd0 := 0
          world := d.world.disconnected }
  | cmdIn {n : Nat} {rbuf rbuf' : RBuf} {world : World Handler} (h : OnCmdSocket d e n)
      (hrbuf : d.rbufs n = some rbuf) (hkeeps : KeepsOpen e.out rbuf d.world) :
      ConnEffect d e [] { d.setRbuf n (some rbuf') with world := world }
  | cmdClosed {n : Nat} {rbuf rbuf' : RBuf} {world : World Handler} (h : OnCmdSocket d e n)
      (hin : e.mask &&& epollIn ≠ 0) (hrbuf : d.rbufs n = some rbuf)
      (hcloses : ¬ KeepsOpen e.out rbuf d.world) :
      ConnEffect d e [.close e.fd]
        (Daemon.close { d.setRbuf n (some rbuf') with world := world } e.fd)

variable {d d' : Daemon} {t : Handling} {e : EpollEvent} {fd n : Nat}

theorem Connects.connEffect (h : Connects d e fd) (hrun : d.handling e = some t) :
    ConnEffect d e t.conns t.daemon := by
  have htakes : d.Takes e.out fd ↔ if d.ioFd0 = 0 then
      e.out.malloc.obtained.isSome ∧ 0 ≤ (d.register e.out fd).1 else d.ioFd1 = 0 := Iff.rfl
  rcases h.cases hrun with ⟨h0, hmalloc, rfl⟩ | ⟨h0, hmalloc, hres, entry, hfunc, hdata, rfl⟩ |
    ⟨h0, hmalloc, hres, hfd, rbuf, rfl⟩ | ⟨h0, h1, rfl⟩ | ⟨h0, h1, rfl⟩
  · rw [if_pos h0, hmalloc] at htakes
    have hnot : ¬ d.Takes e.out fd := by simp [htakes]
    exact .refused h hnot (.close d fd)
  · rw [if_pos h0] at htakes
    have hnot : ¬ d.Takes e.out fd := by
      rw [htakes]
      omega
    refine .refused h hnot ⟨rfl, rfl, rfl, rfl, setEntry_func hfunc, setEntry_data hdata, ?_⟩
    -- the buffer that was created has been released again
    intro n hlive
    have hsome := (Daemon.isSome_update d.rbufs d.creates none n).symm.trans hlive
    by_cases heq : n = d.creates
    · simp [heq] at hsome
    · rwa [if_neg heq] at hsome
  · rw [if_pos h0] at htakes
    exact .cmdSocket h (htakes.mpr ⟨hmalloc, hres⟩) h0 hfd
  · rw [if_neg h0] at htakes
    exact .ntfSocket h (htakes.mpr h1) h0 h1
  · rw [if_neg h0] at htakes
    exact .refused h (mt htakes.mp h1) (.close d fd)

theorem OnCmdSocket.connEffect (h : OnCmdSocket d e n) (hrun : d.handling e = some t) :
    ConnEffect d e t.conns t.daemon := by
  rcases h.cases hrun with
    ⟨herr, rfl⟩ | ⟨-, hin, rbuf, fate, rbuf', world, hrbuf, hevent, rfl⟩ | ⟨-, -, rfl⟩
  · exact .cmdErr h herr
  · have hkeeps := keepsOpen_iff hevent
    cases fate with
    | «open» => exact .cmdIn h hrbuf (hkeeps.mpr rfl)
    | closed => exact .cmdClosed h hin hrbuf (mt hkeeps.mp nofun)
  · exact .ignored

theorem Daemon.handling_connEffect (h : d.handling e = some t) :
    ConnEffect d e t.conns t.daemon := by
  rcases Daemon.handling_cases h with ⟨hfunc, -, rfl⟩ | ⟨fd, hconnects⟩ | ⟨n, hsocket⟩ | ⟨-, rfl⟩
  · exact .listenErr hfunc
  · exact hconnects.connEffect h
  · exact hsocket.connEffect h
  · exact .ignored

end effects

/-! ## The invariant -/

/-- The slots hold the open descriptors, one each, and every buffer has its registration. -/
structure Holdings (d : Daemon) : Prop where
  held : ∀ fd ∈ d.opened, fd ≠ 0 ∧ (fd = d.ioFd0 ∨ fd = d.ioFd1)
  cmd : d.ioFd0 ≠ 0 → d.ioFd0 ∈ d.opened ∧ d.ioFd0 ≠ d.ioFd1
  ntf : d.ioFd1 ≠ 0 → d.ioFd1 ∈ d.opened
  registered : ∀ n, (d.rbufs n).isSome → ∃ fd ∈ d.loop.epoll,
    (d.loop.fdState fd).func = some .ioFd0Event ∧ (d.loop.fdState fd).data = some n

section holdings

variable {d d' : Daemon} {e : EpollEvent} {fd n : Nat}

theorem Holdings.refused (h : Holdings d) (hrefused : Refused d d' fd) (hclosed : fd ∉ d.opened)
    (hepoll : fd ∉ d.loop.epoll) : Holdings d' := by
  have hopened : d'.opened = d.opened := by
    rw [hrefused.opened, Finset.erase_insert hclosed]
  have hmembers : d'.loop.epoll = d.loop.epoll := by
    rw [hrefused.epoll, Finset.erase_eq_of_notMem hepoll]
  refine ⟨?_, ?_, ?_, fun n hlive => ?_⟩
  · rw [hopened, hrefused.ioFd0, hrefused.ioFd1]
    exact h.held
  · rw [hopened, hrefused.ioFd0, hrefused.ioFd1]
    exact h.cmd
  · rw [hopened, hrefused.ioFd1]
    exact h.ntf
  · obtain ⟨fd', hmem, hfunc, hdata⟩ := h.registered n (hrefused.rbufs n hlive)
    refine ⟨fd', ?_, ?_, ?_⟩
    · rwa [hmembers]
    · rwa [hrefused.func]
    · rwa [hrefused.data]

theorem Holdings.listenErr (h : Holdings d) (hfunc : (d.loop.fdState fd).func = some .fdEvent) :
    Holdings { d with loop := removeFdFromEpollLoop true fd d.loop } := by
  refine ⟨h.held, h.cmd, h.ntf, fun n hlive => ?_⟩
  obtain ⟨fd', hmem, hfunc', hdata⟩ := h.registered n hlive
  refine ⟨fd', ?_, hfunc', hdata⟩
  rw [epoll_remove]
  refine Finset.mem_erase.mpr ⟨?_, hmem⟩
  rintro rfl
  rw [hfunc] at hfunc'
  cases hfunc'

theorem Holdings.cmdSocket {rbuf : RBuf} (h : Holdings d) (hclosed : fd ∉ d.opened)
    (hepoll : fd ∉ d.loop.epoll) (hne : fd ≠ 0) (h0 : d.ioFd0 = 0) :
    Holdings (d.withCmdSocket fd rbuf) := by
  refine ⟨fun fd' hmem => ?_, fun _ => ⟨Finset.mem_insert_self fd d.opened, ?_⟩, fun hne1 => ?_,
    fun n hlive => ?_⟩
  · rcases Finset.mem_insert.mp hmem with rfl | hmem
    · exact ⟨hne, .inl rfl⟩
    · obtain ⟨hpos, heq | heq⟩ := h.held fd' hmem
      · exact absurd (heq.trans h0) hpos
      · exact ⟨hpos, .inr heq⟩
  · show fd ≠ d.ioFd1
    rintro rfl
    exact hclosed (h.ntf hne)
  · exact Finset.mem_insert_of_mem (h.ntf hne1)
  · by_cases heq : n = d.creates
    · refine ⟨fd, Finset.mem_insert_self _ _, ?_, ?_⟩
      · simp [Daemon.withCmdSocket_fdState]
      · simp [Daemon.withCmdSocket_fdState, heq]
    · have hold : (d.rbufs n).isSome := by
        rwa [← Function.update_of_ne heq (some rbuf) d.rbufs]
      obtain ⟨fd', hmem, hfunc, hdata⟩ := h.registered n hold
      have hother : fd' ≠ fd := by
        rintro rfl
        exact hepoll hmem
      refine ⟨fd', Finset.mem_insert_of_mem hmem, ?_, ?_⟩
      · simpa [Daemon.withCmdSocket_fdState, hother] using hfunc
      · simpa [Daemon.withCmdSocket_fdState, hother] using hdata

theorem Holdings.ntfSocket (h : Holdings d) (hclosed : fd ∉ d.opened) (hne : fd ≠ 0)
    (h0 : d.ioFd0 ≠ 0) (h1 : d.ioFd1 = 0) : Holdings (setupNtfSocket fd (d.accepted fd)).2 := by
  obtain ⟨hcmd, -⟩ := h.cmd h0
  refine ⟨fun fd' hmem => ?_, fun _ => ⟨Finset.mem_insert_of_mem hcmd, ?_⟩,
    fun _ => Finset.mem_insert_self _ _, h.registered⟩
  · rcases Finset.mem_insert.mp hmem with rfl | hmem
    · exact ⟨hne, .inr rfl⟩
    · obtain ⟨hpos, heq | heq⟩ := h.held fd' hmem
      · exact ⟨hpos, .inl heq⟩
      · exact absurd (heq.trans h1) hpos
  · show d.ioFd0 ≠ fd
    rintro rfl
    exact hclosed hcmd

theorem Holdings.cmdIn {rbuf rbuf' : RBuf} {world : World Handler} (h : Holdings d)
    (hrbuf : d.rbufs n = some rbuf) : Holdings { d.setRbuf n (some rbuf') with world := world } := by
  refine ⟨h.held, h.cmd, h.ntf, fun n' hlive => h.registered n' ?_⟩
  exact (Daemon.isSome_setRbuf hrbuf rbuf' n').symm.trans hlive

end holdings

section steps

variable [Platform] {d d' : Daemon} {e : EpollEvent} {conns : List ConnEvent}
  {fd n pipeFd listenFd : Nat}

theorem Holdings.effect (h : Holdings d) (hmembers : Members pipeFd listenFd d)
    (hnew : NewAccept pipeFd listenFd d e) (hclean : Clean d e) (heffect : ConnEffect d e conns d') :
    Holdings d' := by
  have hfresh : ∀ {fd}, Connects d e fd → fd ∉ d.opened ∧ fd ∉ d.loop.epoll := by
    intro fd hconnects
    obtain ⟨hclosed, hlisten, hpipe⟩ := hnew fd hconnects.accept
    exact ⟨hclosed, hmembers.not_mem hclosed hlisten hpipe⟩
  cases heffect with
  | ignored => exact h
  | listenErr hfunc => exact h.listenErr hfunc
  | refused hconnects _ hrefused =>
    exact h.refused hrefused (hfresh hconnects).1 (hfresh hconnects).2
  | cmdSocket hconnects htakes h0 _ =>
    exact h.cmdSocket (hfresh hconnects).1 (hfresh hconnects).2 (hclean.slot _ hconnects htakes) h0
  | ntfSocket hconnects htakes h0 h1 =>
    exact h.ntfSocket (hfresh hconnects).1 (hclean.slot _ hconnects htakes) h0 h1
  | cmdErr hsocket herr => exact absurd (hclean.err _ hsocket) herr
  | cmdIn hsocket hrbuf _ => exact h.cmdIn hrbuf
  | cmdClosed hsocket hin hrbuf hcloses => exact absurd (hclean.keeps _ _ hsocket hin hrbuf) hcloses

omit [Platform] in
theorem count_accept {opened : Finset Nat} {new : Nat} (hclosed : new ∉ opened) (fd : Nat) :
    [ConnEvent.accept new].count (.accept fd) + (if fd ∈ opened then 1 else 0)
      = [ConnEvent.accept new].count (.close fd) + (if fd ∈ insert new opened then 1 else 0) := by
  by_cases heq : new = fd
  · simp [← heq, hclosed]
  · simp [heq, Ne.symm heq]

theorem ConnEffect.count (heffect : ConnEffect d e conns d') (hmembers : Members pipeFd listenFd d)
    (hmem : e.fd ∈ d.loop.epoll) (hnew : NewAccept pipeFd listenFd d e) (fd : Nat) :
    conns.count (.accept fd) + (if fd ∈ d.opened then 1 else 0)
      = conns.count (.close fd) + (if fd ∈ d'.opened then 1 else 0) := by
  cases heffect with
  | ignored => rfl
  | listenErr hfunc => rfl
  | @refused fd' _ hconnects _ hrefused =>
    obtain ⟨hclosed, -⟩ := hnew fd' hconnects.accept
    rw [hrefused.opened, Finset.erase_insert hclosed]
    by_cases heq : fd' = fd
    · simp [heq]
    · simp [heq]
  | cmdSocket hconnects _ _ _ => exact count_accept (hnew _ hconnects.accept).1 fd
  | ntfSocket hconnects _ _ _ => exact count_accept (hnew _ hconnects.accept).1 fd
  | cmdErr hsocket herr => rfl
  | cmdIn hsocket hrbuf _ => rfl
  | cmdClosed hsocket hin hrbuf _ =>
    obtain ⟨-, -, -, hslot⟩ := hmembers.cmd hmem hsocket.func
    show _ = _ + if fd ∈ d.opened.erase e.fd then 1 else 0
    by_cases heq : e.fd = fd
    · simp [← heq, hslot.opened]
    · simp [heq, Ne.symm heq]

/-! ## Runs -/

/-- The invariant of the runs that leak nothing: beside what the slots and the epoll set hold, every
descriptor was closed as often as it was accepted, or once less while it is open. -/
structure LedgerInv (pipeFd listenFd : Nat) (t : Ledger) : Prop where
  members : Members pipeFd listenFd t.daemon
  holdings : Holdings t.daemon
  count : ∀ fd, t.conns.count (.accept fd)
    = t.conns.count (.close fd) + if fd ∈ t.daemon.opened then 1 else 0

variable {t t' : Ledger}

omit [Platform] in
theorem LedgerInv.noLeaks (h : LedgerInv pipeFd listenFd t) : NoLeaks t := by
  refine ⟨h.holdings.held, fun fd => ?_, h.holdings.registered⟩
  rw [h.count fd]
  exact Nat.le_add_right _ _

omit [Platform] in
theorem LedgerInv.init (hpipe : pipeFd < maxNfds) (hlisten : listenFd < maxNfds)
    (hne : pipeFd ≠ listenFd) : LedgerInv pipeFd listenFd (Ledger.init pipeFd listenFd) := by
  refine ⟨Members.init hpipe hlisten hne, ⟨?_, nofun, nofun, nofun⟩, fun fd => rfl⟩
  intro fd hmem
  exact absurd hmem (Finset.notMem_empty fd)

theorem Connects.takes {h : Handling} (hconnects : Connects d e fd) (hrun : d.handling e = some h)
    (hbufs : h.bufs = [.create d.creates fd]) : d.Takes e.out fd := by
  unfold Daemon.Takes
  rcases hconnects.cases hrun with ⟨-, -, rfl⟩ | ⟨-, -, -, entry, -, -, rfl⟩ |
    ⟨h0, hmalloc, hres, -⟩ | ⟨-, -, rfl⟩ | ⟨-, -, rfl⟩
  · cases hbufs
  · cases hbufs
  · rw [if_pos h0]
    exact ⟨hmalloc, hres⟩
  · cases hbufs
  · cases hbufs

theorem LedgerInv.call (h : LedgerInv pipeFd listenFd t) (hreported : Reported pipeFd listenFd t e)
    (hclean : Clean t.daemon e) (hcall : t.call e = some t') : LedgerInv pipeFd listenFd t' := by
  obtain ⟨t', hhandling, rfl⟩ := Option.map_eq_some_iff.mp hcall
  obtain ⟨hmem, hnew⟩ := hreported
  have heffect := Daemon.handling_connEffect hhandling
  refine ⟨?_, h.holdings.effect h.members hnew hclean heffect, fun fd => ?_⟩
  · refine h.members.effect hmem hnew (fun fd hconnects hbufs => ?_)
      (Daemon.handling_effect hhandling)
    exact Nat.pos_of_ne_zero (hclean.slot fd hconnects (hconnects.takes hhandling hbufs))
  · have hstep := heffect.count h.members hmem hnew fd
    have hcount := h.count fd
    rw [List.count_append, List.count_append]
    show _ = _ + if fd ∈ t'.daemon.opened then 1 else 0
    omega

/-- An error on the command socket leaves its descriptor open, and without a slot. -/
theorem OnCmdSocket.leaks_err (hsocket : OnCmdSocket d e n) (hmembers : Members pipeFd listenFd d)
    (h : Holdings d) (hmem : e.fd ∈ d.loop.epoll) (herr : e.mask &&& epollErr ≠ 0) :
    ∃ d', d.dispatch e = some d' ∧ ∀ conns, ¬ NoLeaks ⟨d', conns⟩ := by
  obtain ⟨heq, hne, -, hslot⟩ := hmembers.cmd hmem hsocket.func
  obtain ⟨-, hdistinct⟩ := h.cmd (heq ▸ hne)
  rw [hsocket.dispatch, ioFd0Event_err n herr]
  refine ⟨_, rfl, fun conns hnone => ?_⟩
  rcases (hnone.held e.fd hslot.opened).2 with hzero | hntf
  · exact hne hzero
  · exact hdistinct (heq.symm.trans hntf)

/-- Where `io_fd0_event_in` closes the socket, its buffer is registered no longer. -/
theorem OnCmdSocket.leaks_closed {rbuf : RBuf} (hsocket : OnCmdSocket d e n)
    (hmembers : Members pipeFd listenFd d) (hmem : e.fd ∈ d.loop.epoll)
    (herr : e.mask &&& epollErr = 0) (hin : e.mask &&& epollIn ≠ 0) (hrbuf : d.rbufs n = some rbuf)
    (hcloses : ¬ KeepsOpen e.out rbuf d.world) :
    ∃ d', d.dispatch e = some d' ∧ ∀ conns, ¬ NoLeaks ⟨d', conns⟩ := by
  obtain ⟨heq, -, -, -⟩ := hmembers.cmd hmem hsocket.func
  obtain ⟨rbuf', world, hevent⟩ := closes_of_not_keepsOpen hcloses
  rw [hsocket.dispatch, ioFd0Event_in n herr hin, hrbuf, Option.bind_some, hevent]
  refine ⟨_, rfl, fun conns hnone => ?_⟩
  have hlive : (Function.update d.rbufs n (some rbuf') n).isSome := by
    rw [Function.update_self]
    rfl
  obtain ⟨fd, hfd, hfunc, -⟩ := hnone.registered n hlive
  obtain ⟨hother, hfd⟩ := Finset.mem_erase.mp hfd
  obtain ⟨heq', -⟩ := hmembers.cmd hfd hfunc
  exact hother (heq'.trans heq.symm)

theorem Connects.taken (h : Connects d e fd) (htakes : d.Takes e.out fd) :
    ∃ d', d.dispatch e = some d' ∧ fd ∈ d'.opened := by
  rw [h.dispatch]
  unfold Daemon.Takes at htakes
  by_cases h0 : d.ioFd0 = 0
  · rw [if_pos h0] at htakes
    obtain ⟨mem, hmem⟩ := Option.isSome_iff_exists.mp htakes.1
    have hres : ¬ ((d.accepted fd).register e.out fd).1 < 0 := Int.not_lt.mpr htakes.2
    rw [fdEventIn_cmd h.accept h0, setupCmdSocket_eq (createPduRbuf_congr maxCmdLen hmem),
      if_neg hres]
    exact ⟨_, rfl, Finset.mem_insert_self fd d.opened⟩
  · rw [if_neg h0] at htakes
    rw [fdEventIn_ntf h.accept h0 htakes]
    exact ⟨_, rfl, Finset.mem_insert_self fd d.opened⟩

theorem LedgerInv.clean (h : LedgerInv pipeFd listenFd t) (hmem : e.fd ∈ t.daemon.loop.epoll)
    (hnext : ∀ t', t.call e = some t' → NoLeaks t') : Clean t.daemon e := by
  have hcall : ∀ {d'}, t.daemon.dispatch e = some d' → ∃ conns, NoLeaks ⟨d', conns⟩ := by
    intro d' hdispatch
    obtain ⟨h', hhandling, rfl⟩ := Daemon.dispatch_eq_some.mp hdispatch
    refine ⟨t.conns ++ h'.conns, hnext _ ?_⟩
    rw [Ledger.call, hhandling]
    rfl
  have herr : ∀ n, OnCmdSocket t.daemon e n → e.mask &&& epollErr = 0 := by
    intro n hsocket
    by_contra herr
    obtain ⟨d', hdispatch, hleaks⟩ := hsocket.leaks_err h.members h.holdings hmem herr
    obtain ⟨conns, hnone⟩ := hcall hdispatch
    exact hleaks conns hnone
  refine ⟨herr, fun n rbuf hsocket hin hrbuf => ?_, fun fd hconnects htakes => ?_⟩
  · by_contra hcloses
    obtain ⟨d', hdispatch, hleaks⟩ :=
      hsocket.leaks_closed h.members hmem (herr n hsocket) hin hrbuf hcloses
    obtain ⟨conns, hnone⟩ := hcall hdispatch
    exact hleaks conns hnone
  · obtain ⟨d', hdispatch, hopened⟩ := hconnects.taken htakes
    obtain ⟨conns, hnone⟩ := hcall hdispatch
    exact (hnone.held fd hopened).1

/-- **No leaked connections, exactly.** A run of the daemon leaks nothing in any state that it
reaches if and only if all its events are clean. -/
theorem noLeaks_iff (hpipe : pipeFd < maxNfds) (hlisten : listenFd < maxNfds)
    (hne : pipeFd ≠ listenFd) {events : List EpollEvent}
    (hreported : Along Ledger.call (Reported pipeFd listenFd) (.init pipeFd listenFd) events) :
    (∀ k t, run Ledger.call (.init pipeFd listenFd) (events.take k) = some t → NoLeaks t) ↔
      Along Ledger.call (fun t e => Clean t.daemon e) (.init pipeFd listenFd) events := by
  have hinit := LedgerInv.init hpipe hlisten hne
  rw [← along_next_iff hinit.noLeaks]
  refine along_iff (fun t e t' h => h.call) (fun t e h hreported => ?_) hinit hreported
  constructor
  · exact h.clean hreported.1
  · exact fun hclean t' hcall => (h.call hreported hclean hcall).noLeaks

end steps

/-- The command socket 5 is set up, and reports an error. -/
def commandError : List EpollEvent :=
  [⟨3, epollIn, @Outside.obliging lp64 (some 5) .error⟩, ⟨5, epollErr, @Outside.obliging lp64 none .error⟩]

/-- The command socket 5 is set up, and a `read` from it fails. -/
def commandReadFails : List EpollEvent :=
  [⟨3, epollIn, @Outside.obliging lp64 (some 5) .error⟩, ⟨5, epollIn, @Outside.obliging lp64 none .error⟩]

set_option maxRecDepth 10000 in
/-- After an error on the command socket its descriptor is open and in no slot; and after a failed
`read` its buffer is allocated, but belongs to no descriptor in the epoll set. -/
theorem connections_leak :
    (Along (@Ledger.call lp64) (Reported 4 3) (.init 4 3) commandError ∧
      ∃ t, run (@Ledger.call lp64) (.init 4 3) commandError = some t ∧ 5 ∈ t.daemon.opened ∧
        t.daemon.ioFd0 = 0 ∧ t.daemon.ioFd1 = 0 ∧ ¬ NoLeaks t) ∧
    (Along (@Ledger.call lp64) (Reported 4 3) (.init 4 3) commandReadFails ∧
      ∃ t, run (@Ledger.call lp64) (.init 4 3) commandReadFails = some t ∧
        (t.daemon.rbufs 0).isSome ∧ 5 ∉ t.daemon.loop.epoll ∧ ¬ NoLeaks t) := by
  refine ⟨⟨by decide, _, rfl, by decide, rfl, rfl, fun h => ?_⟩,
    ⟨by decide, _, rfl, rfl, by decide, fun h => ?_⟩⟩
  · have hheld := h.held 5 (by decide)
    revert hheld
    decide
  · obtain ⟨fd, hmem, hfunc, -⟩ := h.registered 0 rfl
    revert hfunc
    revert fd
    decide

/-- A client connects both sockets and sends the first half of a header; another client is turned
away. -/
def turnedAway : List EpollEvent :=
  [⟨3, epollIn, @Outside.obliging lp64 (some 5) .error⟩, ⟨3, epollIn, @Outside.obliging lp64 (some 6) .error⟩,
    ⟨5, epollIn, @Outside.obliging lp64 none (.data [0, 2])⟩,
    ⟨3, epollIn, @Outside.obliging lp64 (some 7) .error⟩]

set_option maxRecDepth 10000 in
theorem noLeaks_iff_turnedAway :
    (∀ k t, run (@Ledger.call lp64) (.init 4 3) (turnedAway.take k) = some t → NoLeaks t) ∧
      ∃ t, run (@Ledger.call lp64) (.init 4 3) turnedAway = some t ∧ t.daemon.ioFd0 = 5 ∧
        t.daemon.ioFd1 = 6 ∧ t.conns = [.accept 5, .accept 6, .accept 7, .close 7] := by
  have hruns := @noLeaks_iff lp64 4 3 (by decide) (by decide) (by decide) turnedAway (by decide)
  refine ⟨hruns.mpr ?_, _, rfl, rfl, rfl, rfl⟩
  have hconnection : ∀ {d : Daemon} {fd : Nat}, fd ≠ 0 → (d.loop.fdState 3).func = some .fdEvent →
      @Clean lp64 d ⟨3, epollIn, @Outside.obliging lp64 (some fd) .error⟩ := by
    intro d fd hne hfunc
    refine @Clean.mk lp64 d _ (fun _ _ => ?_) (fun n rbuf hsocket => ?_) fun fd' hconnects _ => ?_
    · show epollIn &&& epollErr = 0
      decide
    · cases hfunc.symm.trans hsocket.func
    · cases hconnects.accept
      exact hne
  refine ⟨hconnection (by decide) rfl, fun t₁ h₁ => ?_⟩
  cases h₁
  refine ⟨hconnection (by decide) rfl, fun t₂ h₂ => ?_⟩
  cases h₂
  refine ⟨@Clean.mk lp64 _ _ (fun _ _ => by decide) (fun n rbuf hsocket _ hrbuf => ?_)
    fun fd hconnects => ?_, fun t₃ h₃ => ?_⟩
  · obtain rfl : 0 = n := Option.some_inj.mp hsocket.data
    cases hrbuf
    refine ⟨[0, 2], rfl, fun rbuf' hfill => ?_⟩
    cases hfill
    exact ⟨fun hpdu => absurd hpdu (by decide), fun _ => by decide⟩
  · exact absurd hconnects.func (by decide)
  · cases h₃
    exact ⟨hconnection (by decide) rfl, fun _ _ => trivial⟩

end Bluetoothd

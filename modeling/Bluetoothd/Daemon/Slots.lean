import Bluetoothd.Daemon.Sockets

/-!
# The connection slots

`NoStaleSlot` is what `io_fd` should say about the accepted sockets in every state of the daemon.
Not every event restores it: `Restores` lists the ones that do, and `noStaleSlot_of_restores` says
that it holds throughout the runs that are made of these.
-/

namespace Bluetoothd

open Platform Transition

variable {listenFd fd : Nat} {d d' : Daemon}

/-! ## What the slots should say -/

/-- The command slot names an accepted socket that is open and in the epoll set, where
`io_fd0_event` handles its events with an allocated receive buffer. -/
structure CmdSlot (d : Daemon) (fd : Nat) : Prop where
  opened : fd ∈ d.opened
  epoll : fd ∈ d.loop.epoll
  func : (d.loop.fdState fd).func = some .ioFd0Event
  rbuf : ∃ n rbuf, (d.loop.fdState fd).data = some n ∧ d.rbufs n = some rbuf

def Accepts (listenFd fd : Nat) (d : Daemon) (i : Input) : Prop :=
  Legal listenFd d i ∧ ∃ mask out, i = .event listenFd mask out ∧ mask &&& epollErr = 0 ∧
    mask &&& epollIn ≠ 0 ∧ out.accept = some fd ∧ fd < maxNfds ∧ out.malloc.obtained.isSome ∧ out.ctl = true

theorem Accepts.fresh {i : Input} (h : Accepts listenFd fd d i) :
    0 < fd ∧ fd ∉ d.opened ∧ fd ≠ listenFd ∧ fd < maxNfds := by
  obtain ⟨hlegal, mask, out, rfl, -, -, haccept, hlt, -⟩ := h
  obtain ⟨-, hfresh⟩ := hlegal
  obtain ⟨hpos, hnew, hlisten⟩ := hfresh fd haccept
  exact ⟨hpos, hnew, hlisten, hlt⟩

/-- The input neither comes from the listening socket nor reports an error. -/
def Between (listenFd : Nat) : Input → Prop
  | .event fd mask _ => fd ≠ listenFd ∧ mask &&& epollErr = 0
  | .hangUp fd mask _ => fd ≠ listenFd ∧ mask &&& epollErr = 0

section spec

variable [Platform]

/-- The next two connections become the command socket and the notification socket, whatever is
read between them. -/
def NextTwo (listenFd : Nat) (d : Daemon) : Prop :=
  ∀ fd₁ fd₂ i₁ i₂ is d₁ d₂ d₃, Accepts listenFd fd₁ d i₁ → d.step i₁ = some d₁ →
    (∀ i ∈ is, Between listenFd i) → run Daemon.step d₁ is = some d₂ →
    Accepts listenFd fd₂ d₂ i₂ → d₂.step i₂ = some d₃ → d₃.ioFd0 = fd₁ ∧ d₃.ioFd1 = fd₂

/-- No slot is stale, and so the next client can connect once the last one has gone away. -/
structure NoStaleSlot (listenFd : Nat) (d : Daemon) : Prop where
  cmd : d.ioFd0 ≠ 0 → CmdSlot d d.ioFd0
  ntf : d.ioFd1 ≠ 0 → d.ioFd1 ∈ d.connected
  next : d.connected = ∅ → NextTwo listenFd d

/-! ## The events that keep it -/

/-- `io_fd0_event_in` leaves the socket open: `read` did not fail, the command it completed did not
fail, and the buffer is not full of something else. -/
def KeepsOpen (out : Outside) (rbuf : RBuf) (world : World Handler) : Prop :=
  ∃ bytes, out.read = .data bytes ∧ ∀ rbuf', rbuf.fill bytes = some rbuf' →
    (∀ (h : rbuf'.HasPdu) status world', out.handlePdu (rbuf'.pdu h) world = some (status, world') →
      0 ≤ status) ∧
    (¬ rbuf'.HasPdu → ¬ rbuf'.IsFull)

def SetsUp (out : Outside) (d : Daemon) : Prop :=
  ∀ fd, out.accept = some fd → d.ioFd0 = 0 → fd < maxNfds → out.malloc.obtained.isSome → out.ctl = true

/-- The input keeps the slots in order: it does not make the daemon close the command socket, nor
does a peer hang up unnoticed. Without `EPOLLERR` no hang-up is noticed, and nothing is of a
notification socket. -/
def Restores (d : Daemon) : Input → Prop
  | .event fd mask out => mask &&& epollErr = 0 → mask &&& epollIn ≠ 0 →
    ((d.loop.fdState fd).func = some .fdEvent → SetsUp out d) ∧
    ((d.loop.fdState fd).func = some .ioFd0Event → ∀ n rbuf, (d.loop.fdState fd).data = some n →
      d.rbufs n = some rbuf → KeepsOpen out rbuf d.world)
  | .hangUp fd mask _ => fd ≠ d.ioFd1 ∧ (fd = d.ioFd0 → mask &&& epollErr ≠ 0)

end spec

/-! ## The invariant -/

structure SlotInv (listenFd : Nat) (d : Daemon) : Prop where
  listening : (d.loop.fdState listenFd).func = some .fdEvent
  only : ∀ fd, (d.loop.fdState fd).func = some .fdEvent → fd = listenFd
  listen_not_opened : listenFd ∉ d.opened
  connected_subset : d.connected ⊆ d.opened
  epoll : ∀ fd ∈ d.loop.epoll, fd = listenFd ∨ fd ≠ 0 ∧ fd = d.ioFd0
  cmd : d.ioFd0 ≠ 0 → CmdSlot d d.ioFd0 ∧ d.ioFd0 ∈ d.connected
  ntf : d.ioFd1 ≠ 0 → d.ioFd1 ∈ d.connected
  fresh : ∀ fd, fd ∉ d.opened → fd ≠ listenFd → (d.loop.fdState fd).events = 0

theorem SlotInv.start (h : listenFd < maxNfds) : SlotInv listenFd (Daemon.start listenFd) := by
  have hloop : (Daemon.start listenFd).loop = ⟨Loop.start.setEntry listenFd
      ⟨epollIn ||| epollErr, listenFd, some .fdEvent, none⟩, {listenFd}⟩ :=
    congrArg Prod.snd (add_of_mirrors Mirrors.start h)
  refine ⟨?_, ?_, Finset.notMem_empty _, fun _ h => h, ?_, nofun, nofun, ?_⟩
  · simp [hloop, Loop.setEntry]
  · intro fd hfd
    by_contra hne
    simp [hloop, Loop.setEntry, hne, Loop.start] at hfd
  · intro fd hfd
    rw [hloop] at hfd
    exact .inl (Finset.mem_singleton.mp hfd)
  · intro fd _ hne
    simp [hloop, Loop.setEntry, hne, Loop.start]

theorem SlotInv.congr (h : SlotInv listenFd d) (h0 : d'.ioFd0 = d.ioFd0) (h1 : d'.ioFd1 = d.ioFd1)
    (hloop : d'.loop = d.loop) (hopened : d'.opened = d.opened)
    (hconnected : d'.connected = d.connected)
    (hrbufs : d.ioFd0 ≠ 0 → ∀ n, (d.rbufs n).isSome → (d'.rbufs n).isSome) : SlotInv listenFd d' where
  listening := by rw [hloop]; exact h.listening
  only := by rw [hloop]; exact h.only
  listen_not_opened := by rw [hopened]; exact h.listen_not_opened
  connected_subset := by rw [hconnected, hopened]; exact h.connected_subset
  epoll := by rw [hloop, h0]; exact h.epoll
  cmd := by
    rw [h0, hconnected]
    intro hne
    obtain ⟨⟨hopen, hepoll, hfunc, n, rbuf, hdata, hrbuf⟩, hpeer⟩ := h.cmd hne
    obtain ⟨rbuf', hrbuf'⟩ := Option.isSome_iff_exists.mp
      (hrbufs hne n (Option.isSome_iff_exists.mpr ⟨rbuf, hrbuf⟩))
    refine ⟨⟨?_, ?_, ?_, n, rbuf', ?_, hrbuf'⟩, hpeer⟩
    · rwa [hopened]
    · rwa [hloop]
    · rwa [hloop]
    · rwa [hloop]
  ntf := by rw [h1, hconnected]; exact h.ntf
  fresh := by rw [hopened, hloop]; exact h.fresh

theorem SlotInv.not_mem_epoll (h : SlotInv listenFd d) (hopened : fd ∉ d.opened)
    (hlisten : fd ≠ listenFd) : fd ∉ d.loop.epoll := by
  intro hepoll
  rcases h.epoll fd hepoll with heq | ⟨hne, rfl⟩
  · exact hlisten heq
  · exact hopened (h.cmd hne).1.opened

theorem SlotInv.empty (h : SlotInv listenFd d) (hgone : d.connected = ∅) :
    d.ioFd0 = 0 ∧ d.ioFd1 = 0 := by
  constructor
  · by_contra hne
    have hpeer := (h.cmd hne).2
    rw [hgone] at hpeer
    exact Finset.notMem_empty _ hpeer
  · by_contra hne
    have hpeer := h.ntf hne
    rw [hgone] at hpeer
    exact Finset.notMem_empty _ hpeer

theorem SlotInv.refused (h : SlotInv listenFd d) (hfd : fd ∉ d.opened) (hlisten : fd ≠ listenFd)
    (h0 : d'.ioFd0 = d.ioFd0) (h1 : d'.ioFd1 = d.ioFd1) (hloop : d'.loop = d.loop)
    (hopened : d'.opened = insert fd d.opened) (hconnected : d'.connected = insert fd d.connected)
    (hrbufs : d.ioFd0 ≠ 0 → ∀ n, (d.rbufs n).isSome → (d'.rbufs n).isSome) :
    SlotInv listenFd (d'.close fd) := by
  refine h.congr h0 h1 ?_ ?_ ?_ hrbufs
  · show ({ d'.loop with epoll := d'.loop.epoll.erase fd } : Loop EventFunc Nat) = d.loop
    rw [hloop, Finset.erase_eq_of_notMem (h.not_mem_epoll hfd hlisten)]
  · show d'.opened.erase fd = d.opened
    rw [hopened, Finset.erase_insert hfd]
  · show d'.connected.erase fd = d.connected
    rw [hconnected, Finset.erase_insert fun hmem => hfd (h.connected_subset hmem)]

theorem SlotInv.cmdSocket {n : Nat} (h : SlotInv listenFd d) (hempty : d.ioFd0 = 0) (hpos : 0 < fd)
    (hlisten : fd ≠ listenFd) (h0 : d'.ioFd0 = fd) (h1 : d'.ioFd1 = d.ioFd1)
    (hloop : d'.loop = ⟨d.loop.setEntry fd ⟨epollErr ||| epollIn, fd, some .ioFd0Event, some n⟩,
      insert fd d.loop.epoll⟩)
    (hrbuf : (d'.rbufs n).isSome) (hopened : d'.opened = insert fd d.opened)
    (hconnected : d'.connected = insert fd d.connected) : SlotInv listenFd d' := by
  have hentry : ∀ fd', fd' ≠ fd → d'.loop.fdState fd' = d.loop.fdState fd' := fun fd' hne => by
    rw [hloop]
    exact if_neg hne
  have hself : d'.loop.fdState fd = ⟨epollErr ||| epollIn, fd, some .ioFd0Event, some n⟩ := by
    rw [hloop]
    exact if_pos rfl
  have hepoll : d'.loop.epoll = insert fd d.loop.epoll := by rw [hloop]
  refine ⟨?_, ?_, ?_, ?_, ?_, ?_, ?_, ?_⟩
  · rw [hentry listenFd hlisten.symm]
    exact h.listening
  · intro fd' hfunc
    by_cases heq : fd' = fd
    · rw [heq, hself] at hfunc
      cases hfunc
    · rw [hentry fd' heq] at hfunc
      exact h.only fd' hfunc
  · rw [hopened, Finset.mem_insert, not_or]
    exact ⟨hlisten.symm, h.listen_not_opened⟩
  · rw [hconnected, hopened]
    exact Finset.insert_subset_insert fd h.connected_subset
  · intro fd' hmem
    rw [hepoll, Finset.mem_insert] at hmem
    rcases hmem with rfl | hmem
    · exact .inr ⟨hpos.ne', h0.symm⟩
    · rcases h.epoll fd' hmem with heq | ⟨hne, heq⟩
      · exact .inl heq
      · exact absurd (heq.trans hempty) hne
  · intro _
    obtain ⟨rbuf, hrbuf⟩ := Option.isSome_iff_exists.mp hrbuf
    rw [h0, hconnected]
    refine ⟨⟨?_, ?_, ?_, n, rbuf, ?_, hrbuf⟩, Finset.mem_insert_self _ _⟩
    · rw [hopened]
      exact Finset.mem_insert_self _ _
    · rw [hepoll]
      exact Finset.mem_insert_self _ _
    · rw [hself]
    · rw [hself]
  · rw [h1, hconnected]
    exact fun hne => Finset.mem_insert_of_mem (h.ntf hne)
  · intro fd' hnot hne
    rw [hopened, Finset.mem_insert, not_or] at hnot
    rw [hentry fd' hnot.1]
    exact h.fresh fd' hnot.2 hne

theorem SlotInv.ntfSocket (h : SlotInv listenFd d) (hlisten : fd ≠ listenFd) :
    SlotInv listenFd (setupNtfSocket fd (d.accepted fd)).2 where
  listening := h.listening
  only := h.only
  listen_not_opened := by
    show listenFd ∉ insert fd d.opened
    rw [Finset.mem_insert, not_or]
    exact ⟨hlisten.symm, h.listen_not_opened⟩
  connected_subset := Finset.insert_subset_insert fd h.connected_subset
  epoll := h.epoll
  cmd := fun hne => by
    obtain ⟨⟨hopened, hepoll, hfunc, hrbuf⟩, hpeer⟩ := h.cmd hne
    exact ⟨⟨Finset.mem_insert_of_mem hopened, hepoll, hfunc, hrbuf⟩, Finset.mem_insert_of_mem hpeer⟩
  ntf := fun _ => Finset.mem_insert_self _ _
  fresh := fun fd' hnot hne => h.fresh fd' (fun hmem => hnot (Finset.mem_insert_of_mem hmem)) hne

theorem SlotInv.fdEventErr (h : SlotInv listenFd d) :
    SlotInv listenFd { d with loop := removeFdFromEpollLoop true listenFd d.loop } where
  listening := h.listening
  only := h.only
  listen_not_opened := h.listen_not_opened
  connected_subset := h.connected_subset
  epoll := fun fd hmem => by
    rw [epoll_remove] at hmem
    exact h.epoll fd (Finset.mem_of_mem_erase hmem)
  cmd := fun hne => by
    obtain ⟨⟨hopened, hepoll, hfunc, hrbuf⟩, hpeer⟩ := h.cmd hne
    refine ⟨⟨hopened, ?_, hfunc, hrbuf⟩, hpeer⟩
    show d.ioFd0 ∈ (removeFdFromEpollLoop true listenFd d.loop).epoll
    rw [epoll_remove]
    refine Finset.mem_erase.mpr ⟨fun heq => ?_, hepoll⟩
    rw [heq] at hopened
    exact h.listen_not_opened hopened
  ntf := h.ntf
  fresh := h.fresh

/-- An error on the command socket empties its slot, also when its peer is one that is gone. -/
theorem SlotInv.ioFd0EventErr {data : Nat} {connected : Finset Nat} (h : SlotInv listenFd d)
    (hfd : fd = d.ioFd0) (hsubset : connected ⊆ d.connected)
    (hntf : d.ioFd1 ≠ 0 → d.ioFd1 ∈ connected)
    (hrun : ioFd0EventErr fd data { d with connected := connected } = some d') :
    SlotInv listenFd d' := by
  cases hrun
  exact
    { listening := h.listening
      only := h.only
      listen_not_opened := h.listen_not_opened
      connected_subset := hsubset.trans h.connected_subset
      epoll := fun fd' hmem => by
        change fd' ∈ (removeFdFromEpollLoop true fd d.loop).epoll at hmem
        rw [epoll_remove, Finset.mem_erase] at hmem
        rcases h.epoll fd' hmem.2 with heq | ⟨-, heq⟩
        · exact .inl heq
        · exact absurd (heq.trans hfd.symm) hmem.1
      cmd := fun hne => absurd rfl hne
      ntf := hntf
      fresh := h.fresh }

section steps

variable [Platform]

/-! ## Setting up a connection -/

variable {out : Outside}

/-- A descriptor that is too large for the event loop is refused before anything is registered. -/
theorem setupCmdSocket_tooLarge (hmalloc : out.malloc.obtained.isSome) (hfd : maxNfds ≤ fd) :
    ∃ d', setupCmdSocket fd out d = some (-1, d') ∧ d'.ioFd0 = d.ioFd0 ∧ d'.ioFd1 = d.ioFd1 ∧
      d'.loop = d.loop ∧ d'.opened = d.opened ∧ d'.connected = d.connected := by
  obtain ⟨mem, hmem⟩ := Option.isSome_iff_exists.mp hmalloc
  have hres : d.register out fd = (-1, d.loop) := add_of_ge hfd ..
  rw [setupCmdSocket_eq (createPduRbuf_congr maxCmdLen hmem), hres, if_pos (neg_lt_zero.mpr one_pos)]
  exact ⟨_, rfl, rfl, rfl, rfl, rfl, rfl⟩

theorem setupCmdSocket_success (hmalloc : out.malloc.obtained.isSome) (hctl : out.ctl = true)
    (hfd : fd < maxNfds) (hevents : (d.loop.fdState fd).events = 0) (hepoll : fd ∉ d.loop.epoll) :
    ∃ d' n, setupCmdSocket fd out d = some (0, d') ∧ d'.ioFd0 = fd ∧ d'.ioFd1 = d.ioFd1 ∧
      d'.loop = ⟨d.loop.setEntry fd ⟨epollErr ||| epollIn, fd, some .ioFd0Event, some n⟩,
        insert fd d.loop.epoll⟩ ∧
      (d'.rbufs n).isSome ∧ d'.opened = d.opened ∧ d'.connected = d.connected := by
  obtain ⟨mem, hmem⟩ := Option.isSome_iff_exists.mp hmalloc
  have hres : d.register out fd = (0, ⟨d.loop.setEntry fd
      ⟨epollErr ||| epollIn, fd, some .ioFd0Event, some d.creates⟩, insert fd d.loop.epoll⟩) := by
    rw [Daemon.register, hctl]
    exact add_of_empty hfd hevents hepoll
  rw [setupCmdSocket_eq (createPduRbuf_congr maxCmdLen hmem), hres, if_neg (lt_irrefl 0)]
  refine ⟨_, d.creates, rfl, rfl, rfl, rfl, ?_, rfl, rfl⟩
  show (Function.update d.rbufs d.creates (some _) d.creates).isSome
  rw [Function.update_self]
  rfl

/-! ## What the event functions do -/

theorem fdEvent_eq_some {mask : UInt32} (h : fdEvent fd mask out d = some d') :
    (mask &&& epollErr ≠ 0 ∧ d' = { d with loop := removeFdFromEpollLoop true fd d.loop }) ∨
    (mask &&& epollErr = 0 ∧ mask &&& epollIn ≠ 0 ∧ fdEventIn out d = some d') ∨
    ((mask &&& epollErr = 0 ∧ mask &&& epollIn = 0) ∧ d' = d) := by
  by_cases herr : mask &&& epollErr = 0
  · by_cases hin : mask &&& epollIn = 0
    · rw [fdEvent_idle herr hin] at h
      exact .inr (.inr ⟨⟨herr, hin⟩, (Option.some_inj.mp h).symm⟩)
    · rw [fdEvent_in herr hin] at h
      exact .inr (.inl ⟨herr, hin, h⟩)
  · rw [fdEvent_err herr] at h
    exact .inl ⟨herr, (Option.some_inj.mp h).symm⟩

theorem ioFd0Event_eq_some {mask : UInt32} {data : Nat}
    (h : ioFd0Event fd mask data out d = some d') :
    (mask &&& epollErr ≠ 0 ∧ ioFd0EventErr fd data d = some d') ∨
    (mask &&& epollErr = 0 ∧ mask &&& epollIn ≠ 0 ∧ ∃ rbuf fate rbuf' world,
      d.rbufs data = some rbuf ∧
      ioFd0EventIn out.handlePdu rbuf out.read d.world = some (fate, rbuf', world) ∧
      d' = if fate = .closed then { d.setRbuf data (some rbuf') with world := world }.close fd
        else { d.setRbuf data (some rbuf') with world := world }) ∨
    ((mask &&& epollErr = 0 ∧ mask &&& epollIn = 0) ∧ d' = d) := by
  by_cases herr : mask &&& epollErr = 0
  · by_cases hin : mask &&& epollIn = 0
    · rw [ioFd0Event_idle data herr hin] at h
      exact .inr (.inr ⟨⟨herr, hin⟩, (Option.some_inj.mp h).symm⟩)
    · rw [ioFd0Event_in data herr hin, Option.bind_eq_some_iff] at h
      obtain ⟨rbuf, hrbuf, h⟩ := h
      obtain ⟨⟨fate, rbuf', world⟩, hevent, h⟩ := Option.map_eq_some_iff.mp h
      exact .inr (.inl ⟨herr, hin, rbuf, fate, rbuf', world, hrbuf, hevent, h.symm⟩)
  · rw [ioFd0Event_err data herr] at h
    exact .inl ⟨herr, h⟩

/-! ## One step -/

theorem SlotInv.fdEventIn (h : SlotInv listenFd d)
    (hfresh : ∀ fd, out.accept = some fd → 0 < fd ∧ fd ∉ d.opened ∧ fd ≠ listenFd)
    (hsets : SetsUp out d) (hrun : fdEventIn out d = some d') : SlotInv listenFd d' := by
  rcases haccept : out.accept with _ | fd
  · rw [fdEventIn_none haccept] at hrun
    cases hrun
    exact h
  obtain ⟨hpos, hnew, hlisten⟩ := hfresh fd haccept
  by_cases h0 : d.ioFd0 = 0
  · rw [fdEventIn_cmd haccept h0] at hrun
    rcases hmalloc : out.malloc.obtained with _ | mem
    · rw [setupCmdSocket_noBuffer hmalloc] at hrun
      cases hrun
      exact h.refused hnew hlisten rfl rfl rfl rfl rfl fun _ _ h => h
    have hmem : out.malloc.obtained.isSome := by rw [hmalloc]; rfl
    by_cases hfd : fd < maxNfds
    · have hctl := hsets fd haccept h0 hfd hmem
      obtain ⟨d₁, n, hsetup, hio0, hio1, hloop, hrbuf, hopened, hconnected⟩ :=
        setupCmdSocket_success (d := d.accepted fd) hmem hctl hfd (h.fresh fd hnew hlisten)
          (h.not_mem_epoll hnew hlisten)
      rw [hsetup] at hrun
      cases hrun
      exact h.cmdSocket h0 hpos hlisten hio0 hio1 hloop hrbuf hopened hconnected
    · obtain ⟨d₁, hsetup, hio0, hio1, hloop, hopened, hconnected⟩ :=
        setupCmdSocket_tooLarge (d := d.accepted fd) hmem (Nat.not_lt.mp hfd)
      rw [hsetup] at hrun
      cases hrun
      exact h.refused hnew hlisten hio0 hio1 hloop hopened hconnected fun hne => absurd h0 hne
  · by_cases h1 : d.ioFd1 = 0
    · rw [fdEventIn_ntf haccept h0 h1] at hrun
      cases hrun
      exact h.ntfSocket hlisten
    · rw [fdEventIn_tooMany haccept h0 h1] at hrun
      cases hrun
      exact h.refused hnew hlisten rfl rfl rfl rfl rfl fun _ _ h => h

theorem keepsOpen_iff {rbuf rbuf' : RBuf} {fate : Fate} {w w' : World Handler}
    (hevent : ioFd0EventIn out.handlePdu rbuf out.read w = some (fate, rbuf', w')) :
    KeepsOpen out rbuf w ↔ fate = .open := by
  unfold KeepsOpen
  rcases hread : out.read with _ | bytes <;> rw [hread] at hevent
  · cases hevent
    simp
  · simp only [ioFd0EventIn, Option.bind_eq_bind, Option.bind_eq_some_iff] at hevent
    obtain ⟨rbuf₁, hfill, hevent⟩ := hevent
    simp only [ReadResult.data.injEq, exists_eq_left', hfill, Option.some.injEq, forall_eq']
    by_cases hpdu : rbuf₁.HasPdu
    · rw [dif_pos hpdu, Option.bind_eq_some_iff] at hevent
      obtain ⟨⟨status, w₁⟩, hhandle, hevent⟩ := hevent
      by_cases hneg : status < 0
      · simp only [hneg, if_true, Option.pure_def, Option.some.injEq, Prod.mk.injEq] at hevent
        rw [← hevent.1]
        refine iff_of_false (fun h => ?_) (by simp)
        have := h.1 hpdu status w₁ hhandle
        omega
      · simp only [hneg, if_false, Option.pure_def, Option.some.injEq, Prod.mk.injEq] at hevent
        rw [← hevent.1]
        refine iff_of_true ⟨fun _ status' w₂ hhandle' => ?_, fun h => absurd hpdu h⟩ rfl
        cases hhandle.symm.trans hhandle'
        omega
    · rw [dif_neg hpdu] at hevent
      by_cases hfull : rbuf₁.IsFull
      · rw [if_pos hfull] at hevent
        cases hevent
        exact iff_of_false (fun h => h.2 hpdu hfull) (by simp)
      · rw [if_neg hfull] at hevent
        cases hevent
        exact iff_of_true ⟨fun h => absurd h hpdu, fun _ => hfull⟩ rfl

theorem closes_of_not_keepsOpen {rbuf : RBuf} {w : World Handler} (h : ¬ KeepsOpen out rbuf w) :
    ∃ rbuf' w', ioFd0EventIn out.handlePdu rbuf out.read w = some (.closed, rbuf', w') := by
  unfold KeepsOpen at h
  rcases hread : out.read with _ | bytes
  · exact ⟨_, _, rfl⟩
  · rw [hread] at h
    simp only [ReadResult.data.injEq, exists_eq_left', not_forall, not_and_or] at h
    obtain ⟨rbuf₁, hfill, h⟩ := h
    simp only [ioFd0EventIn, hfill, Option.bind_eq_bind, Option.bind_some]
    rcases h with ⟨hpdu, status, w₁, hhandle, hneg⟩ | ⟨hpdu, hfull⟩
    · rw [dif_pos hpdu, hhandle]
      exact ⟨_, _, if_pos (by omega)⟩
    · rw [dif_neg hpdu, if_pos (not_not.mp hfull)]
      exact ⟨_, _, rfl⟩

omit [Platform] in
theorem SlotInv.ioFd0EventIn {n : Nat} {rbuf rbuf' : RBuf} {world : World Handler}
    (h : SlotInv listenFd d) (hrbuf : d.rbufs n = some rbuf) :
    SlotInv listenFd { d.setRbuf n (some rbuf') with world := world } := by
  refine h.congr rfl rfl rfl rfl rfl fun _ n' hn' => ?_
  exact (Daemon.isSome_setRbuf hrbuf rbuf' n').trans hn'

theorem Daemon.event_listen (h : (d.loop.fdState fd).func = some .fdEvent) (mask : UInt32)
    (out : Outside) : d.event fd mask out = fdEvent fd mask out d := by
  rw [Daemon.event_eq, h]

theorem CmdSlot.event (h : CmdSlot d fd) (mask : UInt32) (out : Outside) :
    ∃ n rbuf, (d.loop.fdState fd).data = some n ∧ d.rbufs n = some rbuf ∧
      ∀ connected, Daemon.event { d with connected := connected } fd mask out
        = ioFd0Event fd mask n out { d with connected := connected } := by
  obtain ⟨-, -, hfunc, n, rbuf, hdata, hrbuf⟩ := h
  refine ⟨n, rbuf, hdata, hrbuf, fun connected => ?_⟩
  rw [Daemon.event_eq, hfunc, hdata]

theorem SlotInv.event {mask : UInt32} (h : SlotInv listenFd d)
    (hlegal : Legal listenFd d (.event fd mask out)) (hrestores : Restores d (.event fd mask out))
    (hrun : d.event fd mask out = some d') : SlotInv listenFd d' := by
  obtain ⟨hmem, hfresh⟩ := hlegal
  rcases h.epoll fd hmem with rfl | ⟨hne, rfl⟩
  · rw [Daemon.event_listen h.listening] at hrun
    rcases fdEvent_eq_some hrun with ⟨-, rfl⟩ | ⟨herr, hin, hrun⟩ | ⟨-, rfl⟩
    · exact h.fdEventErr
    · exact h.fdEventIn hfresh ((hrestores herr hin).1 h.listening) hrun
    · exact h
  · obtain ⟨hslot, -⟩ := h.cmd hne
    obtain ⟨n, rbuf, hdata, hrbuf, hevent⟩ := hslot.event mask out
    rw [show d.event d.ioFd0 mask out = _ from hevent d.connected] at hrun
    rcases ioFd0Event_eq_some hrun with
      ⟨-, hrun⟩ | ⟨herr, hin, rbuf₁, fate, rbuf', world, hrbuf₁, hevent, rfl⟩ | ⟨-, rfl⟩
    · exact h.ioFd0EventErr rfl (fun _ h => h) h.ntf hrun
    · obtain rfl : rbuf = rbuf₁ := Option.some_inj.mp (hrbuf.symm.trans hrbuf₁)
      obtain rfl := (keepsOpen_iff hevent).mp ((hrestores herr hin).2 hslot.func n rbuf hdata hrbuf)
      exact h.ioFd0EventIn hrbuf
    · exact h

theorem SlotInv.hangUp {mask : UInt32} (h : SlotInv listenFd d)
    (hlegal : Legal listenFd d (.hangUp fd mask out)) (hrestores : Restores d (.hangUp fd mask out))
    (hrun : d.step (.hangUp fd mask out) = some d') : SlotInv listenFd d' := by
  obtain ⟨hntf, herr⟩ := hrestores
  have hpeer : d.ioFd1 ≠ 0 → d.ioFd1 ∈ d.connected.erase fd := fun hne =>
    Finset.mem_erase.mpr ⟨hntf.symm, h.ntf hne⟩
  have hsubset : d.connected.erase fd ⊆ d.connected := Finset.erase_subset _ _
  unfold Daemon.step at hrun
  dsimp only at hrun
  by_cases hmem : fd ∈ d.loop.epoll
  · rw [if_pos hmem] at hrun
    rcases h.epoll fd hmem with rfl | ⟨hne, rfl⟩
    · exact absurd (h.connected_subset hlegal) h.listen_not_opened
    · obtain ⟨n, rbuf, -, -, hevent⟩ := (h.cmd hne).1.event mask
        { out with read := .data [] }
      rw [hevent] at hrun
      rw [ioFd0Event_err _ (herr rfl)] at hrun
      exact h.ioFd0EventErr rfl hsubset hpeer hrun
  · rw [if_neg hmem] at hrun
    cases hrun
    refine ⟨h.listening, h.only, h.listen_not_opened, hsubset.trans h.connected_subset, h.epoll,
      fun hne => ?_, hpeer, h.fresh⟩
    obtain ⟨hslot, hcmd⟩ := h.cmd hne
    refine ⟨⟨hslot.opened, hslot.epoll, hslot.func, hslot.rbuf⟩, ?_⟩
    refine Finset.mem_erase.mpr ⟨fun heq => hmem ?_, hcmd⟩
    rw [← heq]
    exact hslot.epoll

theorem SlotInv.step {i : Input} (h : SlotInv listenFd d) (hlegal : Legal listenFd d i)
    (hrestores : Restores d i) (hrun : d.step i = some d') : SlotInv listenFd d' := by
  cases i with
  | event fd mask out => exact h.event hlegal hrestores hrun
  | hangUp fd mask out => exact h.hangUp hlegal hrestores hrun

/-! ## The next two connections -/

structure SameSlots (d d' : Daemon) : Prop where
  ioFd0 : d'.ioFd0 = d.ioFd0
  ioFd1 : d'.ioFd1 = d.ioFd1
  fdState : d'.loop.fdState = d.loop.fdState

theorem SameSlots.event {mask : UInt32}
    (hfunc : (d.loop.fdState fd).func ≠ some .fdEvent) (hmask : mask &&& epollErr = 0)
    (hrun : d.event fd mask out = some d') : SameSlots d d' := by
  rw [Daemon.event_eq] at hrun
  split at hrun
  next heq => exact absurd heq hfunc
  next =>
    rcases ioFd0Event_eq_some hrun with
      ⟨herr, -⟩ | ⟨-, -, rbuf, fate, rbuf', world, -, -, rfl⟩ | ⟨-, rfl⟩
    · exact absurd hmask herr
    · cases fate <;> exact ⟨rfl, rfl, rfl⟩
    · exact ⟨rfl, rfl, rfl⟩
  next =>
    cases hrun
    exact ⟨rfl, rfl, rfl⟩
  next => cases hrun

theorem SameSlots.step {i : Input} (honly : ∀ fd, (d.loop.fdState fd).func = some .fdEvent → fd = listenFd)
    (hbetween : Between listenFd i) (hrun : d.step i = some d') : SameSlots d d' := by
  cases i with
  | event fd mask out =>
    exact SameSlots.event (fun hfunc => hbetween.1 (honly fd hfunc)) hbetween.2 hrun
  | hangUp fd mask out =>
    unfold Daemon.step at hrun
    dsimp only at hrun
    split at hrun
    · obtain ⟨h0, h1, hstate⟩ := SameSlots.event (d := { d with connected := d.connected.erase fd })
        (fun hfunc => hbetween.1 (honly fd hfunc)) hbetween.2 hrun
      exact ⟨h0, h1, hstate⟩
    · cases hrun
      exact ⟨rfl, rfl, rfl⟩

theorem SameSlots.run {is : List Input}
    (honly : ∀ fd, (d.loop.fdState fd).func = some .fdEvent → fd = listenFd)
    (hbetween : ∀ i ∈ is, Between listenFd i) (hrun : Transition.run Daemon.step d is = some d') :
    SameSlots d d' := by
  induction is generalizing d with
  | nil =>
    cases hrun
    exact ⟨rfl, rfl, rfl⟩
  | cons i is ih =>
    rw [run_cons, Option.bind_eq_some_iff] at hrun
    obtain ⟨d₁, hstep, hrun⟩ := hrun
    obtain ⟨h0, h1, hstate⟩ := SameSlots.step honly (hbetween i List.mem_cons_self) hstep
    have honly' : ∀ fd, (d₁.loop.fdState fd).func = some .fdEvent → fd = listenFd := by
      rw [hstate]
      exact honly
    obtain ⟨h0', h1', hstate'⟩ :=
      ih honly' (fun j hj => hbetween j (List.mem_cons_of_mem i hj)) hrun
    exact ⟨h0'.trans h0, h1'.trans h1, hstate'.trans hstate⟩

theorem Accepts.step {i : Input} (h : Accepts listenFd fd d i)
    (hlisten : (d.loop.fdState listenFd).func = some .fdEvent) :
    ∃ out, d.step i = fdEventIn out d ∧ out.accept = some fd ∧ out.malloc.obtained.isSome ∧ out.ctl = true := by
  obtain ⟨-, mask, out, rfl, herr, hin, haccept, -, hmalloc, hctl⟩ := h
  refine ⟨out, ?_, haccept, hmalloc, hctl⟩
  show d.event listenFd mask out = _
  rw [Daemon.event_listen hlisten, fdEvent_in herr hin]

theorem Accepts.cmdSocket {i : Input} (haccepts : Accepts listenFd fd d i) (h : SlotInv listenFd d)
    (h0 : d.ioFd0 = 0) (hstep : d.step i = some d') :
    d'.ioFd0 = fd ∧ d'.ioFd1 = d.ioFd1 ∧
      ∀ fd', (d'.loop.fdState fd').func = some .fdEvent ↔ fd' = listenFd := by
  obtain ⟨hpos, hnew, hlisten, hlt⟩ := haccepts.fresh
  obtain ⟨out, hout, haccept, hmalloc, hctl⟩ := haccepts.step h.listening
  obtain ⟨d₁, n, hsetup, hio0, hio1, hloop, -⟩ :=
    setupCmdSocket_success (d := d.accepted fd) hmalloc hctl hlt (h.fresh fd hnew hlisten)
      (h.not_mem_epoll hnew hlisten)
  rw [hout, fdEventIn_cmd haccept h0, hsetup] at hstep
  cases hstep
  refine ⟨hio0, hio1, fun fd' => ?_⟩
  show (d₁.loop.fdState fd').func = some .fdEvent ↔ fd' = listenFd
  by_cases heq : fd' = fd
  · subst heq
    simp [hloop, Loop.setEntry, hlisten]
  · have hother : d₁.loop.fdState fd' = d.loop.fdState fd' := by
      rw [hloop]
      exact if_neg heq
    rw [hother]
    constructor
    · intro hfunc
      exact h.only fd' hfunc
    · rintro rfl
      exact h.listening

theorem SlotInv.nextTwo (h : SlotInv listenFd d) (hgone : d.connected = ∅) : NextTwo listenFd d := by
  obtain ⟨hempty0, hempty1⟩ := h.empty hgone
  intro fd₁ fd₂ i₁ i₂ is d₁ d₂ d₃ haccepts hstep hbetween hrun haccepts' hstep'
  obtain ⟨hio0, hio1, hfunc⟩ := haccepts.cmdSocket h hempty0 hstep
  -- it still is the command socket when the second connection is made
  obtain ⟨h0, h1, hstate⟩ := SameSlots.run (fun fd => (hfunc fd).mp) hbetween hrun
  have hlistening : (d₂.loop.fdState listenFd).func = some .fdEvent := by
    rw [hstate]
    exact (hfunc listenFd).mpr rfl
  have hpos := haccepts.fresh.1
  obtain ⟨out, hout, haccept, -⟩ := haccepts'.step hlistening
  rw [hout, fdEventIn_ntf haccept (by omega) (by omega)] at hstep'
  cases hstep'
  exact ⟨h0.trans hio0, rfl⟩

/-- **No stale slot.** In every run of the daemon in which each event keeps the slots in order, no
slot is stale in any state that is reached. -/
theorem noStaleSlot_of_restores (hlisten : listenFd < maxNfds) {is : List Input}
    (hlegal : Along Daemon.step (Legal listenFd) (Daemon.start listenFd) is)
    (hrestores : Along Daemon.step Restores (Daemon.start listenFd) is)
    (hrun : run Daemon.step (Daemon.start listenFd) is = some d) : NoStaleSlot listenFd d := by
  have hinv : SlotInv listenFd d := by
    have hboth := (along_and hlegal hrestores)
    exact run_invariant (fun _ _ _ h hi hstep => h.step hi.1 hi.2 hstep) (SlotInv.start hlisten) hboth hrun
  exact ⟨fun hne => (hinv.cmd hne).1, hinv.ntf, hinv.nextTwo⟩

def Outside.obliging (accept : Option Nat) (read : ReadResult) : Outside where
  accept := accept
  malloc := .block (fun _ => 0) false
  ctl := true
  read := read
  handlePdu := handlePduResult .obliging 0

end steps

def connection (fd : Nat) : Input := .event 3 epollIn (@Outside.obliging lp64 (some fd) .error)

/-- The command socket 5 is set up, and a `read` from it fails. -/
def failedRead : List Input := [connection 5, .event 5 epollIn (@Outside.obliging lp64 none .error)]

/-- The client with the sockets 5 and 6 closes both. -/
def bothHangUp : List Input :=
  [connection 5, connection 6, .hangUp 5 (epollIn ||| epollHup) (@Outside.obliging lp64 none .error),
    .hangUp 6 epollHup (@Outside.obliging lp64 none .error)]

set_option maxRecDepth 10000 in
/-- After a failed `read` the command slot names a closed socket; and after both peers have hung up
the slots still name their sockets, so that no client can connect. -/
theorem slots_stale :
    (Along (@Daemon.step lp64) (Legal 3) (.start 3) failedRead ∧
      ∃ d, run (@Daemon.step lp64) (.start 3) failedRead = some d ∧ d.ioFd0 = 5 ∧ 5 ∉ d.opened ∧
        ¬ @NoStaleSlot lp64 3 d) ∧
    (Along (@Daemon.step lp64) (Legal 3) (.start 3) bothHangUp ∧
      ∃ d, run (@Daemon.step lp64) (.start 3) bothHangUp = some d ∧ d.connected = ∅ ∧ d.ioFd1 = 6 ∧
        ¬ @NoStaleSlot lp64 3 d) := by
  refine ⟨⟨by decide, _, rfl, rfl, by decide, ?_⟩, ⟨by decide, _, rfl, rfl, rfl, ?_⟩⟩
  · intro h
    obtain ⟨hcmd, -, -⟩ := h
    have hopened := (hcmd (by decide)).opened
    revert hopened
    decide
  · intro h
    obtain ⟨-, hntf, -⟩ := h
    have hpeer := hntf (by decide)
    revert hpeer
    decide

/-- A client closes its command socket with unread data in it, and connects again. -/
def reconnect : List Input :=
  [connection 5, connection 6, .hangUp 5 (epollErr ||| epollHup) (@Outside.obliging lp64 none .error),
    connection 7]

theorem noStaleSlot_of_restores_reconnect :
    ∃ d, run (@Daemon.step lp64) (.start 3) reconnect = some d ∧ d.ioFd0 = 7 ∧ d.ioFd1 = 6 ∧
      @NoStaleSlot lp64 3 d := by
  refine ⟨_, rfl, rfl, rfl, @noStaleSlot_of_restores 3 _ lp64 (by decide) reconnect (by decide) ?_ rfl⟩
  have hconnection : ∀ {d : Daemon} {fd : Nat}, (d.loop.fdState 3).func = some .fdEvent →
      @Restores lp64 d (connection fd) := fun hfunc _ _ =>
    ⟨fun _ _ _ _ _ _ => rfl, fun hio => by cases hfunc.symm.trans hio⟩
  refine ⟨hconnection rfl, fun d₁ h₁ => ?_⟩
  cases h₁
  refine ⟨hconnection rfl, fun d₂ h₂ => ?_⟩
  cases h₂
  refine ⟨⟨by decide, fun _ => by decide⟩, fun d₃ h₃ => ?_⟩
  cases h₃
  exact ⟨hconnection rfl, fun _ _ => trivial⟩

end Bluetoothd

import Bluetoothd.Server.Runs

/-!
# The order of a batch

`epoll_wait` reports the events of a batch in no particular order, and the daemon handles them in the
order of the report. `batch_perm` says that this order does not matter, unless the command socket
reports an error: that frees its place, and a client who connects after it in the same batch gets the
place, while one who connects before it does not.
-/

namespace Bluetoothd

open Platform Transition

/-! ## What a batch relies on -/

/-- The descriptor of the command socket while it is registered. -/
def Daemon.cmdFd (d : Daemon) : Nat := if d.ioFd0 ∈ d.loop.epoll then d.ioFd0 else 0

/-- The functions registered for the descriptors of a batch; `cmdFd` is the command socket
that was registered when the batch was reported, or 0. -/
structure BatchInv (pipeFd listenFd cmdFd : Nat) (d : Daemon) : Prop where
  pipe : (d.loop.fdState pipeFd).func = some .execTask
  listening : (d.loop.fdState listenFd).func = some .fdEvent
  slot : cmdFd ≠ 0 → d.ioFd0 = cmdFd
  cmd : cmdFd ≠ 0 → (d.loop.fdState cmdFd).func = some .ioFd0Event ∧
    ∃ n, (d.loop.fdState cmdFd).data = some n

/-- The event is on one of the descriptors, and not an error of the command socket. -/
structure InBatch (pipeFd listenFd cmdFd : Nat) (i : IoEvent) : Prop where
  fd : i.fd = pipeFd ∨ i.fd = listenFd ∨ i.fd = cmdFd ∧ cmdFd ≠ 0 ∧ i.mask &&& epollErr = 0
  accept : ∀ fd ∈ i.accept, fd ≠ pipeFd ∧ fd ≠ listenFd ∧ fd ≠ cmdFd

def listenEffect (i : IoEvent) (full : Bool) (d : Daemon) : Daemon :=
  if i.mask &&& epollErr ≠ 0 then { d with loop := removeFdFromEpollLoop true i.fd d.loop }
  else if i.mask &&& epollIn ≠ 0 then
    match i.accept with
    | none => d
    | some fd => if full then (d.accepted fd).close fd else (setupNtfSocket fd (d.accepted fd)).2
  else d

def readEffect (fd n : Nat) (r : Fate × RBuf × World Handler) (d : Daemon) : Daemon :=
  if r.1 = .closed then (d.stored n r.2.1 r.2.2).close fd else d.stored n r.2.1 r.2.2

section effects

variable {d : Daemon} {i : IoEvent} {fd n : Nat} {full : Bool} {r : Fate × RBuf × World Handler}

theorem listenEffect_frame (i : IoEvent) (full : Bool) (d : Daemon) :
    (listenEffect i full d).loop.fdState = d.loop.fdState ∧
      (listenEffect i full d).rbufs = d.rbufs ∧ (listenEffect i full d).world = d.world := by
  unfold listenEffect
  split
  · exact ⟨rfl, rfl, rfl⟩
  split
  · cases i.accept with
    | none => exact ⟨rfl, rfl, rfl⟩
    | some fd => cases full <;> exact ⟨rfl, rfl, rfl⟩
  · exact ⟨rfl, rfl, rfl⟩

theorem readEffect_frame (fd n : Nat) (r : Fate × RBuf × World Handler) (d : Daemon) :
    (readEffect fd n r d).loop.fdState = d.loop.fdState ∧ (readEffect fd n r d).ioFd0 = d.ioFd0 ∧
      (readEffect fd n r d).ioFd1 = d.ioFd1 := by
  unfold readEffect
  split <;> exact ⟨rfl, rfl, rfl⟩

theorem remove_eq_erase (fd : Nat) (l : Loop EventFunc Nat) :
    removeFdFromEpollLoop true fd l = { l with epoll := l.epoll.erase fd } := by
  rw [← epoll_remove]
  rfl

theorem close_accepted {a : Nat} (hne : a ≠ fd) (d : Daemon) :
    (d.close fd).accepted a = (d.accepted a).close fd := by
  unfold Daemon.accepted Daemon.close
  dsimp only
  rw [Finset.erase_insert_of_ne hne, Finset.erase_insert_of_ne hne]

theorem close_close (a fd : Nat) (d : Daemon) : (d.close fd).close a = (d.close a).close fd := by
  unfold Daemon.close
  dsimp only
  rw [Finset.erase_right_comm (s := d.opened), Finset.erase_right_comm (s := d.connected),
    Finset.erase_right_comm (s := d.loop.epoll)]

theorem listenEffect_close (hne : ∀ a ∈ i.accept, a ≠ fd) :
    listenEffect i full (d.close fd) = (listenEffect i full d).close fd := by
  unfold listenEffect
  split
  · unfold Daemon.close
    dsimp only
    rw [remove_eq_erase, remove_eq_erase, Finset.erase_right_comm]
  split
  · rcases haccept : i.accept with _ | a
    · rfl
    cases full with
    | false =>
      show (setupNtfSocket a ((d.close fd).accepted a)).2 = _
      rw [close_accepted (hne a haccept)]
      rfl
    | true =>
      show ((d.close fd).accepted a).close a = ((d.accepted a).close a).close fd
      rw [close_accepted (hne a haccept), close_close]
  · rfl

theorem listenEffect_stored (rbuf : RBuf) (w : World Handler) :
    listenEffect i full (d.stored n rbuf w) = (listenEffect i full d).stored n rbuf w := by
  unfold listenEffect
  split
  · rfl
  split
  · cases i.accept with
    | none => rfl
    | some a => cases full <;> rfl
  · rfl

theorem listenEffect_readEffect (hne : ∀ a ∈ i.accept, a ≠ fd) :
    listenEffect i full (readEffect fd n r d) = readEffect fd n r (listenEffect i full d) := by
  unfold readEffect
  split
  · rw [listenEffect_close hne, listenEffect_stored]
  · rw [listenEffect_stored]

end effects

/-! ## Steps -/

section steps

variable [Platform] {d d' : Daemon} {i j : IoEvent} {pipeFd listenFd cmdFd n : Nat}

theorem BatchInv.io_pipe (h : BatchInv pipeFd listenFd cmdFd d) (hfd : i.fd = pipeFd) :
    d.io i = some d := by
  have hfunc : (d.loop.fdState i.epoll.fd).func = some .execTask := by
    show (d.loop.fdState i.fd).func = _
    rw [hfd, h.pipe]
  unfold Daemon.io Daemon.dispatch
  rw [Daemon.event_eq, hfunc]

theorem io_listen (hfunc : (d.loop.fdState i.fd).func = some .fdEvent) (h0 : d.ioFd0 ≠ 0) :
    d.io i = some (listenEffect i (decide (d.ioFd1 ≠ 0)) d) := by
  have hio : d.io i = fdEvent i.fd i.mask i.epoll.out d := Daemon.event_listen hfunc _ _
  rw [hio]
  unfold listenEffect
  split
  case isTrue herr => exact fdEvent_err herr
  case isFalse herr =>
    split
    case isTrue hin =>
      rw [fdEvent_in (not_not.mp herr) hin]
      rcases haccept : i.accept with _ | fd
      · exact fdEventIn_none haccept
      · have haccept' : i.epoll.out.accept = some fd := haccept
        by_cases h1 : d.ioFd1 = 0
        · rw [fdEventIn_ntf haccept' h0 h1]
          simp [h1]
        · rw [fdEventIn_tooMany haccept' h0 h1]
          simp [h1]
    case isFalse hin => exact fdEvent_idle (not_not.mp herr) (not_not.mp hin)

theorem OnCmdSocket.io_read (h : OnCmdSocket d i.epoll n) (herr : i.mask &&& epollErr = 0) :
    d.io i = if i.mask &&& epollIn ≠ 0 then
        (d.rbufs n).bind fun rbuf =>
          (ioFd0EventIn (handlePduResult i.env i.calls) rbuf i.read d.world).map fun r =>
            readEffect i.fd n r d
      else some d := by
  have hio : d.io i = ioFd0Event i.fd i.mask n i.epoll.out d := h.dispatch
  rw [hio]
  split
  case isTrue hin => exact ioFd0Event_in n herr hin
  case isFalse hin => exact ioFd0Event_idle n herr (not_not.mp hin)

/-- The listening socket and the command socket may be handled in either order. -/
theorem BatchInv.commute (h : BatchInv pipeFd listenFd cmdFd d) (hi : InBatch pipeFd listenFd cmdFd i)
    (hlisten : i.fd = listenFd) (hcmd : j.fd = cmdFd) (hne : cmdFd ≠ 0)
    (herr : j.mask &&& epollErr = 0) :
    ((d.io i).bind fun t => t.io j) = (d.io j).bind fun t => t.io i := by
  obtain ⟨hfunc, n, hdata⟩ := h.cmd hne
  have hslot := h.slot hne
  have h0 : d.ioFd0 ≠ 0 := hslot ▸ hne
  have hsocket : ∀ t : Daemon, t.loop.fdState = d.loop.fdState → OnCmdSocket t j.epoll n := by
    intro t ht
    refine ⟨?_, ?_⟩
    · show (t.loop.fdState j.fd).func = _
      rw [ht, hcmd, hfunc]
    · show (t.loop.fdState j.fd).data = _
      rw [ht, hcmd, hdata]
  have hlistens : ∀ t : Daemon, t.loop.fdState = d.loop.fdState → t.ioFd0 = d.ioFd0 →
      t.ioFd1 = d.ioFd1 → t.io i = some (listenEffect i (decide (d.ioFd1 ≠ 0)) t) := by
    intro t ht ht0 ht1
    rw [← ht1]
    refine io_listen ?_ (ht0 ▸ h0)
    rw [ht]
    exact hlisten ▸ h.listening
  have haccept : ∀ a ∈ i.accept, a ≠ j.fd := fun a ha => hcmd ▸ (hi.accept a ha).2.2
  obtain ⟨hstate, hrbufs, hworld⟩ := listenEffect_frame i (decide (d.ioFd1 ≠ 0)) d
  rw [hlistens d rfl rfl rfl, Option.bind_some, (hsocket _ hstate).io_read herr,
    (hsocket d rfl).io_read herr, hrbufs, hworld]
  split
  · rcases d.rbufs n with _ | rbuf
    · rfl
    rw [Option.bind_some, Option.bind_some]
    cases ioFd0EventIn (handlePduResult j.env j.calls) rbuf j.read d.world with
    | none => rfl
    | some r =>
      obtain ⟨hstate', h0', h1'⟩ := readEffect_frame j.fd n r d
      rw [Option.map_some, Option.map_some, Option.bind_some, hlistens _ hstate' h0' h1',
        listenEffect_readEffect haccept]
  · rw [Option.bind_some, hlistens d rfl rfl rfl]

omit [Platform] in
theorem BatchInv.of_table (h : BatchInv pipeFd listenFd cmdFd d)
    (hfunc : ∀ fd, (d'.loop.fdState fd).func = (d.loop.fdState fd).func)
    (hdata : ∀ fd, (d'.loop.fdState fd).data = (d.loop.fdState fd).data) (h0 : d'.ioFd0 = d.ioFd0) :
    BatchInv pipeFd listenFd cmdFd d' where
  pipe := (hfunc pipeFd).trans h.pipe
  listening := (hfunc listenFd).trans h.listening
  slot := fun hne => h0.trans (h.slot hne)
  cmd := by
    intro hne
    rw [hfunc, hdata]
    exact h.cmd hne

theorem BatchInv.step (h : BatchInv pipeFd listenFd cmdFd d) (hi : InBatch pipeFd listenFd cmdFd i)
    (hio : d.io i = some d') : BatchInv pipeFd listenFd cmdFd d' := by
  cases Daemon.io_effect hio with
  | idle hidle => exact h
  | listenErr hfunc => exact h.of_table (fun _ => rfl) (fun _ => rfl) rfl
  | turnedAway hconnects htakes haway => exact h.of_table haway.func haway.data haway.ioFd0
  | cmdSocket hconnects htakes h0 hrbuf =>
    rename_i fd rbuf
    -- the slot was free
    have hfree : cmdFd = 0 := by
      by_contra hne
      exact hne ((h.slot hne).symm.trans h0)
    obtain ⟨hpipe, hlisten, -⟩ := hi.accept fd hconnects.accept
    refine ⟨?_, ?_, absurd hfree, absurd hfree⟩
    · rw [Daemon.withCmdSocket_fdState, if_neg hpipe.symm, h.pipe]
    · rw [Daemon.withCmdSocket_fdState, if_neg hlisten.symm, h.listening]
  | ntfSocket hconnects htakes h0 h1 => exact h.of_table (fun _ => rfl) (fun _ => rfl) rfl
  | cmdErr hsocket herr =>
    have hfunc : (d.loop.fdState i.fd).func = some .ioFd0Event := hsocket.func
    rcases hi.fd with hfd | hfd | ⟨-, -, hmask⟩
    · rw [hfd, h.pipe] at hfunc
      cases hfunc
    · rw [hfd, h.listening] at hfunc
      cases hfunc
    · exact absurd hmask herr
  | cmdRead hsocket herr hin hrbuf hread =>
    split <;> exact h.of_table (fun _ => rfl) (fun _ => rfl) rfl

theorem BatchInv.io_comm (h : BatchInv pipeFd listenFd cmdFd d) (hi : InBatch pipeFd listenFd cmdFd i)
    (hj : InBatch pipeFd listenFd cmdFd j) (hne : i.fd ≠ j.fd) :
    ((d.io i).bind fun t => t.io j) = (d.io j).bind fun t => t.io i := by
  have hpipe : ∀ k l, InBatch pipeFd listenFd cmdFd l → k.fd = pipeFd →
      ((d.io k).bind fun t => t.io l) = (d.io l).bind fun t => t.io k := by
    intro k l hl hk
    rw [h.io_pipe hk, Option.bind_some]
    rcases hio : d.io l with _ | d'
    · rfl
    · exact ((h.step hl hio).io_pipe hk).symm
  rcases hi.fd with hfd | hfd | ⟨hfd, hcmd, herr⟩
  · exact hpipe i j hj hfd
  · rcases hj.fd with hfd' | hfd' | ⟨hfd', hcmd, herr⟩
    · exact (hpipe j i hi hfd').symm
    · exact absurd (hfd.trans hfd'.symm) hne
    · exact h.commute hi hfd hfd' hcmd herr
  · rcases hj.fd with hfd' | hfd' | ⟨hfd', -⟩
    · exact (hpipe j i hi hfd').symm
    · exact (h.commute hj hfd' hfd hcmd herr).symm
    · exact absurd (hfd.trans hfd'.symm) hne

theorem ServerInv.batchInv (h : ServerInv pipeFd listenFd d) :
    BatchInv pipeFd listenFd d.cmdFd d ∧ (d.cmdFd ≠ 0 → d.cmdFd ∈ d.opened) := by
  have hmembers := h.control.members
  by_cases hmem : d.ioFd0 ∈ d.loop.epoll
  · have hfd : d.cmdFd = d.ioFd0 := if_pos hmem
    have hslot : d.ioFd0 ≠ 0 → CmdSlot d d.ioFd0 := by
      intro h0
      rcases hmembers.epoll d.ioFd0 hmem with hpipe | hlisten | ⟨-, -, -, hslot⟩
      · exact absurd hpipe (h.slot h0).1
      · exact absurd hlisten (h.slot h0).2
      · exact hslot
    rw [hfd]
    refine ⟨⟨hmembers.pipe.1, hmembers.listening.1, fun _ => rfl, fun h0 => ⟨(hslot h0).func, ?_⟩⟩,
      fun h0 => (hslot h0).opened⟩
    obtain ⟨n, rbuf, hdata, -⟩ := (hslot h0).rbuf
    exact ⟨n, hdata⟩
  · have hfd : d.cmdFd = 0 := if_neg hmem
    rw [hfd]
    exact ⟨⟨hmembers.pipe.1, hmembers.listening.1, absurd rfl, absurd rfl⟩, absurd rfl⟩

theorem ServerInv.inBatch (h : ServerInv pipeFd listenFd d) (hlegal : LegalIo pipeFd listenFd d i)
    (herr : ¬ d.Errs i) : InBatch pipeFd listenFd d.cmdFd i := by
  obtain ⟨hmem, hfresh⟩ := hlegal
  constructor
  · rcases h.control.members.epoll i.fd hmem with hfd | hfd | ⟨hfd, hne, -, hslot⟩
    · exact .inl hfd
    · exact .inr (.inl hfd)
    · have hcmd : d.cmdFd = i.fd := by
        have hfd' : i.fd = d.ioFd0 := hfd
        rw [Daemon.cmdFd, ← hfd']
        exact if_pos hmem
      rw [hcmd]
      refine .inr (.inr ⟨rfl, hne, ?_⟩)
      by_contra hmask
      exact herr ⟨hslot.func, hmask⟩
  · intro fd haccept
    obtain ⟨hpos, hopened, hlisten, hpipe⟩ := hfresh fd haccept
    refine ⟨hpipe, hlisten, ?_⟩
    intro hcmd
    have hne : d.cmdFd ≠ 0 := by omega
    exact hopened (hcmd ▸ h.batchInv.2 hne)

/-- **The order of a batch does not matter.** In a state that a run reaches, events on different
descriptors that the kernel can report, none of them an error of the command socket, lead to the same
daemon in every order, or end it in every order. -/
theorem batch_perm {before is js : List IoEvent} (hpipe : pipeFd < maxNfds)
    (hlisten : listenFd < maxNfds) (hne : pipeFd ≠ listenFd)
    (hbefore : Along Daemon.io (LegalIo pipeFd listenFd) (.init pipeFd listenFd) before)
    (hrun : run Daemon.io (.init pipeFd listenFd) before = some d)
    (hlegal : ∀ i ∈ is, LegalIo pipeFd listenFd d i) (herr : ∀ i ∈ is, ¬ d.Errs i)
    (hfds : (is.map IoEvent.fd).Nodup) (hperm : is.Perm js) :
    run Daemon.io d is = run Daemon.io d js := by
  have hinv := ServerInv.of_run hpipe hlisten hne hbefore hrun
  refine run_perm (R := InBatch pipeFd listenFd d.cmdFd) (C := fun i j => i.fd ≠ j.fd)
    (I := BatchInv pipeFd listenFd d.cmdFd) (fun _ _ => Ne.symm)
    (fun _ _ _ h hi hio => h.step hi hio) (fun _ _ _ h hi hj hfds => h.io_comm hi hj hfds) hperm
    hinv.batchInv.1 (fun i hi => hinv.inBatch (hlegal i hi) (herr i hi)) ?_
  exact List.pairwise_map.mp hfds

end steps

/-- A client sends a command that is refused without memory for the answer while another one connects. -/
def refusedAndConnecting : List IoEvent :=
  [⟨5, epollIn, none, .failed, true, .data [0x09, 0x01, 0, 0],
      { Env.obliging with malloc := fun _ => .failed }, 0⟩,
    ⟨3, epollIn, some 6, .failed, true, .error, .obliging, 0⟩,
    ⟨4, epollIn, none, .failed, true, .error, .obliging, 0⟩]

set_option maxRecDepth 10000 in
theorem batch_perm_refusedAndConnecting :
    ∃ d, run (@Daemon.io lp64) (.init 4 3) (droppedClient.take 1) = some d ∧
      (run (@Daemon.io lp64) d refusedAndConnecting.reverse).map (Daemon.view 3)
        = some ⟨true, .lost, true, []⟩ := by
  obtain ⟨d, hrun, hlegal, herr, hview⟩ : ∃ d,
      run (@Daemon.io lp64) (.init 4 3) (droppedClient.take 1) = some d ∧
      (∀ i ∈ refusedAndConnecting, @LegalIo lp64 4 3 d i) ∧ (∀ i ∈ refusedAndConnecting, ¬ d.Errs i) ∧
      (run (@Daemon.io lp64) d refusedAndConnecting).map (Daemon.view 3) = some ⟨true, .lost, true, []⟩ :=
    ⟨_, rfl, by decide +kernel, by decide +kernel, by decide +kernel⟩
  have hsame := @batch_perm lp64 d 4 3 (droppedClient.take 1) refusedAndConnecting
    refusedAndConnecting.reverse (by decide) (by decide) (by decide) (by decide) hrun hlegal herr
    (by decide) (List.reverse_perm _).symm
  refine ⟨d, hrun, ?_⟩
  rw [← hsame]
  exact hview

def errorAndConnecting : List IoEvent :=
  [⟨5, epollErr, none, .failed, true, .error, .obliging, 0⟩,
    ⟨3, epollIn, some 6, .block (fun _ => 0) false, true, .error, .obliging, 0⟩]

set_option maxRecDepth 10000 in
/-- After an error of the command socket the order decides which place the new client gets. -/
example : (run (@Daemon.io lp64) (.init 4 3) (droppedClient.take 1 ++ errorAndConnecting)).map
        (Daemon.view 3) = some ⟨true, .serving [], false, []⟩ ∧
      (run (@Daemon.io lp64) (.init 4 3) (droppedClient.take 1 ++ errorAndConnecting.reverse)).map
        (Daemon.view 3) = some ⟨true, .vacant, true, []⟩ := by
  decide +kernel

end Bluetoothd

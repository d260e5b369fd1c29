import Bluetoothd.Daemon.Heap
import Bluetoothd.Server.Refinement
import Mathlib.Data.Finset.Card

/-!
# What runs of the daemon do

The daemon's runs are those of the server (`run_eq_server`), and `IoEffect` says what becomes of its
descriptors and buffers. Together they say what a maintainer wants to know of a daemon that has run
for a while: whether it still serves commands, which replies it has given, and what it has kept.
-/

namespace Bluetoothd

open Platform Buffer Transition

/-! ## What is held -/

/-- The sockets that the daemon uses: the command socket while it is registered, and the one for
notifications. -/
def Daemon.sockets (d : Daemon) : Nat :=
  (if d.ioFd0 ≠ 0 ∧ d.ioFd0 ∈ d.loop.epoll then 1 else 0) + if d.ioFd1 ≠ 0 then 1 else 0

def Daemon.Errs (d : Daemon) (i : IoEvent) : Prop :=
  (d.loop.fdState i.fd).func = some .ioFd0Event ∧ i.mask &&& epollErr ≠ 0

instance (d : Daemon) (i : IoEvent) : Decidable (d.Errs i) := inferInstanceAs (Decidable (_ ∧ _))

/-- A receive buffer is allocated exactly while the slot for commands is taken, and it is the one
registered for its descriptor. -/
def BufferOfSlot (d : Daemon) : Prop :=
  ∀ n, (d.rbufs n).isSome ↔ d.ioFd0 ≠ 0 ∧ (d.loop.fdState d.ioFd0).data = some n

section sockets

variable {d d' : Daemon}

theorem Daemon.sockets_serving (h0 : d.ioFd0 ≠ 0) (hmem : d.ioFd0 ∈ d.loop.epoll) :
    d.sockets = 1 + if d.ioFd1 ≠ 0 then 1 else 0 := by
  rw [Daemon.sockets, if_pos ⟨h0, hmem⟩]

theorem Daemon.sockets_idle (h : d.ioFd0 ≠ 0 → d.ioFd0 ∉ d.loop.epoll) :
    d.sockets = if d.ioFd1 ≠ 0 then 1 else 0 := by
  rw [Daemon.sockets, if_neg fun hx => h hx.1 hx.2, Nat.zero_add]

theorem Daemon.sockets_congr (h0 : d'.ioFd0 = d.ioFd0) (h1 : d'.ioFd1 = d.ioFd1)
    (hmem : d.ioFd0 ≠ 0 → (d.ioFd0 ∈ d'.loop.epoll ↔ d.ioFd0 ∈ d.loop.epoll)) :
    d'.sockets = d.sockets := by
  unfold Daemon.sockets
  rw [h0, h1]
  simp only [and_congr_right hmem]

end sockets

section runs

variable [Platform] {d d' : Daemon} {i : IoEvent} {before after events : List IoEvent}
  {fd n pipeFd listenFd : Nat}

theorem ServerInv.cmdSlot (h : ServerInv pipeFd listenFd d) (hmem : i.fd ∈ d.loop.epoll)
    (hsocket : OnCmdSocket d i.epoll n) :
    i.fd = d.ioFd0 ∧ d.ioFd0 ≠ 0 ∧ d.ioFd0 ∈ d.loop.epoll ∧ d.ioFd0 ∈ d.opened := by
  obtain ⟨heq, hne, -, hslot⟩ := h.control.members.cmd hmem hsocket.func
  exact ⟨heq, heq ▸ hne, heq ▸ hslot.epoll, heq ▸ hslot.opened⟩

theorem ServerInv.listenFd_ne (h : ServerInv pipeFd listenFd d) (hmem : i.fd ∈ d.loop.epoll)
    (hfunc : (d.loop.fdState i.fd).func = some .fdEvent) (h0 : d.ioFd0 ≠ 0) : d.ioFd0 ≠ i.fd := by
  intro heq
  rcases h.control.members.epoll i.fd hmem with hfd | hfd | ⟨-, -, -, hslot⟩
  · exact (h.slot h0).1 (heq.trans hfd)
  · exact (h.slot h0).2 (heq.trans hfd)
  · cases hslot.func.symm.trans hfunc

/-! ## Descriptors -/

/-- An event opens as many descriptors as it brings into use, and an error on the command socket
takes one out of use that stays open. -/
theorem ServerInv.balance (h : ServerInv pipeFd listenFd d) (hlegal : LegalIo pipeFd listenFd d i)
    (hio : d.io i = some d') :
    d'.opened.card + d.sockets = d.opened.card + d'.sockets + if d.Errs i then 1 else 0 := by
  have hnever : (d.loop.fdState i.fd).func = some .fdEvent → ¬ d.Errs i := by
    intro hfunc herrs
    cases hfunc.symm.trans herrs.1
  cases Daemon.io_effect hio with
  | idle hidle =>
    rw [if_neg fun herrs : d.Errs i => herrs.2 (hidle herrs.1)]
    omega
  | listenErr hfunc =>
    have hsockets : Daemon.sockets { d with loop := removeFdFromEpollLoop true i.fd d.loop }
        = d.sockets := by
      refine Daemon.sockets_congr rfl rfl fun h0 => ?_
      rw [epoll_remove, Finset.mem_erase]
      exact and_iff_right (h.listenFd_ne hlegal.1 hfunc h0)
    rw [if_neg (hnever hfunc), hsockets]
    rfl
  | turnedAway hconnects htakes haway =>
    obtain ⟨-, hmem, -, -⟩ := h.fresh hlegal hconnects.accept
    obtain ⟨hclosed, -⟩ := hlegal.2.new _ hconnects.accept
    have hsockets : d'.sockets = d.sockets := by
      refine Daemon.sockets_congr haway.ioFd0 haway.ioFd1 fun _ => ?_
      rw [haway.epoll, Finset.erase_eq_of_notMem hmem]
    rw [if_neg (hnever hconnects.func), haway.opened, Finset.erase_insert hclosed, hsockets]
    omega
  | @cmdSocket fd rbuf hconnects htakes h0 hrbuf =>
    obtain ⟨hpos, -⟩ := h.fresh hlegal hconnects.accept
    obtain ⟨hclosed, -⟩ := hlegal.2.new _ hconnects.accept
    have hcard : (d.withCmdSocket fd rbuf).opened.card = d.opened.card + 1 :=
      Finset.card_insert_of_notMem hclosed
    have hbefore := Daemon.sockets_idle fun hne => absurd h0 hne
    have hafter : (d.withCmdSocket fd rbuf).sockets = 1 + if d.ioFd1 ≠ 0 then 1 else 0 :=
      Daemon.sockets_serving hpos.ne' (Finset.mem_insert_self _ _)
    rw [if_neg (hnever hconnects.func), hcard, hbefore, hafter]
    omega
  | @ntfSocket fd hconnects htakes h0 h1 =>
    obtain ⟨hpos, -⟩ := h.fresh hlegal hconnects.accept
    obtain ⟨hclosed, -⟩ := hlegal.2.new _ hconnects.accept
    have hcard : (setupNtfSocket fd (d.accepted fd)).2.opened.card = d.opened.card + 1 :=
      Finset.card_insert_of_notMem hclosed
    have hafter : (setupNtfSocket fd (d.accepted fd)).2.sockets = d.sockets + 1 := by
      simp [Daemon.sockets, setupNtfSocket, Daemon.accepted, h1, hpos.ne']
    rw [if_neg (hnever hconnects.func), hcard, hafter]
    omega
  | cmdErr hsocket herr =>
    obtain ⟨-, h0, hmem, -⟩ := h.cmdSlot hlegal.1 hsocket
    rw [if_pos ⟨hsocket.func, herr⟩, Daemon.sockets_serving h0 hmem,
      Daemon.sockets_idle fun hne => absurd rfl hne]
    show d.opened.card + (1 + if d.ioFd1 ≠ 0 then 1 else 0)
      = d.opened.card + (if d.ioFd1 ≠ 0 then 1 else 0) + 1
    omega
  | @cmdRead n rbuf r hsocket herr hin hrbuf hread =>
    obtain ⟨heq, h0, hmem, hopened⟩ := h.cmdSlot hlegal.1 hsocket
    rw [if_neg fun herrs : d.Errs i => herrs.2 herr]
    split
    · have hcard : ((d.stored n r.2.1 r.2.2).close i.fd).opened.card + 1 = d.opened.card := by
        rw [heq]
        exact Finset.card_erase_add_one hopened
      have hafter : ((d.stored n r.2.1 r.2.2).close i.fd).sockets = if d.ioFd1 ≠ 0 then 1 else 0 := by
        refine Daemon.sockets_idle fun _ => ?_
        rw [heq]
        exact Finset.notMem_erase _ _
      rw [Daemon.sockets_serving h0 hmem, hafter]
      omega
    · exact Nat.add_right_cancel_iff.mpr rfl

/-- **Descriptors are accounted for.** In every run that the kernel can cause, the open descriptors
are the sockets in use and one for each error that was reported on a command socket. -/
theorem opened_card (hpipe : pipeFd < maxNfds) (hlisten : listenFd < maxNfds)
    (hne : pipeFd ≠ listenFd)
    (hlegal : Along Daemon.io (LegalIo pipeFd listenFd) (.init pipeFd listenFd) events)
    (hrun : run Daemon.io (.init pipeFd listenFd) events = some d) :
    d.opened.card = d.sockets +
      Transition.total Daemon.io (fun d i => if d.Errs i then 1 else 0) (.init pipeFd listenFd) events := by
  have hbalance := run_balance (fun _ _ _ h hlegal hio => h.step hlegal hio)
    (fun _ _ _ h hlegal hio => h.balance hlegal hio) (ServerInv.init hpipe hlisten hne) hlegal hrun
  have hstart : (Daemon.init pipeFd listenFd).sockets = 0 := rfl
  have hnone : (Daemon.init pipeFd listenFd).opened.card = 0 := rfl
  omega

/-! ## Buffers -/

omit [Platform] in
theorem BufferOfSlot.empty (h : BufferOfSlot d) (h0 : d.ioFd0 = 0) (n : Nat) : d.rbufs n = none := by
  rw [← Option.not_isSome_iff_eq_none, h n]
  exact fun hx => hx.1 h0

theorem BufferOfSlot.io (hbuf : BufferOfSlot d) (h : ServerInv pipeFd listenFd d)
    (hlegal : LegalIo pipeFd listenFd d i) (hio : d.io i = some d') : BufferOfSlot d' := by
  cases Daemon.io_effect hio with
  | idle hidle => exact hbuf
  | listenErr hfunc => exact hbuf
  | turnedAway hconnects htakes haway =>
    intro n
    by_cases h0 : d.ioFd0 = 0
    · have hnone : ¬ (d'.rbufs n).isSome := by
        intro hlive
        have := haway.rbufs n hlive
        rw [hbuf.empty h0 n] at this
        cases this
      exact iff_of_false hnone fun hx => hx.1 (haway.ioFd0.trans h0)
    · rw [haway.kept h0, haway.ioFd0, haway.data]
      exact hbuf n
  | @cmdSocket fd rbuf hconnects htakes h0 hrbuf =>
    obtain ⟨hpos, -⟩ := h.fresh hlegal hconnects.accept
    intro n
    have hdata : ((d.withCmdSocket fd rbuf).loop.fdState fd).data = some d.creates := by
      rw [Daemon.withCmdSocket_fdState, if_pos rfl]
    apply (Bool.eq_iff_iff.mp (Daemon.isSome_update d.rbufs d.creates (some rbuf) n)).trans
    rw [hbuf.empty h0 n]
    show _ ↔ fd ≠ 0 ∧ ((d.withCmdSocket fd rbuf).loop.fdState fd).data = some n
    rw [hdata]
    by_cases heq : n = d.creates
    · simp [heq, hpos.ne']
    · simp [heq, Ne.symm heq]
  | ntfSocket hconnects htakes h0 h1 => exact hbuf
  | @cmdErr n hsocket herr =>
    obtain ⟨heq, h0, -⟩ := h.cmdSlot hlegal.1 hsocket
    intro n'
    refine iff_of_false ?_ fun hx => hx.1 rfl
    show ¬ (Function.update d.rbufs n none n').isSome
    rw [Bool.eq_iff_iff.mp (Daemon.isSome_update d.rbufs n none n')]
    split
    case isTrue => simp
    case isFalse hne =>
      rw [hbuf n', ← heq]
      intro hx
      exact hne (Option.some_inj.mp (hx.2.symm.trans hsocket.data))
  | @cmdRead n rbuf r hsocket herr hin hrbuf hread =>
    have hsame : ∀ n', ((d.stored n r.2.1 r.2.2).rbufs n').isSome ↔ (d.rbufs n').isSome :=
      fun n' => Bool.eq_iff_iff.mp (Daemon.isSome_setRbuf hrbuf r.2.1 n')
    split <;> exact fun n' => (hsame n').trans (hbuf n')

/-- The descriptor is in the slot for notifications: it stays open, and no event is ever reported
for it. -/
structure Notified (fd : Nat) (d : Daemon) : Prop where
  slot : d.ioFd1 = fd
  opened : fd ∈ d.opened
  unwatched : fd ∉ d.loop.epoll

theorem Notified.io (hntf : Notified fd d) (hne : fd ≠ 0)
    (hlegal : LegalIo pipeFd listenFd d i) (hio : d.io i = some d') : Notified fd d' := by
  obtain ⟨hslot, hopened, hunwatched⟩ := hntf
  have hown : fd ≠ i.fd := fun heq => hunwatched (heq ▸ hlegal.1)
  have hnew : ∀ {fd'}, Connects d i.epoll fd' → fd ≠ fd' := by
    rintro fd' hconnects rfl
    exact (hlegal.2.new _ hconnects.accept).1 hopened
  cases Daemon.io_effect hio with
  | idle hidle => exact ⟨hslot, hopened, hunwatched⟩
  | listenErr hfunc =>
    refine ⟨hslot, hopened, ?_⟩
    rw [epoll_remove]
    exact fun hmem => hunwatched (Finset.mem_of_mem_erase hmem)
  | turnedAway hconnects htakes haway =>
    refine ⟨haway.ioFd1.trans hslot, ?_, ?_⟩
    · rw [haway.opened]
      exact Finset.mem_erase.mpr ⟨hnew hconnects, Finset.mem_insert_of_mem hopened⟩
    · rw [haway.epoll]
      exact fun hmem => hunwatched (Finset.mem_of_mem_erase hmem)
  | cmdSocket hconnects htakes h0 hrbuf =>
    refine ⟨hslot, Finset.mem_insert_of_mem hopened, fun hmem => ?_⟩
    exact hunwatched (Finset.mem_of_mem_insert_of_ne hmem (hnew hconnects))
  | ntfSocket hconnects htakes h0 h1 => exact absurd (hslot.symm.trans h1) hne
  | cmdErr hsocket herr =>
    refine ⟨hslot, hopened, ?_⟩
    rw [epoll_remove]
    exact fun hmem => hunwatched (Finset.mem_of_mem_erase hmem)
  | cmdRead hsocket herr hin hrbuf hread =>
    split
    · exact ⟨hslot, Finset.mem_erase.mpr ⟨hown, hopened⟩,
        fun hmem => hunwatched (Finset.mem_of_mem_erase hmem)⟩
    · exact ⟨hslot, hopened, hunwatched⟩

theorem ServerInv.notified (h : ServerInv pipeFd listenFd d)
    (hntf : d.ioFd1 ≠ 0 → Notified d.ioFd1 d) (hlegal : LegalIo pipeFd listenFd d i)
    (hio : d.io i = some d') (hne : d'.ioFd1 ≠ 0) : Notified d'.ioFd1 d' := by
  by_cases h1 : d.ioFd1 = 0
  · cases Daemon.io_effect hio with
    | @ntfSocket fd hconnects htakes h0 _ =>
      obtain ⟨-, hmem, -⟩ := h.fresh hlegal hconnects.accept
      exact ⟨rfl, Finset.mem_insert_self fd _, hmem⟩
    | turnedAway hconnects htakes haway => exact absurd (haway.ioFd1.trans h1) hne
    | cmdRead hsocket herr hin hrbuf hread =>
      split at hne <;> exact absurd h1 hne
    | _ => exact absurd h1 hne
  · have hstays := (hntf h1).io h1 hlegal hio
    rw [hstays.slot]
    exact hstays

/-- **The second connection is for good.** Once a client has connected its notification socket,
every later run leaves that in its slot, open, and out of the epoll set: that the client has hung up
is never noticed, and no other client gets notifications. -/
theorem notified_of_run (hpipe : pipeFd < maxNfds) (hlisten : listenFd < maxNfds)
    (hne : pipeFd ≠ listenFd)
    (hbefore : Along Daemon.io (LegalIo pipeFd listenFd) (.init pipeFd listenFd) before)
    (hrun : run Daemon.io (.init pipeFd listenFd) before = some d) (h1 : d.ioFd1 ≠ 0)
    (hafter : Along Daemon.io (LegalIo pipeFd listenFd) d after)
    (hrun' : run Daemon.io d after = some d') : Notified d.ioFd1 d' := by
  have hreached : ServerInv pipeFd listenFd d ∧ (d.ioFd1 ≠ 0 → Notified d.ioFd1 d) :=
    run_invariant (I := fun d => ServerInv pipeFd listenFd d ∧ (d.ioFd1 ≠ 0 → Notified d.ioFd1 d))
      (fun _ _ _ h hlegal hio => ⟨h.1.step hlegal hio, h.1.notified h.2 hlegal hio⟩)
      ⟨ServerInv.init hpipe hlisten hne, fun h => absurd rfl h⟩ hbefore hrun
  exact run_invariant (fun _ _ _ h hlegal hio => h.io h1 hlegal hio) (hreached.2 h1) hafter hrun'

/-! ## Commands -/

theorem ServerInv.of_run (hpipe : pipeFd < maxNfds) (hlisten : listenFd < maxNfds)
    (hne : pipeFd ≠ listenFd)
    (hlegal : Along Daemon.io (LegalIo pipeFd listenFd) (.init pipeFd listenFd) events)
    (hrun : run Daemon.io (.init pipeFd listenFd) events = some d) : ServerInv pipeFd listenFd d :=
  (simulation_server pipeFd listenFd).invariant (ServerInv.init hpipe hlisten hne) hlegal hrun

def Daemon.serves (listenFd : Nat) (d : Daemon) (i : IoEvent) : Bool :=
  (d.view listenFd).serves (d.input i)

theorem ServerInv.server (h : ServerInv pipeFd listenFd d) (hlegal : LegalIo pipeFd listenFd d i)
    (hio : d.io i = some d') : (d.view listenFd).step (d.input i) = some (d'.view listenFd) := by
  rw [(simulation_server pipeFd listenFd).commutes d i h hlegal, hio]
  rfl

/-- **Only one command is ever answered.** In every run that the kernel can cause, the replies that
were handed over are one for each command that was served, and each of them is the reply to
`UNREGISTER_MODULE`; there is no reply to a command that failed. -/
theorem replies_of_run (hpipe : pipeFd < maxNfds) (hlisten : listenFd < maxNfds)
    (hne : pipeFd ≠ listenFd)
    (hlegal : Along Daemon.io (LegalIo pipeFd listenFd) (.init pipeFd listenFd) events)
    (hrun : run Daemon.io (.init pipeFd listenFd) events = some d) :
    repliesOf d.world.log = List.replicate
      (Transition.total Daemon.io (fun d i => if d.serves listenFd i then 1 else 0)
        (.init pipeFd listenFd) events) (serviceCore, 0x02) := by
  have hinit := ServerInv.init hpipe hlisten hne
  have hcount := run_balance (f := fun d => (d.view listenFd).replies.length) (g := fun _ => 0)
    (fun _ _ _ h hlegal hio => h.step hlegal hio)
    (fun _ _ _ h hlegal hio => Server.step_replies (h.server hlegal hio)) hinit hlegal hrun
  have hall : ServerInv pipeFd listenFd d ∧
      ∀ r ∈ repliesOf d.world.log, r = ((serviceCore, 0x02) : UInt8 × UInt8) := by
    refine run_invariant (I := fun t => ServerInv pipeFd listenFd t ∧
      ∀ r ∈ repliesOf t.world.log, r = ((serviceCore, 0x02) : UInt8 × UInt8)) ?_
      ⟨hinit, nofun⟩ hlegal hrun
    intro t j t' ht hlegal hio
    obtain ⟨hinv, hbefore⟩ := ht
    refine ⟨hinv.step hlegal hio, fun r hr => ?_⟩
    obtain ⟨-, -, hsame | hmore⟩ := Server.step_cases (hinv.server hlegal hio)
    · rw [show repliesOf t'.world.log = repliesOf t.world.log from hsame] at hr
      exact hbefore r hr
    · rw [show repliesOf t'.world.log = repliesOf t.world.log ++ [(serviceCore, 0x02)] from hmore,
        List.mem_append, List.mem_singleton] at hr
      exact hr.elim (hbefore r) id
  refine List.eq_replicate_iff.mpr ⟨?_, hall.2⟩
  have hnone : ((Daemon.init pipeFd listenFd).view listenFd).replies.length = 0 := rfl
  rw [Nat.add_zero, hnone, Nat.zero_add] at hcount
  exact hcount

/-- **The daemon keeps no block that it obtained**, in no state that a run reaches: the blocks that
commands obtained are those that were released or handed over with a reply, each of them once. -/
theorem settled_of_run (hrun : run Daemon.io (.init pipeFd listenFd) events = some d) :
    SettledLog 0 d.world.mallocs d.world.log := by
  have hstart : SettledLog 0 (Daemon.init pipeFd listenFd).world.mallocs
      (Daemon.init pipeFd listenFd).world.log := SettledLog.nil (le_refl 0)
  refine run_invariant (I := fun d => SettledLog 0 d.world.mallocs d.world.log) ?_ hstart
    (along_of_forall (fun _ _ => trivial) _ events) hrun
  intro d i d' h _ hio
  rcases (Daemon.io_effect hio).world_cases with hworld | hworld | hworld | ⟨-, cmd, status, hhandle⟩
  · rwa [hworld]
  · rwa [hworld]
  · rwa [hworld]
  · obtain ⟨evs, hlog, hsettled⟩ := settled_handlePduResult hhandle
    rw [hlog]
    exact h.append hsettled

/-- The daemon does not get to the end of the event. -/
def Daemon.Fatal (listenFd : Nat) (d : Daemon) (i : IoEvent) : Prop :=
  (d.view listenFd).Fatal (d.input i)

theorem listenInput_survives (s : Server) (d : Daemon) (i : IoEvent) :
    (s.step (d.listenInput i)).isSome ∧ ¬ s.Fatal (d.listenInput i) := by
  have hother : ∀ j, (s.step j).isSome ∧ (∀ bytes mem, j ≠ .data bytes mem) →
      (s.step j).isSome ∧ ¬ s.Fatal j := by
    rintro j ⟨hsome, hne⟩
    refine ⟨hsome, ?_⟩
    rintro ⟨bytes, mem, -, rfl, -⟩
    exact hne bytes mem rfl
  apply hother
  unfold Daemon.listenInput
  split
  · simp [Server.step]
  split
  · cases i.accept with
    | none => simp [Server.step]
    | some fd =>
      refine ⟨?_, by simp⟩
      simp only [Option.elim_some, Server.step]
      split <;> rfl
  · simp [Server.step]

theorem cmdInput_isSome_iff {s : Server} {pending : List UInt8} (hcmd : s.cmd = .serving pending)
    (d : Daemon) (i : IoEvent) : (s.step (d.cmdInput i)).isSome ↔ ¬ s.Fatal (d.cmdInput i) := by
  have hother : ∀ j, (s.step j).isSome ∧ (∀ bytes mem, j ≠ .data bytes mem) →
      ((s.step j).isSome ↔ ¬ s.Fatal j) := by
    rintro j ⟨hsome, hne⟩
    refine iff_of_true hsome ?_
    rintro ⟨bytes, mem, -, rfl, -⟩
    exact hne bytes mem rfl
  unfold Daemon.cmdInput
  split
  · apply hother
    simp [Server.step, hcmd]
  split
  · cases i.read with
    | error =>
      apply hother
      simp [Server.step, hcmd]
    | data bytes =>
      simp only [Server.step, hcmd, Server.receive_isSome_iff]
      refine not_congr ⟨fun h => ⟨bytes, _, pending, rfl, hcmd, h⟩, ?_⟩
      rintro ⟨bytes', mem, pending', hdata, hcmd', hfatal⟩
      cases hdata
      rw [hcmd] at hcmd'
      cases hcmd'
      exact hfatal
  · apply hother
    simp [Server.step]

theorem ServerInv.io_isSome_iff (h : ServerInv pipeFd listenFd d) (hlegal : LegalIo pipeFd listenFd d i) :
    (d.io i).isSome ↔ ¬ d.Fatal listenFd i := by
  have hview : ((d.view listenFd).step (d.input i)).isSome = (d.io i).isSome := by
    rw [(simulation_server pipeFd listenFd).commutes d i h hlegal, Option.isSome_map]
  rw [← hview]
  unfold Daemon.Fatal Daemon.input
  split
  case h_1 hfunc =>
    obtain ⟨hsome, hfatal⟩ := listenInput_survives (d.view listenFd) d i
    exact iff_of_true hsome hfatal
  case h_2 hfunc =>
    obtain ⟨heq, hne, n, rbuf, hopen, -⟩ := h.openSocket hlegal.1 hfunc
    rw [heq] at hne
    exact cmdInput_isSome_iff (Daemon.cmdConn_serving hne (heq ▸ hopen.epoll) (heq ▸ hopen.rbufOf)) d i
  case h_3 =>
    refine iff_of_true rfl ?_
    rintro ⟨bytes, mem, -, hdata, -⟩
    cases hdata

/-- **What a run does not get past.** A run that the kernel can cause goes on to its end unless one of
its events brings more bytes than the receive buffer has room for, where `read()` takes a count that
is too large, or completes a command that is not served while there is memory for an error reply. -/
theorem alive_iff (hpipe : pipeFd < maxNfds) (hlisten : listenFd < maxNfds)
    (hne : pipeFd ≠ listenFd)
    (hlegal : Along Daemon.io (LegalIo pipeFd listenFd) (.init pipeFd listenFd) events) :
    (run Daemon.io (.init pipeFd listenFd) events).isSome ↔
      Along Daemon.io (fun d i => ¬ d.Fatal listenFd i) (.init pipeFd listenFd) events := by
  rw [run_isSome_iff]
  exact along_iff (fun _ _ _ h hlegal _ hio => h.step hlegal hio)
    (fun _ _ h hlegal => h.io_isSome_iff hlegal) (ServerInv.init hpipe hlisten hne) hlegal

/-- How `io_fd0_event_in` leaves the socket, when it returns. -/
def Daemon.fate (d : Daemon) (n : Nat) (out : Outside) : Option Fate := do
  let rbuf ← d.rbufs n
  let (fate, _) ← ioFd0EventIn out.handlePdu rbuf out.read d.world
  return fate

theorem ServerInv.lost (h : ServerInv pipeFd listenFd d) (hlegal : LegalIo pipeFd listenFd d i)
    (hsocket : OnCmdSocket d i.epoll n) (herr : i.mask &&& epollErr = 0)
    (hin : i.mask &&& epollIn ≠ 0) (hfate : d.fate n i.epoll.out = some .closed)
    (hio : d.io i = some d') : d'.cmdConn = .lost := by
  obtain ⟨heq, h0, -, -⟩ := h.cmdSlot hlegal.1 hsocket
  obtain ⟨-, hne, m, rbuf, hopen, -⟩ := h.openSocket hlegal.1 hsocket.func
  obtain rfl : n = m := Option.some_inj.mp (hsocket.data.symm.trans hopen.data)
  rw [hopen.io_readable (not_not_intro herr) hin] at hio
  obtain ⟨r, hread, rfl⟩ := Option.map_eq_some_iff.mp hio
  have hclosed : r.1 = .closed := by
    unfold Daemon.fate at hfate
    rw [hopen.alloc, Option.bind_eq_bind, Option.bind_some,
      show ioFd0EventIn i.epoll.out.handlePdu rbuf i.epoll.out.read d.world = some r from hread] at hfate
    exact Option.some_inj.mp hfate
  rw [if_pos hclosed]
  refine Daemon.cmdConn_lost h0 ?_
  rw [heq]
  exact Finset.notMem_erase _ _

theorem ServerInv.not_isCmdSocket (h : ServerInv pipeFd listenFd d) (hlost : d.cmdConn = .lost)
    (fd : Nat) : ¬ d.IsCmdSocket fd := by
  intro hsocket
  obtain ⟨heq, -⟩ := h.control.members.cmd hsocket.1 hsocket.2
  exact (cmdConn_eq_lost_iff.mp hlost).2 (heq ▸ hsocket.1)

/-- **A command that is not served is the last one.** Once `io_fd0_event_in` has closed the command
socket, because of a read or a command that failed or a full buffer, no socket is a command socket
in any later state, and no reply is handed over any more. -/
theorem closed_for_good (hpipe : pipeFd < maxNfds) (hlisten : listenFd < maxNfds)
    (hne : pipeFd ≠ listenFd)
    (hbefore : Along Daemon.io (LegalIo pipeFd listenFd) (.init pipeFd listenFd) before)
    (hrun : run Daemon.io (.init pipeFd listenFd) before = some d)
    (hsocket : OnCmdSocket d i.epoll n) (herr : i.mask &&& epollErr = 0)
    (hin : i.mask &&& epollIn ≠ 0) (hfate : d.fate n i.epoll.out = some .closed)
    (hafter : Along Daemon.io (LegalIo pipeFd listenFd) d (i :: after))
    (hrun' : run Daemon.io d (i :: after) = some d') :
    (∀ fd, ¬ d'.IsCmdSocket fd) ∧ repliesOf d'.world.log = repliesOf d.world.log := by
  have hinv := ServerInv.of_run hpipe hlisten hne hbefore hrun
  obtain ⟨hlegal, hrest⟩ := hafter
  rw [run_cons, Option.bind_eq_some_iff] at hrun'
  obtain ⟨d₁, hio, hrun'⟩ := hrun'
  have hlost : d₁.cmdConn = .lost := hinv.lost hlegal hsocket herr hin hfate hio
  have hreplies : repliesOf d₁.world.log = repliesOf d.world.log :=
    Server.replies_of_lost (hinv.server hlegal hio) hlost
  have hlater : ServerInv pipeFd listenFd d' ∧ d'.cmdConn = .lost ∧
      repliesOf d'.world.log = repliesOf d.world.log := by
    refine run_invariant (I := fun t => ServerInv pipeFd listenFd t ∧ t.cmdConn = .lost ∧
      repliesOf t.world.log = repliesOf d.world.log) ?_ ⟨hinv.step hlegal hio, hlost, hreplies⟩
      (hrest d₁ hio) hrun'
    intro t j t' ht hlegal hio
    obtain ⟨hinv, hlost, hsame⟩ := ht
    obtain ⟨hlost', hsame'⟩ := Server.step_lost hlost (hinv.server hlegal hio)
    exact ⟨hinv.step hlegal hio, hlost', hsame'.trans hsame⟩
  exact ⟨hlater.1.not_isCmdSocket hlater.2.1, hlater.2.2⟩

end runs

/-! ## One day of the daemon -/

/-- A client connects both sockets; its command socket reports an error, and another client connects
and is turned away on its second socket. -/
def errorAndNext : List IoEvent :=
  [⟨3, epollIn, some 5, .block (fun _ => 0) false, true, .error, .obliging, 0⟩,
    ⟨3, epollIn, some 6, .failed, true, .error, .obliging, 0⟩,
    ⟨5, epollErr, none, .failed, true, .error, .obliging, 0⟩,
    ⟨3, epollIn, some 7, .block (fun _ => 0) false, true, .error, .obliging, 0⟩,
    ⟨3, epollIn, some 8, .failed, true, .error, .obliging, 0⟩]

set_option maxRecDepth 10000 in
theorem opened_card_errorAndNext :
    ∃ d, run (@Daemon.io lp64) (.init 4 3) errorAndNext = some d ∧ d.sockets = 2 ∧
      d.opened = {5, 6, 7} ∧ d.opened.card = d.sockets +
        Transition.total (@Daemon.io lp64) (fun d i => if d.Errs i then 1 else 0) (.init 4 3)
          errorAndNext := by
  refine ⟨_, rfl, by decide, by decide, ?_⟩
  exact @opened_card lp64 _ errorAndNext 4 3 (by decide) (by decide) (by decide) (by decide) rfl

set_option maxRecDepth 10000 in
theorem replies_of_run_droppedClient :
    ∃ d, run (@Daemon.io ilp32) (.init 4 3) droppedClient = some d ∧
      repliesOf d.world.log = [(serviceCore, 0x02)] ∧
      repliesOf d.world.log = List.replicate
        (Transition.total (@Daemon.io ilp32) (fun d i => if @Daemon.serves ilp32 3 d i then 1 else 0)
          (.init 4 3) droppedClient) (serviceCore, 0x02) := by
  refine ⟨_, rfl, by decide +kernel, ?_⟩
  exact @replies_of_run ilp32 _ droppedClient 4 3 (by decide) (by decide) (by decide) (by decide) rfl

set_option maxRecDepth 10000 in
theorem settled_of_run_droppedClient :
    ∃ d, run (@Daemon.io ilp32) (.init 4 3) droppedClient = some d ∧ mallocsOf d.world.log = [0] ∧
      freesOf d.world.log = [] ∧ SettledLog 0 d.world.mallocs d.world.log := by
  refine ⟨_, rfl, by decide +kernel, by decide +kernel, ?_⟩
  exact @settled_of_run ilp32 _ droppedClient 4 3 rfl

/-- The last client of `droppedClient`, with memory for the reply. -/
def crashingClient : List IoEvent :=
  [⟨3, epollIn, some 5, .block (fun _ => 0) false, true, .error, .obliging, 0⟩,
    ⟨5, epollIn, none, .failed, true, .data [0x09, 0x01, 0, 0], .obliging, 0⟩]

set_option maxRecDepth 10000 in
theorem alive_iff_crashingClient :
    run (@Daemon.io lp64) (.init 4 3) crashingClient = none ∧
      ¬ Along (@Daemon.io lp64) (fun d i => ¬ @Daemon.Fatal lp64 3 d i) (.init 4 3) crashingClient := by
  have hnone : run (@Daemon.io lp64) (.init 4 3) crashingClient = none := by
    rw [← Option.not_isSome_iff_eq_none]
    decide +kernel
  refine ⟨hnone, ?_⟩
  rw [← @alive_iff lp64 crashingClient 4 3 (by decide) (by decide) (by decide) (by decide), hnone]
  exact Bool.false_ne_true

set_option maxRecDepth 10000 in
theorem closed_for_good_droppedClient :
    ∃ d, run (@Daemon.io ilp32) (.init 4 3) droppedClient = some d ∧ (∀ fd, ¬ d.IsCmdSocket fd) ∧
      repliesOf d.world.log = [(serviceCore, 0x02)] := by
  refine ⟨_, rfl, ?_⟩
  have hclosed := @closed_for_good ilp32 _ _ ⟨5, epollIn, none, .failed, true, .data [0x09, 0x01, 0, 0],
      { Env.obliging with malloc := fun _ => .failed }, 0⟩ (droppedClient.take 5) (droppedClient.drop 6)
    0 4 3 (by decide) (by decide) (by decide) (by decide) rfl ⟨rfl, rfl⟩ (by decide) (by decide)
    (by decide +kernel) (by decide) rfl
  exact ⟨hclosed.1, hclosed.2.trans (by decide +kernel)⟩

set_option maxRecDepth 10000 in
theorem notified_of_run_errorAndNext :
    ∃ d, run (@Daemon.io lp64) (.init 4 3) errorAndNext = some d ∧ Notified 6 d := by
  refine ⟨_, rfl, ?_⟩
  exact @notified_of_run lp64 _ _ (errorAndNext.take 2) (errorAndNext.drop 2) 4 3 (by decide) (by decide)
    (by decide) (by decide) rfl (by decide) (by decide) rfl

end Bluetoothd

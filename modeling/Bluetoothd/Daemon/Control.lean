import Bluetoothd.Daemon.Bare
import Bluetoothd.Daemon.Epoll

/-!
# The control service stays usable

The `send_pdu` pointers are set when a client connects, and that of core-io is cleared when its
command socket fails; the handler table outlives the session. `controlUsable_of_run` says that
whatever clients do, a command that is dispatched finds the control service in place.
-/

namespace Bluetoothd

open Platform Transition

/-- What `core_handler` needs to serve a command and reply to it. -/
structure Serving (w : World Handler) : Prop where
  core : w.serviceHandler serviceCore = some .core
  coreIoSendPdu : w.coreIoSendPdu.isSome
  coreSendPdu : w.coreSendPdu.isSome

/-- No service but CORE has a handler, and no handle of the HAL is held. -/
structure NoModules (w : World Handler) : Prop where
  others : ∀ service, service ≠ serviceCore → w.serviceHandler service = none
  btDevice : w.btDevice = none
  btInterface : w.btInterface = none
  btsockInterface : w.btsockInterface = none

variable {w w' : World Handler} {pipeFd listenFd : Nat} {d d' : Daemon} {e : EpollEvent}
  {evs : List BufEvent}

theorem NoModules.bare (h : NoModules w) (hserving : Serving w) : Bare w :=
  ⟨hserving.core, h.others, h.btDevice, h.btInterface, h.btsockInterface⟩

theorem NoModules.congr (h : NoModules w) (hsame : SameGlobals w w') : NoModules w' := by
  obtain ⟨log, m, rfl⟩ := hsame
  exact ⟨h.others, h.btDevice, h.btInterface, h.btsockInterface⟩

theorem Serving.congr (h : Serving w) (hsame : SameGlobals w w') : Serving w' := by
  obtain ⟨log, m, rfl⟩ := hsame
  exact ⟨h.core, h.coreIoSendPdu, h.coreSendPdu⟩

theorem serving_connected (w : World Handler) : Serving w.connected :=
  ⟨rfl, rfl, rfl⟩

theorem NoModules.connected (h : NoModules w) : NoModules w.connected where
  others := by
    intro service hne
    show Function.update w.serviceHandler serviceCore (some .core) service = none
    rw [Function.update_of_ne hne]
    exact h.others service hne
  btDevice := h.btDevice
  btInterface := h.btInterface
  btsockInterface := h.btsockInterface

theorem NoModules.disconnected (h : NoModules w) : NoModules w.disconnected :=
  ⟨h.others, h.btDevice, h.btInterface, h.btsockInterface⟩

def Daemon.IsCmdSocket (d : Daemon) (fd : Nat) : Prop :=
  fd ∈ d.loop.epoll ∧ (d.loop.fdState fd).func = some .ioFd0Event

/-! ## The invariant -/

/-- While a command socket is in the epoll set, the control service is in place. -/
structure ControlInv (pipeFd listenFd : Nat) (d : Daemon) : Prop where
  members : Members pipeFd listenFd d
  noModules : NoModules d.world
  serving : ∀ fd, d.IsCmdSocket fd → Serving d.world

theorem ControlInv.init (hpipe : pipeFd < maxNfds) (hlisten : listenFd < maxNfds)
    (hne : pipeFd ≠ listenFd) : ControlInv pipeFd listenFd (Daemon.init pipeFd listenFd) where
  members := Members.init hpipe hlisten hne
  noModules := ⟨fun _ _ => rfl, rfl, rfl, rfl⟩
  serving := by
    intro fd hsocket
    obtain ⟨heq, hne0, -⟩ := (Members.init hpipe hlisten hne).cmd hsocket.1 hsocket.2
    exact absurd heq hne0

theorem ControlInv.mono (h : ControlInv pipeFd listenFd d) (hmembers : Members pipeFd listenFd d')
    (hworld : SameGlobals d.world d'.world) (hsub : ∀ fd, d'.IsCmdSocket fd → d.IsCmdSocket fd) :
    ControlInv pipeFd listenFd d' :=
  ⟨hmembers, h.noModules.congr hworld, fun fd hsocket => (h.serving fd (hsub fd hsocket)).congr hworld⟩

section control

variable [Platform]

/-- The event makes `io_fd0_event_in` hand `cmd` to `handle_pdu`. -/
def Dispatches (d : Daemon) (e : EpollEvent) (cmd : Pdu) : Prop :=
  d.IsCmdSocket e.fd ∧ e.mask &&& epollErr = 0 ∧ e.mask &&& epollIn ≠ 0 ∧
    ∃ n rbuf bytes rbuf', (d.loop.fdState e.fd).data = some n ∧ d.rbufs n = some rbuf ∧
      e.out.read = .data bytes ∧ rbuf.fill bytes = some rbuf' ∧ ∃ h : rbuf'.HasPdu, cmd = rbuf'.pdu h

structure ControlUsable (d : Daemon) : Prop where
  one : ∀ fd₁ fd₂, d.IsCmdSocket fd₁ → d.IsCmdSocket fd₂ → fd₁ = fd₂
  dispatched : ∀ e cmd, Dispatches d e cmd → Serving d.world
  slots : ∀ service, service ≠ serviceCore → service ≠ serviceBtCore → service ≠ serviceBtSock →
    d.world.serviceHandler service = none

/-- The event is of a descriptor in the epoll set, and a descriptor that it accepts is a new one. What
`read()` returns is not bounded by the count it was given. -/
def LegalEvent (pipeFd listenFd : Nat) (d : Daemon) (e : EpollEvent) : Prop :=
  e.fd ∈ d.loop.epoll ∧ FreshAccept pipeFd listenFd d e

instance (pipeFd listenFd : Nat) (d : Daemon) : DecidablePred (LegalEvent pipeFd listenFd d) :=
  fun _ => inferInstanceAs (Decidable (_ ∧ _))

def EpollEvent.Handled (e : EpollEvent) : Prop :=
  ∃ env calls, e.out.handlePdu = handlePduResult env calls

/-! ## Steps -/

/-- A readable event changes the world by `handle_pdu` alone. -/
theorem ioFd0EventIn_world {handle : Pdu → World Handler → Option (Int × World Handler)}
    {rbuf rbuf' : RBuf} {res : ReadResult} {fate : Fate}
    (h : ioFd0EventIn handle rbuf res w = some (fate, rbuf', w')) :
    w' = w ∨ ∃ cmd status, handle cmd w = some (status, w') := by
  cases res with
  | error =>
    cases h
    exact .inl rfl
  | data bytes =>
    simp only [ioFd0EventIn, Option.bind_eq_bind, Option.bind_eq_some_iff] at h
    obtain ⟨rbuf₁, -, h⟩ := h
    by_cases hpdu : rbuf₁.HasPdu
    · rw [dif_pos hpdu, Option.bind_eq_some_iff] at h
      obtain ⟨⟨status, w₁⟩, hhandle, h⟩ := h
      right
      dsimp only at h
      split at h <;> cases h <;> exact ⟨_, _, hhandle⟩
    · left
      rw [dif_neg hpdu] at h
      split at h <;> cases h <;> rfl

theorem ControlInv.effect (h : ControlInv pipeFd listenFd d) (hlegal : LegalEvent pipeFd listenFd d e)
    (hhandled : e.Handled) (heffect : Effect d e evs d') : ControlInv pipeFd listenFd d' := by
  obtain ⟨hmem, hfresh⟩ := hlegal
  have hmembers := h.members.effect hmem hfresh.new (fun fd h _ => (hfresh fd h.accept).1) heffect
  cases heffect with
  | ignored => exact h
  | listenErr hfunc =>
    refine h.mono hmembers (.refl _) fun fd hsocket => ⟨?_, hsocket.2⟩
    have hmem := hsocket.1
    rw [epoll_remove] at hmem
    exact Finset.mem_of_mem_erase hmem
  | refused hconnects =>
    exact h.mono hmembers (.refl _) fun fd hsocket => ⟨Finset.mem_of_mem_erase hsocket.1, hsocket.2⟩
  | notAdded hconnects h0 hfunc hdata =>
    refine h.mono hmembers (.refl _) fun fd hsocket => ⟨Finset.mem_of_mem_erase hsocket.1, ?_⟩
    exact (setEntry_func hfunc fd).symm.trans hsocket.2
  | cmdSocket hconnects h0 hfd =>
    exact ⟨hmembers, h.noModules.connected, fun _ _ => serving_connected d.world⟩
  | ntfSocket hconnects h0 => exact h.mono hmembers (.refl _) fun _ hsocket => hsocket
  | cmdErr hsocket =>
    refine ⟨hmembers, h.noModules.disconnected, fun fd hsocket => ?_⟩
    -- the slot is empty, and so no command socket is left
    obtain ⟨heq, hne, -⟩ := hmembers.cmd hsocket.1 hsocket.2
    exact absurd heq hne
  | cmdIn hsocket hrbuf hin =>
    rename_i n rbuf rbuf' fate world
    have hworld : SameGlobals d.world world := by
      rcases ioFd0EventIn_world hin with rfl | ⟨cmd, status, hhandle⟩
      · exact .refl _
      · obtain ⟨env, calls, hcode⟩ := hhandled
        rw [hcode] at hhandle
        exact (h.noModules.bare (h.serving e.fd ⟨hmem, hsocket.func⟩)).handlePduResult hhandle
    split at hmembers
    · rw [if_pos ‹_›]
      exact h.mono hmembers hworld fun fd hsocket =>
        ⟨Finset.mem_of_mem_erase hsocket.1, hsocket.2⟩
    · rw [if_neg ‹_›]
      exact h.mono hmembers hworld fun fd hsocket => hsocket

theorem ControlInv.step (h : ControlInv pipeFd listenFd d) (hlegal : LegalEvent pipeFd listenFd d e)
    (hhandled : e.Handled) (hstep : d.dispatch e = some d') : ControlInv pipeFd listenFd d' := by
  obtain ⟨evs, heffect⟩ := Daemon.dispatch_effect hstep
  exact h.effect hlegal hhandled heffect

theorem ControlInv.usable (h : ControlInv pipeFd listenFd d) : ControlUsable d where
  one := by
    intro fd₁ fd₂ h₁ h₂
    rw [(h.members.cmd h₁.1 h₁.2).1, (h.members.cmd h₂.1 h₂.2).1]
  dispatched := fun e _ hdispatches => h.serving e.fd hdispatches.1
  slots := fun service hcore _ _ => h.noModules.others service hcore

/-- **The control service stays usable** in every state that a run of the daemon reaches. -/
theorem controlUsable_of_run (hpipe : pipeFd < maxNfds) (hlisten : listenFd < maxNfds)
    (hne : pipeFd ≠ listenFd) {events : List EpollEvent}
    (hlegal : Along Daemon.dispatch (LegalEvent pipeFd listenFd) (.init pipeFd listenFd) events)
    (hhandled : ∀ e ∈ events, e.Handled)
    (hrun : run Daemon.dispatch (.init pipeFd listenFd) events = some d) : ControlUsable d := by
  have hinit := ControlInv.init hpipe hlisten hne
  have hboth := along_and hlegal (along_of_forall_mem hhandled _)
  have hinv : ControlInv pipeFd listenFd d :=
    run_invariant (fun _ _ _ h hlegal hstep => h.step hlegal.1 hlegal.2 hstep) hinit hboth hrun
  exact hinv.usable

end control

/-- A client unregisters BT_SOCK, its command socket fails, and the next one connects. -/
def twoClients : List EpollEvent :=
  [⟨3, epollIn, @Outside.obliging lp64 (some 5) .error⟩,
    ⟨5, epollIn, @Outside.obliging lp64 none (.data [serviceCore, 0x02, 1, 0])⟩,
    ⟨5, epollIn, @Outside.obliging lp64 none (.data [serviceBtSock])⟩,
    ⟨5, epollErr, @Outside.obliging lp64 none .error⟩,
    ⟨3, epollIn, @Outside.obliging lp64 (some 6) .error⟩]

set_option maxRecDepth 10000 in
theorem controlUsable_of_run_twoClients :
    ∃ d, run (@Daemon.dispatch lp64) (.init 4 3) twoClients = some d ∧ d.IsCmdSocket 6 ∧
      callsOf d.world.log = [.unregisterModule serviceBtSock] ∧ @ControlUsable lp64 d := by
  refine ⟨_, rfl, ⟨by decide, rfl⟩, rfl, ?_⟩
  refine @controlUsable_of_run 4 3 _ lp64 (by decide) (by decide) (by decide) twoClients ?_ ?_ rfl
  · decide
  · intro e he
    simp only [twoClients, List.mem_cons, List.not_mem_nil, or_false] at he
    rcases he with rfl | rfl | rfl | rfl | rfl <;> exact ⟨.obliging, 0, rfl⟩

end Bluetoothd

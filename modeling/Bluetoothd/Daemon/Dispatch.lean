import Bluetoothd.Daemon.Epoll

/-!
# What the event loop dispatches

`epoll_loop_iteration` calls, for each event of a batch, the function that `fd_state` has for the
descriptor. Entries of `fd_state` are never cleared, buffers are not released with their sockets,
and descriptors are used again; `along_dispatched` says that no stale entry is ever called.

A `Traced` daemon carries a record of the receive buffers that were created and released.
-/

namespace Bluetoothd

open Platform Transition

def cleanups : List BufEvent → List Nat :=
  List.filterMap fun | .cleanup n => some n | .create _ _ => none

@[simp] theorem cleanups_append (xs ys : List BufEvent) :
    cleanups (xs ++ ys) = cleanups xs ++ cleanups ys := List.filterMap_append

structure Traced where
  daemon : Daemon
  bufs : List BufEvent

section traces

variable [Platform]

def Traced.init (pipeFd listenFd : Nat) : Traced := ⟨.init pipeFd listenFd, []⟩

def Traced.call (t : Traced) (e : EpollEvent) : Option Traced :=
  (t.daemon.handling e).map fun h => ⟨h.daemon, t.bufs ++ h.bufs⟩

/-- `epoll_loop_iteration`, for the events that `epoll_wait` returned. -/
def Traced.iteration (t : Traced) (events : List EpollEvent) : Option Traced :=
  run Traced.call t events

/-- The kernel reports at most one event for each member of the epoll set, and `accept` returns
descriptors that are not open. -/
structure LegalBatch (pipeFd listenFd : Nat) (t : Traced) (events : List EpollEvent) : Prop where
  once : (events.map EpollEvent.fd).Nodup
  members : ∀ e ∈ events, e.fd ∈ t.daemon.loop.epoll
  fresh : Along Traced.call (fun t e => FreshAccept pipeFd listenFd t.daemon e) t events

instance (pipeFd listenFd : Nat) (t : Traced) : DecidablePred (LegalBatch pipeFd listenFd t) :=
  fun events => decidable_of_iff
    ((events.map EpollEvent.fd).Nodup ∧ (∀ e ∈ events, e.fd ∈ t.daemon.loop.epoll) ∧
      Along Traced.call (fun t e => FreshAccept pipeFd listenFd t.daemon e) t events)
    ⟨fun h => ⟨h.1, h.2.1, h.2.2⟩, fun h => ⟨h.once, h.members, h.fresh⟩⟩

end traces

/-- The call for an event is one through a valid entry; what `io_fd0_event` is called with is a
buffer that was created for the descriptor and has not been released. -/
structure Dispatched (t : Traced) (e : EpollEvent) : Prop where
  range : e.fd < maxNfds
  func : (t.daemon.loop.fdState e.fd).func.isSome
  rbuf : (t.daemon.loop.fdState e.fd).func = some .ioFd0Event → ∃ n rbuf,
    (t.daemon.loop.fdState e.fd).data = some n ∧ t.daemon.rbufs n = some rbuf ∧
      .create n e.fd ∈ t.bufs ∧ n ∉ cleanups t.bufs

/-- No two members of the epoll set share a buffer, and no buffer was released twice. -/
structure BuffersOwned (t : Traced) : Prop where
  unshared : ∀ fd₁ ∈ t.daemon.loop.epoll, ∀ fd₂ ∈ t.daemon.loop.epoll, ∀ n,
    (t.daemon.loop.fdState fd₁).data = some n → (t.daemon.loop.fdState fd₂).data = some n → fd₁ = fd₂
  once : (cleanups t.bufs).Nodup

/-! ## The invariant -/

/-- The record agrees with the buffers that are allocated, and with the command socket's. -/
structure TracedInv (pipeFd listenFd : Nat) (t : Traced) : Prop where
  members : Members pipeFd listenFd t.daemon
  live : ∀ n, (t.daemon.rbufs n).isSome → n < t.daemon.creates ∧ n ∉ cleanups t.bufs
  released : ∀ n ∈ cleanups t.bufs, n < t.daemon.creates
  once : (cleanups t.bufs).Nodup
  owner : ∀ fd ∈ t.daemon.loop.epoll, ∀ n, (t.daemon.loop.fdState fd).data = some n →
    .create n fd ∈ t.bufs

variable {pipeFd listenFd : Nat} {t t' : Traced} {e : EpollEvent}

theorem TracedInv.init (hpipe : pipeFd < maxNfds) (hlisten : listenFd < maxNfds)
    (hne : pipeFd ≠ listenFd) : TracedInv pipeFd listenFd (Traced.init pipeFd listenFd) where
  members := Members.init hpipe hlisten hne
  live := nofun
  released := nofun
  once := List.nodup_nil
  owner := by
    have hinit := Members.init hpipe hlisten hne
    intro fd hmem n hdata
    rcases hinit.epoll fd hmem with rfl | rfl | ⟨heq, hne0, -⟩
    · exact absurd (hdata.symm.trans hinit.pipe.2) nofun
    · exact absurd (hdata.symm.trans hinit.listening.2) nofun
    · exact absurd heq hne0

theorem Members.cmd_of_data {d : Daemon} {fd n : Nat} (h : Members pipeFd listenFd d)
    (hmem : fd ∈ d.loop.epoll) (hdata : (d.loop.fdState fd).data = some n) :
    fd = d.ioFd0 ∧ CmdSlot d fd := by
  rcases h.epoll fd hmem with rfl | rfl | ⟨heq, -, -, hslot⟩
  · rw [h.pipe.2] at hdata
    cases hdata
  · rw [h.listening.2] at hdata
    cases hdata
  · exact ⟨heq, hslot⟩

theorem TracedInv.dispatched (h : TracedInv pipeFd listenFd t)
    (hmem : e.fd ∈ t.daemon.loop.epoll) : Dispatched t e := by
  have hinv := h.members
  refine ⟨?_, ?_, fun hfunc => ?_⟩
  · rcases hinv.epoll e.fd hmem with heq | heq | ⟨-, -, hlt, -⟩
    · rw [heq]
      exact hinv.range.1
    · rw [heq]
      exact hinv.range.2
    · exact hlt
  · rcases hinv.epoll e.fd hmem with heq | heq | ⟨-, -, -, hslot⟩
    · rw [heq, hinv.pipe.1]
      rfl
    · rw [heq, hinv.listening.1]
      rfl
    · rw [hslot.func]
      rfl
  · obtain ⟨-, -, -, hslot⟩ := hinv.cmd hmem hfunc
    obtain ⟨n, rbuf, hdata, hrbuf⟩ := hslot.rbuf
    have hlive : (t.daemon.rbufs n).isSome := by
      rw [hrbuf]
      rfl
    exact ⟨n, rbuf, hdata, hrbuf, h.owner e.fd hmem n hdata, (h.live n hlive).2⟩

theorem TracedInv.buffersOwned (h : TracedInv pipeFd listenFd t) : BuffersOwned t where
  unshared := by
    intro fd₁ hmem₁ fd₂ hmem₂ n hdata₁ hdata₂
    obtain ⟨heq₁, -⟩ := h.members.cmd_of_data hmem₁ hdata₁
    obtain ⟨heq₂, -⟩ := h.members.cmd_of_data hmem₂ hdata₂
    rw [heq₁, heq₂]
  once := h.once

theorem TracedInv.cleanup {d' : Daemon} {m : Nat} (h : TracedInv pipeFd listenFd t) (hm : m < d'.creates)
    (hnot : m ∉ cleanups t.bufs) (hle : t.daemon.creates ≤ d'.creates)
    (hlive : ∀ n, (d'.rbufs n).isSome → n ≠ m ∧ (t.daemon.rbufs n).isSome) :
    (∀ n, (d'.rbufs n).isSome → n < d'.creates ∧ n ∉ cleanups t.bufs ++ [m]) ∧
      (∀ n ∈ cleanups t.bufs ++ [m], n < d'.creates) ∧ (cleanups t.bufs ++ [m]).Nodup := by
  refine ⟨fun n hn => ?_, fun n hn => ?_, ?_⟩
  · obtain ⟨hne, hbefore⟩ := hlive n hn
    obtain ⟨hlt, hnotn⟩ := h.live n hbefore
    refine ⟨by omega, ?_⟩
    simp [hnotn, hne]
  · rcases List.mem_append.mp hn with hn | hn
    · exact lt_of_lt_of_le (h.released n hn) hle
    · rwa [List.mem_singleton.mp hn]
  · apply List.nodup_append.mpr
    refine ⟨h.once, List.nodup_singleton _, fun n hn m' hm' heq => hnot ?_⟩
    rwa [← List.mem_singleton.mp hm', ← heq]

section steps

variable [Platform] {d d' : Daemon} {evs : List BufEvent}

/-! ## What an event does to the buffers -/

theorem Effect.bufs_cases (h : Effect d e evs d') :
    (evs = [] ∧ d'.creates = d.creates) ∨
    (∃ fd, (evs = [.create d.creates fd] ∨ evs = [.create d.creates fd, .cleanup d.creates]) ∧
      d'.creates = d.creates + 1) ∨
    ∃ n, evs = [.cleanup n] ∧ d'.creates = d.creates ∧ OnCmdSocket d e n := by
  cases h with
  | notAdded hconnects h0 hfunc hdata => exact .inr (.inl ⟨_, .inr rfl, rfl⟩)
  | cmdSocket hconnects h0 hfd => exact .inr (.inl ⟨_, .inl rfl, rfl⟩)
  | cmdErr hsocket => exact .inr (.inr ⟨_, rfl, rfl, hsocket⟩)
  | cmdIn hsocket hrbuf hin =>
    left
    split <;> exact ⟨rfl, rfl⟩
  | _ => exact .inl ⟨rfl, rfl⟩

/-- The record of an event tells which buffers are allocated after it. -/
theorem Effect.rbufs (h : Effect d e evs d') (n : Nat) :
    (d'.rbufs n).isSome = evs.foldl BufEvent.apply (fun n => (d.rbufs n).isSome) n := by
  cases h with
  | notAdded hconnects h0 hfunc hdata =>
    apply (Daemon.isSome_update d.rbufs _ _ n).trans
    by_cases heq : n = d.creates <;> simp [heq]
  | cmdSocket hconnects h0 hfd =>
    apply (Daemon.isSome_update d.rbufs _ _ n).trans
    simp
  | cmdErr hsocket =>
    apply (Daemon.isSome_update d.rbufs _ _ n).trans
    simp
  | cmdIn hsocket hrbuf hin =>
    rename_i m rbuf rbuf' fate world
    -- the buffer that is read into is allocated before and after
    have hsame := Daemon.isSome_setRbuf hrbuf rbuf' n
    split <;> exact hsame
  | _ => rfl

theorem Effect.member_cases (h : Effect d e evs d') {fd : Nat} (hmem : fd ∈ d'.loop.epoll) :
    (fd ∈ d.loop.epoll ∧ (d'.loop.fdState fd).data = (d.loop.fdState fd).data) ∨
    ((d'.loop.fdState fd).data = some d.creates ∧ .create d.creates fd ∈ evs) := by
  cases h with
  | ignored => exact .inl ⟨hmem, rfl⟩
  | listenErr hfunc =>
    rw [epoll_remove] at hmem
    exact .inl ⟨Finset.mem_of_mem_erase hmem, rfl⟩
  | refused hconnects => exact .inl ⟨Finset.mem_of_mem_erase hmem, rfl⟩
  | notAdded hconnects h0 hfunc hdata =>
    exact .inl ⟨Finset.mem_of_mem_erase hmem, setEntry_data hdata fd⟩
  | cmdSocket hconnects h0 hfd =>
    rename_i fd' rbuf
    by_cases heq : fd = fd'
    · right
      simp [Loop.setEntry, heq]
    · left
      refine ⟨Finset.mem_of_mem_insert_of_ne hmem heq, ?_⟩
      simp [Loop.setEntry, heq]
  | ntfSocket hconnects h0 => exact .inl ⟨hmem, rfl⟩
  | cmdErr hsocket =>
    rw [epoll_remove] at hmem
    exact .inl ⟨Finset.mem_of_mem_erase hmem, rfl⟩
  | cmdIn hsocket hrbuf hin =>
    left
    split at hmem
    · rw [if_pos ‹_›]
      exact ⟨Finset.mem_of_mem_erase hmem, rfl⟩
    · rw [if_neg ‹_›]
      exact ⟨hmem, rfl⟩

/-! ## Runs -/

theorem TracedInv.effect (h : TracedInv pipeFd listenFd t) (hmem : e.fd ∈ t.daemon.loop.epoll)
    (heffect : Effect t.daemon e evs d') :
    (∀ n, (d'.rbufs n).isSome → n < d'.creates ∧ n ∉ cleanups (t.bufs ++ evs)) ∧
      (∀ n ∈ cleanups (t.bufs ++ evs), n < d'.creates) ∧ (cleanups (t.bufs ++ evs)).Nodup := by
  have hrbufs := heffect.rbufs
  have hnew : t.daemon.creates ∉ cleanups t.bufs := fun hx => lt_irrefl _ (h.released _ hx)
  rcases heffect.bufs_cases with ⟨rfl, hcreates⟩ | ⟨fd, rfl | rfl, hcreates⟩ | ⟨m, rfl, hcreates, hsocket⟩
  · rw [List.append_nil, hcreates]
    refine ⟨fun n hn => h.live n ?_, h.released, h.once⟩
    rwa [hrbufs] at hn
  · have hsame : cleanups (t.bufs ++ [.create t.daemon.creates fd]) = cleanups t.bufs := by
      rw [cleanups_append]
      exact List.append_nil _
    rw [hsame, hcreates]
    refine ⟨fun n hn => ?_, fun n hn => Nat.lt_succ_of_lt (h.released n hn), h.once⟩
    rw [hrbufs, List.foldl_cons, List.foldl_nil, BufEvent.apply_create] at hn
    split at hn
    case isTrue heq =>
      rw [heq]
      exact ⟨Nat.lt_succ_self _, hnew⟩
    case isFalse => exact ⟨Nat.lt_succ_of_lt (h.live n hn).1, (h.live n hn).2⟩
  · -- the registration has failed
    have hmore : cleanups (t.bufs ++ [.create t.daemon.creates fd, .cleanup t.daemon.creates])
        = cleanups t.bufs ++ [t.daemon.creates] := cleanups_append _ _
    rw [hmore]
    apply h.cleanup (by omega) hnew (by omega)
    intro n hn
    rw [hrbufs] at hn
    by_cases heq : n = t.daemon.creates
    · simp [heq] at hn
    · exact ⟨heq, by simpa [heq] using hn⟩
  · -- an error on the command socket, whose buffer is allocated
    have hmore : cleanups (t.bufs ++ [.cleanup m]) = cleanups t.bufs ++ [m] := cleanups_append _ _
    have hlive : (t.daemon.rbufs m).isSome := by
      obtain ⟨-, -, -, hslot⟩ := h.members.cmd hmem hsocket.func
      obtain ⟨m', rbuf, hdata, hrbuf⟩ := hslot.rbuf
      rw [Option.some_inj.mp (hsocket.data.symm.trans hdata), hrbuf]
      rfl
    obtain ⟨hlt, hnot⟩ := h.live m hlive
    rw [hmore]
    apply h.cleanup (by omega) hnot (by omega)
    intro n hn
    rw [hrbufs] at hn
    by_cases heq : n = m
    · simp [heq] at hn
    · exact ⟨heq, by simpa [heq] using hn⟩

theorem TracedInv.call (h : TracedInv pipeFd listenFd t) (hmem : e.fd ∈ t.daemon.loop.epoll)
    (hfresh : FreshAccept pipeFd listenFd t.daemon e) (hcall : t.call e = some t') :
    TracedInv pipeFd listenFd t' ∧ ∀ fd ∈ t.daemon.loop.epoll, fd ≠ e.fd → fd ∈ t'.daemon.loop.epoll := by
  obtain ⟨d', hhandling, rfl⟩ := Option.map_eq_some_iff.mp hcall
  have heffect := Daemon.handling_effect hhandling
  obtain ⟨hlive, hreleased, honce⟩ := h.effect hmem heffect
  have hpos : ∀ fd, Connects t.daemon e fd → 0 < fd := fun fd h => (hfresh fd h.accept).1
  refine ⟨⟨h.members.effect hmem hfresh.new (fun fd h _ => hpos fd h) heffect, hlive, hreleased,
    honce, ?_⟩, fun fd hfd hne => heffect.keeps h.members hfresh.new hfd hne⟩
  intro fd hfd n hdata
  rcases heffect.member_cases hfd with ⟨hbefore, hsame⟩ | ⟨hnew, hcreate⟩
  · exact List.mem_append_left _ (h.owner fd hbefore n (hsame.symm.trans hdata))
  · obtain rfl : t.daemon.creates = n := Option.some_inj.mp (hnew.symm.trans hdata)
    exact List.mem_append_right _ hcreate

/-- Within a batch, every event is for a member of the epoll set still when its turn comes. -/
theorem TracedInv.batch {events : List EpollEvent} (h : TracedInv pipeFd listenFd t)
    (hbatch : LegalBatch pipeFd listenFd t events) :
    Along Traced.call (fun t e => Dispatched t e ∧ BuffersOwned t) t events ∧
      ∀ t', t.iteration events = some t' → TracedInv pipeFd listenFd t' := by
  obtain ⟨honce, hmembers, hfresh⟩ := hbatch
  induction events generalizing t with
  | nil =>
    refine ⟨trivial, fun t' hrun => ?_⟩
    cases hrun
    exact h
  | cons e events ih =>
    obtain ⟨hfreshe, hfresh⟩ := hfresh
    rw [List.map_cons, List.nodup_cons] at honce
    have hmem := hmembers e List.mem_cons_self
    have hrest : ∀ t', t.call e = some t' →
        Along Traced.call (fun t e => Dispatched t e ∧ BuffersOwned t) t' events ∧
          ∀ t'', t'.iteration events = some t'' → TracedInv pipeFd listenFd t'' := by
      intro t' hcall
      obtain ⟨hinv, hkeeps⟩ := h.call hmem hfreshe hcall
      refine ih hinv honce.2 (fun e' he' => hkeeps _ (hmembers e' (List.mem_cons_of_mem e he')) ?_)
        (hfresh t' hcall)
      intro heq
      exact honce.1 (heq ▸ List.mem_map_of_mem he')
    refine ⟨⟨⟨h.dispatched hmem, h.buffersOwned⟩, fun t' hcall => (hrest t' hcall).1⟩, ?_⟩
    intro t'' hrun
    obtain ⟨t', hcall, hrun⟩ := Option.bind_eq_some_iff.mp hrun
    exact (hrest t' hcall).2 t'' hrun

/-- **No dispatch to a dead registration.** In every run of the event loop, every call of every
batch is one through a valid entry, and a buffer is neither shared nor released twice. -/
theorem along_dispatched (hpipe : pipeFd < maxNfds) (hlisten : listenFd < maxNfds)
    (hne : pipeFd ≠ listenFd) {batches : List (List EpollEvent)}
    (hlegal : Along Traced.iteration (LegalBatch pipeFd listenFd) (.init pipeFd listenFd) batches) :
    Along Traced.iteration
        (fun t events => Along Traced.call (fun t e => Dispatched t e ∧ BuffersOwned t) t events)
        (.init pipeFd listenFd) batches ∧
      ∀ t, run Traced.iteration (.init pipeFd listenFd) batches = some t → BuffersOwned t := by
  have hinit := TracedInv.init hpipe hlisten hne
  have hstep : ∀ t events t', TracedInv pipeFd listenFd t → LegalBatch pipeFd listenFd t events →
      t.iteration events = some t' → TracedInv pipeFd listenFd t' :=
    fun _ _ t' h hbatch hrun => (h.batch hbatch).2 t' hrun
  constructor
  · exact along_of_invariant hstep (fun _ _ h hbatch => (h.batch hbatch).1) hinit hlegal
  · intro t hrun
    exact (run_invariant hstep hinit hlegal hrun).buffersOwned

end steps

/-- A client connects both sockets, its command socket reports an error in the same batch in which
the next client connects, and the descriptor of a client that was refused comes round again. -/
def reconnections : List (List EpollEvent) :=
  [[⟨3, epollIn, @Outside.obliging lp64 (some 5) .error⟩],
    [⟨5, epollIn, @Outside.obliging lp64 none (.data [0, 2])⟩,
      ⟨3, epollIn, @Outside.obliging lp64 (some 6) .error⟩],
    [⟨5, epollErr, @Outside.obliging lp64 none .error⟩,
      ⟨3, epollIn, @Outside.obliging lp64 (some 70) .error⟩],
    [⟨4, epollIn, @Outside.obliging lp64 none .error⟩,
      ⟨3, epollIn, @Outside.obliging lp64 (some 7) .error⟩]]

set_option maxRecDepth 10000 in
theorem along_dispatched_reconnections :
    Along (@Traced.iteration lp64)
        (fun t events => Along (@Traced.call lp64) (fun t e => Dispatched t e ∧ BuffersOwned t) t events)
        (.init 4 3) reconnections ∧
      ∃ t, run (@Traced.iteration lp64) (.init 4 3) reconnections = some t ∧
        t.bufs = [.create 0 5, .cleanup 0, .create 1 70, .cleanup 1, .create 2 7] ∧ BuffersOwned t := by
  have hruns := @along_dispatched 4 3 lp64 (by decide) (by decide) (by decide) reconnections (by decide)
  exact ⟨hruns.1, _, rfl, rfl, hruns.2 _ rfl⟩

end Bluetoothd

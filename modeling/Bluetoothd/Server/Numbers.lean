import Bluetoothd.Server.Runs

/-!
# Descriptor numbers

The mask that `add_fd_to_epoll_loop` stores stays in the table when the kernel refuses the
descriptor, and when the descriptor is closed. The kernel hands out the number again; then the table
asks for a change of a registration that is not there. So a number is good for one attempt to become
the command socket (`takes_iff_untried`), a daemon has no more clients than the table has entries
(`clients_le`), and where `accept` returns the lowest free number, one refusal is the end of the
service (`locked_out`).
-/

namespace Bluetoothd

open Platform Transition

section numbers

variable [Platform] {d d' : Daemon} {i : IoEvent} {events after : List IoEvent} {base : Finset Nat}
  {fd fd' n pipeFd listenFd : Nat}

/-- The client gets as far as `add_fd_to_epoll_loop`. -/
structure Daemon.Tries (d : Daemon) (i : IoEvent) (fd : Nat) : Prop where
  connects : Connects d i.epoll fd
  vacant : d.ioFd0 = 0
  malloc : i.malloc.obtained.isSome

def Daemon.Marked (fd : Nat) (d : Daemon) : Prop := (d.loop.fdState fd).events ≠ 0

/-- `accept` returns the lowest number that is free; `base` are the numbers that the process uses for
other things than its clients. -/
def LowestAccept (base : Finset Nat) (d : Daemon) (i : IoEvent) : Prop :=
  ∀ fd ∈ i.accept, fd ∉ base ∪ d.opened ∧ ∀ m < fd, m ∈ base ∪ d.opened

instance (base : Finset Nat) (d : Daemon) : DecidablePred (LowestAccept base d) :=
  fun i => inferInstanceAs
    (Decidable (∀ fd ∈ i.accept, fd ∉ base ∪ d.opened ∧ ∀ m < fd, m ∈ base ∪ d.opened))

/-! ## Marks -/

/-- There is no command socket, and the lowest free number cannot become one. -/
structure LockedOut (base : Finset Nat) (fd : Nat) (d : Daemon) : Prop where
  vacant : d.ioFd0 = 0
  spent : fd < maxNfds → d.Marked fd
  free : fd ∉ base ∪ d.opened
  lowest : ∀ m < fd, m ∈ base ∪ d.opened

/-- Only `setup_cmd_socket` writes to the table. -/
theorem Connects.fdState (h : Connects d i.epoll fd) (hio : d.io i = some d') :
    d'.loop.fdState =
      if d.ioFd0 = 0 ∧ i.malloc.obtained.isSome then (d.register i.epoll.out fd).2.fdState
      else d.loop.fdState := by
  rw [Daemon.io, h.dispatch] at hio
  by_cases h0 : d.ioFd0 = 0
  · rw [fdEventIn_cmd h.accept h0] at hio
    rcases hmalloc : i.malloc.obtained with _ | mem
    · have hno : ¬ (d.ioFd0 = 0 ∧ (none : Option (Nat → UInt8)).isSome) := by simp
      rw [setupCmdSocket_noBuffer (show i.epoll.out.malloc.obtained = none from hmalloc)] at hio
      cases hio
      rw [if_neg hno]
      rfl
    · have hblock : i.epoll.out.malloc.obtained = some mem := hmalloc
      have hrbuf := createPduRbuf_congr maxCmdLen hblock
      rw [setupCmdSocket_eq hrbuf] at hio
      rw [if_pos ⟨h0, rfl⟩]
      by_cases hres : ((d.accepted fd).register i.epoll.out fd).1 < 0
      · rw [if_pos hres] at hio
        cases hio
        rfl
      · rw [if_neg hres] at hio
        cases hio
        rfl
  · rw [if_neg fun hx => h0 hx.1]
    by_cases h1 : d.ioFd1 = 0
    · rw [fdEventIn_ntf h.accept h0 h1] at hio
      cases hio
      rfl
    · rw [fdEventIn_tooMany h.accept h0 h1] at hio
      cases hio
      rfl

theorem Daemon.fdState_io (hidle : ∀ fd, ¬ Connects d i.epoll fd) (hio : d.io i = some d') :
    d'.loop.fdState = d.loop.fdState := by
  cases Daemon.io_effect hio with
  | idle hother => rfl
  | listenErr hfunc => rfl
  | turnedAway hconnects htakes haway => exact absurd hconnects (hidle _)
  | cmdSocket hconnects htakes h0 hrbuf => exact absurd hconnects (hidle _)
  | ntfSocket hconnects htakes h0 h1 => exact absurd hconnects (hidle _)
  | cmdErr hsocket herr => rfl
  | cmdRead hsocket herr hin hrbuf hread => split <;> rfl

/-- An event leaves the marks, and an attempt to register a number makes one. -/
theorem Daemon.marked_io (hfd : fd < maxNfds) (hio : d.io i = some d') :
    d'.Marked fd ↔ d.Marked fd ∨ d.Tries i fd := by
  have hsame : d'.loop.fdState = d.loop.fdState → ¬ d.Tries i fd →
      (d'.Marked fd ↔ d.Marked fd ∨ d.Tries i fd) := by
    intro hstate htries
    unfold Daemon.Marked
    rw [hstate, or_iff_left htries]
  by_cases hconnects : ∃ fd', Connects d i.epoll fd'
  · obtain ⟨fd', hconnects⟩ := hconnects
    have hstate := hconnects.fdState hio
    by_cases hsetup : d.ioFd0 = 0 ∧ i.malloc.obtained.isSome
    · have hevents : ((d.register i.epoll.out fd').2.fdState fd).events =
          if fd = fd' ∧ fd' < maxNfds then epollErr ||| epollIn else (d.loop.fdState fd).events :=
        events_add i.epoll.out.ctl fd' (epollErr ||| epollIn) EventFunc.ioFd0Event _ d.loop fd
      rw [if_pos hsetup] at hstate
      unfold Daemon.Marked
      rw [hstate, hevents]
      by_cases heq : fd = fd'
      · rw [if_pos ⟨heq, heq ▸ hfd⟩]
        exact iff_of_true (by decide) (.inr ⟨heq ▸ hconnects, hsetup.1, hsetup.2⟩)
      · rw [if_neg fun hx => heq hx.1]
        refine (or_iff_left fun htries => heq ?_).symm
        exact Option.some_inj.mp (htries.connects.accept.symm.trans hconnects.accept)
    · rw [if_neg hsetup] at hstate
      exact hsame hstate fun htries => hsetup ⟨htries.vacant, htries.malloc⟩
  · have hidle := not_exists.mp hconnects
    exact hsame (Daemon.fdState_io hidle hio) fun htries => hidle fd htries.connects

omit [Platform] in
theorem Daemon.events_init (pipeFd listenFd fd : Nat) :
    ((Daemon.init pipeFd listenFd).loop.fdState fd).events =
      if fd = listenFd ∧ listenFd < maxNfds then epollIn ||| epollErr
      else if fd = pipeFd ∧ pipeFd < maxNfds then epollIn ||| epollErr else 0 := by
  apply (events_add true listenFd (epollIn ||| epollErr) EventFunc.fdEvent none _ fd).trans
  exact congrArg _ (events_add true pipeFd (epollIn ||| epollErr) EventFunc.execTask none Loop.start fd)

omit [Platform] in
theorem Daemon.not_marked_init (hpipe : fd ≠ pipeFd) (hlisten : fd ≠ listenFd) :
    ¬ (Daemon.init pipeFd listenFd).Marked fd := by
  rw [Daemon.Marked, Daemon.events_init, if_neg fun h => hlisten h.1, if_neg fun h => hpipe h.1]
  exact not_not_intro rfl

/-! ## One attempt -/

theorem ServerInv.takes_iff (h : ServerInv pipeFd listenFd d) (hlegal : LegalIo pipeFd listenFd d i)
    (hconnects : Connects d i.epoll fd) (h0 : d.ioFd0 = 0) :
    d.Takes i.epoll.out fd ↔ i.malloc.obtained.isSome ∧ i.ctl = true ∧ fd < maxNfds ∧ ¬ d.Marked fd := by
  obtain ⟨-, hmem, -, -⟩ := h.fresh hlegal hconnects.accept
  have haccepts : CtlAccepts i.ctl d.loop fd ↔ i.ctl = true ∧ ¬ d.Marked fd := by
    unfold CtlAccepts Daemon.Marked
    rw [iff_false_left hmem]
  have hregister : 0 ≤ (d.register i.epoll.out fd).1 ↔ fd < maxNfds ∧ CtlAccepts i.ctl d.loop fd :=
    add_nonneg_iff
  rw [Daemon.Takes, if_pos h0, hregister, haccepts]
  exact and_congr_right fun _ => and_left_comm

/-- **A number is good for one attempt.** In every run that the kernel can cause, a client that
connects while there is no command socket gets to be it if and only if there is memory for its buffer,
the kernel has resources, its number is in the table, and no event of the run so far has tried to
register the number, with or without success. -/
theorem takes_iff_untried (hpipe : pipeFd < maxNfds) (hlisten : listenFd < maxNfds)
    (hne : pipeFd ≠ listenFd)
    (hbefore : Along Daemon.io (LegalIo pipeFd listenFd) (.init pipeFd listenFd) events)
    (hrun : run Daemon.io (.init pipeFd listenFd) events = some d)
    (hlegal : LegalIo pipeFd listenFd d i) (hconnects : Connects d i.epoll fd) (h0 : d.ioFd0 = 0) :
    d.Takes i.epoll.out fd ↔ i.malloc.obtained.isSome ∧ i.ctl = true ∧ fd < maxNfds ∧
      Along Daemon.io (fun d i => ¬ d.Tries i fd) (.init pipeFd listenFd) events := by
  have hinv := ServerInv.of_run hpipe hlisten hne hbefore hrun
  obtain ⟨-, -, hlistenFd, hpipeFd⟩ := hinv.fresh hlegal hconnects.accept
  rw [hinv.takes_iff hlegal hconnects h0]
  refine and_congr_right fun _ => and_congr_right fun _ => and_congr_right fun hfd => ?_
  rw [marked_iff (I := fun _ => True) (fun _ _ _ _ _ _ => trivial)
    (fun _ _ _ _ _ hio => Daemon.marked_io hfd hio) trivial hbefore hrun]
  exact and_iff_right (Daemon.not_marked_init hpipeFd hlistenFd)

/-! ## A daemon's clients -/

def Daemon.marks (d : Daemon) : Finset Nat :=
  (Finset.range maxNfds).filter fun fd => (d.loop.fdState fd).events ≠ 0

def Daemon.Fills (d : Daemon) (i : IoEvent) : Prop := d.ioFd0 = 0 ∧ ∃ d' ∈ d.io i, d'.ioFd0 ≠ 0

instance (d : Daemon) (i : IoEvent) : Decidable (d.Fills i) :=
  inferInstanceAs (Decidable (d.ioFd0 = 0 ∧ ∃ d' ∈ d.io i, d'.ioFd0 ≠ 0))

omit [Platform] in
theorem Daemon.mem_marks : fd ∈ d.marks ↔ fd < maxNfds ∧ d.Marked fd := by
  rw [Daemon.marks, Finset.mem_filter, Finset.mem_range]
  rfl

/-- The slot for commands is taken by a number that had no mark. -/
theorem ServerInv.fills (h : ServerInv pipeFd listenFd d) (hlegal : LegalIo pipeFd listenFd d i)
    (hfills : d.Fills i) (hio : d.io i = some d') : ∃ fd, fd ∈ d'.marks ∧ fd ∉ d.marks := by
  obtain ⟨h0, d'', hio', hne⟩ := hfills
  obtain rfl : d' = d'' := Option.some_inj.mp (hio.symm.trans hio')
  cases Daemon.io_effect hio with
  | @cmdSocket fd rbuf hconnects htakes _ hrbuf =>
    obtain ⟨hmalloc, -, hfd, hunmarked⟩ := (h.takes_iff hlegal hconnects h0).mp htakes
    refine ⟨fd, Daemon.mem_marks.mpr ⟨hfd, ?_⟩, fun hmem => hunmarked (Daemon.mem_marks.mp hmem).2⟩
    exact (Daemon.marked_io hfd hio).mpr (.inr ⟨hconnects, h0, hmalloc⟩)
  | turnedAway hconnects htakes haway => exact absurd (haway.ioFd0.trans h0) hne
  | cmdErr hsocket herr => exact absurd rfl hne
  | cmdRead hsocket herr hin hrbuf hread => exact absurd h0 (h.cmdSlot hlegal.1 hsocket).2.1
  | _ => exact absurd h0 hne

theorem ServerInv.card_marks (h : ServerInv pipeFd listenFd d)
    (hlegal : LegalIo pipeFd listenFd d i) (hio : d.io i = some d') :
    (if d.Fills i then 1 else 0) + d.marks.card ≤ d'.marks.card := by
  have hsubset : d.marks ⊆ d'.marks := by
    intro fd hmem
    obtain ⟨hfd, hmarked⟩ := Daemon.mem_marks.mp hmem
    exact Daemon.mem_marks.mpr ⟨hfd, (Daemon.marked_io hfd hio).mpr (.inl hmarked)⟩
  split_ifs with hfills
  · obtain ⟨fd, hnew, hold⟩ := h.fills hlegal hfills hio
    have hlt := Finset.card_lt_card (Finset.ssubset_iff_subset_ne.mpr
      ⟨hsubset, fun heq => hold (heq ▸ hnew)⟩)
    omega
  · rw [Nat.zero_add]
    exact Finset.card_le_card hsubset

omit [Platform] in
theorem Daemon.card_marks_init (hpipe : pipeFd < maxNfds) (hlisten : listenFd < maxNfds)
    (hne : pipeFd ≠ listenFd) : 2 ≤ (Daemon.init pipeFd listenFd).marks.card := by
  have hmask : epollIn ||| epollErr ≠ 0 := by decide
  have hpipeFd : (Daemon.init pipeFd listenFd).Marked pipeFd := by
    rw [Daemon.Marked, Daemon.events_init, if_neg fun h => hne h.1, if_pos ⟨rfl, hpipe⟩]
    exact hmask
  have hlistenFd : (Daemon.init pipeFd listenFd).Marked listenFd := by
    rw [Daemon.Marked, Daemon.events_init, if_pos ⟨rfl, hlisten⟩]
    exact hmask
  have hsubset : {pipeFd, listenFd} ⊆ (Daemon.init pipeFd listenFd).marks := by
    intro fd hmem
    rw [Finset.mem_insert, Finset.mem_singleton] at hmem
    rcases hmem with rfl | rfl
    · exact Daemon.mem_marks.mpr ⟨hpipe, hpipeFd⟩
    · exact Daemon.mem_marks.mpr ⟨hlisten, hlistenFd⟩
  rw [← Finset.card_pair hne]
  exact Finset.card_le_card hsubset

/-- **A daemon has 62 clients in its life, at most.** In every run that the kernel can cause, the slot
for commands is taken at most as often as the table has entries besides those of the pipe and the
listening socket, however many clients come and go. -/
theorem clients_le (hpipe : pipeFd < maxNfds) (hlisten : listenFd < maxNfds) (hne : pipeFd ≠ listenFd)
    (hlegal : Along Daemon.io (LegalIo pipeFd listenFd) (.init pipeFd listenFd) events)
    (hrun : run Daemon.io (.init pipeFd listenFd) events = some d) :
    Transition.total Daemon.io (fun d i => if d.Fills i then 1 else 0) (.init pipeFd listenFd) events
      ≤ maxNfds - 2 := by
  have htotal := run_total_le (fun _ _ _ h hlegal hio => h.step hlegal hio)
    (fun _ _ _ h hlegal hio => h.card_marks hlegal hio) (ServerInv.init hpipe hlisten hne) hlegal hrun
  have hstart := Daemon.card_marks_init hpipe hlisten hne
  have hend : d.marks.card ≤ maxNfds :=
    (Finset.card_filter_le _ _).trans (Finset.card_range maxNfds).le
  omega

/-! ## The lowest number -/

omit [Platform] in
theorem LockedOut.eq_of_accept (h : LockedOut base fd d) (hlowest : LowestAccept base d i)
    (haccept : i.accept = some fd') : fd' = fd := by
  obtain ⟨hfree, hbelow⟩ := hlowest fd' haccept
  have hle : fd ≤ fd' := Nat.not_lt.mp fun hlt => hfree (h.lowest fd' hlt)
  have hge : fd' ≤ fd := Nat.not_lt.mp fun hlt => h.free (hbelow fd hlt)
  exact Nat.le_antisymm hge hle

omit [Platform] in
theorem TurnedAway.lockedOut (haway : TurnedAway d d' fd) (haccept : i.accept = some fd)
    (h0 : d.ioFd0 = 0) (hspent : fd < maxNfds → d'.Marked fd) (hlowest : LowestAccept base d i) :
    LockedOut base fd d' ∧ d'.opened = d.opened ∧ d'.world = d.world := by
  obtain ⟨hfree, hbelow⟩ := hlowest fd haccept
  have hopened : d'.opened = d.opened := by
    rw [haway.opened, Finset.erase_insert fun hmem => hfree (Finset.mem_union_right _ hmem)]
  refine ⟨⟨haway.ioFd0.trans h0, hspent, ?_, ?_⟩, hopened, haway.world⟩
  · rwa [hopened]
  · rwa [hopened]

/-- Nothing lets a client in again. -/
theorem LockedOut.step (hlocked : LockedOut base fd d) (h : ServerInv pipeFd listenFd d)
    (hlegal : LegalIo pipeFd listenFd d i) (hlowest : LowestAccept base d i)
    (hio : d.io i = some d') : LockedOut base fd d' ∧ d'.opened = d.opened ∧ d'.world = d.world := by
  have hspent : fd < maxNfds → d'.Marked fd :=
    fun hfd => (Daemon.marked_io hfd hio).mpr (.inl (hlocked.spent hfd))
  have hvacant : ∀ {n}, ¬ OnCmdSocket d i.epoll n :=
    fun hsocket => (h.cmdSlot hlegal.1 hsocket).2.1 hlocked.vacant
  cases Daemon.io_effect hio with
  | idle hidle => exact ⟨hlocked, rfl, rfl⟩
  | listenErr hfunc => exact ⟨⟨hlocked.vacant, hspent, hlocked.free, hlocked.lowest⟩, rfl, rfl⟩
  | turnedAway hconnects htakes haway =>
    obtain rfl := hlocked.eq_of_accept hlowest hconnects.accept
    exact haway.lockedOut hconnects.accept hlocked.vacant hspent hlowest
  | cmdSocket hconnects htakes h0 hrbuf =>
    obtain rfl := hlocked.eq_of_accept hlowest hconnects.accept
    obtain ⟨-, -, hfd, hunmarked⟩ := (h.takes_iff hlegal hconnects h0).mp htakes
    exact absurd (hlocked.spent hfd) hunmarked
  | ntfSocket hconnects htakes h0 h1 => exact absurd hlocked.vacant h0
  | cmdErr hsocket herr => exact absurd hsocket hvacant
  | cmdRead hsocket herr hin hrbuf hread => exact absurd hsocket hvacant

theorem Daemon.not_fatal (h0 : d.ioFd0 = 0) : ¬ d.Fatal listenFd i := by
  rintro ⟨bytes, mem, pending, -, hcmd, -⟩
  cases hcmd.symm.trans (Daemon.cmdConn_vacant h0)

/-- **One refusal is the end of the service.** Where `accept` returns the lowest free number, and one
client in the place of the command socket is refused by `add_fd_to_epoll_loop`, the daemon goes on for
ever without a command socket: in every later run that the kernel can cause it keeps to the
descriptors that it has and does not call into a service, whoever connects. -/
theorem locked_out (hpipe : pipeFd < maxNfds) (hlisten : listenFd < maxNfds)
    (hne : pipeFd ≠ listenFd)
    (hbefore : Along Daemon.io (LegalIo pipeFd listenFd) (.init pipeFd listenFd) events)
    (hrun : run Daemon.io (.init pipeFd listenFd) events = some d)
    (hconnects : Connects d i.epoll fd) (h0 : d.ioFd0 = 0) (hmalloc : i.malloc.obtained.isSome)
    (hrefused : ¬ d.Takes i.epoll.out fd)
    (hafter : Along Daemon.io (fun d i => LegalIo pipeFd listenFd d i ∧ LowestAccept base d i) d
      (i :: after)) :
    ∃ d', run Daemon.io d (i :: after) = some d' ∧ d'.ioFd0 = 0 ∧ d'.opened = d.opened ∧
      d'.world = d.world := by
  have hinv := ServerInv.of_run hpipe hlisten hne hbefore hrun
  obtain ⟨⟨hlegal, hlowest⟩, hrest⟩ := hafter
  obtain ⟨d₁, hio, haway⟩ := hconnects.turnedAway hrefused
  -- the attempt leaves its mark, and that outlasts the client
  have hspent : fd < maxNfds → d₁.Marked fd :=
    fun hfd => (Daemon.marked_io hfd hio).mpr (.inr ⟨hconnects, h0, hmalloc⟩)
  have hlocked := haway.lockedOut hconnects.accept h0 hspent hlowest
  let I : Daemon → Prop := fun t => ServerInv pipeFd listenFd t ∧
    LockedOut base fd t ∧ t.opened = d.opened ∧ t.world = d.world
  have hkeeps : ∀ t j t', I t → LegalIo pipeFd listenFd t j ∧ LowestAccept base t j →
      t.io j = some t' → I t' := by
    rintro t j t' ⟨hinv, hlocked, hopened, hworld⟩ ⟨hlegal, hlowest⟩ hio
    obtain ⟨hlocked', hopened', hworld'⟩ := hlocked.step hinv hlegal hlowest hio
    exact ⟨hinv.step hlegal hio, hlocked', hopened'.trans hopened, hworld'.trans hworld⟩
  have hI : I d₁ := ⟨hinv.step hlegal hio, hlocked⟩
  have hsome : (run Daemon.io d₁ after).isSome := by
    refine run_isSome_iff.mpr (along_of_invariant hkeeps ?_ hI (hrest d₁ hio))
    intro t j ht hj
    exact (ht.1.io_isSome_iff hj.1).mpr (Daemon.not_fatal ht.2.1.vacant)
  obtain ⟨d', hrun'⟩ := Option.isSome_iff_exists.mp hsome
  obtain ⟨-, hend, hopened, hworld⟩ := run_invariant hkeeps hI (hrest d₁ hio) hrun'
  refine ⟨d', ?_, hend.vacant, hopened, hworld⟩
  rw [run_cons, show d.io i = some d₁ from hio]
  exact hrun'

end numbers

/-- The kernel refuses to watch the first client; two others come, who get the same number. -/
def refusedClients : List IoEvent :=
  [⟨3, epollIn, some 5, .block (fun _ => 0) false, false, .error, .obliging, 0⟩,
    ⟨3, epollIn, some 5, .block (fun _ => 0) false, true, .error, .obliging, 0⟩,
    ⟨3, epollIn, some 5, .block (fun _ => 0) false, true, .error, .obliging, 0⟩]

def otherNumber : IoEvent := ⟨3, epollIn, some 6, .block (fun _ => 0) false, true, .error, .obliging, 0⟩

set_option maxRecDepth 10000 in
theorem takes_iff_untried_refusedClients :
    ∃ d, run (@Daemon.io lp64) (.init 4 3) (refusedClients.take 2) = some d ∧
      ¬ d.Takes (@IoEvent.epoll lp64 (refusedClients.getD 2 otherNumber)).out 5 ∧
      d.Takes (@IoEvent.epoll lp64 otherNumber).out 6 := by
  refine ⟨_, rfl, ?_, ?_⟩
  · rw [@takes_iff_untried lp64 _ (refusedClients.getD 2 otherNumber) (refusedClients.take 2) 5 4 3
      (by decide) (by decide) (by decide) (by decide) rfl (by decide)
      ⟨rfl, by decide, by decide, rfl⟩ rfl]
    rintro ⟨-, -, -, huntried, -⟩
    exact huntried (@Daemon.Tries.mk lp64 _ _ _ ⟨rfl, by decide, by decide, rfl⟩ rfl rfl)
  · decide

set_option maxRecDepth 10000 in
theorem clients_le_errorAndNext :
    Transition.total (@Daemon.io lp64) (fun d i => if @Daemon.Fills lp64 d i then 1 else 0) (.init 4 3)
        errorAndNext = 2 ∧
      Transition.total (@Daemon.io lp64) (fun d i => if @Daemon.Fills lp64 d i then 1 else 0) (.init 4 3)
        errorAndNext ≤ maxNfds - 2 := by
  obtain ⟨d, hrun⟩ : ∃ d, run (@Daemon.io lp64) (.init 4 3) errorAndNext = some d := ⟨_, rfl⟩
  refine ⟨by decide, ?_⟩
  exact @clients_le lp64 d errorAndNext 4 3 (by decide) (by decide) (by decide) (by decide) hrun

set_option maxRecDepth 10000 in
theorem locked_out_refusedClients :
    ∃ d', run (@Daemon.io lp64) (.init 4 3) refusedClients = some d' ∧ d'.ioFd0 = 0 ∧
      d'.opened = ∅ := by
  obtain ⟨d', hrun, hvacant, hopened, -⟩ := @locked_out lp64 (.init 4 3)
    ⟨3, epollIn, some 5, .block (fun _ => 0) false, false, .error, .obliging, 0⟩ [] (refusedClients.drop 1)
    {0, 1, 2, 3, 4} 5 4 3 (by decide) (by decide) (by decide) (by decide) rfl
    ⟨rfl, by decide, by decide, rfl⟩ rfl rfl (by decide) (by decide)
  exact ⟨d', hrun, hvacant, hopened⟩

end Bluetoothd

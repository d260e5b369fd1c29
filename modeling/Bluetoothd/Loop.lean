import Bluetoothd.Lib.Transition
import Mathlib.Data.Finset.Basic
import Mathlib.Data.Int.Notation

/-!
# The event loop's descriptor table (`loop.c`)

`fd_state` caches, for each of the first 64 descriptors, the event mask, handler and handler data
that were registered last. `add_fd_to_epoll_loop` takes a non-zero cached mask to mean that the
kernel's epoll set has the descriptor and chooses between `EPOLL_CTL_ADD` and `EPOLL_CTL_MOD` by it.
`F` is the type of handlers and `D` that of the data they are called with.
-/

namespace Bluetoothd

open Transition

structure FdState (F D : Type) where
  events : UInt32
  fd : Nat
  func : Option F
  data : Option D

structure Loop (F D : Type) where
  fdState : Nat → FdState F D
  epoll : Finset Nat

def maxNfds : Nat := 64

inductive CtlOp where
  | add
  | mod
  | del
  deriving DecidableEq

/-- `epoll_ctl`: `EPOLL_CTL_ADD` fails on a present descriptor, the other operations on an absent
one, and any of them when the kernel is out of resources (`ok` is false). -/
def epollCtl (ok : Bool) (op : CtlOp) (fd : Nat) (epoll : Finset Nat) : Int × Finset Nat :=
  match op with
  | .add => if ok ∧ fd ∉ epoll then (0, insert fd epoll) else (-1, epoll)
  | .mod => if ok ∧ fd ∈ epoll then (0, epoll) else (-1, epoll)
  | .del => if ok ∧ fd ∈ epoll then (0, epoll.erase fd) else (-1, epoll)

variable {F D : Type}

namespace Loop

def start : Loop F D where
  fdState _ := ⟨0, 0, none, none⟩
  epoll := ∅

def setEntry (l : Loop F D) (fd : Nat) (entry : FdState F D) : Nat → FdState F D :=
  fun fd' => if fd' = fd then entry else l.fdState fd'

def ctlOp (l : Loop F D) (fd : Nat) : CtlOp :=
  if (l.fdState fd).events ≠ 0 then .mod else .add

end Loop

def addFdToEpollLoop (ok : Bool) (fd : Nat) (events : UInt32) (func : F) (data : Option D)
    (l : Loop F D) : Int × Loop F D :=
  if fd ≥ maxNfds then
    (-1, l) -- too many open file descriptors
  else
    let entry := { l.fdState fd with events := events, fd := fd }
    let (res, epoll) := epollCtl ok (l.ctlOp fd) fd l.epoll
    if res < 0 then
      (-1, ⟨l.setEntry fd entry, epoll⟩)
    else
      (0, ⟨l.setEntry fd { entry with func := some func, data := data }, epoll⟩)

def removeFdFromEpollLoop (ok : Bool) (fd : Nat) (l : Loop F D) : Loop F D :=
  { l with epoll := (epollCtl ok .del fd l.epoll).2 }

theorem epoll_remove (fd : Nat) (l : Loop F D) :
    (removeFdFromEpollLoop true fd l).epoll = l.epoll.erase fd := by
  unfold removeFdFromEpollLoop epollCtl
  by_cases hmem : fd ∈ l.epoll
  · simp [hmem]
  · simp [hmem]

theorem add_of_ge {l : Loop F D} {ok : Bool} {fd : Nat} {events : UInt32} {func : F}
    {data : Option D} (hfd : maxNfds ≤ fd) : addFdToEpollLoop ok fd events func data l = (-1, l) := by
  unfold addFdToEpollLoop
  rw [if_pos hfd]

theorem Loop.setEntry_self (l : Loop F D) (fd : Nat) : l.setEntry fd (l.fdState fd) = l.fdState := by
  funext fd'
  unfold Loop.setEntry
  by_cases heq : fd' = fd
  · rw [if_pos heq, heq]
  · rw [if_neg heq]

/-- The kernel accepts the operation that the table chooses for `fd`: it has resources, and the
cached mask says whether `fd` is a member of the epoll set. -/
def CtlAccepts (ok : Bool) (l : Loop F D) (fd : Nat) : Prop :=
  ok ∧ (fd ∈ l.epoll ↔ (l.fdState fd).events ≠ 0)

theorem epollCtl_ctlOp (ok : Bool) (l : Loop F D) (fd : Nat) :
    epollCtl ok (l.ctlOp fd) fd l.epoll = (0, insert fd l.epoll) ∧ CtlAccepts ok l fd ∨
      epollCtl ok (l.ctlOp fd) fd l.epoll = (-1, l.epoll) ∧ ¬ CtlAccepts ok l fd := by
  unfold epollCtl Loop.ctlOp CtlAccepts
  by_cases hevents : (l.fdState fd).events ≠ 0
  · rw [if_pos hevents]
    by_cases hmem : ok ∧ fd ∈ l.epoll
    · left
      simp [hmem, hevents]
    · right
      simp [hmem, hevents]
  · rw [if_neg hevents]
    by_cases hmem : ok ∧ fd ∉ l.epoll
    · left
      simp [hmem, hevents]
    · right
      simp [hmem, hevents]

/-- The entry is updated whether the kernel accepts the operation or not. -/
theorem add_of_lt {l : Loop F D} {fd : Nat} (hfd : fd < maxNfds) (ok : Bool) (events : UInt32)
    (func : F) (data : Option D) :
    addFdToEpollLoop ok fd events func data l
        = (0, ⟨l.setEntry fd ⟨events, fd, some func, data⟩, insert fd l.epoll⟩) ∧ CtlAccepts ok l fd ∨
      addFdToEpollLoop ok fd events func data l
        = (-1, ⟨l.setEntry fd { l.fdState fd with events := events, fd := fd }, l.epoll⟩) ∧
          ¬ CtlAccepts ok l fd := by
  unfold addFdToEpollLoop
  rw [if_neg (Nat.not_le.mpr hfd)]
  rcases epollCtl_ctlOp ok l fd with ⟨hctl, haccepts⟩ | ⟨hctl, hrefuses⟩
  · left
    rw [hctl]
    exact ⟨rfl, haccepts⟩
  · right
    rw [hctl]
    exact ⟨rfl, hrefuses⟩

theorem add_of_accepts {l : Loop F D} {fd : Nat} {events : UInt32} {func : F} {data : Option D}
    {ok : Bool} (hfd : fd < maxNfds) (h : CtlAccepts ok l fd) :
    addFdToEpollLoop ok fd events func data l
      = (0, ⟨l.setEntry fd ⟨events, fd, some func, data⟩, insert fd l.epoll⟩) := by
  rcases add_of_lt hfd ok events func data with ⟨hadd, -⟩ | ⟨-, hrefuses⟩
  · exact hadd
  · exact absurd h hrefuses

theorem add_nonneg_iff {l : Loop F D} {ok : Bool} {fd : Nat} {events : UInt32} {func : F}
    {data : Option D} :
    0 ≤ (addFdToEpollLoop ok fd events func data l).1 ↔ fd < maxNfds ∧ CtlAccepts ok l fd := by
  by_cases hfd : fd < maxNfds
  · rw [and_iff_right hfd]
    rcases add_of_lt (l := l) hfd ok events func data with ⟨hadd, haccepts⟩ | ⟨hadd, hrefuses⟩
    · rw [hadd]
      exact iff_of_true (le_refl 0) haccepts
    · rw [hadd]
      exact iff_of_false (show ¬ 0 ≤ (-1 : Int) by decide) hrefuses
  · rw [add_of_ge (Nat.not_lt.mp hfd)]
    exact iff_of_false (show ¬ 0 ≤ (-1 : Int) by decide) fun h => hfd h.1

/-- The mask is stored for a descriptor of the table, whatever the kernel says. -/
theorem events_add (ok : Bool) (fd : Nat) (events : UInt32) (func : F) (data : Option D)
    (l : Loop F D) (fd' : Nat) :
    ((addFdToEpollLoop ok fd events func data l).2.fdState fd').events =
      if fd' = fd ∧ fd < maxNfds then events else (l.fdState fd').events := by
  by_cases hfd : fd < maxNfds
  · have hentry : ∀ entry : FdState F D, entry.events = events →
        (l.setEntry fd entry fd').events =
          if fd' = fd ∧ fd < maxNfds then events else (l.fdState fd').events := by
      intro entry hevents
      by_cases heq : fd' = fd
      · rw [Loop.setEntry, if_pos heq, if_pos ⟨heq, hfd⟩, hevents]
      · rw [Loop.setEntry, if_neg heq, if_neg fun h => heq h.1]
    rcases add_of_lt (l := l) hfd ok events func data with ⟨hadd, -⟩ | ⟨hadd, -⟩
    · rw [hadd]
      exact hentry _ rfl
    · rw [hadd]
      exact hentry _ rfl
  · rw [add_of_ge (Nat.not_lt.mp hfd), if_neg fun h => hfd h.2]

/-- An `add` that fails leaves the handler of the descriptor and the epoll set as they were; one
that succeeds registers the descriptor, whether it was present or not. -/
theorem add_cases (ok : Bool) (fd : Nat) (events : UInt32) (func : F) (data : Option D)
    (l : Loop F D) :
    (∃ entry : FdState F D, entry.func = (l.fdState fd).func ∧ entry.data = (l.fdState fd).data ∧
      addFdToEpollLoop ok fd events func data l = (-1, ⟨l.setEntry fd entry, l.epoll⟩)) ∨
    (fd < maxNfds ∧ addFdToEpollLoop ok fd events func data l
      = (0, ⟨l.setEntry fd ⟨events, fd, some func, data⟩, insert fd l.epoll⟩)) := by
  by_cases hfd : fd < maxNfds
  · rcases add_of_lt hfd ok events func data with ⟨hadd, -⟩ | ⟨hadd, -⟩
    · right
      exact ⟨hfd, hadd⟩
    · left
      exact ⟨{ l.fdState fd with events := events, fd := fd }, rfl, rfl, hadd⟩
  · left
    refine ⟨l.fdState fd, rfl, rfl, ?_⟩
    rw [add_of_ge (Nat.not_lt.mp hfd), Loop.setEntry_self]

/-! ## Failed registrations -/

/-- A registration that fails leaves the whole table as it was, so that a later one of any
descriptor makes the choice that it would have made. -/
structure FailsWithoutTrace (ok : Bool) (fd : Nat) (events : UInt32) (func : F) (data : Option D)
    (l : Loop F D) : Prop where
  table : (addFdToEpollLoop ok fd events func data l).1 = -1 →
    (addFdToEpollLoop ok fd events func data l).2.fdState = l.fdState
  choice : (addFdToEpollLoop ok fd events func data l).1 = -1 →
    ∀ fd', (addFdToEpollLoop ok fd events func data l).2.ctlOp fd' = l.ctlOp fd'

theorem FdState.with_eq_iff {entry : FdState F D} {events : UInt32} {fd : Nat} :
    { entry with events := events, fd := fd } = entry ↔ entry.events = events ∧ entry.fd = fd := by
  obtain ⟨events', fd', func, data⟩ := entry
  simp only [FdState.mk.injEq, and_true]
  rw [eq_comm, eq_comm (a := fd)]

theorem Loop.setEntry_eq_iff (l : Loop F D) (fd : Nat) (entry : FdState F D) :
    l.setEntry fd entry = l.fdState ↔ entry = l.fdState fd := by
  constructor
  · intro h
    have hfd := congrFun h fd
    rwa [Loop.setEntry, if_pos rfl] at hfd
  · intro h
    rw [h, Loop.setEntry_self]

/-- **What a failed registration leaves behind.** The table is as it was if and only if the
descriptor is outside it, or the kernel accepts the operation, or the descriptor's entry already
had the mask of the failed registration. -/
theorem failsWithoutTrace_iff (ok : Bool) (fd : Nat) (events : UInt32) (func : F) (data : Option D)
    (l : Loop F D) :
    FailsWithoutTrace ok fd events func data l ↔
      maxNfds ≤ fd ∨ CtlAccepts ok l fd ∨
        ((l.fdState fd).events = events ∧ (l.fdState fd).fd = fd) := by
  by_cases hfd : maxNfds ≤ fd
  · refine iff_of_true ⟨?_, ?_⟩ (Or.inl hfd)
    · intro _
      rw [add_of_ge hfd]
    · intro _ fd'
      rw [add_of_ge hfd]
  rw [or_iff_right hfd]
  rcases add_of_lt (Nat.not_le.mp hfd) ok events func data with ⟨hadd, haccepts⟩ | ⟨hadd, hrefuses⟩
  · refine iff_of_true ⟨?_, ?_⟩ (Or.inl haccepts)
    · intro hfails
      rw [hadd] at hfails
      simp at hfails
    · intro hfails
      rw [hadd] at hfails
      simp at hfails
  · rw [or_iff_right hrefuses]
    constructor
    · intro h
      have htable := h.table (by rw [hadd])
      rw [hadd] at htable
      exact FdState.with_eq_iff.mp ((l.setEntry_eq_iff fd _).mp htable)
    · intro hsame
      rw [FdState.with_eq_iff.mpr hsame, Loop.setEntry_self] at hadd
      refine ⟨?_, ?_⟩
      · intro _
        rw [hadd]
      · intro _ fd'
        rw [hadd]

/-- The kernel refuses descriptor 5 once. The mask stays behind, and when the number comes round
again it is modified, which fails, where it would have been added. -/
theorem readd_after_refusal_fails :
    let start : Loop Unit Unit := Loop.start
    let after := (addFdToEpollLoop false 5 1 () none start).2
    (addFdToEpollLoop false 5 1 () none start).1 = -1 ∧ after.epoll = ∅ ∧
      start.ctlOp 5 = .add ∧ after.ctlOp 5 = .mod ∧
      (addFdToEpollLoop true 5 1 () none start).1 = 0 ∧
      (addFdToEpollLoop true 5 1 () none after).1 = -1 ∧
      ¬ FailsWithoutTrace false 5 1 () none start := by
  refine ⟨by decide, by decide, by decide, by decide, by decide, by decide, ?_⟩
  intro h
  have hchoice := h.choice (by decide) 5
  revert hchoice
  decide

/-! ## The table as a mirror of the epoll set -/

inductive LoopCall (F D : Type) where
  | add (fd : Nat) (events : UInt32) (func : F) (data : Option D)
  | remove (fd : Nat)

def Loop.call (l : Loop F D) : LoopCall F D → Int × Loop F D
  | .add fd events func data => addFdToEpollLoop true fd events func data l
  | .remove fd => (0, removeFdFromEpollLoop true fd l)

def Loop.step (l : Loop F D) (c : LoopCall F D) : Option (Loop F D) := some (l.call c).2

/-- Descriptors are in range and masks are non-zero. -/
def ValidCall (_ : Loop F D) : LoopCall F D → Prop
  | .add fd events _ _ => fd < maxNfds ∧ events ≠ 0
  | .remove fd => fd < maxNfds

/-- A mask is non-zero exactly for the members of the epoll set. -/
def Mirrors (l : Loop F D) : Prop :=
  ∀ fd < maxNfds, (l.fdState fd).events ≠ 0 ↔ fd ∈ l.epoll

/-- After the call the table mirrors the epoll set, and an `add` has chosen `EPOLL_CTL_MOD` exactly
for a present descriptor and has not failed. -/
structure CallMirrors (l : Loop F D) (c : LoopCall F D) : Prop where
  mirrors : Mirrors (l.call c).2
  choice : ∀ fd events func data, c = .add fd events func data →
    (l.ctlOp fd = .mod ↔ fd ∈ l.epoll) ∧ (l.call c).1 = 0

/-- The call does not remove a member of the epoll set. -/
def RemovesNoMember (l : Loop F D) : LoopCall F D → Prop
  | .add _ _ _ _ => True
  | .remove fd => fd ∉ l.epoll

instance (l : Loop F D) : DecidablePred (ValidCall l)
  | .add fd events _ _ => inferInstanceAs (Decidable (fd < maxNfds ∧ events ≠ 0))
  | .remove fd => inferInstanceAs (Decidable (fd < maxNfds))

instance (l : Loop F D) : DecidablePred (RemovesNoMember l)
  | .add _ _ _ _ => inferInstanceAs (Decidable True)
  | .remove fd => inferInstanceAs (Decidable (fd ∉ l.epoll))

theorem Mirrors.start : Mirrors (Loop.start (F := F) (D := D)) := by
  intro fd _
  simp [Loop.start]

theorem Mirrors.ctlOp_eq_mod {l : Loop F D} (h : Mirrors l) {fd : Nat} (hfd : fd < maxNfds) :
    l.ctlOp fd = .mod ↔ fd ∈ l.epoll := by
  rw [← h fd hfd, Loop.ctlOp]
  split_ifs with hev
  · exact iff_of_true rfl hev
  · exact iff_of_false (by simp) hev

theorem add_of_empty {l : Loop F D} {fd : Nat} {events : UInt32} {func : F} {data : Option D}
    (hfd : fd < maxNfds) (hevents : (l.fdState fd).events = 0) (hepoll : fd ∉ l.epoll) :
    addFdToEpollLoop true fd events func data l
      = (0, ⟨l.setEntry fd ⟨events, fd, some func, data⟩, insert fd l.epoll⟩) := by
  exact add_of_accepts hfd ⟨rfl, by simp [hevents, hepoll]⟩

theorem add_of_mirrors {l : Loop F D} (h : Mirrors l) {fd : Nat} {events : UInt32} {func : F}
    {data : Option D} (hfd : fd < maxNfds) :
    addFdToEpollLoop true fd events func data l
      = (0, ⟨l.setEntry fd ⟨events, fd, some func, data⟩, insert fd l.epoll⟩) := by
  exact add_of_accepts hfd ⟨rfl, (h fd hfd).symm⟩

theorem mirrors_setEntry {l : Loop F D} (h : Mirrors l) {fd : Nat} {entry : FdState F D}
    (hev : entry.events ≠ 0) : Mirrors ⟨l.setEntry fd entry, insert fd l.epoll⟩ := by
  intro fd' hfd'
  rw [Finset.mem_insert, ← h fd' hfd']
  by_cases heq : fd' = fd
  · simp [Loop.setEntry, heq, hev]
  · simp [Loop.setEntry, heq]

/-- Removing a member leaves its mask behind. -/
theorem not_mirrors_remove {l : Loop F D} (h : Mirrors l) {fd : Nat} (hfd : fd < maxNfds)
    (hmem : fd ∈ l.epoll) : ¬ Mirrors (removeFdFromEpollLoop true fd l) := by
  intro hafter
  have hev : (l.fdState fd).events ≠ 0 := (h fd hfd).mpr hmem
  have := (hafter fd hfd).mp hev
  simp [removeFdFromEpollLoop, epollCtl, hmem] at this

theorem callMirrors_iff {l : Loop F D} (h : Mirrors l) {c : LoopCall F D} (hvalid : ValidCall l c) :
    CallMirrors l c ↔ RemovesNoMember l c := by
  cases c with
  | add fd events func data =>
    obtain ⟨hfd, hev⟩ := hvalid
    have hadd : addFdToEpollLoop true fd events func data l
        = (0, ⟨l.setEntry fd ⟨events, fd, some func, data⟩, insert fd l.epoll⟩) :=
      add_of_mirrors h hfd
    refine iff_of_true ⟨?_, ?_⟩ trivial
    · rw [Loop.call, hadd]
      exact mirrors_setEntry h hev
    · intro fd' events' func' data' heq
      obtain ⟨rfl, -⟩ := LoopCall.add.inj heq
      rw [Loop.call, hadd]
      exact ⟨h.ctlOp_eq_mod hfd, rfl⟩
  | remove fd =>
    constructor
    · intro hcall hmem
      exact not_mirrors_remove h hvalid hmem hcall.mirrors
    · intro habsent
      refine ⟨?_, ?_⟩
      · simpa [Loop.call, removeFdFromEpollLoop, epollCtl, show fd ∉ l.epoll from habsent] using h
      · intro fd' events func data heq
        simp at heq

/-- **The table mirrors the epoll set** after every call of a run, and no `add` of it fails, if and
only if no call of the run removes a descriptor that is in the epoll set. -/
theorem along_callMirrors_iff {calls : List (LoopCall F D)}
    (hvalid : Along Loop.step ValidCall Loop.start calls) :
    Along Loop.step CallMirrors Loop.start calls ↔
      Along Loop.step RemovesNoMember Loop.start calls := by
  refine along_iff (I := Mirrors) ?_ (fun l c hl hc => callMirrors_iff hl hc) Mirrors.start hvalid
  intro l c l' hl hc hno hstep
  obtain rfl : (l.call c).2 = l' := Option.some_inj.mp hstep
  exact ((callMirrors_iff hl hc).mpr hno).mirrors

section examples

/-- A descriptor is added and removed; when its number comes round again, adding it fails. -/
theorem readd_after_remove_fails :
    let calls : List (LoopCall Unit Unit) := [.add 5 1 () none, .remove 5]
    Along Loop.step ValidCall Loop.start calls ∧ ¬ Along Loop.step CallMirrors Loop.start calls ∧
      ((run Loop.step Loop.start calls).map fun l => (l.call (.add 5 1 () none)).1) = some (-1) := by
  refine ⟨by decide, ?_, by decide⟩
  intro h
  obtain ⟨-, hrest⟩ := h
  have hmirrors := (hrest _ rfl).1.mirrors 5 (by decide)
  revert hmirrors
  decide

theorem along_callMirrors_iff_add_twice :
    Along Loop.step CallMirrors Loop.start
      ([.remove 7, .add 5 1 () none, .add 5 3 () none] : List (LoopCall Unit Unit)) :=
  (along_callMirrors_iff (by decide)).mpr (by decide)

end examples

end Bluetoothd

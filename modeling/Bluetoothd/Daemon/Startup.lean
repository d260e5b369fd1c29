import Bluetoothd.Daemon.Control

/-!
# The program (`main.c`)

`main` runs `epoll_loop` with `init`, which sets up the task queue and the listening socket, and
exits when that returns. All that the descriptors of the process go through is in a log, and
`epoll_wait` returns one list of events after the other, or fails.
-/

namespace Bluetoothd

open Platform Transition

structure Startup where
  epollCreate : Option Nat
  /-- The read end and the write end. -/
  pipe : Option (Nat × Nat)
  controlSocket : Option Nat
  listen : Bool
  /-- Whether `epoll_ctl` has the resources it needs, for the pipe and for the listening socket. -/
  pipeCtl : Bool
  listenCtl : Bool

inductive FdEvent where
  | obtained (fd : Nat)
  | closed (fd : Nat)
  deriving DecidableEq

structure Process where
  pipefd : Nat × Nat
  daemon : Daemon
  fds : List FdEvent

def Daemon.boot : Daemon where
  ioFd0 := 0
  ioFd1 := 0
  loop := Loop.start
  rbufs _ := none
  creates := 0
  world := .empty
  opened := ∅
  connected := ∅

def Process.boot : Process := ⟨(0, 0), .boot, []⟩

namespace Process

variable (p : Process)

def obtain (fd : Nat) : Process := { p with fds := p.fds ++ [.obtained fd] }

def close (fd : Nat) : Process := { p with daemon := p.daemon.close fd, fds := p.fds ++ [.closed fd] }

def closeEpoll (epfd : Nat) : Process :=
  { p with
    daemon := { p.daemon with loop := { p.daemon.loop with epoll := ∅ } }
    fds := p.fds ++ [.closed epfd] }

def add (ok : Bool) (fd : Nat) (func : EventFunc) : Int × Process :=
  let (res, loop) := addFdToEpollLoop ok fd (epollIn ||| epollErr) func none p.daemon.loop
  (res, { p with daemon := { p.daemon with loop := loop } })

end Process

/-! ## Starting -/

def uninitTaskQueue (p : Process) : Process := (p.close p.pipefd.2).close p.pipefd.1

def initTaskQueue (s : Startup) (p : Process) : Int × Process :=
  match s.pipe with
  | none => (-1, p)
  | some pipefd =>
    let p := { (p.obtain pipefd.1).obtain pipefd.2 with pipefd := pipefd }
    let (res, p) := p.add s.pipeCtl pipefd.1 .execTask
    if res < 0 then (-1, (p.close p.pipefd.2).close p.pipefd.1) else (0, p)

def initBtIo (s : Startup) (p : Process) : Int × Process :=
  match s.controlSocket with
  | none => (-1, p)
  | some fd =>
    let p := p.obtain fd
    if s.listen then
      let (res, p) := p.add s.listenCtl fd .fdEvent
      if res < 0 then (-1, p.close fd) else (0, p)
    else (-1, p.close fd)

def initProcess (s : Startup) (p : Process) : Int × Process :=
  let (res, p) := initTaskQueue s p
  if res < 0 then
    (-1, p)
  else
    let (res, p) := initBtIo s p
    if res < 0 then (-1, uninitTaskQueue p) else (0, p)

section program

variable [Platform]

/-! ## Running -/

/-- `epoll_loop_iteration`; `wait` is what `epoll_wait` returns. -/
def epollLoopIteration (wait : Option (List EpollEvent)) (d : Daemon) : Option (Int × Daemon) :=
  match wait with
  | none => some (-1, d)
  | some events => (run Daemon.dispatch d events).map fun d => (0, d)

def epollLoopIterations : List (Option (List EpollEvent)) → Daemon → Option (Option Int × Daemon)
  | [], d => some (none, d)
  | wait :: waits, d => do
    let (res, d) ← epollLoopIteration wait d
    if res = 0 then epollLoopIterations waits d else return (some res, d)

/-- What `epoll_loop` returns when its loop is left; it closes the epoll instance. -/
def Process.leaveLoop (p : Process) (epfd : Nat) : Option Int → Option Int × Process
  | none => (none, p)
  | some res => (some (if res < 0 then -1 else 0), p.closeEpoll epfd)

/-- `epoll_loop`: its result, unless it waits for the next events. -/
def epollLoop (s : Startup) (waits : List (Option (List EpollEvent))) (p : Process) :
    Option (Option Int × Process) :=
  match s.epollCreate with
  | none => some (some (-1), p)
  | some epfd => do
    let (res, p) := initProcess s (p.obtain epfd)
    if res < 0 then
      return (some (-1), p.closeEpoll epfd)
    let (res, d) ← epollLoopIterations waits p.daemon
    return Process.leaveLoop { p with daemon := d } epfd res

def exitSuccess : Nat := 0
def exitFailure : Nat := 1

/-- `main`: the exit status, unless it waits for the next events. -/
def main (s : Startup) (waits : List (Option (List EpollEvent))) : Option (Option Nat × Process) :=
  (epollLoop s waits .boot).map fun (res, p) =>
    (res.map fun res => if res < 0 then exitFailure else exitSuccess, p)

end program

/-! ## What the start does -/

def Startup.HasTaskQueue (s : Startup) (r w : Nat) : Prop :=
  s.pipe = some (r, w) ∧ r < maxNfds ∧ s.pipeCtl

def Startup.HasSocket (s : Startup) (fd : Nat) : Prop :=
  s.controlSocket = some fd ∧ s.listen ∧ fd < maxNfds ∧ s.listenCtl

/-- Everything that was obtained has been closed again, the last one first. -/
def Unwound (evs : List FdEvent) : Prop :=
  ∃ fds : List Nat, evs = fds.map .obtained ++ fds.reverse.map .closed

section start

variable {s : Startup} {p p' : Process} {r w fd : Nat}

/-- With a table that mirrors the epoll set, a descriptor is added if the kernel has the resources
and it fits into the table. -/
theorem Process.add_cases (hmirrors : Mirrors p.daemon.loop) (ok : Bool) (fd : Nat) (func : EventFunc) :
    ((fd < maxNfds ∧ ok) ∧ p.add ok fd func = (0, { p with
      daemon := { p.daemon with
        loop := (addFdToEpollLoop true fd (epollIn ||| epollErr) func none p.daemon.loop).2 } }) ∧
      Mirrors (addFdToEpollLoop true fd (epollIn ||| epollErr) func none p.daemon.loop).2) ∨
    (¬ (fd < maxNfds ∧ ok) ∧ ∃ fdState, p.add ok fd func = (-1, { p with
      daemon := { p.daemon with loop := ⟨fdState, p.daemon.loop.epoll⟩ } })) := by
  by_cases hfd : fd < maxNfds
  · cases ok with
    | true =>
      left
      have hadd : addFdToEpollLoop true fd (epollIn ||| epollErr) func (none : Option Nat)
          p.daemon.loop = (0, ⟨p.daemon.loop.setEntry fd _, insert fd p.daemon.loop.epoll⟩) :=
        add_of_mirrors hmirrors hfd
      have hevents : epollIn ||| epollErr ≠ 0 := by decide
      refine ⟨⟨hfd, rfl⟩, ?_, ?_⟩
      · unfold Process.add
        rw [hadd]
      · rw [hadd]
        exact mirrors_setEntry hmirrors hevents
    | false =>
      right
      refine ⟨by simp, ?_⟩
      unfold Process.add
      rcases add_of_lt (l := p.daemon.loop) hfd false (epollIn ||| epollErr) func none with
        ⟨-, haccepts⟩ | ⟨hadd, -⟩
      · exact absurd haccepts.1 (by decide)
      · rw [hadd]
        exact ⟨_, rfl⟩
  · right
    refine ⟨fun hx => hfd hx.1, p.daemon.loop.fdState, ?_⟩
    unfold Process.add
    rw [add_of_ge (Nat.not_lt.mp hfd)]

theorem unwound_nil : Unwound [] := ⟨[], rfl⟩

theorem initTaskQueue_cases (s : Startup) (hboot : p.daemon = .boot) :
    (∃ r w, s.HasTaskQueue r w ∧ ∃ p', initTaskQueue s p = (0, p') ∧ p'.pipefd = (r, w) ∧
      p'.fds = p.fds ++ [.obtained r, .obtained w] ∧ p'.daemon = { Daemon.boot with
        loop := (addFdToEpollLoop true r (epollIn ||| epollErr) .execTask none Loop.start).2 } ∧
      Mirrors p'.daemon.loop) ∨
    ((∀ r w, ¬ s.HasTaskQueue r w) ∧ ∃ p' evs, initTaskQueue s p = (-1, p') ∧
      p'.fds = p.fds ++ evs ∧ Unwound evs) := by
  unfold initTaskQueue Startup.HasTaskQueue
  rcases hpipe : s.pipe with _ | ⟨r, w⟩
  · right
    refine ⟨fun r w hx => ?_, p, [], rfl, (List.append_nil _).symm, unwound_nil⟩
    cases hx.1
  dsimp only
  have hmirrors : Mirrors (Process.daemon { (p.obtain r).obtain w with pipefd := (r, w) }).loop := by
    show Mirrors p.daemon.loop
    rw [hboot]
    exact Mirrors.start
  rcases Process.add_cases hmirrors s.pipeCtl r .execTask with
    ⟨⟨hfd, hctl⟩, hadd, hafter⟩ | ⟨hrefused, fdState, hadd⟩
  · left
    refine ⟨r, w, ⟨rfl, hfd, hctl⟩, ?_⟩
    rw [hadd]
    refine ⟨_, if_neg (lt_irrefl 0), rfl, ?_, ?_, hafter⟩
    · show (p.fds ++ [_]) ++ [_] = _
      rw [List.append_assoc]
      rfl
    · show ({ p.daemon with
        loop := (addFdToEpollLoop true r (epollIn ||| epollErr) EventFunc.execTask none
          p.daemon.loop).2 } : Daemon) = _
      rw [hboot]
      rfl
  · right
    have hneg : (-1 : Int) < 0 := by decide
    refine ⟨fun r' w' hx => ?_, ?_⟩
    · cases hx.1
      exact hrefused hx.2
    · rw [hadd]
      refine ⟨_, [.obtained r, .obtained w, .closed w, .closed r], if_pos hneg, ?_, [r, w], rfl⟩
      show (((p.fds ++ [_]) ++ [_]) ++ [_]) ++ [_] = _
      simp

theorem initBtIo_cases (s : Startup) (hmirrors : Mirrors p.daemon.loop) :
    (∃ fd, s.HasSocket fd ∧ initBtIo s p = (0, { p with
      daemon := { p.daemon with
        loop := (addFdToEpollLoop true fd (epollIn ||| epollErr) .fdEvent none p.daemon.loop).2 }
      fds := p.fds ++ [.obtained fd] })) ∨
    ((∀ fd, ¬ s.HasSocket fd) ∧ ∃ p' evs, initBtIo s p = (-1, p') ∧ p'.pipefd = p.pipefd ∧
      p'.fds = p.fds ++ evs ∧ Unwound evs) := by
  unfold initBtIo Startup.HasSocket
  rcases s.controlSocket with _ | fd
  · right
    refine ⟨fun fd hx => ?_, p, [], rfl, rfl, (List.append_nil _).symm, unwound_nil⟩
    cases hx.1
  dsimp only
  have hclosed : p.fds ++ [.obtained fd] ++ [.closed fd] = p.fds ++ [.obtained fd, .closed fd] := by
    simp
  by_cases hlisten : s.listen
  · rw [if_pos hlisten]
    rcases Process.add_cases (p := p.obtain fd) hmirrors s.listenCtl fd .fdEvent with
      ⟨⟨hfd, hctl⟩, hadd, -⟩ | ⟨hrefused, fdState, hadd⟩
    · left
      refine ⟨fd, ⟨rfl, hlisten, hfd, hctl⟩, ?_⟩
      rw [hadd]
      exact if_neg (lt_irrefl 0)
    · right
      have hneg : (-1 : Int) < 0 := by decide
      refine ⟨fun fd' hx => ?_, ?_⟩
      · cases hx.1
        exact hrefused hx.2.2
      · rw [hadd]
        exact ⟨_, _, if_pos hneg, rfl, hclosed, [fd], rfl⟩
  · right
    rw [if_neg hlisten]
    refine ⟨fun fd' hx => hlisten hx.2.1, ?_⟩
    exact ⟨_, _, rfl, rfl, hclosed, [fd], rfl⟩

/-- Obtaining more first, and closing it last, unwinds as well. -/
theorem Unwound.nest {evs : List FdEvent} (h : Unwound evs) (fds : List Nat) :
    Unwound (fds.map .obtained ++ evs ++ fds.reverse.map .closed) := by
  obtain ⟨inner, rfl⟩ := h
  refine ⟨fds ++ inner, ?_⟩
  simp

theorem initProcess_cases (s : Startup) (hboot : p.daemon = .boot) :
    (∃ r w fd, (s.HasTaskQueue r w ∧ s.HasSocket fd) ∧ ∃ p', initProcess s p = (0, p') ∧
      p'.fds = p.fds ++ [.obtained r, .obtained w, .obtained fd] ∧ p'.daemon = .init r fd) ∨
    ((∀ r w fd, ¬ (s.HasTaskQueue r w ∧ s.HasSocket fd)) ∧ ∃ p' evs, initProcess s p = (-1, p') ∧
      p'.fds = p.fds ++ evs ∧ Unwound evs) := by
  have hneg : (-1 : Int) < 0 := by decide
  unfold initProcess
  rcases initTaskQueue_cases s hboot with
    ⟨r, w, hqueue, p₁, hinit, hpipefd, hfds, hdaemon, hmirrors⟩ | ⟨hqueue, p₁, evs, hinit, hfds, hevs⟩
  · rw [hinit]
    dsimp only
    rw [if_neg (lt_irrefl 0)]
    rcases initBtIo_cases s hmirrors with ⟨fd, hsocket, hio⟩ |
      ⟨hsocket, p₂, evs, hio, hpipefd', hfds', hevs⟩
    · left
      refine ⟨r, w, fd, ⟨hqueue, hsocket⟩, ?_⟩
      rw [hio]
      refine ⟨_, if_neg (lt_irrefl 0), ?_, ?_⟩
      · show p₁.fds ++ [_] = _
        rw [hfds]
        simp
      · show ({ p₁.daemon with
          loop := (addFdToEpollLoop true fd (epollIn ||| epollErr) EventFunc.fdEvent none
            p₁.daemon.loop).2 } : Daemon) = _
        rw [hdaemon]
        rfl
    · right
      refine ⟨fun r w fd hx => hsocket fd hx.2, ?_⟩
      rw [hio]
      refine ⟨_, [.obtained r, .obtained w] ++ evs ++ [.closed w, .closed r], if_pos hneg, ?_,
        hevs.nest [r, w]⟩
      show (p₂.fds ++ [.closed p₂.pipefd.2]) ++ [.closed p₂.pipefd.1] = _
      rw [hpipefd', hpipefd, hfds', hfds]
      simp
  · right
    refine ⟨fun r w fd hx => hqueue r w hx.1, ?_⟩
    rw [hinit]
    exact ⟨p₁, evs, if_pos hneg, hfds, hevs⟩

end start

/-! ## What the program does -/

def Startup.Boots (s : Startup) (epfd r w fd : Nat) : Prop :=
  s.epollCreate = some epfd ∧ s.HasTaskQueue r w ∧ s.HasSocket fd

theorem Startup.Boots.unique {s : Startup} {epfd r w fd epfd' r' w' fd' : Nat}
    (h : s.Boots epfd r w fd)
    (h' : s.Boots epfd' r' w' fd') : epfd' = epfd ∧ r' = r ∧ w' = w ∧ fd' = fd := by
  have hepfd := Option.some_inj.mp (h'.1.symm.trans h.1)
  have hpipe := Option.some_inj.mp (h'.2.1.1.symm.trans h.2.1.1)
  have hfd := Option.some_inj.mp (h'.2.2.1.symm.trans h.2.2.1)
  cases hpipe
  exact ⟨hepfd, rfl, rfl, hfd⟩

section program

variable [Platform] {s : Startup} {waits : List (Option (List EpollEvent))} {d d' : Daemon}
  {epfd r w fd : Nat}

theorem epollLoopIterations_events (batches : List (List EpollEvent)) (d : Daemon) :
    epollLoopIterations (batches.map some ++ waits) d =
      (run Daemon.dispatch d batches.flatten).bind (epollLoopIterations waits) := by
  induction batches generalizing d with
  | nil => rfl
  | cons events batches ih =>
    show ((run Daemon.dispatch d events).map _).bind _ = _
    rw [List.flatten_cons, run_append]
    cases run Daemon.dispatch d events with
    | none => rfl
    | some d => exact ih d

/-- The loop waits after the events, or leaves with an error when `epoll_wait` fails, if it gets
there. -/
theorem epollLoopIterations_cases (waits : List (Option (List EpollEvent))) (d : Daemon) :
    ∃ batches : List (List EpollEvent),
      (waits = batches.map some ∧ epollLoopIterations waits d =
        (run Daemon.dispatch d batches.flatten).map fun d' => (none, d')) ∨
      ∃ rest : List (Option (List EpollEvent)), waits = batches.map some ++ none :: rest ∧
        epollLoopIterations waits d =
          (run Daemon.dispatch d batches.flatten).map fun d' => (some (-1), d') := by
  have hwaits : ∃ batches : List (List EpollEvent), waits = batches.map some ∨
      ∃ rest : List (Option (List EpollEvent)), waits = batches.map some ++ none :: rest := by
    induction waits with
    | nil => exact ⟨[], .inl rfl⟩
    | cons wait waits ih =>
      cases wait with
      | none => exact ⟨[], .inr ⟨waits, rfl⟩⟩
      | some events =>
        obtain ⟨batches, rfl | ⟨rest, rfl⟩⟩ := ih
        · exact ⟨events :: batches, .inl rfl⟩
        · exact ⟨events :: batches, .inr ⟨rest, rfl⟩⟩
  obtain ⟨batches, rfl | ⟨rest, rfl⟩⟩ := hwaits
  · refine ⟨batches, .inl ⟨rfl, ?_⟩⟩
    have hevents : epollLoopIterations (batches.map some) d = _ :=
      (congrArg (epollLoopIterations · d) (List.append_nil _)).symm.trans
        (epollLoopIterations_events batches d)
    rw [hevents]
    cases run Daemon.dispatch d batches.flatten <;> rfl
  · refine ⟨batches, .inr ⟨rest, rfl, ?_⟩⟩
    rw [epollLoopIterations_events]
    cases run Daemon.dispatch d batches.flatten <;> rfl

theorem epollLoop_cases (s : Startup) (waits : List (Option (List EpollEvent))) :
    (∃ epfd r w fd, s.Boots epfd r w fd ∧ ∃ p : Process, p.daemon = .init r fd ∧
      p.fds = [.obtained epfd, .obtained r, .obtained w, .obtained fd] ∧
      epollLoop s waits .boot = (epollLoopIterations waits (.init r fd)).map fun next =>
        Process.leaveLoop { p with daemon := next.2 } epfd next.1) ∨
    ((∀ epfd r w fd, ¬ s.Boots epfd r w fd) ∧
      ∃ p, epollLoop s waits .boot = some (some (-1), p) ∧ Unwound p.fds) := by
  unfold epollLoop Startup.Boots
  rcases s.epollCreate with _ | epfd
  · right
    refine ⟨fun epfd r w fd hx => ?_, .boot, rfl, unwound_nil⟩
    cases hx.1
  dsimp only
  rcases initProcess_cases (p := Process.boot.obtain epfd) s rfl with
    ⟨r, w, fd, hboots, p, hinit, hfds, hdaemon⟩ | ⟨hboots, p, evs, hinit, hfds, hevs⟩
  · left
    refine ⟨epfd, r, w, fd, ⟨rfl, hboots⟩, p, hdaemon, hfds, ?_⟩
    rw [hinit]
    dsimp only
    rw [if_neg (lt_irrefl 0), hdaemon]
    cases epollLoopIterations waits (.init r fd) <;> rfl
  · right
    have hneg : (-1 : Int) < 0 := by decide
    refine ⟨fun epfd' r w fd hx => hboots r w fd hx.2, ?_⟩
    rw [hinit]
    refine ⟨p.closeEpoll epfd, if_pos hneg, ?_⟩
    show Unwound (p.fds ++ [.closed epfd])
    rw [hfds]
    exact hevs.nest [epfd]

theorem main_events (hboots : s.Boots epfd r w fd) (batches : List (List EpollEvent)) :
    (main s (batches.map some)).map (fun next => (next.1, next.2.daemon)) =
      (run Daemon.dispatch (.init r fd) batches.flatten).map fun d => (none, d) := by
  unfold main
  rcases epollLoop_cases s (batches.map some) with
    ⟨epfd', r', w', fd', hboots', p, -, -, hloop⟩ | ⟨hfails, -⟩
  · obtain ⟨rfl, rfl, rfl, rfl⟩ := hboots.unique hboots'
    have hevents : epollLoopIterations (batches.map some) (.init r' fd') =
        (run Daemon.dispatch (.init r' fd') batches.flatten).bind (epollLoopIterations []) := by
      rw [← epollLoopIterations_events, List.append_nil]
    rw [hloop, hevents]
    cases run Daemon.dispatch (.init r' fd') batches.flatten <;> rfl
  · exact absurd hboots (hfails epfd r w fd)

/-- **The start is all or nothing.** If all its system calls succeed and the descriptors fit into the
event loop, `main` waits with the daemon of `Daemon.init` and keeps what it obtained. Otherwise it
exits with a failure, and it has closed all that it obtained, the last one first. -/
theorem start_all_or_nothing (s : Startup) (waits : List (Option (List EpollEvent))) :
    (∃ epfd r w fd, s.Boots epfd r w fd ∧ ∃ p, main s [] = some (none, p) ∧ p.daemon = .init r fd ∧
      p.fds = [.obtained epfd, .obtained r, .obtained w, .obtained fd]) ∨
    ((∀ epfd r w fd, ¬ s.Boots epfd r w fd) ∧
      ∃ p, main s waits = some (some exitFailure, p) ∧ Unwound p.fds) := by
  have hneg : (-1 : Int) < 0 := by decide
  unfold main
  by_cases hboots : ∃ epfd r w fd, s.Boots epfd r w fd
  · left
    rcases epollLoop_cases s [] with ⟨epfd, r, w, fd, hboots, p, hdaemon, hfds, hloop⟩ | ⟨hfails, -⟩
    · refine ⟨epfd, r, w, fd, hboots, { p with daemon := .init r fd }, ?_, rfl, hfds⟩
      rw [hloop]
      rfl
    · obtain ⟨epfd, r, w, fd, hboots⟩ := hboots
      exact absurd hboots (hfails epfd r w fd)
  · right
    rcases epollLoop_cases s waits with ⟨epfd, r, w, fd, hboots', -⟩ | ⟨hfails, p, hloop, hfds⟩
    · exact absurd ⟨epfd, r, w, fd, hboots'⟩ hboots
    · refine ⟨hfails, p, ?_, hfds⟩
      rw [hloop]
      exact congrArg (fun status => some (some status, p)) (if_pos hneg)

/-- **`main` does not succeed.** An event that was reported never returns, or `main` waits with a
daemon that has handled all events, or it exits with a failure: the start failed, or `epoll_wait` did
after some events that were handled. -/
theorem main_cases (s : Startup) (waits : List (Option (List EpollEvent))) :
    (main s waits = none ∧ ∃ epfd r w fd, s.Boots epfd r w fd ∧
      ∃ batches : List (List EpollEvent), batches.map some <+: waits ∧
        run Daemon.dispatch (.init r fd) batches.flatten = none) ∨
    (∃ p, main s waits = some (none, p) ∧ ∃ epfd r w fd, s.Boots epfd r w fd ∧
      ∃ batches : List (List EpollEvent), waits = batches.map some ∧
        run Daemon.dispatch (.init r fd) batches.flatten = some p.daemon) ∨
    ∃ p, main s waits = some (some exitFailure, p) ∧ ((∀ epfd r w fd, ¬ s.Boots epfd r w fd) ∨
      ∃ epfd r w fd, s.Boots epfd r w fd ∧
        ∃ (batches : List (List EpollEvent)) (rest : List (Option (List EpollEvent))),
          waits = batches.map some ++ none :: rest ∧
          (run Daemon.dispatch (.init r fd) batches.flatten).isSome) := by
  have hneg : (-1 : Int) < 0 := by decide
  unfold main
  rcases epollLoop_cases s waits with ⟨epfd, r, w, fd, hboots, p, -, -, hloop⟩ | ⟨hfails, p, hloop, -⟩
  · obtain ⟨batches, hiterations⟩ := epollLoopIterations_cases waits (.init r fd)
    rcases hrun : run Daemon.dispatch (.init r fd) batches.flatten with _ | d <;> rw [hrun] at hiterations
    · -- the loop does not get through the events
      rcases hiterations with ⟨hwaits, hnone⟩ | ⟨rest, hwaits, hnone⟩
      · rw [hloop, hnone]
        exact .inl ⟨rfl, epfd, r, w, fd, hboots, batches, hwaits ▸ List.prefix_refl _, hrun⟩
      · rw [hloop, hnone]
        exact .inl ⟨rfl, epfd, r, w, fd, hboots, batches, hwaits ▸ List.prefix_append _ _, hrun⟩
    · rcases hiterations with ⟨hwaits, hsome⟩ | ⟨rest, hwaits, hsome⟩
      · rw [hloop, hsome]
        exact .inr (.inl ⟨_, rfl, epfd, r, w, fd, hboots, batches, hwaits, hrun⟩)
      · rw [hloop, hsome]
        refine .inr (.inr ⟨_, rfl, .inr ⟨epfd, r, w, fd, hboots, batches, rest, hwaits, ?_⟩⟩)
        exact Option.isSome_iff_exists.mpr ⟨d, hrun⟩
  · rw [hloop]
    refine .inr (.inr ⟨p, ?_, .inl hfails⟩)
    exact congrArg (fun status => some (some status, p)) (if_pos hneg)

end program

def started : Startup := ⟨some 8, some (4, 9), some 3, true, true, true⟩

theorem started_boots : started.Boots 8 4 9 3 :=
  ⟨rfl, ⟨rfl, by decide, rfl⟩, rfl, rfl, by decide, rfl⟩

end Bluetoothd

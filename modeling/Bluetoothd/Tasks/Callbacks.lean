import Bluetoothd.Service.Notifications
import Bluetoothd.Tasks.Fifo

/-!
# Notifications through the task queue

A callback runs on a thread of the HAL. It builds its message there and hands it to the I/O thread as
a task, which sends it. `callbacks_stuck` says what becomes of this: a callback for which there is
memory never returns, and one for which there is none does nothing. No run queues or sends a
notification.
-/

namespace Bluetoothd

open Platform Transition

/-- What the callbacks and the tasks work on: the globals, the task queue, and the messages that tasks
point to. -/
structure Notifier [Platform] where
  world : World Handler
  queue : TaskQueue
  messages : Nat → Option Message

/-- A call of a callback, or of `exec_task`, with the outside in which it runs. `task` holds the
addresses of `send_ntf_pdu` and of the message. -/
inductive NotifierInput [Platform] where
  | callback (env : Env) (calls : Nat) (cb : Callback) (block : Malloc (Nat × Task))
      (res : WriteResult) (task : Task)
  | exec (stack : Nat → UInt8) (results : List ReadResult)

def sendNtfPdu (msg : Message) : Act Handler Unit := do
  let w ← Prog.get
  if w.btCoreIoSendPdu.isNone then
    return -- logged as an error
  else
    sendPdu World.btCoreIoSendPdu msg

section model

variable [Platform]

/-- The rest of a callback once its message is built: `run_task`, and `cleanup_pdu_wbuf` if that fails. -/
def Notifier.runTask (s : Notifier) (msg : Message) (block : Malloc (Nat × Task)) (res : WriteResult)
    (task : Task) : Option Notifier := do
  let (status, queue) ← Bluetoothd.runTask block res task s.queue
  if status < 0 then
    return { s with world := s.world.push (.free msg.wbuf.block), queue := queue }
  else
    return { s with queue := queue, messages := Function.update s.messages task.data (some msg) }

def Notifier.step (s : Notifier) : NotifierInput → Option Notifier
  | .callback env calls cb block res task =>
    match (notify env calls cb.notification).run s.world with
    | (.error _, _) => none
    | (.ok none, w) => some { s with world := w }
    | (.ok (some msg), w) => Notifier.runTask { s with world := w } msg block res task
  | .exec stack results => do
    let queue ← execTask stack results s.queue
    match queue.invoked.drop s.queue.invoked.length with
    | [] => some { s with queue := queue }
    | task :: _ => do
      let msg ← s.messages task.data
      match (sendNtfPdu msg).run s.world with
      | (.error _, _) => none
      | (.ok _, w) => some { s with world := w, queue := queue }

/-- What the queue requires of `malloc` and `read()`. -/
def LegalNotifier (s : Notifier) : NotifierInput → Prop
  | .callback _ _ _ block res task => LegalTask s.queue (.run block res task)
  | .exec stack results => LegalTask s.queue (.exec stack results)

def GetsMemory (s : Notifier) : NotifierInput → Prop
  | .callback env _ _ _ _ _ => (env.obtained s.world.mallocs).isSome
  | .exec _ _ => False

structure SameButMallocs (s s' : Notifier) : Prop where
  queue : s'.queue = s.queue
  messages : s'.messages = s.messages
  log : s'.world.log = s.world.log

variable {s s' : Notifier} {i : NotifierInput} {is : List NotifierInput}

theorem run_notify_noMem {env : Env} {w : World Handler} (h : env.obtained w.mallocs = none) (calls : Nat)
    (n : Notification) :
    (notify env calls n).run w = (.ok none, { w with mallocs := w.mallocs + 1 }) := by
  unfold notify
  rw [Prog.run_bind_ok (run_newPduWbuf_none h)]
  rfl

/-- With an empty pipe a step either never returns, or changes nothing but the count of allocations. -/
theorem Notifier.step_stuck (hpipe : s.queue.pipe = []) (hlegal : LegalNotifier s i) :
    (∃ s', s.step i = some s' ∧ SameButMallocs s s') ∧ ¬ GetsMemory s i ∨
      s.step i = none ∧ GetsMemory s i := by
  cases i with
  | callback env calls cb block res task =>
    unfold Notifier.step
    dsimp only
    rcases hmem : env.obtained s.world.mallocs with _ | mem
    · left
      rw [run_notify_noMem hmem]
      refine ⟨⟨_, rfl, rfl, rfl, rfl⟩, ?_⟩
      simp [GetsMemory, hmem]
    · right
      have hstuck := notify_stuck hmem calls cb
      rcases hrun : (notify env calls cb.notification).run s.world with ⟨out, w⟩
      rw [hrun] at hstuck
      obtain rfl : out = .error .callDepth := hstuck
      exact ⟨rfl, by simp [GetsMemory, hmem]⟩
  | exec stack results =>
    left
    unfold Notifier.step
    dsimp only
    rw [execTask_of_empty hpipe hlegal]
    refine ⟨⟨s, ?_, rfl, rfl, rfl⟩, id⟩
    show (match s.queue.invoked.drop s.queue.invoked.length with
      | [] => some { s with queue := s.queue }
      | task :: _ => _) = some s
    rw [List.drop_length]

theorem SameButMallocs.trans {s₁ : Notifier} (h : SameButMallocs s s₁) (h' : SameButMallocs s₁ s') :
    SameButMallocs s s' :=
  ⟨h'.queue.trans h.queue, h'.messages.trans h.messages, h'.log.trans h.log⟩

/-- **No notification is ever sent.** From an empty pipe, a run of callbacks and of `exec_task` goes on
to its end if and only if no callback in it gets memory, and then it has queued, released and sent
nothing. -/
theorem callbacks_stuck (hpipe : s.queue.pipe = []) (hlegal : Along Notifier.step LegalNotifier s is) :
    ((run Notifier.step s is).isSome ↔ Along Notifier.step (fun s i => ¬ GetsMemory s i) s is) ∧
      ∀ s', run Notifier.step s is = some s' → SameButMallocs s s' := by
  have hkeeps : ∀ s i s', s.queue.pipe = [] → LegalNotifier s i → Notifier.step s i = some s' →
      SameButMallocs s s' := by
    intro s i s' hpipe hlegal hstep
    rcases Notifier.step_stuck hpipe hlegal with ⟨⟨t, ht, hsame⟩, -⟩ | ⟨hnone, -⟩
    · obtain rfl := Option.some_inj.mp (ht.symm.trans hstep)
      exact hsame
    · cases hnone.symm.trans hstep
  constructor
  · rw [run_isSome_iff]
    refine along_iff (I := fun s => s.queue.pipe = []) ?_ ?_ hpipe hlegal
    · intro s i s' hpipe hlegal _ hstep
      rw [(hkeeps s i s' hpipe hlegal hstep).queue]
      exact hpipe
    · intro s i hpipe hlegal
      rcases Notifier.step_stuck hpipe hlegal with ⟨⟨t, ht, -⟩, hmem⟩ | ⟨hnone, hmem⟩
      · rw [ht]
        exact iff_of_true rfl hmem
      · rw [hnone]
        exact iff_of_false (by simp) (not_not_intro hmem)
  · intro s' hrun
    have hboth : s'.queue.pipe = [] ∧ SameButMallocs s s' := by
      refine run_invariant (I := fun t => t.queue.pipe = [] ∧ SameButMallocs s t) ?_
        ⟨hpipe, rfl, rfl, rfl⟩ hlegal hrun
      intro t i t' ht hlegal hstep
      have hsame := hkeeps t i t' ht.1 hlegal hstep
      exact ⟨by rw [hsame.queue]; exact ht.1, ht.2.trans hsame⟩
    exact hboth.2

end model

def idleNotifier : @Notifier lp64 := @Notifier.mk lp64 .registered emptyQueue fun _ => none

/-- The adapter changes its state while there is no memory, and `exec_task` cannot read the pipe. -/
def unnoticed : List (@NotifierInput lp64) :=
  [@NotifierInput.callback lp64 { Env.obliging with malloc := fun _ => .failed } 0 (.adapterStateChanged 1)
      (.block (4096, taskAt64) false) (.wrote 8) taskAt64,
    @NotifierInput.exec lp64 (fun _ => 0) [.error]]

theorem callbacks_stuck_unnoticed :
    ∃ s', run (@Notifier.step lp64) idleNotifier unnoticed = some s' ∧
      @SameButMallocs lp64 idleNotifier s' := by
  have hlegal : Along (@Notifier.step lp64) (@LegalNotifier lp64) idleNotifier unnoticed := by
    refine ⟨?_, fun _ _ => ⟨.inl rfl, fun _ _ => trivial⟩⟩
    intro block hblock
    cases hblock
    exact ⟨by decide, by decide +kernel, rfl⟩
  obtain ⟨hruns, hsame⟩ := @callbacks_stuck lp64 idleNotifier unnoticed rfl hlegal
  have hnoMem : Along (@Notifier.step lp64) (fun s i => ¬ @GetsMemory lp64 s i) idleNotifier unnoticed :=
    ⟨by simp [GetsMemory, Env.obtained, Malloc.obtained], fun _ _ => ⟨id, fun _ _ => trivial⟩⟩
  obtain ⟨s', hrun⟩ := Option.isSome_iff_exists.mp (hruns.mpr hnoMem)
  exact ⟨s', hrun, hsame s' hrun⟩

end Bluetoothd

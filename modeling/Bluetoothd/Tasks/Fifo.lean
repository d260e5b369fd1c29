import Bluetoothd.Tasks.Queue
import Mathlib.Data.List.Perm.Subperm

/-!
# Tasks in order

A task queue is meant to be a FIFO: `run_task` puts a task at its end or refuses it, and `exec_task`
calls the task at its front. `Represents` says which states of the code stand for which FIFO, and
`along_simulates_iff` in which runs the code does what the FIFO does.

`create_task` takes a `malloc` that leaves `errno` clear for a failed one, and `send_task` writes the
first word of the task in place of its address. A call of `run_task` is spared both errors if `malloc`
returns a block and sets `errno` as well, and the task's function is at the address of the block.
-/

namespace Bluetoothd

open Platform Buffer Transition

/-! ## The FIFO -/

structure Fifo [Platform] where
  pending : List Task
  invoked : List Task

section fifo

variable [Platform]

def Fifo.run (f : Fifo) (task : Task) (accepted : Bool) : Int × Fifo :=
  if accepted then (0, { f with pending := f.pending ++ [task] }) else (-1, f)

def Fifo.exec : Fifo → Fifo
  | ⟨[], invoked⟩ => ⟨[], invoked⟩
  | ⟨task :: pending, invoked⟩ => ⟨pending, invoked ++ [task]⟩

/-- The queue stands for the FIFO: the pipe has the addresses of the pending tasks in order, and no
other task is allocated. -/
def Represents (q : TaskQueue) (f : Fifo) : Prop :=
  q.invoked = f.invoked ∧ ∃ addresses : List Nat, addresses.Nodup ∧
    (∀ address ∈ addresses, 0 < address ∧ address < ulongSize) ∧
    q.pipe = addresses.flatMap (hostBytes wordBytes) ∧
    addresses.map q.heap = f.pending.map some ∧
    ∀ address, (q.heap address).isSome → address ∈ addresses

/-! ## Runs -/

/-- A call of `run_task` or `exec_task`, with what it gets from `malloc`, `write()` and `read()`. -/
inductive TaskInput where
  | run (block : Malloc (Nat × Task)) (res : WriteResult) (task : Task)
  | exec (stack : Nat → UInt8) (results : List ReadResult)

def TaskInput.IsRun : TaskInput → Prop
  | .run _ _ _ => True
  | .exec _ _ => False

instance : DecidablePred TaskInput.IsRun
  | .run _ _ _ => .isTrue trivial
  | .exec _ _ => .isFalse id

/-- The call is spared the errors of `create_task` and `send_task`. -/
def TaskInput.Spared : TaskInput → Prop
  | .run (.block (address, _) true) res task =>
    res = .error ∨ res = .wrote wordBytes ∧ task.func = address
  | .run _ _ _ => False
  | .exec _ _ => True

/-- `malloc` sets `errno` only when it fails. -/
def TaskInput.KeepsErrno : TaskInput → Prop
  | .run (.block _ true) _ _ => False
  | .run _ _ _ => True
  | .exec _ _ => True

def taskStep (q : TaskQueue) : TaskInput → Option TaskQueue
  | .run block res task => (runTask block res task q).map Prod.snd
  | .exec stack results => execTask stack results q

/-- `malloc` returns fresh blocks, and the reads of `exec_task` fail at once or return the first
word of the pipe in some pieces. -/
def LegalTask (q : TaskQueue) : TaskInput → Prop
  | .run block _ _ => ∀ b ∈ block.pointer, 0 < b.1 ∧ b.1 < ulongSize ∧ q.heap b.1 = none
  | .exec _ results => results = [.error] ∨ ∃ chunks : List (List UInt8), results = chunks.map .data ∧
    Served wordBytes chunks ∧ chunks.flatten.length = wordBytes ∧ chunks.flatten = q.pipe.take wordBytes

/-- The call does what it does on every FIFO that the queue stands for: `run_task` accepts the task
if its memory was allocated and its entry was written, and `exec_task` executes the first task
unless its `read()` failed. -/
def Simulates (q : TaskQueue) : TaskInput → Prop
  | .run block res task => ∀ f, Represents q f → ∃ q',
    runTask block res task q = some ((f.run task (block.pointer.isSome && res = .wrote wordBytes)).1, q') ∧
      Represents q' (f.run task (block.pointer.isSome && res = .wrote wordBytes)).2
  | .exec stack results => ∀ f, Represents q f → ∃ q', execTask stack results q = some q' ∧
    Represents q' (if received results = [] then f else f.exec)

end fifo

section simulation

variable [Platform] {q : TaskQueue} {f : Fifo}

theorem Represents.allocated (hq : Represents q f) : ∃ addresses : List Nat, addresses.Nodup ∧
    addresses.length = f.pending.length ∧ ∀ address, (q.heap address).isSome ↔ address ∈ addresses := by
  obtain ⟨-, addresses, hnodup, -, -, hheap, hdomain⟩ := hq
  refine ⟨addresses, hnodup, ?_, fun address => ⟨hdomain address, fun haddress => ?_⟩⟩
  · simpa using congrArg List.length hheap
  · have hmem : q.heap address ∈ f.pending.map some := by
      rw [← hheap]
      exact List.mem_map_of_mem haddress
    obtain ⟨task, -, htask⟩ := List.mem_map.mp hmem
    rw [← htask]
    rfl

theorem Represents.pipe_nil {invoked : List Task} (hq : Represents q ⟨[], invoked⟩) : q.pipe = [] := by
  obtain ⟨-, addresses, -, -, hpipe, hheap, -⟩ := hq
  rw [List.map_nil, List.map_eq_nil_iff] at hheap
  rw [hpipe, hheap, List.flatMap_nil]

theorem Represents.pop {task : Task} {pending invoked : List Task}
    (hq : Represents q ⟨task :: pending, invoked⟩) : ∃ address rest, 0 < address ∧
      address < ulongSize ∧ q.pipe = hostBytes wordBytes address ++ rest ∧
      q.heap address = some task ∧
      Represents { heap := Function.update q.heap address none, pipe := rest
                   invoked := q.invoked ++ [task] } ⟨pending, invoked ++ [task]⟩ := by
  obtain ⟨hinvoked, addresses, hnodup, hrange, hpipe, hheap, hdomain⟩ := hq
  cases addresses with
  | nil => cases hheap
  | cons address addresses =>
    rw [List.map_cons, List.map_cons, List.cons.injEq] at hheap
    obtain ⟨hlive, hheap⟩ := hheap
    obtain ⟨hnonzero, hword⟩ := hrange address List.mem_cons_self
    obtain ⟨hnotin, hnodup⟩ := List.nodup_cons.mp hnodup
    refine ⟨address, _, hnonzero, hword, hpipe, hlive, congrArg (· ++ [task]) hinvoked, addresses,
      hnodup, fun a ha => hrange a (List.mem_cons_of_mem _ ha), rfl, ?_, fun a ha => ?_⟩
    · show addresses.map (Function.update q.heap address none) = pending.map some
      rw [← hheap]
      refine List.map_congr_left fun a ha => Function.update_of_ne ?_ _ _
      rintro rfl
      exact hnotin ha
    · change (Function.update q.heap address none a).isSome at ha
      by_cases heq : a = address
      · simp [heq] at ha
      · rw [Function.update_of_ne heq] at ha
        exact (List.mem_cons.mp (hdomain a ha)).resolve_left heq

/-- `create_task` takes a successful `malloc` for a failed one: the block stays allocated. -/
theorem runTask_clear {address : Nat} {contents : Task} (res : WriteResult) (task : Task) :
    runTask (.block (address, contents) false) res task q
      = some (-1, { q with heap := Function.update q.heap address (some contents) }) := rfl

/-- And it writes through the null pointer of a failed one. -/
theorem runTask_failed (res : WriteResult) (task : Task) : runTask .failed res task q = none := rfl

/-- With `errno` set the task is created, and it is released again if the write fails. -/
theorem runTask_error {address : Nat} {contents task : Task} (hpos : 0 < address)
    (hfresh : q.heap address = none) :
    runTask (.block (address, contents) true) .error task q = some (-1, q) := by
  have hlive : Function.update q.heap address (some task) address = some task :=
    Function.update_self ..
  have hreleased : Function.update (Function.update q.heap address (some task)) address none = q.heap := by
    rw [Function.update_idem, ← hfresh, Function.update_eq_self]
  unfold runTask createTask sendTask
  show (if address = 0 then _ else Option.bind (Option.bind
    (Function.update q.heap address (some task) address) _) _) = _
  rw [if_neg hpos.ne', hlive]
  show some ((-1 : Int), deleteTask address _) = _
  unfold deleteTask
  rw [hreleased]

theorem runTask_wrote {address : Nat} {contents task : Task} (hpos : 0 < address) :
    runTask (.block (address, contents) true) (.wrote wordBytes) task q = some (0,
      { q with
        heap := Function.update q.heap address (some task)
        pipe := q.pipe ++ hostBytes wordBytes task.func }) := by
  have hlive : Function.update q.heap address (some task) address = some task :=
    Function.update_self ..
  have htake : task.bytes.take wordBytes = hostBytes wordBytes task.func :=
    List.take_left' (length_hostBytes _ _)
  unfold runTask createTask sendTask
  show (if address = 0 then _ else Option.bind (Option.bind
    (Function.update q.heap address (some task) address) _) _) = _
  rw [if_neg hpos.ne', hlive]
  show Option.bind (if wordBytes = wordBytes then some ((0 : Int),
    (⟨_, q.pipe ++ task.bytes.take wordBytes, q.invoked⟩ : TaskQueue)) else none) _ = _
  rw [if_pos rfl, htake]
  rfl

theorem runTask_short {address n : Nat} {contents task : Task} (hpos : 0 < address)
    (hn : n ≠ wordBytes) : runTask (.block (address, contents) true) (.wrote n) task q = none := by
  have hlive : Function.update q.heap address (some task) address = some task :=
    Function.update_self ..
  unfold runTask createTask sendTask
  show (if address = 0 then _ else Option.bind (Option.bind
    (Function.update q.heap address (some task) address) _) _) = _
  rw [if_neg hpos.ne', hlive]
  show Option.bind (if n = wordBytes then some ((0 : Int),
    (⟨_, q.pipe ++ task.bytes.take wordBytes, q.invoked⟩ : TaskQueue)) else none) _ = _
  rw [if_neg hn]
  rfl

theorem words_inj {as bs : List Nat} (has : ∀ a ∈ as, a < ulongSize) (hbs : ∀ b ∈ bs, b < ulongSize)
    (h : as.flatMap (hostBytes wordBytes) = bs.flatMap (hostBytes wordBytes)) : as = bs := by
  have hpos := wordBytes_ge
  induction as generalizing bs with
  | nil =>
    cases bs with
    | nil => rfl
    | cons b bs =>
      have hlength := congrArg List.length h
      rw [List.flatMap_nil, List.flatMap_cons, List.length_append, length_hostBytes,
        List.length_nil] at hlength
      omega
  | cons a as ih =>
    cases bs with
    | nil =>
      have hlength := congrArg List.length h
      rw [List.flatMap_nil, List.flatMap_cons, List.length_append, length_hostBytes,
        List.length_nil] at hlength
      omega
    | cons b bs =>
      rw [List.forall_mem_cons] at has hbs
      rw [List.flatMap_cons, List.flatMap_cons] at h
      obtain ⟨hword, hrest⟩ := List.append_inj h (by rw [length_hostBytes, length_hostBytes])
      have hab : a = b := by
        rw [← hostInt_hostBytes wordBytes has.1, hword, hostInt_hostBytes wordBytes hbs.1]
      rw [hab, ih has.2 hbs.2 hrest]

theorem Represents.push {address : Nat} {task : Task} (hq : Represents q f) (hpos : 0 < address)
    (hword : address < ulongSize) (hfresh : q.heap address = none) :
    Represents
      { q with
        heap := Function.update q.heap address (some task)
        pipe := q.pipe ++ hostBytes wordBytes address }
      { f with pending := f.pending ++ [task] } := by
  obtain ⟨hinvoked, addresses, hnodup, hrange, hpipe, hheap, hdomain⟩ := hq
  have hne : ∀ a ∈ addresses, a ≠ address := by
    rintro a ha rfl
    have hmem : q.heap a ∈ f.pending.map some := hheap ▸ List.mem_map_of_mem ha
    simp [hfresh] at hmem
  refine ⟨hinvoked, addresses ++ [address], ?_, ?_, ?_, ?_, fun a ha => ?_⟩
  · refine List.nodup_append.mpr ⟨hnodup, List.nodup_cons.mpr ⟨List.not_mem_nil, List.nodup_nil⟩, ?_⟩
    intro a ha b hb
    exact List.mem_singleton.mp hb ▸ hne a ha
  · intro a ha
    rcases List.mem_append.mp ha with ha | ha
    · exact hrange a ha
    · exact List.mem_singleton.mp ha ▸ ⟨hpos, hword⟩
  · rw [List.flatMap_append, List.flatMap_singleton, ← hpipe]
  · have hkept : addresses.map (Function.update q.heap address (some task)) = addresses.map q.heap :=
      List.map_congr_left fun a ha => Function.update_of_ne (hne a ha) _ _
    show (addresses ++ [address]).map (Function.update q.heap address (some task)) = _
    rw [List.map_append, List.map_append, hkept, hheap, List.map_singleton, Function.update_self,
      List.map_singleton]
  · change (Function.update q.heap address (some task) a).isSome at ha
    by_cases heq : a = address
    · exact List.mem_append_right _ (List.mem_singleton.mpr heq)
    · rw [Function.update_of_ne heq] at ha
      exact List.mem_append_left _ (hdomain a ha)

theorem Represents.pushed {address : Nat} {task : Task} (hq : Represents q f)
    (hfresh : q.heap address = none)
    (h : Represents
      { q with
        heap := Function.update q.heap address (some task)
        pipe := q.pipe ++ hostBytes wordBytes task.func }
      { f with pending := f.pending ++ [task] }) : task.func = address := by
  obtain ⟨-, addresses, -, hrange, hpipe, hheap, hdomain⟩ := hq
  obtain ⟨-, addresses', -, hrange', hpipe', -, hdomain'⟩ := h
  have hwords : addresses' = addresses ++ [task.func] := by
    refine words_inj (fun a ha => (hrange' a ha).2) (fun a ha => ?_) ?_
    · rcases List.mem_append.mp ha with ha | ha
      · exact (hrange a ha).2
      · exact List.mem_singleton.mp ha ▸ task.func_lt
    · rw [List.flatMap_append, List.flatMap_singleton, ← hpipe]
      exact hpipe'.symm
  have hmem : address ∈ addresses' := hdomain' address (by simp)
  rw [hwords, List.mem_append, List.mem_singleton] at hmem
  rcases hmem with hmem | hmem
  · have hlive : q.heap address ∈ f.pending.map some := hheap ▸ List.mem_map_of_mem hmem
    simp [hfresh] at hlive
  · exact hmem.symm

theorem Represents.not_leaked {address : Nat} {contents : Task} (hq : Represents q f)
    (hfresh : q.heap address = none) :
    ¬ Represents { q with heap := Function.update q.heap address (some contents) } f := by
  intro hrep
  obtain ⟨addresses, hnodup, hlength, hlive⟩ := hq.allocated
  obtain ⟨addresses', -, hlength', hlive'⟩ := hrep.allocated
  have hnotin : address ∉ addresses := by simp [← hlive, hfresh]
  have hsubset : address :: addresses ⊆ addresses' := by
    intro a ha
    rw [← hlive']
    show (Function.update q.heap address (some contents) a).isSome
    by_cases heq : a = address
    · simp [heq]
    · rw [Function.update_of_ne heq, hlive]
      exact (List.mem_cons.mp ha).resolve_left heq
  have hle := ((List.nodup_cons.mpr ⟨hnotin, hnodup⟩).subperm hsubset).length_le
  rw [List.length_cons] at hle
  omega

/-- A call of `run_task` does what the FIFO does if it is spared, and only then. -/
theorem simulates_run_iff {block : Malloc (Nat × Task)} {res : WriteResult} {task : Task}
    (hq : Represents q f) (hlegal : LegalTask q (.run block res task)) :
    Simulates q (.run block res task) ↔ (TaskInput.run block res task).Spared := by
  rcases block with _ | ⟨⟨address, contents⟩, errno⟩
  · refine iff_of_false (fun h => ?_) id
    obtain ⟨q', hrun, -⟩ := h f hq
    rw [runTask_failed] at hrun
    cases hrun
  obtain ⟨hpos, hword, hfresh⟩ := hlegal (address, contents) rfl
  rcases errno with _ | _
  · -- `!errno`: the call returns -1 and keeps the block
    refine iff_of_false (fun h => ?_) id
    obtain ⟨q', hrun, hrep⟩ := h f hq
    rw [runTask_clear] at hrun
    obtain ⟨hres, rfl⟩ := Prod.mk.inj (Option.some_inj.mp hrun)
    by_cases hwrote : res = .wrote wordBytes
    · simp [Fifo.run, Malloc.pointer, hwrote] at hres
    · simp only [Fifo.run, Malloc.pointer, hwrote, decide_false, Bool.and_false] at hrep
      exact hq.not_leaked hfresh hrep
  rcases res with _ | n
  · exact iff_of_true (fun f hq => ⟨q, runTask_error hpos hfresh, hq⟩) (.inl rfl)
  by_cases hn : n = wordBytes
  · subst hn
    constructor
    · intro h
      obtain ⟨q', hrun, hrep⟩ := h f hq
      rw [runTask_wrote hpos] at hrun
      obtain ⟨-, rfl⟩ := Prod.mk.inj (Option.some_inj.mp hrun)
      simp only [Fifo.run, Malloc.pointer, Option.isSome_some, decide_true, Bool.and_self] at hrep
      exact .inr ⟨rfl, hq.pushed hfresh hrep⟩
    · rintro (herror | ⟨-, rfl⟩)
      · cases herror
      · intro f hq
        have hfifo : f.run task ((Malloc.block (task.func, contents) true).pointer.isSome &&
            WriteResult.wrote wordBytes = .wrote wordBytes)
              = (0, { f with pending := f.pending ++ [task] }) := by
          simp [Fifo.run, Malloc.pointer]
        rw [hfifo]
        exact ⟨_, runTask_wrote hpos, hq.push hpos hword hfresh⟩
  · refine iff_of_false (fun h => ?_) ?_
    · obtain ⟨q', hrun, -⟩ := h f hq
      rw [runTask_short hpos hn] at hrun
      cases hrun
    · rintro (herror | ⟨hwrote, -⟩)
      · cases herror
      · exact hn (WriteResult.wrote.inj hwrote)

theorem execTask_error (stack : Nat → UInt8) : execTask stack [.error] q = some q := by
  have hcount : ¬ (FetchState.start stack).count = 0 := by
    have := wordBytes_ge
    show ¬ wordBytes = 0
    omega
  unfold execTask fetchTask
  rw [fetchLoop, if_neg hcount]
  rfl

theorem execTask_fetched {stack : Nat → UInt8} {results rest : List ReadResult} {address : Nat}
    {task : Task} (hfetch : fetchTask stack results = some (address, rest)) (hpos : 0 < address)
    (hlive : q.heap address = some task) :
    execTask stack results q = some
      { heap := Function.update q.heap address none
        pipe := q.pipe.drop (received results).length
        invoked := q.invoked ++ [task] } := by
  unfold execTask
  rw [hfetch]
  show (if address = 0 then _ else (q.heap address).bind _) = _
  rw [if_neg (by omega), hlive]
  rfl

theorem simulates_exec {stack : Nat → UInt8} {results : List ReadResult}
    (hlegal : LegalTask q (.exec stack results)) : Simulates q (.exec stack results) := by
  intro f hq
  rcases hlegal with rfl | ⟨chunks, rfl, hserved, hlength, hflat⟩
  · exact ⟨q, execTask_error stack, hq⟩
  have hpos := wordBytes_ge
  obtain ⟨pending, invoked⟩ := f
  cases pending with
  | nil =>
    rw [hflat, hq.pipe_nil, List.take_nil, List.length_nil] at hlength
    omega
  | cons task pending =>
    obtain ⟨address, rest, hnonzero, hword, hpipe, hlive, hpop⟩ := hq.pop
    have htake : chunks.flatten = hostBytes wordBytes address := by
      rw [hflat, hpipe, List.take_left' (length_hostBytes _ _)]
    have hreceived : received (chunks.map ReadResult.data) = hostBytes wordBytes address := by
      rw [received_data, htake]
    have hnotnil : received (chunks.map ReadResult.data) ≠ [] := by
      rw [hreceived, ← List.length_pos_iff, length_hostBytes]
      omega
    obtain ⟨chunks', hfetch, -, -⟩ := fetchTask_served stack hserved (length_hostBytes _ _)
      (htake.trans (List.append_nil _).symm)
    rw [hostInt_hostBytes wordBytes hword] at hfetch
    refine ⟨_, execTask_fetched hfetch hnonzero hlive, ?_⟩
    rw [if_neg hnotnil, hreceived, hpipe, List.drop_left]
    exact hpop

def TasksInv (q : TaskQueue) : Prop := ∃ f, Represents q f

theorem simulates_iff {i : TaskInput} (hq : Represents q f) (hlegal : LegalTask q i) :
    Simulates q i ↔ i.Spared := by
  cases i with
  | run block res task => exact simulates_run_iff hq hlegal
  | exec stack results => exact iff_of_true (simulates_exec hlegal) trivial

/-- **Tasks in order.** From any queue that stands for a FIFO, all calls of a run do what they do on
the FIFO if and only if each call of `run_task` among them is spared: its `malloc` returns a block and
sets `errno` nevertheless, and its write fails or the task's function is at the address of the block. -/
theorem along_simulates_iff {is : List TaskInput} (hq : Represents q f)
    (hlegal : Along taskStep LegalTask q is) :
    Along taskStep Simulates q is ↔ ∀ i ∈ is, i.Spared := by
  have hspared : ∀ q i, TasksInv q → LegalTask q i → i.Spared →
      ∃ q', taskStep q i = some q' ∧ TasksInv q' := by
    intro q i hinv hlegal hspared
    obtain ⟨f, hq⟩ := hinv
    have hsimulates := (simulates_iff hq hlegal).mpr hspared
    cases i with
    | run block res task =>
      obtain ⟨q', hrun, hrep⟩ := hsimulates f hq
      exact ⟨q', congrArg (Option.map Prod.snd) hrun, _, hrep⟩
    | exec stack results =>
      obtain ⟨q', hrun, hrep⟩ := hsimulates f hq
      exact ⟨q', hrun, _, hrep⟩
  rw [← along_inputs hspared ⟨f, hq⟩ hlegal]
  refine along_iff ?_ ?_ (show TasksInv q from ⟨f, hq⟩) hlegal
  · intro q i q' hinv hlegal hi hstep
    obtain ⟨t, ht, hinv'⟩ := hspared q i hinv hlegal hi
    rw [hstep] at ht
    cases ht
    exact hinv'
  · intro q i hinv hlegal
    obtain ⟨f, hq⟩ := hinv
    exact simulates_iff hq hlegal

/-! ## Leaks -/

/-- No task is queued or has been executed, and `n` blocks are allocated. -/
def LeakedBlocks (n : Nat) (q : TaskQueue) : Prop :=
  q.pipe = [] ∧ q.invoked = [] ∧ ∃ addresses : List Nat, addresses.Nodup ∧ addresses.length = n ∧
    ∀ address, (q.heap address).isSome ↔ address ∈ addresses

theorem execTask_of_empty {stack : Nat → UInt8} {results : List ReadResult} (hpipe : q.pipe = [])
    (hlegal : LegalTask q (.exec stack results)) : execTask stack results q = some q := by
  have hpos := wordBytes_ge
  rcases hlegal with rfl | ⟨chunks, -, -, hlength, hflat⟩
  · exact execTask_error stack
  · rw [hflat, hpipe, List.take_nil, List.length_nil] at hlength
    omega

theorem LeakedBlocks.step {n : Nat} {q' : TaskQueue} {i : TaskInput} (h : LeakedBlocks n q)
    (hlegal : LegalTask q i) (herrno : i.KeepsErrno) (hstep : taskStep q i = some q') :
    LeakedBlocks (n + if i.IsRun then 1 else 0) q' := by
  obtain ⟨hpipe, hinvoked, addresses, hnodup, hlength, hlive⟩ := h
  cases i with
  | exec stack results =>
    obtain rfl := Option.some_inj.mp ((execTask_of_empty hpipe hlegal).symm.trans hstep)
    exact ⟨hpipe, hinvoked, addresses, hnodup, hlength, hlive⟩
  | run block res task =>
    rcases block with _ | ⟨⟨address, contents⟩, errno⟩
    · cases hstep
    obtain ⟨-, -, hfresh⟩ := hlegal (address, contents) rfl
    cases errno with
    | true => exact herrno.elim
    | false =>
      cases hstep
      have hnotin : address ∉ addresses := by simp [← hlive, hfresh]
      refine ⟨hpipe, hinvoked, address :: addresses, List.nodup_cons.mpr ⟨hnotin, hnodup⟩, ?_, fun a => ?_⟩
      · rw [List.length_cons, hlength]
        rfl
      · show (Function.update q.heap address (some contents) a).isSome ↔ _
        rw [List.mem_cons, ← hlive]
        by_cases heq : a = address
        · simp [heq]
        · rw [Function.update_of_ne heq]
          simp [heq]

/-- **No task is ever executed.** In every run from an empty queue in which `malloc` sets `errno` only
when it fails, the pipe stays empty and no task is executed, and each call of `run_task` that returns
leaves a block behind that is never released. -/
theorem leakedBlocks_of_run {n : Nat} {is : List TaskInput} {q' : TaskQueue} (h : LeakedBlocks n q)
    (hlegal : Along taskStep LegalTask q is) (herrno : ∀ i ∈ is, i.KeepsErrno)
    (hrun : run taskStep q is = some q') : LeakedBlocks (n + is.countP fun i => i.IsRun) q' := by
  induction is generalizing q n with
  | nil =>
    cases hrun
    exact h
  | cons i is ih =>
    rw [List.forall_mem_cons] at herrno
    rw [run_cons, Option.bind_eq_some_iff] at hrun
    obtain ⟨t, hstep, hrun⟩ := hrun
    have hrest := ih (h.step hlegal.1 herrno.1 hstep) (hlegal.2 t hstep) herrno.2 hrun
    rw [List.countP_cons, Nat.add_comm (List.countP _ is), ← Nat.add_assoc]
    simpa using hrest

end simulation

section examples

def emptyQueue : @TaskQueue lp64 := @TaskQueue.mk lp64 (fun _ => none) [] []

def runAt4096 : @TaskInput lp64 :=
  @TaskInput.run lp64 (.block (4096, taskAt64) false) (.wrote 8) taskAt64

/-- A run of one `run_task` whose `malloc` and `write()` succeed and one `exec_task`: the task is not
executed, and its block is allocated. -/
theorem leakedBlocks_of_run_runAt4096 : ∃ q',
    @run (@TaskQueue lp64) (@TaskInput lp64) (@taskStep lp64) emptyQueue
        [runAt4096, @TaskInput.exec lp64 (fun _ => 0) [.error]] = some q' ∧
      @LeakedBlocks lp64 1 q' := by
  have hempty : @LeakedBlocks lp64 0 emptyQueue :=
    ⟨rfl, rfl, [], List.nodup_nil, rfl, by simp [emptyQueue]⟩
  refine ⟨_, rfl, @leakedBlocks_of_run lp64 emptyQueue 0
    [runAt4096, @TaskInput.exec lp64 (fun _ => 0) [.error]] _ hempty ⟨?_, fun _ _ => ?_⟩ ?_ rfl⟩
  · intro b hb
    cases hb
    exact ⟨by decide, by decide +kernel, rfl⟩
  · exact ⟨.inl rfl, fun _ _ => trivial⟩
  · simp [runAt4096, TaskInput.KeepsErrno]

/-- On an empty queue, `run_task` with all it needs returns -1 and leaks the block; without memory
it writes through a null pointer. -/
theorem run_task_refuses :
    @Represents lp64 emptyQueue (@Fifo.mk lp64 [] []) ∧
      Along (@taskStep lp64) (@LegalTask lp64) emptyQueue [runAt4096] ∧
      (@runTask lp64 (.block (4096, taskAt64) false) (.wrote 8) taskAt64 emptyQueue).map
        (fun p => (p.1, @TaskQueue.pipe lp64 p.2, (@TaskQueue.heap lp64 p.2 4096).isSome))
          = some (-1, [], true) ∧
      @runTask lp64 .failed (.wrote 8) taskAt64 emptyQueue = none ∧
      ¬ Along (@taskStep lp64) (@Simulates lp64) emptyQueue [runAt4096] := by
  have hempty : @Represents lp64 emptyQueue (@Fifo.mk lp64 [] []) :=
    ⟨rfl, [], List.nodup_nil, by simp, rfl, rfl, by simp [emptyQueue]⟩
  refine ⟨hempty, ⟨?_, fun _ _ => trivial⟩, rfl, rfl, ?_⟩
  · intro b hb
    cases hb
    exact ⟨by decide, by decide +kernel, rfl⟩
  · intro h
    obtain ⟨q', hrun, -⟩ := h.1 _ hempty
    have hres : some (-1 : Int) = some 0 := congrArg (Option.map Prod.fst) hrun
    exact absurd hres (by decide)

def oneTask : @TaskQueue lp64 :=
  @TaskQueue.mk lp64 (Function.update (fun _ => none) 4096 (some taskAt64)) [0, 16, 0, 0, 0, 0, 0, 0] []

def runAt64 : @TaskInput lp64 := @TaskInput.run lp64 (.block (64, taskAt64) true) (.wrote 8) taskAt64

theorem along_simulates_iff_exec :
    Along (@taskStep lp64) (@Simulates lp64) oneTask
      [runAt64, @TaskInput.exec lp64 (fun _ => 0) [.error],
        @TaskInput.exec lp64 (fun _ => 0) [.data [0, 16, 0], .data [0, 0, 0, 0, 0]],
        @TaskInput.exec lp64 (fun _ => 0) [.data [64, 0, 0, 0, 0, 0, 0, 0]]] := by
  refine (@along_simulates_iff lp64 oneTask (@Fifo.mk lp64 [taskAt64] []) _ ?_ ?_).mpr ?_
  · refine ⟨rfl, [4096], by decide, by decide +kernel, by decide, rfl, ?_⟩
    intro address hsome
    by_contra hne
    rw [List.mem_singleton] at hne
    change (Function.update (fun _ => none) 4096 (some taskAt64) address).isSome at hsome
    rw [Function.update_of_ne hne] at hsome
    cases hsome
  · refine ⟨?_, fun q hq => ⟨.inl rfl, fun q' hq' => ⟨.inr ⟨[[0, 16, 0], [0, 0, 0, 0, 0]], rfl,
      by decide, by decide, ?_⟩, fun q'' hq'' => ⟨.inr ⟨[[64, 0, 0, 0, 0, 0, 0, 0]], rfl, by decide,
      by decide, ?_⟩, fun _ _ => trivial⟩⟩⟩⟩
    · intro b hb
      cases hb
      exact ⟨by decide, by decide +kernel, rfl⟩
    · cases hq
      cases hq'
      decide
    · cases hq
      cases hq'
      cases hq''
      decide
  · have hspared : @TaskInput.Spared lp64 runAt64 := .inr ⟨rfl, rfl⟩
    rw [List.forall_mem_cons]
    exact ⟨hspared, by simp [TaskInput.Spared]⟩

end examples

end Bluetoothd

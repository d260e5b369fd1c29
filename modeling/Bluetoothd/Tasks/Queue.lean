import Bluetoothd.CmdSocket.EventIn
import Bluetoothd.Lib.Transition
import Mathlib.Logic.Function.Basic

/-!
# The task queue (`task.c`)

The threads of the HAL hand tasks to the I/O thread through a pipe: `run_task` allocates a task and
writes an entry for it, and `exec_task` fetches the next entry, calls the task's function and
releases the task. The entry is meant to be the address of the task.

Addresses are machine words; the null pointer is 0. A pipe write of a word is atomic, so the calls
of the threads interleave as wholes.
-/

namespace Bluetoothd

open Platform Buffer Transition

def received : List ReadResult → List UInt8
  | [] => []
  | .error :: results => received results
  | .data bytes :: results => bytes ++ received results

theorem received_data (chunks : List (List UInt8)) :
    received (chunks.map ReadResult.data) = chunks.flatten := by
  induction chunks with
  | nil => rfl
  | cons bytes chunks ih => rw [List.map_cons, received, ih, List.flatten_cons]

theorem received_append (results results' : List ReadResult) :
    received (results ++ results') = received results ++ received results' := by
  induction results with
  | nil => rfl
  | cons res results ih =>
    cases res with
    | error => rw [List.cons_append, received, received, ih]
    | data bytes => rw [List.cons_append, received, received, ih, List.append_assoc]

theorem received_eof {results : List ReadResult} (h : ∀ res ∈ results, res = .data []) :
    received results = [] := by
  induction results with
  | nil => rfl
  | cons res results ih =>
    rw [List.forall_mem_cons] at h
    rw [h.1, received, ih h.2, List.append_nil]

section model

variable [Platform]

@[ext]
structure Task where
  func : Nat
  data : Nat
  func_lt : func < ulongSize
  data_lt : data < ulongSize

def Task.bytes (task : Task) : List UInt8 :=
  hostBytes wordBytes task.func ++ hostBytes wordBytes task.data

/-- The allocated tasks by their address, the bytes in the pipe, and the tasks whose function has
been called. -/
structure TaskQueue where
  heap : Nat → Option Task
  pipe : List UInt8
  invoked : List Task

/-- What `write()` returns: an error, or how many bytes it wrote. -/
inductive WriteResult where
  | error
  | wrote (n : Nat)
  deriving DecidableEq

/-! ## Sending -/

/-- `create_task`, for what `malloc` does: a block has an address and some contents. -/
def createTask (block : Malloc (Nat × Task)) (task : Task) (q : TaskQueue) :
    Option (Nat × TaskQueue) :=
  match block with
  | .failed => none -- `errno` is set: `task->func` through a null pointer
  | .block (address, contents) errno =>
    if errno then
      some (address, { q with heap := Function.update q.heap address (some task) })
    else
      some (0, { q with heap := Function.update q.heap address (some contents) }) -- `!errno`

def deleteTask (address : Nat) (q : TaskQueue) : TaskQueue :=
  { q with heap := Function.update q.heap address none }

/-- `send_task`; `none` also stands for `abort`. -/
def sendTask (address : Nat) (res : WriteResult) (q : TaskQueue) : Option (Int × TaskQueue) := do
  let task ← q.heap address
  match res with
  | .error => return (-1, q)
  | .wrote n =>
    if n = wordBytes then
      return (0, { q with pipe := q.pipe ++ task.bytes.take wordBytes })
    else
      none

def runTask (block : Malloc (Nat × Task)) (res : WriteResult) (task : Task) (q : TaskQueue) :
    Option (Int × TaskQueue) := do
  let (address, q) ← createTask block task q
  if address = 0 then
    return (-1, q)
  let (sent, q) ← sendTask address res q
  if sent < 0 then
    return (-1, deleteTask address q)
  return (0, q)

/-! ## Fetching -/

/-- The variables of the loop in `fetch_task`: the union `buf`, `off` and `count`. -/
structure FetchState where
  raw : List UInt8
  off : Nat
  count : Nat

def FetchState.start (stack : Nat → UInt8) : FetchState where
  raw := (List.range wordBytes).map stack
  off := 0
  count := wordBytes

/-- A `read()` that returned `bytes`; `none` when they exceed the union. -/
def FetchState.store (f : FetchState) (bytes : List UInt8) : Option FetchState :=
  if f.off + bytes.length ≤ f.raw.length then
    some
      { raw := overwrite f.raw f.off bytes
        off := uadd f.off bytes.length
        count := usub f.count bytes.length }
  else none

/-- The loop of `fetch_task` on the results of its reads: the returned pointer and the results that
are left. It is `none` while the loop has not ended. An `.error` is one that `TEMP_FAILURE_RETRY`
passes on. -/
def fetchLoop (f : FetchState) : List ReadResult → Option (Nat × List ReadResult)
  | [] => if f.count = 0 then some (hostInt f.raw, []) else none
  | res :: results =>
    if f.count = 0 then some (hostInt f.raw, res :: results)
    else
      match res with
      | .error => some (0, results)
      | .data bytes => (f.store bytes).bind fun f => fetchLoop f results

def fetchTask (stack : Nat → UInt8) (results : List ReadResult) : Option (Nat × List ReadResult) :=
  fetchLoop (.start stack) results

/-- `exec_task`, whose reads have the given results; the called function must be that of a task. -/
def execTask (stack : Nat → UInt8) (results : List ReadResult) (q : TaskQueue) : Option TaskQueue := do
  let (address, _) ← fetchTask stack results
  let q := { q with pipe := q.pipe.drop (received results).length }
  if address = 0 then
    return q
  let task ← q.heap address
  return deleteTask address { q with invoked := q.invoked ++ [task] }

/-! ## The fetch loop -/

/-- The reads of successive `fetch_task` calls return these chunks: each is part of what is still
missing of the current pointer. -/
def Served (missing : Nat) : List (List UInt8) → Prop
  | [] => True
  | bytes :: chunks => 0 < bytes.length ∧ bytes.length ≤ missing ∧
    Served (if bytes.length = missing then wordBytes else missing - bytes.length) chunks

instance decidableServed : ∀ missing chunks, Decidable (Served missing chunks)
  | _, [] => inferInstanceAs (Decidable True)
  | missing, bytes :: chunks =>
    have := decidableServed (if bytes.length = missing then wordBytes else missing - bytes.length) chunks
    inferInstanceAs (Decidable (_ ∧ _ ∧ _))

/-- The invariant of the loop: `off` and `count` make up the pointer. -/
structure FetchState.Inv (f : FetchState) : Prop where
  length : f.raw.length = wordBytes
  sum : f.off + f.count = wordBytes

theorem FetchState.Inv.start (stack : Nat → UInt8) : (FetchState.start stack).Inv :=
  ⟨by simp [FetchState.start], Nat.zero_add _⟩

theorem wordBytes_lt : wordBytes < ulongSize := by
  have hsize := ulongSize_ge
  rcases wordBytes_eq with h | h <;> rw [h] <;> omega

theorem FetchState.Inv.store {f : FetchState} (h : f.Inv) {bytes : List UInt8}
    (hcount : bytes.length ≤ f.count) :
    ∃ f', f.store bytes = some f' ∧ f'.Inv ∧ f'.count = f.count - bytes.length ∧
      f'.raw.take f'.off = f.raw.take f.off ++ bytes := by
  obtain ⟨hlength, hsum⟩ := h
  have hword := wordBytes_lt
  have hroom : f.off + bytes.length ≤ f.raw.length := by omega
  have hoff : uadd f.off bytes.length = f.off + bytes.length := uadd_of_lt (by omega)
  have hsub : usub f.count bytes.length = f.count - bytes.length := usub_of_le hcount (by omega)
  unfold FetchState.store
  rw [if_pos hroom, hoff, hsub]
  refine ⟨_, rfl, ⟨?_, ?_⟩, rfl, ?_⟩
  · rw [length_overwrite hroom, hlength]
  · show f.off + bytes.length + (f.count - bytes.length) = wordBytes
    omega
  · exact take_overwrite_end (by omega)

theorem fetchLoop_of_zero {f : FetchState} (hcount : f.count = 0) (results : List ReadResult) :
    fetchLoop f results = some (hostInt f.raw, results) := by
  cases results with
  | nil => rw [fetchLoop, if_pos hcount]
  | cons res results =>
    cases res with
    | error => rw [fetchLoop, if_pos hcount]
    | data bytes => rw [fetchLoop, if_pos hcount]

theorem FetchState.Inv.take_of_zero {f : FetchState} (h : f.Inv) (hcount : f.count = 0) :
    f.raw.take f.off = f.raw := by
  have hsum := h.sum
  rw [List.take_of_length_le (by rw [h.length]; omega)]

theorem fetchLoop_served {f : FetchState} (h : f.Inv) {chunks : List (List UInt8)} {bytes rest : List UInt8}
    (hserved : Served f.count chunks) (hcount : bytes.length = f.count) (hpos : 0 < f.count)
    (hstream : chunks.flatten = bytes ++ rest) :
    ∃ chunks', fetchLoop f (chunks.map .data)
        = some (hostInt (f.raw.take f.off ++ bytes), chunks'.map .data) ∧
      Served wordBytes chunks' ∧ chunks'.flatten = rest := by
  induction chunks generalizing f bytes with
  | nil =>
    have hlength := congrArg List.length hstream
    rw [List.flatten_nil, List.length_nil, List.length_append] at hlength
    omega
  | cons chunk chunks ih =>
    obtain ⟨hchunk, hle, hrest⟩ := hserved
    obtain ⟨f', hstore, hinv, hcount', htake⟩ := h.store hle
    have hnext : fetchLoop f ((chunk :: chunks).map .data) = fetchLoop f' (chunks.map .data) := by
      rw [List.map_cons, fetchLoop, if_neg (by omega)]
      show (f.store chunk).bind _ = _
      rw [hstore, Option.bind_some]
    rw [List.flatten_cons] at hstream
    by_cases hend : chunk.length = f.count
    · -- the pointer is complete
      obtain ⟨rfl, hflat⟩ := List.append_inj hstream (hend.trans hcount.symm)
      rw [if_pos hend] at hrest
      have hzero : f'.count = 0 := by omega
      refine ⟨chunks, ?_, hrest, hflat⟩
      rw [hnext, ← htake, hinv.take_of_zero hzero, fetchLoop_of_zero hzero]
    · rw [if_neg hend, ← hcount'] at hrest
      obtain ⟨tail, rfl⟩ : ∃ tail, bytes = chunk ++ tail := by
        refine ⟨bytes.drop chunk.length, ?_⟩
        have htaken := congrArg (List.take chunk.length) hstream
        rw [List.take_left, List.take_append_of_le_length (by omega)] at htaken
        calc bytes = bytes.take chunk.length ++ bytes.drop chunk.length :=
              (List.take_append_drop _ _).symm
          _ = chunk ++ bytes.drop chunk.length := by rw [← htaken]
      rw [List.append_assoc, List.append_cancel_left_eq] at hstream
      rw [List.length_append] at hcount
      obtain ⟨chunks', hloop, hserved', hflat⟩ := ih hinv hrest (by omega) (by omega) hstream
      exact ⟨chunks', by rw [hnext, hloop, htake, List.append_assoc], hserved', hflat⟩

theorem fetchTask_served (stack : Nat → UInt8) {chunks : List (List UInt8)} {word rest : List UInt8}
    (hserved : Served wordBytes chunks) (hword : word.length = wordBytes)
    (hstream : chunks.flatten = word ++ rest) :
    ∃ chunks', fetchTask stack (chunks.map .data) = some (hostInt word, chunks'.map .data) ∧
      Served wordBytes chunks' ∧ chunks'.flatten = rest :=
  fetchLoop_served (.start stack) hserved hword (lt_of_lt_of_le (by decide) wordBytes_ge) hstream

/-! ## The end of the fetch loop -/

/-- A read of `fetch_task` that leaves it in its loop. -/
def fetchStep (f : FetchState) (res : ReadResult) : Option FetchState :=
  if f.count = 0 then none
  else
    match res with
    | .error => none
    | .data bytes => f.store bytes

/-- A read that the loop makes returns at most the bytes that are requested. -/
def LegalRead (f : FetchState) (res : ReadResult) : Prop :=
  ∀ bytes, res = .data bytes → 0 < f.count → bytes.length ≤ f.count

/-- The loop goes on, ends with a pointer that the bytes read make up, or ends at an error. -/
theorem fetchLoop_cases {f : FetchState} (h : f.Inv) {results : List ReadResult}
    (hlegal : Along fetchStep LegalRead f results) :
    (∃ f', run fetchStep f results = some f' ∧ f'.Inv ∧ fetchLoop f results = none ∧
      0 < f'.count ∧ f'.count + (received results).length = f.count ∧ ReadResult.error ∉ results) ∨
    (∃ used rest, results = used ++ rest ∧ (received used).length = f.count ∧
      fetchLoop f results = some (hostInt (f.raw.take f.off ++ received used), rest)) ∨
    (∃ rest, ReadResult.error ∈ results ∧ fetchLoop f results = some (0, rest)) := by
  induction results generalizing f with
  | nil =>
    by_cases hcount : f.count = 0
    · right
      left
      refine ⟨[], [], rfl, hcount.symm, ?_⟩
      rw [fetchLoop_of_zero hcount, received, List.append_nil, h.take_of_zero hcount]
    · left
      refine ⟨f, rfl, h, by rw [fetchLoop, if_neg hcount], by omega, rfl, ?_⟩
      simp
  | cons res results ih =>
    by_cases hcount : f.count = 0
    · right
      left
      refine ⟨[], res :: results, rfl, hcount.symm, ?_⟩
      rw [fetchLoop_of_zero hcount, received, List.append_nil, h.take_of_zero hcount]
    cases res with
    | error =>
      right
      right
      exact ⟨results, List.mem_cons_self, by rw [fetchLoop, if_neg hcount]⟩
    | data bytes =>
      obtain ⟨hlegal, hrest⟩ := hlegal
      have hle := hlegal bytes rfl (Nat.pos_of_ne_zero hcount)
      obtain ⟨f', hstore, hinv, hcount', htake⟩ := h.store hle
      have hstep : fetchStep f (.data bytes) = some f' := by
        rw [fetchStep, if_neg hcount, hstore]
      have hloop : fetchLoop f (.data bytes :: results) = fetchLoop f' results := by
        rw [fetchLoop, if_neg hcount, hstore]
        rfl
      rw [run_cons, hstep, Option.bind_some, hloop, received, List.length_append]
      rcases ih hinv (hrest f' hstep) with ⟨g, hrun, hg, hnone, hpos, hsum, hmem⟩ |
        ⟨used, rest, rfl, hused, hend⟩ | ⟨rest, hmem, hend⟩
      · left
        refine ⟨g, hrun, hg, hnone, hpos, by omega, ?_⟩
        simp [hmem]
      · right
        left
        refine ⟨.data bytes :: used, rest, rfl, ?_, ?_⟩
        · rw [received, List.length_append]
          omega
        · rw [hend, htake, received, List.append_assoc]
      · right
        right
        exact ⟨rest, List.mem_cons_of_mem _ hmem, hend⟩

theorem along_legalRead_of_zero {f : FetchState} (hcount : f.count = 0) (results : List ReadResult) :
    Along fetchStep LegalRead f results := by
  cases results with
  | nil => trivial
  | cons res results =>
    refine ⟨?_, ?_⟩
    · intro bytes _ hpos
      omega
    · intro f' hstep
      unfold fetchStep at hstep
      rw [if_pos hcount] at hstep
      cases hstep

theorem along_legalRead_cons {f : FetchState} (h : f.Inv) {bytes : List UInt8}
    (hle : bytes.length ≤ f.count) {results : List ReadResult}
    (hrest : ∀ f' : FetchState, f'.Inv → f'.count = f.count - bytes.length →
      Along fetchStep LegalRead f' results) :
    Along fetchStep LegalRead f (.data bytes :: results) := by
  obtain ⟨g, hstore, hinv, hcount, -⟩ := h.store hle
  refine ⟨?_, ?_⟩
  · intro bytes' hbytes _
    cases hbytes
    exact hle
  · intro f' hstep
    unfold fetchStep at hstep
    split_ifs at hstep
    obtain rfl : g = f' := Option.some_inj.mp (hstore.symm.trans hstep)
    exact hrest g hinv hcount

theorem along_legalRead_eof (f : FetchState) {results : List ReadResult}
    (h : ∀ res ∈ results, res = .data []) : Along fetchStep LegalRead f results := by
  refine along_of_invariant (I := fun _ => True) (L := fun _ res => res = .data []) ?_ ?_ trivial
    (along_of_forall_mem h f)
  · intro f res f' _ _ _
    trivial
  · intro f res _ heof bytes hbytes _
    rw [heof] at hbytes
    cases hbytes
    exact Nat.zero_le _

def firstReads (reads : Nat → ReadResult) (n : Nat) : List ReadResult := (List.range n).map reads

omit [Platform] in
theorem firstReads_succ (reads : Nat → ReadResult) (n : Nat) :
    firstReads reads (n + 1) = reads 0 :: firstReads (fun i => reads (i + 1)) n := by
  rw [firstReads, List.range_succ_eq_map, List.map_cons, List.map_map]
  rfl

/-- What the loop of `fetch_task` promises for an infinite sequence of results: it ends, it asks for
no more than the union has room for, and a pointer that it returns is made of exactly the bytes
that it read. -/
structure FetchEnds (stack : Nat → UInt8) (reads : Nat → ReadResult) : Prop where
  ends : ∃ n, (fetchTask stack (firstReads reads n)).isSome
  bounds : ∀ n f, run fetchStep (.start stack) (firstReads reads n) = some f →
    f.off + f.count = wordBytes ∧ f.off + f.count ≤ f.raw.length
  whole : ∀ n address rest, fetchTask stack (firstReads reads n) = some (address, rest) → address ≠ 0 →
    ∃ used, firstReads reads n = used ++ rest ∧ (received used).length = wordBytes ∧
      address = hostInt (received used)

theorem FetchState.Inv.run {f : FetchState} (h : f.Inv) {results : List ReadResult} {f' : FetchState}
    (hlegal : Along fetchStep LegalRead f results) (hrun : run fetchStep f results = some f') :
    f'.Inv := by
  refine run_invariant (I := FetchState.Inv) ?_ h hlegal hrun
  intro f res f' h hlegal hstep
  unfold fetchStep at hstep
  split_ifs at hstep with hcount
  cases res with
  | error => cases hstep
  | data bytes =>
    obtain ⟨g, hstore, hinv, -⟩ := h.store (hlegal bytes rfl (Nat.pos_of_ne_zero hcount))
    obtain rfl : g = f' := Option.some_inj.mp (hstore.symm.trans hstep)
    exact hinv

theorem fetch_bounds (stack : Nat → UInt8) {results : List ReadResult} {f : FetchState}
    (hlegal : Along fetchStep LegalRead (.start stack) results)
    (hrun : run fetchStep (.start stack) results = some f) :
    f.off + f.count = wordBytes ∧ f.off + f.count ≤ f.raw.length := by
  have hinv := (FetchState.Inv.start stack).run hlegal hrun
  have hsum := hinv.sum
  exact ⟨hsum, by rw [hinv.length, hsum]⟩

theorem fetch_whole (stack : Nat → UInt8) {results rest : List ReadResult} {address : Nat}
    (hlegal : Along fetchStep LegalRead (.start stack) results)
    (hfetch : fetchTask stack results = some (address, rest)) (haddress : address ≠ 0) :
    ∃ used, results = used ++ rest ∧ (received used).length = wordBytes ∧
      address = hostInt (received used) := by
  rw [fetchTask] at hfetch
  rcases fetchLoop_cases (.start stack) hlegal with ⟨f, -, -, hnone, -⟩ |
    ⟨used, rest', hreads, hused, hend⟩ | ⟨rest', -, hend⟩
  · rw [hnone] at hfetch
    cases hfetch
  · rw [hend] at hfetch
    cases hfetch
    exact ⟨used, hreads, hused, rfl⟩
  · rw [hend] at hfetch
    cases hfetch
    exact absurd rfl haddress

theorem fetchTask_isSome_iff (stack : Nat → UInt8) {results : List ReadResult}
    (hlegal : Along fetchStep LegalRead (.start stack) results) :
    (fetchTask stack results).isSome ↔
      .error ∈ results ∨ wordBytes ≤ (received results).length := by
  rw [fetchTask]
  rcases fetchLoop_cases (.start stack) hlegal with ⟨f, -, -, hnone, hpos, hsum, hmem⟩ |
    ⟨used, rest, hreads, hused, hend⟩ | ⟨rest, hmem, hend⟩
  · have hsum' : f.count + (received results).length = wordBytes := hsum
    rw [hnone]
    refine iff_of_false (by simp) ?_
    intro h
    rcases h with h | h
    · exact hmem h
    · omega
  · have hused' : (received used).length = wordBytes := hused
    rw [hend]
    refine iff_of_true rfl (Or.inr ?_)
    rw [hreads, received_append, List.length_append]
    omega
  · rw [hend]
    exact iff_of_true rfl (Or.inl hmem)

/-- **When the loop of `fetch_task` ends.** Of the results that `read()` may give, those that the
loop deals with are exactly the ones with an error or with the bytes of a whole pointer. The others
come to nothing but end-of-file, on which `count` does not decrease. -/
theorem fetchEnds_iff (stack : Nat → UInt8) (reads : Nat → ReadResult)
    (hlegal : ∀ n, Along fetchStep LegalRead (.start stack) (firstReads reads n)) :
    FetchEnds stack reads ↔
      (∃ n, reads n = .error) ∨ ∃ n, wordBytes ≤ (received (firstReads reads n)).length := by
  constructor
  · intro h
    obtain ⟨n, hn⟩ := h.ends
    rcases (fetchTask_isSome_iff stack (hlegal n)).mp hn with hmem | hlength
    · obtain ⟨i, -, hi⟩ := List.mem_map.mp hmem
      exact Or.inl ⟨i, hi⟩
    · exact Or.inr ⟨n, hlength⟩
  · intro hcond
    refine ⟨?_, ?_, ?_⟩
    · rcases hcond with ⟨n, hn⟩ | ⟨n, hn⟩
      · have hmem : ReadResult.error ∈ firstReads reads (n + 1) :=
          List.mem_map.mpr ⟨n, List.mem_range.mpr (Nat.lt_succ_self n), hn⟩
        exact ⟨n + 1, (fetchTask_isSome_iff stack (hlegal (n + 1))).mpr (Or.inl hmem)⟩
      · exact ⟨n, (fetchTask_isSome_iff stack (hlegal n)).mpr (Or.inr hn)⟩
    · intro n f hrun
      exact fetch_bounds stack (hlegal n) hrun
    · intro n address rest hfetch haddress
      exact fetch_whole stack (hlegal n) hfetch haddress

/-! ## Sending and fetching back -/

/-- Successive calls of `send_task` whose writes succeed in full. Each is made with the address it
is passed and with the tasks that are allocated at that time. -/
def sendTasks (pipe : List UInt8) : List (Nat × (Nat → Option Task)) → Option (List UInt8)
  | [] => some pipe
  | (address, heap) :: sends => do
    let (_, q) ← sendTask address (.wrote wordBytes) ⟨heap, pipe, []⟩
    sendTasks q.pipe sends

def fetchTasks (stack : Nat → UInt8) : Nat → List ReadResult → Option (List Nat × List ReadResult)
  | 0, results => some ([], results)
  | n + 1, results => do
    let (address, results) ← fetchTask stack results
    let (addresses, results) ← fetchTasks stack n results
    return (address :: addresses, results)

/-- The calls of `fetch_task` return the addresses that were sent, in the same order. -/
def FetchesSent (stack : Nat → UInt8) (sends : List (Nat × (Nat → Option Task)))
    (chunks : List (List UInt8)) : Prop :=
  fetchTasks stack sends.length (chunks.map .data) = some (sends.map Prod.fst, [])

/-- What is written for a task is its first member. -/
theorem sendTask_wrote {address : Nat} {heap : Nat → Option Task} {task : Task}
    (h : heap address = some task) (pipe : List UInt8) :
    sendTask address (.wrote wordBytes) ⟨heap, pipe, []⟩
      = some (0, ⟨heap, pipe ++ hostBytes wordBytes task.func, []⟩) := by
  have htake : task.bytes.take wordBytes = hostBytes wordBytes task.func :=
    List.take_left' (length_hostBytes _ _)
  unfold sendTask
  show (heap address).bind _ = _
  rw [h, Option.bind_some]
  show (if wordBytes = wordBytes then _ else _) = _
  rw [if_pos rfl, htake]
  rfl

theorem sendTasks_eq {sends : List (Nat × (Nat → Option Task))} {pipe stream : List UInt8}
    (h : sendTasks pipe sends = some stream) :
    ∃ tasks : List Task, sends.map (fun s => s.2 s.1) = tasks.map some ∧
      stream = pipe ++ tasks.flatMap fun task => hostBytes wordBytes task.func := by
  induction sends generalizing pipe with
  | nil =>
    cases h
    exact ⟨[], rfl, (List.append_nil _).symm⟩
  | cons send sends ih =>
    obtain ⟨address, heap⟩ := send
    rcases hheap : heap address with _ | task
    · have hnone : sendTask address (.wrote wordBytes) ⟨heap, pipe, []⟩ = none := by
        unfold sendTask
        show (heap address).bind _ = _
        rw [hheap]
        rfl
      rw [sendTasks, hnone] at h
      cases h
    · rw [sendTasks, sendTask_wrote hheap] at h
      obtain ⟨tasks, htasks, hstream⟩ := ih h
      refine ⟨task :: tasks, ?_, ?_⟩
      · rw [List.map_cons, List.map_cons, htasks]
        exact congrArg (· :: tasks.map some) hheap
      · rw [hstream, List.flatMap_cons, List.append_assoc]

theorem fetchTasks_served (stack : Nat → UInt8) (tasks : List Task) {chunks : List (List UInt8)}
    (hserved : Served wordBytes chunks)
    (hstream : chunks.flatten = tasks.flatMap fun task => hostBytes wordBytes task.func) :
    fetchTasks stack tasks.length (chunks.map .data) = some (tasks.map Task.func, []) := by
  induction tasks generalizing chunks with
  | nil =>
    rw [List.flatMap_nil] at hstream
    cases chunks with
    | nil => rfl
    | cons chunk chunks =>
      have hchunk := hserved.1
      rw [List.flatten_cons, List.append_eq_nil_iff] at hstream
      rw [hstream.1] at hchunk
      exact absurd hchunk (lt_irrefl 0)
  | cons task tasks ih =>
    rw [List.flatMap_cons] at hstream
    obtain ⟨chunks', hfetch, hserved', hflat⟩ :=
      fetchTask_served stack hserved (length_hostBytes _ _) hstream
    rw [List.length_cons, fetchTasks, hfetch]
    show (fetchTasks stack tasks.length (chunks'.map .data)).bind _ = _
    rw [ih hserved' hflat, hostInt_hostBytes wordBytes task.func_lt]
    rfl

theorem funcs_eq_addresses_iff {sends : List (Nat × (Nat → Option Task))} {tasks : List Task}
    (h : sends.map (fun s => s.2 s.1) = tasks.map some) :
    tasks.map Task.func = sends.map Prod.fst ↔
      ∀ send ∈ sends, ∀ task, send.2 send.1 = some task → task.func = send.1 := by
  induction sends generalizing tasks with
  | nil =>
    cases tasks with
    | nil => simp
    | cons task tasks => cases h
  | cons send sends ih =>
    cases tasks with
    | nil => cases h
    | cons task tasks =>
      rw [List.map_cons, List.map_cons, List.cons.injEq] at h
      obtain ⟨hsend, htasks⟩ := h
      have hrest := ih htasks
      rw [List.map_cons, List.map_cons, List.cons.injEq, List.forall_mem_cons, hrest, hsend]
      simp

/-- **Pointers across the pipe.** Whatever is written in full and however the reads split it,
`fetch_task` returns the addresses passed to `send_task` if and only if each of the tasks, when it
was sent, had its own address as its function. -/
theorem fetchesSent_iff (stack : Nat → UInt8) {sends : List (Nat × (Nat → Option Task))}
    {stream : List UInt8} {chunks : List (List UInt8)} (hsend : sendTasks [] sends = some stream)
    (hserved : Served wordBytes chunks) (hstream : chunks.flatten = stream) :
    FetchesSent stack sends chunks ↔
      ∀ send ∈ sends, ∀ task, send.2 send.1 = some task → task.func = send.1 := by
  obtain ⟨tasks, htasks, rfl⟩ := sendTasks_eq hsend
  have hlength : sends.length = tasks.length := by
    rw [← List.length_map (f := fun s : Nat × (Nat → Option Task) => s.2 s.1), htasks,
      List.length_map]
  rw [List.nil_append] at hstream
  rw [FetchesSent, hlength, fetchTasks_served stack tasks hserved hstream, Option.some_inj,
    Prod.mk.injEq, and_iff_left rfl]
  exact funcs_eq_addresses_iff htasks

end model

def taskAt64 : @Task lp64 := @Task.mk lp64 64 7 (by decide +kernel) (by decide +kernel)

/-- The address 4096 is sent, and 64 comes out of the pipe. -/
theorem sent_address_not_fetched :
    let sends : List (Nat × (Nat → Option (@Task lp64))) :=
      [(4096, Function.update (fun _ => none) 4096 (some taskAt64))]
    let chunks : List (List UInt8) := [[64, 0, 0], [0, 0, 0, 0, 0]]
    @sendTasks lp64 [] sends = some chunks.flatten ∧ @Served lp64 8 chunks ∧
      @fetchTasks lp64 (fun _ => 0) 1 (chunks.map .data) = some ([64], []) ∧
      ¬ @FetchesSent lp64 (fun _ => 0) sends chunks := by
  refine ⟨rfl, by decide, rfl, ?_⟩
  intro h
  have hfetched : some [64] = some [4096] := congrArg (Option.map Prod.fst) h
  exact absurd hfetched (by decide)

theorem fetchesSent_iff_own_address :
    @FetchesSent lp64 (fun _ => 0) [(64, Function.update (fun _ => none) 64 (some taskAt64))]
      [[64, 0, 0], [0, 0, 0, 0, 0]] := by
  refine (@fetchesSent_iff lp64 (fun _ => 0) _ [64, 0, 0, 0, 0, 0, 0, 0] _ rfl (by decide) rfl).mpr ?_
  intro send hsend task htask
  rw [List.mem_singleton.mp hsend] at htask ⊢
  cases htask
  rfl

/-- The writing end of the pipe is closed before anything is written: every read returns 0. -/
theorem fetch_never_ends_at_eof :
    let eof : Nat → ReadResult := fun _ => .data []
    (∀ n, Along (@fetchStep lp64) LegalRead (@FetchState.start lp64 fun _ => 0) (firstReads eof n)) ∧
      (∀ n, @fetchTask lp64 (fun _ => 0) (firstReads eof n) = none) ∧
      ¬ @FetchEnds lp64 (fun _ => 0) eof := by
  intro eof
  have heof : ∀ n, ∀ res ∈ firstReads eof n, res = .data [] := by
    intro n res hres
    obtain ⟨i, -, rfl⟩ := List.mem_map.mp hres
    rfl
  have hlegal : ∀ n, Along (@fetchStep lp64) LegalRead (@FetchState.start lp64 fun _ => 0)
      (firstReads eof n) := by
    intro n
    exact @along_legalRead_eof lp64 _ _ (heof n)
  have hnone : ∀ n, @fetchTask lp64 (fun _ => 0) (firstReads eof n) = none := by
    intro n
    rw [← Option.not_isSome_iff_eq_none, @fetchTask_isSome_iff lp64 _ _ (hlegal n),
      received_eof (heof n)]
    intro h
    rcases h with h | h
    · have := heof n _ h
      cases this
    · exact absurd h (by decide)
  refine ⟨hlegal, hnone, ?_⟩
  intro h
  obtain ⟨⟨n, hn⟩, -⟩ := h
  rw [hnone] at hn
  cases hn

/-- A pointer in two reads. -/
theorem fetchEnds_iff_two_reads :
    @FetchEnds lp64 (fun _ => 0)
      (fun n => if n = 0 then .data [64, 0, 0] else .data [0, 0, 0, 0, 0]) := by
  refine (@fetchEnds_iff lp64 _ _ ?_).mpr (Or.inr ⟨2, by decide⟩)
  intro n
  rcases n with _ | _ | n
  · trivial
  · refine @along_legalRead_cons lp64 _ (@FetchState.Inv.start lp64 _) _ (by decide) _ ?_
    intro f _ _
    trivial
  · rw [firstReads_succ, firstReads_succ]
    refine @along_legalRead_cons lp64 _ (@FetchState.Inv.start lp64 _) _ (by decide) _ ?_
    intro f hinv hcount
    refine @along_legalRead_cons lp64 _ hinv _ (by rw [hcount]; decide) _ ?_
    intro f' _ hcount'
    exact @along_legalRead_of_zero lp64 _ (by rw [hcount', hcount]; decide) _

end Bluetoothd

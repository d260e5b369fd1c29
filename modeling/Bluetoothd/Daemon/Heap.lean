import Bluetoothd.Daemon.Sockets
import Bluetoothd.Lib.Ledger
import Bluetoothd.Lib.Transition
import Bluetoothd.Service.Reply

/-!
# The blocks of the heap

A command obtains blocks for the values of properties and for its reply. `settled_of_commands` says
that over whole sequences of commands, whatever modules are registered, every block is released or
handed over with a message, and no block twice: the discipline of one handler composes. A block that
`malloc` returns with `errno` set is not obtained: `create_pdu_wbuf` and `read_bt_property_t` take the
call for a failed one, and it is lost.
-/

namespace Bluetoothd

open Platform Transition

def givenOf (evs : List Event) : List Nat := freesOf evs ++ (sentOf evs).map fun msg => msg.wbuf.block

def SettledLog (n m : Nat) (evs : List Event) : Prop := Settled n m (mallocsOf evs) (givenOf evs)

structure EnvCmd where
  env : Env
  calls : Nat
  cmd : Pdu

section heap

variable {n m k : Nat} {evs evs' : List Event}

theorem givenOf_append : (givenOf (evs ++ evs')).Perm (givenOf evs ++ givenOf evs') := by
  unfold givenOf
  rw [freesOf_append, sentOf_append, List.map_append, List.append_assoc, List.append_assoc]
  exact (List.perm_append_comm_assoc _ _ _).append_left _

theorem SettledLog.append (h : SettledLog n m evs) (h' : SettledLog m k evs') :
    SettledLog n k (evs ++ evs') := by
  unfold SettledLog
  rw [mallocsOf_append]
  exact (Settled.append h h').of_perm givenOf_append

theorem SettledLog.nil (h : n ≤ m) : SettledLog n m [] := Settled.none h

end heap

variable {H α β : Type}

/-! ## New blocks -/

/-- The program allocates blocks that the counter has not gone through yet. -/
def Fresh (x : Act H α) : Prop :=
  Emits x fun n _ evs m => n ≤ m ∧ ∀ block ∈ mallocsOf evs, n ≤ block ∧ block < m

section fresh

variable {x : Act H α} {f : α → Act H β}

theorem Fresh.pure (a : α) : Fresh (pure a : Act H α) :=
  Emits.pure fun n => ⟨le_refl n, by simp [mallocsOf]⟩

theorem Fresh.fault (e : Fault) : Fresh (Prog.fault e : Act H α) :=
  fun w => ⟨[], (List.append_nil _).symm, le_refl _, by simp [mallocsOf]⟩

theorem Fresh.emit {e : Event} (h : mallocsOf [e] = []) : Fresh (Bluetoothd.emit e : Act H Unit) :=
  fun w => ⟨[e], rfl, le_refl _, by simp [h]⟩

theorem Fresh.bind (hx : Fresh x) (hf : ∀ a, Fresh (f a)) : Fresh (x >>= f) := by
  refine Emits.bind hx hf ?_ fun _ _ _ _ h => h
  rintro n a evs m r evs' k ⟨hle, hnew⟩ ⟨hle', hnew'⟩
  refine ⟨hle.trans hle', fun block hblock => ?_⟩
  rw [mallocsOf_append, List.mem_append] at hblock
  rcases hblock with hblock | hblock
  · have hblock := hnew block hblock
    omega
  · have hblock := hnew' block hblock
    omega

theorem Fresh.get {f : World H → Act H β} (h : ∀ w, Fresh (f w)) : Fresh (Prog.get >>= f) := by
  intro w
  rw [Prog.run_get_bind]
  exact h w w

theorem Fresh.sendPdu (pointer : World H → Option SendPdu) (msg : Message) :
    Fresh (Bluetoothd.sendPdu pointer msg) := by
  unfold Bluetoothd.sendPdu
  refine Fresh.get fun w => ?_
  cases pointer w with
  | none => exact Fresh.fault _
  | some cb =>
    cases cb
    exact Fresh.emit rfl

theorem Decodes.fresh {x : Act H (Option α)} {fmt : String} {held : α → List Nat}
    (h : Decodes x fmt held) : Fresh x :=
  Emits.mono h fun _ _ _ _ hdecoding => ⟨hdecoding.le, hdecoding.fresh⟩

theorem Releases.fresh {x : Act H Unit} {blocks : List Nat} (h : Releases x blocks) : Fresh x := by
  intro w
  obtain ⟨-, hmallocs, -⟩ := observe_frees blocks
  rw [h w]
  exact ⟨blocks.map .free, rfl, le_refl _, by simp [hmallocs]⟩

theorem Performs.fresh {x : Act H Status} {op : Op} (h : Performs x op) : Fresh x := by
  refine Emits.mono h ?_
  rintro n r evs m ⟨rfl, inner, hinner, hevs⟩
  obtain ⟨-, hmallocs, -⟩ := observe_internal hinner
  have hnone : mallocsOf evs = [] := by
    rcases hevs with ⟨fault, -, rfl⟩ | ⟨status, res, -, rfl, -⟩
    · exact hmallocs
    · show mallocsOf (inner ++ _) = []
      rw [mallocsOf_append, hmallocs]
      rfl
  exact ⟨le_refl _, by simp [hnone]⟩

end fresh

section commands

variable [Platform] {env : Env}

theorem Fresh.newPduWbuf (maxdatalen : Nat) : Fresh (Bluetoothd.newPduWbuf env maxdatalen : Act H _) := by
  intro w
  rcases hmem : env.obtained w.mallocs with _ | mem
  · rw [run_newPduWbuf_none hmem]
    exact ⟨[], (List.append_nil _).symm, Nat.le_succ _, by simp [mallocsOf]⟩
  · rw [run_newPduWbuf_some hmem]
    exact ⟨[.malloc .wbuf w.mallocs], rfl, Nat.le_succ _, by simp [mallocsOf, World.push]⟩

theorem IsServe.fresh {fmt : String} {cmd : Pdu} {build : WBuf → Message}
    {handle : Act Handler Status} (h : IsServe env fmt cmd build handle) : Fresh handle := by
  obtain ⟨α, short, noMem, decode, release, held, op, ops, pointer, rfl, -, -, hdecode, hrelease,
    hop⟩ := h
  refine hdecode.fresh.bind fun args => ?_
  cases args with
  | none => exact Fresh.pure _
  | some args =>
    refine (Fresh.newPduWbuf 0).bind fun wbuf => ?_
    cases wbuf with
    | none => exact (hrelease args).fresh.bind fun _ => Fresh.pure _
    | some wbuf =>
      refine (hop args).fresh.bind fun status => ?_
      unfold conclude
      split
      · refine Fresh.bind (Fresh.emit rfl) fun _ => ?_
        exact (hrelease args).fresh.bind fun _ => Fresh.pure _
      · refine (hrelease args).fresh.bind fun _ => ?_
        exact (Fresh.sendPdu _ _).bind fun _ => Fresh.pure _

/-! ## Commands -/

theorem settled_table {handler : Handler} {opcode : UInt8} {handle : Pdu → Act Handler Status}
    (h : handler.table env opcode = some handle) {cmd : Pdu} {w w' : World Handler} {status : Status}
    (hrun : (handle cmd).run w = (.ok status, w')) :
    ∃ evs, w'.log = w.log ++ evs ∧ SettledLog w.mallocs w'.mallocs evs := by
  obtain ⟨evs, hlog, hdisciplined⟩ := table_disciplined env h cmd w
  obtain ⟨evs', hlog', hle, hfresh⟩ := (table_isServe env h cmd).fresh w
  obtain rfl : evs = evs' := List.append_cancel_left (hlog.symm.trans hlog')
  rw [hrun] at hlog hdisciplined hle hfresh
  exact ⟨evs, hlog, hle, hfresh, hdisciplined.nodup, hdisciplined.released status rfl⟩

theorem settled_dispatch {cmd : Pdu} {w w' : World Handler} {status : Status}
    (hrun : (dispatch env cmd).run w = (.ok status, w')) :
    ∃ evs, w'.log = w.log ++ evs ∧ SettledLog w.mallocs w'.mallocs evs := by
  have hquiet : w = w' → ∃ evs, w'.log = w.log ++ evs ∧ SettledLog w.mallocs w'.mallocs evs := by
    rintro rfl
    exact ⟨[], (List.append_nil _).symm, SettledLog.nil (le_refl _)⟩
  rcases hservice : w.serviceHandler cmd.service with _ | handler
  · rw [dispatch_unsupported hservice] at hrun
    exact hquiet (congrArg Prod.snd hrun)
  rw [dispatch_eq hservice] at hrun
  rcases htable : handler.table env cmd.opcode with _ | handle
  · rw [Handler.handle_unsupported htable] at hrun
    exact hquiet (congrArg Prod.snd hrun)
  · rw [Handler.handle_eq htable] at hrun
    exact settled_table htable hrun

theorem run_handlePdu_fault {cmd : Pdu} {w w' : World Handler} {fault : Fault}
    (h : (dispatch env cmd).run w = (.error fault, w')) (calls : Nat) :
    (handlePdu env calls cmd).run w = (.error fault, w') := by
  unfold dispatch at h
  rw [Prog.run_get_bind] at h
  unfold handlePdu
  rw [Prog.run_get_bind, Prog.run_bind_error h]

/-- `handle_pdu` returns without an error reply of its own: that is never finished. -/
theorem settled_handlePdu {calls : Nat} {cmd : Pdu} {w w' : World Handler} {res : Int}
    (hrun : (handlePdu env calls cmd).run w = (.ok res, w')) :
    ∃ evs, w'.log = w.log ++ evs ∧ SettledLog w.mallocs w'.mallocs evs := by
  rcases hdispatch : (dispatch env cmd).run w with ⟨fault | status, w₁⟩
  · have hfault := run_handlePdu_fault hdispatch calls
    rw [hrun] at hfault
    cases hfault
  obtain ⟨evs, hlog, hsettled⟩ := settled_dispatch hdispatch
  by_cases hstatus : status = Status.success
  · rw [hstatus] at hdispatch
    rw [run_handlePdu_success hdispatch] at hrun
    cases hrun
    exact ⟨evs, hlog, hsettled⟩
  · rcases hmem : env.obtained w₁.mallocs with _ | mem
    · rw [run_handlePdu_noMem hstatus hdispatch hmem calls] at hrun
      cases hrun
      refine ⟨evs, hlog, ?_⟩
      have hmore := hsettled.append (SettledLog.nil (Nat.le_succ w₁.mallocs))
      rwa [List.append_nil] at hmore
    · have hdepth := run_handlePdu_failed hstatus hdispatch hmem calls
      rw [hrun] at hdepth
      cases hdepth

theorem settled_handlePduResult {calls : Nat} {cmd : Pdu} {w w' : World Handler} {res : Int}
    (h : handlePduResult env calls cmd w = some (res, w')) :
    ∃ evs, w'.log = w.log ++ evs ∧ SettledLog w.mallocs w'.mallocs evs := by
  unfold handlePduResult at h
  split at h <;> cases h
  exact settled_handlePdu ‹_›

def EnvCmd.handle (w : World Handler) (c : EnvCmd) : Option (World Handler) :=
  (handlePduResult c.env c.calls c.cmd w).map Prod.snd

/-- **No command keeps a block that it obtained.** Over every sequence of commands that returns,
whatever is registered and whatever the HAL does, the blocks that were released or handed over with a
message are those that were obtained, each of them once. -/
theorem settled_of_commands {cmds : List EnvCmd} {w w' : World Handler}
    (hrun : run EnvCmd.handle w cmds = some w') :
    ∃ evs, w'.log = w.log ++ evs ∧ SettledLog w.mallocs w'.mallocs evs := by
  induction cmds generalizing w with
  | nil =>
    cases hrun
    exact ⟨[], (List.append_nil _).symm, SettledLog.nil (le_refl _)⟩
  | cons c cmds ih =>
    rw [run_cons, Option.bind_eq_some_iff] at hrun
    obtain ⟨w₁, hstep, hrun⟩ := hrun
    obtain ⟨⟨res, _⟩, hresult, rfl⟩ := Option.map_eq_some_iff.mp hstep
    obtain ⟨evs, hlog, hsettled⟩ := settled_handlePduResult hresult
    obtain ⟨evs', hlog', hsettled'⟩ := ih hrun
    refine ⟨evs ++ evs', ?_, hsettled.append hsettled'⟩
    rw [hlog', hlog, List.append_assoc]

end commands

/-- A property is set; then a command is not supported, and there is no memory to say so. -/
def setAndRefused : List EnvCmd :=
  [⟨.obliging, 0, ⟨serviceBtCore, 0x05, 5, [1, 2, 0, 7, 8], by decide⟩⟩,
    ⟨{ Env.obliging with malloc := fun _ => .failed }, 0, initPdu [] serviceBtCore 0x40⟩]

theorem settled_of_commands_setAndRefused :
    ∃ w', run (@EnvCmd.handle lp64) .registered setAndRefused = some w' ∧
      mallocsOf w'.log = [0, 1] ∧ freesOf w'.log = [0] ∧
      ∃ evs, w'.log = [] ++ evs ∧ SettledLog 0 w'.mallocs evs :=
  ⟨_, rfl, rfl, rfl, @settled_of_commands lp64 setAndRefused .registered _ rfl⟩

end Bluetoothd

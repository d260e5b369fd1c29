import Bluetoothd.Daemon.Sockets
import Bluetoothd.Service.Ownership
import Bluetoothd.Service.Reply

/-!
# A daemon without modules

After its start the daemon serves CORE alone. No command can register another service, and so no
command changes anything but the log and the heap (`Bare.handlePdu`).
-/

namespace Bluetoothd

open Platform Buffer

variable {α β : Type} {w w' : World Handler}

/-- CORE is the only service, and no handle of the HAL is held. -/
structure Bare (w : World Handler) : Prop where
  core : w.serviceHandler serviceCore = some .core
  others : ∀ service, service ≠ serviceCore → w.serviceHandler service = none
  btDevice : w.btDevice = none
  btInterface : w.btInterface = none
  btsockInterface : w.btsockInterface = none

theorem Bare.congr (h : Bare w) (hsame : SameGlobals w w') : Bare w' := by
  obtain ⟨log, m, rfl⟩ := hsame
  exact ⟨h.core, h.others, h.btDevice, h.btInterface, h.btsockInterface⟩

theorem Bare.consistent (h : Bare w) : Consistent w := by
  have hcore := h.others serviceBtCore (by decide)
  have hsock := h.others serviceBtSock (by decide)
  refine ⟨?_, ?_, ?_⟩
  · rw [hcore, h.btDevice]
    exact iff_of_false nofun fun hx => by cases hx.1
  · rw [hsock, h.btsockInterface]
    exact iff_of_false nofun nofun
  · rw [hsock]
    exact nofun

def ModuleCmd.bareResult : ModuleCmd → Int
  | .register _ _ _ => -1
  | .unregister _ service => if IsModule service then 0 else -1

/-- The pointers that it asserts: `uninit_bt_sock` comes to its assertion, and `register_bt_sock` is
out of reach. -/
def ModuleCmd.bareAsserted : ModuleCmd → List (Option Nat)
  | .register _ _ _ => []
  | .unregister _ service => if service = serviceBtSock then [none] else []

theorem Bare.exec_eq (h : Bare w) (c : ModuleCmd) : c.exec.run w
    = (.ok c.bareResult, { w with log := w.log ++ c.bareAsserted.map .asserted }) := by
  cases c with
  | register env service mode =>
    rw [h.consistent.run_register env service mode, ModuleCmd.bareAsserted, List.map_nil,
      List.append_nil]
    rfl
  | unregister env service =>
    rw [ModuleCmd.bareResult, ModuleCmd.bareAsserted]
    by_cases hmodule : IsModule service
    · rw [if_pos hmodule]
      rcases hmodule with rfl | rfl
      · rw [run_unregister_btCore, setHandler_empty (h.others serviceBtCore (by decide)),
          if_neg (by decide), List.map_nil, List.append_nil]
      · have hempty : { w.push (.asserted w.btsockInterface) with btsockInterface := none }
            = w.push (.asserted none) := by
          rw [h.btsockInterface]
          show ({ w.push (.asserted none) with btsockInterface := none } : World Handler) = _
          rw [← h.btsockInterface]
          rfl
        have hslot : (w.push (.asserted none)).serviceHandler serviceBtSock = none :=
          h.others serviceBtSock (by decide)
        rw [run_unregister_btSock, hempty, setHandler_empty hslot, if_pos rfl]
        rfl
    · have hsock : service ≠ serviceBtSock := fun heq => hmodule (.inr heq)
      rw [run_unregister_refused env hmodule, if_neg hmodule, if_neg hsock, List.map_nil,
        List.append_nil]

theorem Bare.run_moduleCall (h : Bare w) (op : Op) (c : ModuleCmd) :
    (moduleCall op c.exec).run w = (.ok c.bareResult, World.push
      { w with log := w.log ++ [.call op] ++ c.bareAsserted.map .asserted }
      (.result op c.bareResult)) := by
  have hpush : Bare (w.push (.call op)) := h.congr ⟨_, _, rfl⟩
  exact run_moduleCall_ok (hpush.exec_eq c)

/-! ## Programs that leave a bare daemon as it is -/

/-- In a bare daemon, `x` changes nothing but the log and the heap. -/
def Still (x : Act Handler α) : Prop := ∀ w, Bare w → SameGlobals w (x.run w).2

theorem Still.pure (a : α) : Still (pure a : Act Handler α) := fun w _ => SameGlobals.refl w

theorem Still.fault (e : Fault) : Still (Prog.fault e : Act Handler α) := fun w _ => SameGlobals.refl w

theorem Still.emit (e : Event) : Still (Bluetoothd.emit e) := fun _ _ => ⟨_, _, rfl⟩

theorem Still.bind {x : Act Handler α} {f : α → Act Handler β} (hx : Still x)
    (hf : ∀ a, Still (f a)) : Still (x >>= f) := by
  intro w hw
  have hsame := hx w hw
  rcases hrun : x.run w with ⟨e | a, w₁⟩ <;> rw [hrun] at hsame
  · rw [Prog.run_bind_error hrun]
    exact hsame
  · rw [Prog.run_bind_ok hrun]
    exact hsame.trans (hf a w₁ (hw.congr hsame))

theorem Still.get {f : World Handler → Act Handler β} (h : ∀ w, Still (f w)) :
    Still (Prog.get >>= f) := by
  intro w hw
  rw [Prog.run_get_bind]
  exact h w w hw

theorem Still.sendPdu (pointer : World Handler → Option SendPdu) (msg : Message) :
    Still (Bluetoothd.sendPdu pointer msg) := by
  unfold Bluetoothd.sendPdu
  refine Still.get fun w => ?_
  rcases pointer w with _ | cb
  · exact Still.fault _
  · cases cb
    exact Still.emit _

theorem Still.conclude {cmd : Pdu} {release : Act Handler Unit} (hrelease : Still release)
    (pointer : World Handler → Option SendPdu) (build : WBuf → Message) (wbuf : WBuf)
    (status : Status) : Still (Bluetoothd.conclude cmd release pointer build wbuf status) := by
  unfold Bluetoothd.conclude
  split
  · exact (Still.emit _).bind fun _ => hrelease.bind fun _ => Still.pure _
  · exact hrelease.bind fun _ => (Still.sendPdu _ _).bind fun _ => Still.pure _

theorem Still.moduleCall (op : Op) (c : ModuleCmd) : Still (Bluetoothd.moduleCall op c.exec) := by
  refine (Still.emit _).bind fun _ => Still.bind ?_ fun _ => (Still.emit _).bind fun _ => Still.pure _
  intro w hw
  rw [hw.exec_eq c]
  exact ⟨_, _, rfl⟩

section platform

variable [Platform] {env : Env}

theorem Still.newPduWbuf (maxdatalen : Nat) : Still (Bluetoothd.newPduWbuf env maxdatalen) := by
  intro w _
  rcases hmem : env.obtained w.mallocs with _ | mem
  · rw [run_newPduWbuf_none hmem]
    exact ⟨_, _, rfl⟩
  · rw [run_newPduWbuf_some hmem]
    exact ⟨_, _, rfl⟩

theorem Still.readFields (cmd : Pdu) (off : Nat) (fmt : String) (args : List Dst) :
    Still (Bluetoothd.readFields cmd off fmt args) := by
  unfold Bluetoothd.readFields
  split
  · exact Still.fault _
  · exact (Still.emit _).bind fun _ => Still.pure _

theorem Still.coreServe {cmd : Pdu} {decode : Act Handler (Option α)} {op : α → Act Handler Int}
    (hdecode : Still decode) (hop : ∀ a, Still (op a)) :
    Still (Bluetoothd.coreServe env cmd decode op) := by
  refine hdecode.bind fun args => ?_
  rcases args with _ | args
  · exact Still.pure _
  refine (Still.newPduWbuf 0).bind fun wbuf => ?_
  rcases wbuf with _ | wbuf
  · exact (Still.pure _).bind fun _ => Still.pure _
  refine Still.bind ?_ fun status => Still.conclude (Still.pure _) _ _ _ _
  exact (hop args).bind fun _ => Still.pure _

theorem Still.byteArg (cmd : Pdu) : Still (Bluetoothd.byteArg cmd) := by
  refine (Still.readFields _ _ _ _).bind fun a => ?_
  split <;> exact Still.pure _

theorem Still.core {opcode : UInt8} {handler : Pdu → Act Handler Status}
    (h : coreTable env opcode = some handler) (cmd : Pdu) : Still (handler cmd) := by
  unfold coreTable at h
  split at h <;> cases h
  · refine Still.coreServe ((Still.readFields _ _ _ _).bind fun a => ?_) fun a =>
      Still.moduleCall _ (.register env a.1 a.2)
    split <;> exact Still.pure _
  · exact Still.coreServe (Still.byteArg cmd) fun service =>
      Still.moduleCall _ (.unregister env service)

theorem Bare.dispatch_cases (h : Bare w) (env : Env) (cmd : Pdu) :
    (cmd.service = serviceCore → coreTable env cmd.opcode = none) ∧
      (dispatch env cmd).run w = (.ok Status.unsupported, w) ∨
    cmd.service = serviceCore ∧ ∃ handler, coreTable env cmd.opcode = some handler ∧
      (dispatch env cmd).run w = (handler cmd).run w := by
  by_cases hservice : cmd.service = serviceCore
  · have hcore : w.serviceHandler cmd.service = some .core := by rw [hservice, h.core]
    rw [dispatch_eq hcore]
    rcases htable : Handler.core.table env cmd.opcode with _ | handler
    · left
      rw [Handler.handle_unsupported htable]
      exact ⟨fun _ => htable, rfl⟩
    · right
      exact ⟨hservice, handler, htable, by rw [Handler.handle_eq htable]⟩
  · left
    exact ⟨fun heq => absurd heq hservice, dispatch_unsupported (h.others _ hservice)⟩

theorem Still.dispatch (env : Env) (cmd : Pdu) : Still (Bluetoothd.dispatch env cmd) := by
  intro w hw
  rcases hw.dispatch_cases env cmd with ⟨-, hrun⟩ | ⟨-, handler, htable, hrun⟩
  · rw [hrun]
    exact SameGlobals.refl w
  · rw [hrun]
    exact Still.core htable cmd w hw

/-- **Handling a command leaves a bare daemon bare**, and all its pointers as they are. -/
theorem Still.handlePdu (env : Env) (calls : Nat) (cmd : Pdu) :
    Still (Bluetoothd.handlePdu env calls cmd) := by
  intro w hw
  refine Still.bind (Still.dispatch env cmd) (fun status => ?_) w hw
  split
  · exact Still.pure _
  refine (Still.newPduWbuf 0).bind fun wbuf => ?_
  rcases wbuf with _ | wbuf
  · exact Still.pure _
  dsimp only
  split
  · exact Still.fault _
  · exact (Still.emit _).bind fun _ => Still.pure _

theorem Bare.handlePduResult (h : Bare w) {calls : Nat} {cmd : Pdu} {res : Int}
    (hrun : handlePduResult env calls cmd w = some (res, w')) : SameGlobals w w' := by
  have hsame := Still.handlePdu env calls cmd w h
  unfold Bluetoothd.handlePduResult at hrun
  split at hrun
  · rename_i heq
    rw [heq] at hsame
    cases hrun
    exact hsame
  · cases hrun

end platform

end Bluetoothd

import Bluetoothd.Server.Runs

/-!
# The Bluetooth stack is out of reach

The daemon serves CORE alone, and CORE opens no device and calls no interface unless it registers a
module, which it never does. `isolated_of_run` says that in no state that a run of the daemon reaches
anything of the HAL has been opened or called.
-/

namespace Bluetoothd

open Platform Transition

/-! ## Events of CORE -/

def Op.OfCore : Op → Prop
  | .registerModule _ _ => True
  | .unregisterModule _ => True
  | _ => False

def Event.Within : Event → Prop
  | .call op => op.OfCore
  | .result op _ => op.OfCore
  | .opened _ => False
  | .closed _ => False
  | _ => True

/-- The worlds differ in the blocks allocated, and in events within the daemon. -/
def StaysWithin (w w' : World Handler) : Prop :=
  ∃ evs m, w' = { w with log := w.log ++ evs, mallocs := m } ∧ ∀ e ∈ evs, e.Within

section within

variable {w w₁ w' : World Handler}

theorem StaysWithin.refl (w : World Handler) : StaysWithin w w :=
  ⟨[], w.mallocs, by rw [List.append_nil], by simp⟩

theorem StaysWithin.trans (h : StaysWithin w w₁) (h' : StaysWithin w₁ w') : StaysWithin w w' := by
  obtain ⟨evs, m, rfl, hevs⟩ := h
  obtain ⟨evs', m', rfl, hevs'⟩ := h'
  refine ⟨evs ++ evs', m', by rw [← List.append_assoc], fun e he => ?_⟩
  exact (List.mem_append.mp he).elim (hevs e) (hevs' e)

theorem StaysWithin.push {e : Event} (h : e.Within) : StaysWithin w (w.push e) :=
  ⟨[e], w.mallocs, rfl, by simpa using h⟩

theorem StaysWithin.sameGlobals (h : StaysWithin w w') : SameGlobals w w' := by
  obtain ⟨evs, m, rfl, -⟩ := h
  exact ⟨_, m, rfl⟩

end within

/-! ## Programs that stay within the daemon -/

variable {α β : Type}

def Confined (x : Act Handler α) : Prop := ∀ w, Bare w → StaysWithin w (x.run w).2

namespace Confined

theorem pure (a : α) : Confined (pure a : Act Handler α) := fun w _ => .refl w

theorem fault (e : Fault) : Confined (Prog.fault e : Act Handler α) := fun w _ => .refl w

theorem emit (e : Event) (h : e.Within) : Confined (Bluetoothd.emit e) := fun _ _ => .push h

theorem bind {x : Act Handler α} {f : α → Act Handler β} (hx : Confined x)
    (hf : ∀ a, Confined (f a)) : Confined (x >>= f) := by
  intro w hw
  have hwithin := hx w hw
  rcases hrun : x.run w with ⟨e | a, w₁⟩ <;> rw [hrun] at hwithin
  · rw [Prog.run_bind_error hrun]
    exact hwithin
  · rw [Prog.run_bind_ok hrun]
    exact hwithin.trans (hf a w₁ (hw.congr hwithin.sameGlobals))

theorem get {f : World Handler → Act Handler β} (h : ∀ w, Confined (f w)) :
    Confined (Prog.get >>= f) := by
  intro w hw
  rw [Prog.run_get_bind]
  exact h w w hw

theorem sendPdu (pointer : World Handler → Option SendPdu) (msg : Message) :
    Confined (Bluetoothd.sendPdu pointer msg) := by
  refine Confined.get fun w => ?_
  rcases pointer w with _ | ⟨⟨⟩⟩
  · exact Confined.fault _
  · exact Confined.emit (.send msg) trivial

theorem moduleCall (op : Op) (hop : op.OfCore) (c : ModuleCmd) :
    Confined (Bluetoothd.moduleCall op c.exec) := by
  refine (Confined.emit (.call op) hop).bind fun _ => Confined.bind ?_ fun res =>
    (Confined.emit (.result op res) hop).bind fun _ => Confined.pure _
  intro w hw
  rw [hw.exec_eq c]
  refine ⟨_, w.mallocs, rfl, fun e he => ?_⟩
  obtain ⟨pointer, -, rfl⟩ := List.mem_map.mp he
  trivial

section platform

variable [Platform] {env : Env}

theorem newPduWbuf (maxdatalen : Nat) : Confined (Bluetoothd.newPduWbuf env maxdatalen) := by
  intro w _
  rcases hmem : env.obtained w.mallocs with _ | mem
  · rw [run_newPduWbuf_none hmem]
    exact ⟨[], _, by rw [List.append_nil], by simp⟩
  · rw [run_newPduWbuf_some hmem]
    exact ⟨[.malloc .wbuf w.mallocs], _, rfl, by simp [Event.Within]⟩

theorem readFields (cmd : Pdu) (off : Nat) (fmt : String) (args : List Dst) :
    Confined (Bluetoothd.readFields cmd off fmt args) := by
  unfold Bluetoothd.readFields
  split
  · exact Confined.fault _
  · exact (Confined.emit (.read fmt _) trivial).bind fun _ => Confined.pure _

theorem coreServe {cmd : Pdu} {decode : Act Handler (Option α)} {op : α → Act Handler Int}
    (hdecode : Confined decode) (hop : ∀ a, Confined (op a)) :
    Confined (Bluetoothd.coreServe env cmd decode op) := by
  refine hdecode.bind fun args => ?_
  cases args with
  | none => exact Confined.pure _
  | some args =>
    refine (Confined.newPduWbuf 0).bind fun wbuf => ?_
    cases wbuf with
    | none => exact (Confined.pure _).bind fun _ => Confined.pure _
    | some wbuf =>
      refine Confined.bind ((hop args).bind fun _ => Confined.pure _) fun status => ?_
      unfold conclude
      split
      · refine (Confined.emit (.free wbuf.block) trivial).bind fun _ => ?_
        exact (Confined.pure _).bind fun _ => Confined.pure _
      · exact (Confined.pure _).bind fun _ => (Confined.sendPdu _ _).bind fun _ => Confined.pure _

theorem core {opcode : UInt8} {handler : Pdu → Act Handler Status}
    (h : coreTable env opcode = some handler) (cmd : Pdu) : Confined (handler cmd) := by
  unfold coreTable at h
  split at h <;> cases h
  · refine Confined.coreServe ((Confined.readFields _ _ _ _).bind fun a => ?_) fun a =>
      Confined.moduleCall (.registerModule a.1 a.2) trivial (.register env a.1 a.2)
    split <;> exact Confined.pure _
  · refine Confined.coreServe ((Confined.readFields _ _ _ _).bind fun a => ?_) fun service =>
      Confined.moduleCall (.unregisterModule service) trivial (.unregister env service)
    split <;> exact Confined.pure _

theorem dispatch (env : Env) (cmd : Pdu) : Confined (Bluetoothd.dispatch env cmd) := by
  intro w hw
  rcases hw.dispatch_cases env cmd with ⟨-, hrun⟩ | ⟨-, handler, htable, hrun⟩
  · rw [hrun]
    exact .refl w
  · rw [hrun]
    exact Confined.core htable cmd w hw

theorem handlePdu (env : Env) (calls : Nat) (cmd : Pdu) :
    Confined (Bluetoothd.handlePdu env calls cmd) := by
  intro w hw
  refine Confined.bind (Confined.dispatch env cmd) (fun status => ?_) w hw
  split
  · exact Confined.pure _
  refine (Confined.newPduWbuf 0).bind fun wbuf => ?_
  cases wbuf with
  | none => exact Confined.pure _
  | some wbuf =>
    dsimp only
    split
    · exact Confined.fault _
    · exact (Confined.emit (.send _) trivial).bind fun _ => Confined.pure _

end platform

end Confined

/-! ## The daemon -/

/-- No service but CORE is registered, and nothing of the HAL is held or has been opened or called. -/
structure Isolated (w : World Handler) : Prop extends NoModules w where
  log : ∀ e ∈ w.log, e.Within

section runs

variable [Platform] {d d' : Daemon} {i : IoEvent} {events : List IoEvent} {pipeFd listenFd : Nat}

theorem ServerInv.logs_within (h : ServerInv pipeFd listenFd d) (hlegal : LegalIo pipeFd listenFd d i)
    (hlog : ∀ e ∈ d.world.log, e.Within) (hio : d.io i = some d') : ∀ e ∈ d'.world.log, e.Within := by
  rcases (Daemon.io_effect hio).world_cases with heq | heq | heq | ⟨hfunc, cmd, status, hhandle⟩
  · rwa [heq]
  · rw [heq]
    exact hlog
  · rw [heq]
    exact hlog
  · have hbare := (h.bare hlegal.1 hfunc).1
    have hwithin := Confined.handlePdu i.env i.calls cmd d.world hbare
    unfold handlePduResult at hhandle
    split at hhandle
    case h_1 heq =>
      cases hhandle
      rw [heq] at hwithin
      obtain ⟨evs, m, heq, hevs⟩ := hwithin
      rw [show d'.world = _ from heq]
      exact fun e he => (List.mem_append.mp he).elim (hlog e) (hevs e)
    case h_2 => cases hhandle

/-- **No client gets at the Bluetooth stack.** In every state that a run of the daemon reaches, CORE
is the only service, no device has been opened and no function of the HAL has been called: commands
have done no more than ask CORE for modules. -/
theorem isolated_of_run (hpipe : pipeFd < maxNfds) (hlisten : listenFd < maxNfds)
    (hne : pipeFd ≠ listenFd)
    (hlegal : Along Daemon.io (LegalIo pipeFd listenFd) (.init pipeFd listenFd) events)
    (hrun : run Daemon.io (.init pipeFd listenFd) events = some d) : Isolated d.world := by
  have hboth : ServerInv pipeFd listenFd d ∧ ∀ e ∈ d.world.log, e.Within :=
    run_invariant (I := fun d => ServerInv pipeFd listenFd d ∧ ∀ e ∈ d.world.log, e.Within)
      (fun _ _ _ h hlegal hio => ⟨h.1.step hlegal hio, h.1.logs_within hlegal h.2 hio⟩)
      ⟨ServerInv.init hpipe hlisten hne, nofun⟩ hlegal hrun
  exact { toNoModules := hboth.1.control.noModules, log := hboth.2 }

end runs

set_option maxRecDepth 10000 in
theorem isolated_of_run_droppedClient :
    ∃ d, run (@Daemon.io ilp32) (.init 4 3) droppedClient = some d ∧
      callsOf d.world.log = [.unregisterModule serviceBtSock] ∧
      d.world.serviceHandler serviceBtSock = none ∧ Isolated d.world := by
  refine ⟨_, rfl, by decide +kernel, rfl, ?_⟩
  exact @isolated_of_run ilp32 _ droppedClient 4 3 (by decide) (by decide) (by decide) (by decide) rfl

end Bluetoothd

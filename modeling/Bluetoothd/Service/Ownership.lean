import Bluetoothd.Service.Modules

/-!
# Who owns the HAL handles

`Consistent` ties the registered services to the device and the interfaces that their registration
takes from the HAL. Registering and unregistering are meant to keep it, from any state that has it;
`along_owned_iff` says in which sequences of commands the code does.
-/

namespace Bluetoothd

open Transition

/-- Registered services own their handles, and BT_SOCK is only registered on top of BT_CORE. -/
structure Consistent (w : World Handler) : Prop where
  btCore : (w.serviceHandler serviceBtCore).isSome ↔ w.btDevice.isSome ∧ w.btInterface.isSome
  btSock : (w.serviceHandler serviceBtSock).isSome ↔ w.btsockInterface.isSome
  order : (w.serviceHandler serviceBtSock).isSome → (w.serviceHandler serviceBtCore).isSome

inductive ModuleCmd where
  | register (env : Env) (service mode : UInt8)
  | unregister (env : Env) (service : UInt8)

def ModuleCmd.exec : ModuleCmd → Act Handler Int
  | .register env service mode => coreRegisterModule (serviceFuncs env) service mode
  | .unregister env service => coreUnregisterModule (serviceFuncs env) service

def moduleStep (w : World Handler) (c : ModuleCmd) : Option (World Handler) :=
  match c.exec.run w with
  | (.ok _, w') => some w'
  | (.error _, _) => none

def KeepsConsistent (w : World Handler) (c : ModuleCmd) : Prop :=
  ∃ res w', c.exec.run w = (.ok res, w') ∧ Consistent w'

/-- What the registration of a service took has been given back, and it can be registered again. -/
structure GivenBack (w : World Handler) (service : UInt8) : Prop where
  btCore : service = serviceBtCore → w.btDevice = none ∧ w.btInterface = none
  btSock : service = serviceBtSock → w.btsockInterface = none
  again : ∃ env mode w', (ModuleCmd.register env service mode).exec.run w = (.ok 0, w')

def ModuleCmd.Unregisters (c : ModuleCmd) (w : World Handler) (service : UInt8) : Prop :=
  (w.serviceHandler service).isSome ∧ ∃ env, c = .unregister env service

/-- If the command unregisters a service and succeeds, the handles of the service are given back. -/
def GivesBack (w : World Handler) (c : ModuleCmd) : Prop :=
  ∀ service w', c.Unregisters w service → c.exec.run w = (.ok 0, w') → GivenBack w' service

/-! ## The two functions of `core.c` -/

variable {w : World Handler}

theorem run_register_empty (env : Env) {service : UInt8} (h : w.serviceHandler service = none)
    (mode : UInt8) : (ModuleCmd.register env service mode).exec.run w = (.ok (-1), w) := by
  show (coreRegisterModule (serviceFuncs env) service mode).run w = _
  unfold coreRegisterModule
  rw [Prog.run_get_bind, h]
  rfl

theorem run_registerBtCore_taken (env : Env) (h : w.btDevice.isSome) (mode : UInt8)
    (sendPduCb : Option SendPdu) : (registerBtCore env mode sendPduCb).run w = (.ok none, w) := by
  have hinit : (initBtCore env).run w = (.ok (-1), w) := by
    unfold initBtCore
    rw [Prog.run_get_bind, if_pos h]
    rfl
  unfold registerBtCore
  rw [Prog.run_bind_ok hinit]
  rfl

theorem run_registerBtSock_taken (env : Env) (h : w.btsockInterface.isSome) (mode : UInt8)
    (sendPduCb : Option SendPdu) : (registerBtSock env mode sendPduCb).run w = (.ok none, w) := by
  have hinit : (initBtSock env).run w = (.ok (-1), w) := by
    unfold initBtSock
    rw [Prog.run_get_bind, if_pos h]
    rfl
  unfold registerBtSock
  rw [Prog.run_bind_ok hinit]
  rfl

/-- In a consistent state nothing can be registered: what is not registered is refused by the
guard, and what is registered has its handles already. -/
theorem Consistent.run_register (h : Consistent w) (env : Env) (service mode : UInt8) :
    (ModuleCmd.register env service mode).exec.run w = (.ok (-1), w) := by
  rcases hslot : w.serviceHandler service with _ | handler
  · exact run_register_empty env hslot mode
  have hsome : (w.serviceHandler service).isSome := by rw [hslot]; rfl
  show (coreRegisterModule (serviceFuncs env) service mode).run w = _
  unfold coreRegisterModule registerService
  rw [Prog.run_get_bind, hslot, if_neg (by simp)]
  by_cases hcore : service = serviceBtCore
  · rw [hcore] at hsome
    rw [if_pos hcore]
    show ((registerBtCore env mode w.coreSendPdu) >>= _).run w = _
    rw [Prog.run_bind_ok (run_registerBtCore_taken env (h.btCore.mp hsome).1 mode _)]
    rfl
  by_cases hsock : service = serviceBtSock
  · rw [hsock] at hsome
    rw [if_neg hcore, if_pos hsock]
    show ((registerBtSock env mode w.coreSendPdu) >>= _).run w = _
    rw [Prog.run_bind_ok (run_registerBtSock_taken env (h.btSock.mp hsome) mode _)]
    rfl
  · rw [if_neg hcore, if_neg hsock]
    rfl

/-- The slot is cleared and the handles stay: `unregister_bt_core` does not call `uninit_bt_core`. -/
theorem run_unregister_btCore (env : Env) :
    (ModuleCmd.unregister env serviceBtCore).exec.run w
      = (.ok 0, w.setHandler serviceBtCore none) := rfl

theorem run_unregister_btSock (env : Env) :
    (ModuleCmd.unregister env serviceBtSock).exec.run w = (.ok 0,
      { w.push (.asserted w.btsockInterface) with btsockInterface := none }.setHandler
        serviceBtSock none) := rfl

theorem run_unregister_refused (env : Env) {service : UInt8} (h : ¬ IsModule service) :
    (ModuleCmd.unregister env service).exec.run w = (.ok (-1), w) := by
  obtain ⟨hcore, hsock⟩ := not_or.mp h
  show (coreUnregisterModule (serviceFuncs env) service).run w = _
  unfold coreUnregisterModule unregisterService
  rw [if_neg hcore, if_neg hsock]
  by_cases hservice : service = serviceCore
  · rw [if_pos hservice]
    rfl
  · rw [if_neg hservice]
    rfl

theorem Consistent.exec_cases (h : Consistent w) (c : ModuleCmd) :
    c.exec.run w = (.ok (-1), w) ∨
    (∃ env, c = .unregister env serviceBtCore ∧
      c.exec.run w = (.ok 0, w.setHandler serviceBtCore none)) ∨
    ∃ env, c = .unregister env serviceBtSock ∧ c.exec.run w = (.ok 0,
      { w.push (.asserted w.btsockInterface) with btsockInterface := none }.setHandler
        serviceBtSock none) := by
  cases c with
  | register env service mode => exact .inl (h.run_register env service mode)
  | unregister env service =>
    by_cases hmodule : IsModule service
    · rcases hmodule with rfl | rfl
      · exact .inr (.inl ⟨env, rfl, run_unregister_btCore env⟩)
      · exact .inr (.inr ⟨env, rfl, run_unregister_btSock env⟩)
    · exact .inl (run_unregister_refused env hmodule)

/-! ## What each command keeps -/

@[simp] theorem setHandler_self (service : UInt8) (handler : Option Handler) :
    (w.setHandler service handler).serviceHandler service = handler := Function.update_self ..

theorem setHandler_of_ne {service service' : UInt8} (h : service' ≠ service) (handler : Option Handler) :
    (w.setHandler service handler).serviceHandler service' = w.serviceHandler service' :=
  Function.update_of_ne h ..

theorem setHandler_empty {service : UInt8} (h : w.serviceHandler service = none) :
    w.setHandler service none = w := by
  unfold World.setHandler
  rw [← h, Function.update_eq_self]

theorem Consistent.unregister_btSock (h : Consistent w) (e : Event) :
    Consistent ({ w.push e with btsockInterface := none }.setHandler serviceBtSock none) where
  btCore := by
    rw [setHandler_of_ne (by decide)]
    exact h.btCore
  btSock := by
    rw [setHandler_self]
    exact iff_of_false nofun nofun
  order := by
    rw [setHandler_self]
    exact nofun

theorem Consistent.not_unregister_btCore (h : Consistent w)
    (hslot : (w.serviceHandler serviceBtCore).isSome) :
    ¬ Consistent (w.setHandler serviceBtCore none) := by
  intro hafter
  have hnone := hafter.btCore.mpr (h.btCore.mp hslot)
  rw [setHandler_self] at hnone
  cases hnone

/-- A slot that is empty stays so: unregistering a service is final. -/
theorem not_givenBack {service : UInt8} (h : w.serviceHandler service = none) :
    ¬ GivenBack w service := by
  intro hback
  obtain ⟨env, mode, w', hrun⟩ := hback.again
  rw [run_register_empty env h] at hrun
  cases hrun

theorem keepsConsistent_iff (h : Consistent w) (c : ModuleCmd) :
    KeepsConsistent w c ↔ ¬ c.Unregisters w serviceBtCore := by
  unfold KeepsConsistent
  rcases h.exec_cases c with hrun | ⟨env, rfl, hrun⟩ | ⟨env, rfl, hrun⟩
  · refine iff_of_true ⟨-1, w, hrun, h⟩ ?_
    intro hunregisters
    obtain ⟨-, env, rfl⟩ := hunregisters
    rw [run_unregister_btCore] at hrun
    cases (Prod.mk.inj hrun).1
  · rcases hslot : w.serviceHandler serviceBtCore with _ | handler
    · refine iff_of_true ⟨0, w, by rw [hrun, setHandler_empty hslot], h⟩ ?_
      intro hunregisters
      obtain ⟨hsome, -⟩ := hunregisters
      rw [hslot] at hsome
      cases hsome
    · have hsome : (w.serviceHandler serviceBtCore).isSome := by rw [hslot]; rfl
      refine iff_of_false ?_ (not_not_intro ⟨hsome, env, rfl⟩)
      intro hx
      obtain ⟨res, w', hrun', hw'⟩ := hx
      rw [hrun] at hrun'
      cases hrun'
      exact h.not_unregister_btCore hsome hw'
  · refine iff_of_true ⟨0, _, hrun, h.unregister_btSock _⟩ ?_
    intro hunregisters
    obtain ⟨-, env', heq⟩ := hunregisters
    exact absurd (ModuleCmd.unregister.inj heq).2 (by decide)

theorem Consistent.step {w' : World Handler} (h : Consistent w) {c : ModuleCmd}
    (hc : ¬ c.Unregisters w serviceBtCore) (hstep : moduleStep w c = some w') : Consistent w' := by
  obtain ⟨res, w'', hrun, hw''⟩ := (keepsConsistent_iff h c).mpr hc
  unfold moduleStep at hstep
  rw [hrun] at hstep
  cases hstep
  exact hw''

/-- No service that is unregistered is given back, since none can be registered again. -/
theorem keepsConsistent_and_givesBack_iff (h : Consistent w) (c : ModuleCmd) :
    KeepsConsistent w c ∧ GivesBack w c ↔ ∀ service, IsModule service → ¬ c.Unregisters w service := by
  constructor
  · rintro ⟨-, hback⟩ service hmodule hunregisters
    obtain ⟨hslot, env, rfl⟩ := hunregisters
    rcases hmodule with rfl | rfl
    · exact not_givenBack (setHandler_self _ _)
        (hback _ _ ⟨hslot, env, rfl⟩ (run_unregister_btCore env))
    · exact not_givenBack (setHandler_self _ _)
        (hback _ _ ⟨hslot, env, rfl⟩ (run_unregister_btSock env))
  · intro hc
    refine ⟨(keepsConsistent_iff h c).mpr (hc _ (.inl rfl)), fun service w' hunregisters hrun => ?_⟩
    by_cases hmodule : IsModule service
    · exact absurd hunregisters (hc service hmodule)
    · obtain ⟨-, env, rfl⟩ := hunregisters
      rw [run_unregister_refused env hmodule] at hrun
      cases (Prod.mk.inj hrun).1

/-- **Owners of the HAL handles.** From any consistent state and whatever the HAL does, all commands
of a run keep the state consistent if and only if none unregisters BT_CORE while it is registered;
and a service that is unregistered never gets registered again. -/
theorem along_owned_iff (h : Consistent w) (cmds : List ModuleCmd) :
    (Along moduleStep KeepsConsistent w cmds ↔
      Along moduleStep (fun w c => ¬ c.Unregisters w serviceBtCore) w cmds) ∧
    (Along moduleStep (fun w c => KeepsConsistent w c ∧ GivesBack w c) w cmds ↔
      Along moduleStep (fun w c => ∀ service, IsModule service → ¬ c.Unregisters w service) w cmds) := by
  have hall : Along moduleStep (fun _ _ => True) w cmds := along_of_forall (fun _ _ => trivial) w cmds
  constructor
  · exact along_iff (fun _ _ _ hw _ hc hstep => hw.step hc hstep)
      (fun _ c hw _ => keepsConsistent_iff hw c) h hall
  · exact along_iff (fun _ _ _ hw _ hc hstep => hw.step (hc _ (.inl rfl)) hstep)
      (fun _ c hw _ => keepsConsistent_and_givesBack_iff hw c) h hall

theorem Consistent.registered : Consistent .registered :=
  ⟨by decide, by decide, by decide⟩

/-- Unregistering BT_CORE keeps its device, and BT_SOCK cannot be registered a second time. -/
theorem unregister_btCore_keeps_device :
    Consistent .registered ∧
      ((ModuleCmd.unregister .obliging serviceBtCore).exec.run .registered).1 = .ok 0 ∧
      ((ModuleCmd.unregister .obliging serviceBtCore).exec.run .registered).2.btDevice = some 1 ∧
      ((ModuleCmd.unregister .obliging serviceBtCore).exec.run .registered).2.serviceHandler
        serviceBtCore = none ∧
      ¬ Along moduleStep KeepsConsistent .registered [.unregister .obliging serviceBtCore] ∧
      ¬ Along moduleStep (fun w c => KeepsConsistent w c ∧ GivesBack w c) .registered
        [.unregister .obliging serviceBtSock] := by
  refine ⟨.registered, rfl, rfl, rfl, ?_, ?_⟩
  · intro h
    obtain ⟨⟨res, w', hrun, hw'⟩, -⟩ := h
    cases hrun
    exact absurd hw'.btCore (by decide)
  · intro h
    obtain ⟨⟨-, hback⟩, -⟩ := h
    have hgiven := hback serviceBtSock _ ⟨rfl, _, rfl⟩ rfl
    obtain ⟨env, mode, w', hrun⟩ := hgiven.again
    cases hrun

theorem along_owned_iff_btSock :
    Along moduleStep KeepsConsistent .registered
      [.register .obliging serviceBtCore 0, .unregister .obliging serviceBtSock,
        .register .obliging serviceBtSock 0] := by
  refine (along_owned_iff .registered _).1.mpr ⟨?_, fun _ _ => ⟨?_, fun _ _ => ⟨?_, fun _ _ => trivial⟩⟩⟩
  · intro hc
    obtain ⟨-, env, heq⟩ := hc
    cases heq
  · intro hc
    obtain ⟨-, env, heq⟩ := hc
    exact absurd (ModuleCmd.unregister.inj heq).2 (by decide)
  · intro hc
    obtain ⟨-, env, heq⟩ := hc
    cases heq

end Bluetoothd

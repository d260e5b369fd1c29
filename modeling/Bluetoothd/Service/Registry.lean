import Bluetoothd.Lib.Transition
import Bluetoothd.Service.World
import Mathlib.Logic.Function.Basic

/-!
# The service registry (`core.c`, `service.c`)

Three tables indexed by the service byte: the installed handlers, and the functions that register
and unregister a service. The latter two have entries for BT_CORE and BT_SOCK. A registry is meant
to be a partial map from services to handlers (`Registry`); `along_refines_iff` says which
sequences of calls the code's tables follow that map through.
-/

namespace Bluetoothd

open Transition

variable {H : Type}

structure ServiceFuncs (H : Type) where
  registerBtCore : UInt8 → Option SendPdu → Act H (Option H)
  registerBtSock : UInt8 → Option SendPdu → Act H (Option H)
  unregisterBtCore : Act H Int
  unregisterBtSock : Act H Int

/-- `register_service[service]`. -/
def registerService (funcs : ServiceFuncs H) (service : UInt8) :
    Option (UInt8 → Option SendPdu → Act H (Option H)) :=
  if service = serviceBtCore then some funcs.registerBtCore
  else if service = serviceBtSock then some funcs.registerBtSock
  else none

/-- `unregister_service[service]`. -/
def unregisterService (funcs : ServiceFuncs H) (service : UInt8) : Option (Act H Int) :=
  if service = serviceBtCore then some funcs.unregisterBtCore
  else if service = serviceBtSock then some funcs.unregisterBtSock
  else none

/-- `service_handler[service] = handler`. -/
def World.setHandler (w : World H) (service : UInt8) (handler : Option H) : World H :=
  { w with serviceHandler := Function.update w.serviceHandler service handler }

def coreRegisterModule (funcs : ServiceFuncs H) (service mode : UInt8) : Act H Int := do
  let w ← Prog.get
  if (w.serviceHandler service).isNone then
    return -1 -- service already registered
  match registerService funcs service with
  | none => return -1 -- invalid service id
  | some register =>
    let handler ← register mode w.coreSendPdu
    match handler with
    | none => return -1
    | some handler =>
      Prog.modify fun w => w.setHandler service (some handler)
      return 0

def coreUnregisterModule (funcs : ServiceFuncs H) (service : UInt8) : Act H Int := do
  if service = serviceCore then
    return -1 -- service CORE cannot be unregistered
  match unregisterService funcs service with
  | none => return -1 -- service not registered
  | some unregister =>
    let res ← unregister
    if res < 0 then
      return -1
    Prog.modify fun w => w.setHandler service none
    return 0

def initCore (coreHandler : H) (sendPduCb : SendPdu) : Act H Int := do
  Prog.modify fun w =>
    { w.setHandler serviceCore (some coreHandler) with coreSendPdu := some sendPduCb }
  return 0

def uninitCore : Act H Unit :=
  Prog.modify fun w => { w.setHandler serviceCore none with coreSendPdu := none }

/-! ## The intended registry -/

abbrev Registry (H : Type) := UInt8 → Option H

def IsModule (service : UInt8) : Prop := service = serviceBtCore ∨ service = serviceBtSock

instance : DecidablePred IsModule := fun _ => inferInstanceAs (Decidable (_ ∨ _))

/-- Registering installs the handler of a module that is not registered. -/
def Registry.register (reg : Registry H) (service : UInt8) (handler : Option H) :
    Int × Registry H :=
  if reg service = none ∧ IsModule service ∧ handler.isSome then
    (0, Function.update reg service handler)
  else (-1, reg)

/-- Unregistering removes a registered service other than CORE. -/
def Registry.unregister (reg : Registry H) (service : UInt8) (res : Int) : Int × Registry H :=
  if service ≠ serviceCore ∧ (reg service).isSome ∧ 0 ≤ res then
    (0, Function.update reg service none)
  else (-1, reg)

inductive RegistryCall (H : Type) where
  | register (service mode : UInt8) (handler : Option H)
  | unregister (service : UInt8) (res : Int)

def ServiceFuncs.returning (handler : Option H) (res : Int) : ServiceFuncs H where
  registerBtCore _ _ := pure handler
  registerBtSock _ _ := pure handler
  unregisterBtCore := pure res
  unregisterBtSock := pure res

def RegistryCall.exec : RegistryCall H → Act H Int
  | .register service mode handler => coreRegisterModule (.returning handler 0) service mode
  | .unregister service res => coreUnregisterModule (.returning none res) service

def RegistryCall.intended : RegistryCall H → Registry H → Int × Registry H
  | .register service _ handler, reg => reg.register service handler
  | .unregister service res, reg => reg.unregister service res

def callStep (w : World H) (c : RegistryCall H) : Option (World H) := some (c.exec.run w).2

/-- The call returns what the intended registry returns, and leaves that registry. -/
def Refines (w : World H) (c : RegistryCall H) : Prop :=
  ∃ res w', c.exec.run w = (.ok res, w') ∧ (res, w'.serviceHandler) = c.intended w.serviceHandler

/-- `init_core` has run on a table without handlers. -/
def CoreStarted (coreHandler : H) (sendPduCb : SendPdu) (w : World H) : Prop :=
  ∃ w₀ : World H, (∀ service, w₀.serviceHandler service = none) ∧
    (initCore coreHandler sendPduCb).run w₀ = (.ok 0, w)

def RegistryCall.Effective : RegistryCall H → Prop
  | .register service _ handler => IsModule service ∧ handler.isSome
  | .unregister service res => IsModule service ∧ 0 ≤ res

/-! ## The code's tables -/

def OnlyCore (w : World H) : Prop :=
  ∀ service, (w.serviceHandler service).isSome ↔ service = serviceCore

theorem OnlyCore.of_started {coreHandler : H} {sendPduCb : SendPdu} {w : World H}
    (h : CoreStarted coreHandler sendPduCb w) : OnlyCore w := by
  obtain ⟨w₀, hnone, hinit⟩ := h
  obtain rfl : _ = w := (Prod.mk.inj hinit).2
  intro service
  show (Function.update w₀.serviceHandler serviceCore (some coreHandler) service).isSome ↔ _
  by_cases hservice : service = serviceCore
  · simp [hservice]
  · simp [hservice, hnone]

theorem OnlyCore.eq_none {w : World H} (h : OnlyCore w) {service : UInt8}
    (hservice : service ≠ serviceCore) : w.serviceHandler service = none := by
  rw [← Option.not_isSome_iff_eq_none, h service]
  exact hservice

theorem IsModule.ne_core {service : UInt8} (h : IsModule service) : service ≠ serviceCore := by
  rcases h with rfl | rfl <;> decide

theorem registerService_returning (handler : Option H) (res : Int) (service : UInt8) :
    registerService (.returning handler res) service
      = if IsModule service then some fun _ _ => pure handler else none := by
  unfold registerService IsModule ServiceFuncs.returning
  by_cases h1 : service = serviceBtCore <;> by_cases h2 : service = serviceBtSock <;> simp [h1, h2]

theorem unregisterService_returning (handler : Option H) (res : Int) (service : UInt8) :
    unregisterService (.returning handler res) service
      = if IsModule service then some (pure res) else none := by
  unfold unregisterService IsModule ServiceFuncs.returning
  by_cases h1 : service = serviceBtCore <;> by_cases h2 : service = serviceBtSock <;> simp [h1, h2]

/-- The guard refuses every unregistered service, and CORE has no register function. -/
theorem run_register {w : World H} (h : OnlyCore w) (service mode : UInt8) (handler : Option H) :
    (RegistryCall.register service mode handler).exec.run w = (.ok (-1), w) := by
  show (coreRegisterModule _ service mode).run w = _
  unfold coreRegisterModule
  rw [Prog.run_get_bind, registerService_returning]
  by_cases hcore : service = serviceCore
  · have hmodule : ¬ IsModule service := by rw [hcore]; decide
    have hsome : (w.serviceHandler service).isNone = false := by
      rw [← Option.not_isSome, (h service).mpr hcore]
      rfl
    rw [hsome, if_neg hmodule]
    rfl
  · rw [h.eq_none hcore]
    rfl

/-- Unregistering asks the unregister function of a module, registered or not. -/
theorem run_unregister {w : World H} (h : OnlyCore w) (service : UInt8) (res : Int) :
    (RegistryCall.unregister service res).exec.run w
      = (.ok (if IsModule service ∧ 0 ≤ res then 0 else -1), w) := by
  show (coreUnregisterModule _ service).run w = _
  unfold coreUnregisterModule
  rw [unregisterService_returning]
  by_cases hmodule : IsModule service
  · have hclear : w.setHandler service none = w := by
      unfold World.setHandler
      rw [← h.eq_none hmodule.ne_core, Function.update_eq_self]
    rw [if_neg hmodule.ne_core, if_pos hmodule]
    by_cases hres : res < 0
    · rw [if_neg (by omega)]
      simp [hres]
    · rw [if_pos ⟨hmodule, by omega⟩]
      simp [hres, hclear]
  · have hnot : ¬ (IsModule service ∧ 0 ≤ res) := fun hc => hmodule hc.1
    rw [if_neg hmodule, if_neg hnot]
    by_cases hcore : service = serviceCore
    · rw [if_pos hcore]
      rfl
    · rw [if_neg hcore]
      rfl

/-- While CORE alone is registered, the intended registry registers an effective call and leaves
everything else alone. -/
theorem refines_iff {w : World H} (h : OnlyCore w) (c : RegistryCall H) :
    Refines w c ↔ ¬ c.Effective := by
  unfold Refines
  cases c with
  | register service mode handler =>
    rw [run_register h]
    have hintended : RegistryCall.intended (.register service mode handler) w.serviceHandler
        = if IsModule service ∧ handler.isSome then
            (0, Function.update w.serviceHandler service handler)
          else (-1, w.serviceHandler) := by
      show (if w.serviceHandler service = none ∧ IsModule service ∧ handler.isSome then _ else _) = _
      refine if_congr ⟨fun hc => hc.2, fun hc => ⟨h.eq_none hc.1.ne_core, hc⟩⟩ rfl rfl
    rw [hintended]
    show _ ↔ ¬ (IsModule service ∧ handler.isSome)
    by_cases heffective : IsModule service ∧ handler.isSome = true
    · rw [if_pos heffective]
      refine iff_of_false ?_ (not_not_intro heffective)
      intro hx
      obtain ⟨res, w', hrun, heq⟩ := hx
      cases hrun
      exact absurd (Prod.mk.inj heq).1 (by decide)
    · rw [if_neg heffective]
      exact iff_of_true ⟨-1, w, rfl, rfl⟩ heffective
  | unregister service res =>
    rw [run_unregister h]
    have hintended : RegistryCall.intended (.unregister service res) w.serviceHandler
        = (-1, w.serviceHandler) := by
      apply if_neg
      intro hx
      obtain ⟨hcore, hsome, -⟩ := hx
      exact hcore ((h service).mp hsome)
    rw [hintended]
    show _ ↔ ¬ (IsModule service ∧ 0 ≤ res)
    by_cases heffective : IsModule service ∧ 0 ≤ res
    · rw [if_pos heffective]
      refine iff_of_false ?_ (not_not_intro heffective)
      intro hx
      obtain ⟨_, w', hrun, heq⟩ := hx
      cases hrun
      exact absurd (Prod.mk.inj heq).1 (by decide)
    · rw [if_neg heffective]
      exact iff_of_true ⟨-1, w, rfl, rfl⟩ heffective

theorem OnlyCore.step {w w' : World H} (h : OnlyCore w) (c : RegistryCall H)
    (hstep : callStep w c = some w') : OnlyCore w' := by
  obtain rfl : _ = w' := Option.some_inj.mp hstep
  cases c with
  | register service mode handler => rwa [run_register h]
  | unregister service res => rwa [run_unregister h]

/-- **The registry.** After `init_core`, the calls follow the intended registry if and only if none
of them is for a module whose own register or unregister function succeeds. -/
theorem along_refines_iff {coreHandler : H} {sendPduCb : SendPdu} {w : World H}
    (hw : CoreStarted coreHandler sendPduCb w) (calls : List (RegistryCall H)) :
    Along callStep Refines w calls ↔ ∀ c ∈ calls, ¬ c.Effective := by
  have htotal : ∀ (w : World H) (c : RegistryCall H), (callStep w c).isSome := fun _ _ => rfl
  rw [← along_total htotal w calls]
  exact along_iff (L := fun _ _ => True) (fun _ c _ h _ _ hstep => h.step c hstep)
    (fun _ c h _ => refines_iff h c) (OnlyCore.of_started hw) (along_of_forall (fun _ _ => trivial) w calls)

/-- Registering BT_CORE after `init_core` is refused as registered already, and unregistering it
succeeds although it is not. -/
theorem register_btCore_refused :
    let w := ((initCore (H := Unit) () .btIo).run .empty).2
    CoreStarted () .btIo w ∧
      ((RegistryCall.register serviceBtCore 0 (some ())).exec.run w).1 = .ok (-1) ∧
      ((RegistryCall.unregister serviceBtCore 0).exec.run w).1 = .ok 0 ∧
      ¬ Along callStep Refines w [.register serviceBtCore 0 (some ())] ∧
      ¬ Along callStep Refines w [.unregister serviceBtCore 0] := by
  refine ⟨⟨.empty, fun _ => rfl, rfl⟩, rfl, rfl, ?_, ?_⟩
  · intro h
    obtain ⟨⟨res, w', hrun, heq⟩, -⟩ := h
    cases hrun
    exact absurd (Prod.mk.inj heq).1 (by decide)
  · intro h
    obtain ⟨⟨res, w', hrun, heq⟩, -⟩ := h
    cases hrun
    exact absurd (Prod.mk.inj heq).1 (by decide)

theorem along_refines_iff_failing :
    Along callStep Refines ((initCore (H := Unit) () .btIo).run .empty).2
      [.register serviceBtCore 1 none, .register 9 0 (some ()), .unregister serviceCore 0,
        .unregister serviceBtSock (-1)] :=
  (along_refines_iff ⟨.empty, fun _ => rfl, rfl⟩ _).mpr (by
    simp [RegistryCall.Effective, IsModule, serviceCore, serviceBtCore, serviceBtSock])

end Bluetoothd

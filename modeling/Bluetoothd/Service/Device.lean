import Bluetoothd.Lib.Transition
import Bluetoothd.Service.Modules

/-!
# The Bluetooth device (`bt-core.c`)

`init_bt_core` opens the device of the HAL and gets its interface, `uninit_bt_core` closes it. The
two pointers that they leave behind are set together, and the device is open exactly while they are:
`deviceOwned_of_run` says so of every sequence of calls, whatever the HAL answers.
-/

namespace Bluetoothd

open Transition

variable {H : Type}

/-! ## Histories of calls -/

inductive DeviceCall where
  | init (env : Env)
  | uninit (err : Int)

def DeviceCall.exec : DeviceCall → Act H Int
  | .init env => initBtCore env
  | .uninit err => do
    uninitBtCore err
    return 0

/-- One call; there is no next state where it faults. -/
def deviceStep (w : World H) (c : DeviceCall) : Option (World H) :=
  match c.exec.run w with
  | (.ok _, w') => some w'
  | (.error _, _) => none

/-- `uninit_bt_core` is only called while there is a device, as it asserts. -/
def LegalCall (w : World H) : DeviceCall → Prop
  | .init _ => True
  | .uninit _ => w.btDevice.isSome

instance (w : World H) : DecidablePred (LegalCall w)
  | .init _ => inferInstanceAs (Decidable True)
  | .uninit _ => inferInstanceAs (Decidable (w.btDevice.isSome = true))

/-! ## Ownership -/

def Event.isOpened : Event → Bool
  | .opened _ => true
  | _ => false

def Event.isClosed : Event → Bool
  | .closed _ => true
  | _ => false

def openCount (log : List Event) (device : Nat) : Int :=
  (log.count (.opened device) : Int) - log.count (.closed device)

/-- The device is open while the pointers are set, and no device is closed more often than it was
opened, at any time. -/
structure DeviceOwned (w : World H) : Prop where
  pointers : w.btDevice.isSome ↔ w.btInterface.isSome
  balance : (w.log.countP Event.isOpened : Int) - w.log.countP Event.isClosed =
    if w.btDevice.isSome then 1 else 0
  held : ∀ device, openCount w.log device = if w.btDevice = some device then 1 else 0
  closed : ∀ log device, log <+: w.log → 0 ≤ openCount log device

/-- What a call leaves: the device is owned, and a failing `init_bt_core` has changed neither the
pointers nor which devices are open. -/
structure CallOwned (w : World H) (c : DeviceCall) : Prop where
  returns : ∃ res w', c.exec.run w = (.ok res, w') ∧ DeviceOwned w'
  failed : ∀ env w', c = .init env → (initBtCore env).run w = (.ok (-1), w') →
    w'.btDevice = w.btDevice ∧ w'.btInterface = w.btInterface ∧
      ∀ device, openCount w'.log device = openCount w.log device

theorem DeviceOwned.empty : DeviceOwned (World.empty : World H) := by
  refine ⟨by simp [World.empty], by simp [World.empty], ?_, ?_⟩
  · intro device
    simp [World.empty, openCount]
  · intro log device h
    obtain rfl : log = [] := List.prefix_nil.mp h
    simp [openCount]

theorem openCount_opened (log : List Event) (opened device : Nat) :
    openCount (log ++ [.opened opened]) device =
      openCount log device + if opened = device then 1 else 0 := by
  by_cases heq : opened = device
  · simp [openCount, List.count_append, heq]
    omega
  · simp [openCount, List.count_append, heq]

theorem openCount_closed (log : List Event) (closed device : Nat) :
    openCount (log ++ [.closed closed]) device =
      openCount log device - if closed = device then 1 else 0 := by
  by_cases heq : closed = device
  · simp [openCount, List.count_append, heq]
    omega
  · simp [openCount, List.count_append, heq]

theorem openCount_asserted (log : List Event) (pointer : Option Nat) (device : Nat) :
    openCount (log ++ [.asserted pointer]) device = openCount log device := by
  simp [openCount, List.count_append]

theorem DeviceOwned.asserted {w : World H} (h : DeviceOwned w) (pointer : Option Nat) :
    DeviceOwned (w.push (.asserted pointer)) := by
  refine ⟨h.pointers, ?_, fun device => ?_, fun log device hlog => ?_⟩
  · show ((w.log ++ [_]).countP Event.isOpened : Int) - (w.log ++ [_]).countP Event.isClosed = _
    rw [List.countP_append, List.countP_append]
    exact h.balance
  · exact (openCount_asserted w.log pointer device).trans (h.held device)
  · rcases List.prefix_concat_iff.mp hlog with rfl | hlog
    · rw [openCount_asserted]
      exact h.closed w.log device (List.prefix_refl _)
    · exact h.closed log device hlog

theorem DeviceOwned.opened {w : World H} (h : DeviceOwned w) (hdevice : w.btDevice = none)
    (device interface : Nat) :
    DeviceOwned { w.push (.opened device) with
      btDevice := some device, btInterface := some interface } := by
  refine ⟨by simp, ?_, ?_, ?_⟩
  · have hbalance := h.balance
    rw [hdevice] at hbalance
    simp [World.push, Event.isOpened, Event.isClosed] at hbalance ⊢
    omega
  · intro d
    have hheld := h.held d
    rw [hdevice] at hheld
    simp [World.push, openCount_opened] at hheld ⊢
    omega
  · intro log d hlog
    rcases List.prefix_concat_iff.mp hlog with rfl | hlog
    · have hheld := h.closed w.log d (List.prefix_refl _)
      rw [openCount_opened]
      split_ifs <;> omega
    · exact h.closed log d hlog

theorem DeviceOwned.closing {w : World H} (h : DeviceOwned w) {device : Nat}
    (hdevice : w.btDevice = some device) :
    DeviceOwned { w.push (.closed device) with btDevice := none, btInterface := none } := by
  refine ⟨by simp, ?_, ?_, ?_⟩
  · have hbalance := h.balance
    rw [hdevice] at hbalance
    simp [World.push, Event.isOpened, Event.isClosed] at hbalance ⊢
    omega
  · intro d
    have hheld := h.held d
    rw [hdevice] at hheld
    simp [World.push, openCount_closed] at hheld ⊢
    omega
  · intro log d hlog
    rcases List.prefix_concat_iff.mp hlog with rfl | hlog
    · have hheld := h.held d
      rw [hdevice] at hheld
      simp only [Option.some.injEq] at hheld
      rw [openCount_closed, hheld]
      omega
    · exact h.closed log d hlog

/-- The device that a failing `init_bt_core` opens is closed again. -/
theorem DeviceOwned.openedClosed {w : World H} (h : DeviceOwned w) (hdevice : w.btDevice = none)
    (hinterface : w.btInterface = none) (device : Nat) :
    DeviceOwned ((w.push (.opened device)).push (.closed device)) := by
  have hboth := (h.opened hdevice device 0).closing rfl
  rwa [show ({ ({ w.push (.opened device) with btDevice := some device, btInterface := some 0 } :
      World H).push (.closed device) with btDevice := none, btInterface := none } : World H) =
    (w.push (.opened device)).push (.closed device) by simp [World.push, hdevice, hinterface]] at hboth

/-! ## Calls and sequences of calls -/

theorem callOwned_init {w : World H} (h : DeviceOwned w) (env : Env) : CallOwned w (.init env) := by
  rcases run_initBtCore_cases env w with ⟨-, hrun⟩ | ⟨device, hdevice, hinterface, -, hrun⟩ |
    ⟨device, interface, hdevice, -, -, -, -, hrun⟩
  · refine ⟨⟨-1, w, hrun, h⟩, ?_⟩
    intro env' w' heq hfailed
    cases heq
    rw [hrun] at hfailed
    cases hfailed
    exact ⟨rfl, rfl, fun device => rfl⟩
  · refine ⟨⟨-1, _, hrun, h.openedClosed hdevice hinterface device⟩, ?_⟩
    intro env' w' heq hfailed
    cases heq
    rw [hrun] at hfailed
    cases hfailed
    refine ⟨rfl, rfl, ?_⟩
    intro d
    show openCount (w.log ++ [.opened device] ++ [.closed device]) d = openCount w.log d
    rw [openCount_closed, openCount_opened]
    omega
  · refine ⟨⟨0, _, hrun, h.opened hdevice device interface⟩, ?_⟩
    intro env' w' heq hfailed
    cases heq
    rw [hrun] at hfailed
    simp at hfailed

theorem callOwned_uninit {w : World H} (h : DeviceOwned w) {device : Nat}
    (hdevice : w.btDevice = some device) (err : Int) : CallOwned w (.uninit err) := by
  have hasserted : DeviceOwned (w.push (.asserted (some device))) := h.asserted (some device)
  refine ⟨⟨0, _, ?_, hasserted.closing hdevice⟩, ?_⟩
  · show (uninitBtCore err >>= fun _ => pure 0).run w = _
    rw [Prog.run_bind_ok (run_uninitBtCore hdevice err), Prog.run_pure]
  · intro env w' heq
    cases heq

theorem callOwned_of_legal {w : World H} (h : DeviceOwned w) {c : DeviceCall} (hlegal : LegalCall w c) :
    CallOwned w c := by
  cases c with
  | init env => exact callOwned_init h env
  | uninit err =>
    obtain ⟨device, hdevice⟩ := Option.isSome_iff_exists.mp hlegal
    exact callOwned_uninit h hdevice err

theorem deviceOwned_step {w w' : World H} (h : DeviceOwned w) {c : DeviceCall} (hlegal : LegalCall w c)
    (hstep : deviceStep w c = some w') : DeviceOwned w' := by
  obtain ⟨res, u, hrun, howned⟩ := (callOwned_of_legal h hlegal).returns
  unfold deviceStep at hstep
  rw [hrun] at hstep
  cases hstep
  exact howned

/-- **The device is owned** after every call of every sequence of calls, whatever the outcomes. -/
theorem deviceOwned_of_run {calls : List DeviceCall}
    (hlegal : Along deviceStep LegalCall (World.empty : World H) calls) :
    Along deviceStep CallOwned (World.empty : World H) calls := by
  refine along_of_invariant (I := DeviceOwned) ?_ ?_ DeviceOwned.empty hlegal
  · intro w c w' h hc hstep
    exact deviceOwned_step h hc hstep
  · intro w c h hc
    exact callOwned_of_legal h hc

/-- Set up, set up again, torn down with a failing `close`, and a set-up that fails late. -/
theorem deviceOwned_of_run_late_failure :
    Along deviceStep CallOwned (World.empty : World Handler)
      [.init .obliging, .init .obliging, .uninit (-5),
        .init { Env.obliging with getBluetoothInterface := none }, .init .obliging] :=
  deviceOwned_of_run (by decide)

end Bluetoothd

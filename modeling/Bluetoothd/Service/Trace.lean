import Bluetoothd.Service.Modules

/-!
# What a program adds to the log

`Emits x P` specifies the events that a program adds to the log, together with its outcome and the
number of `malloc` calls before and after. The rules below follow the structure of programs;
`Performs` is what they give for the operations underlying the opcodes.
-/

namespace Bluetoothd

variable {H α β : Type}

/-! ## Observing a log -/

def readsOf : List Event → List (String × Int) :=
  List.filterMap fun | .read fmt res => some (fmt, res) | _ => none

def mallocsOf : List Event → List Nat :=
  List.filterMap fun | .malloc _ block => some block | _ => none

def freesOf : List Event → List Nat :=
  List.filterMap fun | .free block => some block | _ => none

def callsOf : List Event → List Op :=
  List.filterMap fun | .call op => some op | _ => none

def resultsOf : List Event → List (Op × Status) :=
  List.filterMap fun | .result op status => some (op, status) | _ => none

def sentOf : List Event → List Message :=
  List.filterMap fun | .send msg => some msg | _ => none

def repliesOf (log : List Event) : List (UInt8 × UInt8) :=
  (sentOf log).map fun msg => (msg.wbuf.pdu.service, msg.wbuf.pdu.opcode)

def assertedOf : List Event → List (Option Nat) :=
  List.filterMap fun | .asserted pointer => some pointer | _ => none

/-- The events inside an operation: a module takes or gives back the device, or comes to an
assertion. -/
def Event.IsInternal : Event → Prop
  | .opened _ | .closed _ | .asserted _ => True
  | _ => False

section observers

variable (xs ys : List Event)

@[simp] theorem readsOf_append : readsOf (xs ++ ys) = readsOf xs ++ readsOf ys := List.filterMap_append
@[simp] theorem mallocsOf_append : mallocsOf (xs ++ ys) = mallocsOf xs ++ mallocsOf ys :=
  List.filterMap_append
@[simp] theorem freesOf_append : freesOf (xs ++ ys) = freesOf xs ++ freesOf ys := List.filterMap_append
@[simp] theorem callsOf_append : callsOf (xs ++ ys) = callsOf xs ++ callsOf ys := List.filterMap_append
@[simp] theorem resultsOf_append : resultsOf (xs ++ ys) = resultsOf xs ++ resultsOf ys :=
  List.filterMap_append
@[simp] theorem sentOf_append : sentOf (xs ++ ys) = sentOf xs ++ sentOf ys := List.filterMap_append
@[simp] theorem assertedOf_append : assertedOf (xs ++ ys) = assertedOf xs ++ assertedOf ys :=
  List.filterMap_append

@[simp] theorem assertedOf_map_asserted (pointers : List (Option Nat)) :
    assertedOf (pointers.map .asserted) = pointers := by
  induction pointers with
  | nil => rfl
  | cons pointer pointers ih => exact congrArg (pointer :: ·) ih

theorem observe_internal {xs : List Event} (h : ∀ e ∈ xs, e.IsInternal) :
    readsOf xs = [] ∧ mallocsOf xs = [] ∧ freesOf xs = [] ∧ callsOf xs = [] ∧ resultsOf xs = [] ∧
      sentOf xs = [] := by
  induction xs with
  | nil => exact ⟨rfl, rfl, rfl, rfl, rfl, rfl⟩
  | cons e xs ih =>
    have hrest := ih fun e he => h e (List.mem_cons_of_mem _ he)
    have hdevice := h e List.mem_cons_self
    cases e with
    | opened device => exact hrest
    | closed device => exact hrest
    | asserted pointer => exact hrest
    | _ => exact hdevice.elim

end observers

/-! ## The rules -/

def Emits (x : Act H α) (P : Nat → Except Fault α → List Event → Nat → Prop) : Prop :=
  Prog.Spec x fun w r w' => ∃ evs, w'.log = w.log ++ evs ∧ P w.mallocs r evs w'.mallocs

variable {x : Act H α} {f : α → Act H β} {P P' : Nat → Except Fault α → List Event → Nat → Prop}
  {Q : Nat → Except Fault β → List Event → Nat → Prop}

theorem Emits.mono (h : Emits x P) (himp : ∀ n r evs m, P n r evs m → P' n r evs m) : Emits x P' :=
  Prog.Spec.mono h fun _ _ _ ⟨evs, hlog, hP⟩ => ⟨evs, hlog, himp _ _ _ _ hP⟩

theorem Emits.bind {R : α → Nat → Except Fault β → List Event → Nat → Prop} (hx : Emits x P)
    (hf : ∀ a, Emits (f a) (R a))
    (hok : ∀ n a evs m r evs' k, P n (.ok a) evs m → R a m r evs' k → Q n r (evs ++ evs') k)
    (herror : ∀ n e evs m, P n (.error e) evs m → Q n (.error e) evs m) : Emits (x >>= f) Q := by
  refine Prog.Spec.bind hx hf ?_ ?_
  · rintro w a w' r w'' ⟨evs, hlog, hP⟩ ⟨evs', hlog', hR⟩
    exact ⟨evs ++ evs', by rw [hlog', hlog, List.append_assoc], hok _ _ _ _ _ _ _ hP hR⟩
  · rintro w e w' ⟨evs, hlog, hP⟩
    exact ⟨evs, hlog, herror _ _ _ _ hP⟩

theorem Emits.pure {a : α} (h : ∀ n, P n (.ok a) [] n) : Emits (pure a : Act H α) P :=
  fun w => ⟨[], (List.append_nil _).symm, h w.mallocs⟩

/-- Programs that at most take or give back the device and come to assertions, and leave the
`send_pdu` of core-io alone. -/
def Silent (x : Act H α) : Prop :=
  Prog.Spec x fun w _ w' => w'.mallocs = w.mallocs ∧ w'.coreIoSendPdu = w.coreIoSendPdu ∧
    ∃ evs, w'.log = w.log ++ evs ∧ ∀ e ∈ evs, e.IsInternal

theorem Silent.pure (a : α) : Silent (pure a : Act H α) :=
  Prog.Spec.pure fun w => ⟨rfl, rfl, [], (List.append_nil _).symm, by simp⟩

theorem Silent.fault (e : Fault) : Silent (Prog.fault e : Act H α) :=
  Prog.Spec.fault fun w => ⟨rfl, rfl, [], (List.append_nil _).symm, by simp⟩

theorem Silent.emit {e : Event} (h : e.IsInternal) : Silent (Bluetoothd.emit e : Act H Unit) :=
  fun _ => ⟨rfl, rfl, [e], rfl, by simpa using h⟩

theorem Silent.get {f : World H → Act H β} (h : ∀ w, Silent (f w)) : Silent (Prog.get >>= f) := by
  intro w
  rw [Prog.run_get_bind]
  exact h w w

theorem Silent.modify {g : World H → World H} (hlog : ∀ w, (g w).log = w.log)
    (hmallocs : ∀ w, (g w).mallocs = w.mallocs)
    (hpointer : ∀ w, (g w).coreIoSendPdu = w.coreIoSendPdu) : Silent (Prog.modify g : Act H Unit) :=
  fun w => ⟨hmallocs w, hpointer w, [], by rw [List.append_nil]; exact hlog w, by simp⟩

theorem Silent.bind (hx : Silent x) (hf : ∀ a, Silent (f a)) : Silent (x >>= f) := by
  refine Prog.Spec.bind hx hf ?_ fun _ _ _ h => h
  rintro w a w' r w'' ⟨hmallocs, hpointer, evs, hlog, hevs⟩ ⟨hmallocs', hpointer', evs', hlog', hevs'⟩
  refine ⟨hmallocs'.trans hmallocs, hpointer'.trans hpointer, evs ++ evs', ?_, fun e he => ?_⟩
  · rw [hlog', hlog, List.append_assoc]
  · rcases List.mem_append.mp he with he | he
    · exact hevs e he
    · exact hevs' e he

theorem Silent.ite {p : Prop} [Decidable p] {y : Act H α} (hx : Silent x) (hy : Silent y) :
    Silent (if p then x else y) := by
  split
  · exact hx
  · exact hy

/-! ## The operations -/

/-- What the caller of an operation takes as its success. -/
def Op.Succeeded : Op → Status → Prop
  | .registerModule _ _, res => 0 ≤ res
  | .unregisterModule _, res => 0 ≤ res
  | _, res => res = Status.success

/-- `x` performs the operation: it is called once, and unless it faults its result is `x`'s. -/
def Performs (x : Act H Status) (op : Op) : Prop :=
  Emits x fun n r evs m => m = n ∧ ∃ inner : List Event, (∀ e ∈ inner, e.IsInternal) ∧
    ((∃ fault, r = .error fault ∧ evs = .call op :: inner) ∨
      ∃ status res, r = .ok status ∧ evs = .call op :: inner ++ [.result op res] ∧
        (status = Status.success ↔ op.Succeeded res))

theorem Performs.callsOf {x : Act H Status} {op : Op} (h : Performs x op) (w : World H) :
    Bluetoothd.callsOf (x.run w).2.log = Bluetoothd.callsOf w.log ++ [op] := by
  obtain ⟨evs, hlog, -, inner, hinner, ⟨fault, -, rfl⟩ | ⟨status, res, -, rfl, -⟩⟩ := h w
  all_goals
    obtain ⟨-, -, -, hcalls, -, -⟩ := observe_internal hinner
    rw [hlog, callsOf_append]
    congr 1
  · exact congrArg (op :: ·) hcalls
  · show op :: Bluetoothd.callsOf (inner ++ _) = _
    rw [callsOf_append, hcalls]
    rfl

variable (env : Env)

theorem silent_initBtCore : Silent (initBtCore env : Act H Int) := by
  unfold initBtCore
  refine Silent.get fun w => ?_
  refine Silent.ite (Silent.pure _) (Silent.ite (Silent.pure _) (Silent.ite (Silent.pure _) ?_))
  cases env.openDevice with
  | none => exact Silent.pure _
  | some device =>
    refine Silent.bind (Silent.emit trivial) fun _ => ?_
    refine Silent.bind (Silent.modify (fun _ => rfl) (fun _ => rfl) fun _ => rfl) fun _ => ?_
    refine Silent.ite (Silent.bind (Silent.emit trivial) fun _ => ?_) (Silent.pure _)
    exact Silent.bind (Silent.modify (fun _ => rfl) (fun _ => rfl) fun _ => rfl) fun _ => Silent.pure _

theorem silent_initBtSock : Silent (initBtSock env : Act H Int) := by
  unfold initBtSock
  refine Silent.get fun w => Silent.ite (Silent.pure _) ?_
  refine Silent.bind ?_ fun interface => ?_
  · refine Silent.get fun w => Silent.bind (Silent.emit trivial) fun _ => ?_
    exact Silent.ite (Silent.fault _) (Silent.pure _)
  · exact Silent.bind (Silent.modify (fun _ => rfl) (fun _ => rfl) fun _ => rfl) fun _ => Silent.pure _

theorem silent_registerService {service : UInt8}
    {register : UInt8 → Option SendPdu → Act Handler (Option Handler)}
    (h : registerService (serviceFuncs env) service = some register) (mode : UInt8)
    (sendPduCb : Option SendPdu) : Silent (register mode sendPduCb) := by
  unfold registerService at h
  split_ifs at h with h1 h2 <;> cases h
  · refine (silent_initBtCore env).bind fun res => Silent.ite (Silent.pure _) ?_
    exact Silent.bind (Silent.modify (fun _ => rfl) (fun _ => rfl) fun _ => rfl) fun _ => Silent.pure _
  · refine (silent_initBtSock env).bind fun res => Silent.ite (Silent.pure _) ?_
    exact Silent.bind (Silent.modify (fun _ => rfl) (fun _ => rfl) fun _ => rfl) fun _ => Silent.pure _

theorem silent_unregisterService {service : UInt8} {unregister : Act Handler Int}
    (h : unregisterService (serviceFuncs env) service = some unregister) : Silent unregister := by
  unfold unregisterService at h
  split_ifs at h with h1 h2 <;> cases h
  · exact Silent.pure _
  · refine Silent.bind ?_ fun _ => Silent.pure _
    refine Silent.get fun w => Silent.bind (Silent.emit trivial) fun _ => ?_
    exact Silent.modify (fun _ => rfl) (fun _ => rfl) fun _ => rfl

theorem silent_coreRegisterModule (service mode : UInt8) :
    Silent (coreRegisterModule (serviceFuncs env) service mode) := by
  unfold coreRegisterModule
  refine Silent.get fun w => Silent.ite (Silent.pure _) ?_
  cases hregister : registerService (serviceFuncs env) service with
  | none => exact Silent.pure _
  | some register =>
    refine (silent_registerService env hregister mode _).bind fun handler => ?_
    cases handler with
    | none => exact Silent.pure _
    | some handler =>
      exact Silent.bind (Silent.modify (fun _ => rfl) (fun _ => rfl) fun _ => rfl) fun _ => Silent.pure _

theorem silent_coreUnregisterModule (service : UInt8) :
    Silent (coreUnregisterModule (serviceFuncs env) service) := by
  unfold coreUnregisterModule
  apply Silent.ite (Silent.pure _)
  cases hunregister : unregisterService (serviceFuncs env) service with
  | none => exact Silent.pure _
  | some unregister =>
    refine (silent_unregisterService env hunregister).bind fun res => Silent.ite (Silent.pure _) ?_
    exact Silent.bind (Silent.modify (fun _ => rfl) (fun _ => rfl) fun _ => rfl) fun _ => Silent.pure _

theorem performs_interface {op : Op} (hop : ∀ res, op.Succeeded res ↔ res = Status.success)
    {pointer : World H → Option Nat} :
    Performs (do
      emit (.call op)
      let w ← Prog.get
      emit (.asserted (pointer w))
      if (pointer w).isNone then Prog.fault .nullPointer
      else
        emit (.result op (env.hal op))
        return env.hal op) op := by
  intro w
  rw [run_emit_bind, Prog.run_get_bind, run_emit_bind]
  have hinner : ∀ p, ∀ e ∈ [Event.asserted p], e.IsInternal := fun p e he =>
    List.mem_singleton.mp he ▸ trivial
  split
  · refine ⟨_, ?_, rfl, _, hinner (pointer (w.push (.call op))), .inl ⟨_, rfl, rfl⟩⟩
    exact List.append_assoc ..
  · refine ⟨_, ?_, rfl, _, hinner (pointer (w.push (.call op))),
      .inr ⟨env.hal op, env.hal op, rfl, rfl, (hop _).symm⟩⟩
    simp [World.push]

theorem performs_btInterfaceCall {op : Op} (hop : ∀ res, op.Succeeded res ↔ res = Status.success) :
    Performs (btInterfaceCall env op : Act H Status) op :=
  performs_interface env hop

theorem performs_btsockInterfaceCall {op : Op}
    (hop : ∀ res, op.Succeeded res ↔ res = Status.success) :
    Performs (btsockInterfaceCall env op : Act H Status) op :=
  performs_interface env hop

theorem performs_moduleCall {op : Op} {act : Act H Int} (hact : Silent act)
    (hop : ∀ res, op.Succeeded res ↔ 0 ≤ res) :
    Performs (do
      let res ← moduleCall op act
      return if res < 0 then Status.fail else Status.success) op := by
  intro w
  obtain ⟨hmallocs, -, inner, hlog, hinner⟩ := hact (w.push (.call op))
  rcases hrun : act.run (w.push (.call op)) with ⟨fault | res, w'⟩
  · rw [hrun] at hlog hmallocs
    rw [Prog.run_bind_error (run_moduleCall_error hrun)]
    refine ⟨.call op :: inner, ?_, hmallocs, inner, hinner, .inl ⟨fault, rfl, rfl⟩⟩
    rw [hlog, World.push, List.append_assoc, List.singleton_append]
  · rw [hrun] at hlog hmallocs
    rw [Prog.run_bind_ok (run_moduleCall_ok hrun)]
    refine ⟨.call op :: inner ++ [.result op res], ?_, hmallocs, inner, hinner,
      .inr ⟨_, res, rfl, rfl, ?_⟩⟩
    · show w'.log ++ _ = _
      rw [hlog, World.push, List.append_assoc, List.append_assoc, List.singleton_append,
        List.cons_append]
    · rw [hop]
      by_cases hneg : res < 0
      · rw [if_pos hneg]
        exact iff_of_false (by decide) (Int.not_le.mpr hneg)
      · rw [if_neg hneg]
        exact iff_of_true rfl (Int.not_lt.mp hneg)

end Bluetoothd

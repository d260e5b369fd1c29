import Bluetoothd.Daemon.Bare

/-!
# The assertions on the interfaces

`uninit_bt_sock`, `bt_core_get_profile_interface` and the wrappers of bt-core and bt-sock assert that
the interface they work on is there; the log has the pointers that these assertions have looked at. A
client may send commands in any order: `along_assertionsHold_iff` says which of them come to an
assertion that does not hold.
-/

namespace Bluetoothd

open Platform Buffer Transition

def clientConnected : World Handler := ((initCoreIo .btIo).run .empty).2

theorem bare_clientConnected : Bare clientConnected := by
  refine ⟨rfl, fun service h => ?_, rfl, rfl, rfl⟩
  exact Function.update_of_ne h ..

section assertions

variable [Platform]

/-- A command of the client, with the outside of the daemon while it is handled. -/
structure ClientCmd where
  env : Env
  calls : Nat
  cmd : Pdu

def clientStep (w : World Handler) (c : ClientCmd) : Option (World Handler) :=
  (handlePduResult c.env c.calls c.cmd w).map Prod.snd

/-- The pointers that the assertions on the way of a command look at. -/
def assertedBy (w : World Handler) (c : ClientCmd) : List (Option Nat) :=
  assertedOf (((dispatch c.env c.cmd).run w).2.log.drop w.log.length)

/-- No assertion on the way of the command fails. -/
def AssertionsHold (w : World Handler) (c : ClientCmd) : Prop := none ∉ assertedBy w c

/-- The command is an `UNREGISTER_MODULE` of BT_SOCK for which a reply can be allocated. -/
def UnregistersBtSock (w : World Handler) (c : ClientCmd) : Prop :=
  c.cmd.service = serviceCore ∧ c.cmd.opcode = 0x02 ∧ 1 ≤ c.cmd.payload.length ∧
    u8At c.cmd.payload 0 = serviceBtSock ∧ (c.env.obtained w.mallocs).isSome

/-! ## What a command comes to -/

variable {α : Type} {env : Env} {w w₁ : World Handler} {c : ClientCmd}

theorem assertedBy_eq {pointers : List (Option Nat)}
    (h : assertedOf ((dispatch c.env c.cmd).run w).2.log = assertedOf w.log ++ pointers)
    (hlog : ∃ evs, ((dispatch c.env c.cmd).run w).2.log = w.log ++ evs) :
    assertedBy w c = pointers := by
  obtain ⟨evs, hevs⟩ := hlog
  rw [hevs, assertedOf_append] at h
  unfold assertedBy
  rw [hevs, List.drop_left]
  exact List.append_cancel_left h

omit [Platform] in
theorem Bare.asserted_moduleCall (h : Bare w) (op : Op) (m : ModuleCmd) :
    assertedOf (Prog.run (do
      let res ← moduleCall op m.exec
      return if res < 0 then Status.fail else Status.success) w).2.log
        = assertedOf w.log ++ m.bareAsserted := by
  rw [Prog.run_bind_ok (h.run_moduleCall op m)]
  show assertedOf (w.log ++ [.call op] ++ m.bareAsserted.map .asserted ++ [_]) = _
  rw [assertedOf_append, assertedOf_append, assertedOf_append, assertedOf_map_asserted]
  simp [assertedOf]

theorem Bare.asserted_coreServe {fmt : String} {decode : Act Handler (Option α)}
    {op : α → Act Handler Int} {ops : α → Op} {m : α → ModuleCmd} (h : Bare w)
    (env : Env) (cmd : Pdu) (hdecode : Decodes decode fmt fun _ => []) (hstill : Still decode)
    (hop : ∀ a, op a = moduleCall (ops a) (m a).exec) :
    assertedOf ((coreServe env cmd decode op).run w).2.log = assertedOf w.log ++
      match decode.run w with
      | (.ok (some a), w₁) => if (env.obtained w₁.mallocs).isSome then (m a).bareAsserted else []
      | _ => [] := by
  unfold coreServe
  obtain ⟨evs, hlog, hd⟩ := hdecode w
  have hdecoded : assertedOf (decode.run w).2.log = assertedOf w.log := by
    rw [hlog, assertedOf_append, hd.asserted, List.append_nil]
  have hsame := hstill w h
  rcases hrun : decode.run w with ⟨fault | _ | a, w₁⟩ <;> rw [hrun] at hdecoded hsame
  · unfold serve
    rw [Prog.run_bind_error hrun, List.append_nil]
    exact hdecoded
  · rw [run_serve_refused env cmd hrun, List.append_nil]
    exact hdecoded
  dsimp only
  rcases hmem : env.obtained w₁.mallocs with _ | mem
  · rw [run_serve_noMem env cmd hrun hmem releases_nothing, if_neg (by simp), List.append_nil]
    show assertedOf (w₁.log ++ []) = _
    rw [List.append_nil]
    exact hdecoded
  · rw [if_pos (show (some mem).isSome = true from rfl), ← hdecoded]
    refine observe_serve env assertedOf_append (fun _ => rfl) assertedOf_map_free (fun _ => rfl) cmd
      hrun hmem releases_nothing (fun _ => rfl) fun w₂ hsame₂ => ?_
    rw [hop]
    exact ((h.congr hsame).congr hsame₂).asserted_moduleCall (ops a) (m a)

/-- `register_module` comes to none: the guard of `core_register_module` refuses all modules. -/
theorem Bare.asserted_registerModule (h : Bare w) (env : Env) (cmd : Pdu) :
    assertedOf ((registerModule env cmd).run w).2.log = assertedOf w.log := by
  have hop : ∀ a : UInt8 × UInt8, moduleCall (.registerModule a.1 a.2)
      (coreRegisterModule (serviceFuncs env) a.1 a.2)
        = moduleCall (.registerModule a.1 a.2) (ModuleCmd.register env a.1 a.2).exec := fun _ => rfl
  refine (h.asserted_coreServe env cmd (?_ : Decodes _ "CC" _) ?_ hop).trans ?_
  · refine (decodes_readFields cmd 0 "CC" _).finish rfl fun a => ?_
    split
    · exact Decodes.value rfl
    · exact Decodes.fail
  · refine (Still.readFields _ _ _ _).bind fun a => ?_
    split <;> exact Still.pure _
  · split
    · rw [ModuleCmd.bareAsserted, ite_self, List.append_nil]
    · rw [List.append_nil]

theorem run_byteArg (cmd : Pdu) (w : World Handler) : ∃ res : Int, (byteArg cmd).run w
    = (.ok (if 1 ≤ cmd.payload.length then some (u8At cmd.payload 0) else none),
      w.push (.read "C" res)) := by
  have hroom : ∀ d ∈ [Dst.C], d.HasRoom := by simp [Dst.HasRoom]
  unfold byteArg
  by_cases hlen : 1 ≤ cmd.payload.length
  · have hread : readPduAt cmd 0 "C" [.C] = some (1, [.C (u8At cmd.payload 0)]) :=
      readPduAt_fits rfl hroom hlen
    refine ⟨1, ?_⟩
    rw [Prog.run_bind_ok (run_readFields_some hread w), if_pos hlen]
    rfl
  · have hoverflow : ∃ vals, readPduAt cmd 0 "C" [.C] = some (-1, vals) :=
      readPduAt_overflow rfl hroom (Nat.zero_le _) (by decide) (Nat.lt_of_not_le hlen)
    obtain ⟨vals, hread⟩ := hoverflow
    refine ⟨-1, ?_⟩
    rw [Prog.run_bind_ok (run_readFields_some hread w), if_neg hlen]
    rfl

/-- `unregister_module` does not test whether the service is registered. -/
theorem Bare.asserted_unregisterModule (h : Bare w) (env : Env) (cmd : Pdu) :
    assertedOf ((unregisterModule env cmd).run w).2.log = assertedOf w.log ++
      if 1 ≤ cmd.payload.length ∧ u8At cmd.payload 0 = serviceBtSock ∧
          (env.obtained w.mallocs).isSome then [none] else [] := by
  obtain ⟨res, hrun⟩ := run_byteArg cmd w
  have hop : ∀ service, moduleCall (.unregisterModule service)
      (coreUnregisterModule (serviceFuncs env) service)
        = moduleCall (.unregisterModule service) (ModuleCmd.unregister env service).exec := fun _ => rfl
  have hserve := h.asserted_coreServe env cmd (decodes_byteArg cmd) (Still.byteArg cmd) hop
  rw [hrun] at hserve
  refine hserve.trans (congrArg _ ?_)
  by_cases hlen : 1 ≤ cmd.payload.length
  · simp only [if_pos hlen, ModuleCmd.bareAsserted, ← ite_and]
    refine if_congr ?_ rfl rfl
    rw [and_iff_right hlen, and_comm]
    rfl
  · simp only [if_neg hlen]
    rw [if_neg fun hx => hlen hx.1]

/-! ## Which assertions hold -/

/-- In a bare daemon, of all commands only an unregistration of BT_SOCK comes to an assertion, which
does not hold. -/
theorem Bare.assertedBy (h : Bare w) (c : ClientCmd) :
    Bluetoothd.assertedBy w c = [] ∧ ¬ UnregistersBtSock w c ∨
      Bluetoothd.assertedBy w c = [none] ∧ UnregistersBtSock w c := by
  rcases h.dispatch_cases c.env c.cmd with ⟨hnone, hrun⟩ | ⟨hservice, handler, htable, hrun⟩
  · left
    refine ⟨assertedBy_eq ?_ ⟨[], by rw [hrun, List.append_nil]⟩, ?_⟩
    · rw [hrun, List.append_nil]
    · intro hx
      obtain ⟨hservice, hopcode, -⟩ := hx
      have htable := hnone hservice
      rw [hopcode] at htable
      cases htable
  have hlog : ∃ evs, ((dispatch c.env c.cmd).run w).2.log = w.log ++ evs := by
    obtain ⟨evs, hevs, -⟩ := @table_disciplined _ c.env .core _ _ htable c.cmd w
    exact ⟨evs, by rw [hrun, hevs]⟩
  unfold coreTable at htable
  split at htable <;> cases htable
  case h_1 hopcode =>
    left
    refine ⟨assertedBy_eq ?_ hlog, ?_⟩
    · rw [hrun, h.asserted_registerModule, List.append_nil]
    · intro hx
      obtain ⟨-, hopcode', -⟩ := hx
      rw [hopcode] at hopcode'
      exact absurd hopcode' (by decide)
  case h_2 hopcode =>
    have hasserted := h.asserted_unregisterModule c.env c.cmd
    rw [← hrun] at hasserted
    by_cases hunregisters : UnregistersBtSock w c
    · obtain ⟨-, -, hcalled⟩ := hunregisters
      rw [if_pos hcalled] at hasserted
      exact .inr ⟨assertedBy_eq hasserted hlog, hservice, hopcode, hcalled⟩
    · rw [if_neg fun hx => hunregisters ⟨hservice, hopcode, hx⟩] at hasserted
      exact .inl ⟨assertedBy_eq hasserted hlog, hunregisters⟩

theorem assertionsHold_iff (h : Bare w) (c : ClientCmd) :
    AssertionsHold w c ↔ ¬ UnregistersBtSock w c := by
  unfold AssertionsHold
  rcases h.assertedBy c with ⟨hpointers, hnot⟩ | ⟨hpointers, hunregisters⟩
  · rw [hpointers]
    exact iff_of_true List.not_mem_nil hnot
  · rw [hpointers]
    exact iff_of_false (not_not_intro List.mem_cons_self) (not_not_intro hunregisters)

theorem Bare.clientStep {w' : World Handler} (h : Bare w) (hstep : clientStep w c = some w') :
    Bare w' := by
  obtain ⟨⟨res, w''⟩, hrun, heq⟩ := Option.map_eq_some_iff.mp hstep
  cases heq
  exact h.congr (h.handlePduResult hrun)

/-- **The assertions on the interfaces.** From the start of the daemon with one client connected and
whatever the HAL does, no handler of a run comes to an assertion that fails if and only if no
command of the run unregisters BT_SOCK. -/
theorem along_assertionsHold_iff (cmds : List ClientCmd) :
    Along clientStep AssertionsHold clientConnected cmds ↔
      Along clientStep (fun w c => ¬ UnregistersBtSock w c) clientConnected cmds := by
  have hall : Along clientStep (fun _ _ => True) clientConnected cmds :=
    along_of_forall (fun _ _ => trivial) clientConnected cmds
  exact along_iff (fun _ _ _ hw _ _ hstep => hw.clientStep hstep)
    (fun _ c hw _ => assertionsHold_iff hw c) bare_clientConnected hall

end assertions

/-- The first command of a client unregisters BT_SOCK. -/
theorem unregister_btSock_asserts_null :
    let cmd : Pdu := ⟨serviceCore, 0x02, 1, [serviceBtSock], by decide⟩
    let c : ClientCmd := ⟨.obliging, 0, cmd⟩
    @assertedBy lp64 clientConnected c = [none] ∧
      ¬ Along (@clientStep lp64) (@AssertionsHold lp64) clientConnected [c] := by
  intro cmd c
  have hpointers : @assertedBy lp64 clientConnected c = [none] := rfl
  refine ⟨hpointers, ?_⟩
  intro h
  obtain ⟨hassertions, -⟩ := h
  unfold AssertionsHold at hassertions
  rw [hpointers] at hassertions
  exact hassertions List.mem_cons_self

end Bluetoothd

import Bluetoothd.Service.Outcome

/-!
# Replies to commands

`handle_pdu` of bt-io leaves the reply to the handler that a command is dispatched to, and answers
itself when that handler does not return a success. `oneExactReply_iff` says that the commands that
are served are the ones that get a reply.
-/

namespace Bluetoothd

open Platform

section replies

variable [Platform] {env : Env}

/-! ## Dispatch -/

def dispatch (env : Env) (cmd : Pdu) : Act Handler Status := do
  let w ← Prog.get
  handlePduByService cmd fun service => (w.serviceHandler service).map (·.handle env)

theorem dispatch_unsupported {cmd : Pdu} {w : World Handler}
    (h : w.serviceHandler cmd.service = none) :
    (dispatch env cmd).run w = (.ok Status.unsupported, w) := by
  unfold dispatch handlePduByService handlePduBy
  rw [Prog.run_get_bind]
  dsimp only
  rw [h]
  rfl

theorem dispatch_eq {handler : Handler} {cmd : Pdu} {w : World Handler}
    (h : w.serviceHandler cmd.service = some handler) :
    (dispatch env cmd).run w = (handler.handle env cmd).run w := by
  unfold dispatch handlePduByService handlePduBy
  rw [Prog.run_get_bind]
  dsimp only
  rw [h]
  rfl

/-- A command is accepted if its service is registered and the service's handler serves it. -/
def Accepted (env : Env) (cmd : Pdu) (w : World Handler) : Prop :=
  ∃ handler, w.serviceHandler cmd.service = some handler ∧ Serves env handler cmd w

theorem dispatch_success_iff (halloc : ∀ n, (env.obtained n).isSome) (cmd : Pdu) (w : World Handler) :
    ((dispatch env cmd).run w).1 = .ok Status.success ↔ Accepted env cmd w := by
  unfold Accepted
  rcases h : w.serviceHandler cmd.service with _ | handler
  · rw [dispatch_unsupported h]
    refine iff_of_false (fun hrun => absurd (Except.ok.inj hrun) (by decide)) nofun
  · rw [dispatch_eq h, handle_success_iff halloc]
    simp

theorem dispatch_replies (halloc : ∀ n, (env.obtained n).isSome) {cmd : Pdu} {w : World Handler}
    (h : Accepted env cmd w) :
    ∃ msg, sentOf ((dispatch env cmd).run w).2.log = sentOf w.log ++ [msg] ∧
      Answers cmd msg.wbuf.pdu := by
  have hsuccess := (dispatch_success_iff halloc cmd w).mpr h
  obtain ⟨handler, hservice, op, hrequest, -⟩ := h
  obtain ⟨handle, htable⟩ := Option.isSome_iff_exists.mp (Handler.table_isSome hrequest)
  obtain ⟨evs, hlog, hdisciplined⟩ := table_disciplined env htable cmd w
  rw [dispatch_eq hservice, Handler.handle_eq htable] at hsuccess ⊢
  obtain ⟨-, msg, hsent, hanswers⟩ := hdisciplined.success.mp hsuccess
  exact ⟨msg, by rw [hlog, sentOf_append, hsent], hanswers⟩

theorem run_handlePdu_success {calls : Nat} {cmd : Pdu} {w w' : World Handler}
    (h : (dispatch env cmd).run w = (.ok Status.success, w')) :
    (handlePdu env calls cmd).run w = (.ok 0, w') := by
  unfold dispatch at h
  rw [Prog.run_get_bind] at h
  unfold handlePdu
  rw [Prog.run_get_bind, Prog.run_bind_ok h]
  rfl

theorem run_handlePdu_noMem {cmd : Pdu} {w w' : World Handler} {status : Status}
    (hstatus : status ≠ Status.success) (h : (dispatch env cmd).run w = (.ok status, w'))
    (hmem : env.obtained w'.mallocs = none) (calls : Nat) :
    (handlePdu env calls cmd).run w = (.ok (-1), { w' with mallocs := w'.mallocs + 1 }) := by
  unfold dispatch at h
  rw [Prog.run_get_bind] at h
  unfold handlePdu
  rw [Prog.run_get_bind, Prog.run_bind_ok h, if_neg hstatus,
    Prog.run_bind_ok (run_newPduWbuf_none hmem)]
  rfl

/-- The error reply is never built: `append_to_pdu` does not return. -/
theorem run_handlePdu_failed {cmd : Pdu} {w w' : World Handler} {status : Status}
    {mem : Nat → UInt8} (hstatus : status ≠ Status.success)
    (h : (dispatch env cmd).run w = (.ok status, w')) (hmem : env.obtained w'.mallocs = some mem)
    (calls : Nat) : ((handlePdu env calls cmd).run w).1 = .error .callDepth := by
  unfold dispatch at h
  rw [Prog.run_get_bind] at h
  unfold handlePdu
  rw [Prog.run_get_bind, Prog.run_bind_ok h, if_neg hstatus,
    Prog.run_bind_ok (run_newPduWbuf_some hmem)]
  dsimp only
  rw [appendToPdu_eq_none]
  rfl

theorem sentOf_dispatch_failed {cmd : Pdu} {w w' : World Handler} {status : Status}
    (hstatus : status ≠ Status.success) (h : (dispatch env cmd).run w = (.ok status, w')) :
    sentOf w'.log = sentOf w.log := by
  rcases hservice : w.serviceHandler cmd.service with _ | handler
  · rw [dispatch_unsupported hservice] at h
    exact congrArg (fun r => sentOf r.2.log) h.symm
  rw [dispatch_eq hservice] at h
  rcases htable : handler.table env cmd.opcode with _ | handle
  · rw [Handler.handle_unsupported htable, Prog.run_pure] at h
    exact congrArg (fun r => sentOf r.2.log) h.symm
  · obtain ⟨evs, hlog, hdisciplined⟩ := table_disciplined env htable cmd w
    rw [Handler.handle_eq htable] at h
    rw [h] at hlog hdisciplined
    rw [hlog, sentOf_append, hdisciplined.quiet status rfl hstatus, List.append_nil]

/-- When `handle_pdu` returns after a command that did not succeed, it returns -1 and has not
replied. -/
theorem handlePdu_returns_failed {calls : Nat} {cmd : Pdu} {w w' : World Handler} {res : Int}
    (hfailed : ((dispatch env cmd).run w).1 ≠ .ok Status.success)
    (h : (handlePdu env calls cmd).run w = (.ok res, w')) :
    res = -1 ∧ sentOf w'.log = sentOf w.log := by
  rcases hdispatch : (dispatch env cmd).run w with ⟨fault | status, w₁⟩
  · have hfault := hdispatch
    unfold dispatch at hfault
    rw [Prog.run_get_bind] at hfault
    unfold handlePdu at h
    rw [Prog.run_get_bind, Prog.run_bind_error hfault] at h
    simp at h
  have hstatus : status ≠ Status.success := by
    intro heq
    rw [hdispatch, heq] at hfailed
    exact hfailed rfl
  rcases hmem : env.obtained w₁.mallocs with _ | mem
  · rw [run_handlePdu_noMem hstatus hdispatch hmem calls] at h
    simp only [Prod.mk.injEq, Except.ok.injEq] at h
    obtain ⟨rfl, rfl⟩ := h
    have hsent := sentOf_dispatch_failed hstatus hdispatch
    exact ⟨rfl, hsent⟩
  · have hdepth := run_handlePdu_failed hstatus hdispatch hmem calls
    rw [h] at hdepth
    simp at hdepth

/-! ## One exact reply -/

/-- The PDU that reports a status: opcode 0, and the status as the only byte of the payload. -/
structure Reports (cmd : Pdu) (status : Status) (pdu : Pdu) : Prop where
  service : pdu.service = cmd.service
  opcode : pdu.opcode = 0
  len : pdu.len = 1
  payload : pdu.payload = [UInt8.ofInt status]
  room : 1 ≤ pdu.data.length

/-- `handle_pdu` returns and has given one PDU to `send_pdu`: the reply of the handler where that
returned a success, and a report of the status where it did not. -/
def OneExactReply (env : Env) (cmd : Pdu) (w : World Handler) : Prop :=
  ∃ calls res w' msg status, (handlePdu env calls cmd).run w = (.ok res, w') ∧
    sentOf w'.log = sentOf w.log ++ [msg] ∧ ((dispatch env cmd).run w).1 = .ok status ∧
    if status = Status.success then
      sentOf ((dispatch env cmd).run w).2.log = sentOf w.log ++ [msg] ∧
        msg.wbuf.pdu.service = cmd.service ∧ msg.wbuf.pdu.opcode = cmd.opcode
    else Reports cmd status msg.wbuf.pdu

/-- **One exact reply.** With allocations succeeding, the commands that get exactly one reply are
those that are accepted; for all others `handle_pdu` does not return. -/
theorem oneExactReply_iff (halloc : ∀ n, (env.obtained n).isSome) (cmd : Pdu) (w : World Handler) :
    OneExactReply env cmd w ↔ Accepted env cmd w := by
  constructor
  · intro hx
    obtain ⟨calls, res, w', msg, status, hrun, -, hdispatch, -⟩ := hx
    rw [← dispatch_success_iff halloc, hdispatch]
    by_contra hfailed
    obtain ⟨mem, hmem⟩ := Option.isSome_iff_exists.mp (halloc ((dispatch env cmd).run w).2.mallocs)
    have hcallDepth := run_handlePdu_failed (fun h => hfailed (congrArg Except.ok h))
      (Prod.ext hdispatch rfl) hmem calls
    rw [hrun] at hcallDepth
    cases hcallDepth
  · intro h
    have hsuccess := (dispatch_success_iff halloc cmd w).mpr h
    obtain ⟨msg, hsent, hservice, hopcode, -⟩ := dispatch_replies halloc h
    refine ⟨0, 0, _, msg, Status.success, run_handlePdu_success (Prod.ext hsuccess rfl), hsent,
      hsuccess, ?_⟩
    rw [if_pos rfl]
    exact ⟨hsent, hservice, hopcode⟩

end replies

/-- A command for a service that is not registered. -/
theorem unregistered_service_unanswered :
    let cmd := initPdu [] 0x09 0x01
    (∀ n, (Env.obliging.obtained n).isSome) ∧
      ((@dispatch lp64 .obliging cmd).run .registered).1 = .ok Status.unsupported ∧
      (∀ calls, ((@handlePdu lp64 .obliging calls cmd).run .registered).1 = .error .callDepth) ∧
      ¬ @OneExactReply lp64 .obliging cmd .registered := by
  intro cmd
  have halloc : ∀ n, (Env.obliging.obtained n).isSome := fun _ => rfl
  have hdispatch : (@dispatch lp64 .obliging cmd).run .registered = (.ok Status.unsupported, .registered) :=
    @dispatch_unsupported lp64 _ _ _ rfl
  have hdepth := fun calls =>
    @run_handlePdu_failed lp64 .obliging _ _ _ _ _ (by decide) hdispatch rfl calls
  refine ⟨halloc, congrArg Prod.fst hdispatch, hdepth, ?_⟩
  intro h
  obtain ⟨calls, res, w', msg, status, hrun, -⟩ := h
  have hcallDepth := hdepth calls
  rw [hrun] at hcallDepth
  cases hcallDepth

theorem oneExactReply_iff_enable :
    @OneExactReply lp64 .obliging (initPdu [] serviceBtCore 0x01) .registered :=
  (@oneExactReply_iff lp64 .obliging (fun _ => rfl) _ _).mpr
    ⟨.btCore, rfl, .enable, rfl, ⟨rfl, rfl⟩, rfl⟩

end Bluetoothd

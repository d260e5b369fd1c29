import Bluetoothd.Daemon.Control
import Bluetoothd.Server.Spec

/-!
# Commands in a daemon without modules

After its start the daemon serves CORE alone, and `answer` says how each command ends there:
`Bare.endsWith` compares it with `handle_pdu` of bt-io, for every command and whatever
`malloc` and the HAL do.
-/

namespace Bluetoothd

open Platform Buffer

variable {α : Type} {w w' : World Handler} {env : Env} {cmd : Pdu}

section commands

variable [Platform]

/-! ## The handlers of CORE -/

omit [Platform] in
theorem DecodesAs.cases {x : Act Handler (Option α)} {n len : Nat} {P : α → Prop}
    (h : DecodesAs x n len P) (hkeeps : KeepsMallocs x) (w : World Handler) :
    (len ≤ n ∧ ∃ a w', x.run w = (.ok (some a), w') ∧ SameGlobals w w' ∧
      w'.mallocs = w.mallocs ∧ P a) ∨
    (n < len ∧ ∃ w', x.run w = (.ok none, w') ∧ SameGlobals w w' ∧ w'.mallocs = w.mallocs) := by
  have hmallocs := hkeeps w
  rcases Nat.lt_or_ge n len with hlt | hle
  · right
    obtain ⟨w', hrun, hquiet⟩ := (h w).2 hlt
    rw [hrun] at hmallocs
    exact ⟨hlt, w', hrun, hquiet.sameGlobals, hmallocs⟩
  · left
    obtain ⟨a, w', hrun, hquiet, ha⟩ := (h w).1 hle
    rw [hrun] at hmallocs
    exact ⟨hle, a, w', hrun, hquiet.sameGlobals, hmallocs, ha⟩

theorem Bare.run_coreServe {decode : Act Handler (Option α)} {op : α → Act Handler Int} {a : α}
    {w₁ : World Handler} {mem : Nat → UInt8} {o : Op} {c : ModuleCmd} (h : Bare w₁)
    (hpointer : w₁.coreIoSendPdu.isSome) (hdecode : decode.run w = (.ok (some a), w₁))
    (hmem : env.obtained w₁.mallocs = some mem) (hop : op a = moduleCall o c.exec) :
    ∃ w', (coreServe env cmd decode op).run w
        = (.ok (if c.bareResult < 0 then Status.fail else Status.success), w') ∧
      SameGlobals w₁ w' ∧ w'.mallocs = w₁.mallocs + 1 := by
  have hbare : Bare (World.push { w₁ with mallocs := w₁.mallocs + 1 } (.malloc .wbuf w₁.mallocs)) :=
    h.congr ⟨_, _, rfl⟩
  obtain ⟨cb, hcb⟩ := Option.isSome_iff_exists.mp hpointer
  unfold coreServe serve
  rw [Prog.run_bind_ok hdecode]
  dsimp only
  rw [Prog.run_bind_ok (run_newPduWbuf_some hmem), hop]
  have hstatus := Prog.run_bind_ok
    (f := fun res => (pure (if res < 0 then Status.fail else Status.success) : Act Handler Status))
    (hbare.run_moduleCall o c)
  rw [Prog.run_pure] at hstatus
  dsimp only
  rw [Prog.run_bind_ok hstatus]
  unfold conclude
  by_cases hres : c.bareResult < 0
  · rw [if_pos hres, if_pos (by decide)]
    exact ⟨_, rfl, ⟨_, _, rfl⟩, rfl⟩
  · rw [if_neg hres, if_neg (by decide), Prog.run_pure_bind]
    have hsend : ∀ (w₂ : World Handler) msg, w₂.coreIoSendPdu = some cb →
        (sendPdu World.coreIoSendPdu msg).run w₂ = (.ok (), w₂.push (.send msg)) := by
      intro w₂ msg hcb
      exact run_sendPdu_some hcb msg
    rw [Prog.run_bind_ok (hsend _ _ ?_)]
    · exact ⟨_, rfl, ⟨_, _, rfl⟩, rfl⟩
    · exact hcb

theorem Bare.coreServe {decode : Act Handler (Option α)} {n len : Nat} {P : α → Prop} (h : Bare w)
    (hpointer : w.coreIoSendPdu.isSome) (env : Env) (cmd : Pdu) (op : α → Act Handler Int) (res : Int)
    (hdecode : DecodesAs decode n len P) (hkeeps : KeepsMallocs decode)
    (hop : ∀ a, P a → ∃ o c, op a = moduleCall o (ModuleCmd.exec c) ∧ c.bareResult = res) :
    ∃ status w', (Bluetoothd.coreServe env cmd decode op).run w = (.ok status, w') ∧
      SameGlobals w w' ∧ w'.mallocs = w.mallocs + (if len ≤ n then 1 else 0) ∧
      (status = Status.success ↔ len ≤ n ∧ (env.obtained w.mallocs).isSome ∧ 0 ≤ res) := by
  rcases hdecode.cases hkeeps w with ⟨hle, a, w₁, hrun, hsame, hmallocs, ha⟩ |
    ⟨hlt, w₁, hrun, hsame, hmallocs⟩
  · rw [if_pos hle, ← hmallocs]
    rcases hmem : env.obtained w₁.mallocs with _ | mem
    · refine ⟨Status.fail, _, run_serve_noMem env cmd hrun hmem releases_nothing,
        hsame.trans ⟨_, _, rfl⟩, rfl, iff_of_false (by decide) (by simp)⟩
    · obtain ⟨o, c, hcall, rfl⟩ := hop a ha
      have hpointer₁ : w₁.coreIoSendPdu.isSome := by
        obtain ⟨log, m, rfl⟩ := hsame
        exact hpointer
      obtain ⟨w', hserve, hsame', hmallocs'⟩ :=
        (h.congr hsame).run_coreServe hpointer₁ hrun hmem hcall
      refine ⟨_, w', hserve, hsame.trans hsame', hmallocs', ?_⟩
      by_cases hres : c.bareResult < 0
      · rw [if_pos hres]
        exact iff_of_false (by decide) fun hx => by omega
      · rw [if_neg hres]
        exact iff_of_true rfl ⟨hle, rfl, by omega⟩
  · rw [if_neg (Nat.not_le.mpr hlt)]
    exact ⟨Status.fail, w₁, run_serve_refused env cmd hrun, hsame, hmallocs,
      iff_of_false (by decide) fun hx => by omega⟩

/-! ## Every command -/

theorem u8At_cons (b : UInt8) (bytes : List UInt8) : u8At (b :: bytes) 0 = b := by
  show UInt8.ofNat (hostInt [b]) = b
  rw [← hostBytes_one, hostInt_hostBytes 1 b.toNat_lt, UInt8.ofNat_toNat]

def Env.allocates (env : Env) (w : World Handler) (i : Nat) : Bool :=
  (env.obtained (w.mallocs + i)).isSome

theorem decodesAs_registerArgs (cmd : Pdu) : DecodesAs (do
      let some (_, [.C service, .C mode]) ← readFields cmd 0 "CC" [.C, .C] | return none
      return some (service, mode) : Act Handler (Option (UInt8 × UInt8)))
    cmd.payload.length 2 fun _ => True := by
  have hread : DecodesAs (readFields cmd 0 "CC" [.C, .C] : Act Handler _) cmd.payload.length 2 _ :=
    decodesAs_readFields rfl (by simp [Dst.HasRoom]) (Nat.zero_le _) (by decide)
  refine hread.bind Refuses.pure le_rfl ?_
  rintro _ rfl hle
  exact DecodesAs.value hle trivial

theorem keepsMallocs_registerArgs (cmd : Pdu) : KeepsMallocs (do
      let some (_, [.C service, .C mode]) ← readFields cmd 0 "CC" [.C, .C] | return none
      return some (service, mode) : Act Handler (Option (UInt8 × UInt8))) := by
  refine (keepsMallocs_readFields 0 "CC" _).bind fun r => ?_
  split <;> exact KeepsMallocs.pure _

theorem keepsMallocs_byteArg (cmd : Pdu) : KeepsMallocs (byteArg cmd : Act Handler _) := by
  refine (keepsMallocs_readFields 0 "C" _).bind fun r => ?_
  split <;> exact KeepsMallocs.pure _

/-- `register_module` never succeeds. -/
theorem Bare.registerModule (h : Bare w) (hpointer : w.coreIoSendPdu.isSome) (env : Env) (cmd : Pdu) :
    ∃ status w', (Bluetoothd.registerModule env cmd).run w = (.ok status, w') ∧ SameGlobals w w' ∧
      w'.mallocs = w.mallocs + (if 2 ≤ cmd.payload.length then 1 else 0) ∧
      status ≠ Status.success := by
  obtain ⟨status, w', hrun, hsame, hmallocs, hsuccess⟩ := h.coreServe hpointer env cmd
    (fun a => moduleCall (.registerModule a.1 a.2) (coreRegisterModule (serviceFuncs env) a.1 a.2))
    (-1) (decodesAs_registerArgs cmd) (keepsMallocs_registerArgs cmd)
    fun a _ => ⟨_, .register env a.1 a.2, rfl, rfl⟩
  refine ⟨status, w', hrun, hsame, hmallocs, fun heq => ?_⟩
  obtain ⟨-, -, hres⟩ := hsuccess.mp heq
  exact absurd hres (by decide)

theorem Bare.unregisterModule (h : Bare w) (hpointer : w.coreIoSendPdu.isSome) (env : Env)
    (cmd : Pdu) :
    ∃ status w', (Bluetoothd.unregisterModule env cmd).run w = (.ok status, w') ∧ SameGlobals w w' ∧
      w'.mallocs = w.mallocs + (if 1 ≤ cmd.payload.length then 1 else 0) ∧
      (status = Status.success ↔ 1 ≤ cmd.payload.length ∧ (env.obtained w.mallocs).isSome ∧
        IsModule (u8At cmd.payload 0)) := by
  obtain ⟨status, w', hrun, hsame, hmallocs, hsuccess⟩ := h.coreServe hpointer env cmd
    (fun service => moduleCall (.unregisterModule service)
      (coreUnregisterModule (serviceFuncs env) service))
    (ModuleCmd.unregister env (u8At cmd.payload 0)).bareResult decodesAs_byteArg
    (keepsMallocs_byteArg cmd) fun service heq => ⟨_, .unregister env service, rfl, by rw [heq]⟩
  refine ⟨status, w', hrun, hsame, hmallocs, hsuccess.trans ?_⟩
  refine and_congr_right fun _ => and_congr_right fun _ => ?_
  by_cases hmodule : IsModule (u8At cmd.payload 0)
  · simp [ModuleCmd.bareResult, hmodule]
  · simp [ModuleCmd.bareResult, hmodule]

omit [Platform] in
/-- Without a command that CORE decodes, nothing but an error reply is allocated. -/
theorem answer_undecoded {w' : World Handler} (hcmd : coreCmd cmd.service cmd.opcode cmd.payload = none)
    (hmallocs : w'.mallocs = w.mallocs) :
    answer (env.allocates w) (coreCmd cmd.service cmd.opcode cmd.payload)
      = errorReply (env.obtained w'.mallocs).isSome := by
  rw [hcmd, hmallocs]
  rfl

theorem Bare.dispatch_answer (h : Bare w) (hpointer : w.coreIoSendPdu.isSome) (env : Env) (cmd : Pdu) :
    ∃ status w', (dispatch env cmd).run w = (.ok status, w') ∧ SameGlobals w w' ∧
      answer (env.allocates w) (coreCmd cmd.service cmd.opcode cmd.payload)
        = if status = Status.success then .served else errorReply (env.obtained w'.mallocs).isSome := by
  rcases h.dispatch_cases env cmd with ⟨hnone, hrun⟩ | ⟨hservice, handler, htable, hrun⟩
  · have hcmd : coreCmd cmd.service cmd.opcode cmd.payload = none := by
      unfold coreCmd
      split_ifs with hservice
      · have htable := hnone hservice
        split
        case h_1 hopcode _ =>
          rw [hopcode] at htable
          cases htable
        case h_2 hopcode _ =>
          rw [hopcode] at htable
          cases htable
        case h_3 => rfl
      · rfl
    refine ⟨Status.unsupported, w, hrun, SameGlobals.refl w, ?_⟩
    rw [if_neg (by decide), answer_undecoded hcmd rfl]
  unfold coreTable at htable
  split at htable <;> cases htable
  case h_1 hopcode =>
    obtain ⟨status, w', hregister, hsame, hmallocs, hfail⟩ := h.registerModule hpointer env cmd
    refine ⟨status, w', hrun.trans hregister, hsame, ?_⟩
    rw [if_neg hfail]
    rcases hpayload : cmd.payload with _ | ⟨service, _ | ⟨mode, rest⟩⟩ <;> rw [hpayload] at hmallocs
    · rw [← hpayload]
      exact answer_undecoded (by simp [coreCmd, hopcode, hpayload]) hmallocs
    · rw [← hpayload]
      exact answer_undecoded (by simp [coreCmd, hopcode, hpayload]) hmallocs
    · have hcmd : coreCmd cmd.service cmd.opcode (service :: mode :: rest)
          = some (.register service mode) := by
        simp [coreCmd, hservice, hopcode]
      have hlen : 2 ≤ (service :: mode :: rest).length := by simp
      rw [hcmd, hmallocs, if_pos hlen]
      rfl
  case h_2 hopcode =>
    obtain ⟨status, w', hunregister, hsame, hmallocs, hsuccess⟩ :=
      h.unregisterModule hpointer env cmd
    refine ⟨status, w', hrun.trans hunregister, hsame, ?_⟩
    rcases hpayload : cmd.payload with _ | ⟨service, rest⟩ <;> rw [hpayload] at hmallocs hsuccess
    · rw [if_neg fun heq => absurd (hsuccess.mp heq).1 (by simp), ← hpayload]
      exact answer_undecoded (by simp [coreCmd, hopcode, hpayload]) hmallocs
    · have hcmd : coreCmd cmd.service cmd.opcode (service :: rest) = some (.unregister service) := by
        simp [coreCmd, hservice, hopcode]
      have hlen : 1 ≤ (service :: rest).length := by simp
      rw [u8At_cons, and_iff_right hlen] at hsuccess
      rw [hcmd, hmallocs, if_pos hlen]
      by_cases heq : status = Status.success
      · rw [if_pos heq]
        exact if_pos (hsuccess.mp heq)
      · rw [if_neg heq]
        exact if_neg (mt hsuccess.mpr heq)

/-- `handle_pdu` ends as the answer says: it sends an echo of the command's header and returns 0, or
returns -1 without an answer, or does not return. -/
def EndsWith (env : Env) (calls : Nat) (cmd : Pdu) (w : World Handler) : Answer → Prop
  | .served => ∃ w' msg, handlePduResult env calls cmd w = some (0, w') ∧ SameGlobals w w' ∧
      sentOf w'.log = sentOf w.log ++ [msg] ∧ Answers cmd msg.wbuf.pdu
  | .dropped => ∃ w', handlePduResult env calls cmd w = some (-1, w') ∧ SameGlobals w w' ∧
      sentOf w'.log = sentOf w.log
  | .stuck => handlePduResult env calls cmd w = none

/-- **How a command ends** in a daemon without modules. -/
theorem Bare.endsWith (h : Bare w) (hpointer : w.coreIoSendPdu.isSome) (env : Env) (calls : Nat)
    (cmd : Pdu) : EndsWith env calls cmd w
      (answer (env.allocates w) (coreCmd cmd.service cmd.opcode cmd.payload)) := by
  obtain ⟨status, w', hrun, hsame, hanswer⟩ := h.dispatch_answer hpointer env cmd
  rw [hanswer]
  by_cases hstatus : status = Status.success
  · subst hstatus
    rw [if_pos rfl]
    have hresult : Bluetoothd.handlePduResult env calls cmd w = some (0, w') := by
      unfold Bluetoothd.handlePduResult
      rw [run_handlePdu_success hrun]
    have hservice : cmd.service = serviceCore := by
      rw [if_pos rfl] at hanswer
      obtain ⟨m, hcmd, -⟩ := answer_eq_served hanswer
      exact (coreCmd_eq_unregister hcmd).1
    rw [dispatch_eq (hservice ▸ h.core)] at hrun
    rcases htable : Handler.core.table env cmd.opcode with _ | handle
    · rw [Handler.handle_unsupported htable] at hrun
      exact absurd (Except.ok.inj (Prod.mk.inj hrun).1) (by decide)
    · obtain ⟨evs, hlog, hdisciplined⟩ := table_disciplined env htable cmd w
      rw [Handler.handle_eq htable] at hrun
      rw [hrun] at hlog hdisciplined
      obtain ⟨-, msg, hsent, hanswers⟩ := hdisciplined.success.mp rfl
      exact ⟨w', msg, hresult, hsame, by rw [hlog, sentOf_append, hsent], hanswers⟩
  · rw [if_neg hstatus]
    rcases hmem : env.obtained w'.mallocs with _ | mem
    · have hsent := sentOf_dispatch_failed hstatus hrun
      refine ⟨{ w' with mallocs := w'.mallocs + 1 }, ?_, hsame.trans ⟨_, _, rfl⟩, hsent⟩
      unfold Bluetoothd.handlePduResult
      rw [run_handlePdu_noMem hstatus hrun hmem]
    · have hdepth := run_handlePdu_failed hstatus hrun hmem calls
      show Bluetoothd.handlePduResult env calls cmd w = none
      unfold Bluetoothd.handlePduResult
      rcases hresult : (handlePdu env calls cmd).run w with ⟨fault | res, w₁⟩
      · rfl
      · rw [hresult] at hdepth
        cases hdepth

end commands

end Bluetoothd

import Bluetoothd.Lib.Transition
import Bluetoothd.Service.Reply

/-!
# BT_CORE as a relay

A client of BT_CORE talks to the HAL through the daemon. `Relay` says what is meant to pass: a command
whose payload decodes becomes a call of the HAL, and one that the HAL accepts is answered.
`run_eq_relay` says that while the service is registered its handlers do that, over any sequence of
commands.
-/

namespace Bluetoothd

open Platform Transition

/-! ## The relay -/

/-- What has passed: the calls of the HAL, the replies by service and opcode, and the status that each
command ended with. -/
structure Relay where
  calls : List Op
  replies : List (UInt8 × UInt8)
  statuses : List Status
  deriving DecidableEq, Repr

structure RelayedCmd where
  env : Env
  cmd : Pdu

section relay

variable [Platform]

def Relay.pass (r : Relay) (c : RelayedCmd) (op : Op) : Relay where
  calls := r.calls ++ [op]
  replies := if c.env.hal op = Status.success then r.replies ++ [(c.cmd.service, c.cmd.opcode)]
    else r.replies
  statuses := r.statuses ++ [c.env.hal op]

def Relay.refuse (r : Relay) (status : Status) : Relay := { r with statuses := r.statuses ++ [status] }

def Relay.step (r : Relay) (c : RelayedCmd) : Relay :=
  match btCoreLayout c.env c.cmd.opcode c.cmd.payload with
  | none => r.refuse Status.unsupported
  | some (len, op) =>
    if len ≤ c.cmd.payload.length then r.pass c op else r.refuse Status.parmInvalid

/-! ## The handlers -/

/-- The commands are dispatched by `handle_pdu_by_service`, one after the other. -/
def dispatchStep (s : World Handler × List Status) (c : RelayedCmd) :
    Option (World Handler × List Status) :=
  match (dispatch c.env c.cmd).run s.1 with
  | (.ok status, w) => some (w, s.2 ++ [status])
  | (.error _, _) => none

def relayed (s : World Handler × List Status) : Relay := ⟨callsOf s.1.log, repliesOf s.1.log, s.2⟩

structure BtCoreUp (w : World Handler) : Prop where
  handler : w.serviceHandler serviceBtCore = some .btCore
  interface : w.btInterface.isSome
  pointer : w.btCoreIoSendPdu.isSome

omit [Platform] in
theorem BtCoreUp.congr {w w' : World Handler} (h : BtCoreUp w) (hsame : SameGlobals w w') :
    BtCoreUp w' := by
  obtain ⟨log, m, rfl⟩ := hsame
  exact ⟨h.handler, h.interface, h.pointer⟩

/-- A command for BT_CORE while there is memory. -/
def RelayedCmd.Ordinary (c : RelayedCmd) : Prop :=
  c.cmd.service = serviceBtCore ∧ ∀ n, (c.env.obtained n).isSome

variable {env : Env} {w w₁ w' : World Handler}

omit [Platform] in
theorem run_btInterfaceCall (h : w.btInterface.isSome) (op : Op) :
    (btInterfaceCall env op).run w = (.ok (env.hal op),
      ((w.push (.call op)).push (.asserted w.btInterface)).push (.result op (env.hal op))) := by
  have hpushed : (w.push (.call op)).btInterface.isNone = false := by
    rw [← Option.not_isSome]
    exact congrArg not h
  unfold btInterfaceCall
  rw [run_emit_bind, Prog.run_get_bind, run_emit_bind, hpushed]
  rfl

structure Passed (c : RelayedCmd) (op : Op) (w w' : World Handler) : Prop where
  same : SameGlobals w w'
  calls : callsOf w'.log = callsOf w.log ++ [op]
  replies : repliesOf w'.log =
    if c.env.hal op = Status.success then repliesOf w.log ++ [(c.cmd.service, c.cmd.opcode)]
    else repliesOf w.log

omit [Platform] in
theorem repliesOf_append (xs ys : List Event) : repliesOf (xs ++ ys) = repliesOf xs ++ repliesOf ys := by
  rw [repliesOf, sentOf_append, List.map_append, repliesOf, repliesOf]

omit [Platform] in
theorem repliesOf_quiet (h : Quiet w w') : repliesOf w'.log = repliesOf w.log := by
  obtain ⟨evs, m, rfl, -, hsent⟩ := h
  have hnone : repliesOf evs = [] := by rw [repliesOf, hsent, List.map_nil]
  show repliesOf (w.log ++ evs) = _
  rw [repliesOf_append, hnone, List.append_nil]

theorem run_conclude_passes (cmd : Pdu) {release : Act Handler Unit} {blocks : List Nat}
    (hrelease : Releases release blocks) (wbuf : WBuf) (status : Status)
    (hpointer : w.btCoreIoSendPdu.isSome) :
    ∃ evs, (conclude cmd release World.btCoreIoSendPdu buildPduWbufMsg wbuf status).run w
        = (.ok status, { w with log := w.log ++ evs }) ∧ callsOf evs = [] ∧
      repliesOf evs = if status = Status.success then [(cmd.service, cmd.opcode)] else [] := by
  obtain ⟨-, -, hcalls, -, hsent⟩ := observe_frees blocks
  have hreplies : repliesOf (blocks.map .free) = [] := by rw [repliesOf, hsent, List.map_nil]
  unfold conclude
  by_cases hstatus : status = Status.success
  · obtain ⟨cb, hcb⟩ := Option.isSome_iff_exists.mp hpointer
    have hcb' : World.btCoreIoSendPdu { w with log := w.log ++ blocks.map .free } = some cb := hcb
    have hsend := run_sendPdu_some hcb' (buildPduWbufMsg (wbuf.initPdu cmd.service cmd.opcode))
    rw [if_neg (not_not_intro hstatus), Prog.run_bind_ok (hrelease w), Prog.run_bind_ok hsend,
      Prog.run_pure, if_pos hstatus, hstatus, World.push, List.append_assoc]
    refine ⟨_, rfl, ?_, ?_⟩
    · rw [callsOf_append, hcalls]
      rfl
    · rw [repliesOf_append, hreplies]
      rfl
  · have hcleanup : (cleanupPduWbuf wbuf).run w = (.ok (), w.push (.free wbuf.block)) := rfl
    rw [if_pos hstatus, Prog.run_bind_ok hcleanup, Prog.run_bind_ok (hrelease _), Prog.run_pure,
      if_neg hstatus, World.push, List.append_assoc]
    refine ⟨_, rfl, ?_, ?_⟩
    · rw [callsOf_append, hcalls]
      rfl
    · rw [repliesOf_append, hreplies]
      rfl

/-- A handler that has decoded its arguments and has a reply buffer passes the call on. -/
theorem run_serve_passes {α : Type} {short noMem : Status} {decode : Act Handler (Option α)}
    {release : α → Act Handler Unit} {blocks : List Nat} {ops : α → Op} {a : α} (c : RelayedCmd)
    (hrun : decode.run w = (.ok (some a), w₁)) (halloc : ∀ n, (c.env.obtained n).isSome)
    (hrelease : Releases (release a) blocks) (hup : BtCoreUp w₁) :
    ∃ w', (serve c.env c.cmd short noMem decode release (fun a => btInterfaceCall c.env (ops a))
      World.btCoreIoSendPdu buildPduWbufMsg).run w = (.ok (c.env.hal (ops a)), w') ∧
      Passed c (ops a) w₁ w' := by
  obtain ⟨mem, hmem⟩ := Option.isSome_iff_exists.mp (halloc w₁.mallocs)
  unfold serve
  rw [Prog.run_bind_ok hrun]
  dsimp only
  rw [Prog.run_bind_ok (run_newPduWbuf_some hmem)]
  dsimp only
  generalize hw₂ : World.push { w₁ with mallocs := w₁.mallocs + 1 } (.malloc .wbuf w₁.mallocs) = w₂
  have hup₂ : BtCoreUp w₂ := hw₂ ▸ hup.congr ⟨_, _, rfl⟩
  rw [Prog.run_bind_ok (run_btInterfaceCall hup₂.interface (ops a))]
  generalize hw₃ : ((w₂.push (.call (ops a))).push (.asserted w₂.btInterface)).push
    (.result (ops a) (c.env.hal (ops a))) = w₃
  have hup₃ : BtCoreUp w₃ := hw₃ ▸ hup₂.congr ⟨_, _, rfl⟩
  obtain ⟨evs, hconclude, hcalls, hreplies⟩ := run_conclude_passes c.cmd hrelease
    (createPduWbuf w₁.mallocs mem 0) (c.env.hal (ops a)) hup₃.pointer
  rw [hconclude]
  have hlog : w₃.log ++ evs = w₁.log ++ ([.malloc .wbuf w₁.mallocs, .call (ops a),
      .asserted w₂.btInterface, .result (ops a) (c.env.hal (ops a))] ++ evs) := by
    rw [← hw₃, ← hw₂]
    simp [World.push]
  rw [hlog]
  refine ⟨_, rfl, ?_, ?_, ?_⟩
  · rw [← hw₃, ← hw₂]
    exact ⟨_, _, rfl⟩
  · show callsOf (w₁.log ++ _) = _
    rw [callsOf_append, callsOf_append, hcalls]
    rfl
  · show repliesOf (w₁.log ++ _) = _
    rw [repliesOf_append, repliesOf_append, hreplies]
    split
    · rfl
    · exact List.append_nil _

theorem dispatch_relays {s : World Handler × List Status} (hup : BtCoreUp s.1) {c : RelayedCmd}
    (hc : c.Ordinary) : ∃ s', dispatchStep s c = some s' ∧ relayed s' = (relayed s).step c ∧
      BtCoreUp s'.1 := by
  obtain ⟨w, statuses⟩ := s
  obtain ⟨hservice, halloc⟩ := hc
  have hhandler : w.serviceHandler c.cmd.service = some .btCore := by rw [hservice, hup.handler]
  unfold dispatchStep Relay.step
  rw [dispatch_eq hhandler]
  rcases htable : Handler.btCore.table c.env c.cmd.opcode with _ | handle
  · have hlayout : btCoreLayout c.env c.cmd.opcode c.cmd.payload = none := by
      rw [← Option.not_isSome_iff_eq_none, btCoreLayout_isSome]
      exact Option.not_isSome_iff_eq_none.mpr htable
    rw [Handler.handle_unsupported htable, Prog.run_pure, hlayout]
    exact ⟨_, rfl, rfl, hup⟩
  obtain ⟨⟨len, op⟩, hlayout, α, decode, release, held, ops, hserve, hdecode, hrelease, -⟩ :=
    btCoreTable_serves halloc c.cmd htable
  obtain ⟨haccept, hrefuse⟩ := hdecode w
  rw [Handler.handle_eq htable, hserve, hlayout]
  dsimp only
  by_cases hlen : len ≤ c.cmd.payload.length
  · obtain ⟨a, w₁, hrun, hquiet, rfl⟩ := haccept hlen
    obtain ⟨w', hpasses, hpassed⟩ := run_serve_passes c hrun halloc (hrelease a)
      (hup.congr hquiet.sameGlobals)
    rw [hpasses, if_pos hlen]
    refine ⟨_, rfl, ?_, hup.congr (hquiet.sameGlobals.trans hpassed.same)⟩
    unfold relayed Relay.pass
    rw [hpassed.calls, hpassed.replies, hquiet.callsOf, repliesOf_quiet hquiet]
  · obtain ⟨w₁, hrun, hquiet⟩ := hrefuse (Nat.lt_of_not_le hlen)
    rw [run_serve_refused c.env c.cmd hrun, if_neg hlen]
    refine ⟨_, rfl, ?_, hup.congr hquiet.sameGlobals⟩
    unfold relayed Relay.refuse
    rw [hquiet.callsOf, repliesOf_quiet hquiet]

/-- **BT_CORE relays.** While it is registered and there is memory, every sequence of commands is
dispatched to its end, and the calls of the HAL, the replies and the returned statuses are those of
the relay. -/
theorem run_eq_relay {s : World Handler × List Status} (hup : BtCoreUp s.1) {cmds : List RelayedCmd}
    (hcmds : ∀ c ∈ cmds, c.Ordinary) :
    ∃ s', run dispatchStep s cmds = some s' ∧ relayed s' = cmds.foldl Relay.step (relayed s) ∧
      BtCoreUp s'.1 := by
  induction cmds generalizing s with
  | nil => exact ⟨s, rfl, rfl, hup⟩
  | cons c cmds ih =>
    rw [List.forall_mem_cons] at hcmds
    obtain ⟨s₁, hstep, hrelay, hup₁⟩ := dispatch_relays hup hcmds.1
    obtain ⟨s', hrun, hrelays, hup'⟩ := ih hup₁ hcmds.2
    refine ⟨s', ?_, ?_, hup'⟩
    · rw [run_cons, hstep, Option.bind_some, hrun]
    · rw [List.foldl_cons, ← hrelay, hrelays]

end relay

/-- A client enables the adapter, names it, which the HAL refuses, and sends a byte too few. -/
def adapterSession : List RelayedCmd :=
  [⟨.obliging, initPdu [] serviceBtCore 0x01⟩,
    ⟨{ Env.obliging with hal := fun _ => Status.fail },
      ⟨serviceBtCore, 0x05, 5, [1, 2, 0, 7, 8], Nat.le_refl 5⟩⟩,
    ⟨.obliging, ⟨serviceBtCore, 0x0d, 5, [1, 2, 3, 4, 5], Nat.le_refl 5⟩⟩]

theorem run_eq_relay_adapterSession :
    ∃ s', run (@dispatchStep lp64) (.registered, []) adapterSession = some s' ∧
      relayed s' = ⟨[.enable, .setAdapterProperty ⟨1, 2, [7, 8]⟩], [(serviceBtCore, 0x01)],
        [Status.success, Status.fail, Status.parmInvalid]⟩ := by
  have hordinary : ∀ c ∈ adapterSession, c.Ordinary := by
    simp [adapterSession, RelayedCmd.Ordinary, Env.obliging, initPdu, Env.obtained, Malloc.obtained]
  obtain ⟨s', hrun, hrelay, -⟩ := @run_eq_relay lp64 (.registered, []) ⟨rfl, rfl, rfl⟩ adapterSession
    hordinary
  refine ⟨s', hrun, hrelay.trans ?_⟩
  decide +kernel

end Bluetoothd

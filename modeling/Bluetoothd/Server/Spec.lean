import Bluetoothd.CmdSocket.EventIn
import Bluetoothd.Service.Registry

/-!
# The daemon as a server

What a client can see of the daemon, without descriptors, tables and pointers: whether connections
are accepted, what has become of the connection for commands and of the one for notifications, and
the replies so far. `Server.step` is the whole of its behaviour, `none` standing for an event that is
never finished: its bytes go past the receive buffer, or it never returns from a command.
-/

namespace Bluetoothd

open Platform Buffer

/-! ## Commands -/

inductive CoreCmd where
  | register (service mode : UInt8)
  | unregister (service : UInt8)
  deriving DecidableEq, Repr

def coreCmd (service opcode : UInt8) (payload : List UInt8) : Option CoreCmd :=
  if service = serviceCore then
    match opcode, payload with
    | 0x01, service :: mode :: _ => some (.register service mode)
    | 0x02, service :: _ => some (.unregister service)
    | _, _ => none
  else none

/-- How a command ends: with a reply, with the connection closed, or never. -/
inductive Answer where
  | served
  | dropped
  | stuck
  deriving DecidableEq, Repr

/-- A command that fails is answered if there is memory for the answer, which is never finished. -/
def errorReply (mem : Bool) : Answer := if mem then .stuck else .dropped

/-- The end of a command; `mem i` is whether its `i`-th allocation succeeds. The only command that
succeeds is one that unregisters a module, and a command that CORE decodes allocates a reply before
it fails. -/
def answer (mem : Nat → Bool) : Option CoreCmd → Answer
  | none => errorReply (mem 0)
  | some (.register _ _) => errorReply (mem 1)
  | some (.unregister service) =>
    if mem 0 ∧ IsModule service then .served else errorReply (mem 1)

/-! ## The server -/

/-- The connection for commands: there is none, or one with the bytes of the command that is not
complete yet, or the server has closed one whose place is not free. -/
inductive CmdConn where
  | vacant
  | serving (pending : List UInt8)
  | lost
  deriving DecidableEq, Repr

@[ext]
structure Server where
  listening : Bool
  cmd : CmdConn
  ntf : Bool
  /-- The service and the opcode of each reply. -/
  replies : List (UInt8 × UInt8)
  deriving DecidableEq, Repr

/-- What happens to the server. A connection comes with whether there are the resources to serve
it, and the bytes of a command with the outcomes of the allocations that handling it makes. -/
inductive ServerInput where
  | idle
  | listenError
  | connect (ready : Bool)
  | cmdError
  | readError
  | data (bytes : List UInt8) (mem : Nat → Bool)

def Server.start : Server := ⟨true, .vacant, false, []⟩

section model

variable [Platform]

/-- The bytes that there is room for behind the lengths of a receive buffer. -/
def cmdRoom : Nat := sizeofPduRbuf + maxCmdLen - 2 * wordBytes

/-- The bytes are those of one PDU: a header, and a payload of the length it declares. -/
def IsPdu (bytes : List UInt8) : Prop :=
  sizeofPdu ≤ bytes.length ∧ bytes.length = sizeofPdu + hostInt (slice bytes 2 2)

instance : DecidablePred IsPdu := fun _ => inferInstanceAs (Decidable (_ ∧ _))

def answerTo (mem : Nat → Bool) (bytes : List UInt8) : Answer :=
  answer mem (coreCmd (bytes.getD 0 0) (bytes.getD 1 0) (bytes.drop sizeofPdu))

def Server.receive (s : Server) (bytes : List UInt8) (mem : Nat → Bool) : Option Server :=
  if cmdRoom < bytes.length then none
  else if IsPdu bytes then
    match answerTo mem bytes with
    | .served =>
      some { s with
        cmd := .serving []
        replies := s.replies ++ [(bytes.getD 0 0, bytes.getD 1 0)] }
    | .dropped => some { s with cmd := .lost }
    | .stuck => none
  else if bytes.length = sizeofPdu + maxCmdLen then some { s with cmd := .lost }
  else some { s with cmd := .serving bytes }

def Server.step (s : Server) : ServerInput → Option Server
  | .idle => some s
  | .listenError => some { s with listening := false }
  | .connect ready =>
    match s.cmd with
    | .vacant => some { s with cmd := if ready then .serving [] else .vacant }
    | _ => some { s with ntf := true }
  | .cmdError =>
    match s.cmd with
    | .serving _ => some { s with cmd := .vacant }
    | _ => none
  | .readError =>
    match s.cmd with
    | .serving _ => some { s with cmd := .lost }
    | _ => none
  | .data bytes mem =>
    match s.cmd with
    | .serving pending => s.receive (pending ++ bytes) mem
    | _ => none

def servesBytes (mem : Nat → Bool) (bytes : List UInt8) : Bool :=
  decide (bytes.length ≤ cmdRoom) && decide (IsPdu bytes) && decide (answerTo mem bytes = .served)

def Server.serves (s : Server) : ServerInput → Bool
  | .data bytes mem =>
    match s.cmd with
    | .serving pending => servesBytes mem (pending ++ bytes)
    | _ => false
  | _ => false

/-- The server does not get past the bytes: there is no room for them, or they are a command that fails
and whose error reply is never finished. -/
def FatalBytes (mem : Nat → Bool) (bytes : List UInt8) : Prop :=
  cmdRoom < bytes.length ∨ IsPdu bytes ∧ answerTo mem bytes = .stuck

def Server.Fatal (s : Server) (i : ServerInput) : Prop :=
  ∃ bytes mem pending, i = .data bytes mem ∧ s.cmd = .serving pending ∧
    FatalBytes mem (pending ++ bytes)

end model

/-! ## What the server does -/

section steps

variable [Platform] {s s' : Server} {i : ServerInput} {bytes : List UInt8} {mem : Nat → Bool}

omit [Platform] in
/-- A command that is served unregisters a module. -/
theorem answer_eq_served {cmd : Option CoreCmd} (h : answer mem cmd = .served) :
    ∃ service, cmd = some (.unregister service) ∧ IsModule service ∧ mem 0 = true := by
  have herror : ∀ b, errorReply b ≠ .served := by decide
  rcases cmd with _ | ⟨service, mode⟩ | service
  · exact absurd h (herror _)
  · exact absurd h (herror _)
  · simp only [answer] at h
    split at h
    case isTrue hmodule => exact ⟨service, rfl, hmodule.2, hmodule.1⟩
    case isFalse => exact absurd h (herror _)

omit [Platform] in
theorem coreCmd_eq_unregister {service opcode m : UInt8} {payload : List UInt8}
    (h : coreCmd service opcode payload = some (.unregister m)) :
    service = serviceCore ∧ opcode = 0x02 := by
  unfold coreCmd at h
  split at h
  case isFalse => cases h
  case isTrue hservice =>
    refine ⟨hservice, ?_⟩
    split at h <;> cases h
    rfl

/-- Receiving bytes touches neither the acceptor nor the notifications, and a reply is one to a
command that unregisters a module. -/
theorem Server.receive_cases (h : s.receive bytes mem = some s') :
    s'.listening = s.listening ∧ s'.ntf = s.ntf ∧
      (s'.replies = s.replies ∨ s'.replies = s.replies ++ [(serviceCore, 0x02)]) := by
  unfold Server.receive at h
  split at h
  · cases h
  split at h
  · split at h
    case h_1 hanswer =>
      obtain ⟨m, hcmd, -⟩ := answer_eq_served hanswer
      obtain ⟨hservice, hopcode⟩ := coreCmd_eq_unregister hcmd
      cases h
      exact ⟨rfl, rfl, .inr (by rw [hservice, hopcode])⟩
    case h_2 =>
      cases h
      exact ⟨rfl, rfl, .inl rfl⟩
    case h_3 => cases h
  · split at h <;> cases h <;> exact ⟨rfl, rfl, .inl rfl⟩

theorem Server.receive_isSome_iff : (s.receive bytes mem).isSome ↔ ¬ FatalBytes mem bytes := by
  unfold Server.receive FatalBytes
  by_cases hroom : cmdRoom < bytes.length
  · simp [hroom]
  by_cases hpdu : IsPdu bytes
  · rw [if_neg hroom, if_pos hpdu]
    cases answerTo mem bytes <;> simp [hroom, hpdu]
  · rw [if_neg hroom, if_neg hpdu]
    split <;> simp [hroom, hpdu]

theorem Server.receive_replies (h : s.receive bytes mem = some s') :
    s'.replies.length = s.replies.length + (if servesBytes mem bytes then 1 else 0) := by
  unfold Server.receive at h
  unfold servesBytes
  split at h
  case isTrue => cases h
  case isFalse hroom =>
    rw [decide_eq_true (Nat.not_lt.mp hroom), Bool.true_and]
    split at h
    case isTrue hpdu =>
      rw [decide_eq_true hpdu, Bool.true_and]
      split at h
      case h_1 hanswer =>
        cases h
        rw [decide_eq_true hanswer, if_pos rfl]
        exact List.length_append
      case h_2 hanswer =>
        cases h
        simp [hanswer]
      case h_3 => cases h
    case isFalse hpdu =>
      rw [decide_eq_false hpdu, Bool.false_and]
      split at h <;> cases h <;> rfl

theorem Server.step_replies (h : s.step i = some s') :
    s'.replies.length = s.replies.length + (if s.serves i then 1 else 0) := by
  unfold Server.step at h
  unfold Server.serves
  cases i with
  | data bytes mem =>
    dsimp only at h ⊢
    split at h
    case h_1 => exact Server.receive_replies h
    case h_2 => cases h
  | connect ready =>
    dsimp only at h
    split at h <;> cases h <;> rfl
  | cmdError =>
    dsimp only at h
    split at h <;> cases h
    rfl
  | readError =>
    dsimp only at h
    split at h <;> cases h
    rfl
  | _ =>
    cases h
    rfl

theorem Server.step_cases (h : s.step i = some s') :
    (s.ntf = true → s'.ntf = true) ∧ (s.listening = false → s'.listening = false) ∧
      (s'.replies = s.replies ∨ s'.replies = s.replies ++ [(serviceCore, 0x02)]) := by
  unfold Server.step at h
  cases i with
  | idle =>
    cases h
    exact ⟨id, id, .inl rfl⟩
  | listenError =>
    cases h
    exact ⟨id, fun _ => rfl, .inl rfl⟩
  | connect ready =>
    dsimp only at h
    split at h <;> cases h
    · exact ⟨id, id, .inl rfl⟩
    · exact ⟨fun _ => rfl, id, .inl rfl⟩
  | cmdError =>
    dsimp only at h
    split at h <;> cases h
    exact ⟨id, id, .inl rfl⟩
  | readError =>
    dsimp only at h
    split at h <;> cases h
    exact ⟨id, id, .inl rfl⟩
  | data bytes mem =>
    dsimp only at h
    split at h
    · obtain ⟨hlistening, hntf, hreplies⟩ := Server.receive_cases h
      exact ⟨hntf.trans, hlistening.trans, hreplies⟩
    · cases h

/-- A place that was lost is lost for good, and no command is answered any more. -/
theorem Server.step_lost (hlost : s.cmd = .lost) (h : s.step i = some s') :
    s'.cmd = .lost ∧ s'.replies = s.replies := by
  unfold Server.step at h
  cases i with
  | idle =>
    cases h
    exact ⟨hlost, rfl⟩
  | listenError =>
    cases h
    exact ⟨hlost, rfl⟩
  | connect ready =>
    simp only [hlost, Option.some.injEq] at h
    subst h
    exact ⟨rfl, rfl⟩
  | _ => simp [hlost] at h

theorem Server.replies_of_lost (h : s.step i = some s') (hlost : s'.cmd = .lost) :
    s'.replies = s.replies := by
  unfold Server.step at h
  cases i with
  | data bytes mem =>
    dsimp only at h
    split at h
    case h_2 => cases h
    unfold Server.receive at h
    split at h
    · cases h
    split at h
    · split at h <;> cases h
      · cases hlost
      · rfl
    · split at h <;> cases h <;> rfl
  | connect ready =>
    dsimp only at h
    split at h <;> cases h <;> rfl
  | cmdError =>
    dsimp only at h
    split at h <;> cases h
    rfl
  | readError =>
    dsimp only at h
    split at h <;> cases h
    rfl
  | _ =>
    cases h
    rfl

end steps

end Bluetoothd

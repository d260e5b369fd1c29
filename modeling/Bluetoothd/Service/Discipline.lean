import Bluetoothd.Service.Trace
import Bluetoothd.Service.Handlers

/-!
# The discipline of the opcode handlers

`Disciplined` states what all handlers have in common: the operation is performed at most once and
not before everything it needs is in place, the status tells whether it succeeded and was answered,
and no block of memory is lost. The handlers differ in how they decode their payload (`Decodes`)
and in the operation they perform (`Performs`); `serve_disciplined` derives the rest.
-/

namespace Bluetoothd

open Platform

variable {H α β : Type}

def formatRead (evs : List Event) : List Char := (readsOf evs).flatMap fun r => r.1.toList

/-- The payload was decoded according to `format`, and a reply buffer was allocated. -/
structure Ready (format : String) (evs : List Event) : Prop where
  decoded : formatRead evs = format.toList
  accepted : ∀ r ∈ readsOf evs, 0 ≤ r.2
  reply : ∃ block, .malloc .wbuf block ∈ evs

/-- A reply to `cmd`: its service, its opcode, and no payload. -/
def Answers (cmd pdu : Pdu) : Prop :=
  pdu.service = cmd.service ∧ pdu.opcode = cmd.opcode ∧ pdu.len = 0

structure Disciplined (format : String) (cmd : Pdu) (out : Except Fault Status)
    (evs : List Event) : Prop where
  calls : callsOf evs = [] ∨ ∃ pre op post, evs = pre ++ .call op :: post ∧
    callsOf pre = [] ∧ callsOf post = [] ∧ Ready format pre ∧ readsOf post = []
  success : out = .ok Status.success ↔ (∃ op res, (op, res) ∈ resultsOf evs ∧ op.Succeeded res) ∧
    ∃ msg, sentOf evs = [msg] ∧ Answers cmd msg.wbuf.pdu
  quiet : ∀ status, out = .ok status → status ≠ Status.success → sentOf evs = []
  nodup : (mallocsOf evs).Nodup
  released : ∀ status, out = .ok status →
    (freesOf evs ++ (sentOf evs).map fun msg => msg.wbuf.block).Perm (mallocsOf evs)
  handedOver : ∀ msg ∈ sentOf evs, .malloc .wbuf msg.wbuf.block ∈ evs

/-- What a decoder adds to the log: reads, and the allocation of the blocks that its result holds,
which a decoder that fails has released. -/
structure Decoding (format : String) (held : α → List Nat) (n : Nat)
    (r : Except Fault (Option α)) (evs : List Event) (m : Nat) : Prop where
  calls : callsOf evs = []
  results : resultsOf evs = []
  sent : sentOf evs = []
  asserted : assertedOf evs = []
  le : n ≤ m
  fresh : ∀ block ∈ mallocsOf evs, n ≤ block ∧ block < m
  nodup : (mallocsOf evs).Nodup
  failed : r = .ok none → (freesOf evs).Perm (mallocsOf evs)
  decoded : ∀ a, r = .ok (some a) → formatRead evs = format.toList ∧ (∀ r ∈ readsOf evs, 0 ≤ r.2) ∧
    mallocsOf evs = held a ∧ freesOf evs = []

def Decodes (x : Act H (Option α)) (format : String) (held : α → List Nat) : Prop :=
  Emits x (Decoding format held)

def Releases (x : Act H Unit) (blocks : List Nat) : Prop :=
  ∀ w, x.run w = (.ok (), { w with log := w.log ++ blocks.map .free })

theorem formatRead_append (xs ys : List Event) :
    formatRead (xs ++ ys) = formatRead xs ++ formatRead ys := by
  simp [formatRead]

/-! ## Decoders -/

section decoders

variable {x : Act H (Option α)} {k : Option α → Act H (Option β)} {f₁ f₂ : String}
  {held : α → List Nat} {held' : β → List Nat}

theorem Decoding.nothing {n m : Nat} (h : n ≤ m) : Decoding f₁ held n (.ok none) [] m where
  calls := rfl
  results := rfl
  sent := rfl
  asserted := rfl
  le := h
  fresh := by simp [mallocsOf]
  nodup := List.nodup_nil
  failed := fun _ => List.Perm.refl _
  decoded := fun a h => by cases h

theorem Decoding.append {r : Except Fault (Option α)} {r' : Except Fault (Option β)}
    {evs evs' : List Event} {n m l : Nat} (h : Decoding f₁ (fun _ => []) n r evs m)
    (h' : Decoding f₂ held' m r' evs' l)
    (hsome : ∀ b, r' = .ok (some b) → formatRead evs = f₁.toList ∧ (∀ p ∈ readsOf evs, 0 ≤ p.2) ∧
      mallocsOf evs = [] ∧ freesOf evs = [])
    (hperm : (freesOf evs).Perm (mallocsOf evs)) :
    Decoding (f₁ ++ f₂) held' n r' (evs ++ evs') l where
  calls := by rw [callsOf_append, h.calls, h'.calls]; rfl
  results := by rw [resultsOf_append, h.results, h'.results]; rfl
  sent := by rw [sentOf_append, h.sent, h'.sent]; rfl
  asserted := by rw [assertedOf_append, h.asserted, h'.asserted]; rfl
  le := le_trans h.le h'.le
  fresh := by
    intro block hblock
    rw [mallocsOf_append, List.mem_append] at hblock
    rcases hblock with hblock | hblock
    · have hb := h.fresh block hblock
      have hle := h'.le
      omega
    · have hb := h'.fresh block hblock
      have hle := h.le
      omega
  nodup := by
    rw [mallocsOf_append]
    refine List.nodup_append.mpr ⟨h.nodup, h'.nodup, fun block hblock block' hblock' => ?_⟩
    have hb := h.fresh block hblock
    have hb' := h'.fresh block' hblock'
    omega
  failed := fun hr => by
    rw [freesOf_append, mallocsOf_append]
    exact hperm.append (h'.failed hr)
  decoded := fun b hr => by
    obtain ⟨hfmt, hreads, hmallocs, hfrees⟩ := hsome b hr
    obtain ⟨hfmt', hreads', hmallocs', hfrees'⟩ := h'.decoded b hr
    refine ⟨?_, ?_, ?_, ?_⟩
    · rw [formatRead_append, hfmt, hfmt', String.toList_append]
    · intro p hp
      rw [readsOf_append, List.mem_append] at hp
      exact hp.elim (hreads p) (hreads' p)
    · rw [mallocsOf_append, hmallocs, hmallocs', List.nil_append]
    · rw [freesOf_append, hfrees, hfrees', List.nil_append]

theorem Decodes.fail : Decodes (pure none : Act H (Option α)) f₁ held := 
  Emits.pure fun n => Decoding.nothing (le_refl n)

theorem Decodes.value {a : α} (h : held a = []) :
    Decodes (pure (some a) : Act H (Option α)) "" held :=
  Emits.pure fun n =>
    { calls := rfl, results := rfl, sent := rfl, asserted := rfl, le := le_refl n
      fresh := by simp [mallocsOf]
      nodup := List.nodup_nil, failed := fun h => by cases h
      decoded := fun b hb => by
        obtain rfl : a = b := by simpa using hb
        exact ⟨rfl, by simp [readsOf], h.symm, rfl⟩ }

theorem Decodes.bind (f₁ f₂ : String) (hx : Decodes x f₁ fun _ => []) (hnone : k none = pure none)
    (hsome : ∀ a, Decodes (k (some a)) f₂ held') : Decodes (x >>= k) (f₁ ++ f₂) held' := by
  -- a first decoder that fails ends the whole
  refine Emits.bind (R := fun a n r evs m => Decoding f₂ held' n r evs m ∧ (a = none → r = .ok none))
    hx ?_ ?_ ?_
  · rintro (_ | a)
    · rw [hnone]
      exact Emits.pure fun n => ⟨Decoding.nothing (le_refl n), fun _ => rfl⟩
    · exact (hsome a).mono fun _ _ _ _ h => ⟨h, fun ha => by cases ha⟩
  · rintro n a evs m r evs' l h ⟨h', hfailed⟩
    rcases a with _ | a
    · refine h.append h' (fun b hr => ?_) (h.failed rfl)
      cases (hfailed rfl).symm.trans hr
    · obtain ⟨hfmt, hreads, hmallocs, hfrees⟩ := h.decoded a rfl
      exact h.append h' (fun _ _ => ⟨hfmt, hreads, hmallocs, hfrees⟩) (by rw [hmallocs, hfrees])
  · rintro n e evs m h
    exact
      { calls := h.calls, results := h.results, sent := h.sent, asserted := h.asserted, le := h.le
        fresh := h.fresh, nodup := h.nodup, failed := nofun, decoded := fun _ => nofun }

theorem Decodes.finish (hx : Decodes x f₁ fun _ => []) (hnone : k none = pure none)
    (hsome : ∀ a, Decodes (k (some a)) "" held') : Decodes (x >>= k) f₁ held' := by
  have h := Decodes.bind f₁ "" hx hnone hsome
  rwa [String.append_empty] at h

theorem Decodes.map (g : α → β) (hx : Decodes x f₁ held) (hk : ∀ r, k r = pure (r.map g))
    (hheld : ∀ a, held' (g a) = held a) : Decodes (x >>= k) f₁ held' := by
  refine Emits.bind (R := fun a n r evs m => r = .ok (a.map g) ∧ evs = [] ∧ m = n) hx ?_ ?_ ?_
  · intro a
    rw [hk a]
    exact Emits.pure fun n => ⟨rfl, rfl, rfl⟩
  · rintro n a evs m r evs' l h ⟨rfl, rfl, rfl⟩
    rw [List.append_nil]
    refine ⟨h.calls, h.results, h.sent, h.asserted, h.le, h.fresh, h.nodup, fun hr => ?_,
      fun b hr => ?_⟩
    · rcases a with _ | a
      · exact h.failed rfl
      · cases hr
    · rcases a with _ | a
      · cases hr
      · cases hr
        obtain ⟨hfmt, hreads, hmallocs, hfrees⟩ := h.decoded a rfl
        exact ⟨hfmt, hreads, hmallocs.trans (hheld a).symm, hfrees⟩
  · rintro n e evs m h
    exact
      { calls := h.calls, results := h.results, sent := h.sent, asserted := h.asserted, le := h.le
        fresh := h.fresh, nodup := h.nodup, failed := nofun, decoded := fun _ => nofun }

end decoders

section reads

variable [Platform] (env : Env) (cmd : Pdu)

theorem decodes_readFields (off : Nat) (fmt : String) (args : List Dst) :
    Decodes (readFields cmd off fmt args : Act H _) fmt fun _ => [] := by
  intro w
  unfold readFields
  rcases readPduAt cmd off fmt args with _ | ⟨res, vals⟩
  · exact ⟨[], (List.append_nil _).symm,
      { calls := rfl, results := rfl, sent := rfl, asserted := rfl, le := le_refl _
        fresh := by simp [mallocsOf]
        nodup := List.nodup_nil, failed := nofun, decoded := fun _ => nofun }⟩
  · refine ⟨[.read fmt res], rfl, rfl, rfl, rfl, rfl, le_refl _, by simp [mallocsOf],
      List.nodup_nil, fun _ => List.Perm.refl _,
      fun a ha => ⟨by simp [formatRead, readsOf], ?_, rfl, rfl⟩⟩
    -- a value is only returned for an offset that is not negative
    have hres : ¬ res < 0 := by
      intro hneg
      simp [hneg] at ha
    simpa [readsOf] using hres

theorem decodes_block {off n : Nat} :
    Decodes (do
      let some (off, [.m block]) ← readFields cmd off "m" [.m n n] | return none
      return some (off, block) : Act H (Option (Nat × List UInt8))) "m" fun _ => [] := by
  refine (decodes_readFields cmd off "m" _).finish rfl ?_
  intro a
  obtain ⟨off, vals⟩ := a
  split
  · exact Decodes.value rfl
  · exact Decodes.fail

theorem decodes_readBtBdaddr (off : Nat) :
    Decodes (readBtBdaddr cmd off : Act H _) "m" fun _ => [] := decodes_block cmd

theorem decodes_readBtUuid (off : Nat) :
    Decodes (readBtUuid cmd off : Act H _) "m" fun _ => [] := decodes_block cmd

theorem decodes_readBtPinCode (off : Nat) :
    Decodes (readBtPinCode cmd off : Act H _) "m" fun _ => [] := decodes_block cmd

theorem decodes_readBtProperty (off : Nat) :
    Decodes (readBtProperty env cmd off : Act H _) "CSm" fun r => [r.2.2] := by
  refine Decodes.bind "CS" "m" (decodes_readFields cmd off "CS" _) rfl ?_
  intro a
  obtain ⟨off, vals⟩ := a
  split
  case h_2 => exact Decodes.fail
  case h_1 off type len heq =>
  intro w
  rcases hmalloc : env.obtained w.mallocs with _ | mem
  · rw [Prog.run_bind_ok (run_malloc_none hmalloc)]
    exact ⟨[], (List.append_nil _).symm, Decoding.nothing (Nat.le_succ _)⟩
  rw [Prog.run_bind_ok (run_malloc_some hmalloc)]
  have hfresh : ∀ block ∈ [w.mallocs], w.mallocs ≤ block ∧ block < w.mallocs + 1 := by simp
  have hnodup : [w.mallocs].Nodup := by simp
  have hfailed : ∀ res, Decoding "m" (fun r : Nat × Property × Nat => [r.2.2]) w.mallocs (.ok none)
      [.malloc .val w.mallocs, .read "m" res, .free w.mallocs] (w.mallocs + 1) := fun res =>
    { calls := rfl, results := rfl, sent := rfl, asserted := rfl, le := Nat.le_succ _, fresh := hfresh
      nodup := hnodup, failed := fun _ => List.Perm.refl _, decoded := by simp }
  rcases hread : readPduAt cmd off "m" [.m len.toNat len.toNat] with _ | ⟨res, vals⟩
  · refine ⟨[.malloc .val w.mallocs], ?_, ?_⟩
    · rw [Prog.run_bind_error (run_readFields_none hread _)]
      rfl
    · rw [Prog.run_bind_error (run_readFields_none hread _)]
      exact
        { calls := rfl, results := rfl, sent := rfl, asserted := rfl, le := Nat.le_succ _, fresh := hfresh
          nodup := hnodup, failed := by simp, decoded := by simp }
  dsimp only
  rw [Prog.run_bind_ok (run_readFields_some hread _)]
  by_cases hneg : res < 0
  · rw [if_pos hneg]
    exact ⟨[.malloc .val w.mallocs, .read "m" res, .free w.mallocs], by simp [World.push, free],
      hfailed res⟩
  rw [if_neg hneg]
  split
  · refine ⟨[.malloc .val w.mallocs, .read "m" res], by simp [World.push], ?_⟩
    exact
      { calls := rfl, results := rfl, sent := rfl, asserted := rfl, le := Nat.le_succ _, fresh := hfresh
        nodup := hnodup, failed := by simp
        decoded := fun a ha => by
          cases ha
          exact ⟨by simp [formatRead, readsOf], by simpa [readsOf] using hneg, rfl, rfl⟩ }
  · exact ⟨[.malloc .val w.mallocs, .read "m" res, .free w.mallocs], by simp [World.push, free],
      hfailed res⟩

end reads

/-! ## The common sequence -/

theorem Disciplined.of_quiet {fmt : String} {cmd : Pdu} {out : Except Fault Status}
    {evs : List Event} (hcalls : callsOf evs = []) (hresults : resultsOf evs = [])
    (hsent : sentOf evs = []) (hnodup : (mallocsOf evs).Nodup)
    (hout : out ≠ .ok Status.success)
    (hfrees : ∀ status, out = .ok status → (freesOf evs).Perm (mallocsOf evs)) :
    Disciplined fmt cmd out evs where
  calls := .inl hcalls
  success := by
    apply iff_of_false hout
    intro hx
    obtain ⟨⟨op, res, hmem, -⟩, -⟩ := hx
    rw [hresults] at hmem
    cases hmem
  quiet := fun _ _ _ => hsent
  nodup := hnodup
  released := fun status h => by
    rw [hsent, List.map_nil, List.append_nil]
    exact hfrees status h
  handedOver := by
    rw [hsent]
    exact fun _ h => by cases h

/-- A handler that performs its operation once it is ready, and then releases and sends. -/
theorem Disciplined.of_performed {fmt : String} {cmd : Pdu} {out : Except Fault Status}
    {pre inner post : List Event} {op : Op} (hcalls : callsOf pre = []) (hready : Ready fmt pre)
    (hresults : resultsOf pre = []) (hsent : sentOf pre = []) (hfrees : freesOf pre = [])
    (hnodup : (mallocsOf pre).Nodup) (hinner : ∀ e ∈ inner, e.IsInternal) (hreads' : readsOf post = [])
    (hmallocs' : mallocsOf post = []) (hcalls' : callsOf post = [])
    (hsuccess : out = .ok Status.success ↔ (∃ op res, (op, res) ∈ resultsOf post ∧ op.Succeeded res) ∧
      ∃ msg, sentOf post = [msg] ∧ Answers cmd msg.wbuf.pdu)
    (hquiet : ∀ status, out = .ok status → status ≠ Status.success → sentOf post = [])
    (hreleased : ∀ status, out = .ok status →
      (freesOf post ++ (sentOf post).map fun msg => msg.wbuf.block).Perm (mallocsOf pre))
    (hhanded : ∀ msg ∈ sentOf post, .malloc .wbuf msg.wbuf.block ∈ pre) :
    Disciplined fmt cmd out (pre ++ .call op :: (inner ++ post)) := by
  obtain ⟨hri, hmi, hfi, hci, hresi, hsi⟩ := observe_internal hinner
  have hsents : sentOf (pre ++ .call op :: (inner ++ post)) = sentOf post := by
    rw [sentOf_append, hsent, List.nil_append]
    show sentOf (inner ++ post) = _
    rw [sentOf_append, hsi, List.nil_append]
  have hmallocs : mallocsOf (pre ++ .call op :: (inner ++ post)) = mallocsOf pre := by
    rw [mallocsOf_append]
    show _ ++ mallocsOf (inner ++ post) = _
    rw [mallocsOf_append, hmi, hmallocs', List.nil_append, List.append_nil]
  have hresult : resultsOf (pre ++ .call op :: (inner ++ post)) = resultsOf post := by
    rw [resultsOf_append, hresults, List.nil_append]
    show resultsOf (inner ++ post) = _
    rw [resultsOf_append, hresi, List.nil_append]
  have hfreed : freesOf (pre ++ .call op :: (inner ++ post)) = freesOf post := by
    rw [freesOf_append, hfrees, List.nil_append]
    show freesOf (inner ++ post) = _
    rw [freesOf_append, hfi, List.nil_append]
  exact
    { calls := .inr ⟨pre, op, inner ++ post, rfl, hcalls, by rw [callsOf_append, hci, hcalls']; rfl,
        hready, by rw [readsOf_append, hri, hreads']; rfl⟩
      success := by rw [hresult, hsents]; exact hsuccess
      quiet := by rw [hsents]; exact hquiet
      nodup := by rw [hmallocs]; exact hnodup
      released := by rw [hfreed, hsents, hmallocs]; exact hreleased
      handedOver := by
        rw [hsents]
        exact fun msg hmsg => List.mem_append_left _ (hhanded msg hmsg) }

theorem freesOf_map_free (blocks : List Nat) : freesOf (blocks.map .free) = blocks := by
  induction blocks with
  | nil => rfl
  | cons block blocks ih => exact congrArg (block :: ·) ih

theorem observe_frees (blocks : List Nat) :
    readsOf (blocks.map .free) = [] ∧ mallocsOf (blocks.map .free) = [] ∧
      callsOf (blocks.map .free) = [] ∧ resultsOf (blocks.map .free) = [] ∧
      sentOf (blocks.map .free) = [] := by
  induction blocks with
  | nil => exact ⟨rfl, rfl, rfl, rfl, rfl⟩
  | cons block blocks ih => exact ih

theorem assertedOf_map_free (blocks : List Nat) : assertedOf (blocks.map .free) = [] := by
  induction blocks with
  | nil => rfl
  | cons block blocks ih => exact ih

/-- The end of a handler: the reply buffer and the blocks of the arguments are released, or the
reply is sent once the blocks are released. -/
theorem conclude_emits {cmd : Pdu} {release : Act Handler Unit} {blocks : List Nat}
    {pointer : World Handler → Option SendPdu} {build : WBuf → Message} {wbuf : WBuf}
    {status : Status} (hrelease : Releases release blocks) (hbuild : ∀ wbuf, (build wbuf).wbuf = wbuf) :
    Emits (conclude cmd release pointer build wbuf status) fun _ out evs _ =>
      (status ≠ Status.success ∧ out = .ok status ∧ evs = .free wbuf.block :: blocks.map .free) ∨
      (status = Status.success ∧ out = .error .nullPointer ∧ evs = blocks.map .free) ∨
      (status = Status.success ∧ out = .ok Status.success ∧ ∃ msg, msg.wbuf.block = wbuf.block ∧
        Answers cmd msg.wbuf.pdu ∧ evs = blocks.map .free ++ [.send msg]) := by
  intro w
  unfold conclude
  by_cases hstatus : status ≠ Status.success
  · have hcleanup : (cleanupPduWbuf wbuf).run w = (.ok (), w.push (.free wbuf.block)) := rfl
    rw [if_pos hstatus, Prog.run_bind_ok hcleanup, Prog.run_bind_ok (hrelease _), Prog.run_pure]
    refine ⟨_, ?_, .inl ⟨hstatus, rfl, rfl⟩⟩
    rw [World.push, List.append_assoc]
    rfl
  · rw [if_neg hstatus, Prog.run_bind_ok (hrelease w)]
    rcases hpointer : pointer { w with log := w.log ++ blocks.map .free } with _ | cb
    · -- the pointer is not set: the reply is lost in the fault
      rw [Prog.run_bind_error (run_sendPdu_none hpointer _)]
      exact ⟨_, rfl, .inr (.inl ⟨not_not.mp hstatus, rfl, rfl⟩)⟩
    · rw [Prog.run_bind_ok (run_sendPdu_some hpointer _), Prog.run_pure]
      refine ⟨_, ?_, .inr (.inr ⟨not_not.mp hstatus, rfl,
        build (wbuf.initPdu cmd.service cmd.opcode), ?_, ?_, rfl⟩)⟩
      · rw [World.push, List.append_assoc]
      · rw [hbuild]
        rfl
      · rw [hbuild]
        exact ⟨rfl, rfl, rfl⟩

/-- What is in the log when a handler comes to its operation. -/
structure Prepared (fmt : String) (blocks : List Nat) (block : Nat) (evs : List Event) : Prop where
  calls : callsOf evs = []
  results : resultsOf evs = []
  sent : sentOf evs = []
  frees : freesOf evs = []
  mallocs : mallocsOf evs = blocks ++ [block]
  nodup : (mallocsOf evs).Nodup
  ready : Ready fmt evs
  reply : .malloc .wbuf block ∈ evs

theorem Decoding.prepared {fmt : String} {held : α → List Nat} {n m : Nat} {a : α} {evs : List Event}
    (h : Decoding fmt held n (.ok (some a)) evs m) :
    Prepared fmt (held a) m (evs ++ [.malloc .wbuf m]) := by
  obtain ⟨hfmt, hreads, hmallocs, hfrees⟩ := h.decoded a rfl
  have hmallocs' : mallocsOf (evs ++ [.malloc .wbuf m]) = held a ++ [m] := by
    rw [mallocsOf_append, hmallocs]
    rfl
  refine ⟨?_, ?_, ?_, ?_, hmallocs', ?_, ⟨?_, ?_, m, by simp⟩, by simp⟩
  · rw [callsOf_append, h.calls]
    rfl
  · rw [resultsOf_append, h.results]
    rfl
  · rw [sentOf_append, h.sent]
    rfl
  · rw [freesOf_append, hfrees]
    rfl
  · rw [hmallocs', ← hmallocs, List.nodup_append]
    refine ⟨h.nodup, by simp, fun block hb block' hb' => ?_⟩
    have hlt := (h.fresh block hb).2
    obtain rfl := List.mem_singleton.mp hb'
    omega
  · rw [formatRead_append, hfmt]
    simp [formatRead, readsOf]
  · rw [readsOf_append]
    simpa [readsOf] using hreads

/-- A prepared handler is disciplined whatever its operation and its conclusion do. -/
theorem Prepared.disciplined {fmt : String} {cmd : Pdu} {blocks : List Nat} {block : Nat}
    {pre inner post : List Event} {op : Op} {status : Status} {res : Status}
    {out : Except Fault Status} (h : Prepared fmt blocks block pre)
    (hinner : ∀ e ∈ inner, e.IsInternal) (hstatus : status = Status.success ↔ op.Succeeded res)
    (hpost : (status ≠ Status.success ∧ out = .ok status ∧ post = .free block :: blocks.map .free) ∨
      (status = Status.success ∧ out = .error .nullPointer ∧ post = blocks.map .free) ∨
      (status = Status.success ∧ out = .ok Status.success ∧ ∃ msg, msg.wbuf.block = block ∧
        Answers cmd msg.wbuf.pdu ∧ post = blocks.map .free ++ [.send msg])) :
    Disciplined fmt cmd out (pre ++ .call op :: (inner ++ .result op res :: post)) := by
  obtain ⟨hreads, hmallocs, hcalls, hresults, hsent⟩ := observe_frees blocks
  rcases hpost with ⟨hfailed, rfl, rfl⟩ | ⟨-, rfl, rfl⟩ | ⟨hok, rfl, msg, hblock, hanswers, rfl⟩
  · refine .of_performed h.calls h.ready h.results h.sent h.frees h.nodup hinner hreads hmallocs
      hcalls (iff_of_false (fun hout => hfailed (Except.ok.inj hout)) ?_) (fun _ _ _ => hsent)
      (fun _ _ => ?_) ?_
    · intro hx
      obtain ⟨-, msg, hmsg, -⟩ := hx
      cases hsent.symm.trans hmsg
    · show (freesOf (.free block :: blocks.map .free) ++
        (sentOf (blocks.map .free)).map fun msg => msg.wbuf.block).Perm _
      rw [hsent, h.mallocs, List.map_nil, List.append_nil]
      show (block :: freesOf (blocks.map .free)).Perm _
      rw [freesOf_map_free]
      exact (List.perm_append_comm : ([block] ++ blocks).Perm _)
    · intro msg hmsg
      have hnone : msg ∈ sentOf (blocks.map .free) := hmsg
      rw [hsent] at hnone
      cases hnone
  · refine .of_performed h.calls h.ready h.results h.sent h.frees h.nodup hinner hreads hmallocs
      hcalls (iff_of_false nofun ?_) nofun nofun ?_
    · intro hx
      obtain ⟨-, msg, hmsg, -⟩ := hx
      cases hsent.symm.trans hmsg
    · intro msg hmsg
      have hnone : msg ∈ sentOf (blocks.map .free) := hmsg
      rw [hsent] at hnone
      cases hnone
  · have hsent' : sentOf (.result op res :: (blocks.map .free ++ [.send msg])) = [msg] := by
      show sentOf (blocks.map .free ++ [.send msg]) = _
      rw [sentOf_append, hsent]
      rfl
    refine .of_performed h.calls h.ready h.results h.sent h.frees h.nodup hinner ?_ ?_ ?_
      (iff_of_true rfl ⟨⟨op, res, List.mem_cons_self, hstatus.mp hok⟩, msg, hsent', hanswers⟩)
      (fun status hout hne => absurd (Except.ok.inj hout).symm hne) (fun _ _ => ?_) ?_
    · show readsOf (blocks.map .free ++ [.send msg]) = _
      rw [readsOf_append, hreads]
      rfl
    · show mallocsOf (blocks.map .free ++ [.send msg]) = _
      rw [mallocsOf_append, hmallocs]
      rfl
    · show callsOf (blocks.map .free ++ [.send msg]) = _
      rw [callsOf_append, hcalls]
      rfl
    · rw [hsent', h.mallocs, List.map_singleton, hblock]
      show (freesOf (blocks.map .free ++ [.send msg]) ++ _).Perm _
      rw [freesOf_append, freesOf_map_free, List.append_assoc]
      exact List.Perm.refl _
    · rw [hsent']
      intro msg' hmem
      obtain rfl := List.mem_singleton.mp hmem
      rw [hblock]
      exact h.reply

theorem releases_nothing : Releases (pure () : Act H Unit) [] := by
  intro w
  rw [List.map_nil, List.append_nil]
  rfl

theorem releases_val (val : Nat) : Releases (free val : Act H Unit) [val] := fun _ => rfl

theorem decodes_noArgs : Decodes (noArgs : Act H _) "" fun _ => [] := Decodes.value rfl

section serve

variable [Platform] (env : Env)

/-- **Every instance of the common sequence is disciplined.** -/
theorem serve_disciplined {fmt : String} {held : α → List Nat} {cmd : Pdu} {short noMem : Status}
    {decode : Act Handler (Option α)} {release : α → Act Handler Unit}
    {op : α → Act Handler Status} {ops : α → Op} {pointer : World Handler → Option SendPdu}
    {build : WBuf → Message} (hshort : short ≠ Status.success) (hnoMem : noMem ≠ Status.success)
    (hdecode : Decodes decode fmt held) (hrelease : ∀ a, Releases (release a) (held a))
    (hop : ∀ a, Performs (op a) (ops a)) (hbuild : ∀ wbuf, (build wbuf).wbuf = wbuf) :
    Emits (serve env cmd short noMem decode release op pointer build)
      fun _ out evs _ => Disciplined fmt cmd out evs := by
  intro w
  unfold serve
  obtain ⟨d, hlog, hd⟩ := hdecode w
  rcases hrun : decode.run w with ⟨fault | _ | args, w₁⟩ <;> rw [hrun] at hlog hd
  · rw [Prog.run_bind_error hrun]
    exact ⟨d, hlog, .of_quiet hd.calls hd.results hd.sent hd.nodup (by simp) (by simp)⟩
  · rw [Prog.run_bind_ok hrun]
    exact ⟨d, hlog, .of_quiet hd.calls hd.results hd.sent hd.nodup
      (fun h => hshort (Except.ok.inj h)) fun _ _ => hd.failed rfl⟩
  rw [Prog.run_bind_ok hrun]
  dsimp only
  rcases hmalloc : env.obtained w₁.mallocs with _ | mem
  · -- the reply cannot be allocated
    rw [Prog.run_bind_ok (run_newPduWbuf_none hmalloc)]
    obtain ⟨-, -, hmallocs, hfrees⟩ := hd.decoded args rfl
    dsimp only
    rw [Prog.run_bind_ok (hrelease args _)]
    obtain ⟨-, hfm, hfc, hfres, hfs⟩ := observe_frees (held args)
    refine ⟨d ++ (held args).map .free, by rw [Prog.run_pure, ← List.append_assoc, ← hlog], ?_⟩
    refine .of_quiet ?_ ?_ ?_ ?_ (fun h => hnoMem (Except.ok.inj h)) fun _ _ => ?_
    · rw [callsOf_append, hd.calls, hfc, List.append_nil]
    · rw [resultsOf_append, hd.results, hfres, List.append_nil]
    · rw [sentOf_append, hd.sent, hfs, List.append_nil]
    · rw [mallocsOf_append, hfm, List.append_nil]
      exact hd.nodup
    · rw [freesOf_append, mallocsOf_append, hfm, hfrees, freesOf_map_free, hmallocs, List.append_nil,
        List.nil_append]
  rw [Prog.run_bind_ok (run_newPduWbuf_some hmalloc)]
  have hpre : Prepared fmt (held args) w₁.mallocs (d ++ [.malloc .wbuf w₁.mallocs]) := hd.prepared
  generalize hw₂ : World.push { w₁ with mallocs := w₁.mallocs + 1 } (.malloc .wbuf w₁.mallocs) = w₂
  have hlog₂ : w₂.log = w.log ++ (d ++ [.malloc .wbuf w₁.mallocs]) := by
    rw [← hw₂, World.push, ← List.append_assoc, ← hlog]
  obtain ⟨evs, hlog₃, -, inner, hinner, ⟨fault, hres, rfl⟩ | ⟨status, res, hres, rfl, hstatus⟩⟩ :=
    hop args w₂ <;> rcases hoprun : (op args).run w₂ with ⟨r, w₃⟩ <;> rw [hoprun] at hres hlog₃
  · -- the operation faults
    obtain rfl : r = .error fault := hres
    dsimp only
    rw [Prog.run_bind_error hoprun]
    refine ⟨(d ++ [.malloc .wbuf w₁.mallocs]) ++ .call (ops args) :: (inner ++ []), ?_, ?_⟩
    · rw [hlog₃, hlog₂, List.append_nil, List.append_assoc]
    · exact .of_performed hpre.calls hpre.ready hpre.results hpre.sent hpre.frees hpre.nodup hinner
        rfl rfl rfl (by simp [sentOf]) (by simp) (by simp) (by simp [sentOf])
  · obtain rfl : r = .ok status := hres
    dsimp only
    rw [Prog.run_bind_ok hoprun]
    obtain ⟨post, hlog₄, hpost⟩ := conclude_emits (hrelease args) hbuild w₃
    refine ⟨(d ++ [.malloc .wbuf w₁.mallocs]) ++ .call (ops args) ::
      (inner ++ .result (ops args) res :: post), ?_, hpre.disciplined hinner hstatus hpost⟩
    rw [hlog₄, hlog₃, hlog₂]
    simp

/-! ## The handlers -/

def payloadFormat : Handler → UInt8 → String
  | .core, 0x01 => "CC"
  | .core, 0x02 => "C"
  | .btCore, 0x04 => "C"
  | .btCore, 0x05 => "CSm"
  | .btCore, 0x06 => "m"
  | .btCore, 0x07 => "mC"
  | .btCore, 0x08 => "mCSm"
  | .btCore, 0x09 => "mm"
  | .btCore, 0x0a => "m"
  | .btCore, 0x0d => "m"
  | .btCore, 0x0e => "m"
  | .btCore, 0x0f => "m"
  | .btCore, 0x10 => "mCCm"
  | .btCore, 0x11 => "mCCI"
  | .btCore, 0x12 => "C"
  | .btCore, 0x13 => "SCm"
  | .btCore, 0x14 => "SCm"
  | .btSock, 0x01 => "CmmSC"
  | .btSock, 0x02 => "mCmSC"
  | _, _ => ""

/-- `handle` is an instance of the common sequence: its decoder reads the fields `fmt`, and its reply
is built by `build`. -/
def IsServe (fmt : String) (cmd : Pdu) (build : WBuf → Message) (handle : Act Handler Status) : Prop :=
  ∃ (α : Type) (short noMem : Status) (decode : Act Handler (Option α))
    (release : α → Act Handler Unit) (held : α → List Nat) (op : α → Act Handler Status)
    (ops : α → Op) (pointer : World Handler → Option SendPdu),
    handle = serve env cmd short noMem decode release op pointer build ∧
    short ≠ Status.success ∧ noMem ≠ Status.success ∧ Decodes decode fmt held ∧
    (∀ a, Releases (release a) (held a)) ∧ ∀ a, Performs (op a) (ops a)

section families

variable {cmd : Pdu} {fmt : String} {decode : Act Handler (Option α)} {ops : α → Op}

theorem coreServe_isServe {op : α → Act Handler Int} (hdecode : Decodes decode fmt fun _ => [])
    (hop : ∀ a, Performs (do
      let res ← op a
      return if res < 0 then Status.fail else Status.success) (ops a)) :
    IsServe env fmt cmd buildPduWbufMsg (coreServe env cmd decode op) :=
  ⟨α, _, _, decode, _, _, _, ops, _, rfl, by decide, by decide, hdecode, fun _ => releases_nothing, hop⟩

theorem btCoreServe_isServe {op : α → Act Handler Status}
    (hdecode : Decodes decode fmt fun _ => []) (hop : ∀ a, Performs (op a) (ops a)) :
    IsServe env fmt cmd buildPduWbufMsg (btCoreServe env cmd decode op) :=
  ⟨α, _, _, decode, _, _, op, ops, _, rfl, by decide, by decide, hdecode, fun _ => releases_nothing, hop⟩

theorem btSockServe_isServe {op : α → Act Handler Status}
    (hdecode : Decodes decode fmt fun _ => []) (hop : ∀ a, Performs (op a) (ops a)) :
    IsServe env fmt cmd (fun wbuf => buildPduWbufMsgWithFd wbuf env.sockFd)
      (btSockServe env cmd decode op) :=
  ⟨α, _, _, decode, _, _, op, ops, _, rfl, by decide, by decide, hdecode, fun _ => releases_nothing, hop⟩

end families

theorem decodes_addrArg (cmd : Pdu) : Decodes (addrArg cmd : Act H _) "m" fun _ => [] :=
  (decodes_readBtBdaddr cmd 0).finish rfl fun _ => Decodes.value rfl

theorem decodes_byteArg (cmd : Pdu) : Decodes (byteArg cmd : Act H _) "C" fun _ => [] := by
  refine (decodes_readFields cmd 0 "C" _).finish rfl fun a => ?_
  split
  · exact Decodes.value rfl
  · exact Decodes.fail

theorem decodes_testArgs (cmd : Pdu) : Decodes (testArgs env cmd : Act H _) "SCm" fun _ => [] := by
  refine Decodes.bind "SC" "m" (decodes_readFields cmd 0 "SC" _) rfl fun a => ?_
  split
  · refine (decodes_readFields cmd _ "m" _).finish rfl fun a => ?_
    split
    · exact Decodes.value rfl
    · exact Decodes.fail
  · exact Decodes.fail

theorem core_isServe {opcode : UInt8} {handler : Pdu → Act Handler Status}
    (h : coreTable env opcode = some handler) (cmd : Pdu) :
    IsServe env (payloadFormat .core opcode) cmd buildPduWbufMsg (handler cmd) := by
  unfold coreTable at h
  split at h <;> cases h
  · refine coreServe_isServe env ?_ fun a =>
      performs_moduleCall (silent_coreRegisterModule env a.1 a.2) fun _ => Iff.rfl
    refine (decodes_readFields cmd 0 "CC" _).finish rfl fun a => ?_
    split
    · exact Decodes.value rfl
    · exact Decodes.fail
  · refine coreServe_isServe env (decodes_byteArg cmd) fun service =>
      performs_moduleCall (silent_coreUnregisterModule env service) fun _ => Iff.rfl

theorem decodes_addrThen {k : Option (Nat × List UInt8) → Act H (Option β)} {held : β → List Nat}
    (fmt : String) (cmd : Pdu) (hnone : k none = pure none)
    (hsome : ∀ off addr, Decodes (k (some (off, addr))) fmt held) :
    Decodes (readBtBdaddr cmd 0 >>= k) ("m" ++ fmt) held :=
  Decodes.bind "m" fmt (decodes_readBtBdaddr cmd 0) hnone fun a => hsome a.1 a.2

theorem btCore_isServe {opcode : UInt8} {handler : Pdu → Act Handler Status}
    (h : btCoreTable env opcode = some handler) (cmd : Pdu) :
    IsServe env (payloadFormat .btCore opcode) cmd buildPduWbufMsg (handler cmd) := by
  have haddr : ∀ {op : List UInt8 → Op}, (∀ a res, (op a).Succeeded res ↔ res = Status.success) →
      IsServe env "m" cmd buildPduWbufMsg
        (btCoreServe env cmd (addrArg cmd) fun addr => btInterfaceCall env (op addr)) := fun hop =>
    btCoreServe_isServe env (decodes_addrArg cmd) fun a => performs_btInterfaceCall env (hop a)
  have hnoArgs : ∀ {op : Op}, (∀ res, op.Succeeded res ↔ res = Status.success) →
      IsServe env "" cmd buildPduWbufMsg
        (btCoreServe env cmd noArgs fun _ => btInterfaceCall env op) := fun hop =>
    btCoreServe_isServe env decodes_noArgs fun _ => performs_btInterfaceCall env hop
  have hbyte : ∀ {op : UInt8 → Op}, (∀ a res, (op a).Succeeded res ↔ res = Status.success) →
      IsServe env "C" cmd buildPduWbufMsg
        (btCoreServe env cmd (byteArg cmd) fun byte => btInterfaceCall env (op byte)) := fun hop =>
    btCoreServe_isServe env (decodes_byteArg cmd) fun a => performs_btInterfaceCall env (hop a)
  unfold btCoreTable at h
  split at h <;> cases h
  · exact hnoArgs fun _ => Iff.rfl
  · exact hnoArgs fun _ => Iff.rfl
  · exact hnoArgs fun _ => Iff.rfl
  · exact hbyte fun _ _ => Iff.rfl
  · -- set_adapter_property
    refine ⟨_, _, _, _, _, _, _, _, _, rfl, by decide, by decide, ?_, fun a => releases_val a.2,
      fun a => performs_btInterfaceCall env fun _ => Iff.rfl⟩
    exact (decodes_readBtProperty env cmd 0).map (fun r => r.2) (fun r => by cases r <;> rfl)
      fun _ => rfl
  · exact haddr fun _ _ => Iff.rfl
  · -- get_remote_device_property
    refine btCoreServe_isServe env (decodes_addrThen "C" cmd rfl fun off addr => ?_) fun a =>
      performs_btInterfaceCall env fun _ => Iff.rfl
    refine (decodes_readFields cmd off "C" _).finish rfl fun a => ?_
    split
    · exact Decodes.value rfl
    · exact Decodes.fail
  · -- set_remote_device_property
    refine ⟨_, _, _, _, _, _, _, _, _, rfl, by decide, by decide, ?_, fun a => releases_val a.2.2,
      fun a => performs_btInterfaceCall env fun _ => Iff.rfl⟩
    refine decodes_addrThen "CSm" cmd rfl fun off addr => ?_
    exact (decodes_readBtProperty env cmd off).map (fun r => (addr, r.2))
      (fun r => by cases r <;> rfl) fun _ => rfl
  · -- get_remote_service_record
    refine btCoreServe_isServe env (decodes_addrThen "m" cmd rfl fun off addr => ?_) fun a =>
      performs_btInterfaceCall env fun _ => Iff.rfl
    exact (decodes_readBtUuid cmd off).finish rfl fun _ => Decodes.value rfl
  · exact haddr fun _ _ => Iff.rfl
  · exact hnoArgs fun _ => Iff.rfl
  · exact hnoArgs fun _ => Iff.rfl
  · exact haddr fun _ _ => Iff.rfl
  · exact haddr fun _ _ => Iff.rfl
  · exact haddr fun _ _ => Iff.rfl
  · -- pin_reply
    refine btCoreServe_isServe env (decodes_addrThen "CCm" cmd rfl fun off addr => ?_) fun a =>
      performs_btInterfaceCall env fun _ => Iff.rfl
    refine Decodes.bind "CC" "m" (decodes_readFields cmd off "CC" _) rfl fun a => ?_
    split
    · exact (decodes_readBtPinCode cmd _).finish rfl fun _ => Decodes.value rfl
    · exact Decodes.fail
  · -- ssp_reply
    refine btCoreServe_isServe env (decodes_addrThen "CCI" cmd rfl fun off addr => ?_) fun a =>
      performs_btInterfaceCall env fun _ => Iff.rfl
    refine (decodes_readFields cmd off "CCI" _).finish rfl fun a => ?_
    split
    · exact Decodes.value rfl
    · exact Decodes.fail
  · exact hbyte fun _ _ => Iff.rfl
  · exact btCoreServe_isServe env (decodes_testArgs env cmd) fun a =>
      performs_btInterfaceCall env fun _ => Iff.rfl
  · exact btCoreServe_isServe env (decodes_testArgs env cmd) fun a =>
      performs_btInterfaceCall env fun _ => Iff.rfl

theorem btSock_isServe {opcode : UInt8} {handler : Pdu → Act Handler Status}
    (h : btSockTable env opcode = some handler) (cmd : Pdu) :
    IsServe env (payloadFormat .btSock opcode) cmd
      (fun wbuf => buildPduWbufMsgWithFd wbuf env.sockFd) (handler cmd) := by
  unfold btSockTable at h
  split at h <;> cases h
  · refine btSockServe_isServe env ?_ fun a => performs_btsockInterfaceCall env fun _ => Iff.rfl
    refine (decodes_readFields cmd 0 "CmmSC" _).finish rfl fun a => ?_
    split
    · exact Decodes.value rfl
    · exact Decodes.fail
  · refine btSockServe_isServe env (decodes_addrThen "CmSC" cmd rfl fun off addr => ?_) fun a =>
      performs_btsockInterfaceCall env fun _ => Iff.rfl
    refine (decodes_readFields cmd off "CmSC" _).finish rfl fun a => ?_
    split
    · exact Decodes.value rfl
    · exact Decodes.fail

def Handler.build : Handler → WBuf → Message
  | .core => buildPduWbufMsg
  | .btCore => buildPduWbufMsg
  | .btSock => fun wbuf => buildPduWbufMsgWithFd wbuf env.sockFd

theorem table_isServe {handler : Handler} {opcode : UInt8} {handle : Pdu → Act Handler Status}
    (h : handler.table env opcode = some handle) (cmd : Pdu) :
    IsServe env (payloadFormat handler opcode) cmd (handler.build env) (handle cmd) := by
  cases handler with
  | core => exact core_isServe env h cmd
  | btCore => exact btCore_isServe env h cmd
  | btSock => exact btSock_isServe env h cmd

theorem table_disciplined {handler : Handler} {opcode : UInt8} {handle : Pdu → Act Handler Status}
    (h : handler.table env opcode = some handle) (cmd : Pdu) :
    Emits (handle cmd) fun _ out evs _ => Disciplined (payloadFormat handler opcode) cmd out evs := by
  obtain ⟨α, short, noMem, decode, release, held, op, ops, pointer, hserve, hshort, hnoMem, hdecode,
    hrelease, hop⟩ := table_isServe env h cmd
  rw [hserve]
  refine serve_disciplined env hshort hnoMem hdecode hrelease hop ?_
  intro wbuf
  cases handler <;> rfl

/-- **The discipline of the handlers.** Whatever the command, the state of the daemon, the outcomes
of the allocations and the result of the operation, every opcode handler of the three services is
disciplined. -/
theorem handlers_disciplined {handler : Handler} {opcode : UInt8}
    {handle : Pdu → Act Handler Status} (h : handler.table env opcode = some handle) (cmd : Pdu)
    (w : World Handler) :
    ∃ evs, ((handle cmd).run w).2.log = w.log ++ evs ∧
      Disciplined (payloadFormat handler opcode) cmd ((handle cmd).run w).1 evs :=
  table_disciplined env h cmd w

end serve

theorem handlers_disciplined_enable :
    let cmd := initPdu [] serviceBtCore 0x01
    ((@enable lp64 .obliging cmd).run .registered).1 = .ok Status.success ∧
      ∃ evs, ((@enable lp64 .obliging cmd).run .registered).2.log = [] ++ evs ∧
        Disciplined "" cmd ((@enable lp64 .obliging cmd).run .registered).1 evs :=
  ⟨rfl, @handlers_disciplined lp64 .obliging .btCore 0x01 _ rfl (initPdu [] serviceBtCore 0x01)
    .registered⟩

end Bluetoothd

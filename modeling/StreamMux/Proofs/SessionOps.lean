/-
Each operation on one stream of a session is a `Stream.Step` of that stream and
changes nothing else but counters. This is where the operations are opened;
what comes later cites these lemmas.
-/
import StreamMux.Proofs.Table

namespace StreamMux.Session

/-- What holds of the streams of a session between any two events. -/
structure WellFormed (s : Session) : Prop where
  distinct : s.DistinctIds
  sound : ∀ st ∈ s.streams, st.Sound
  /-- A session that has ended tracks no stream. -/
  untracked : s.ended ≠ none → ∀ st ∈ s.streams, st.tracked = false
  /-- A stream is torn down only with the session. -/
  teardown : ∀ st ∈ s.streams, ∀ fault, st.reset = some (.teardown fault) → s.ended ≠ none
  nextOwned : ∀ n, s.nextId = some n → s.role.owns n = true
  below : ∀ st ∈ s.streams, s.role.owns st.id = true → ∀ n, s.nextId = some n → st.id < n
  peers : ∀ st ∈ s.streams, s.role.owns st.id = false → st.id ≠ 0 ∧ st.id ≤ s.lastRemoteId
  /-- While the session is open, the last id of the peer is that of a stream. -/
  lastRemote : s.ended = none →
    s.lastRemoteId = 0 ∨ ∃ st ∈ s.streams, st.id = s.lastRemoteId ∧ s.role.owns st.id = false
  backlog : ∀ id ∈ s.backlog, ∃ st, s.find? id = some st ∧ st.handle = .unclaimed
  backlogNodup : s.backlog.Nodup

/-- The operation is a step of the stream `st` and leaves the rest of the session alone. -/
def StepsOn {α : Type} (s : Session) (st : Stream) (e : Event) (o : Outcome Session α)
    (t : Traffic) : Prop :=
  ∃ st' stats, o.state = { s.put st' with stats } ∧ o.frames = t.sent ∧ o.wakes = st.woken e st' ∧
    st.Step s.config.maxFramePayload e t st'

/-- The operation queues nothing and wakes nobody. -/
def Silent {α : Type} (o : Outcome Session α) : Prop := o.frames = [] ∧ o.wakes = []

variable {s : Session} {st : Stream} {e : Event} {t : Traffic} {α : Type}

theorem WellFormed.open_of_tracked (wf : s.WellFormed) (h : s.find? st.id = some st)
    (ht : st.tracked = true) : s.ended = none := by
  match he : s.ended with
  | none => rfl
  | some cause =>
    rw [wf.untracked (by simp [he]) st (mem_of_find? h)] at ht
    cases ht

/-- While a stream of the session is not final, the session has not ended. -/
theorem WellFormed.open_of_live (wf : s.WellFormed) (h : s.find? st.id = some st)
    (hl : st.isTerminal = false) : s.ended = none :=
  wf.open_of_tracked h ((wf.sound st (mem_of_find? h)).tracked_of_live hl)

theorem queueQuietly_of_open (h : s.ended = none) (f : Frame) : s.queueQuietly f = [f] := by
  simp [queueQuietly, queue, h]

theorem stepsOn_self {o : Outcome Session α} (wf : s.WellFormed) (h : s.find? st.id = some st)
    (hstate : o.state = s) (hframes : o.frames = t.sent) (hwakes : o.wakes = [])
    (hstep : st.Step s.config.maxFramePayload e t st) : s.StepsOn st e o t :=
  ⟨st, s.stats, hstate.trans (put_self wf.distinct h).symm, hframes,
    hwakes.trans Stream.woken_self.symm, hstep⟩

/-! ## Calls -/

/-- The bytes that a read returned, if it has returned. -/
def Reply.bytes : Reply → Bytes
  | .got (.ready (.ok bytes)) => bytes
  | _ => []

/-- How many bytes a write accepted, if it has returned. -/
def Reply.count : Reply → Nat
  | .wrote (.ready (.ok n)) => n
  | _ => 0

theorem read_steps (wf : s.WellFormed) (h : s.find? st.id = some st) (hh : st.handle = .held)
    (room : Nat) (expired : Bool) :
    ∃ t, s.StepsOn st (.call (.read st.id room expired)) (s.read st room expired) t ∧
      t.got = [] ∧ t.wrote = [] ∧
        t.returned = (Reply.got (s.read st room expired).result).bytes := by
  simp only [read]
  split
  · exact ⟨_, stepsOn_self wf h rfl rfl rfl .still, rfl, rfl, rfl⟩
  next hroom =>
  split
  · exact ⟨_, stepsOn_self wf h rfl rfl rfl .still, rfl, rfl, rfl⟩
  next hreset =>
  split
  next hb =>
    split
    · exact ⟨_, stepsOn_self wf h rfl rfl rfl .still, rfl, rfl, rfl⟩
    next hrc =>
    split
    · exact ⟨_, stepsOn_self wf h rfl rfl rfl .still, rfl, rfl, rfl⟩
    next hr =>
    have hstep : st.Step s.config.maxFramePayload (.call (.read st.id room expired)) {}
        { st with readWaiting := true } :=
      .readWaits hh (Nat.pos_of_ne_zero hroom) hb (by simpa using hrc) hr
    have hwakes : [] = st.cleared { st with readWaiting := true } := by simp [Stream.cleared]
    cases expired <;> exact ⟨_, ⟨_, s.stats, rfl, rfl, hwakes, hstep⟩, rfl, rfl, rfl⟩
  next hb =>
    refine ⟨_, ⟨_, s.stats, retireIf_put (st.afterRead room) wf.distinct h, ?_,
      (Stream.cleared_of_eq rfl rfl).symm,
      .read hh (Nat.pos_of_ne_zero hroom) hb hreset⟩, rfl, rfl, rfl⟩
    show _ = st.readFrames room
    simp only [Stream.readFrames, Stream.drain]
    by_cases hlive : st.remoteClosed = false ∧ st.reset = none
    · simp only [hlive,
        queueQuietly_of_open (wf.open_of_live h (by simp [Stream.isTerminal_eq, hlive]))]
      split <;> next hc => simp [Stream.updateFrames, hc]
    · have hdead : ¬ (!st.remoteClosed && st.reset.isNone) = true := by simpa using hlive
      rw [if_neg hdead]
      split
      · exact if_neg hdead
      · rfl

theorem write_steps (wf : s.WellFormed) (h : s.find? st.id = some st) (hh : st.handle = .held)
    (bytes : Bytes) (expired : Bool) :
    ∃ t, s.StepsOn st (.call (.write st.id bytes expired)) (s.write st bytes expired) t ∧
      t.got = [] ∧ t.wrote = bytes.take (Reply.wrote (s.write st bytes expired).result).count ∧
        t.returned = [] := by
  simp only [write]
  split
  · exact ⟨_, stepsOn_self wf h rfl rfl rfl .still, rfl, rfl, rfl⟩
  next hr =>
  split
  · exact ⟨_, stepsOn_self wf h rfl rfl rfl .still, rfl, rfl, rfl⟩
  next hl =>
  have hl : st.localClosed = false := by simpa using hl
  split
  · exact ⟨_, stepsOn_self wf h rfl rfl rfl .still, rfl, by simp [Reply.count], rfl⟩
  next hb =>
  have hb : bytes ≠ [] := by simpa using hb
  have hlen : (bytes.take s.config.maxFramePayload.toNat).length =
      min bytes.length s.config.maxFramePayload.toNat := by
    rw [List.length_take, Nat.min_comm]
  simp only [SendWindow.reserve, hlen]
  split
  next hn =>
    have hstep : st.Step s.config.maxFramePayload (.call (.write st.id bytes expired)) {}
        { st with writeWaiting := true } :=
      .writeWaits hh hb hr hl hn
    have hwakes : [] = st.cleared { st with writeWaiting := true } := by simp [Stream.cleared]
    cases expired <;> exact ⟨_, ⟨_, s.stats, rfl, rfl, hwakes, hstep⟩, rfl, rfl, rfl⟩
  next hn =>
    have hopen := wf.open_of_live h (by simp [Stream.isTerminal_eq, hr, hl])
    simp only [queue, hopen]
    exact ⟨_, ⟨_, s.stats, rfl, rfl, (Stream.cleared_of_eq rfl rfl).symm, .write hh hr hl hn rfl⟩,
      rfl, rfl, rfl⟩

theorem closeWrite_steps (wf : s.WellFormed) (h : s.find? st.id = some st)
    (hh : st.handle = .held) : ∃ t, s.StepsOn st (.call (.closeWrite st.id)) (s.closeWrite st) t ∧
      t.got = [] ∧ t.wrote = [] ∧ t.returned = [] := by
  simp only [closeWrite]
  split
  · exact ⟨_, stepsOn_self wf h rfl rfl rfl .still, rfl, rfl, rfl⟩
  next hlive =>
  simp only [Bool.or_eq_true, not_or, Bool.not_eq_true, Option.isSome_eq_false_iff,
    Option.isNone_iff_eq_none] at hlive
  have hopen := wf.open_of_live h (by simp [Stream.isTerminal_eq, hlive])
  simp only [queue, hopen]
  have hwakes : st.writer = st.cleared { st with localClosed := true, writeWaiting := false } := by
    simp [Stream.writer, Stream.cleared]
  have hstate := retireIf_put { st with localClosed := true, writeWaiting := false } wf.distinct h
  exact ⟨_, ⟨_, s.stats, hstate, rfl, hwakes, .closeWrite hh hlive.2 hlive.1⟩, rfl, rfl, rfl⟩

/-! ## Aborts -/

theorem abort_id (cause : ResetCause) : (st.abort cause).2.id = st.id := Stream.aborted_id

/-- An abort over which the session forgets the stream. -/
theorem retire_abort (hd : s.DistinctIds) (h : s.find? st.id = some st) (cause : ResetCause)
    (stats : Stats) :
    (({ s.put (st.abort cause).2 with stats } : Session).retire (st.abort cause).2.id).1 =
      { s.put (st.aborted cause) with stats } := by
  have hs : ({ s with stats } : Session).find? (st.abort cause).2.id =
    some st := by rw [abort_id]; exact h
  exact retire_put (s := { s with stats }) _ hd hs

/-- The RST of an abort that took effect. -/
theorem queue_abort (wf : s.WellFormed) (h : s.find? st.id = some st) (cause : ResetCause) :
    (if (st.abort cause).1 then s.queueQuietly (.rst (st.abort cause).2.id) else []) =
      st.abortFrames := by
  rw [abort_id, Stream.abort, Stream.abortFrames]
  cases ht : st.isTerminal with
  | true => rfl
  | false => simp [queueQuietly_of_open (wf.open_of_live h ht)]

/-- An abort takes effect, and is counted, unless the stream is final. -/
theorem abort_fst (cause : ResetCause) : (st.abort cause).1 = !st.isTerminal := by
  rw [Stream.abort]
  cases st.isTerminal <;> rfl

/-- A stream that the application resets is aborted and forgotten. -/
theorem reset_state (hd : s.DistinctIds) (h : s.find? st.id = some st) :
    (s.reset st).state =
      { s.put (st.aborted .here) with stats := if st.isTerminal then
        s.stats else s.stats.reset } := by
  rw [← retire_abort hd h]
  simp only [reset, abort_fst]
  cases st.isTerminal <;> rfl

theorem reset_steps (wf : s.WellFormed) (h : s.find? st.id = some st) (hh : st.handle = .held) :
    ∃ t, s.StepsOn st (.call (.reset st.id)) (s.reset st) t ∧ t.got = [] ∧ t.wrote = [] ∧
      t.returned = [] := by
  exact ⟨{ sent := st.abortFrames }, ⟨_, _, reset_state wf.distinct h, queue_abort wf h .here,
    Stream.wokenByAbort_eq, .reset hh⟩, rfl, rfl, rfl⟩

theorem dropHandle_state (hr : st.reset = none) :
    (s.dropHandle st).state = ((s.put st.afterDrop).retireIf st.afterDrop.retirable st.id).1 := by
  simp only [dropHandle, hr, Option.isSome_none, Bool.false_eq_true, if_false, Stream.afterDrop,
    Stream.refund]
  cases st.remoteClosed <;> rfl

theorem dropHandle_frames (wf : s.WellFormed) (h : s.find? st.id = some st) (hr : st.reset = none) :
    (s.dropHandle st).frames = st.dropFrames := by
  simp only [dropHandle, hr, Option.isSome_none, Bool.false_eq_true, if_false, Stream.dropFrames,
    Stream.refund]
  cases hrc : st.remoteClosed with
  | true =>
    cases hl : st.localClosed with
    | true => rfl
    | false =>
      have hopen := wf.open_of_live h (by simp [Stream.isTerminal_eq, hr, hl])
      simp [queueQuietly_of_open hopen, Stream.updateFrames]
  | false =>
    have hopen := wf.open_of_live h (by simp [Stream.isTerminal_eq, hr, hrc])
    simp only [queueQuietly_of_open hopen, Bool.false_eq_true, if_false]
    cases (st.recv.consume st.buffered).1 <;> simp [Stream.updateFrames]

theorem dropHandle_wakes : (s.dropHandle st).wakes = [] := by
  simp only [dropHandle]
  split <;> rfl

theorem dropHandle_steps (wf : s.WellFormed) (h : s.find? st.id = some st)
    (hh : st.handle = .held) :
    ∃ t, s.StepsOn st (.call (.dropHandle st.id)) (s.dropHandle st) t ∧ t.got = [] ∧ t.wrote = [] ∧
      t.returned = [] := by
  cases hr : st.reset with
  | some cause =>
    have hr' : st.reset.isSome = true := by simp [hr]
    simp only [dropHandle, hr', if_true]
    have hstate := retireIf_put
      { st with handle := .dropped, readWaiting := false, writeWaiting := false } wf.distinct h
    exact ⟨_, ⟨_, s.stats, hstate, rfl, rfl, .dropAborted hh hr'⟩, rfl, rfl, rfl⟩
  | none =>
    have hstate := (dropHandle_state hr).trans (retireIf_put st.afterDrop wf.distinct h)
    exact ⟨_, ⟨_, s.stats, hstate, dropHandle_frames wf h hr, dropHandle_wakes, .dropHandle hh hr⟩,
      rfl, rfl, rfl⟩

/-! ## Messages -/

variable {message : Bytes} {f : Frame}

theorem mayOpen_eq_false (wf : s.WellFormed) (h : s.find? st.id = some st) :
    s.mayOpen st.id = false := by
  have hm := mem_of_find? h
  cases ho : s.role.owns st.id with
  | true => simp [mayOpen, ho]
  | false =>
    have := (wf.peers st hm ho).2
    simp only [mayOpen, ho, Bool.not_false, Bool.and_true, Bool.and_eq_false_iff,
      decide_eq_false_iff_not, gt_iff_lt, UInt32.not_lt]
    exact .inr this

theorem unheeded_steps {o : Outcome Session α} (wf : s.WellFormed) (hopen : s.ended = none)
    (h : s.find? st.id = some st) (hdec : Frame.decode message s.config.maxFramePayload = .ok f)
    (hid : f.streamId = st.id) (hun : st.tracked = false ∨ f.type = .syn)
    (hstate : ∃ stats, o.state = { s with stats })
    (hsilent : Silent o) : s.StepsOn st (.message message) o { got := [f] } := by
  obtain ⟨stats, hstate⟩ := hstate
  refine ⟨st, stats, ?_, hsilent.1, hsilent.2.trans Stream.woken_self.symm,
    .unheeded hdec hid hun fun cause hc => wf.teardown st (mem_of_find? h) cause hc hopen⟩
  rw [put_self wf.distinct h, hstate]

theorem tracked?_of_find? (wf : s.WellFormed) (h : s.find? st.id = some st) :
    s.tracked? st.id = if st.tracked then some st else none := by
  rw [tracked?_eq wf.distinct, h, Option.filter_some]

theorem onSyn_steps (wf : s.WellFormed) (hopen : s.ended = none) (h : s.find? st.id = some st)
    (hdec : Frame.decode message s.config.maxFramePayload = .ok f) (hid : f.streamId = st.id)
    (ht : f.type = .syn) :
    s.StepsOn st (.message message) (s.onSyn st.id) { got := [f] } := by
  simp only [onSyn, mayOpen_eq_false wf h]
  exact unheeded_steps wf hopen h hdec hid (.inr ht) ⟨_, rfl⟩ ⟨rfl, rfl⟩

theorem onUnknown_steps (wf : s.WellFormed) (hopen : s.ended = none) (h : s.find? st.id = some st)
    (hdec : Frame.decode message s.config.maxFramePayload = .ok f) (hid : f.streamId = st.id)
    (ht : st.tracked = false) (type : FrameType) :
    s.StepsOn st (.message message) (s.onUnknown st.id type) { got := [f] } :=
  unheeded_steps wf hopen h hdec hid (.inl ht) ⟨_, rfl⟩ ⟨rfl, rfl⟩

theorem find?_put_aborted (h : s.find? st.id = some st) (cause : ResetCause) :
    (s.put (st.aborted cause)).find? st.id = some (st.aborted cause) := by
  have hput : (s.put (st.aborted cause)).find? (st.aborted cause).id = some (st.aborted cause) :=
    find?_put (by rw [Stream.aborted_id]; exact h)
  rwa [Stream.aborted_id] at hput

theorem find?_retire_abort (hd : s.DistinctIds) (h : s.find? st.id = some st) (cause : ResetCause)
    (stats : Stats) :
    (({ s.put (st.abort cause).2 with stats } : Session).retire st.id).1.find? st.id =
      some (st.aborted cause) := by
  have hretire := retire_abort hd h cause stats
  rw [abort_id] at hretire
  rw [hretire]
  exact find?_put_aborted h cause

/-- An abort by the session leaves the stream aborted and forgotten. -/
theorem resetStream_state (hd : s.DistinctIds) (h : s.find? st.id = some st) (cause : ResetCause) :
    (s.resetStream st cause).state =
      { s.put (st.aborted cause) with stats := if st.isTerminal then
        s.stats else s.stats.reset } := by
  rw [← retire_abort hd h]
  simp only [resetStream, abort_fst]
  cases st.isTerminal <;> rfl

theorem find?_resetStream (hd : s.DistinctIds) (h : s.find? st.id = some st) (cause : ResetCause) :
    (s.resetStream st cause).state.find? st.id = some (st.aborted cause) := by
  rw [resetStream_state hd h cause]
  exact find?_put_aborted h cause

theorem resetStream_steps (wf : s.WellFormed) (h : s.find? st.id = some st) (ht : st.tracked = true)
    {got : List Frame} (ha : st.Accusation s.config.maxFramePayload message got) (stats : Stats) :
    s.StepsOn st (.message message) (({ s with stats } : Session).resetStream st .violation)
      { got, sent := st.abortFrames } := by
  exact ⟨_, _, resetStream_state (s := { s with stats }) wf.distinct h .violation,
    queue_abort wf h .violation, Stream.wokenByAbort_eq, .accused ht ha⟩

theorem onWindowUpdate_steps (wf : s.WellFormed) (hopen : s.ended = none)
    (h : s.find? st.id = some st)
    (hdec : Frame.decode message s.config.maxFramePayload = .ok f) (hid : f.streamId = st.id)
    (ht : f.type = .windowUpdate) :
    s.StepsOn st (.message message) (s.onWindowUpdate st.id (f.credit?.getD 0)) { got := [f] } := by
  simp only [onWindowUpdate, tracked?_of_find? wf h]
  cases htr : st.tracked with
  | true => exact ⟨_, s.stats, rfl, rfl, Stream.wokenByGrant_eq, .windowUpdate hdec hid ht htr⟩
  | false => exact onUnknown_steps wf hopen h hdec hid htr .windowUpdate

theorem onFin_steps (wf : s.WellFormed) (hopen : s.ended = none) (h : s.find? st.id = some st)
    (hdec : Frame.decode message s.config.maxFramePayload = .ok f) (hid : f.streamId = st.id)
    (ht : f.type = .fin) :
    s.StepsOn st (.message message) (s.onFin st.id) { got := [f] } := by
  simp only [onFin, tracked?_of_find? wf h]
  cases htr : st.tracked with
  | true =>
    have hput := retireIf_put st.finish wf.distinct
      (show s.find? st.finish.id = some st by rw [Stream.finish_id]; exact h)
    rw [Stream.finish_id] at hput
    exact ⟨_, s.stats, hput, rfl, Stream.wokenByFinish_eq, .fin hdec hid ht htr⟩
  | false => exact onUnknown_steps wf hopen h hdec hid htr .fin

theorem onRst_steps (wf : s.WellFormed) (hopen : s.ended = none) (h : s.find? st.id = some st)
    (hdec : Frame.decode message s.config.maxFramePayload = .ok f) (hid : f.streamId = st.id)
    (ht : f.type = .rst) :
    s.StepsOn st (.message message) (s.onRst st.id) { got := [f] } := by
  simp only [onRst, tracked?_of_find? wf h]
  cases htr : st.tracked with
  | true =>
    have hretire := retire_abort wf.distinct h .peer s.stats.reset
    rw [abort_id] at hretire
    exact ⟨_, s.stats.reset, hretire, rfl, Stream.wokenByAbort_eq, .rst hdec hid ht htr⟩
  | false => exact onUnknown_steps wf hopen h hdec hid htr .rst

/-- What a tracked stream that still reads does with DATA that its window has room for. -/
theorem receive_of_ok {payload : Bytes} {recv : RecvWindow} (hr : st.reset = none)
    (hrc : st.remoteClosed = false) (hrec : st.recv.receive payload.length = .ok recv) :
    st.receive payload =
      if st.handle = .dropped then
        (.discarded (recv.consume payload.length).1,
          { st with recv := (recv.consume payload.length).2 })
      else if payload.isEmpty then (.buffered, { st with recv })
      else (.buffered, { st with
        recv
        chunks := st.chunks ++ [payload]
        buffered := st.buffered + payload.length
        readWaiting := false }) := by
  simp [Stream.receive, hr, hrc, hrec]

theorem onViolation_steps (wf : s.WellFormed) (h : s.find? st.id = some st)
    (hdec : Frame.decode message s.config.maxFramePayload = .ok f) (hid : f.streamId = st.id)
    (ht : f.type = .data)
    (htr : st.tracked = true) {v : Violation} (hv : st.receive f.payload = (.violation v, st)) :
    s.StepsOn st (.message message) (s.onData st.id f.payload)
      { got := [f], sent := st.abortFrames } := by
  have hsteps := resetStream_steps wf h htr (.violation hdec ht hid (by rw [hv])) s.stats.dropped
  obtain ⟨st', stats, hstate, hframes, hwakes, hstep⟩ := hsteps
  refine ⟨st', stats, ?_, ?_, ?_, hstep⟩ <;>
    simp only [onData, tracked?_of_find? wf h, htr, if_true, hv, put_self wf.distinct h]
  · exact hstate
  · exact hframes
  · exact hwakes

theorem onData_steps (wf : s.WellFormed) (hopen : s.ended = none) (h : s.find? st.id = some st)
    (hdec : Frame.decode message s.config.maxFramePayload = .ok f) (hid : f.streamId = st.id)
    (ht : f.type = .data) :
    ∃ sent, s.StepsOn st (.message message) (s.onData st.id f.payload) { got := [f], sent } := by
  cases htr : st.tracked with
  | false =>
    simp only [onData, tracked?_of_find? wf h, htr]
    exact ⟨_, unheeded_steps wf hopen h hdec hid (.inl htr) ⟨_, rfl⟩ ⟨rfl, rfl⟩⟩
  | true =>
    have hg : s.tracked? st.id = some st := by rw [tracked?_of_find? wf h, if_pos htr]
    have hr := (wf.sound st (mem_of_find? h)).reset_eq_none htr
    cases hrc : st.remoteClosed with
    | true =>
      exact ⟨_, onViolation_steps wf h hdec hid ht htr (v := .dataAfterFin)
        (by simp [Stream.receive, hr, hrc])⟩
    | false =>
    cases hrec : st.recv.receive f.payload.length with
    | error e =>
      exact ⟨_, onViolation_steps wf h hdec hid ht htr (v := .overrun e)
        (by simp [Stream.receive, hr, hrc, hrec])⟩
    | ok recv =>
    have hv := receive_of_ok hr hrc hrec
    by_cases hd : st.handle = .dropped
    · have hstep := Stream.Step.dataForNobody hdec hid ht htr hr hrc hrec hd
      rw [if_pos hd] at hv
      simp only [onData, hg, hv]
      cases hc : (recv.consume f.payload.length).1 with
      | none =>
        rw [hc] at hstep
        exact ⟨[], _, s.stats, rfl, rfl, (Stream.cleared_of_eq rfl rfl).symm, hstep⟩
      | some credit =>
        rw [hc] at hstep
        exact ⟨[.windowUpdate st.id credit], _, s.stats, rfl, queueQuietly_of_open hopen _,
          (Stream.cleared_of_eq rfl rfl).symm, hstep⟩
    · rw [if_neg hd] at hv
      by_cases hp : f.payload = []
      · rw [if_pos (by simp [hp])] at hv
        simp only [onData, hg, hv]
        have hwakes : st.wokenByData f.payload = st.cleared { st with recv } := by
          rw [Stream.wokenByData, hv]
          simp [hp, Stream.cleared]
        exact ⟨[], _, s.stats, rfl, rfl, hwakes, .emptyData hdec hid ht htr hr hrc hrec hd hp⟩
      · rw [if_neg (by simpa using hp)] at hv
        simp only [onData, hg, hv]
        have hwakes : st.wokenByData f.payload = st.cleared { st with
            recv
            chunks := st.chunks ++ [f.payload]
            buffered := st.buffered + f.payload.length
            readWaiting := false } := by
          simp [Stream.wokenByData, hv, hp, Stream.reader, Stream.cleared]
        exact ⟨[], _, s.stats, rfl, rfl, hwakes, .data hdec hid ht htr hr hrc hrec hd hp⟩

/-- A frame for a stream of the session. -/
theorem onFrame_steps (wf : s.WellFormed) (hopen : s.ended = none) (h : s.find? st.id = some st)
    (hdec : Frame.decode message s.config.maxFramePayload = .ok f) (hid : f.streamId = st.id) :
    ∃ sent, s.StepsOn st (.message message) (s.onFrame f) { got := [f], sent } := by
  simp only [onFrame, hid]
  cases ht : f.type with
  | syn => exact ⟨_, onSyn_steps wf hopen h hdec hid ht⟩
  | data => exact onData_steps wf hopen h hdec hid ht
  | windowUpdate => exact ⟨_, onWindowUpdate_steps wf hopen h hdec hid ht⟩
  | fin => exact ⟨_, onFin_steps wf hopen h hdec hid ht⟩
  | rst => exact ⟨_, onRst_steps wf hopen h hdec hid ht⟩

/-- A message that was DATA of a stream once. -/
theorem onLostData_steps (wf : s.WellFormed) (h : s.find? st.id = some st) (ht : st.tracked = true)
    {err : FrameError}
    (hdec : Frame.decode message s.config.maxFramePayload = .error err)
    (hid : err.damagedStream? = some st.id)
    (stats : Stats) :
    s.StepsOn st (.message message) (({ s with stats } : Session).onLostData st.id)
      { sent := st.abortFrames } := by
  have hg : ({ s with stats } : Session).tracked? st.id = some st := by
    have := tracked?_of_find? wf h
    rw [ht, if_pos rfl] at this
    exact this
  have hsteps := resetStream_steps wf h ht (.lost hdec hid) stats
  simp only [onLostData, hg]
  exact hsteps

/-! ## New streams -/

variable {id : UInt32}

theorem onSyn_wakes : (s.onSyn id).wakes = [] := by
  simp only [onSyn]
  repeat' split
  all_goals rfl

/-- A SYN for a stream that the peer may not open. -/
theorem onSyn_of_invalid (hm : s.mayOpen id = false) :
    Silent (s.onSyn id) ∧ (s.onSyn id).state = { s with stats := s.stats.dropped } := by
  simp only [onSyn, hm]
  exact ⟨⟨rfl, rfl⟩, rfl⟩

/-- A SYN that comes after the end only uses up its id. -/
theorem onSyn_of_ended (hended : s.ended ≠ none) (hm : s.mayOpen id = true) :
    Silent (s.onSyn id) ∧ (s.onSyn id).state = { s with lastRemoteId := id } := by
  have hclosed : s.isClosed = true := Option.isSome_iff_ne_none.mpr hended
  simp only [onSyn, hm, hclosed, if_true]
  exact ⟨⟨rfl, rfl⟩, rfl⟩

theorem onSyn_of_room (hopen : s.ended = none) (hm : s.mayOpen id = true)
    (hb : s.backlog.length < s.config.acceptBacklog) :
    Silent (s.onSyn id) ∧
      (s.onSyn id).state = { s with
        lastRemoteId := id
        streams := s.streams ++ [.make id s.config .unclaimed]
        backlog := s.backlog ++ [id] } := by
  have hclosed : s.isClosed = false := by rw [isClosed, hopen]; rfl
  simp only [onSyn, hm, hclosed, hb, if_true]
  exact ⟨⟨rfl, rfl⟩, rfl⟩

/-- A stream refused for want of room is aborted before anybody has seen it. -/
theorem onSyn_of_full (hd : s.DistinctIds) (hopen : s.ended = none) (h : s.find? id = none)
    (hm : s.mayOpen id = true) (hb : ¬ s.backlog.length < s.config.acceptBacklog) :
    (s.onSyn id).frames = [.rst id] ∧
      (s.onSyn id).state = { s with
        lastRemoteId := id
        streams := s.streams ++ [(Stream.make id s.config .unclaimed).aborted .here]
        stats := s.stats.refused.reset } := by
  let st : Stream := .make id s.config .unclaimed
  let added : Session :=
    { s with lastRemoteId := id, streams := s.streams ++ [st], stats := s.stats.refused }
  have hda : added.DistinctIds := hd.append (show s.find? st.id = none from h) rfl
  have hfind : added.find? st.id = some st :=
    find?_append_self (show s.find? st.id = none from h) rfl
  have hclosed : s.isClosed = false := by rw [isClosed, hopen]; rfl
  have hstate : (s.onSyn id).state = { added.put (st.aborted .here) with
      stats := s.stats.refused.reset } := by
    rw [← retire_abort hda hfind]
    simp only [onSyn, hm, hclosed, hb, if_true, if_false]
    rfl
  have hframes : (s.onSyn id).frames = [.rst id] := by
    simp only [onSyn, hm, hclosed, hb, if_true, if_false]
    exact queueQuietly_of_open (s := added.put (st.abort .here).2) hopen (.rst id)
  refine ⟨hframes, hstate.trans ?_⟩
  have hput := put_append { s with lastRemoteId := id, stats := s.stats.refused } st
    (st.aborted .here) h Stream.aborted_id
  exact congrArg (fun t : Session => { t with stats := s.stats.refused.reset }) hput

end StreamMux.Session

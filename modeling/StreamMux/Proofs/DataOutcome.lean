/-
What a DATA message does to its stream, for every message with a header and every
stream that the session tracks. Whether the fault shows in the header, in the length
or only at the stream, the outcome of DATA that breaks the rules is one: the stream is
aborted and forgotten, the peer is told once, and both counters grow by one. A stream
that had closed before is only forgotten, and what is unread of it stays.
-/
import StreamMux.Proofs.Batching
import StreamMux.Proofs.Counters

namespace StreamMux

namespace Stream

/-- DATA that the peer has a right to send on this stream, with the length its header declares. -/
structure Allows (s : Stream) (maxPayload declared : UInt32) (payload : Bytes) : Prop where
  fits : declared ≤ maxPayload
  whole : payload.length = declared.toNat
  unfinished : s.remoteClosed = false
  credit : payload.length ≤ s.recv.remaining.toNat

/-- The two differ at most in what receiving may change: the window, the unread bytes and
the mark of a suspended read. -/
def OnlyReceived (s s' : Stream) : Prop :=
  s' = { s with
    recv := { s.recv with remaining := s'.recv.remaining, unacked := s'.recv.unacked }
    chunks := s'.chunks
    buffered := s'.buffered
    readWaiting := s'.readWaiting }

end Stream

namespace Session

variable {role : Role} {config : Config} {s : Session} {st : Stream} {id declared : UInt32}
  {message payload : Bytes}

/-! ## DATA within the rules -/

theorem step_of_allowed
    (hm : Frame.splitHeader? message = some (⟨FrameType.data.toByte, id, declared⟩, payload))
    (ha : st.Allows s.config.maxFramePayload declared payload) :
    s.step (.message message) = Outcome.as
      (({ s with stats := s.stats.received message.length } : Session).onData id payload)
        fun _ => .nothing := by
  have hdec : Frame.decode message s.config.maxFramePayload = .ok (.data id payload) := by
    rw [Frame.decode_of_data hm, if_neg (UInt32.not_lt.mpr ha.fits), if_pos ha.whole]
  rw [step_of_ok hdec]
  rfl

theorem onData_of_wanted {maxPayload : UInt32} (hst : s.tracked? id = some st)
    (hr : st.reset = none)
    (ha : st.Allows maxPayload declared payload) (hd : st.handle ≠ .dropped) :
    ∃ st', st.OnlyReceived st' ∧ (s.onData id payload).state = s.put st' ∧
      (s.onData id payload).frames = [] ∧
      st'.unread = st.unread ++ payload ∧
      st'.recv.remaining.toNat + payload.length = st.recv.remaining.toNat ∧
        st'.recv.unacked = st.recv.unacked := by
  obtain ⟨recv, hrec, hrecv⟩ := RecvWindow.exists_receive ha.credit
  obtain ⟨hremaining, hunacked⟩ := RecvWindow.receive_ok hrec
  have hv := receive_of_ok hr ha.unfinished hrec
  rw [if_neg hd] at hv
  by_cases hp : payload = []
  · rw [if_pos (by simp [hp])] at hv
    simp only [onData, hst, hv]
    refine ⟨{ st with recv }, ?_, rfl, rfl, by simp [Stream.unread, hp], hremaining, hunacked⟩
    rw [Stream.OnlyReceived, hrecv]
  · rw [if_neg (by simpa using hp)] at hv
    simp only [onData, hst, hv]
    refine ⟨_, ?_, rfl, rfl, by simp [Stream.unread], hremaining, hunacked⟩
    rw [Stream.OnlyReceived, hrecv]

theorem onData_of_unwanted {maxPayload : UInt32} (hopen : s.ended = none)
    (hst : s.tracked? id = some st)
    (hr : st.reset = none) (ha : st.Allows maxPayload declared payload) (hd : st.handle = .dropped)
    (hlt : st.recv.remaining.toNat + st.recv.unacked.toNat < UInt32.size) :
    ∃ st', st.OnlyReceived st' ∧ (s.onData id payload).state = s.put st' ∧ st'.unread = st.unread ∧
      (st.recv.unacked.toNat + payload.length < st.recv.threshold.toNat →
        (s.onData id payload).frames = [] ∧
        st'.recv.remaining.toNat + payload.length = st.recv.remaining.toNat ∧
        st'.recv.unacked.toNat = st.recv.unacked.toNat + payload.length) ∧
      (st.recv.threshold.toNat ≤ st.recv.unacked.toNat + payload.length → ∃ credit,
        (s.onData id payload).frames = [.windowUpdate id credit] ∧
        credit.toNat = st.recv.unacked.toNat + payload.length ∧
        st'.recv.remaining.toNat + payload.length = st.recv.remaining.toNat + credit.toNat ∧
        st'.recv.unacked = 0) := by
  obtain ⟨recv, hrec, hrecv⟩ := RecvWindow.exists_receive ha.credit
  obtain ⟨hremaining, hunacked⟩ := RecvWindow.receive_ok hrec
  have hthreshold := RecvWindow.receive_threshold hrec
  have hv := receive_of_ok hr ha.unfinished hrec
  rw [if_pos hd] at hv
  simp only [onData, hst, hv]
  refine ⟨{ st with recv := (recv.consume payload.length).2 }, ?_, ?_, rfl, fun hbelow => ?_,
    fun hreached => ?_⟩
  · rw [Stream.OnlyReceived, hrecv, RecvWindow.consume]
    split <;> rfl
  · cases (recv.consume payload.length).1 <;> rfl
  · obtain ⟨hnone, hkeep, hcount⟩ := RecvWindow.consume_of_lt (w := recv) (n := payload.length)
      (by rw [hunacked]; omega) (by rw [hunacked, hthreshold]; exact hbelow)
    rw [hnone]
    exact ⟨rfl, by rw [hkeep]; exact hremaining, by rw [hcount, hunacked]⟩
  · obtain ⟨credit, hsome, hcredit, hgiven, hzero⟩ :=
      RecvWindow.consume_of_le (w := recv) (n := payload.length)
      (by rw [hunacked]; omega) (by rw [hunacked, hthreshold]; exact hreached)
    rw [hsome]
    refine ⟨credit, queueQuietly_of_open hopen _, by rw [hcredit, hunacked], ?_, hzero⟩
    rw [hgiven]
    omega

/-! ## DATA against the rules -/

/-- The message is dropped and the stream aborted; the peer is told, unless the stream was final
before. -/
def Punishes (s : Session) (message : Bytes) (st : Stream) : Prop :=
  (s.step (.message message)).frames = st.abortFrames ∧
    (s.step (.message message)).state = { s.put (st.aborted .violation) with
      stats :=
        let counted := (s.stats.received message.length).dropped
        if st.isTerminal then counted else counted.reset }

/-- An abort by the session for a fault of the peer, with what it queues and counts. -/
theorem resetStream_of_fault (wf : s.WellFormed) (hfind : s.find? st.id = some st) (stats : Stats) :
    (({ s with stats } : Session).resetStream st .violation).frames = st.abortFrames ∧
      (({ s with stats } : Session).resetStream st .violation).state =
        { s.put (st.aborted .violation) with stats := if st.isTerminal then
          stats else stats.reset } :=
  ⟨queue_abort (s := { s with stats }) (wf.with_stats stats) hfind .violation,
    resetStream_state (s := { s with stats }) wf.distinct hfind .violation⟩

theorem step_of_damaged (wf : s.WellFormed) (hst : s.tracked? id = some st) {err : FrameError}
    (hdec : Frame.decode message s.config.maxFramePayload = .error err)
    (hfatal : err.isFatal = false)
    (hd : err.damagedStream? = some id) :
    s.Punishes message st := by
  obtain ⟨rfl, hfind, htracked⟩ := tracked?_eq_some wf hst
  have hopen := wf.open_of_tracked hfind htracked
  rw [Punishes, step_of_error hdec]
  obtain ⟨hframes, hstate, -⟩ := onMalformed_of_damaged
    (s := { s with stats := s.stats.received message.length }) hfatal hd
  have hlost : (({ s with stats := (s.stats.received message.length).dropped } : Session)).tracked?
    st.id = some st := hst
  simp only [onLostData, hlost] at hframes hstate
  obtain ⟨hsent, hafter⟩ := resetStream_of_fault wf hfind (s.stats.received message.length).dropped
  exact ⟨hframes.trans hsent, hstate.trans hafter⟩

theorem step_of_violation (wf : s.WellFormed) (hst : s.tracked? id = some st) {v : Violation}
    (hdec : Frame.decode message s.config.maxFramePayload = .ok (.data id payload))
    (hv : st.receive payload = (.violation v, st)) :
    s.Punishes message st := by
  obtain ⟨rfl, hfind, htracked⟩ := tracked?_eq_some wf hst
  have hopen := wf.open_of_tracked hfind htracked
  have hknown : (({ s with stats := s.stats.received message.length } : Session)).tracked? st.id =
    some st := hst
  have hput : (({ s with stats := s.stats.received message.length } : Session)).put st =
      { s with stats := s.stats.received message.length } := put_self wf.distinct hfind
  rw [Punishes, step_of_ok hdec]
  simp only [Outcome.as, onFrame, Frame.data, onData, hknown, hv, hput]
  exact resetStream_of_fault wf hfind (s.stats.received message.length).dropped

/-- What breaks the rules is refused, in the header, at the length or by the stream. -/
theorem step_of_forbidden (wf : s.WellFormed) (hst : s.tracked? id = some st)
    (hm : Frame.splitHeader? message = some (⟨FrameType.data.toByte, id, declared⟩, payload))
    (ha : ¬ st.Allows s.config.maxFramePayload declared payload) :
    s.Punishes message st := by
  obtain ⟨hid, hfind, htracked⟩ := tracked?_eq_some wf hst
  have hr := (wf.sound st (mem_of_find? hfind)).reset_eq_none htracked
  have hdec : Frame.decode message s.config.maxFramePayload = _ := Frame.decode_of_data hm
  by_cases hfits : s.config.maxFramePayload < declared
  · rw [if_pos hfits] at hdec
    exact step_of_damaged wf hst hdec rfl rfl
  rw [if_neg hfits] at hdec
  by_cases hwhole : payload.length = declared.toNat
  · rw [if_pos hwhole] at hdec
    by_cases hrc : st.remoteClosed = true
    · exact step_of_violation wf hst hdec (v := .dataAfterFin) (by simp [Stream.receive, hr, hrc])
    · have hrc : st.remoteClosed = false := by simpa using hrc
      have hover : payload.length > st.recv.remaining.toNat := by
        by_contra hle
        exact ha ⟨UInt32.not_lt.mp hfits, hwhole, hrc, Nat.le_of_not_gt hle⟩
      exact step_of_violation wf hst hdec (v := .overrun ⟨payload.length, st.recv.remaining⟩)
        (by simp [Stream.receive, hr, hrc, RecvWindow.receive, hover])
  · rw [if_neg hwhole] at hdec
    exact step_of_damaged wf hst hdec rfl rfl

theorem Punishes.untracked (h : s.Punishes message st) (wf : s.WellFormed)
    (hfind : s.find? st.id = some st) :
    (s.step (.message message)).state.tracked? st.id = none := by
  rw [h.2]
  have hd : (s.put (st.aborted .violation)).DistinctIds := by
    rw [DistinctIds, map_id_put]; exact wf.distinct
  have hgone : (s.put (st.aborted .violation)).tracked? st.id = none := by
    rw [tracked?_eq hd, find?_put_aborted hfind, Option.filter_some, Stream.aborted_tracked,
      if_neg (by simp)]
  exact hgone

theorem Punishes.of_live (h : s.Punishes message st) (hr : st.reset = none)
    (hlive : st.phase ≠ .closed) :
    ∃ st', st'.id = st.id ∧ st'.phase = .reset ∧ st'.unread = [] ∧ st'.tracked = false ∧
      (s.step (.message message)).frames = [.rst st.id] ∧
      (s.step (.message message)).state =
        { s.put st' with stats := (s.stats.received message.length).dropped.reset } ∧
      s.stats.Took (s.step (.message message)).state.stats message.length 1 1 := by
  have hterm : st.isTerminal = false := by simpa using mt (st.isTerminal_iff_closed hr).mp hlive
  refine ⟨st.aborted .violation, Stream.aborted_id, ?_, ?_, rfl, ?_, ?_, ?_⟩
  · rw [Stream.phase_eq_reset_iff, Stream.aborted_reset, hterm]
    simp
  · rw [Stream.aborted_unread, hterm]
    rfl
  · rw [h.1, Stream.abortFrames, hterm]
    rfl
  · rw [h.2, hterm]
    rfl
  · rw [h.2, hterm]
    exact (s.stats.took_received message.length).dropped.reset

/-- A stream that has closed is forgotten and otherwise left alone, and nobody is told. -/
theorem Punishes.of_closed (h : s.Punishes message st) (hr : st.reset = none)
    (hclosed : st.phase = .closed) : (s.step (.message message)).frames = [] ∧
      (s.step (.message message)).state =
        { s.put { st with tracked := false } with
          stats := (s.stats.received message.length).dropped } ∧
      s.stats.Took (s.step (.message message)).state.stats message.length 1 0 := by
  have hterm := (st.isTerminal_iff_closed hr).mpr hclosed
  refine ⟨?_, ?_, ?_⟩
  · rw [h.1, Stream.abortFrames, hterm]
    rfl
  · rw [h.2, Stream.aborted_eq, hterm]
    rfl
  · rw [h.2, hterm]
    exact (s.stats.took_received message.length).dropped

theorem unread_of_tracked (hs : st.Sound) (htracked : st.tracked = true)
    (hclosed : st.phase = .closed) : st.unread ≠ [] := by
  intro hnil
  have hr := hs.reset_eq_none htracked
  have hbusy := hs.busy htracked
  have hempty : st.buffered = 0 := by rw [hs.buffered_eq, hnil]; rfl
  obtain ⟨hl, hrc⟩ := Stream.closed_of_isTerminal ((st.isTerminal_iff_closed hr).mpr hclosed) hr
  simp [Stream.retirable, hr, hl, hrc, hempty] at hbusy

/-! ## Every DATA message -/

/-- The outcome of every DATA message for a tracked stream. What the rules allow is kept for the
reader, or counted as read if the handle is gone; what they forbid costs the stream its life, or,
if it had closed, only its place in the session. The message itself is counted, as thrown away if
it is forbidden, and so is the abort; no other counter grows. -/
theorem data_outcome (hs : Reachable role config s) (hst : s.tracked? id = some st)
    (hm : Frame.splitHeader? message = some (⟨FrameType.data.toByte, id, declared⟩, payload)) :
    let o := s.step (.message message)
    let counted := s.stats.received message.length
    (st.Allows config.maxFramePayload declared payload → ∃ st',
      st.OnlyReceived st' ∧ o.state = { s.put st' with stats := counted } ∧
      s.stats.Took o.state.stats message.length 0 0 ∧
      (st.handle ≠ .dropped →
        o.frames = [] ∧ st'.unread = st.unread ++ payload ∧
        st'.recv.remaining.toNat + payload.length = st.recv.remaining.toNat ∧
          st'.recv.unacked = st.recv.unacked) ∧
      (st.handle = .dropped →
        st.unread = [] ∧ st'.unread = [] ∧
        (st.recv.unacked.toNat + payload.length < config.threshold.toNat →
          o.frames = [] ∧ st'.recv.remaining.toNat + payload.length = st.recv.remaining.toNat ∧
          st'.recv.unacked.toNat = st.recv.unacked.toNat + payload.length) ∧
        (config.threshold.toNat ≤ st.recv.unacked.toNat + payload.length → ∃ credit,
          o.frames = [.windowUpdate id credit] ∧ credit.toNat =
            st.recv.unacked.toNat + payload.length ∧
          st'.recv.remaining.toNat + payload.length = st.recv.remaining.toNat + credit.toNat ∧
          st'.recv.unacked = 0))) ∧
    (¬ st.Allows config.maxFramePayload declared payload →
      o.state.tracked? id = none ∧
      (st.phase ≠ .closed → ∃ st',
        st'.id = id ∧ st'.phase = .reset ∧ st'.unread = [] ∧ st'.tracked = false ∧
          o.frames = [.rst id] ∧
        o.state = { s.put st' with stats := counted.dropped.reset } ∧
        s.stats.Took o.state.stats message.length 1 1) ∧
      (st.phase = .closed →
        st.unread ≠ [] ∧ o.frames = [] ∧
        o.state = { s.put { st with tracked := false } with stats := counted.dropped } ∧
        s.stats.Took o.state.stats message.length 1 0)) := by
  intro o counted
  obtain ⟨es, rfl⟩ := hs.exists_run
  have wf := wellFormed_after role config es
  obtain ⟨rfl, hfind, htracked⟩ := tracked?_eq_some wf hst
  have hsound := wf.sound st (mem_of_find? hfind)
  have hr := hsound.reset_eq_none htracked
  constructor
  · intro ha
    have hopen := wf.open_of_tracked hfind htracked
    have hstep : o = _ := step_of_allowed hm (by rw [config_after]; exact ha)
    have htook {s' : Session} {st' : Stream} (hs' : s' =
        { ((make role config).after es).put st' with stats := counted }) :
        ((make role config).after es).stats.Took s'.stats message.length 0 0 := by
      rw [hs']
      exact Stats.took_received _ _
    rw [hstep]
    by_cases hd : st.handle = .dropped
    · have hbatched := batched hfind
      have htotal := (balance hfind).total
      have hword := config.initialWindow.toNat_lt_size
      obtain ⟨st', honly, hstate, hunread, hbelow, hreached⟩ :=
        onData_of_unwanted (s := { (make role config).after es with stats := counted }) hopen hst hr
          ha hd (by omega)
      have hnil : st.unread = [] := by
        rw [← List.length_eq_zero_iff, ← hsound.buffered_eq]
        exact hbatched.dropped hd hr
      rw [hbatched.threshold_eq] at hbelow hreached
      exact ⟨st', honly, hstate, htook hstate, fun hne => absurd hd hne,
        fun _ => ⟨hnil, hunread.trans hnil, hbelow, hreached⟩⟩
    · obtain ⟨st', honly, hstate, hkept⟩ :=
        onData_of_wanted (s := { (make role config).after es with stats := counted }) hst hr ha hd
      exact ⟨st', honly, hstate, htook hstate, fun _ => hkept, fun hdropped => absurd hdropped hd⟩
  · intro ha
    have hpunished := step_of_forbidden wf hst hm (by rw [config_after]; exact ha)
    exact ⟨hpunished.untracked wf hfind, hpunished.of_live hr,
      fun hclosed => ⟨unread_of_tracked hsound htracked hclosed, hpunished.of_closed hr hclosed⟩⟩

/-- Stream 1 is closed from both sides before its byte is read. -/
def visit : List Event :=
  [.message (Frame.syn 1).encode, .call (.accept 0), .message (Frame.data 1 [7]).encode,
    .call (.closeWrite 1), .message (Frame.fin 1).encode]

/-- The stream that is left. -/
def visited : Stream :=
  { Stream.make 1 ⟨4, 4, 50, 1⟩ .held with
    recv := ⟨3, 0, 2⟩
    chunks := [[7]]
    buffered := 1
    localClosed := true
    remoteClosed := true }

theorem data_outcome_of_visit :
    ((make .server ⟨4, 4, 50, 1⟩).after visit).tracked? 1 = some visited ∧ visited.phase = .closed ∧
      ¬ visited.Allows 4 1 [8] ∧
      (((make .server ⟨4, 4, 50, 1⟩).after visit).step
        (.message (Frame.data 1 [8]).encode)).frames = [] ∧
      (((make .server ⟨4, 4, 50, 1⟩).after visit).step
        (.message (Frame.data 1 [8]).encode)).state.tracked? 1 = none := by
  have hst : ((make .server ⟨4, 4, 50, 1⟩).after visit).tracked? 1 = some visited := rfl
  have hm : Frame.splitHeader? (Frame.data 1 [8]).encode =
    some (⟨FrameType.data.toByte, 1, 1⟩, [8]) := rfl
  have ha : ¬ visited.Allows 4 1 [8] := fun ha => nomatch ha.unfinished
  obtain ⟨-, hforbidden⟩ := data_outcome (reachable_after .start visit) hst hm
  obtain ⟨hgone, -, hclosed⟩ := hforbidden ha
  exact ⟨hst, rfl, ha, (hclosed rfl).2.1, hgone⟩

end Session
end StreamMux

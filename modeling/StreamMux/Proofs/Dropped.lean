/-
Which messages a session throws away, and that it counts exactly these: each once,
when it comes, and nothing else that can happen to the session counts.
-/
import StreamMux.Proofs.Welcome
import StreamMux.Proofs.Coarse

namespace StreamMux.Session

variable {s : Session} {st : Stream} {e : Event} {id : UInt32} {f : Frame} {message : Bytes}

/-- The counter of messages thrown away. -/
abbrev droppedCount (s : Session) : Nat := s.stats.framesDropped

/-! ## Other events -/

theorem coarse_droppedCount : Coarse droppedCount :=
  ⟨⟨⟨fun _ _ => rfl, fun _ _ _ => rfl⟩, fun _ _ _ => rfl⟩, fun _ => rfl⟩

theorem lineless_droppedCount : Lineless droppedCount := ⟨fun _ _ => rfl, fun _ _ _ => rfl⟩

/-- Only messages are counted. -/
theorem step_dropped (h : ∀ message, e ≠ .message message) :
    (s.step e).state.droppedCount = s.droppedCount := by
  cases e with
  | call c => exact coarse_droppedCount.anyCall lineless_droppedCount s c
  | message bytes => exact absurd rfl (h bytes)
  | connectionEnded | connectionFailed => exact coarse_droppedCount.terminate s _
  | sent f => rfl

/-! ## Messages -/

/-- Whether the session has no use for the frame: a SYN whose id the peer may not
open, DATA that its stream does not take, or anything else for a stream that the
session does not know or has forgotten. -/
def refuses (s : Session) (f : Frame) : Bool :=
  match f.type with
  | .syn => !s.mayOpen f.streamId
  | .data =>
    match s.tracked? f.streamId with
    | none => true
    | some st =>
      match (st.receive f.payload).1 with
      | .buffered | .discarded _ => false
      | .ignored | .violation _ => true
  | _ => (s.tracked? f.streamId).isNone

/-- Whether the session throws the message away: it has a header and is no
frame, or a frame of no use. -/
def throwsAway (s : Session) (message : Bytes) : Bool :=
  match Frame.decode message s.config.maxFramePayload with
  | .ok f => s.refuses f
  | .error err => !err.isFatal

theorem onSyn_dropped (s : Session) (id : UInt32) :
    (s.onSyn id).state.droppedCount = s.droppedCount + if s.mayOpen id then 0 else 1 := by
  simp only [onSyn]
  split
  · split
    · rfl
    split
    · rfl
    · exact coarse_droppedCount.resetStream { s with
        lastRemoteId := id
        streams := s.streams ++ [.make id s.config .unclaimed]
        stats := s.stats.refused } (.make id s.config .unclaimed) .here
  · rfl

theorem onData_dropped (s : Session) (f : Frame) (hty : f.type = .data) :
    (s.onData f.streamId f.payload).state.droppedCount = s.droppedCount + if s.refuses f then 1
      else 0 := by
  cases htr : s.tracked? f.streamId with
  | none => simp only [onData, refuses, hty, htr]; rfl
  | some st =>
    cases hrec : st.receive f.payload with
    | mk arrival st' =>
    simp only [onData, refuses, hty, htr, hrec]
    cases arrival with
    | buffered | ignored => rfl
    | discarded credit => cases credit <;> rfl
    | violation v =>
      exact coarse_droppedCount.resetStream { s.put st' with stats := (s.put st').stats.dropped }
        st' .violation

theorem onFrame_dropped (s : Session) (f : Frame) :
    (s.onFrame f).state.droppedCount = s.droppedCount + if s.refuses f then 1 else 0 := by
  cases hty : f.type with
  | syn =>
    rw [onFrame, hty]
    refine (onSyn_dropped s f.streamId).trans ?_
    rw [refuses, hty]
    cases s.mayOpen f.streamId <;> rfl
  | data =>
    rw [onFrame, hty]
    exact onData_dropped s f hty
  | windowUpdate =>
    simp only [onFrame, refuses, hty, onWindowUpdate]
    cases s.tracked? f.streamId <;> rfl
  | fin =>
    simp only [onFrame, refuses, hty, onFin]
    cases s.tracked? f.streamId with
    | none => rfl
    | some st => exact coarse_droppedCount.retireIf _ _ _
  | rst =>
    simp only [onFrame, refuses, hty, onRst]
    cases s.tracked? f.streamId with
    | none => rfl
    | some st =>
      exact coarse_droppedCount.retire { s.put (st.abort .peer).2 with stats := s.stats.reset }
        f.streamId

theorem onMalformed_dropped (s : Session) (err : FrameError) :
    (s.onMalformed err).state.droppedCount = s.droppedCount + if !err.isFatal then 1 else 0 := by
  simp only [onMalformed]
  cases err.isFatal with
  | true => exact coarse_droppedCount.terminate s _
  | false =>
    cases err.damagedStream? with
    | none => rfl
    | some id =>
      simp only [onLostData]
      cases ({ s with stats := s.stats.dropped } : Session).tracked? id with
      | none => rfl
      | some st => exact coarse_droppedCount.resetStream _ _ _

/-- A session counts what it throws away, once. -/
theorem message_dropped (message : Bytes) :
    (s.step (.message message)).state.droppedCount = s.droppedCount + if s.throwsAway message then 1
      else 0 := by
  cases hdec : Frame.decode message s.config.maxFramePayload with
  | ok f =>
    rw [step_of_ok hdec, throwsAway, hdec]
    exact onFrame_dropped _ f
  | error err =>
    rw [step_of_error hdec, throwsAway, hdec]
    exact onMalformed_dropped _ err

/-- A frame that crossed the end of its stream: it is no SYN, and the session had
the stream it is about and has forgotten it. -/
def Late (s : Session) (f : Frame) : Prop := f.type ≠ .syn ∧ ∃ st, s.find? f.streamId = some st ∧
    st.tracked = false

/-- DATA that fits is taken, for the reader or for nobody. -/
theorem arrival_of_ok {payload : Bytes} {recv : RecvWindow} (hr : st.reset = none)
    (hrc : st.remoteClosed = false) (hrec : st.recv.receive payload.length = .ok recv) :
    (st.receive payload).1 = .buffered ∨ ∃ credit, (st.receive payload).1 = .discarded credit := by
  rw [receive_of_ok hr hrc hrec]
  split
  · exact .inr ⟨_, rfl⟩
  · split <;> exact .inl rfl

theorem Welcome.arrival (h : s.Welcome f) (wf : s.WellFormed) (hty : f.type = .data)
    (htr : s.tracked? f.streamId = some st) :
    (st.receive f.payload).1 = .buffered ∨ ∃ credit,
      (st.receive f.payload).1 = .discarded credit := by
  obtain ⟨hrc, recv, hrec⟩ := h.data hty st htr
  obtain ⟨_, hfind, ht⟩ := tracked?_eq_some wf htr
  exact arrival_of_ok ((wf.sound st (mem_of_find? hfind)).reset_eq_none ht) hrc hrec

/-- Of welcome frames, only late ones are of no use. -/
theorem Welcome.late_of_refuses (h : s.Welcome f) (wf : s.WellFormed) (hr : s.refuses f = true) :
    s.Late f := by
  have forgotten (hty : f.type ≠ .syn) (htr : s.tracked? f.streamId = none) : s.Late f := by
    obtain ⟨st, hfind⟩ := h.known hty
    refine ⟨hty, st, hfind, ?_⟩
    rw [tracked?_eq wf.distinct, hfind] at htr
    simpa using htr
  simp only [refuses] at hr
  split at hr
  next hty => rw [h.syn hty] at hr; cases hr
  next hty =>
    split at hr
    next htr => exact forgotten (by simp [hty]) htr
    next st htr =>
      rcases h.arrival wf hty htr with harr | ⟨credit, harr⟩ <;> rw [harr] at hr <;> cases hr
  next hsyn _ => exact forgotten hsyn (by simpa using hr)

theorem dropped_of_ok (hdec : Frame.decode message s.config.maxFramePayload = .ok f) :
    (s.step (.message message)).state.droppedCount = s.droppedCount ∨
      (s.step (.message message)).state.droppedCount = s.droppedCount + 1 ∧ s.refuses f = true := by
  have hcount := message_dropped (s := s) message
  simp only [throwsAway, hdec] at hcount
  cases hr : s.refuses f with
  | false => rw [hr] at hcount; exact .inl hcount
  | true => rw [hr] at hcount; exact .inr ⟨hcount, rfl⟩

end StreamMux.Session

/-
What one event adds to the counters of a session, and so what a run can make of them.
The counters are natural numbers here and words of 64 bits where they are kept: as long
as there are fewer than 2^64 events and bytes, the two are the same.
-/
import StreamMux.Proofs.Coarse
import StreamMux.Proofs.History
import Mathlib.Algebra.Ring.Nat

namespace StreamMux

namespace Stats

variable {a b : Stats} {length drops resets : Nat}

/-- From `a` to `b` one message of this length was counted as received, and so many
messages as thrown away and streams as aborted. Nothing else was counted. -/
structure Took (a b : Stats) (length drops resets : Nat) : Prop where
  framesReceived : b.framesReceived = a.framesReceived + 1
  bytesReceived : b.bytesReceived = a.bytesReceived + length
  framesDropped : b.framesDropped = a.framesDropped + drops
  streamsReset : b.streamsReset = a.streamsReset + resets
  framesSent : b.framesSent = a.framesSent
  bytesSent : b.bytesSent = a.bytesSent
  streamsOpened : b.streamsOpened = a.streamsOpened
  streamsAccepted : b.streamsAccepted = a.streamsAccepted
  streamsRefused : b.streamsRefused = a.streamsRefused

theorem took_received (a : Stats) (length : Nat) : a.Took (a.received length) length 0 0 := by
  constructor <;> rfl

theorem Took.dropped (h : a.Took b length drops resets) :
    a.Took b.dropped length (drops + 1) resets :=
  { h with framesDropped := congrArg (· + 1) h.framesDropped }

theorem Took.reset (h : a.Took b length drops resets) : a.Took b.reset length drops (resets + 1) :=
  { h with streamsReset := congrArg (· + 1) h.streamsReset }

/-- The counters of single things, as opposed to bytes. -/
def counts : List (Stats → Nat) :=
  [framesSent, framesReceived, framesDropped, streamsOpened, streamsAccepted, streamsRefused,
    streamsReset]

end Stats

namespace Session

variable {s : Session} {e : Event} {f : Frame} {st : Stream} {a b : Stats}

/-! ## Parts of operations -/

theorem distant_stats : Distant stats := ⟨fun _ _ => rfl, fun _ _ _ => rfl⟩

theorem resetStream_stats (s : Session) (st : Stream) (cause : ResetCause) :
    (s.resetStream st cause).state.stats = s.stats ∨ (s.resetStream st cause).state.stats =
      s.stats.reset := by
  simp only [resetStream]
  rw [distant_stats.retire]
  split
  · exact .inr rfl
  · exact .inl rfl

theorem reset_stats (s : Session) (st : Stream) :
    (s.reset st).state.stats = s.stats ∨ (s.reset st).state.stats = s.stats.reset := by
  simp only [Session.reset]
  rw [distant_stats.retire]
  split
  · exact .inr rfl
  · exact .inl rfl

/-! ## Events -/

/-- What an event can make of the counters. -/
inductive Counting (a : Stats) : Event → Stats → Prop
  | call {c : Call} : Counting a (.call c) a
  | opened : Counting a (.call .openStream) a.opened
  | accepted {ticket : Nat} : Counting a (.call (.accept ticket)) a.accepted
  | reset {id : UInt32} : Counting a (.call (.reset id)) a.reset
  | took {message : Bytes} {b : Stats} {drops resets : Nat} : drops ≤ 1 → resets ≤ 1 →
    a.Took b message.length drops resets →
    Counting a (.message message) b
  | refused {message : Bytes} {b : Stats} {resets : Nat} :
    resets ≤ 1 → a.Took b message.length 0 resets →
    Counting a (.message message) b.refused
  | connectionEnded : Counting a .connectionEnded a
  | connectionFailed {text : String} : Counting a (.connectionFailed text) a
  | sent {f : Frame} : Counting a (.sent f) (a.sent f.encodedLength)

theorem counting_of_call (s : Session) (c : Call) :
    Counting s.stats (.call c) (s.step (.call c)).state.stats := by
  have plain (h : (s.call c).state.stats = s.stats) :
      Counting s.stats (.call c) (s.step (.call c)).state.stats := by
    show Counting s.stats (.call c) (s.call c).state.stats
    rw [h]
    exact .call
  cases c with
  | openStream =>
    simp only [step, call, Outcome.as, openStream, queue]
    repeat' split
    all_goals first | exact .opened | exact .call
  | accept ticket =>
    simp only [step, call, Outcome.as, accept]
    repeat' split
    all_goals first | exact .accepted | exact .call
  | cancelAccept ticket => exact plain rfl
  | read id room expired =>
    exact plain (Distant.onHeld s fun st => distant_stats.read s st room expired)
  | write id bytes expired =>
    exact plain (Distant.onHeld s fun st => distant_stats.write s st bytes expired)
  | closeWrite id => exact plain (Distant.onHeld s fun st => distant_stats.closeWrite s st)
  | reset id =>
    simp only [step, call, onHeld]
    cases s.held? id with
    | none => exact .call
    | some st =>
      simp only [Outcome.as]
      rcases reset_stats s st with h | h <;> rw [h]
      · exact .call
      · exact .reset
  | dropHandle id => exact plain (Distant.onHeld s fun st => distant_stats.dropHandle s st)
  | close => exact plain (distant_stats.terminate s _)

section

variable {message : Bytes} (h : a.Took s.stats message.length 0 0)
include h

theorem counting_of_same (hb : b = s.stats) : Counting a (.message message) b :=
  hb ▸ .took (Nat.zero_le _) (Nat.zero_le _) h

theorem counting_of_dropped : Counting a (.message message) s.stats.dropped :=
  .took (Nat.le_refl _) (Nat.zero_le _) h.dropped

/-- The message costs a stream its life, or would have. -/
theorem counting_of_punished (st : Stream) :
    Counting a (.message message)
      ({ s with stats := s.stats.dropped }.resetStream st .violation).state.stats := by
  rcases resetStream_stats { s with stats := s.stats.dropped } st .violation with hs | hs <;>
    rw [hs]
  · exact counting_of_dropped h
  · exact .took (Nat.le_refl _) (Nat.le_refl _) h.dropped.reset

theorem counting_of_syn (id : UInt32) : Counting a (.message message) (s.onSyn id).state.stats := by
  simp only [onSyn]
  split
  · split
    · exact counting_of_same h rfl
    split
    · exact counting_of_same h rfl
    · generalize s.streams ++ [_] = streams
      rcases resetStream_stats { s with lastRemoteId := id, streams, stats := s.stats.refused }
        (.make id s.config .unclaimed) .here with hs | hs
      · exact hs ▸ .refused (Nat.zero_le _) h
      · exact hs ▸ .refused (Nat.le_refl _) h.reset
  · exact counting_of_dropped h

theorem counting_of_data (id : UInt32) (payload : Bytes) :
    Counting a (.message message) (s.onData id payload).state.stats := by
  cases htr : s.tracked? id with
  | none =>
    simp only [onData, htr]
    exact counting_of_dropped h
  | some st =>
    cases hrec : st.receive payload with
    | mk arrival st' =>
    simp only [onData, htr, hrec]
    cases arrival with
    | buffered => exact counting_of_same h rfl
    | discarded credit => cases credit <;> exact counting_of_same h rfl
    | ignored => exact counting_of_dropped h
    | violation v => exact counting_of_punished (s := s.put st') h st'

theorem counting_of_frame (f : Frame) :
    Counting a (.message message) (s.onFrame f).state.stats := by
  simp only [onFrame]
  cases f.type with
  | syn => exact counting_of_syn h _
  | data => exact counting_of_data h _ _
  | windowUpdate =>
    simp only [onWindowUpdate]
    cases s.tracked? f.streamId with
    | none => exact counting_of_dropped h
    | some st => exact counting_of_same h rfl
  | fin =>
    simp only [onFin]
    cases s.tracked? f.streamId with
    | none => exact counting_of_dropped h
    | some st =>
      exact counting_of_same h
        (distant_stats.retireIf (s.put st.finish) st.finish.retirable f.streamId)
  | rst =>
    simp only [onRst]
    cases s.tracked? f.streamId with
    | none => exact counting_of_dropped h
    | some st =>
      have hs := distant_stats.retire { s.put (st.abort .peer).2 with stats := s.stats.reset }
        f.streamId
      exact hs ▸ .took (Nat.zero_le _) (Nat.le_refl _) h.reset

theorem counting_of_malformed (err : FrameError) :
    Counting a (.message message) (s.onMalformed err).state.stats := by
  simp only [onMalformed]
  cases err.isFatal with
  | true => exact counting_of_same h (distant_stats.terminate s _)
  | false =>
    cases err.damagedStream? with
    | none => exact counting_of_dropped h
    | some id =>
      simp only [onLostData]
      cases ({ s with stats := s.stats.dropped } : Session).tracked? id with
      | none => exact counting_of_dropped h
      | some st => exact counting_of_punished h st

end

theorem counting_of_step (s : Session) (e : Event) : Counting s.stats e (s.step e).state.stats := by
  cases e with
  | call c => exact counting_of_call s c
  | message message =>
    have hreceived := s.stats.took_received message.length
    cases hdec : Frame.decode message s.config.maxFramePayload with
    | ok f =>
      rw [step_of_ok hdec]
      exact counting_of_frame (s := { s with stats := s.stats.received message.length }) hreceived f
    | error err =>
      rw [step_of_error hdec]
      exact counting_of_malformed (s := { s with stats := s.stats.received message.length })
        hreceived err
  | connectionEnded => exact distant_stats.terminate s _ ▸ .connectionEnded
  | connectionFailed text => exact distant_stats.terminate s _ ▸ .connectionFailed
  | sent f => exact .sent

/-! ## Runs -/

/-- The bytes that the event brings in or takes out. -/
def Event.bytes : Event → Nat
  | .message m => m.length
  | .sent f => f.encodedLength
  | _ => 0

/-- No count grows by more than one with an event, and all bytes are of the event. -/
theorem Counting.le (h : Counting a e b) :
    (∀ count ∈ Stats.counts, count b ≤ count a + 1) ∧
      b.bytesSent + b.bytesReceived = a.bytesSent + a.bytesReceived + e.bytes := by
  cases h with
  | took hd hr hm =>
    simp only [Stats.counts, List.forall_mem_cons, List.not_mem_nil, false_implies, implies_true,
      and_true, hm.framesReceived, hm.framesDropped, hm.streamsReset, hm.framesSent,
      hm.streamsOpened, hm.streamsAccepted, hm.streamsRefused, hm.bytesSent, hm.bytesReceived,
      Event.bytes]
    omega
  | refused hr hm =>
    simp only [Stats.counts, Stats.refused, List.forall_mem_cons, List.not_mem_nil, false_implies,
      implies_true, and_true, hm.framesReceived, hm.framesDropped, hm.streamsReset, hm.framesSent,
      hm.streamsOpened, hm.streamsAccepted, hm.streamsRefused, hm.bytesSent, hm.bytesReceived,
      Event.bytes]
    omega
  | call | opened | accepted | reset | connectionEnded | connectionFailed | sent =>
    simp [Stats.counts, Stats.opened, Stats.accepted, Stats.reset, Stats.sent, Event.bytes]
    try omega

/-- Over a run no count grows beyond the number of events, and the bytes counted are those of the
events. -/
theorem counts_le (role : Role) (config : Config) (es : List Event) :
    (∀ count ∈ Stats.counts, count ((make role config).after es).stats ≤ es.length) ∧
      ((make role config).after es).stats.bytesSent +
        ((make role config).after es).stats.bytesReceived =
        (es.map Event.bytes).sum := by
  induction es using List.reverseRecOn with
  | nil => exact ⟨by simp [Stats.counts, after, make, Stats.zero], rfl⟩
  | append_singleton es e ih =>
    obtain ⟨hcounts, hbytes⟩ := ih
    obtain ⟨hstep, hmore⟩ := (counting_of_step ((make role config).after es) e).le
    rw [after_concat, List.length_append, List.map_append, List.sum_append, hmore, hbytes]
    exact ⟨fun count hc => Nat.le_trans (hstep count hc) (Nat.succ_le_succ (hcounts count hc)), by
      simp⟩

/-- The counters are exact in words of 64 bits, as long as events and bytes are. -/
theorem entries_lt_size (role : Role) (config : Config) (es : List Event)
    (hevents : es.length < UInt64.size) (hbytes : (es.map Event.bytes).sum < UInt64.size) :
    ∀ entry ∈ ((make role config).after es).stats.entries, entry.2 < UInt64.size := by
  obtain ⟨hcounts, hsum⟩ := counts_le role config es
  simp only [Stats.counts, List.forall_mem_cons, List.not_mem_nil, false_implies, implies_true,
    and_true] at hcounts
  simp only [Stats.entries, List.forall_mem_cons, List.not_mem_nil, false_implies, implies_true,
    and_true]
  omega

end Session
end StreamMux

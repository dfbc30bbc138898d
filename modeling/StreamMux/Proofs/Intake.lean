/-
Every message that the reader takes, before the end of the session or after it, is
counted once as received, and once more as dropped for one of five reasons. The reasons
are told by what came before the message: which streams were announced and which are
still in the table, the FINs and the credit.
-/
import StreamMux.Proofs.Announced
import StreamMux.Proofs.DataOutcome
import StreamMux.Proofs.Dropped
import StreamMux.Proofs.DropRate
import StreamMux.Proofs.Passed

namespace StreamMux.Session

variable {s : Session} {st : Stream} {e : Event} {f : Frame} {message : Bytes} {role : Role}
  {config : Config} {es : List Event}

/-! ## Why a message is dropped -/

/-- Why a session drops a message that its reader takes after the run. -/
inductive Discarded (role : Role) (config : Config) (es : List Event) (message : Bytes) : Prop
  /-- It has a complete header and is no frame. -/
  | malformed (header : Frame.headerSize ≤ message.length)
      (noFrame : ∀ f, Frame.decode message config.maxFramePayload ≠ .ok f)
  /-- A SYN for no stream, for one of those that are opened here, or not above all that were
  announced. -/
  | syn (f : Frame) (hdec : Frame.decode message config.maxFramePayload = .ok f)
    (hty : f.type = .syn) (hid : f.streamId = 0 ∨ role.owns f.streamId = true ∨
        ∃ i ∈ announcedIds role config es, f.streamId ≤ i)
  /-- Any other frame for a stream that is not in the table. -/
  | unknown (f : Frame) (hdec : Frame.decode message config.maxFramePayload = .ok f)
    (hty : f.type ≠ .syn) (hid : ((make role config).after es).tracked? f.streamId = none)
  /-- DATA for which the window is too small. -/
  | overrun (f : Frame) (st : Stream) (hdec : Frame.decode message config.maxFramePayload = .ok f)
      (hty : f.type = .data) (hid : ((make role config).after es).tracked? f.streamId = some st)
      (hover : st.recv.remaining.toNat < f.payload.length)
  /-- DATA behind the peer's FIN. -/
  | afterFin (f : Frame) (st : Stream) (hdec : Frame.decode message config.maxFramePayload = .ok f)
      (hty : f.type = .data) (hid : ((make role config).after es).tracked? f.streamId = some st)
      (hfin : Carries .fin ((make role config).traffic f.streamId es).got)

/-- The session drops the SYNs that announce no stream. -/
theorem mayOpen_eq_false_iff (id : UInt32) :
    ((make role config).after es).mayOpen id = false ↔
      id = 0 ∨ role.owns id = true ∨ ∃ i ∈ announcedIds role config es, id ≤ i := by
  rw [← Bool.not_eq_true, mayOpen_iff_announced]
  by_cases hzero : id = 0
  · simp [hzero]
  · by_cases howns : role.owns id = true
    · simp [howns]
    · simp [hzero, howns, UInt32.not_lt]

theorem refuses_data_iff (hty : f.type = .data) (htr : s.tracked? f.streamId = some st)
    (hr : st.reset = none) :
    s.refuses f = true ↔ st.remoteClosed = true ∨ st.recv.remaining.toNat < f.payload.length := by
  by_cases hrc : st.remoteClosed = true
  · have hrec : st.receive f.payload = (.violation .dataAfterFin, st) := by
      simp [Stream.receive, hr, hrc]
    simp [refuses, hty, htr, hrec, hrc]
  have hrc : st.remoteClosed = false := by simpa using hrc
  by_cases hover : st.recv.remaining.toNat < f.payload.length
  · have hrec : st.receive f.payload = (.violation (.overrun ⟨f.payload.length, st.recv.remaining⟩),
        st) := by
      simp [Stream.receive, hr, hrc, RecvWindow.receive, hover]
    simp [refuses, hty, htr, hrec, hover]
  · obtain ⟨recv, hrec, -⟩ := RecvWindow.exists_receive (Nat.le_of_not_lt hover)
    rcases arrival_of_ok hr hrc hrec with harr | ⟨credit, harr⟩ <;>
      simp [refuses, hty, htr, harr, hrc, hover]

theorem remoteClosed_iff_of_tracked
    (htr : ((make role config).after es).tracked? f.streamId = some st) :
    st.reset = none ∧
      (st.remoteClosed = true ↔ Carries .fin ((make role config).traffic f.streamId es).got) := by
  have wf := wellFormed_after role config es
  obtain ⟨-, hfind, ht⟩ := tracked?_eq_some wf htr
  have hr := (wf.sound st (mem_of_find? hfind)).reset_eq_none ht
  exact ⟨hr, (inbound hfind).fin, (inbound hfind).finTaken hr⟩

theorem discarded_of_refuses (hdec : Frame.decode message config.maxFramePayload = .ok f)
    (h : ((make role config).after es).refuses f = true) : Discarded role config es message := by
  cases hty : f.type with
  | syn =>
    simp only [refuses, hty, Bool.not_eq_true'] at h
    exact .syn f hdec hty ((mayOpen_eq_false_iff f.streamId).mp h)
  | data =>
    cases htr : ((make role config).after es).tracked? f.streamId with
    | none => exact .unknown f hdec (by simp [hty]) htr
    | some st =>
      obtain ⟨hr, hfin⟩ := remoteClosed_iff_of_tracked htr
      rcases (refuses_data_iff hty htr hr).mp h with hrc | hover
      · exact .afterFin f st hdec hty htr (hfin.mp hrc)
      · exact .overrun f st hdec hty htr hover
  | windowUpdate | fin | rst =>
    simp only [refuses, hty, Option.isNone_iff_eq_none] at h
    exact .unknown f hdec (by simp [hty]) h

theorem Discarded.refuses (h : Discarded role config es message)
    (hdec : Frame.decode message config.maxFramePayload = .ok f) :
    ((make role config).after es).refuses f = true := by
  cases h with
  | malformed _ noFrame => exact absurd hdec (noFrame f)
  | syn g hg hty hid =>
    obtain rfl := Except.ok.inj (hdec.symm.trans hg)
    rw [Session.refuses, hty, (mayOpen_eq_false_iff f.streamId).mpr hid]
    rfl
  | unknown g hg hty htr =>
    obtain rfl := Except.ok.inj (hdec.symm.trans hg)
    cases hty' : f.type with
    | syn => exact absurd hty' hty
    | data | windowUpdate | fin | rst => simp [Session.refuses, hty', htr]
  | overrun g st hg hty htr hover =>
    obtain rfl := Except.ok.inj (hdec.symm.trans hg)
    exact (refuses_data_iff hty htr (remoteClosed_iff_of_tracked htr).1).mpr (.inr hover)
  | afterFin g st hg hty htr hfin =>
    obtain rfl := Except.ok.inj (hdec.symm.trans hg)
    obtain ⟨hr, hrc⟩ := remoteClosed_iff_of_tracked htr
    exact (refuses_data_iff hty htr hr).mpr (.inl (hrc.mpr hfin))

/-- What is no frame is discarded if it has a header, and ends the session if not. -/
theorem discarded_iff_of_error {err : FrameError}
    (hdec : Frame.decode message config.maxFramePayload = .error err) :
    Discarded role config es message ↔ err.isFatal = false := by
  constructor
  · intro h
    cases h with
    | malformed header =>
      rw [Bool.eq_false_iff]
      intro hfatal
      exact absurd header (Nat.not_le_of_lt (Frame.truncated_of_isFatal hdec hfatal).1)
    | syn f hf | unknown f hf | overrun f st hf | afterFin f st hf => rw [hdec] at hf; cases hf
  · intro hfatal
    refine .malformed (Nat.le_of_not_lt fun hshort => ?_) fun f hf => by rw [hdec] at hf; cases hf
    rw [Frame.decode_of_short hshort] at hdec
    cases hdec
    cases hfatal

/-- In every session that can be met, these are the reasons for which it throws a message away. -/
theorem throwsAway_iff :
    ((make role config).after es).throwsAway message = true ↔ Discarded role config es message := by
  rw [throwsAway, config_after]
  cases hdec : Frame.decode message config.maxFramePayload with
  | ok f => exact ⟨discarded_of_refuses hdec, fun h => h.refuses hdec⟩
  | error err => rw [discarded_iff_of_error hdec, Bool.not_eq_true']

/-! ## The counters -/

theorem step_unheard (h : ∀ message, e ≠ .message message) :
    (s.step e).state.stats.framesReceived = s.stats.framesReceived ∧
      (s.step e).state.stats.bytesReceived = s.stats.bytesReceived ∧
      (s.step e).state.stats.framesDropped = s.stats.framesDropped := by
  cases e with
  | message message => exact absurd rfl (h message)
  | sent f => exact ⟨rfl, rfl, rfl⟩
  | call | connectionEnded | connectionFailed =>
    have hpassed := step_passed (s := s) h (by simp)
    simp only [passed, Prod.mk.injEq] at hpassed
    exact ⟨hpassed.2.2.1, hpassed.2.2.2, step_dropped (by simp)⟩

theorem step_heard (s : Session) (message : Bytes) :
    (s.step (.message message)).state.stats.framesReceived = s.stats.framesReceived + 1 ∧
      (s.step (.message message)).state.stats.bytesReceived =
        s.stats.bytesReceived + message.length ∧
      (s.step (.message message)).state.stats.framesDropped =
        s.stats.framesDropped + if s.throwsAway message then 1 else 0 := by
  have hpassed := message_passed (s := s) message
  simp only [passed, Prod.mk.injEq] at hpassed
  exact ⟨hpassed.2.2.1, hpassed.2.2.2, message_dropped message⟩

theorem framesDropped_le_step (e : Event) (h : s.stats.framesDropped ≤ s.stats.framesReceived) :
    (s.step e).state.stats.framesDropped ≤ (s.step e).state.stats.framesReceived := by
  by_cases hheard : ∃ message, e = .message message
  · obtain ⟨message, rfl⟩ := hheard
    obtain ⟨hreceived, -, hdropped⟩ := step_heard s message
    rw [hreceived, hdropped]
    split <;> omega
  · obtain ⟨hreceived, -, hdropped⟩ := step_unheard (e := e) fun message he => hheard ⟨message, he⟩
    rwa [hreceived, hdropped]

theorem framesDropped_le (role : Role) (config : Config) (es : List Event) :
    ((make role config).after es).stats.framesDropped ≤
      ((make role config).after es).stats.framesReceived := by
  induction es using List.reverseRecOn with
  | nil => exact Nat.le_refl 0
  | append_singleton es e ih =>
    rw [after_concat]
    exact framesDropped_le_step e ih

/-- Whatever has happened to a session, and also after its end: a message that the reader takes is
counted once as received, with its length, and once as dropped if there is a reason to; nothing
else moves these counters. The announced streams, to which a reason may refer, are those that were
admitted as long as the session is open. So no more messages were dropped than came, and the share
of those that were is at most one, in numbers and in doubles, as long as the counter of messages
fits a word. -/
theorem messages_accounted (role : Role) (config : Config) (es : List Event) :
    let s := (make role config).after es
    (∀ message,
      let stats := (s.step (.message message)).state.stats
      stats.framesReceived = s.stats.framesReceived + 1 ∧
      stats.bytesReceived = s.stats.bytesReceived + message.length ∧
      (Discarded role config es message → stats.framesDropped = s.stats.framesDropped + 1) ∧
      (¬ Discarded role config es message → stats.framesDropped = s.stats.framesDropped)) ∧
    (∀ e, (∀ message, e ≠ .message message) →
      let stats := (s.step e).state.stats
      stats.framesReceived = s.stats.framesReceived ∧ stats.bytesReceived = s.stats.bytesReceived ∧
      stats.framesDropped = s.stats.framesDropped) ∧
    (s.ended = none → announcedIds role config es = (make role config).admittedIds es) ∧
    s.stats.framesDropped ≤ s.stats.framesReceived ∧
    (s.stats.framesDropped : ℚ) / s.stats.framesReceived ≤ 1 ∧
    (s.stats.framesReceived < 2 ^ 64 → s.stats.dropRate ≤ 1) := by
  intro s
  have hle := framesDropped_le role config es
  refine ⟨fun message => ?_, fun e he => step_unheard he, announcedIds_eq_admittedIds, hle, ?_,
    Stats.dropRate_le_one hle⟩
  · obtain ⟨hreceived, hbytes, hdropped⟩ := step_heard s message
    refine ⟨hreceived, hbytes, fun h => ?_, fun h => ?_⟩
    · rw [hdropped, throwsAway_iff.mpr h, if_pos rfl]
    · rw [hdropped, if_neg fun ht => h (throwsAway_iff.mp ht), Nat.add_zero]
  · exact div_le_one_of_le₀ (Nat.cast_le.mpr hle) (Nat.cast_nonneg _)

/-- A FIN for a stream that nobody has opened. -/
def stranger : Bytes := (Frame.fin 2).encode

/-- It is dropped, and so is all that has come. -/
theorem messages_accounted_of_stranger :
    ((make .client ⟨4, 4, 50, 1⟩).step (.message stranger)).state.stats.framesDropped = 1 ∧
      ((make .client ⟨4, 4, 50, 1⟩).after [.message stranger]).stats.dropRate ≤ 1 := by
  obtain ⟨heard, -⟩ := messages_accounted .client ⟨4, 4, 50, 1⟩ []
  obtain ⟨-, -, hdropped, -⟩ := heard stranger
  obtain ⟨-, -, -, -, -, hrate⟩ := messages_accounted .client ⟨4, 4, 50, 1⟩ [.message stranger]
  exact ⟨hdropped (.unknown (.fin 2) rfl (by decide) rfl), hrate (by decide)⟩

end StreamMux.Session

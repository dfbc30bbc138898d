/-
What a message that is no frame does. Only one that is too short for a header ends the
session. Any other is dropped, and nothing else changes unless its header names DATA of a
stream that the session tracks: that stream has lost bytes, so it is aborted, or only
forgotten if it had closed before.
-/
import StreamMux.Proofs.Codec
import StreamMux.Proofs.DataOutcome
import StreamMux.Proofs.Teardown

namespace StreamMux

namespace Frame

variable {message : Bytes} {max id : UInt32} {err : FrameError}

/-! ## What an error says -/

/-- The message has the header of DATA for the stream `id`: the type byte, then the id with its
most significant byte first. -/
def NamesData (message : Bytes) (id : UInt32) : Prop :=
  headerSize ≤ message.length ∧ message.head? = some 1 ∧
    numberOf ((message.drop 1).take 4) = id.toNat

theorem namesData_iff :
    NamesData message id ↔
      ∃ declared payload, splitHeader? message = some
        (⟨FrameType.data.toByte, id, declared⟩, payload) := by
  cases hsplit : splitHeader? message with
  | none =>
    have hshort := splitHeader?_eq_none_iff.mp hsplit
    simp only [NamesData, reduceCtorEq, exists_false, iff_false, not_and]
    intro hlong
    omega
  | some split =>
    obtain ⟨⟨typeByte, streamId, declared⟩, payload⟩ := split
    obtain rfl := encode_of_splitHeader? hsplit
    have hid : numberOf (bigEndian streamId) = streamId.toNat := numberOf_bigEndian streamId
    have hlength := length_bigEndian streamId
    simp only [NamesData, List.length_cons, List.length_append, length_bigEndian, headerSize,
      List.head?_cons, Option.some.injEq, List.drop_succ_cons, List.drop_zero, List.append_assoc,
      List.take_left' hlength, hid, UInt32.toNat_inj, Prod.mk.injEq, Header.mk.injEq]
    constructor
    · rintro ⟨-, rfl, rfl⟩
      exact ⟨declared, payload, ⟨rfl, rfl, rfl⟩, rfl⟩
    · rintro ⟨_, _, ⟨rfl, rfl, -⟩, -⟩
      exact ⟨by omega, rfl, rfl⟩

theorem isFatal_iff (h : decode message max = .error err) : err.isFatal = true ↔
    message.length < headerSize := by
  constructor
  · exact fun hfatal => (truncated_of_isFatal h hfatal).1
  · intro hshort
    rw [decode_of_short hshort] at h
    cases h
    rfl

theorem damagedStream?_eq_some_iff (h : decode message max = .error err) :
    err.damagedStream? = some id ↔ NamesData message id := by
  rw [namesData_iff]
  constructor
  · exact splitHeader?_of_damaged h
  · rintro ⟨declared, payload, hsplit⟩
    rw [decode_of_data hsplit] at h
    split at h
    · cases h
      rfl
    split at h
    · cases h
    · cases h
      rfl

end Frame

namespace Session

variable {role : Role} {config : Config} {s : Session} {st : Stream} {id : UInt32} {message : Bytes}
  {err : FrameError}

/-! ## What a session does about it -/

theorem step_of_harmless (hdec : Frame.decode message s.config.maxFramePayload = .error err)
    (hheader : Frame.headerSize ≤ message.length)
    (hd : ∀ id, Frame.NamesData message id → s.tracked? id = none) :
    (s.step (.message message)).frames = [] ∧
      (s.step (.message message)).state =
        { s with stats := (s.stats.received message.length).dropped } ∧
      s.stats.Took (s.step (.message message)).state.stats message.length 1 0 := by
  have hfatal : err.isFatal = false := by
    rw [← Bool.not_eq_true, Frame.isFatal_iff hdec]
    omega
  rw [step_of_error hdec]
  obtain ⟨hsilent, hstate⟩ := onMalformed_of_unknown
    (s := { s with stats := s.stats.received message.length }) hfatal
    fun id hid => hd id ((Frame.damagedStream?_eq_some_iff hdec).mp hid)
  refine ⟨hsilent.1, hstate, ?_⟩
  show s.stats.Took (Session.onMalformed _ err).state.stats message.length 1 0
  rw [hstate]
  exact (s.stats.took_received message.length).dropped

theorem took_of_short (hdec : Frame.decode message s.config.maxFramePayload = .error err)
    (hshort : message.length < Frame.headerSize) :
    s.stats.Took (s.step (.message message)).state.stats message.length 0 0 := by
  rw [step_of_error hdec]
  simp only [Outcome.as, onMalformed, (Frame.isFatal_iff hdec).mpr hshort, if_true]
  rw [distant_stats.terminate]
  exact s.stats.took_received message.length

theorem step_of_harmful (wf : s.WellFormed) (hst : s.tracked? id = some st)
    (hdec : Frame.decode message s.config.maxFramePayload = .error err)
    (hd : Frame.NamesData message id) :
    s.Punishes message st := by
  have hdamaged := (Frame.damagedStream?_eq_some_iff hdec).mpr hd
  have hfatal := Frame.isFatal_of_header (Frame.headerStream?_of_damaged hdec hdamaged) hdec
  exact step_of_damaged wf hst hdec hfatal hdamaged

/-- Messages that are no frames. An error is fatal exactly if there is no complete header, and it
names a stream exactly if the header is that of its DATA. So in every open session that can be
met, such a message ends the session, over the protocol, exactly if it has no header. If it has
one it is dropped and counted, and the streams, the queue and all else stay as they are, unless
the session tracks the stream whose DATA it was: then that stream is aborted with an RST, or, had
it closed before, forgotten without a word. -/
theorem damage_confined :
    (∀ (message : Bytes) (max : UInt32) (err : FrameError), Frame.decode message max = .error err →
      (err.isFatal = true ↔ message.length < Frame.headerSize) ∧
      ∀ id, err.damagedStream? = some id ↔ Frame.NamesData message id) ∧
    ∀ (role : Role) (config : Config) (s : Session) (message : Bytes) (err : FrameError),
      Reachable role config s → s.ended = none →
      Frame.decode message config.maxFramePayload = .error err →
      let o := s.step (.message message)
      let counted := (s.stats.received message.length).dropped
      ((∃ text, o.state.ended = some (.protocol text)) ↔ message.length < Frame.headerSize) ∧
      (message.length < Frame.headerSize → s.stats.Took o.state.stats message.length 0 0) ∧
      (Frame.headerSize ≤ message.length →
        o.state.ended = none ∧
        ((∀ id, Frame.NamesData message id → s.tracked? id = none) →
          o.frames = [] ∧ o.state = { s with stats := counted } ∧
          s.stats.Took o.state.stats message.length 1 0) ∧
        ∀ id st, Frame.NamesData message id → s.tracked? id = some st →
          (st.phase ≠ .closed → ∃ st',
            st'.id = id ∧ st'.phase = .reset ∧ st'.unread = [] ∧ st'.tracked = false ∧
            o.frames = [.rst id] ∧ o.state = { s.put st' with stats := counted.reset } ∧
            s.stats.Took o.state.stats message.length 1 1) ∧
          (st.phase = .closed →
            o.frames = [] ∧ o.state = { s.put { st with tracked := false } with stats := counted } ∧
            s.stats.Took o.state.stats message.length 1 0)) := by
  refine ⟨fun message max err h => ⟨Frame.isFatal_iff h,
    fun id => Frame.damagedStream?_eq_some_iff h⟩, ?_⟩
  intro role config s message err hs hopen hdec o counted
  obtain ⟨es, rfl⟩ := hs.exists_run
  have wf := wellFormed_after role config es
  have hdec : Frame.decode message ((make role config).after es).config.maxFramePayload =
      .error err := by
    rw [config_after]
    exact hdec
  have hended : o.state.ended = _ := ended_step wf (.message message)
  rw [hopen, Option.none_or, Event.ends?] at hended
  refine ⟨?_, took_of_short hdec, fun hheader => ⟨?_, step_of_harmless hdec hheader, ?_⟩⟩
  · by_cases hshort : message.length < Frame.headerSize
    · rw [if_pos hshort] at hended
      exact ⟨fun _ => hshort, fun _ => ⟨_, hended⟩⟩
    · rw [if_neg hshort] at hended
      simp [hended, hshort]
  · rw [hended, if_neg (Nat.not_lt.mpr hheader)]
  · intro id st hnames hst
    obtain ⟨rfl, hfind, htracked⟩ := tracked?_eq_some wf hst
    have hr := (wf.sound st (mem_of_find? hfind)).reset_eq_none htracked
    have hpunished := step_of_harmful wf hst hdec hnames
    exact ⟨hpunished.of_live hr, hpunished.of_closed hr⟩

/-- DATA of stream 1 that is a byte short. -/
def cutData : Bytes := (Frame.data 1 [7, 8]).encode.dropLast

/-- A stream that is open when it comes is aborted with it. -/
theorem damage_confined_of_cut_data :
    ((make .server ⟨4, 4, 50, 1⟩).step (.message (Frame.syn 1).encode)).state.tracked? 1 =
        some (.make 1 ⟨4, 4, 50, 1⟩ .unclaimed) ∧
      Frame.NamesData cutData 1 ∧
      (((make .server ⟨4, 4, 50, 1⟩).step (.message (Frame.syn 1).encode)).state.step
        (.message cutData)).frames = [.rst 1] := by
  have hs : Reachable .server ⟨4, 4, 50, 1⟩
      ((make .server ⟨4, 4, 50, 1⟩).step (.message (Frame.syn 1).encode)).state :=
    .step _ .start
  have hdec : Frame.decode cutData 4 = .error (.lengthMismatch .data 1 2 1) := rfl
  obtain ⟨errors, confined⟩ := damage_confined
  have hnames : Frame.NamesData cutData 1 := ((errors cutData 4 _ hdec).2 1).mp rfl
  obtain ⟨-, -, hheader⟩ := confined _ _ _ cutData _ hs rfl hdec
  obtain ⟨-, -, harmed⟩ := hheader (by decide)
  obtain ⟨st', -, -, -, -, hframes, -⟩ := (harmed 1 _ hnames rfl).1 (by decide)
  exact ⟨rfl, hnames, hframes⟩

end Session
end StreamMux

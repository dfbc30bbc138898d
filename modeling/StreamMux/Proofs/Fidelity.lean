/-
What an application reads of a stream, whatever the peer sends: the DATA that
came before the first FIN and while the stream was not aborted, in that order,
up to some point; to the end of it if the end of the stream is reported. There
are no holes: a message that was DATA of the stream by its header and that the
stream could not take aborts it, and nothing is read from it any more.
-/
import StreamMux.Proofs.Inbound

namespace StreamMux

namespace Stream

variable {s s' : Stream} {maxPayload : UInt32} {e : Session.Event} {t u : Traffic} {fs : List Frame}
  {message : Bytes} {cause : ResetCause}

/-- Frames count as long as the stream is not aborted. -/
def counts (s : Stream) (_ : Frame) : Bool := s.reset.isNone

theorem fault_of_discardsData {id : UInt32} (h : cause.discardsData = true) :
    cause.fault id = .streamReset id := by
  cases cause with
  | teardown => cases h
  | here | peer | violation => rfl

/-! ## One step -/

/-- Nothing is read from a stream that was aborted for other reasons than the end of the session. -/
theorem Step.returned_of_discarded (h : s.Step maxPayload e u s')
    (hr : s.reset.filter (·.discardsData) ≠ none) :
    u.returned = [] := by
  cases h with
  | read _ _ _ hkept => exact absurd hkept hr
  | _ => rfl

/-- An aborted stream of an ended session takes nothing in. -/
theorem Step.got_of_teardown {fault : Fault} (h : s.Step maxPayload e u s') (hs : s.Sound)
    (hr : s.reset = some (.teardown fault)) : u.got = [] := by
  have htracked : s.tracked = false := by
    cases ht : s.tracked with
    | false => rfl
    | true => rw [hs.reset_eq_none ht] at hr; cases hr
  cases h with
  | unheeded _ _ _ hd => exact absurd hr (hd fault)
  | data _ _ _ ht | emptyData _ _ _ ht | dataForNobody _ _ _ ht | accused ht | windowUpdate _ _ _ ht
  | fin _ _ _ ht
  | rst _ _ _ ht => rw [htracked] at ht; cases ht
  | _ => rfl

/-! ## Every step so far -/

/-- The reads of a stream against the frames that count. -/
structure Faithful (s : Stream) (t : Traffic) (counted : List Frame) : Prop where
  /-- As long as nothing is thrown away, all frames count. -/
  all : s.reset.filter (·.discardsData) = none → counted = t.got
  returned : t.returned <+: payloads (beforeFin counted)

theorem Faithful.step (h : s.Faithful t fs) (hs : s.Sound) (hi : s'.Inbound (t ++ u))
    (hstep : s.Step maxPayload e u s') : s'.Faithful (t ++ u) (fs ++ u.got.filter s.counts) := by
  -- The frames that count are all there are, unless the stream has thrown something away before.
  have whole (hall : fs ++ u.got.filter s.counts = (t ++ u).got) :
      s'.Faithful (t ++ u) (fs ++ u.got.filter s.counts) := by
    rw [hall]
    exact ⟨fun _ => rfl, hi.returned⟩
  cases hr : s.reset with
  | none =>
    refine whole ?_
    have hcounts : s.counts = fun _ => true := by
      funext f
      simp [counts, hr]
    rw [hcounts, List.filter_eq_self.mpr fun _ _ => rfl, h.all (by rw [hr]; rfl),
      Traffic.got_append]
  | some cause =>
    have hnone : u.got.filter s.counts = [] := by
      rw [List.filter_eq_nil_iff]
      intro f _
      simp [counts, hr]
    cases hd : cause.discardsData with
    | false =>
      obtain ⟨fault, rfl⟩ : ∃ fault, cause = .teardown fault := by
        cases cause with
        | teardown fault => exact ⟨fault, rfl⟩
        | here | peer | violation => cases hd
      refine whole ?_
      rw [hnone, h.all (by rw [hr]; rfl), Traffic.got_append, hstep.got_of_teardown hs hr]
    | true =>
      have hdiscarded : s.reset.filter (·.discardsData) ≠ none := by simp [hr, hd]
      refine ⟨fun hkept => ?_, ?_⟩
      · rw [hstep.reset_of_reset hr] at hkept
        simp [hd] at hkept
      · rw [hnone, List.append_nil, Traffic.returned_append, hstep.returned_of_discarded hdiscarded,
          List.append_nil]
        exact h.returned

theorem Faithful.torn (h : s.Faithful t fs) (fault : Fault) :
    (Session.tornDown fault s).Faithful t fs := by
  refine ⟨fun hkept => h.all ?_, h.returned⟩
  cases hr : s.reset with
  | none => rfl
  | some cause => rwa [reset_tornDown (by simp [hr]), hr] at hkept

end Stream

namespace Session

variable {s : Session} {role : Role} {config : Config} {id : UInt32} {es before later : List Event}
  {st : Stream} {message : Bytes}

/-! ## Reads -/

/-- The bytes that read calls returned from the stream `id`. -/
def bytesRead (s : Session) (id : UInt32) (es : List Event) : Bytes :=
  (s.trace es).flatMap fun answer => returnedBy id answer.1 answer.2

/-- The frames that came for the stream `id` while it was there and not aborted. -/
def arrivals (s : Session) (id : UInt32) (es : List Event) : List Frame :=
  s.gotWhile Stream.counts id es

theorem arrivals_append :
    s.arrivals id (before ++ later) = s.arrivals id before ++ (s.after before).arrivals id later :=
      gotWhile_append _

theorem bytesRead_eq : s.bytesRead id es = (s.traffic id es).returned := returned_traffic.symm

theorem bytesRead_concat {e : Event} :
    s.bytesRead id (es ++ [e]) = s.bytesRead id es ++
      returnedBy id e ((s.after es).step e).result := by
  simp [bytesRead, trace_append, trace]

theorem faithful (h : ((make role config).after es).find? id = some st) :
    st.Faithful ((make role config).traffic id es) ((make role config).arrivals id es) := by
  have hboth : st.Inbound ((make role config).traffic id es) ∧
      st.Faithful ((make role config).traffic id es) ((make role config).arrivals id es) := by
    refine stream_induction_while (P := fun st t fs => st.Inbound t ∧ st.Faithful t fs)
      Stream.counts
      (throughout_of_forall (Q := fun _ _ => True) fun _ _ => trivial) (fun _ => ?_) (fun _ => ?_)
        (fun _ => ?_) ?_ ?_ h
    · exact ⟨.make, fun _ => rfl, List.prefix_rfl⟩
    · exact ⟨.make, fun _ => rfl, List.prefix_rfl⟩
    · exact ⟨.refused, fun _ => rfl, List.prefix_rfl⟩
    · rintro s st st' e t u fs wf - hfind - hst ⟨hi, hf⟩
      have hs := wf.sound st (mem_of_find? hfind)
      exact ⟨hi.step hs hst, hf.step hs (hi.step hs hst) hst⟩
    · rintro st t fs fault hs ⟨hi, hf⟩
      exact ⟨hi.torn hs fault, hf.torn fault⟩
  exact hboth.2

/-- A read that reports the end of the stream comes after FIN, and all else has been read. -/
theorem bytesRead_of_eof {room : Nat} {expired : Bool} (hroom : 0 < room)
    (h : (((make role config).after es).step (.call (.read id room expired))).result =
      .got (.ready (.ok []))) :
    Carries .fin ((make role config).arrivals id es) ∧
      (make role config).bytesRead id es = payloads
        (beforeFin ((make role config).arrivals id es)) := by
  obtain ⟨st, hfind, hheld, hclosed, hkept, hunread⟩ :=
    eof_of_read (wellFormed_after role config es) hroom h
  have hi := inbound hfind
  have hall := (faithful hfind).all hkept
  have hwhole := hi.whole hkept (by rw [hheld]; simp)
  rw [hunread, List.append_nil] at hwhole
  rw [hall, bytesRead_eq]
  exact ⟨hi.fin hclosed, hwhole⟩

/-! ## Lost DATA -/

theorem find?_onLostData (hd : s.DistinctIds) (h : s.find? st.id = some st)
    (hg : s.tracked? st.id = some st) :
    (s.onLostData st.id).state.find? st.id = some (st.aborted .violation) := by
  simp only [onLostData, hg]
  exact find?_resetStream hd h .violation

theorem find?_onMalformed (hd : s.DistinctIds) (h : s.find? st.id = some st)
    (hg : s.tracked? st.id = some st)
    {err : FrameError} (hfatal : err.isFatal = false) (hdamaged : err.damagedStream? = some st.id) :
    (s.onMalformed err).state.find? st.id = some (st.aborted .violation) := by
  rw [(onMalformed_of_damaged hfatal hdamaged).2.1]
  exact find?_onLostData hd h hg

theorem find?_onViolation (hd : s.DistinctIds) (h : s.find? st.id = some st)
    (hg : s.tracked? st.id = some st)
    {payload : Bytes} {v : Violation} (hv : st.receive payload = (.violation v, st)) :
    (s.onData st.id payload).state.find? st.id = some (st.aborted .violation) := by
  simp only [onData, hg, hv, put_self hd h]
  exact find?_resetStream (s := { s with stats := s.stats.dropped }) hd h .violation

/-- Three bytes in two messages, read in pieces of another size. -/
def readToEnd : List Event :=
  [.message (Frame.syn 1).encode, .call (.accept 0), .message (Frame.data 1 [7, 8]).encode,
    .call (.read 1 1 false),
    .message (Frame.data 1 [9]).encode, .message (Frame.fin 1).encode, .call (.read 1 4 false)]

/-- One byte that has come and is not read. -/
def unreadByte : List Event :=
  [.message (Frame.syn 1).encode, .call (.accept 0), .message (Frame.data 1 [7]).encode]

/-- DATA that says it has two bytes and has one. -/
def cutShort : Bytes := (Frame.data 1 [8, 9]).encode.dropLast

end Session
end StreamMux

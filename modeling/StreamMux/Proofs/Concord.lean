/-
Two ends of one configuration never find fault with each other, whatever the
applications do and whatever order frames are written and read in, and also when
the connection is cut: a stream is aborted because an application asked for it,
because it was refused, or because the session it is in is over; everything that
comes is a frame in its place; and what is thrown away has only crossed the end
of its stream.
-/
import StreamMux.Proofs.Announced
import StreamMux.Proofs.Dropped
import StreamMux.Proofs.Origin

namespace StreamMux

namespace Session

variable {s : Session} {role : Role} {config : Config} {es : List Event} {f : Frame}

/-- The session takes the frame for a breach of the rules: a SYN with an id the peer
may not open, or DATA beyond the window or behind FIN. -/
def FindsFault (s : Session) (f : Frame) : Prop :=
  f.type = .syn ∧ s.mayOpen f.streamId = false ∨
    f.type = .data ∧ ∃ st v, s.tracked? f.streamId = some st ∧
      (st.receive f.payload).1 = .violation v

theorem Welcome.not_findsFault (h : s.Welcome f) (wf : s.WellFormed) : ¬ s.FindsFault f := by
  rintro (⟨hty, hm⟩ | ⟨hty, st, v, htr, hv⟩)
  · rw [h.syn hty] at hm
    cases hm
  · rcases h.arrival wf hty htr with harr | ⟨credit, harr⟩ <;> rw [harr] at hv <;> cases hv

/-- The only breach of the rules that ends a session is a message that is too short. -/
theorem short_of_protocol {e : Event} {text : String} (h : e.ends? = some (.protocol text)) :
    ∃ message, e = .message message ∧ message.length < Frame.headerSize := by
  cases e with
  | message bytes =>
    simp only [Event.ends?] at h
    split at h
    next hshort => exact ⟨bytes, rfl, hshort⟩
    next => cases h
  | call c => cases c <;> cases h
  | connectionEnded | connectionFailed | sent => cases h

theorem ended_ne_protocol (hw : Throughout Expected (make role config) es) (text : String) :
    ((make role config).after es).ended ≠ some (.protocol text) := by
  induction es using List.reverseRecOn with
  | nil => exact nofun
  | append_singleton es e ih =>
    obtain ⟨hbefore, hnow⟩ := throughout_concat.mp hw
    have hturn := turn_of_step (wellFormed_after role config es) e
    rw [after_concat]
    have hold := ih hbefore
    generalize (((make role config).after es).step e).state = s' at hturn ⊢
    cases hturn with
    | @ended cause stats hopen hends =>
      intro hend
      obtain rfl : cause = .protocol text := Option.some.inj hend
      obtain ⟨message, rfl, hshort⟩ := short_of_protocol hends
      obtain ⟨f, hdec, _⟩ := hnow message rfl hopen
      rw [Frame.decode_of_short hshort] at hdec
      cases hdec
    | _ => exact hold

end Session

namespace Conversation

variable {config : Config} {es : Role → List Session.Event} {r : Role} {id : UInt32} {st : Stream}

/-- Why a stream is aborted: its session is over, this side did it, or the other side did and said
so. -/
theorem reset_cases (c : Conversation config es) (h : (sessionOf config es r).find? id = some st)
    (hr : st.reset ≠ none) : (sessionOf config es r).ended ≠ none ∨ st.reset = some .here ∨
      st.reset = some .peer ∧ ∃ st', (sessionOf config es r.other).find? id = some st' ∧
        st'.reset = some .here := by
  cases hcause : st.reset with
  | none => exact absurd hcause hr
  | some cause =>
  cases cause with
  | here => exact .inr (.inl rfl)
  | violation => exact absurd hcause (c.fair h).innocent
  | teardown fault => exact .inl (wellFormed.teardown st (Session.mem_of_find? h) fault hcause)
  | peer =>
    have hrst := c.carries_got h (by simp) ((inbound h).rst hcause)
    cases hother : (sessionOf config es r.other).find? id with
    | none =>
      rw [passed_eq_empty hother] at hrst
      exact absurd hrst carries_nil
    | some st' =>
      rcases (outbound hother).rst.mpr hrst with hhere | hviolation
      · exact .inr (.inr ⟨rfl, st', rfl, hhere⟩)
      · exact absurd hviolation (c.fair hother).innocent

end Conversation

namespace Link

open Session (Event messages)

variable {config : Config} {moves : List Move} {r : Role} {m : Move} {id : UInt32} {st : Stream}

theorem here_of_reset (h : (((make config).after moves).endOf r).session.find? id = some st)
    (hr : st.reset ≠ none) : (((make config).after moves).endOf r).session.ended ≠ none ∨
      ∃ r' st', (((make config).after moves).endOf r').session.find? id = some st' ∧
        st'.reset = some .here := by
  have hs := h
  rw [session_of_run] at hs ⊢
  rcases (conversation config moves).reset_cases hs hr with hended | hhere | ⟨_, st', hother, hhere⟩
  · exact .inl hended
  · exact .inr ⟨r, st, h, hhere⟩
  · refine .inr ⟨r.other, st', ?_, hhere⟩
    rw [session_of_run]
    exact hother

theorem cause_of_reset (h : (((make config).after moves).endOf r).session.find? id = some st)
    (hr : st.reset ≠ none) : (((make config).after moves).endOf r).session.ended ≠ none ∨
      ∃ before m later r', moves = before ++ m :: later ∧
        ((∃ st₀, ((make config).after before).Resets m r' id st₀) ∨
          ((make config).after before).Refuses m r' id) := by
  rcases here_of_reset h hr with hended | ⟨r', st', h', hhere⟩
  · exact .inl hended
  · obtain ⟨before, m, later, hmoves, habort⟩ := origin h' hhere
    refine .inr ⟨before, m, later, r', hmoves, ?_⟩
    rcases habort with ⟨st₀, hresets, _⟩ | ⟨hrefuses, _⟩
    · exact .inl ⟨st₀, hresets⟩
    · exact .inr hrefuses

theorem decodes_of_underWay {message : Bytes}
    (hm : message ∈ (((make config).after moves).endOf r.other).underWay) :
    ∃ f, Frame.decode message config.maxFramePayload = .ok f := by
  obtain ⟨read, way, lost, hsaid, _, hway, _⟩ := parcels config moves r
  rw [hway, List.mem_map] at hm
  obtain ⟨f, hf, rfl⟩ := hm
  exact ⟨f, Frame.decode_encode (legal_of_said (by rw [hsaid]; simp [hf]))⟩

theorem messages_of_legal {es : List Event} {fs : List Frame}
    (hlegal : ∀ f ∈ fs, f.Legal config.maxFramePayload)
    (hread : messages es = fs.map Frame.encode) : Session.framesRead config es = fs := by
  rw [Session.framesRead, hread, filterMap_decode hlegal]

theorem frame_of_underWay {message : Bytes} {rest : List Bytes} {f : Frame}
    (hw : (((make config).after moves).endOf r.other).underWay = message :: rest)
    (hdec : Frame.decode message config.maxFramePayload = .ok f) :
    message = f.encode ∧ ∃ read, messages (history config moves r) = read.map Frame.encode ∧
      Session.framesRead config (history config moves r) = read ∧
      read ++ [f] <+: said config (history config moves) r.other := by
  obtain ⟨read, g, rfl, hlegal, hlegals, hread, hnext⟩ := next_read hw
  rw [Frame.decode_encode hlegal] at hdec
  cases hdec
  exact ⟨rfl, read, hread, messages_of_legal hlegals hread, hnext⟩

theorem welcome_of_underWay {message : Bytes} {rest : List Bytes} {f : Frame}
    (hw : (((make config).after moves).endOf r.other).underWay = message :: rest)
    (hopen : (((make config).after moves).endOf r).session.ended = none)
    (hdec : Frame.decode message config.maxFramePayload = .ok f) :
    (((make config).after moves).endOf r).session.Welcome f := by
  obtain ⟨g, rfl, hlegal, hnext⟩ := next_heard hw hopen
  rw [Frame.decode_encode hlegal] at hdec
  cases hdec
  rw [session_of_run] at hopen ⊢
  exact (conversation config moves).welcome hnext hopen

/-- A SYN under way has a new id, also for an end that is open no more. -/
theorem mayOpen_of_underWay {message : Bytes} {rest : List Bytes} {f : Frame}
    (hw : (((make config).after moves).endOf r.other).underWay = message :: rest)
    (hdec : Frame.decode message config.maxFramePayload = .ok f) (hty : f.type = .syn) :
    (((make config).after moves).endOf r).session.mayOpen f.streamId = true := by
  obtain ⟨-, read, -, hframes, hnext⟩ := frame_of_underWay hw hdec
  have howns := Session.owns_of_syn (hnext.subset (by simp)) hty
  have hzero : f.streamId ≠ 0 := by
    intro hz
    rw [hz, Role.not_owns_zero] at howns
    cases howns
  rw [session_of_run]
  refine (Session.mayOpen_iff_announced r config _ f.streamId).mpr
    ⟨hzero, by simpa [Role.owns_other hzero] using howns, fun i hi => ?_⟩
  -- An id that was announced is that of a SYN that was read, and so was said before this one.
  obtain ⟨g, hg, hsyn, rfl⟩ := Session.mem_announcedIds hi
  rw [hframes] at hg
  have hsorted := (Session.syns_sorted r.other config (history config moves r.other)).sublist
    hnext.sublist
  exact (List.pairwise_append.mp hsorted).2.2 g hg f (by simp) hsyn hty

theorem not_findsFault {message : Bytes} {rest : List Bytes} {f : Frame}
    (hw : (((make config).after moves).endOf r.other).underWay = message :: rest)
    (hdec : Frame.decode message config.maxFramePayload = .ok f) :
    ¬ (((make config).after moves).endOf r).session.FindsFault f := by
  have wf := wellFormed config moves r
  by_cases hopen : (((make config).after moves).endOf r).session.ended = none
  · exact (welcome_of_underWay hw hopen hdec).not_findsFault wf
  · rintro (⟨hty, hm⟩ | ⟨-, st, v, htr, -⟩)
    · rw [mayOpen_of_underWay hw hdec hty] at hm
      cases hm
    · -- A session that has ended tracks no stream.
      obtain ⟨-, hfind, ht⟩ := Session.tracked?_eq_some wf htr
      rw [wf.untracked hopen st (Session.mem_of_find? hfind)] at ht
      cases ht

/-! ## What is thrown away -/

/-- The end `r` took the SYN of the stream from the connection when its session was over. -/
def SynAfterEnd (config : Config) (moves : List Move) (r : Role) (id : UInt32) : Prop :=
  ∃ before later rest, moves = before ++ .read r :: later ∧
    (((make config).after before).endOf r).session.ended ≠ none ∧
    (((make config).after before).endOf r.other).underWay = (Frame.syn id).encode :: rest

/-- A frame other than SYN for a stream that an end does not have comes behind a SYN that was
read. -/
theorem syn_of_unknown {message : Bytes} {rest : List Bytes} {f : Frame}
    (hw : (((make config).after moves).endOf r.other).underWay = message :: rest)
    (hdec : Frame.decode message config.maxFramePayload = .ok f) (hty : f.type ≠ .syn)
    (hfind : (((make config).after moves).endOf r).session.find? f.streamId = none) :
    (Frame.syn f.streamId).encode ∈ messages (history config moves r) := by
  obtain ⟨-, read, hread, -, hnext⟩ := frame_of_underWay hw hdec
  have hsaid : f ∈ said config (history config moves) r.other := hnext.subset (by simp)
  obtain ⟨st', hst'⟩ := Session.stream_of_frame hsaid
  rw [session_of_run] at hfind
  have howns : r.other.owns f.streamId = true := by
    cases ho : r.other.owns f.streamId with
    | true => rfl
    | false =>
      obtain ⟨st, hst⟩ := (conversation config moves).mirror hst' ho
      rw [Role.other_other, hfind] at hst
      cases hst
  obtain ⟨more, hsent, -⟩ := (Conversation.outbound hst').opens
  rw [howns, Session.find?_id hst', Conversation.sent_eq] at hsent
  have hp := hnext.filter (·.streamId == f.streamId)
  rw [hsent, List.filter_append] at hp
  cases hsyns : read.filter (·.streamId == f.streamId) with
  | nil =>
    -- The stream would begin with this frame.
    rw [hsyns] at hp
    simp only [Stream.opening, beq_self_eq_true, List.filter_cons_of_pos, List.filter_nil, if_true,
      List.nil_append, List.singleton_append, List.cons_prefix_cons] at hp
    exact absurd (by rw [hp.1]; rfl) hty
  | cons g others =>
    rw [hsyns] at hp
    simp only [Stream.opening, if_true, List.cons_append, List.cons_prefix_cons] at hp
    have hg : g ∈ read := (List.mem_filter.mp (by rw [hsyns]; exact List.mem_cons_self)).1
    rw [hread, ← hp.1]
    exact List.mem_map_of_mem hg

theorem find?_of_read (later : List Move) {id : UInt32} {rest : List Bytes}
    (hopen : (((make config).after moves).endOf r).session.ended = none)
    (hw : (((make config).after moves).endOf r.other).underWay = (Frame.syn id).encode :: rest) :
    ∃ st, (((make config).after (moves ++ .read r :: later)).endOf r).session.find? id =
      some st := by
  have hdec : Frame.decode (Frame.syn id).encode config.maxFramePayload = .ok (.syn id) :=
    Frame.decode_encode rfl
  have hm : (((make config).after moves).endOf r).session.mayOpen id = true :=
    mayOpen_of_underWay hw hdec rfl
  obtain ⟨st, hst⟩ := Session.find?_of_syn (wellFormed config moves r) hopen
    (by rw [config_eq]; exact hdec) rfl hm
  have hstep := (act_of_step ((make config).after moves) (.read r)).session r
  rw [happens_read hw, only_self, Session.after, List.foldl_cons, List.foldl_nil] at hstep
  rw [← hstep, ← after_concat] at hst
  rw [List.append_cons, after_append, session_after]
  exact Session.find?_after _ (wellFormed config _ r) hst

theorem synAfterEnd_of_unknown {message : Bytes} {rest : List Bytes} {f : Frame}
    (hw : (((make config).after moves).endOf r.other).underWay = message :: rest)
    (hdec : Frame.decode message config.maxFramePayload = .ok f) (hty : f.type ≠ .syn)
    (hfind : (((make config).after moves).endOf r).session.find? f.streamId = none) :
    SynAfterEnd config moves r f.streamId := by
  obtain ⟨before, later, rest', rfl, hw'⟩ := read_of_message (syn_of_unknown hw hdec hty hfind)
  refine ⟨before, later, rest', rfl, fun hopen => ?_, hw'⟩
  obtain ⟨st, hst⟩ := find?_of_read later hopen hw'
  rw [hfind] at hst
  cases hst

theorem late_of_refuses {message : Bytes} {rest : List Bytes} {f : Frame}
    (hw : (((make config).after moves).endOf r.other).underWay = message :: rest)
    (hdec : Frame.decode message config.maxFramePayload = .ok f)
    (hr : (((make config).after moves).endOf r).session.refuses f = true) :
    (((make config).after moves).endOf r).session.Late f ∨
      f.type ≠ .syn ∧ (((make config).after moves).endOf r).session.find? f.streamId = none ∧
        SynAfterEnd config moves r f.streamId := by
  have wf := wellFormed config moves r
  by_cases hopen : (((make config).after moves).endOf r).session.ended = none
  · exact .inl ((welcome_of_underWay hw hopen hdec).late_of_refuses wf hr)
  · have hty : f.type ≠ .syn := by
      intro hty
      simp [Session.refuses, hty, mayOpen_of_underWay hw hdec hty] at hr
    cases hfind : (((make config).after moves).endOf r).session.find? f.streamId with
    | some st => exact .inl ⟨hty, st, hfind, wf.untracked hopen st (Session.mem_of_find? hfind)⟩
    | none => exact .inr ⟨hty, rfl, synAfterEnd_of_unknown hw hdec hty hfind⟩

/-- A move adds to what an end has thrown away only if it reads a late frame, or one for
a stream whose SYN it has read after its end. -/
theorem step_dropped (config : Config) (moves : List Move) (m : Move) (r : Role) :
    ((((make config).after moves).step m).2.endOf r).session.droppedCount =
        (((make config).after moves).endOf r).session.droppedCount ∨
      ((((make config).after moves).step m).2.endOf r).session.droppedCount =
          (((make config).after moves).endOf r).session.droppedCount + 1 ∧ m = .read r ∧
        ∃ f rest, (((make config).after moves).endOf r.other).underWay = f.encode :: rest ∧
          ((((make config).after moves).endOf r).session.Late f ∨
            f.type ≠ .syn ∧ (((make config).after moves).endOf r).session.find? f.streamId = none ∧
              SynAfterEnd config moves r f.streamId) := by
  have hact := act_of_step ((make config).after moves) m
  rw [hact.session r]
  rcases hact.event r with hnone | ⟨e, he, -⟩
  · rw [hnone]
    exact .inl rfl
  · rw [he]
    show (Session.step _ e).state.droppedCount = _ ∨ (Session.step _ e).state.droppedCount = _ ∧ _
    by_cases hmessage : ∃ message, e = .message message
    · obtain ⟨message, rfl⟩ := hmessage
      obtain ⟨hread, rest, hw⟩ := hact.message_inv (r := r) (by rw [he]; exact List.mem_cons_self)
      have hunderWay : message ∈ (((make config).after moves).endOf r.other).underWay := by
        rw [hw]
        exact List.mem_cons_self
      obtain ⟨f, hdec⟩ := decodes_of_underWay hunderWay
      obtain ⟨rfl, -⟩ := frame_of_underWay hw hdec
      refine (Session.dropped_of_ok (f := f) (by rw [config_eq]; exact hdec)).imp_right
        fun ⟨hmore, hr⟩ => ?_
      exact ⟨hmore, hread, f, rest, hw, late_of_refuses hw hdec hr⟩
    · exact .inl (Session.step_dropped fun message hm => hmessage ⟨message, hm⟩)

/-- In every run of two ends of one configuration: a stream is aborted only if one of
the applications reset it, its SYN was refused for want of room, or its session is
over; no session ends over a breach of the rules; all that is under way is frames, and
no end finds fault with the next one; and a message is thrown away only if it is a
frame other than SYN for a stream that the end had and has forgotten, or for one
that it never had because its session was over when it read the SYN. -/
theorem concord (config : Config) (moves : List Move) :
    (∀ r id st, (((make config).after moves).endOf r).session.find? id = some st →
      st.phase = .reset →
      (((make config).after moves).endOf r).session.ended ≠ none ∨
      ∃ before m later r', moves = before ++ m :: later ∧
        ((∃ st₀, ((make config).after before).Resets m r' id st₀) ∨
          ((make config).after before).Refuses m r' id)) ∧
    (∀ r text, (((make config).after moves).endOf r).session.ended ≠ some (.protocol text)) ∧
    (∀ r, (∀ message ∈ (((make config).after moves).endOf r.other).underWay,
        ∃ f, Frame.decode message config.maxFramePayload = .ok f) ∧
      ∀ message rest f, (((make config).after moves).endOf r.other).underWay = message :: rest →
        Frame.decode message config.maxFramePayload = .ok f →
        ¬ (((make config).after moves).endOf r).session.FindsFault f) ∧
    ∀ m r, ((((make config).after moves).step m).2.endOf r).session.droppedCount =
        (((make config).after moves).endOf r).session.droppedCount ∨
      ((((make config).after moves).step m).2.endOf r).session.droppedCount =
          (((make config).after moves).endOf r).session.droppedCount + 1 ∧ m = .read r ∧
        ∃ f rest, (((make config).after moves).endOf r.other).underWay = f.encode :: rest ∧
          ((((make config).after moves).endOf r).session.Late f ∨
            f.type ≠ .syn ∧ (((make config).after moves).endOf r).session.find? f.streamId = none ∧
              SynAfterEnd config moves r f.streamId) := by
  refine ⟨fun r id st h hphase => cause_of_reset h (st.phase_eq_reset_iff.mp hphase),
    fun r text => ?_,
    fun r => ⟨fun message => decodes_of_underWay, fun message rest f => not_findsFault⟩,
    step_dropped config moves⟩
  rw [session_of_run]
  exact Session.ended_ne_protocol ((conversation config moves).expected r) text

/-- A stream that its opener resets before the other end has read any of it. -/
def abandoned : List Move :=
  [.call .client .openStream, .call .client (.reset 1), .write .client, .write .client,
    .read .server, .read .server]

theorem concord_of_abandoned :
    ∃ before m later r', abandoned = before ++ m :: later ∧
      ((∃ st₀, ((make ⟨4, 4, 50, 1⟩).after before).Resets m r' 1 st₀) ∨
        ((make ⟨4, 4, 50, 1⟩).after before).Refuses m r' 1) :=
  ((concord ⟨4, 4, 50, 1⟩ abandoned).1 .server 1 _ rfl rfl).resolve_left fun hended => hended rfl

/-- The server closes with a SYN and a byte of DATA under way to it, and then reads both. -/
def closedTooSoon : List Move :=
  [.call .client .openStream, .call .client (.write 1 [7] false), .write .client, .write .client,
    .call .server .close, .read .server, .read .server]

/-- It throws the DATA away, of a stream that it never had. -/
theorem dropped_of_closedTooSoon :
    (⟨4, 4, 50, 1⟩ : Config).Valid ∧
      (((make ⟨4, 4, 50, 1⟩).after (closedTooSoon.take 6)).endOf .client).underWay =
      [(Frame.data 1 [7]).encode] ∧
      (((make ⟨4, 4, 50, 1⟩).after (closedTooSoon.take 6)).endOf .server).session.droppedCount = 0 ∧
      (((make ⟨4, 4, 50, 1⟩).after closedTooSoon).endOf .server).session.droppedCount = 1 ∧
      ∀ n ≤ 7, (((make ⟨4, 4, 50, 1⟩).after (closedTooSoon.take n)).endOf .server).session.find? 1 =
        none := by
  decide

end Link
end StreamMux

/-
What is left of a stream that is final: what had come and was not read yet can still
be read when both sides had finished or when the whole session went, and is lost when
the stream alone was aborted. Nothing that happens later changes that.
-/
import StreamMux.Proofs.Fidelity
import StreamMux.Proofs.Teardown

namespace StreamMux

namespace Stream

variable {a s s' : Stream} {maxPayload : UInt32} {e : Session.Event} {t u : Traffic}
  {message : Bytes} {cause : ResetCause}

/-- What reads of a final stream come to when nothing is left: the end of the stream if the
peer had finished, unless the stream alone was aborted. -/
def ending (s : Stream) : Except Fault Bytes :=
  match s.reset with
  | none => .ok []
  | some cause =>
    if s.remoteClosed && !cause.discardsData then .ok [] else .error (cause.fault s.id)

/-- What aborts the stream alone: the application asks for it, the peer does so, or the peer
is at fault. -/
inductive Struck (s : Stream) (maxPayload : UInt32) : Session.Event → ResetCause → Prop
  | here : s.handle = .held → Struck s maxPayload (.call (.reset s.id)) .here
  | peer {message f} : Frame.decode message maxPayload = .ok f → f.type = .rst → f.streamId = s.id →
    Struck s maxPayload (.message message) .peer
  | violation {message got} : s.Accusation maxPayload message got →
    Struck s maxPayload (.message message) .violation

theorem Struck.discardsData (h : s.Struck maxPayload e cause) : cause.discardsData = true := by
  cases h <;> rfl

/-! ## One step -/

/-- What has become of the final stream `a` after this traffic. It may have been accepted or
read from, or its handle may be gone. -/
structure Lasts (a s : Stream) (t : Traffic) : Prop where
  id : s.id = a.id
  reset : s.reset = a.reset
  localClosed : s.localClosed = a.localClosed
  remoteClosed : s.remoteClosed = a.remoteClosed
  unread : s.handle ≠ .dropped → t.returned ++ s.unread = a.unread

theorem Lasts.isTerminal (h : a.Lasts s t) (hterm : a.isTerminal = true) : s.isTerminal = true :=
  (isTerminal_congr h.reset h.localClosed h.remoteClosed).trans hterm

theorem Lasts.ending (h : a.Lasts s t) : s.ending = a.ending := by
  rw [Stream.ending, Stream.ending, h.reset, h.remoteClosed, h.id]

theorem Lasts.keep (h : a.Lasts s t) (hid : s'.id = s.id) (hr : s'.reset = s.reset)
    (hl : s'.localClosed = s.localClosed) (hrc : s'.remoteClosed = s.remoteClosed)
    (hreturned : u.returned = [])
    (hd : s'.handle ≠ .dropped → s.handle ≠ .dropped ∧ s'.unread = s.unread) :
    a.Lasts s' (t ++ u) := by
  refine ⟨hid.trans h.id, hr.trans h.reset, hl.trans h.localClosed, hrc.trans h.remoteClosed,
    fun hh => ?_⟩
  obtain ⟨hold, hunread⟩ := hd hh
  rw [Traffic.returned_append, hreturned, List.append_nil, hunread]
  exact h.unread hold

theorem Lasts.aborted (h : a.Lasts s t) (hterm : a.isTerminal = true) (hreturned : u.returned = [])
    (cause : ResetCause) : a.Lasts (s.aborted cause) (t ++ u) := by
  have hfinal := h.isTerminal hterm
  refine h.keep aborted_id ?_ aborted_localClosed aborted_remoteClosed hreturned fun hh => ⟨?_, ?_⟩
  · rw [aborted_reset, if_pos hfinal]
  · rwa [aborted_handle] at hh
  · rw [aborted_unread, hfinal, Bool.true_or, if_pos rfl]

/-- Only reads take something off a final stream, from the front of what is left. -/
theorem Lasts.step (h : a.Lasts s t) (hterm : a.isTerminal = true)
    (hst : s.Step maxPayload e u s') : a.Lasts s' (t ++ u) := by
  have hfinal := h.isTerminal hterm
  have closed (hr : s.reset = none) : s.localClosed = true ∧ s.remoteClosed = true :=
    closed_of_isTerminal hfinal hr
  cases hst with
  | still | readWaits | writeWaits | unheeded =>
    exact h.keep rfl rfl rfl rfl rfl fun hh => ⟨hh, rfl⟩
  | accept hu => exact h.keep rfl rfl rfl rfl rfl fun _ => ⟨by simp [hu], rfl⟩
  | @read room _ hh =>
    refine ⟨h.id, h.reset, h.localClosed, h.remoteClosed, fun _ => ?_⟩
    rw [Traffic.returned_append, settle_unread, afterRead_unread, drain_fst, List.append_assoc,
      List.take_append_drop]
    exact h.unread (by simp [hh])
  | reset | accused | rst => exact h.aborted hterm rfl _
  | dropAborted => exact h.keep rfl rfl rfl rfl rfl fun hh => absurd rfl hh
  | dropHandle _ hr => exact h.keep rfl rfl (closed hr).1.symm rfl rfl fun hh => absurd rfl hh
  | windowUpdate =>
    refine h.keep grant_id grant_reset grant_localClosed grant_remoteClosed rfl
      fun hh => ⟨?_, grant_unread⟩
    rwa [grant_handle] at hh
  | fin =>
    refine h.keep finish_id finish_reset finish_localClosed ?_ rfl fun hh => ⟨?_, finish_unread⟩
    · rw [settle_remoteClosed, finish_remoteClosed]
      cases hr : s.reset with
      | none => rw [(closed hr).2]; rfl
      | some _ => exact Bool.or_false _
    · rwa [settle_handle, finish_handle] at hh
  | write _ hr hl | closeWrite _ hr hl =>
    rw [(closed hr).1] at hl
    cases hl
  | data _ _ _ _ hr hrc | emptyData _ _ _ _ hr hrc | dataForNobody _ _ _ _ hr hrc =>
    rw [(closed hr).2] at hrc
    cases hrc

theorem Lasts.torn (h : a.Lasts s t) (hterm : a.isTerminal = true) (cause : Fault) :
    a.Lasts (Session.tornDown cause s) t := by
  refine Session.tornDown_of (P := (a.Lasts · t)) h ?_
  have haborted := h.aborted hterm (u := {}) rfl (.teardown cause)
  rwa [Traffic.append_empty] at haborted

end Stream

namespace Session

variable {s : Session} {st : Stream} {id : UInt32} {e : Event} {message : Bytes}
  {cause : ResetCause}

theorem find?_of_struck (wf : s.WellFormed) (h : s.find? st.id = some st)
    (hlive : st.isTerminal = false) (hstruck : st.Struck s.config.maxFramePayload e cause) :
    (s.step e).state.find? st.id = some (st.aborted cause) := by
  have hopen := wf.open_of_live h hlive
  have htracked := (wf.sound st (mem_of_find? h)).tracked_of_live hlive
  have counted (message : Bytes) :
      ({ s with stats := s.stats.received message.length } : Session).tracked? st.id = some st :=
    (tracked?_of_find? wf h).trans (if_pos htracked)
  cases hstruck with
  | here hheld =>
    have hh : s.held? st.id = some st := by
      rw [held?_eq wf.distinct, h, Option.filter_some, if_pos (by simpa using hheld)]
    simp only [step, call, onHeld, hh, Outcome.as, reset_state wf.distinct h]
    exact find?_put_aborted h .here
  | @peer message f hdec hty hid =>
    simp only [step_of_ok hdec, Outcome.as, onFrame, hty, hid, onRst, counted]
    exact find?_retire_abort (s := { s with stats := s.stats.received message.length })
      wf.distinct h .peer _
  | @violation message got haccused =>
    cases haccused with
    | violation hdec hty hid hv =>
      simp only [step_of_ok hdec, Outcome.as, onFrame, hty, hid]
      exact find?_onViolation (s := { s with stats := s.stats.received message.length }) wf.distinct
        h (counted message) (Stream.receive_of_violation hv)
    | lost hdec hdamaged =>
      simp only [step_of_error hdec, Outcome.as]
      exact find?_onMalformed (s := { s with stats := s.stats.received message.length }) wf.distinct
        h (counted message)
        (Frame.isFatal_of_header (Frame.headerStream?_of_damaged hdec hdamaged) hdec) hdamaged

/-! ## Reads and writes -/

/-- What a read with room answers: bytes if there are any, else the end of the stream, why it was
aborted, or nothing yet. -/
theorem read_result {room : Nat} {expired : Bool} (hroom : 0 < room) :
    (s.read st room expired).result =
      match st.reset.filter (·.discardsData) with
      | some cause => .ready (.error (cause.fault st.id))
      | none =>
        if st.buffered = 0 then
          if st.remoteClosed then .ready (.ok [])
          else match st.reset with
          | some cause => .ready (.error (cause.fault st.id))
          | none => if expired then .ready (.error .deadline) else .pending
        else .ready (.ok (st.unread.take room)) := by
  rw [← Stream.drain_fst]
  simp only [read]
  rw [if_neg (by omega)]
  cases st.reset.filter (·.discardsData) with
  | some cause => rfl
  | none =>
    by_cases hb : st.buffered = 0
    · simp only [hb, if_true]
      cases st.remoteClosed with
      | true => rfl
      | false => cases st.reset <;> rfl
    · simp only [hb, if_false]

theorem read_of_final {room : Nat} {expired : Bool} (wf : s.WellFormed) (h : s.find? id = some st)
    (hheld : s.held? id ≠ none) (hterm : st.isTerminal = true)
    (hkept : ∀ cause, st.reset = some cause → cause.discardsData = true → st.unread = [])
    (hroom : 0 < room) :
    (s.step (.call (.read id room expired))).result =
      .got (.ready (if st.unread = [] then st.ending else .ok (st.unread.take room))) := by
  have hunread : st.buffered = 0 ↔ st.unread = [] := by
    rw [(wf.sound st (mem_of_find? h)).buffered_eq, List.length_eq_zero_iff]
  simp only [step, call, onHeld, held?_of_find? wf.distinct h hheld, Outcome.as, read_result hroom,
    hunread, Stream.ending]
  cases hr : st.reset with
  | none =>
    simp only [Option.filter_none, (Stream.closed_of_isTerminal hterm hr).2, if_true]
    split <;> rfl
  | some cause =>
    cases hd : cause.discardsData with
    | true => simp [Option.filter_some, hd, hkept cause hr hd]
    | false =>
      simp only [Option.filter_some, hd, Bool.false_eq_true, if_false, Bool.not_false,
        Bool.and_true]
      split
      · split <;> rfl
      · rfl

theorem write_of_reset {bytes : Bytes} {expired : Bool} (wf : s.WellFormed)
    (h : s.find? id = some st) (hheld : s.held? id ≠ none) (hr : st.reset = some cause) :
    (s.step (.call (.write id bytes expired))).result =
      .wrote (.ready (.error (cause.fault id))) := by
  simp only [step, call, onHeld, held?_of_find? wf.distinct h hheld, Outcome.as, write, hr,
    find?_id h]

/-- From now on reads with room of the stream `id` return what is left, in order, and then come to
`last`. -/
def ReadsOut (s : Session) (id : UInt32) (left : Bytes) (last : Except Fault Bytes) : Prop :=
  ∀ later room expired, 0 < room → (s.after later).held? id ≠ none →
    ∃ rest, s.bytesRead id later ++ rest = left ∧
      ((s.after later).step (.call (.read id room expired))).result =
        .got (.ready (if rest = [] then last else .ok (rest.take room)))

/-- From now on writes on the stream `id` fail for this. -/
def WritesFail (s : Session) (id : UInt32) (fault : Fault) : Prop :=
  ∀ later bytes expired, (s.after later).held? id ≠ none →
    ((s.after later).step (.call (.write id bytes expired))).result = .wrote (.ready (.error fault))

theorem lasts_after (wf : s.WellFormed) (h : s.find? id = some st) (hterm : st.isTerminal = true)
    (later : List Event) :
    ∃ st', (s.after later).find? id = some st' ∧ st.Lasts st' (s.traffic id later) :=
  hereafter_of (P := st.Lasts) (fun _ _ _ _ _ _ _ hst hlasts => hlasts.step hterm hst)
    (fun _ _ cause hlasts => hlasts.torn hterm cause) later wf h ⟨rfl, rfl, rfl, rfl, fun _ => rfl⟩

theorem readsOut_of_final (wf : s.WellFormed) (h : s.find? id = some st)
    (hterm : st.isTerminal = true)
    (hkept : ∀ cause, st.reset = some cause → cause.discardsData = true → st.unread = []) :
    s.ReadsOut id st.unread st.ending := by
  intro later room expired hroom hheld
  obtain ⟨st', hst', hlasts⟩ := lasts_after wf h hterm later
  have wf' := wf.after later
  have hh : st'.handle = .held := by
    have hhave := held?_of_find? wf'.distinct hst' hheld
    rw [held?_eq wf'.distinct] at hhave
    simpa using (Option.filter_eq_some_iff.mp hhave).2
  have hunread := hlasts.unread (by simp [hh])
  refine ⟨st'.unread, by rw [bytesRead_eq]; exact hunread, ?_⟩
  rw [read_of_final wf' hst' hheld (hlasts.isTerminal hterm) ?_ hroom, hlasts.ending]
  intro cause hr hd
  rw [hlasts.reset] at hr
  rw [hkept cause hr hd] at hunread
  exact (List.append_eq_nil_iff.mp hunread).2

theorem writesFail_of_reset (wf : s.WellFormed) (h : s.find? id = some st)
    (hr : st.reset = some cause) : s.WritesFail id (cause.fault id) := by
  intro later bytes expired hheld
  obtain ⟨st', hst', hr'⟩ := reset_after later wf h hr
  exact write_of_reset (wf.after later) hst' hheld hr'

/-! ## The three ends of a stream -/

/-- The session went: what had come can still be read, and then reads find the end of the
stream or the cause. -/
theorem aftermath_of_end {cause : Fault} (wf : s.WellFormed) (h : s.find? id = some st)
    (hlive : st.isTerminal = false) (hended : (s.step e).state.ended = some cause) :
    (s.step e).state.ReadsOut id st.unread (if st.remoteClosed then .ok [] else .error cause) ∧
      (s.step e).state.WritesFail id cause := by
  have hid := find?_id h
  have htracked := (wf.sound st (mem_of_find? h)).tracked_of_live hlive
  have htorn := find?_of_end wf (wf.open_of_live (hid ▸ h) hlive) hended h
  rw [tornDown, if_pos htracked] at htorn
  have wf' := step_wellFormed wf e
  have hreset : (st.aborted (.teardown cause)).reset = some (.teardown cause) := by
    rw [Stream.aborted_reset, hlive]
    rfl
  have hunread : (st.aborted (.teardown cause)).unread = st.unread := by
    rw [Stream.aborted_unread, hlive]
    rfl
  have hending : (st.aborted (.teardown cause)).ending = if st.remoteClosed then .ok []
      else .error cause := by
    rw [Stream.ending, hreset, Stream.aborted_remoteClosed]
    cases st.remoteClosed <;> rfl
  have hreads := readsOut_of_final wf' htorn Stream.isTerminal_aborted fun cause' hr hd => by
    obtain rfl : .teardown cause = cause' := Option.some.inj (hreset.symm.trans hr)
    cases hd
  rw [hunread, hending] at hreads
  exact ⟨hreads, writesFail_of_reset wf' htorn hreset⟩

/-- The stream alone was aborted: nothing can be read or written any more. -/
theorem aftermath_of_struck (wf : s.WellFormed) (h : s.find? id = some st)
    (hlive : st.isTerminal = false) (hstruck : st.Struck s.config.maxFramePayload e cause) :
    (s.step e).state.ReadsOut id [] (.error (.streamReset id)) ∧
      (s.step e).state.WritesFail id (.streamReset id) := by
  obtain rfl := find?_id h
  have hgone := find?_of_struck wf h hlive hstruck
  have wf' := step_wellFormed wf e
  have hd := hstruck.discardsData
  have hreset : (st.aborted cause).reset = some cause := by rw [Stream.aborted_reset, hlive]; rfl
  have hunread : (st.aborted cause).unread = [] := by
    rw [Stream.aborted_unread, hlive, hd]
    rfl
  have hending : (st.aborted cause).ending = .error (.streamReset st.id) := by
    simp [Stream.ending, hreset, hd, Stream.fault_of_discardsData hd]
  have hreads := readsOut_of_final wf' hgone Stream.isTerminal_aborted fun _ _ _ => hunread
  have hwrites := writesFail_of_reset wf' hgone hreset
  rw [hunread, hending] at hreads
  rw [Stream.fault_of_discardsData hd] at hwrites
  exact ⟨hreads, hwrites⟩

/-- Both sides had finished: what had come can still be read, and nothing changes that. -/
theorem aftermath_of_closed (wf : s.WellFormed) (h : s.find? id = some st)
    (hclosed : st.phase = .closed) : s.ReadsOut id st.unread (.ok []) ∧
      ∀ later, ∃ st', (s.after later).find? id = some st' ∧ st'.phase = .closed := by
  have hterm : st.isTerminal = true := by simp [Stream.isTerminal, hclosed]
  have hr : st.reset = none := by
    by_contra hr
    rw [(Stream.phase_eq_reset_iff st).mpr hr] at hclosed
    cases hclosed
  have hending : st.ending = .ok [] := by rw [Stream.ending, hr]
  have hreads := readsOut_of_final wf h hterm fun cause hcause => by
    rw [hr] at hcause
    cases hcause
  rw [hending] at hreads
  refine ⟨hreads, fun later => ?_⟩
  obtain ⟨st', hst', hlasts⟩ := lasts_after wf h hterm later
  refine ⟨st', hst', ?_⟩
  rw [← hclosed, Stream.phase, Stream.phase, hlasts.reset, hlasts.localClosed, hlasts.remoteClosed]

/-! ## Any run -/

/-- Whatever the peer sends and the application asks for, before and later. If the session
ends while the stream is live, reads return what was unread just then and then the end of
the stream if the peer's FIN had been taken, else the cause, and writes fail with the cause.
If the stream alone is aborted while it is live, reads and writes fail for that. Once the
stream is closed it stays so, and reads return what was unread and then its end. -/
theorem aftermath (role : Role) (config : Config) (before : List Event) (id : UInt32) (st : Stream)
    (h : ((make role config).after before).find? id = some st) :
    (st.isTerminal = false →
      (∀ e cause, ((make role config).after (before ++ [e])).ended = some cause →
        ((make role config).after (before ++ [e])).ReadsOut id st.unread
            (if st.remoteClosed then .ok [] else .error cause) ∧
          ((make role config).after (before ++ [e])).WritesFail id cause) ∧
      (st.remoteClosed = true ↔ Carries .fin ((make role config).traffic id before).got) ∧
      ∀ e cause, st.Struck config.maxFramePayload e cause →
        ((make role config).after (before ++ [e])).ReadsOut id [] (.error (.streamReset id)) ∧
          ((make role config).after (before ++ [e])).WritesFail id (.streamReset id)) ∧
    (st.phase = .closed →
      ((make role config).after before).ReadsOut id st.unread (.ok []) ∧
        ∀ later, ∃ st', ((make role config).after (before ++ later)).find? id = some st' ∧
          st'.phase = .closed) := by
  have wf := wellFormed_after role config before
  simp only [after_concat]
  simp only [after_append]
  refine ⟨fun hlive => ⟨fun e cause => aftermath_of_end wf h hlive, ?_, fun e cause hstruck => ?_⟩,
    aftermath_of_closed wf h⟩
  · have hreset := (wf.sound st (mem_of_find? h)).reset_eq_none
      ((wf.sound st (mem_of_find? h)).tracked_of_live hlive)
    exact ⟨(inbound h).fin, (inbound h).finTaken hreset⟩
  · rw [← config_after role config before] at hstruck
    exact aftermath_of_struck wf h hlive hstruck

/-- Both sides have finished, and the byte that came is still unread. -/
def finishedUnread : List Event :=
  unreadByte ++ [.message (Frame.fin 1).encode, .call (.closeWrite 1)]

/-- The same byte, when the session is closed, when more DATA is lost, and when both sides have
finished. -/
theorem aftermath_of_unread_byte :
    (((make .server ⟨4, 4, 50, 1⟩).after (unreadByte ++ [.call .close])).step
      (.call (.read 1 4 false))).result =
        .got (.ready (.ok [7])) ∧
      (((make .server ⟨4, 4, 50, 1⟩).after (unreadByte ++ [.message cutShort])).step
        (.call (.read 1 4 false))).result =
        .got (.ready (.error (.streamReset 1))) ∧
      (((make .server ⟨4, 4, 50, 1⟩).after finishedUnread).step (.call (.read 1 4 false))).result =
        .got (.ready (.ok [7])) := by
  obtain ⟨hlive, -⟩ := aftermath .server ⟨4, 4, 50, 1⟩ unreadByte 1 _ rfl
  obtain ⟨hend, -, hstruck⟩ := hlive rfl
  obtain ⟨-, hclosed⟩ := aftermath .server ⟨4, 4, 50, 1⟩ finishedUnread 1 _ rfl
  obtain ⟨rest, hrest, hread⟩ :=
    (hend (.call .close) .sessionClosed rfl).1 [] 4 false (by decide) (by rintro ⟨⟩)
  obtain rfl : rest = [7] := hrest
  obtain ⟨hstruck, -⟩ := hstruck (.message cutShort) .violation (.violation (.lost rfl rfl))
  obtain ⟨none, hnone, hfails⟩ := hstruck [] 4 false (by decide) (by rintro ⟨⟩)
  obtain rfl : none = [] := hnone
  obtain ⟨whole, hwhole, hkept⟩ := (hclosed rfl).1 [] 4 false (by decide) (by rintro ⟨⟩)
  obtain rfl : whole = [7] := hwhole
  exact ⟨hread, hfails, hkept⟩

end Session
end StreamMux

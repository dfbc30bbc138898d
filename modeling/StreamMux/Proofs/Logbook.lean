/-
What the application at one end has had of a stream in the course of a run: its handle, the
bytes it had accepted and those it was given, and whether it has ended its direction. Only
its own calls on the stream change that, and in a calm run none of them fails. An
application that was told of the end of a stream has been given all that the other had
accepted, and the other has ended its direction.
-/
import StreamMux.Proofs.Alike
import StreamMux.Proofs.Answers
import StreamMux.Proofs.Calm
import StreamMux.Proofs.Delivery
import StreamMux.Proofs.Tracking

namespace StreamMux

namespace Stream

variable {s s' : Stream} {maxPayload : UInt32} {e : Session.Event} {t : Traffic}

/-- Only calls change the handle and end the local direction. -/
theorem Step.handle_localClosed (h : s.Step maxPayload e t s') (hclaimed : s.handle ≠ .unclaimed)
    (hclose : e ≠ .call (.closeWrite s.id)) (hdrop : e ≠ .call (.dropHandle s.id)) :
    s'.handle = s.handle ∧ s'.localClosed = s.localClosed := by
  cases h with
  | accept hu => exact absurd hu hclaimed
  | closeWrite => exact absurd rfl hclose
  | dropAborted | dropHandle => exact absurd rfl hdrop
  | windowUpdate => exact ⟨grant_handle, grant_localClosed⟩
  | fin => exact ⟨finish_handle, finish_localClosed⟩
  | reset | accused | rst => exact ⟨aborted_handle, aborted_localClosed⟩
  | _ => exact ⟨rfl, rfl⟩

/-- Nothing is done with a stream that has no handle. -/
theorem Step.of_unclaimed (h : s.Step maxPayload e t s') (hu : s.handle = .unclaimed) :
    s'.localClosed = s.localClosed ∧ t.wrote = [] ∧ t.returned = [] := by
  cases h with
  | readWaits hh | read hh | writeWaits hh | write hh | closeWrite hh | reset hh | dropAborted hh
  | dropHandle hh =>
    rw [hu] at hh
    cases hh
  | windowUpdate => exact ⟨grant_localClosed, rfl, rfl⟩
  | fin => exact ⟨finish_localClosed, rfl, rfl⟩
  | accused | rst => exact ⟨aborted_localClosed, rfl, rfl⟩
  | _ => exact ⟨rfl, rfl, rfl⟩

end Stream

namespace Session

variable {s : Session} {e : Event} {es : List Event} {id : UInt32} {st : Stream} {role : Role}
  {config : Config}

theorem tornDown_localClosed (cause : Fault) (st : Stream) :
    (tornDown cause st).localClosed = st.localClosed :=
  tornDown_of (P := fun st' => st'.localClosed = st.localClosed) rfl Stream.aborted_localClosed

theorem handle_localClosed_of_step (wf : s.WellFormed) (h : s.find? id = some st)
    (hclaimed : st.handle ≠ .unclaimed)
    (hclose : e ≠ .call (.closeWrite id)) (hdrop : e ≠ .call (.dropHandle id)) :
    ∃ st', (s.step e).state.find? id = some st' ∧ st'.handle = st.handle ∧
      st'.localClosed = st.localClosed := by
  have hc := change_of_step wf e id
  rw [h] at hc
  generalize s.trafficOf e id = t at hc
  generalize (s.step e).state.find? id = o at hc
  cases hc with
  | step hid hst =>
    subst hid
    exact ⟨_, rfl, hst.handle_localClosed hclaimed hclose hdrop⟩
  | torn => exact ⟨_, rfl, tornDown_handle _ st, tornDown_localClosed _ st⟩

theorem untouched_of_unclaimed (h : ((make role config).after es).find? id = some st)
    (hu : st.handle = .unclaimed) :
    st.localClosed = false ∧ ((make role config).traffic id es).wrote = [] ∧
      ((make role config).traffic id es).returned = [] := by
  refine stream_induction
    (P := fun st t => st.handle = .unclaimed → st.localClosed = false ∧ t.wrote = [] ∧
      t.returned = [])
    (fun _ hu => nomatch hu) (fun _ _ => ⟨rfl, rfl, rfl⟩)
      (fun _ _ => ⟨Stream.aborted_localClosed, rfl, rfl⟩)
    (fun st st' e t u _ hst ih hu => ?_) (fun st t cause _ ih hu => ?_) h hu
  · have hbefore := (hst.was_unclaimed hu).1
    obtain ⟨hl, hw, hr⟩ := ih hbefore
    obtain ⟨hl', hw', hr'⟩ := hst.of_unclaimed hbefore
    exact ⟨hl'.trans hl, by rw [Traffic.wrote_append, hw, hw']; rfl, by
      rw [Traffic.returned_append, hr, hr']; rfl⟩
  · rw [tornDown_handle] at hu
    rw [tornDown_localClosed]
    exact ih hu

theorem carries_fin (h : .fin id ∈ s.framesOf es) : Carries .fin (s.traffic id es).sent := by
  refine ⟨.fin id, ?_, rfl⟩
  rw [sent_traffic, List.mem_filter]
  exact ⟨h, by simp [Frame.fin]⟩

end Session

namespace Link

open Session (Event Call Reply)

variable {l : Link} {config : Config} {moves later : List Move} {m : Move} {r : Role} {id : UInt32}
  {bytes : Bytes} {room ticket : Nat}

theorem trace_append : l.trace (moves ++ later) = l.trace moves ++ (l.after moves).trace later := by
  induction moves generalizing l with
  | nil => rfl
  | cons m moves ih => simp [trace, ih, after]

theorem passing_call {bytes : Event → Reply → Bytes} {c : Call} {reply : Reply} :
    passing bytes r [(.call r c, reply)] = bytes (.call c) reply := by
  simp [passing]

theorem passing_eq_nil {bytes : Event → Reply → Bytes} {reply : Reply}
    (h : ∀ c, m = .call r c → bytes (.call c) reply = []) : passing bytes r [(m, reply)] = [] := by
  cases m with
  | call r' c =>
    rcases Role.eq_or_eq_other r r' with rfl | rfl
    · rw [passing_call]
      exact h c rfl
    · simp [passing]
  | _ => rfl

theorem passing_concat {bytes : Event → Reply → Bytes} :
    passing bytes r (l.trace (moves ++ [m])) =
      passing bytes r (l.trace moves) ++ passing bytes r [(m, ((l.after moves).step m).1)] := by
  rw [trace_append, passing, List.flatMap_append]
  rfl

theorem session_of_call {c : Call} :
    ((l.step (.call r c)).2.endOf r).session = ((l.endOf r).session.step (.call c)).state := by
  show ((l.perform r (·.call c)).2.endOf r).session = _
  rw [endOf_perform]
  rfl

/-! ## What an application knows of a stream -/

/-- What one application has had of a stream. -/
structure Entry where
  handle : Handle
  /-- It has ended its direction. -/
  closed : Bool
  /-- The bytes it had accepted. -/
  written : Bytes
  /-- The bytes it was given. -/
  returned : Bytes

/-- What the application at the end `r` has had of the stream `id` over a run. -/
def entryOf (config : Config) (moves : List Move) (r : Role) (id : UInt32) : Option Entry :=
  ((((make config).after moves).endOf r).session.find? id).map fun st =>
    ⟨st.handle, st.localClosed, accepted r id ((make config).trace moves),
      returned r id ((make config).trace moves)⟩

/-- In the course of the run a read of the end `r` on the stream `id` was told of its end. -/
def EndRead (config : Config) (moves : List Move) (r : Role) (id : UInt32) : Prop :=
  ∃ before room expired later, moves = before ++ .call r (.read id room expired) :: later ∧
    0 < room ∧
    (((make config).after before).step (.call r (.read id room expired))).1 = .got (.ready (.ok []))

/-- In the course of the run the end `r` read just these bytes from the stream `id`, then that the
stream has ended, and nothing more. -/
def ReadToEnd (config : Config) (moves : List Move) (r : Role) (id : UInt32)
    (bytes : Bytes) : Prop :=
  ∃ before room expired later, moves = before ++ .call r (.read id room expired) :: later ∧
    0 < room ∧
    (((make config).after before).step (.call r (.read id room expired))).1 =
      .got (.ready (.ok [])) ∧
    returned r id ((make config).trace before) = bytes ∧
      returned r id ((make config).trace moves) = bytes

variable {entry : Entry}

theorem entryOf_nil : entryOf config [] r id = none := by cases r <;> rfl

theorem stream_of_entry (h : entryOf config moves r id = some entry) :
    ∃ st, (((make config).after moves).endOf r).session.find? id = some st ∧
      st.handle = entry.handle ∧
      st.localClosed = entry.closed := by
  obtain ⟨st, hst, rfl⟩ := Option.map_eq_some_iff.mp h
  exact ⟨st, hst, rfl, rfl⟩

theorem entry_of_find? {st : Stream}
    (h : (((make config).after moves).endOf r).session.find? id = some st) :
    entryOf config moves r id = some
      ⟨st.handle, st.localClosed, accepted r id ((make config).trace moves),
        returned r id ((make config).trace moves)⟩ := by
  rw [entryOf, h]
  rfl

theorem entry_written (h : entryOf config moves r id = some entry) :
    accepted r id ((make config).trace moves) = entry.written := by
  obtain ⟨st, -, rfl⟩ := Option.map_eq_some_iff.mp h
  rfl

theorem entry_returned (h : entryOf config moves r id = some entry) :
    returned r id ((make config).trace moves) = entry.returned := by
  obtain ⟨st, -, rfl⟩ := Option.map_eq_some_iff.mp h
  rfl

/-- The entry after one more move, from the stream as it is then. -/
theorem entry_of_stream {st' : Stream} (h : entryOf config moves r id = some entry)
    (hst' : ((((make config).after moves).step m).2.endOf r).session.find? id = some st') :
    entryOf config (moves ++ [m]) r id = some
      ⟨st'.handle, st'.localClosed,
        entry.written ++ passing (Session.acceptedBy id) r
          [(m, (((make config).after moves).step m).1)],
        entry.returned ++ passing (Session.returnedBy id) r
          [(m, (((make config).after moves).step m).1)]⟩ := by
  rw [entryOf, after_concat, hst', ← entry_written h, ← entry_returned h, accepted, returned,
    passing_concat, passing_concat]
  rfl

/-- A move that neither ends the local direction nor drops the handle lets bytes pass, or does
nothing. -/
theorem entry_of_move (h : entryOf config moves r id = some entry)
    (hclaimed : entry.handle ≠ .unclaimed)
    (hclose : m ≠ .call r (.closeWrite id)) (hdrop : m ≠ .call r (.dropHandle id)) :
    entryOf config (moves ++ [m]) r id = some { entry with
      written := entry.written ++ passing (Session.acceptedBy id) r
        [(m, (((make config).after moves).step m).1)]
      returned := entry.returned ++ passing (Session.returnedBy id) r
        [(m, (((make config).after moves).step m).1)] } := by
  obtain ⟨st, hst, hhandle, hclosed⟩ := stream_of_entry h
  have hact := act_of_step ((make config).after moves) m
  obtain ⟨st', hst', hhandle', hclosed'⟩ : ∃ st',
      ((((make config).after moves).step m).2.endOf r).session.find? id =
      some st' ∧ st'.handle = st.handle ∧ st'.localClosed = st.localClosed := by
    rw [hact.session r]
    rcases hact.event r with hnone | ⟨e, he, -⟩
    · rw [hnone]
      exact ⟨st, hst, rfl, rfl⟩
    rw [he]
    exact Session.handle_localClosed_of_step (wellFormed config moves r) hst
      (by rw [hhandle]; exact hclaimed)
      (fun hc => hclose (hact.eq_call he hc)) fun hc => hdrop (hact.eq_call he hc)
  rw [entry_of_stream h hst', hhandle', hclosed', hhandle, hclosed]

theorem entry_of_other (h : entryOf config moves r id = some entry)
    (hclaimed : entry.handle ≠ .unclaimed)
    (hother : ∀ c, m = .call r c → c.stream? ≠ some id) :
    entryOf config (moves ++ [m]) r id = some entry := by
  have hcall {c : Call} (hc : m = .call r c) : ∀ c', Event.call c = .call c' →
      c'.stream? ≠ some id := fun c' h => by
    cases h
    exact hother c hc
  have hwritten : passing (Session.acceptedBy id) r [(m, (((make config).after moves).step m).1)] =
      [] :=
    passing_eq_nil fun c hc => Session.acceptedBy_of_other (hcall hc)
  have hreturned : passing (Session.returnedBy id) r [(m, (((make config).after moves).step m).1)] =
      [] :=
    passing_eq_nil fun c hc => Session.returnedBy_of_other (hcall hc)
  rw [entry_of_move h hclaimed (fun hc => hother _ hc rfl) fun hc => hother _ hc rfl,
    hwritten, hreturned, List.append_nil, List.append_nil]

theorem claimed_of_closed (h : entryOf config moves r id = some entry)
    (hclosed : entry.closed = true) : entry.handle ≠ .unclaimed := by
  obtain ⟨st, hst, hhandle, hl⟩ := stream_of_entry h
  intro hu
  rw [session_of_run] at hst
  rw [(Session.untouched_of_unclaimed hst (hhandle.trans hu)).1, hclosed] at hl
  cases hl

theorem opened_of_entry (h : entryOf config (moves ++ [m]) r id = some entry)
    (howns : r.owns id = true) : (∃ before, entryOf config moves r id = some before) ∨
      m = .call r .openStream ∧ (((make config).after moves).step m).1 = .opened (.ok id) := by
  have wf := wellFormed config moves r
  have hact := act_of_step ((make config).after moves) m
  obtain ⟨st', hst', -⟩ := stream_of_entry h
  cases ho : (((make config).after moves).endOf r).session.find? id with
  | some st => exact .inl ⟨_, entry_of_find? ho⟩
  | none =>
    rw [after_concat, hact.session r] at hst'
    rcases hact.event r with hnone | ⟨e, he, -⟩
    · rw [hnone] at hst'
      cases ho.symm.trans hst'
    rw [he] at hst'
    have hst' : ((((make config).after moves).endOf r).session.step e).state.find? id = some st' :=
      hst'
    have hrole : (((make config).after moves).endOf r).session.role = r := by
      rw [session_of_run]
      exact Session.role_after _ _ _
    obtain ⟨rfl, hanswer⟩ := Session.answer_of_opened wf (by rw [hrole]; exact howns) ho
      (by rw [hst']; simp)
    obtain rfl := hact.eq_call he rfl
    exact .inr ⟨rfl, hanswer⟩

theorem claimed_of_entry (h : entryOf config (moves ++ [m]) r id = some entry)
    (hclaimed : entry.handle ≠ .unclaimed) :
    (∃ before, entryOf config moves r id = some before ∧ before.handle ≠ .unclaimed) ∨
      m = .call r .openStream ∧ (((make config).after moves).step m).1 = .opened (.ok id) ∨
      ∃ ticket, m = .call r (.accept ticket) ∧ (((make config).after moves).step m).1 =
        .accepted (.ready (.ok id)) := by
  obtain ⟨st', hst', hhandle, -⟩ := stream_of_entry h
  rw [after_concat] at hst'
  refine (claimed_of_move hst' (by rw [hhandle]; exact hclaimed)).imp_left fun ⟨st, hst, hu⟩ => ?_
  exact ⟨_, entry_of_find? hst, hu⟩

/-! ## The calls of a calm run -/

theorem entry_of_opened
    (hanswer : (((make config).after moves).step (.call r .openStream)).1 = .opened (.ok id)) :
    entryOf config moves r id = none ∧
      entryOf config (moves ++ [.call r .openStream]) r id = some ⟨.held, false, [], []⟩ := by
  have wf := wellFormed config moves r
  obtain ⟨hnone, -, hnew, -⟩ := Session.opened_of_answer wf hanswer
  refine ⟨by rw [entryOf, hnone]; rfl, ?_⟩
  have hst := session_of_call.symm ▸ hnew
  rw [session_of_run] at hnone
  have hempty : (Session.make r config).traffic id ((make config).events r moves) = {} :=
    Session.traffic_eq_empty hnone
  have hwritten : accepted r id ((make config).trace moves) =
    [] := by rw [accepted_trace, session_make, hempty]
  have hreturned : returned r id ((make config).trace moves) =
    [] := by rw [returned_trace, session_make, hempty]
  rw [entryOf, after_concat, hst, accepted, returned, passing_concat, passing_concat, ← accepted,
    ← returned, hwritten, hreturned, passing_call, passing_call]
  rfl

theorem entry_of_accepted
    (hanswer : (((make config).after moves).step (.call r (.accept ticket))).1 =
      .accepted (.ready (.ok id))) :
    (∃ entry, entryOf config moves r id = some entry ∧ entry.handle = .unclaimed) ∧
      entryOf config (moves ++ [.call r (.accept ticket)]) r id = some ⟨.held, false, [], []⟩ := by
  have wf := wellFormed config moves r
  obtain ⟨st, hst, hu⟩ := wf.backlog id (Session.waited_of_accepted wf hanswer)
  have hentry := entry_of_find? hst
  refine ⟨⟨_, hentry, hu⟩, ?_⟩
  have hst' :
      ((((make config).after moves).step (.call r (.accept ticket))).2.endOf r).session.find? id =
      some { st with handle := .held } := by
    have haccept := Session.find?_accept (Reply.accepted.inj hanswer)
    rw [hst] at haccept
    rw [session_of_call]
    exact haccept
  rw [session_of_run] at hst
  obtain ⟨hl, hw, hr⟩ := Session.untouched_of_unclaimed hst hu
  rw [entry_of_stream hentry hst', accepted_trace, returned_trace, session_make, hw, hr, hl,
    passing_call, passing_call]
  rfl

section

variable (hcalm : Calm config moves) (h : entryOf config moves r id = some entry)
  (hheld : entry.handle = .held)
include hcalm h hheld

theorem entry_of_write (hl : entry.closed = false) (hb : bytes ≠ []) :
    (((make config).after moves).step (.call r (.write id bytes false))).1 = .wrote .pending ∧
        entryOf config (moves ++ [.call r (.write id bytes false)]) r id = some entry ∨
      ∃ n, (((make config).after moves).step (.call r (.write id bytes false))).1 =
          .wrote (.ready (.ok n)) ∧ 0 < n ∧ n ≤ bytes.length ∧
        entryOf config (moves ++ [.call r (.write id bytes false)]) r id =
          some { entry with written := entry.written ++ bytes.take n } := by
  obtain ⟨st, hst, hhandle, hclosed⟩ := stream_of_entry h
  have hmove := entry_of_move h (m := .call r (.write id bytes false)) (by simp [hheld])
    (by simp) (by simp)
  rw [passing_call, passing_call] at hmove
  have hanswer : (((make config).after moves).step (.call r (.write id bytes false))).1 = _ :=
    Session.answer_write (wellFormed config moves r) hst (hhandle.trans hheld) (hcalm.reset_eq hst)
      (hclosed.trans hl) hb
  have hle : (((make config).after moves).endOf r).session.portion st bytes ≤ bytes.length :=
    Session.portion_le
  rw [hanswer] at hmove ⊢
  generalize (((make config).after moves).endOf r).session.portion st bytes = n at hmove hle ⊢
  by_cases hn : n = 0
  · rw [if_pos hn] at hmove ⊢
    exact .inl ⟨rfl, by simpa [Session.acceptedBy, Session.returnedBy, Session.Reply.count,
      Session.Reply.bytes] using hmove⟩
  · rw [if_neg hn] at hmove ⊢
    exact .inr ⟨n, rfl, Nat.pos_of_ne_zero hn, hle, by
      simpa [Session.acceptedBy, Session.returnedBy, Session.Reply.count] using hmove⟩

theorem entry_of_read (hroom : 0 < room) :
    (((make config).after moves).step (.call r (.read id room false))).1 = .got .pending ∧
        entryOf config (moves ++ [.call r (.read id room false)]) r id = some entry ∨
      ∃ bytes, (((make config).after moves).step (.call r (.read id room false))).1 =
        .got (.ready (.ok bytes)) ∧
        bytes.length ≤ room ∧ entryOf config (moves ++ [.call r (.read id room false)]) r id =
          some { entry with returned := entry.returned ++ bytes } := by
  obtain ⟨st, hst, hhandle, -⟩ := stream_of_entry h
  have hmove := entry_of_move h (m := .call r (.read id room false)) (by simp [hheld])
    (by simp) (by simp)
  rw [passing_call, passing_call] at hmove
  have hanswer : (((make config).after moves).step (.call r (.read id room false))).1 = _ :=
    Session.answer_read (wellFormed config moves r) hst (hhandle.trans hheld)
      (hcalm.reset_eq hst) hroom
  rw [hanswer] at hmove ⊢
  split at hmove
  next hnil =>
    split at hmove
    next hrc =>
      rw [if_pos hnil, if_pos hrc]
      exact .inr ⟨[], rfl, Nat.zero_le _, by simpa [Session.acceptedBy, Session.returnedBy,
        Session.Reply.bytes] using hmove⟩
    next hrc =>
      rw [if_pos hnil, if_neg hrc]
      exact .inl ⟨rfl, by simpa [Session.acceptedBy, Session.returnedBy,
        Session.Reply.bytes] using hmove⟩
  next hnil =>
    rw [if_neg hnil]
    refine .inr ⟨st.unread.take room, rfl, List.length_take_le _ _, ?_⟩
    simpa [Session.acceptedBy, Session.returnedBy, Session.Reply.bytes] using hmove

theorem entry_of_closeWrite :
    (((make config).after moves).step (.call r (.closeWrite id))).1 = .closed (.ok ()) ∧
      entryOf config (moves ++ [.call r (.closeWrite id)]) r id =
        some { entry with closed := true } := by
  obtain ⟨st, hst, hhandle, -⟩ := stream_of_entry h
  obtain ⟨hanswer, st', hst', hheld', hr', hdone⟩ :=
    Session.closeWrite_held (wellFormed config moves r) hst (hhandle.trans hheld)
  have hclosed : st'.localClosed = true := by
    rw [hr', hcalm.reset_eq hst] at hdone
    simpa using hdone
  refine ⟨hanswer, ?_⟩
  rw [← session_of_call] at hst'
  rw [entry_of_stream h hst', hheld', hclosed, passing_call, passing_call, ← hheld]
  simp [Session.acceptedBy, Session.returnedBy]

theorem entry_of_dropHandle :
    entryOf config (moves ++ [.call r (.dropHandle id)]) r id =
      some { entry with handle := .dropped, closed := true } := by
  obtain ⟨st, hst, hhandle, -⟩ := stream_of_entry h
  obtain ⟨st', hst', hdropped, hclosed⟩ :=
    Session.dropHandle_held (wellFormed config moves r) hst (hhandle.trans hheld)
      (hcalm.reset_eq hst)
  rw [← session_of_call] at hst'
  rw [entry_of_stream h hst', hdropped, hclosed, passing_call, passing_call]
  simp [Session.acceptedBy, Session.returnedBy]

end

/-! ## The end of a stream -/

theorem EndRead.mono (h : EndRead config moves r id) : EndRead config (moves ++ later) r id := by
  obtain ⟨before, room, expired, rest, rfl, hroom, hanswer⟩ := h
  exact ⟨before, room, expired, rest ++ later, by simp, hroom, hanswer⟩

/-- Behind the end of a stream nothing is read: the other end had written no more. -/
theorem EndRead.returned_eq (h : EndRead config moves r id) :
    ∃ before room expired later, moves = before ++ .call r (.read id room expired) :: later ∧
      0 < room ∧
      (((make config).after before).step (.call r (.read id room expired))).1 =
        .got (.ready (.ok [])) ∧
      .fin id ∈ (make config).queued r.other before ∧
      returned r id ((make config).trace before) = accepted r.other id ((make config).trace moves) ∧
      returned r id ((make config).trace moves) = accepted r.other id
        ((make config).trace moves) := by
  obtain ⟨before, room, expired, rest, rfl, hroom, hanswer⟩ := h
  obtain ⟨hfin, hall⟩ := returned_of_eof hroom hanswer
  have hwritten :
      accepted r.other id
      ((make config).trace (before ++ .call r (.read id room expired) :: rest)) =
      accepted r.other id ((make config).trace before) := by
    rw [accepted_trace, accepted_trace, events_append, session_make]
    rw [queued, session_make] at hfin
    exact Session.wrote_of_fin (Session.carries_fin hfin)
  have hpart := returned_part config (before ++ .call r (.read id room expired) :: rest) r id
  have hmore : returned r id ((make config).trace before) <+:
      returned r id ((make config).trace (before ++ .call r (.read id room expired) :: rest)) := by
    rw [returned, returned, trace_append, passing, passing, List.flatMap_append]
    exact List.prefix_append _ _
  refine ⟨before, room, expired, rest, rfl, hroom, hanswer, hfin, hall.trans hwritten.symm, ?_⟩
  rw [hwritten, ← hall] at hpart ⊢
  exact hpart.eq_of_length_le hmore.length_le

theorem EndRead.readToEnd (h : EndRead config moves r id) :
    ReadToEnd config moves r id (returned r id ((make config).trace moves)) := by
  obtain ⟨before, room, expired, later, hmoves, hroom, hanswer, -, hbefore, hall⟩ := h.returned_eq
  exact ⟨before, room, expired, later, hmoves, hroom, hanswer, hbefore.trans hall.symm, rfl⟩

/-- A reader that was told of the end has been given all that the other end had accepted,
and the other end has ended its direction. -/
theorem EndRead.agreed (h : EndRead config moves r id) :
    returned r id ((make config).trace moves) = accepted r.other id ((make config).trace moves) ∧
      ∃ st, (((make config).after moves).endOf r.other).session.find? id = some st ∧
        st.localClosed = true := by
  obtain ⟨before, room, expired, later, rfl, -, -, hfin, -, hall⟩ := h.returned_eq
  refine ⟨hall, ?_⟩
  rw [queued, session_make] at hfin
  have hfin : .fin id ∈ (Session.make r.other config).framesOf
      (history config (before ++ .call r (.read id room expired) :: later) r.other) := by
    rw [history, events_append, Session.framesOf_append]
    exact List.mem_append_left _ hfin
  obtain ⟨st, hst⟩ := Session.stream_of_frame hfin
  rw [session_of_run]
  exact ⟨st, hst, (Conversation.outbound hst).fin.mpr (Session.carries_fin hfin)⟩

end Link
end StreamMux

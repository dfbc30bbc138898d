/-
Where an abort on this side comes from: the application asked for it, the SYN of
the stream was refused for want of room, or the peer broke a rule. Of a run of the
link, the first two can be pointed out: the move that did it, and the stream as it
was then. How far each direction had been closed by then never changes afterwards.
-/
import StreamMux.Proofs.LinkRun

namespace StreamMux

namespace Stream

variable {s s' : Stream} {maxPayload : UInt32} {e : Session.Event} {t : Traffic}
  {cause : ResetCause}

theorem Step.closed_of_reset (h : s.Step maxPayload e t s') (hr : s'.reset ≠ none) :
    s'.localClosed = s.localClosed ∧ s'.remoteClosed = s.remoteClosed := by
  cases h with
  | closeWrite _ hn | dropHandle _ hn => exact absurd hn hr
  | reset | accused | rst => exact ⟨aborted_localClosed, aborted_remoteClosed⟩
  | windowUpdate => exact ⟨grant_localClosed, grant_remoteClosed⟩
  | fin =>
    rw [settle_reset, finish_reset] at hr
    refine ⟨finish_localClosed, ?_⟩
    rw [settle_remoteClosed, finish_remoteClosed]
    simp [hr]
  | _ => exact ⟨rfl, rfl⟩

/-- A step that aborts a stream for a reason of this side is a call. -/
theorem Step.here_cases (h : s.Step maxPayload e t s') (hr : s'.reset = some .here) :
    s.reset = some .here ∨ e = .call (.reset s.id) ∧ s.handle = .held ∧ s.isTerminal = false := by
  cases h with
  | reset hh =>
    rw [aborted_reset] at hr
    split at hr
    · exact .inl hr
    next hterm => exact .inr ⟨rfl, hh, by simpa using hterm⟩
  | accused | rst =>
    rw [aborted_reset] at hr
    split at hr
    · exact .inl hr
    · cases hr
  | windowUpdate => rw [grant_reset] at hr; exact .inl hr
  | fin => rw [settle_reset, finish_reset] at hr; exact .inl hr
  | _ => exact .inl hr

end Stream

namespace Session

variable {s : Session} {e : Event} {id : UInt32} {t : Traffic} {o : Option Stream} {st' : Stream}

/-- The stream was aborted by the session it is in before it was anybody's: the
event is its SYN, and as many streams wait as may. -/
def Refusal (s : Session) (e : Event) (id : UInt32) : Prop :=
  s.ended = none ∧ s.config.acceptBacklog ≤ s.backlog.length ∧
    ∃ message f, e = .message message ∧ Frame.decode message s.config.maxFramePayload = .ok f ∧
      f.type = .syn ∧ f.streamId = id

theorem Change.here_cases (h : s.Change e id o t (some st')) (hr : st'.reset = some .here) :
    (∃ st, o = some st ∧ st'.localClosed = st.localClosed ∧ st'.remoteClosed = st.remoteClosed ∧
      (st.reset = some .here ∨ e = .call (.reset id) ∧ st.handle = .held ∧ st.isTerminal = false)) ∨
    s.Refusal e id ∧ st'.localClosed = false ∧ st'.remoteClosed = false := by
  cases h with
  | opened | announced => cases hr
  | refused hmsg hopen hdec hty hid _ hfull =>
    exact .inr ⟨⟨hopen, hfull, _, _, hmsg, hdec, hty, hid⟩, rfl, rfl⟩
  | @step st _ _ hid hst =>
    subst hid
    obtain ⟨hl, hrc⟩ := hst.closed_of_reset (by simp [hr])
    exact .inl ⟨st, rfl, hl, hrc, hst.here_cases hr⟩
  | @torn st cause =>
    refine .inl ⟨st, rfl, ?_⟩
    rw [tornDown] at hr ⊢
    split at hr
    next ht =>
      rw [Stream.aborted_reset] at hr
      split at hr
      · rw [if_pos ht]
        exact ⟨Stream.aborted_localClosed, Stream.aborted_remoteClosed, .inl hr⟩
      · cases hr
    next ht =>
      rw [if_neg ht]
      exact ⟨rfl, rfl, .inl hr⟩

end Session

namespace Link

variable {l l' : Link} {r : Role} {m : Move} {id : UInt32} {st : Stream}

/-- By this move the application at the end `r` aborts the stream `id`: it has the
handle, and the stream `st` is not final yet. -/
structure Resets (l : Link) (m : Move) (r : Role) (id : UInt32) (st : Stream) : Prop where
  call : m = .call r (.reset id)
  held : (l.endOf r).session.held? id = some st
  live : st.isTerminal = false

/-- By this move the open end `r` reads the SYN of the stream `id`, but as many
streams wait to be accepted as may. -/
structure Refuses (l : Link) (m : Move) (r : Role) (id : UInt32) : Prop where
  read : m = .read r
  syn : ∃ rest, (l.endOf r.other).underWay = (Frame.syn id).encode :: rest
  isOpen : (l.endOf r).session.ended = none
  full : (l.endOf r).session.config.acceptBacklog ≤ (l.endOf r).session.backlog.length

/-- By this move the end `r` aborts the stream `id` for a reason of its own, with its
directions closed as far as those of `st`. -/
def Aborts (l : Link) (m : Move) (r : Role) (id : UInt32) (st : Stream) : Prop :=
  (∃ st₀, l.Resets m r id st₀ ∧ st₀.localClosed = st.localClosed ∧
    st₀.remoteClosed = st.remoteClosed) ∨
    l.Refuses m r id ∧ st.localClosed = false ∧ st.remoteClosed = false

theorem Aborts.congr {st' : Stream} (h : l.Aborts m r id st) (hl : st'.localClosed = st.localClosed)
    (hrc : st'.remoteClosed = st.remoteClosed) : l.Aborts m r id st' := by
  rw [Aborts, hl, hrc]
  exact h

variable {config : Config} {moves : List Move}

theorem eq_syn_of_underWay {message : Bytes} {rest : List Bytes} {f : Frame}
    (hw : (((make config).after moves).endOf r.other).underWay = message :: rest)
    (hopen : (((make config).after moves).endOf r).session.ended = none)
    (hdec : Frame.decode message config.maxFramePayload = .ok f) (hty : f.type = .syn) :
    message = (Frame.syn f.streamId).encode := by
  obtain ⟨g, rfl, hlegal, _⟩ := next_heard hw hopen
  rw [Frame.decode_encode hlegal] at hdec
  cases hdec
  rw [← Frame.eq_syn hlegal hty]

/-- The move that aborted a stream on this side, with the stream before it. -/
theorem origin (h : (((make config).after moves).endOf r).session.find? id = some st)
    (hr : st.reset = some .here) :
    ∃ before m later, moves = before ++ m :: later ∧
      ((make config).after before).Aborts m r id st := by
  induction moves using List.reverseRecOn generalizing st with
  | nil => cases r <;> cases h
  | append_singleton moves m ih =>
    have hact := act_of_step ((make config).after moves) m
    have wf := wellFormed config moves r
    have earlier {st₁ : Stream} (h₁ : (((make config).after moves).endOf r).session.find? id =
        some st₁) (hr₁ : st₁.reset = some .here) (hl : st.localClosed = st₁.localClosed)
        (hrc : st.remoteClosed = st₁.remoteClosed) : ∃ before m' later,
          moves ++ [m] = before ++ m' :: later ∧
          ((make config).after before).Aborts m' r id st := by
      obtain ⟨before, m', later, rfl, habort⟩ := ih h₁ hr₁
      exact ⟨before, m', later ++ [m], by simp, habort.congr hl hrc⟩
    rw [after_concat, hact.session r] at h
    rcases hact.event r with hnone | ⟨e, he, _⟩
    · rw [hnone] at h
      exact earlier h hr rfl rfl
    · have hmem : e ∈ ((make config).after moves).happens m r := by
        rw [he]; exact List.mem_cons_self
      rw [he] at h
      have hc := Session.change_of_step wf e id
      have h : (((((make config).after moves).endOf r).session.step e).state).find? id = some st :=
        h
      rw [h] at hc
      generalize ho : (((make config).after moves).endOf r).session.find? id = o at hc
      rcases hc.here_cases hr with
        ⟨st₁, rfl, hl, hrc, hr₁ | ⟨rfl, hheld, hlive⟩⟩ |
          ⟨⟨hopen, hfull, message, f, rfl, hdec, hty, rfl⟩, hl, hrc⟩
      · exact earlier ho hr₁ hl hrc
      · refine ⟨moves, m, [], rfl, .inl ⟨st₁, ⟨hact.call_inv hmem, ?_, hlive⟩, hl.symm, hrc.symm⟩⟩
        rw [Session.held?_eq wf.distinct, ho]
        simp [hheld]
      · obtain ⟨rfl, rest, hw⟩ := hact.message_inv hmem
        rw [config_eq] at hdec
        refine ⟨moves, .read r, [], rfl, .inr ⟨⟨rfl, ⟨rest, ?_⟩, hopen, hfull⟩, hl, hrc⟩⟩
        rw [hw, eq_syn_of_underWay hw hopen hdec hty]

end Link
end StreamMux

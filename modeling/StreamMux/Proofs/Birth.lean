/-
How a stream comes to be, and how it comes by its handle. A session has no
stream of an id until the application opens it, or the peer's SYN is taken or
refused; and one that the peer opened has a handle once a call has accepted it.
-/
import StreamMux.Proofs.History

namespace StreamMux.Session

/-- What a step does that adds the stream `id` to the session. -/
inductive Birth (s : Session) (e : Event) (id : UInt32) (s' : Session) : Prop
  | opened : e = .call .openStream → (s.step e).result = .opened (.ok id) → s.role.owns id = true →
    s'.find? id = some (.make id s.config .held) → (s.trafficOf e id).sent = [.syn id] →
      Birth s e id s'
  | announced {message} : e = .message message → s.role.owns id = false → id ∈ s'.backlog →
    s'.find? id = some (.make id s.config .unclaimed) → (s.trafficOf e id).sent = [] →
      Birth s e id s'
  | refused {message} : e = .message message → s.role.owns id = false → id ∉ s'.backlog →
    s'.find? id = some ((Stream.make id s.config .unclaimed).aborted .here) →
      (s.trafficOf e id).sent = [.rst id] →
    Birth s e id s'

variable {s : Session} {e : Event} {id : UInt32} {st : Stream} {message : Bytes} {f : Frame}

/-- A stream comes to be in one of these ways. -/
theorem birth (wf : s.WellFormed) (hnone : s.find? id = none)
    (hsome : (s.step e).state.find? id ≠ none) : s.Birth e id (s.step e).state := by
  have hturn := turn_of_step wf e
  have hresult : e = .call .openStream → s.ended = none → s.nextId = some id →
      (s.step e).result = .opened (.ok id) := by
    rintro rfl hopen hn
    simp only [step, call, Outcome.as, openStream, queue, hopen, hn]
  generalize (s.step e).state = s' at hturn hsome
  have only (st : Stream) (happ : s'.streams = s.streams ++ [st]) : id = st.id :=
      Decidable.byContradiction fun hi =>
    hsome ((find?_append_ne hi happ).trans hnone)
  have added {i : UInt32} {st : Stream} (hnone : s.find? i = none) (hid : st.id = i)
      (happ : s'.streams = s.streams ++ [st]) : s'.find? i = some st := by
    subst hid
    exact find?_append_self hnone happ
  cases hturn with
  | quiet | late => exact absurd hnone hsome
  | @touched st st' _ _ hfind _ hst =>
    refine absurd ((find?_put_ne fun hi => ?_).trans hnone) hsome
    rw [hi, hst.id_eq, hfind] at hnone
    cases hnone
  | @claimed st _ _ _ _ _ _ hfind =>
    refine absurd ((find?_put_ne fun hi => ?_).trans hnone) hsome
    rw [hi, hfind] at hnone
    cases hnone
  | @opened next _ he hopen hn ht =>
    obtain rfl : id = next := only (.make next s.config .held) rfl
    exact .opened he (hresult he hopen hn) (wf.nextOwned id hn) (added hnone rfl rfl)
      (by rw [ht, if_pos rfl])
  | @announced _ f _ he _ _ _ hm ht =>
    obtain rfl : id = f.streamId := only (.make f.streamId s.config .unclaimed) rfl
    exact .announced he (mayOpen_iff.mp hm).2.1 (by simp) (added hnone rfl rfl) (by rw [ht])
  | @refused _ f _ he _ _ _ hm _ ht =>
    obtain rfl : id = f.streamId :=
      only ((Stream.make f.streamId s.config .unclaimed).aborted .here) rfl
    refine .refused he (mayOpen_iff.mp hm).2.1 (fun hmem => ?_) (added hnone rfl rfl)
      (by rw [ht, if_pos rfl])
    obtain ⟨waiting, hwaiting, -⟩ := wf.backlog _ hmem
    rw [hnone] at hwaiting
    cases hwaiting
  | @ended cause =>
    refine absurd ((find?_tornDown (s := s) cause rfl).trans ?_) hsome
    rw [hnone]
    rfl

theorem opened_of_answer (wf : s.WellFormed)
    (h : (s.step (.call .openStream)).result = .opened (.ok id)) :
    s.find? id = none ∧ s.role.owns id = true ∧
      (s.step (.call .openStream)).state.find? id = some (.make id s.config .held) ∧
      (s.step (.call .openStream)).frames = [.syn id] := by
  simp only [step, call, Outcome.as, openStream, queue] at h ⊢
  cases he : s.ended with
  | some cause => simp [he] at h
  | none =>
    cases hn : s.nextId with
    | none => simp [he, hn] at h
    | some next =>
      simp only [he, hn, Reply.opened.injEq, Except.ok.injEq] at h
      subst h
      have hfresh : s.find? (Stream.make next s.config .held).id = none := wf.find?_nextId hn
      exact ⟨hfresh, wf.nextOwned _ hn, find?_append_self hfresh rfl, rfl⟩

theorem answer_of_opened (wf : s.WellFormed) (howns : s.role.owns id = true)
    (hnone : s.find? id = none)
    (hsome : (s.step e).state.find? id ≠ none) : e = .call .openStream ∧
    (s.step e).result = .opened (.ok id) := by
  cases birth wf hnone hsome with
  | opened he hanswer => exact ⟨he, hanswer⟩
  | announced _ hnot | refused _ hnot => rw [howns] at hnot; cases hnot

/-! ## A SYN that is taken -/

theorem find?_of_refused (wf : s.WellFormed) (hopen : s.ended = none)
    (hdec : Frame.decode message s.config.maxFramePayload = .ok f) (ht : f.type = .syn)
    (hm : s.mayOpen f.streamId = true)
    (hb : ¬ s.backlog.length < s.config.acceptBacklog) :
    (s.step (.message message)).state.find? f.streamId =
      some ((Stream.make f.streamId s.config .unclaimed).aborted .here) := by
  let counted : Session := { s with stats := s.stats.received message.length }
  have hfresh := wf.find?_of_mayOpen hm
  rw [step_of_syn hdec ht]
  simp only [Outcome.as]
  rw [(onSyn_of_full (s := counted) wf.distinct hopen hfresh hm hb).2]
  show Session.find? _ ((Stream.make f.streamId s.config .unclaimed).aborted .here).id = _
  exact find?_append_self hfresh rfl

theorem find?_of_syn (wf : s.WellFormed) (hopen : s.ended = none)
    (hdec : Frame.decode message s.config.maxFramePayload = .ok f) (ht : f.type = .syn)
    (hm : s.mayOpen f.streamId = true) :
    ∃ st, (s.step (.message message)).state.find? f.streamId = some st := by
  by_cases hb : s.backlog.length < s.config.acceptBacklog
  · let counted : Session := { s with stats := s.stats.received message.length }
    have hid : (Stream.make f.streamId s.config .unclaimed).id = f.streamId := rfl
    rw [step_of_syn hdec ht]
    simp only [Outcome.as]
    rw [(onSyn_of_room (s := counted) hopen hm hb).2]
    exact ⟨_, find?_append_self (hid ▸ wf.find?_of_mayOpen hm) rfl⟩
  · exact ⟨_, find?_of_refused wf hopen hdec ht hm hb⟩

/-! ## Accepting -/

/-- The calls of accept that wait when this one is tried, first come first. -/
def lineUp (s : Session) (ticket : Nat) : List Nat :=
  if ticket ∈ s.acceptors then s.acceptors else s.acceptors ++ [ticket]

/-- What one try of the accept call `ticket` answers and leaves. -/
inductive Attempt (s : Session) (ticket : Nat) : Poll (Except Fault UInt32) → Session → Prop
  | behind : (s.lineUp ticket).head? ≠ some ticket →
    Attempt s ticket .pending { s with acceptors := s.lineUp ticket }
  | waits : (s.lineUp ticket).head? = some ticket → s.ended = none → s.backlog = [] →
    Attempt s ticket .pending { s with acceptors := s.lineUp ticket }
  | fails {cause} : (s.lineUp ticket).head? = some ticket → s.ended = some cause →
    Attempt s ticket (.ready (.error cause)) { s with acceptors := (s.lineUp ticket).erase ticket }
  | served {st rest} : (s.lineUp ticket).head? = some ticket → s.ended = none →
    s.backlog = st.id :: rest →
    s.find? st.id = some st →
    Attempt s ticket (.ready (.ok st.id)) { s.put { st with handle := .held } with
      backlog := rest
      acceptors := (s.lineUp ticket).erase ticket
      stats := s.stats.accepted }

theorem attempt (wf : s.WellFormed) (ticket : Nat) :
    s.Attempt ticket (s.accept ticket).result (s.accept ticket).state := by
  have hline : (if ticket ∈ s.acceptors then s.acceptors else s.acceptors ++ [ticket]) =
    s.lineUp ticket := rfl
  by_cases hhead : (s.lineUp ticket).head? = some ticket
  · cases hended : s.ended with
    | some cause =>
      have haccept : s.accept ticket =
          { result := .ready (.error cause), state := { s with
              acceptors := (s.lineUp ticket).erase ticket } } := by
        simp only [accept, hline, hhead, hended, if_true]
      rw [haccept]
      exact .fails hhead hended
    | none =>
    cases hb : s.backlog with
    | nil =>
      have haccept : s.accept ticket =
          { result := .pending, state := { s with acceptors := s.lineUp ticket } } := by
        simp only [accept, hline, hhead, hended, hb, if_true]
      rw [haccept]
      exact .waits hhead hended hb
    | cons id rest =>
      obtain ⟨st, hfind, -⟩ := wf.backlog id (by rw [hb]; exact List.mem_cons_self)
      obtain rfl := find?_id hfind
      have hfind' : s.streams.find? (·.id == st.id) = some st := hfind
      have haccept : s.accept ticket =
          { result := .ready (.ok st.id)
            state := { s.put { st with handle := .held } with
              backlog := rest
              acceptors := (s.lineUp ticket).erase ticket
              stats := s.stats.accepted } } := by
        simp only [accept, hline, hhead, hended, hb, if_true, Session.find?, hfind', put]
      rw [haccept]
      exact .served hhead hended hb hfind
  · have haccept : s.accept ticket =
        { result := .pending, state := { s with acceptors := s.lineUp ticket } } := by
      simp only [accept, hline, hhead, if_false]
    rw [haccept]
    exact .behind hhead

/-- What a call of accept does to the streams: nothing, or the next stream has a handle now. -/
theorem accept_cases (s : Session) (ticket : Nat) :
    (∀ id, (s.accept ticket).result ≠ .ready (.ok id)) ∧
      (∀ id, (s.accept ticket).state.find? id = s.find? id) ∨
      ∃ i, (s.accept ticket).result = .ready (.ok i) ∧ ∀ id, (s.accept ticket).state.find? id =
        if id = i then (s.find? i).map ({ · with handle := .held }) else s.find? id := by
  simp only [accept]
  generalize (if ticket ∈ s.acceptors then s.acceptors else s.acceptors ++ [ticket]) = acceptors
  split
  · split
    · exact .inl ⟨by simp, fun id => rfl⟩
    · split
      next i rest hb =>
        split
        next st hfind =>
          have hfind : s.find? i = some st := hfind
          obtain rfl := find?_id hfind
          refine .inr ⟨st.id, rfl, fun id => ?_⟩
          split
          next hi =>
            subst hi
            rw [hfind]
            exact find?_put (show s.find? ({ st with handle := .held } : Stream).id =
              some st from hfind)
          next hi => exact find?_put_ne hi
        next hfind =>
          refine .inr ⟨i, rfl, fun id => ?_⟩
          have hfind : s.find? i = none := hfind
          split
          next hi => rw [hi, hfind]; exact hfind
          next => rfl
      · exact .inl ⟨by simp, fun id => rfl⟩
  · exact .inl ⟨by simp, fun id => rfl⟩

theorem find?_accept_of_ne {ticket : Nat} (h : (s.accept ticket).result ≠ .ready (.ok id)) :
    (s.accept ticket).state.find? id = s.find? id := by
  rcases accept_cases s ticket with ⟨-, hfind⟩ | ⟨i, hresult, hfind⟩
  · exact hfind id
  · rw [hfind, if_neg]
    rintro rfl
    exact h hresult

theorem find?_accept {ticket : Nat} (h : (s.accept ticket).result = .ready (.ok id)) :
    (s.accept ticket).state.find? id = (s.find? id).map ({ · with handle := .held }) := by
  rcases accept_cases s ticket with ⟨hno, -⟩ | ⟨i, hresult, hfind⟩
  · exact absurd h (hno id)
  · obtain rfl : i = id := by
      rw [hresult] at h
      simpa using h
    rw [hfind, if_pos rfl]

end StreamMux.Session

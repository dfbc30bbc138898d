/-
What two ends of a stream agree on once nothing is on its way between them any
more, on a connection that was not cut. FIN and RST may have crossed before that:
an end that is closed already takes no RST, so one end may stay closed while the
other was aborted. That is the only way to disagree, and it takes an application
that aborts its stream behind its own FIN and ahead of the other's.

A stream that both applications have let go of is forgotten by both ends.
-/
import StreamMux.Proofs.Concord

namespace StreamMux

/-- The phases of two ends that agree. -/
inductive Phase.Paired : Phase → Phase → Prop
  | both : Paired .open .open
  | ours : Paired .halfClosedLocal .halfClosedRemote
  | theirs : Paired .halfClosedRemote .halfClosedLocal
  | closed : Paired .closed .closed
  | reset : Paired .reset .reset

namespace Stream

variable {s s' a b : Stream} {maxPayload : UInt32} {e : Session.Event} {t : Traffic}

/-! ## Handles -/

theorem Step.silent (h : s.Step maxPayload e t s') (hd : s'.handle = .dropped) :
    s.handle = .dropped ∨ s'.localClosed = true ∨ s'.reset ≠ none := by
  cases h with
  | accept => cases hd
  | dropAborted _ hr =>
    exact .inr (.inr (by rw [settle_reset]; exact Option.isSome_iff_ne_none.mp hr))
  | dropHandle => exact .inr (.inl rfl)
  | windowUpdate => rw [grant_handle] at hd; exact .inl hd
  | fin => rw [settle_handle, finish_handle] at hd; exact .inl hd
  | reset | accused | rst => rw [aborted_handle] at hd; exact .inl hd
  | _ => exact .inl hd

/-! ## Phases of two ends -/

/-- The end `b` has taken in all that the end `a` has said of closing and aborting. -/
structure Informed (a b : Stream) : Prop where
  fin : b.reset = none → a.localClosed = true → b.remoteClosed = true
  finSent : b.remoteClosed = true → a.localClosed = true
  rst : a.reset = some .here → b.isTerminal = true
  cause : a.reset = none ∨ a.reset = some .here ∨ a.reset = some .peer ∧ b.reset = some .here

/-- An end that is aborted while the other is not has aborted itself, and the other is closed. -/
theorem Informed.closed (hab : Informed a b) (ha : a.reset ≠ none) (hb : b.reset = none) :
    a.reset = some .here ∧ a.localClosed = true ∧ b.phase = .closed := by
  rcases hab.cause with hnone | hhere | ⟨_, hother⟩
  · exact absurd hnone ha
  · obtain ⟨hl, hrc⟩ := closed_of_isTerminal (hab.rst hhere) hb
    exact ⟨hhere, hab.finSent hrc, by simp [phase, hb, hl, hrc]⟩
  · rw [hb] at hother
    cases hother

theorem Informed.remoteClosed_eq (hab : Informed a b) (hb : b.reset = none) :
    b.remoteClosed = a.localClosed := by
  cases hl : a.localClosed with
  | true => exact hab.fin hb hl
  | false =>
    cases hrc : b.remoteClosed with
    | false => rfl
    | true => rw [hab.finSent hrc] at hl; cases hl

/-- Two ends that have heard all of each other agree, unless one aborted itself behind
its own FIN and the other is closed. -/
theorem Informed.phases (hab : Informed a b) (hba : Informed b a) :
    Phase.Paired a.phase b.phase ∨ a.reset = some .here ∧ a.localClosed = true ∧ b.phase = .closed ∨
      b.reset = some .here ∧ b.localClosed = true ∧ a.phase = .closed := by
  by_cases ha : a.reset = none
  · by_cases hb : b.reset = none
    · left
      simp only [phase, ha, hb, hab.remoteClosed_eq hb, hba.remoteClosed_eq ha, Option.isSome_none,
        Bool.false_eq_true, if_false]
      cases a.localClosed <;> cases b.localClosed
      · exact .both
      · exact .theirs
      · exact .ours
      · exact .closed
    · exact .inr (.inr (hba.closed hb ha))
  · by_cases hb : b.reset = none
    · exact .inr (.inl (hab.closed ha hb))
    · left
      rw [a.phase_eq_reset_iff.mpr ha, b.phase_eq_reset_iff.mpr hb]
      exact .reset

/-- An end whose stream is aborted or let go of, like the other, forgets it. -/
theorem Informed.untracked (hba : Informed b a) (hs : a.Sound)
    (ha : a.reset ≠ none ∨ a.handle = .dropped ∧ a.localClosed = true)
    (hb : b.reset ≠ none ∨ b.localClosed = true) :
    a.tracked = false := by
  by_cases hr : a.reset = none
  · obtain ⟨hd, hl⟩ := ha.resolve_left (not_not_intro hr)
    refine hs.untracked_of_dropped ?_ hd
    rcases hb with hb | hb
    · rcases hba.cause with hnone | hhere | ⟨_, hother⟩
      · exact absurd hnone hb
      · exact hba.rst hhere
      · rw [hr] at hother
        cases hother
    · rw [isTerminal_eq, hl, hba.fin hr hb]
      simp
  · cases ht : a.tracked with
    | false => rfl
    | true => exact absurd (hs.reset_eq_none ht) hr

end Stream

namespace Session

variable {s : Session} {role : Role} {config : Config} {id : UInt32} {es : List Event} {st : Stream}
  {cause : ResetCause}

theorem silent_of_dropped (h : ((make role config).after es).find? id = some st)
    (hd : st.handle = .dropped) : st.reset ≠ none ∨ st.localClosed = true := by
  refine stream_induction (P := fun st _ => st.handle = .dropped → st.reset ≠ none ∨
    st.localClosed = true)
    (fun _ hd => nomatch hd) (fun _ hd => nomatch hd) (fun _ hd => nomatch hd)
    (fun st st' e t u _ hst ih hd => ?_) (fun st t fault _ ih hd => ?_) h hd
  · rcases hst.silent hd with hbefore | hl | hr
    · rcases ih hbefore with hr | hl
      · obtain ⟨cause, hcause⟩ := Option.ne_none_iff_exists'.mp hr
        exact .inl (by rw [hst.reset_of_reset hcause]; simp)
      · exact .inr (hst.localClosed_iff.mpr (.inl hl))
    · exact .inr hl
    · exact .inl hr
  · rw [tornDown_handle] at hd
    rw [tornDown]
    split
    · rcases ih hd with hr | hl
      · left
        rw [Stream.aborted_reset, if_pos (Stream.isTerminal_of_reset hr)]
        exact hr
      · exact .inr (Stream.aborted_localClosed.trans hl)
    · exact ih hd

end Session

namespace Link

variable {config : Config} {moves : List Move} {r : Role} {id : UInt32} {st peer : Stream}

/-- The SYN of the stream `id` was refused by the end `r`. -/
def Refused (config : Config) (moves : List Move) (r : Role) (id : UInt32) : Prop :=
  ∃ before m later, moves = before ++ m :: later ∧ ((make config).after before).Refuses m r id

/-- The application at the end `r` aborted its stream `id` when it had closed its own
direction and the FIN of the other end had not come. -/
def ResetBehindFin (config : Config) (moves : List Move) (r : Role) (id : UInt32) : Prop :=
  ∃ before m later st₀, moves = before ++ m :: later ∧
    ((make config).after before).Resets m r id st₀ ∧
    st₀.phase = .halfClosedLocal

theorem Refused.reset (hrefused : Refused config moves r id)
    (h : (((make config).after moves).endOf r).session.find? id = some st) :
    st.reset = some .here := by
  obtain ⟨before, m, later, rfl, hm⟩ := hrefused
  obtain ⟨rest, hw⟩ := hm.syn
  obtain rfl := hm.read
  have wf := wellFormed config before r
  have hdec : Frame.decode (Frame.syn id).encode config.maxFramePayload = .ok (.syn id) :=
    Frame.decode_encode rfl
  have hmay := mayOpen_of_underWay hw hdec rfl
  rw [← config_eq config before r] at hdec
  have hnew := Session.find?_of_refused wf hm.isOpen hdec rfl hmay (Nat.not_lt.mpr hm.full)
  obtain ⟨st', hst', hr⟩ :=
    Session.reset_after ((((make config).after before).step (.read r)).2.events r later)
    (Session.step_wellFormed wf (.message (Frame.syn id).encode)) hnew Stream.refused_reset
  rw [after_append, session_after, events, happens_read hw, only_self] at h
  have hsame : some st' = some st := hst'.symm.trans h
  rw [← Option.some.inj hsame]
  exact hr

theorem resetBehindFin (h : (((make config).after moves).endOf r).session.find? id = some st)
    (hr : st.reset = some .here) (hl : st.localClosed = true) :
    ResetBehindFin config moves r id := by
  obtain ⟨before, m, later, hmoves, ⟨st₀, hresets, hl₀, _⟩ | ⟨_, hopen, _⟩⟩ := origin h hr
  · refine ⟨before, m, later, st₀, hmoves, hresets, ?_⟩
    have hlive := hresets.live
    rw [Stream.isTerminal_eq, hl₀, hl] at hlive
    obtain ⟨hnone, hrc⟩ : st₀.reset = none ∧ st₀.remoteClosed = false := by simpa using hlive
    simp [Stream.phase, hnone, hl₀, hl, hrc]
  · rw [hl] at hopen
    cases hopen

theorem done_of_gone (h : (((make config).after moves).endOf r).session.find? id = some st)
    (hgone : st.handle = .dropped ∨ Refused config moves r id) :
    st.reset ≠ none ∨ st.handle = .dropped ∧ st.localClosed = true := by
  rcases hgone with hd | hrefused
  · have hs := h
    rw [session_of_run] at hs
    exact (Session.silent_of_dropped hs hd).imp_right fun hl => ⟨hd, hl⟩
  · exact .inl (by rw [hrefused.reset h]; simp)

theorem Quiet.inFlightOf {l : Link} (h : l.Quiet) (r : Role) (id : UInt32) :
    l.inFlightOf r id = [] := by
  obtain ⟨hc, hs, hc', hs'⟩ := h
  cases r <;> simp [Link.inFlightOf, inFlight, endOf, hc, hs, hc', hs']

section

variable (hcut : ((make config).after moves).cut = false)
  (hopen : ∀ r, (((make config).after moves).endOf r).session.ended = none)
  (hquiet : ((make config).after moves).Quiet)
include hcut hopen hquiet

theorem peer_of_quiet (h : (((make config).after moves).endOf r).session.find? id = some st) :
    ∃ peer, (((make config).after moves).endOf r.other).session.find? id = some peer := by
  cases hpeer : (((make config).after moves).endOf r.other).session.find? id with
  | some peer => exact ⟨peer, rfl⟩
  | none =>
    -- It has said nothing of the stream, so this end has opened it; but the SYN has not come.
    have hsaid := sent_of_some hcut (hopen r) h
    have hheard := sent_of_none hcut (hopen r.other) hpeer
    rw [session_of_run] at h hpeer
    rw [Conversation.passed_eq_empty hpeer] at hsaid
    rw [Role.other_other, hquiet.inFlightOf] at hheard
    obtain ⟨rest, hsyn, _⟩ := (Conversation.outbound h).opens
    rw [hheard] at hsyn
    cases ho : r.owns id <;> simp [ho, Stream.opening] at hsaid hsyn

theorem informed_of_quiet (h : (((make config).after moves).endOf r).session.find? id = some st)
    (hpeer : (((make config).after moves).endOf r.other).session.find? id = some peer) :
    st.Informed peer := by
  have c := conversation config moves
  have hended := hopen r
  have hsent := sent_of_some hcut (hopen r.other) hpeer
  rw [Role.other_other, hquiet.inFlightOf, List.append_nil] at hsent
  rw [session_of_run] at h hpeer hended
  have hcarries {type : FrameType} (hty : type ≠ .syn) :
      Carries type (passed config (history config moves) r id).sent ↔
      Carries type (passed config (history config moves) r.other id).got := by
    rw [hsent]
    exact Conversation.carries_opening hty
  have hout := Conversation.outbound h
  have hin := Conversation.inbound hpeer
  refine ⟨fun hnone hl => ?_, fun hrc => ?_, fun hhere => ?_, ?_⟩
  · exact hin.finTaken hnone ((hcarries (by simp)).mp (hout.fin.mp hl))
  · exact hout.fin.mpr ((hcarries (by simp)).mpr (hin.fin hrc))
  · exact hin.rstTaken ((hcarries (by simp)).mp (hout.rst.mp (.inl hhere)))
  · by_cases hr : st.reset = none
    · exact .inl hr
    · rcases c.reset_cases h hr with hover | hhere | ⟨hcause, st', hst', hhere⟩
      · exact absurd hended hover
      · exact .inr (.inl hhere)
      · rw [hpeer] at hst'
        cases hst'
        exact .inr (.inr ⟨hcause, hhere⟩)

/-- Once nothing is queued or under way, and as long as the connection was not cut and
both sessions are open, the two ends of each stream are in phases that match, or one
is aborted and the other closed: then the aborted end was reset by its application
behind its own FIN and ahead of the other's. If both applications have let the stream
go, or one end refused it and the other let it go, neither end tracks it. -/
theorem settling (h : (((make config).after moves).endOf r).session.find? id = some st) :
    ∃ peer, (((make config).after moves).endOf r.other).session.find? id = some peer ∧
      (Phase.Paired st.phase peer.phase ∨
        st.phase = .reset ∧ peer.phase = .closed ∧ ResetBehindFin config moves r id ∨
        st.phase = .closed ∧ peer.phase = .reset ∧ ResetBehindFin config moves r.other id) ∧
      (st.handle = .dropped ∨ Refused config moves r id →
        peer.handle = .dropped ∨ Refused config moves r.other id → st.tracked = false ∧
          peer.tracked = false) := by
  obtain ⟨peer, hpeer⟩ := peer_of_quiet hcut hopen hquiet h
  have hthere := informed_of_quiet hcut hopen hquiet h hpeer
  have hback : peer.Informed st :=
    informed_of_quiet hcut hopen hquiet hpeer (by rw [Role.other_other]; exact h)
  refine ⟨peer, hpeer, ?_, fun hgone hgone' => ?_⟩
  · rcases hthere.phases hback with hpaired | ⟨hhere, hl, hclosed⟩ | ⟨hhere, hl, hclosed⟩
    · exact .inl hpaired
    · have hreset : st.phase = .reset := st.phase_eq_reset_iff.mpr (by simp [hhere])
      exact .inr (.inl ⟨hreset, hclosed, resetBehindFin h hhere hl⟩)
    · have hreset : peer.phase = .reset := peer.phase_eq_reset_iff.mpr (by simp [hhere])
      exact .inr (.inr ⟨hclosed, hreset, resetBehindFin hpeer hhere hl⟩)
  · have hsound {r' : Role} {st' : Stream}
        (h' : (((make config).after moves).endOf r').session.find? id = some st') :
        st'.Sound := (wellFormed config moves r').sound st' (Session.mem_of_find? h')
    have hdone := done_of_gone h hgone
    have hdone' := done_of_gone hpeer hgone'
    exact ⟨hback.untracked (hsound h) hdone (hdone'.imp_right And.right),
      hthere.untracked (hsound hpeer) hdone' (hdone.imp_right And.right)⟩

end

/-- The client aborts its stream behind its FIN, while the FIN of the server is on its way. -/
def crossed : List Move :=
  [.call .client .openStream, .call .client (.closeWrite 1), .call .client (.reset 1),
    .write .client, .write .client, .write .client, .read .server, .call .server (.accept 0),
    .call .server (.closeWrite 1), .read .server, .read .server, .write .server, .read .client,
    .call .client (.dropHandle 1), .call .server (.dropHandle 1)]

theorem settling_of_crossed : ∃ peer,
    (((make ⟨4, 4, 50, 1⟩).after crossed).endOf .server).session.find? 1 = some peer ∧
      peer.phase = .closed ∧
      ResetBehindFin ⟨4, 4, 50, 1⟩ crossed .client 1 ∧ peer.tracked = false := by
  obtain ⟨peer, hpeer, hphases, huntracked⟩ :=
    @settling ⟨4, 4, 50, 1⟩ crossed .client 1 _ rfl (by rintro (_ | _) <;> rfl)
      ⟨rfl, rfl, rfl, rfl⟩ rfl
  refine ⟨peer, hpeer, ?_⟩
  obtain rfl := Option.some.inj hpeer
  refine ⟨rfl, ?_, (huntracked (.inl rfl) (.inl rfl)).2⟩
  rcases hphases with hpaired | ⟨_, _, hbehind⟩ | ⟨hclosed, _⟩
  · nomatch hpaired
  · exact hbehind
  · nomatch hclosed

end Link
end StreamMux

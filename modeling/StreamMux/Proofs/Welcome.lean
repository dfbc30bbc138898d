/-
What a session makes of a peer that keeps to the rules. `Welcome` says when a
frame breaks none of them; as long as every message is a welcome frame, no
stream is aborted for a violation, no credit is lost, and what a stream takes in
is all that came for its id, behind the SYN if the peer opened it.
-/
import StreamMux.Proofs.Balance
import StreamMux.Proofs.Birth

namespace StreamMux

theorem Frame.eq_syn {f : Frame} {max : UInt32} (h : f.Legal max) (ht : f.type = .syn) :
    f = .syn f.streamId := by
  obtain ⟨type, id, payload⟩ := f
  subst ht
  simp only [Legal, FrameType.fixedLength?, List.length_eq_zero_iff] at h
  rw [h]
  rfl

theorem Frame.eq_fin {f : Frame} {max : UInt32} (h : f.Legal max) (ht : f.type = .fin) :
    f = .fin f.streamId := by
  obtain ⟨type, id, payload⟩ := f
  subst ht
  simp only [Legal, FrameType.fixedLength?, List.length_eq_zero_iff] at h
  rw [h]
  rfl

namespace Session

/-- A frame that breaks no rule: SYN has an id the peer may open, everything else
is about a stream there is or was, DATA comes before FIN and within the window,
and credit fits. -/
structure Welcome (s : Session) (f : Frame) : Prop where
  syn : f.type = .syn → s.mayOpen f.streamId = true
  known : f.type ≠ .syn → ∃ st, s.find? f.streamId = some st
  data : f.type = .data → ∀ st, s.tracked? f.streamId = some st →
    st.remoteClosed = false ∧ ∃ recv, st.recv.receive f.payload.length = .ok recv
  credit : f.type = .windowUpdate → ∀ st, s.tracked? f.streamId = some st →
    (st.grant (f.credit?.getD 0)).1 = true

/-- A message that comes to the open session is a welcome frame. -/
def Expected (s : Session) (e : Event) : Prop :=
  ∀ message, e = .message message → s.ended = none →
    ∃ f, Frame.decode message s.config.maxFramePayload = .ok f ∧ s.Welcome f

variable {s : Session} {e : Event} {st st' : Stream} {t u : Traffic} {f : Frame} {message : Bytes}

theorem Expected.welcome (h : s.Expected (.message message)) (hopen : s.ended = none)
    (hdec : Frame.decode message s.config.maxFramePayload = .ok f) : s.Welcome f := by
  obtain ⟨g, hg, hw⟩ := h message rfl hopen
  rw [hdec] at hg
  cases hg
  exact hw

theorem tracked?_of_tracked (wf : s.WellFormed) (h : s.find? st.id = some st)
    (ht : st.tracked = true) : s.tracked? st.id = some st := by
  rw [tracked?_of_find? wf h, if_pos ht]

/-- Nobody is accused over a welcome frame. -/
theorem Expected.not_accused (he : s.Expected (.message message)) (wf : s.WellFormed)
    (h : s.find? st.id = some st)
    (ht : st.tracked = true) {got : List Frame} :
    ¬ st.Accusation s.config.maxFramePayload message got := by
  have hopen := wf.open_of_tracked h ht
  intro ha
  cases ha with
  | @violation f v hdec hty hid hv =>
    have htr := tracked?_of_tracked wf h ht
    rw [← hid] at htr
    obtain ⟨hrc, recv, hrec⟩ := (he.welcome hopen hdec).data hty st htr
    rw [receive_of_ok ((wf.sound st (mem_of_find? h)).reset_eq_none ht) hrc hrec] at hv
    split at hv
    · cases hv
    · split at hv <;> cases hv
  | lost hdec =>
    obtain ⟨f, hok, _⟩ := he message rfl hopen
    rw [hdec] at hok
    cases hok


variable {role : Role} {config : Config} {id : UInt32} {es : List Event}

/-- A stream whose peer keeps to the rules is not aborted for a violation, and its
credit is exactly what it was given less what it spent, until it is final. -/
structure Fair (initial : Nat) (st : Stream) (t : Traffic) : Prop where
  innocent : st.reset ≠ some .violation
  exact : st.isTerminal = false → st.send.credit.toNat + (payloads t.sent).length =
    initial + credits t.got

theorem Fair.step {initial : Nat} (h : Fair initial st t) (wf : s.WellFormed)
    (hfind : s.find? st.id = some st)
    (he : s.Expected e) (hstep : st.Step s.config.maxFramePayload e u st') :
    Fair initial st' (t ++ u) := by
  have hs := wf.sound st (mem_of_find? hfind)
  refine ⟨fun hr => ?_, fun hlive => ?_⟩
  · cases hstep with
    | reset | rst =>
      rw [Stream.aborted_reset] at hr
      split at hr
      · exact h.innocent hr
      · cases hr
    | accused ht ha => exact he.not_accused wf hfind ht ha
    | windowUpdate => exact h.innocent (by rwa [Stream.grant_reset] at hr)
    | fin => exact h.innocent (by rwa [Stream.settle_reset, Stream.finish_reset] at hr)
    | _ => exact h.innocent hr
  · have hold := h.exact (by
      cases hterm : st.isTerminal with
      | false => rfl
      | true => rw [hstep.isTerminal hterm] at hlive; cases hlive)
    have hspent := hstep.spent_eq hs hlive fun f hf hty ht => by
      obtain ⟨hid, message, rfl, hdec⟩ := hstep.got_cases hf
      have htr := tracked?_of_tracked wf hfind ht
      rw [← hid] at htr
      exact (he.welcome (wf.open_of_tracked hfind ht) hdec).credit hty st htr
    simp only [Traffic.sent_append, Traffic.got_append, payloads_append, credits_append,
      List.length_append]
    omega

theorem Fair.torn {initial : Nat} (h : Fair initial st t) (cause : Fault) :
    Fair initial (tornDown cause st) t := by
  rw [tornDown]
  split
  · refine ⟨fun hr => ?_, fun hlive => ?_⟩
    · rw [Stream.aborted_reset] at hr
      split at hr
      · exact h.innocent hr
      · cases hr
    · rw [Stream.isTerminal_aborted] at hlive
      cases hlive
  · exact h

theorem Fair.make {handle : Handle} {sent : List Frame} (hp : payloads sent = []) :
    Fair config.initialWindow.toNat (.make id config handle) { sent } := by
  refine ⟨by simp [Stream.make], fun _ => ?_⟩
  simp [hp, Stream.make]

theorem Fair.refused {initial : Nat} {sent : List Frame} :
    Fair initial ((Stream.make id config .unclaimed).aborted .here) { sent } := by
  refine ⟨by simp [Stream.refused_reset], fun hlive => ?_⟩
  rw [Stream.isTerminal_aborted] at hlive
  cases hlive

theorem fair (hw : Throughout Expected (make role config) es)
    (h : ((make role config).after es).find? id = some st) :
    Fair config.initialWindow.toNat st ((make role config).traffic id es) := by
  refine stream_induction_of hw (fun _ => .make rfl) (fun _ => .make rfl) (fun _ => .refused)
    (fun s st st' e t u wf hconfig hfind he hst ih => ?_) (fun st t cause _ ih => ih.torn cause) h
  subst hconfig
  have hid := find?_id hfind
  rw [← hid] at hfind
  exact ih.step wf hfind he hst

/-! ## The order of frames -/

/-- What comes for an id the session does not know is the SYN that makes it known. -/
theorem taken_of_unknown (he : s.Expected e) (h : s.find? id = none) (hf : f ∈ s.taken e)
    (hid : f.streamId = id) : f = .syn id ∧ s.mayOpen id = true ∧
      ∃ message, e = .message message ∧ Frame.decode message s.config.maxFramePayload = .ok f ∧
        s.ended = none := by
  cases e with
  | message message =>
    cases hended : s.ended with
    | some fault => rw [taken_of_ended hended] at hf; cases hf
    | none =>
    obtain ⟨g, hdec, hw⟩ := he message rfl hended
    rw [taken_of_ok hended hdec] at hf
    obtain rfl := List.mem_singleton.mp hf
    have hty : f.type = .syn := by
      by_cases hty : f.type = .syn
      · exact hty
      · obtain ⟨st, hst⟩ := hw.known hty
        rw [hid, h] at hst
        cases hst
    have hsyn := Frame.eq_syn (Frame.legal_of_decode hdec) hty
    rw [hid] at hsyn
    refine ⟨hsyn, ?_, message, rfl, hdec, rfl⟩
    rw [← hid]
    exact hw.syn hty
  | call | connectionEnded | connectionFailed | sent => cases hf

theorem taken_filter_of_syn (he : e = .message message) (hopen : s.ended = none)
    (hdec : Frame.decode message s.config.maxFramePayload = .ok f) (hty : f.type = .syn) :
    (s.taken e).filter (·.streamId == f.streamId) = [.syn f.streamId] := by
  subst he
  rw [taken_of_ok hopen hdec, Frame.eq_syn (Frame.legal_of_decode hdec) hty]
  simp [Frame.syn]

theorem taken_filter_of_none (wf : s.WellFormed) (he : s.Expected e) (h : s.find? id = none) :
    (s.taken e).filter (·.streamId == id) =
      match (s.step e).state.find? id with
      | none => []
      | some _ => Stream.opening (!s.role.owns id) id := by
  have hc := change_of_step wf e id
  have nothing (hn : ∀ f ∈ s.taken e, f.streamId ≠ id) :
      (s.taken e).filter (·.streamId == id) = [] := by
    rw [List.filter_eq_nil_iff]
    exact fun f hf hid => hn f hf (by simpa using hid)
  rw [h] at hc
  generalize s.trafficOf e id = u at hc
  generalize ho : (s.step e).state.find? id = o at hc ⊢
  cases hc with
  | absent =>
    refine nothing fun f hf hid => ?_
    obtain ⟨hsyn, hm, message, rfl, hdec, hopen⟩ := taken_of_unknown he h hf hid
    rw [← hid] at hm ho
    obtain ⟨st, hst⟩ := find?_of_syn wf hopen hdec (by rw [hsyn]; rfl) hm
    rw [ho] at hst
    cases hst
  | opened howns =>
    simp only [howns]
    refine nothing fun f hf hid => ?_
    have hm := (taken_of_unknown he h hf hid).2.1
    rw [(mayOpen_iff.mp hm).2.1] at howns
    cases howns
  | announced hmsg hopen hdec hty hid hm | refused hmsg hopen hdec hty hid hm =>
    subst hid
    simp only [(mayOpen_iff.mp hm).2.1]
    exact taken_filter_of_syn hmsg hopen hdec hty

/-- All that comes for an id passes its stream, behind the SYN if the peer opened it. -/
theorem takenOf_filter (id : UInt32) (hw : Throughout Expected (make role config) es) :
    ((make role config).takenOf es).filter (·.streamId == id) =
      match ((make role config).after es).find? id with
      | none => []
      | some _ => Stream.opening (!role.owns id) id ++ ((make role config).traffic id es).got := by
  induction es using List.reverseRecOn with
  | nil => rfl
  | append_singleton es e ih =>
    obtain ⟨hbefore, hnow⟩ := throughout_concat.mp hw
    have wf := wellFormed_after role config es
    have hrole := role_after role config es
    rw [takenOf_concat, List.filter_append, traffic_concat, after_concat, ih hbefore]
    cases ho : ((make role config).after es).find? id with
    | some st =>
      have hgot : (((make role config).after es).taken e).filter (·.streamId == id) =
          (((make role config).after es).trafficOf e id).got := by simp [trafficOf, ho]
      obtain ⟨st', hst'⟩ : ∃ st', (((make role config).after es).step e).state.find? id =
          some st' := by
        have hc := change_of_step wf e id
        rw [ho] at hc
        generalize ((make role config).after es).trafficOf e id = u at hc
        generalize (((make role config).after es).step e).state.find? id = o at hc ⊢
        cases hc <;> exact ⟨_, rfl⟩
      rw [hgot, hst']
      simp
    | none =>
      have hgot : (((make role config).after es).trafficOf e id).got = [] := by simp [trafficOf, ho]
      rw [taken_filter_of_none wf hnow ho, hrole, traffic_eq_empty ho, Traffic.empty_append, hgot]
      simp

end Session
end StreamMux

/-
What a stream has sent, at any time and whatever its peer does: the SYN of a
stream opened here stands first and only there, DATA carries exactly what write
calls accepted and comes before FIN, and FIN and RST are sent if and only if the
state of the stream says so. Every frame is legal.
-/
import StreamMux.Proofs.History

namespace StreamMux.Stream

variable {s s' : Stream} {maxPayload : UInt32} {e : Session.Event} {t : Traffic}

/-- Aborted on this side, so that the peer was told. -/
def AbortedHere (s : Stream) : Prop := s.reset = some .here ∨ s.reset = some .violation

/-! ## Frames by kind -/

@[simp] theorem payloads_updateFrames {c : Option UInt32} :
    payloads (s.updateFrames c) = [] := by cases c <;> rfl
@[simp] theorem payloads_abortFrames :
    payloads s.abortFrames = [] := by simp only [abortFrames]; split <;> rfl
@[simp] theorem payloads_readFrames {room : Nat} : payloads (s.readFrames room) = [] := by
  simp only [readFrames]
  split
  · exact payloads_updateFrames
  · rfl
@[simp] theorem payloads_dropFrames : payloads s.dropFrames = [] := by
  simp only [dropFrames, payloads_append, payloads_updateFrames, List.nil_append]
  split <;> rfl

theorem not_carries_updateFrames {c : Option UInt32} {type : FrameType} (h : type ≠ .windowUpdate) :
    ¬ Carries type (s.updateFrames c) := by
  rintro ⟨f, hf, ht⟩
  obtain ⟨_, rfl⟩ := mem_updateFrames hf
  exact h ht.symm

theorem not_carries_readFrames {room : Nat} {type : FrameType} (h : type ≠ .windowUpdate) :
    ¬ Carries type (s.readFrames room) := by
  simp only [readFrames]
  split
  · exact not_carries_updateFrames h
  · exact carries_nil

theorem carries_abortFrames {type : FrameType} : Carries type s.abortFrames ↔ s.isTerminal = false ∧
    type = .rst := by
  simp only [abortFrames]
  cases s.isTerminal <;> simp [Frame.rst, eq_comm]

theorem carries_dropFrames {type : FrameType} (h : type ≠ .windowUpdate) :
    Carries type s.dropFrames ↔ s.localClosed = false ∧ type = .fin := by
  simp only [dropFrames, carries_append, not_carries_updateFrames h, false_or]
  cases s.localClosed <;> simp [Frame.fin, eq_comm]

/-! ## One step -/

/-- DATA carries what the write call accepted. -/
theorem Step.payloads_sent (h : s.Step maxPayload e t s') : payloads t.sent = t.wrote := by
  cases h with
  | write => simp [Frame.data]
  | _ => simp [Frame.fin]

/-- No DATA is sent after FIN. -/
theorem Step.wrote_eq_nil (h : s.Step maxPayload e t s') (hl : s.localClosed = true) :
    t.wrote = [] := by
  cases h with
  | write _ _ hopen => rw [hl] at hopen; cases hopen
  | _ => rfl

theorem Step.data_first (h : s.Step maxPayload e t s') :
    payloads (beforeFin t.sent) = payloads t.sent := by
  have nothing (hw : t.wrote = []) : payloads (beforeFin t.sent) = payloads t.sent := by
    have hp : payloads (beforeFin t.sent) <+: payloads t.sent :=
      payloads_mono (List.takeWhile_prefix _)
    rw [h.payloads_sent, hw, List.prefix_nil] at hp
    rw [hp, h.payloads_sent, hw]
  cases h with
  | write => rw [beforeFin_of_not_carries (by simp [Frame.data])]
  | _ => exact nothing rfl

theorem Step.localClosed_iff (h : s.Step maxPayload e t s') :
    s'.localClosed = true ↔ s.localClosed = true ∨ Carries .fin t.sent := by
  cases h with
  | closeWrite => simp [Frame.fin]
  | dropHandle => simp [afterDrop, carries_dropFrames]
  | reset | accused | rst => simp [carries_abortFrames]
  | read => simp [not_carries_readFrames]
  | write => simp [Frame.data]
  | dataForNobody => simp [not_carries_updateFrames]
  | _ => simp

theorem abortedHere_aborted {cause : ResetCause} :
    (s.aborted cause).AbortedHere ↔ s.AbortedHere ∨ s.isTerminal = false ∧
      (cause = .here ∨ cause = .violation) := by
  have hterm := isTerminal_eq s
  simp only [AbortedHere, aborted_reset]
  cases ht : s.isTerminal with
  | true => simp
  | false =>
    rw [ht] at hterm
    have hr : s.reset = none := by cases hr : s.reset <;> simp_all
    simp [hr]

theorem Step.abortedHere_iff (h : s.Step maxPayload e t s') :
    s'.AbortedHere ↔ s.AbortedHere ∨ Carries .rst t.sent := by
  cases h with
  | reset | accused => simp [carries_abortFrames, abortedHere_aborted]
  | rst => simp [abortedHere_aborted]
  | closeWrite => simp [AbortedHere, Frame.fin]
  | dropHandle _ hr => simp [AbortedHere, afterDrop, carries_dropFrames]
  | read => simp [AbortedHere, not_carries_readFrames]
  | write => simp [AbortedHere, Frame.data]
  | dataForNobody => simp [AbortedHere, not_carries_updateFrames]
  | _ => simp [AbortedHere]

/-! ## Every step so far -/

/-- The SYN that stands before all else on a stream opened here. -/
def opening (own : Bool) (id : UInt32) : List Frame := if own then [.syn id] else []

/-- What a stream has sent, by its state. `own` says whether it was opened here. -/
structure Outbound (own : Bool) (maxPayload : UInt32) (s : Stream) (t : Traffic) : Prop where
  legal : ∀ f ∈ t.sent, f.Legal maxPayload
  opens : ∃ rest, t.sent = opening own s.id ++ rest ∧ ¬ Carries .syn rest
  data : payloads t.sent = t.wrote
  dataFirst : payloads (beforeFin t.sent) = payloads t.sent
  dataFull : ∀ f ∈ t.sent, f.type = .data → f.payload ≠ []
  fin : s.localClosed = true ↔ Carries .fin t.sent
  rst : s.AbortedHere ↔ Carries .rst t.sent

variable {own : Bool} {u : Traffic}

theorem Step.legal (h : s.Step maxPayload e t s') : ∀ f ∈ t.sent, f.Legal maxPayload := by
  intro f hf
  rcases h.sent_cases hf with ⟨p, rfl, _, hp⟩ | ⟨c, rfl⟩ | rfl | rfl
  · exact hp
  all_goals rfl

theorem Step.dataFull (h : s.Step maxPayload e t s') : ∀ f ∈ t.sent, f.type = .data →
    f.payload ≠ [] := by
  intro f hf hty
  rcases h.sent_cases hf with ⟨p, rfl, hp, _⟩ | ⟨c, rfl⟩ | rfl | rfl
  · exact hp
  all_goals cases hty

theorem Step.not_carries_syn (h : s.Step maxPayload e t s') : ¬ Carries .syn t.sent := by
  rintro ⟨f, hf, ht⟩
  rcases h.sent_cases hf with ⟨p, rfl, _, _⟩ | ⟨c, rfl⟩ | rfl | rfl <;> cases ht

theorem Outbound.step (h : Outbound own maxPayload s t) (hstep : s.Step maxPayload e u s') :
    Outbound own maxPayload s' (t ++ u) where
  legal f hf := by
    rcases List.mem_append.mp hf with hf | hf
    · exact h.legal f hf
    · exact hstep.legal f hf
  opens := by
    obtain ⟨rest, hsent, hrest⟩ := h.opens
    refine ⟨rest ++ u.sent, ?_, ?_⟩
    · rw [Traffic.sent_append, hsent, hstep.id_eq, List.append_assoc]
    · rw [carries_append]
      exact not_or.mpr ⟨hrest, hstep.not_carries_syn⟩
  data := by simp [h.data, hstep.payloads_sent]
  dataFirst := by
    rw [Traffic.sent_append]
    by_cases hfin : Carries .fin t.sent
    · rw [beforeFin_append hfin, payloads_append, h.dataFirst, hstep.payloads_sent,
        hstep.wrote_eq_nil (h.fin.mpr hfin), List.append_nil]
    · rw [beforeFin_append_of_not_carries hfin, payloads_append, payloads_append, hstep.data_first]
  dataFull f hf := by
    rcases List.mem_append.mp hf with hf | hf
    · exact h.dataFull f hf
    · exact hstep.dataFull f hf
  fin := by rw [hstep.localClosed_iff, h.fin, Traffic.sent_append, carries_append]
  rst := by rw [hstep.abortedHere_iff, h.rst, Traffic.sent_append, carries_append]

theorem Outbound.torn (h : Outbound own maxPayload s t) (cause : Fault) :
    Outbound own maxPayload (Session.tornDown cause s) t := by
  have hid := Session.tornDown_id cause s
  refine ⟨h.legal, by rw [hid]; exact h.opens, h.data, h.dataFirst, h.dataFull, ?_, ?_⟩
  · rw [← h.fin, Session.tornDown]
    split <;> simp
  · rw [← h.rst, Session.tornDown]
    split
    · simp [abortedHere_aborted]
    · rfl

/-- No DATA comes after FIN. -/
theorem Outbound.not_data_of_fin (h : Outbound own maxPayload s t) {before : List Frame} {f : Frame}
    (hp : before ++ [f] <+: t.sent) (hfin : Carries .fin before) : f.type ≠ .data := by
  intro hty
  have hmem : f ∈ t.sent := hp.subset (by simp)
  have hsame : beforeFin t.sent = beforeFin before :=
    (beforeFin_eq hp (carries_append.mpr (.inl hfin))).symm.trans (beforeFin_append hfin)
  have hle : payloads (before ++ [f]) <+: payloads (beforeFin before) := by
    rw [← hsame, h.dataFirst]
    exact payloads_mono hp
  have hless : payloads (beforeFin before) <+: payloads before :=
    payloads_mono (List.takeWhile_prefix _)
  have hlen := hle.length_le
  have hlen' := hless.length_le
  simp only [payloads_append, payloads_cons, hty, if_true, payloads_nil, List.append_nil,
    List.length_append] at hlen
  have hnil : f.payload = [] := List.length_eq_zero_iff.mp (by omega)
  exact h.dataFull f hmem hty hnil

/-- A stream at its beginning, on either side. -/
theorem Outbound.make {id : UInt32} {config : Config} {handle : Handle} :
    Outbound own maxPayload (.make id config handle) { sent := opening own id } := by
  cases own <;> refine ⟨?_, ⟨[], by simp [Stream.make], carries_nil⟩, rfl, rfl, ?_, ?_, ?_⟩ <;>
    simp [opening, Stream.make, AbortedHere, Frame.syn, Frame.Legal, FrameType.fixedLength?]

theorem Outbound.refused {id : UInt32} {config : Config} :
    Outbound false maxPayload ((Stream.make id config .unclaimed).aborted .here)
      { sent := [.rst id] } := by
  refine ⟨?_, ⟨[.rst id], rfl, by simp [Frame.rst]⟩, rfl, rfl, ?_, ?_, ?_⟩
  · simp [Frame.rst, Frame.Legal, FrameType.fixedLength?]
  · simp [Frame.rst]
  · simp [Stream.make, Frame.rst]
  · simp only [carries_cons, Frame.rst, true_or, iff_true]
    exact .inl rfl

end StreamMux.Stream

namespace StreamMux.Session

/-- What streams have sent, in every session that can be met. -/
theorem outbound {role : Role} {config : Config} {id : UInt32} {es : List Event} {st : Stream}
    (h : ((make role config).after es).find? id = some st) :
    st.Outbound (role.owns id) config.maxFramePayload ((make role config).traffic id es) := by
  refine stream_induction (fun ho => ?_) (fun ho => ?_) (fun ho => ?_)
    (fun st st' e t u _ hst ih => ih.step hst) (fun st t cause _ ih => ih.torn cause) h
  · rw [ho]; exact .make
  · rw [ho]; exact .make
  · rw [ho]; exact .refused

variable {s s' : Session} {e : Event} {t : Traffic} {id : UInt32} {role : Role} {config : Config}
  {es es' : List Event} {f : Frame}

theorem payloads_sent : payloads ((make role config).traffic id es).sent =
    ((make role config).traffic id es).wrote := by
  cases h : ((make role config).after es).find? id with
  | none => rw [traffic_eq_empty h]; rfl
  | some st => exact (outbound h).data

/-- Nothing is accepted on a stream once its FIN is queued. -/
theorem wrote_of_fin (h : Carries .fin ((make role config).traffic id es).sent) :
    ((make role config).traffic id (es ++ es')).wrote =
      ((make role config).traffic id es).wrote := by
  have first {es : List Event} (h : Carries .fin ((make role config).traffic id es).sent) :
      payloads (beforeFin ((make role config).traffic id es).sent) =
          ((make role config).traffic id es).wrote := by
    cases hfind : ((make role config).after es).find? id with
    | none => rw [traffic_eq_empty hfind] at h; simp at h
    | some st => rw [(outbound hfind).dataFirst, payloads_sent]
  have hlater : Carries .fin ((make role config).traffic id (es ++ es')).sent := by
    rw [traffic_append, Traffic.sent_append, carries_append]
    exact .inl h
  rw [← first hlater, ← first h, traffic_append, Traffic.sent_append, beforeFin_append h]

/-! ## The order of SYNs -/

theorem frames_eq (h : ∀ i, s.trafficOf e i = if i = id then t else {}) :
    (s.step e).frames = t.sent := by
  have hids : ∀ f ∈ (s.step e).frames, f.streamId = id := by
    intro f hf
    by_cases hi : f.streamId = id
    · exact hi
    · have hnone : (s.trafficOf e f.streamId).sent = [] := by rw [h, if_neg hi]
      have hmem : f ∈ (s.trafficOf e f.streamId).sent := List.mem_filter.mpr ⟨hf, by simp⟩
      rw [hnone] at hmem
      cases hmem
  have hself : (s.trafficOf e id).sent = (s.step e).frames := filter_self hids
  rw [← hself, h, if_pos rfl]

theorem frames_eq_nil (h : ∀ i, s.trafficOf e i = {}) : (s.step e).frames = [] :=
  frames_eq (t := {}) fun i => (h i).trans (ite_self (c := i = 0) _).symm

/-- A step queues a SYN only to open the next stream of this side. -/
theorem Turn.syns (h : s.Turn e s') :
    (∀ f ∈ (s.step e).frames, f.type ≠ .syn) ∨ ∃ id, s.nextId = some id ∧
      (s.step e).frames = [.syn id] := by
  cases h with
  | quiet ht | claimed _ _ _ ht | announced _ _ _ _ _ ht | late _ _ _ _ _ ht | ended _ _ ht =>
    rw [frames_eq_nil ht]
    exact .inl fun f hf => nomatch hf
  | touched _ _ hst ht =>
    rw [frames_eq ht]
    exact .inl fun f hf hty => hst.not_carries_syn ⟨f, hf, hty⟩
  | opened _ _ hn ht => exact .inr ⟨_, hn, frames_eq ht⟩
  | refused _ _ _ _ _ _ ht =>
    rw [frames_eq ht]
    refine .inl fun f hf => ?_
    rw [List.mem_singleton.mp hf]
    simp [Frame.rst]

/-- Whatever is queued is about a stream of the session. -/
theorem stream_of_frame (hf : f ∈ (make role config).framesOf es) :
    ∃ st, ((make role config).after es).find? f.streamId = some st := by
  cases ho : ((make role config).after es).find? f.streamId with
  | some st => exact ⟨st, rfl⟩
  | none =>
    have hmem : f ∈ ((make role config).traffic f.streamId es).sent := by
      rw [sent_traffic]
      exact List.mem_filter.mpr ⟨hf, by simp⟩
    rw [traffic_eq_empty ho] at hmem
    cases hmem

theorem legal_of_frame (hf : f ∈ (make role config).framesOf es) :
    f.Legal config.maxFramePayload := by
  obtain ⟨st, hst⟩ := stream_of_frame hf
  refine (outbound hst).legal f ?_
  rw [sent_traffic]
  exact List.mem_filter.mpr ⟨hf, by simp⟩

theorem owns_of_syn (hf : f ∈ (make role config).framesOf es) (hty : f.type = .syn) :
    role.owns f.streamId = true := by
  obtain ⟨st, hst⟩ := stream_of_frame hf
  obtain ⟨rest, hsent, hrest⟩ := (outbound hst).opens
  have hmem : f ∈ ((make role config).traffic f.streamId es).sent := by
    rw [sent_traffic]
    exact List.mem_filter.mpr ⟨hf, by simp⟩
  rw [hsent, List.mem_append] at hmem
  rcases hmem with hmem | hmem
  · cases ho : role.owns f.streamId with
    | true => rfl
    | false => rw [ho] at hmem; cases hmem
  · exact absurd ⟨f, hmem, hty⟩ hrest

/-- Streams are opened in the order of their ids. -/
theorem syns_sorted (role : Role) (config : Config) (es : List Event) :
    ((make role config).framesOf es).Pairwise fun f g => f.type = .syn → g.type = .syn →
      f.streamId < g.streamId := by
  induction es using List.reverseRecOn with
  | nil => exact .nil
  | append_singleton es e ih =>
    have wf := wellFormed_after role config es
    rw [framesOf_concat, List.pairwise_append]
    rcases (turn_of_step wf e).syns with hnone | ⟨id, hn, hframes⟩
    · refine ⟨ih, List.pairwise_of_forall_mem_list fun f hf _ _ hty => absurd hty (hnone f hf), ?_⟩
      exact fun f _ g hg _ hty => absurd hty (hnone g hg)
    · rw [hframes]
      refine ⟨ih, List.pairwise_singleton _ _, fun f hf g hg hty _ => ?_⟩
      rw [List.mem_singleton.mp hg]
      obtain ⟨st, hst⟩ := stream_of_frame hf
      have howns := owns_of_syn hf hty
      rw [← role_after role config es, ← find?_id hst] at howns
      rw [← find?_id hst]
      exact wf.below st (mem_of_find? hst) howns id hn

end StreamMux.Session

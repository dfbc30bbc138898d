/-
What a stream has taken in, at any time and whatever its peer does: reads have
returned a first part of the DATA before the first FIN, all of which is returned
or still unread unless it was thrown away, and the state of the stream tells
whether FIN and RST have come.
-/
import StreamMux.Proofs.Outbound

namespace StreamMux

theorem payloads_beforeFin_append {fs gs : List Frame} (h : ∀ f ∈ gs, f.type ≠ .data) :
    payloads (beforeFin (fs ++ gs)) = payloads (beforeFin fs) := by
  by_cases hfin : Carries .fin fs
  · rw [beforeFin_append hfin]
  · have hnil : payloads (beforeFin gs) = [] :=
      payloads_eq_nil fun f hf => h f (List.takeWhile_prefix _ |>.subset hf)
    rw [beforeFin_append_of_not_carries hfin, beforeFin_of_not_carries hfin, payloads_append, hnil,
      List.append_nil]

namespace Stream

variable {s s' : Stream} {maxPayload : UInt32} {e : Session.Event} {t u : Traffic} {f : Frame}
  {cause : ResetCause}

/-! ## Final streams -/

theorem isTerminal_of_reset (h : s.reset ≠ none) : s.isTerminal = true := by
  rw [isTerminal_eq]
  cases hr : s.reset with
  | none => exact absurd hr h
  | some _ => rfl

theorem reset_tornDown {fault : Fault} (h : s.reset ≠ none) :
    (Session.tornDown fault s).reset = s.reset := by
  rw [Session.tornDown]
  split
  · rw [aborted_reset, if_pos (isTerminal_of_reset h)]
  · rfl

theorem closed_of_isTerminal (h : s.isTerminal = true) (hr : s.reset = none) :
    s.localClosed = true ∧ s.remoteClosed = true := by
  rw [isTerminal_eq, hr] at h
  simpa using h

theorem isTerminal_congr (hr : s'.reset = s.reset) (hl : s'.localClosed = s.localClosed)
    (hrc : s'.remoteClosed = s.remoteClosed) : s'.isTerminal = s.isTerminal := by
  rw [isTerminal_eq, isTerminal_eq, hr, hl, hrc]

theorem Step.isTerminal (h : s.Step maxPayload e t s') (ht : s.isTerminal = true) :
    s'.isTerminal = true := by
  cases h with
  | reset | accused | rst => exact isTerminal_aborted
  | closeWrite | dropHandle | fin =>
    rw [isTerminal_eq, Bool.or_eq_true, Bool.and_eq_true] at ht ⊢
    simp only [settle_reset, settle_localClosed, settle_remoteClosed, afterDrop, finish_reset,
      finish_localClosed, finish_remoteClosed, Bool.or_eq_true]
    rcases ht with ht | ⟨hl, hrc⟩
    · exact .inl ht
    · simp [hl, hrc]
  | windowUpdate =>
    exact (isTerminal_congr grant_reset grant_localClosed grant_remoteClosed).trans ht
  | read => exact (isTerminal_congr rfl rfl rfl).trans ht
  | _ => exact ht

theorem Step.reset_of_reset (h : s.Step maxPayload e t s') (hr : s.reset = some cause) :
    s'.reset = some cause := by
  have hterm : s.isTerminal = true := isTerminal_of_reset (by simp [hr])
  cases h with
  | reset | accused | rst => rw [aborted_reset, if_pos hterm]; exact hr
  | windowUpdate => rwa [grant_reset]
  | fin => rwa [settle_reset, finish_reset]
  | _ => exact hr

/-! ## Every step so far -/

/-- What a stream has taken in, by its state. -/
structure Inbound (s : Stream) (t : Traffic) : Prop where
  returned : t.returned <+: payloads (beforeFin t.got)
  /-- As long as nothing is thrown away. -/
  whole : s.reset.filter (·.discardsData) = none → s.handle ≠ .dropped →
    t.returned ++ s.unread = payloads (beforeFin t.got)
  fin : s.remoteClosed = true → Carries .fin t.got
  finTaken : s.reset = none → Carries .fin t.got → s.remoteClosed = true
  rst : s.reset = some .peer → Carries .rst t.got
  rstTaken : Carries .rst t.got → s.isTerminal = true

theorem Inbound.returned_append (h : Inbound s t) (hu : u.returned = []) :
    (t ++ u).returned <+: payloads (beforeFin (t ++ u).got) := by
  rw [Traffic.returned_append, hu, List.append_nil]
  exact h.returned.trans (payloads_mono beforeFin_mono)

theorem Inbound.keep (h : Inbound s t) (hgot : u.got = []) (hreturned : u.returned = [])
    (hr : s'.reset = s.reset) (hrc : s'.remoteClosed = s.remoteClosed)
    (hd : s'.handle ≠ .dropped → s.handle ≠ .dropped ∧ s'.unread = s.unread)
    (hterm : s.isTerminal = true → s'.isTerminal = true) : Inbound s' (t ++ u) := by
  have hsame : (t ++ u).got = t.got := by rw [Traffic.got_append, hgot, List.append_nil]
  refine ⟨h.returned_append hreturned, fun hf hh => ?_, fun hc => ?_, fun hn hc => ?_,
    fun hp => ?_, fun hc => ?_⟩
  · rw [hsame, Traffic.returned_append, hreturned, List.append_nil, (hd hh).2]
    exact h.whole (by rw [← hr]; exact hf) (hd hh).1
  · rw [hsame]; exact h.fin (by rw [← hrc]; exact hc)
  · rw [hsame] at hc; rw [hrc]; exact h.finTaken (by rw [← hr]; exact hn) hc
  · rw [hsame]; exact h.rst (by rw [← hr]; exact hp)
  · rw [hsame] at hc; exact hterm (h.rstTaken hc)

/-- An abort that throws unread bytes away, over the frames `u.got`. -/
theorem Inbound.discard {cause : ResetCause} (h : Inbound s t) (hc : cause.discardsData = true)
    (hu : u.returned = [])
    (hdata : s.isTerminal = true → payloads (beforeFin (t.got ++ u.got)) =
      payloads (beforeFin t.got))
    (hpeer : cause = .peer → Carries .rst u.got) : Inbound (s.aborted cause) (t ++ u) := by
  refine ⟨h.returned_append hu, fun hf hh => ?_, fun hrc => ?_, fun hn _ => ?_, fun hp => ?_,
    fun _ => isTerminal_aborted⟩
  · rw [aborted_reset] at hf
    rw [aborted_handle] at hh
    cases hterm : s.isTerminal with
    | false => simp [hterm, hc] at hf
    | true =>
      rw [hterm, if_pos rfl] at hf
      rw [aborted_unread, hterm, Bool.true_or, if_pos rfl, Traffic.got_append, hdata hterm,
        Traffic.returned_append, hu, List.append_nil]
      exact h.whole hf hh
  · rw [aborted_remoteClosed] at hrc
    exact carries_append.mpr (.inl (h.fin hrc))
  · rw [aborted_reset] at hn
    rw [aborted_remoteClosed]
    cases hterm : s.isTerminal with
    | false => simp [hterm] at hn
    | true => exact (closed_of_isTerminal hterm (by rwa [hterm, if_pos rfl] at hn)).2
  · rw [aborted_reset] at hp
    rw [Traffic.got_append, carries_append]
    cases hterm : s.isTerminal with
    | false =>
      rw [hterm] at hp
      exact .inr (hpeer (Option.some.inj hp))
    | true =>
      rw [hterm] at hp
      exact .inl (h.rst hp)

/-- DATA that a stream takes, with what becomes of the unread bytes. -/
theorem Inbound.data (h : Inbound s t) (hty : f.type = .data) (hr : s.reset = none)
    (hrc : s.remoteClosed = false)
    (hgot : u.got = [f]) (hu : u.returned = []) (hr' : s'.reset = s.reset)
    (hrc' : s'.remoteClosed = s.remoteClosed)
    (hl : s'.localClosed = s.localClosed)
    (hd : s'.handle ≠ .dropped → s.handle ≠ .dropped ∧ s'.unread = s.unread ++ f.payload) :
    Inbound s' (t ++ u) := by
  have hfin : ¬ Carries .fin t.got := fun hc => by rw [h.finTaken hr hc] at hrc; cases hrc
  have hfin' : ¬ Carries .fin (t.got ++ [f]) := by simp [hfin, hty]
  refine ⟨h.returned_append hu, fun hf hh => ?_, fun hc => ?_, fun _ hc => ?_,
    fun hp => ?_, fun hc => ?_⟩
  · have hwhole := h.whole (by rw [hr]; rfl) (hd hh).1
    rw [beforeFin_of_not_carries hfin] at hwhole
    rw [Traffic.got_append, hgot, beforeFin_of_not_carries hfin', Traffic.returned_append, hu,
      (hd hh).2, payloads_append, ← hwhole]
    simp [hty]
  · rw [hrc', hrc] at hc; cases hc
  · rw [Traffic.got_append, hgot] at hc
    exact absurd hc hfin'
  · rw [hr', hr] at hp; cases hp
  · rw [Traffic.got_append, hgot, carries_append] at hc
    rw [isTerminal_congr hr' hl hrc']
    rcases hc with hc | hc
    · exact h.rstTaken hc
    · simp [hty] at hc

/-- A frame other than DATA that counts, with no byte read or thrown away. -/
theorem Inbound.take (h : Inbound s t) (hgot : u.got = [f]) (hu : u.returned = [])
    (hdata : s.reset.filter (·.discardsData) = none → payloads (beforeFin (t.got ++ [f])) =
      payloads (beforeFin t.got))
    (hr : s'.reset = s.reset) (hd : s'.handle = s.handle) (hunread : s'.unread = s.unread)
    (hclosed : s'.remoteClosed = true → s.remoteClosed = true ∨ f.type = .fin)
    (hfin : s.reset = none → s.remoteClosed = true ∨ f.type = .fin → s'.remoteClosed = true)
    (hterm : s.isTerminal = true ∨ f.type = .rst → s'.isTerminal = true) : Inbound s' (t ++ u) := by
  have hcarries {type : FrameType} : Carries type (t ++ u).got ↔ Carries type t.got ∨
      f.type = type := by
    rw [Traffic.got_append, hgot, carries_append, carries_cons]
    simp
  refine ⟨h.returned_append hu, fun hf hh => ?_, fun hc => ?_, fun hn hc => ?_,
    fun hp => ?_, fun hc => ?_⟩
  · rw [hr] at hf
    rw [Traffic.got_append, hgot, hdata hf, Traffic.returned_append, hu, List.append_nil, hunread]
    exact h.whole hf (by rw [← hd]; exact hh)
  · rw [hcarries]
    exact (hclosed hc).imp_left h.fin
  · rw [hr] at hn
    exact hfin hn ((hcarries.mp hc).imp_left (h.finTaken hn))
  · rw [hr] at hp
    exact hcarries.mpr (.inl (h.rst hp))
  · exact hterm ((hcarries.mp hc).imp_left h.rstTaken)

theorem Inbound.read {room : Nat} {sent : List Frame} (h : Inbound s t) (hh : s.handle = .held)
    (hf : s.reset.filter (·.discardsData) = none)
    (hterm : s.isTerminal = true → (s.afterRead room).settle.isTerminal = true) :
    Inbound (s.afterRead room).settle (t ++ { sent, returned := (s.drain room).1 }) := by
  have hwhole := h.whole hf (by rw [hh]; simp)
  have hall : t.returned ++ (s.drain room).1 ++ (s.afterRead room).settle.unread =
      payloads (beforeFin t.got) := by
    rw [settle_unread, afterRead_unread, drain_fst, List.append_assoc, List.take_append_drop,
      hwhole]
  have hsame : (t ++ { sent, returned := (s.drain room).1 } : Traffic).got = t.got := by simp
  refine ⟨?_, fun _ _ => ?_, fun hc => ?_, fun hn hc => ?_, fun hp => ?_, fun hc => ?_⟩
  · rw [hsame]; exact ⟨_, hall⟩
  · rw [hsame]; exact hall
  · rw [hsame]; exact h.fin hc
  · rw [hsame] at hc; exact h.finTaken hn hc
  · rw [hsame]; exact h.rst hp
  · rw [hsame] at hc; exact hterm (h.rstTaken hc)

/-- A frame that is routed nowhere: it is a SYN, or the stream is forgotten and so is final. -/
theorem Inbound.unheeded (h : Inbound s t) (hs : s.Sound) (hun : s.tracked = false ∨ f.type = .syn)
    (hd : ∀ cause, s.reset ≠ some (.teardown cause)) : Inbound s (t ++ { got := [f] }) := by
  have hfinal (hty : f.type ≠ .syn) : s.isTerminal = true := hs.terminal (hun.resolve_right hty)
  refine h.take rfl rfl (fun hf => ?_) rfl rfl rfl .inl (fun hn hc => ?_) (fun hc => ?_)
  · by_cases hty : f.type = .syn
    · exact payloads_beforeFin_append (by simp [hty])
    · cases hr : s.reset with
      | none => rw [beforeFin_append (h.fin (closed_of_isTerminal (hfinal hty) hr).2)]
      | some cause =>
        cases cause with
        | teardown fault => exact absurd hr (hd fault)
        | here | peer | violation => rw [hr] at hf; cases hf
  · rcases hc with hc | hty
    · exact hc
    · exact (closed_of_isTerminal (hfinal (by simp [hty])) hn).2
  · rcases hc with hc | hty
    · exact hc
    · exact hfinal (by simp [hty])

theorem Inbound.step (h : Inbound s t) (hs : s.Sound) (hstep : s.Step maxPayload e u s') :
    Inbound s' (t ++ u) := by
  have hterm := hstep.isTerminal
  cases hstep with
  | still => rw [Traffic.append_empty]; exact h
  | accept hu =>
    exact h.keep rfl rfl rfl rfl (fun _ => ⟨by rw [hu]; simp, rfl⟩) hterm
  | readWaits hh | writeWaits hh | write hh | closeWrite hh =>
    exact h.keep rfl rfl rfl rfl (fun hd => ⟨hd, rfl⟩) hterm
  | dropAborted | dropHandle => exact h.keep rfl rfl rfl rfl (fun hd => absurd rfl hd) hterm
  | read hh _ _ hf => exact h.read hh hf hterm
  | reset => exact h.discard rfl rfl (fun _ => by simp) (by simp)
  | unheeded _ _ hun hd => exact h.unheeded hs hun hd
  | @data message f recv _ _ hty ht hr hrc _ hh hp =>
    exact h.data hty hr hrc rfl rfl rfl rfl rfl fun hd => ⟨hd, by simp [unread]⟩
  | @emptyData message f recv _ _ hty ht hr hrc _ hh hp =>
    exact h.data hty hr hrc rfl rfl rfl rfl rfl fun hd => ⟨hd, by simp [unread, hp]⟩
  | dataForNobody _ _ hty ht hr hrc _ hh =>
    exact h.data hty hr hrc rfl rfl rfl rfl rfl fun hd => absurd hh hd
  | accused ht ha =>
    refine h.discard rfl rfl (fun hterm => ?_) (by simp)
    exact beforeFin_append (h.fin (closed_of_isTerminal hterm (hs.reset_eq_none ht)).2) ▸ rfl
  | @windowUpdate message f _ _ hty ht =>
    refine h.take rfl rfl (fun _ => payloads_beforeFin_append (by simp [hty])) grant_reset
      grant_handle grant_unread
      (fun hc => .inl (by rwa [grant_remoteClosed] at hc)) (fun _ hc => ?_) (fun hc => ?_)
    · rw [grant_remoteClosed]
      simpa [hty] using hc
    · exact hterm (by simpa [hty] using hc)
  | @fin message f _ _ hty ht =>
    have hn := hs.reset_eq_none ht
    refine h.take rfl rfl (fun _ => payloads_beforeFin_append (by simp [hty])) finish_reset
      finish_handle finish_unread (fun _ => .inr hty) (fun _ _ => ?_) (fun hc => ?_)
    · rw [settle_remoteClosed, finish_remoteClosed, hn]
      simp
    · exact hterm (by simpa [hty] using hc)
  | rst _ _ hty =>
    exact h.discard rfl rfl (fun _ => payloads_beforeFin_append (by simp [hty])) (by simp [hty])

theorem Inbound.torn (h : Inbound s t) (hs : s.Sound) (cause : Fault) :
    Inbound (Session.tornDown cause s) t := by
  rw [Session.tornDown]
  split
  next ht =>
    have hn := hs.reset_eq_none ht
    have hwhole := h.whole (by rw [hn]; rfl)
    refine ⟨h.returned, fun _ hd => ?_, fun hc => ?_, fun hn' hc => ?_, fun hp => ?_,
      fun _ => isTerminal_aborted⟩
    · rw [aborted_unread, if_pos (by simp [ResetCause.discardsData])]
      exact hwhole (by rwa [aborted_handle] at hd)
    · exact h.fin (by rwa [aborted_remoteClosed] at hc)
    · rw [aborted_remoteClosed]
      exact h.finTaken hn hc
    · rw [aborted_reset, hn] at hp
      split at hp <;> cases hp
  · exact h

theorem Inbound.make {id : UInt32} {config : Config} {handle : Handle} {sent : List Frame} :
    Inbound (.make id config handle) { sent } := by
  refine ⟨List.prefix_rfl, fun _ _ => rfl, ?_, fun _ hc => ?_, ?_, fun hc => ?_⟩
  · simp [Stream.make]
  · simp at hc
  · simp [Stream.make]
  · simp at hc

theorem Inbound.refused {id : UInt32} {config : Config} {sent : List Frame} :
    Inbound ((Stream.make id config .unclaimed).aborted .here) { sent } := by
  rw [← Traffic.empty_append { sent }]
  exact Inbound.make.discard rfl rfl (fun _ => rfl) (by simp)

end Stream

namespace Session

/-- What streams have taken in, in every session that can be met. -/
theorem inbound {role : Role} {config : Config} {id : UInt32} {es : List Event} {st : Stream}
    (h : ((make role config).after es).find? id = some st) :
    st.Inbound ((make role config).traffic id es) := by
  exact stream_induction (fun _ => .make) (fun _ => .make) (fun _ => .refused)
    (fun st st' e t u hs hst ih => ih.step hs hst) (fun st t cause hs ih => ih.torn hs cause) h

variable {s : Session} {id : UInt32} {st : Stream} {cause : ResetCause}

theorem reset_after (es : List Event) (wf : s.WellFormed) (h : s.find? id = some st)
    (hr : st.reset = some cause) :
    ∃ st', (s.after es).find? id = some st' ∧ st'.reset = some cause := by
  obtain ⟨st', hst', hr', -⟩ :=
    hereafter (P := fun st => st.reset = some cause) (R := fun _ => True)
    (fun _ _ _ _ _ _ hst hr => ⟨hst.reset_of_reset hr, fun _ _ => trivial⟩)
    (fun _ _ hr => (Stream.reset_tornDown (by simp [hr])).trans hr) es wf h hr
  exact ⟨st', hst', hr'⟩

/-- A read with room that returns no bytes has found the end of the stream. -/
theorem eof_of_read {room : Nat} {expired : Bool} (wf : s.WellFormed) (hroom : 0 < room)
    (h : (s.step (.call (.read id room expired))).result = .got (.ready (.ok []))) :
    ∃ st, s.find? id = some st ∧ st.handle = .held ∧ st.remoteClosed = true ∧
      st.reset.filter (·.discardsData) = none ∧ st.unread = [] := by
  simp only [step, call, onHeld] at h
  cases hh : s.held? id with
  | none => rw [hh] at h; cases h
  | some st =>
    rw [hh] at h
    rw [held?_eq wf.distinct] at hh
    obtain ⟨hfind, hheld⟩ := Option.filter_eq_some_iff.mp hh
    have hbuffered := (wf.sound st (mem_of_find? hfind)).buffered_eq
    refine ⟨st, hfind, by simpa using hheld, ?_⟩
    simp only [Outcome.as, read] at h
    rw [if_neg (by omega)] at h
    split at h
    · cases h
    next hr =>
    split at h
    next hb =>
      split at h
      next hrc => exact ⟨hrc, hr, List.length_eq_zero_iff.mp (by omega)⟩
      · split at h
        · cases h
        · cases expired <;> cases h
    next hb =>
      -- Unread bytes make for an answer with bytes.
      have hnil : (st.drain room).1 = [] := by
        simp only [Reply.got.injEq, Poll.ready.injEq, Except.ok.injEq] at h
        exact h
      rw [Stream.drain_fst, List.take_eq_nil_iff] at hnil
      rcases hnil with hz | hz
      · omega
      · rw [hz] at hbuffered
        exact absurd hbuffered hb

end Session
end StreamMux

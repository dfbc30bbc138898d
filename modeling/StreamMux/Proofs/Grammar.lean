/-
What a session queues for one of its streams, whatever the peer sends and the
application asks for, is a word of a small language:

    SYN? (DATA | WINDOW_UPDATE)* (FIN WINDOW_UPDATE*)? RST?

with the SYN for the streams that were opened here and for no others. Frames are
queued in many places, each with guards of its own; what all of them have in
common is which frame may come behind which (`FrameType.Precedes`), and that is
all the language asks for.
-/
import StreamMux.Proofs.Batching
import StreamMux.Proofs.Birth
import Mathlib.Computability.RegularExpressions

namespace StreamMux

/-! ## The language -/

namespace FrameType

/-- What a stream sends, behind its SYN if it has one. -/
def body : RegularExpression FrameType :=
  .star (.char .data + .char .windowUpdate) *
    ((1 + .char .fin * .star (.char .windowUpdate)) * (1 + .char .rst))

/-- The second frame of a stream may come behind the first, not only right behind it. -/
def Precedes : FrameType → FrameType → Prop
  | .fin, next => next = .windowUpdate ∨ next = .rst
  | .rst, _ => False
  | _, next => next ≠ .syn

variable {types : List FrameType} {type : FrameType}

/-- One more round of a loop. -/
theorem cons_mem_star_mul {loop rest : RegularExpression FrameType} (hone : [type] ∈ loop.matches')
    (h : types ∈ (loop.star * rest).matches') : type :: types ∈ (loop.star * rest).matches' := by
  obtain ⟨rounds, hrounds, others, hothers, rfl⟩ := Language.mem_mul.mp h
  obtain ⟨words, rfl, hwords⟩ := Language.mem_kstar.mp hrounds
  refine Language.mem_mul.mpr ⟨type :: words.flatten, ?_, others, hothers, rfl⟩
  refine Language.mem_kstar.mpr ⟨[type] :: words, rfl, fun word hword => ?_⟩
  rcases List.mem_cons.mp hword with rfl | hword
  · exact hone
  · exact hwords word hword

theorem mem_star_mul {loop rest : RegularExpression FrameType} (h : types ∈ rest.matches') :
    types ∈ (loop.star * rest).matches' :=
  Language.mem_mul.mpr ⟨[], Language.nil_mem_kstar _, types, h, rfl⟩

theorem nil_of_rst (h : (FrameType.rst :: types).Pairwise Precedes) : types = [] := by
  cases types with
  | nil => rfl
  | cons next rest => exact ((List.pairwise_cons.mp h).1 next List.mem_cons_self).elim

theorem mem_updates (h : types.Pairwise Precedes)
    (hfin : ∀ next ∈ types, next = .windowUpdate ∨ next = .rst) :
    types ∈ (.star (.char .windowUpdate) * (1 + .char .rst) : RegularExpression
      FrameType).matches' := by
  induction types with
  | nil => exact mem_star_mul (.inl rfl)
  | cons type types ih =>
    rcases hfin type List.mem_cons_self with rfl | rfl
    · exact cons_mem_star_mul rfl (ih (List.pairwise_cons.mp h).2
        fun next hn => hfin next (List.mem_cons_of_mem _ hn))
    · obtain rfl := nil_of_rst h
      exact mem_star_mul (.inr rfl)

/-- Frames in a permitted order are a word of the language. -/
theorem mem_body (h : types.Pairwise Precedes) (hsyn : FrameType.syn ∉ types) :
    types ∈ body.matches' := by
  induction types with
  | nil => exact mem_star_mul (Language.mem_mul.mpr ⟨[], .inl rfl, [], .inl rfl, rfl⟩)
  | cons type types ih =>
    obtain ⟨hnext, hrest⟩ := List.pairwise_cons.mp h
    have ih := ih hrest fun hmem => hsyn (List.mem_cons_of_mem _ hmem)
    cases type with
    | syn => exact absurd List.mem_cons_self hsyn
    | data => exact cons_mem_star_mul (.inl rfl) ih
    | windowUpdate => exact cons_mem_star_mul (.inr rfl) ih
    | fin =>
      obtain ⟨updates, hupdates, last, hlast, rfl⟩ := Language.mem_mul.mp (mem_updates hrest hnext)
      refine mem_star_mul (Language.mem_mul.mpr ⟨.fin :: updates, .inr ?_, last, hlast, rfl⟩)
      exact Language.mem_mul.mpr ⟨[.fin], rfl, updates, hupdates, rfl⟩
    | rst =>
      obtain rfl := nil_of_rst h
      exact mem_star_mul (Language.mem_mul.mpr ⟨[], .inl rfl, [.rst], .inr rfl, rfl⟩)

end FrameType

namespace Stream

variable {s s' : Stream} {maxPayload threshold : UInt32} {e : Session.Event} {t u : Traffic}
  {fs : List Frame} {own : Bool} {f : Frame}

/-! ## One step -/

theorem Step.sent_of_isTerminal (h : s.Step maxPayload e u s') (hterm : s.isTerminal = true) :
    u.sent = [] := by
  have hdead : ¬ s.Receives := not_receives_of_isTerminal hterm
  cases h with
  | read => exact readFrames_of_not_receives hdead
  | write _ hr hl | closeWrite _ hr hl =>
    rw [(closed_of_isTerminal hterm hr).1] at hl
    cases hl
  | reset | accused => exact if_pos hterm
  | dropHandle _ hr =>
    obtain ⟨hl, hrc⟩ := closed_of_isTerminal hterm hr
    simp [dropFrames, refund, hl, hrc, updateFrames]
  | dataForNobody _ _ _ _ hr hrc => exact absurd ⟨hr, hrc⟩ hdead
  | _ => rfl

/-- Behind its FIN a stream only gives credit back or aborts. -/
theorem Step.sent_of_localClosed (h : s.Step maxPayload e u s') (hl : s.localClosed = true)
    (hf : f ∈ u.sent) : f.type = .windowUpdate ∨ f.type = .rst := by
  have update {c : Option UInt32} (hf : f ∈ s.updateFrames c) : f.type = .windowUpdate ∨
      f.type = .rst := by
    obtain ⟨_, rfl⟩ := mem_updateFrames hf
    exact .inl rfl
  cases h with
  | write _ _ hopen | closeWrite _ _ hopen => rw [hl] at hopen; cases hopen
  | read =>
    rw [readFrames] at hf
    split at hf
    · exact update hf
    · cases hf
  | dropHandle =>
    rw [dropFrames, hl, if_pos rfl, List.append_nil] at hf
    exact update hf
  | dataForNobody => exact update hf
  | reset | accused => rw [mem_abortFrames hf]; exact .inr rfl
  | _ => cases hf

theorem Step.receives (h : s.Step maxPayload e u s') (hr : s'.Receives) : s.Receives := by
  cases h with
  | reset | accused | rst => exact absurd hr (not_receives_of_isTerminal isTerminal_aborted)
  | windowUpdate => exact ⟨grant_reset.symm.trans hr.1, grant_remoteClosed.symm.trans hr.2⟩
  | fin =>
    have hreset : s.reset = none := finish_reset.symm.trans hr.1
    have hclosed : s.finish.remoteClosed = false := hr.2
    simp [hreset] at hclosed
  | _ => exact hr

/-- Credit goes back only while the peer may use it. -/
theorem Step.not_carries_windowUpdate (h : s.Step maxPayload e u s') (hr : ¬ s'.Receives) :
    ¬ Carries .windowUpdate u.sent := by
  cases h with
  | read =>
    have hdead : ¬ s.Receives := hr
    simp [readFrames_of_not_receives hdead]
  | dropHandle _ hreset =>
    have hrc : s.remoteClosed = true := by
      cases hrc : s.remoteClosed with
      | true => rfl
      | false => exact absurd ⟨hreset, hrc⟩ hr
    rw [dropFrames, refund, if_pos hrc]
    split <;> simp [updateFrames, Frame.fin]
  | dataForNobody _ _ _ _ hreset hrc => exact absurd ⟨hreset, hrc⟩ hr
  | reset | accused => simp [carries_abortFrames]
  | write | closeWrite => simp [Frame.data, Frame.fin]
  | _ => exact carries_nil

theorem ordered_updateFrames (c : Option UInt32) (last : List Frame)
    (h : last = [] ∨ last = [.fin s.id]) :
    (s.updateFrames c ++ last).Pairwise fun f g => f.type.Precedes g.type := by
  rcases h with rfl | rfl <;> cases c <;> simp [updateFrames, Frame.fin, Frame.windowUpdate,
    FrameType.Precedes]

theorem Step.ordered (h : s.Step maxPayload e u s') :
    u.sent.Pairwise fun f g => f.type.Precedes g.type := by
  cases h with
  | read =>
    rw [readFrames]
    split
    · simpa using s.ordered_updateFrames _ [] (.inl rfl)
    · exact .nil
  | dropHandle =>
    refine s.ordered_updateFrames _ _ ?_
    split
    · exact .inl rfl
    · exact .inr rfl
  | dataForNobody => simpa using s.ordered_updateFrames _ [] (.inl rfl)
  | reset | accused =>
    rw [abortFrames]
    split
    · exact .nil
    · exact List.pairwise_singleton _ _
  | write | closeWrite => exact List.pairwise_singleton _ _
  | _ => exact .nil

/-- What a step sends may come behind all that the stream has sent. -/
theorem Step.precedes (h : s.Step maxPayload e u s') (ho : s.Outbound own maxPayload t) :
    ∀ f ∈ t.sent, ∀ g ∈ u.sent, f.type.Precedes g.type := by
  intro f hf g hg
  have hsyn : g.type ≠ .syn := fun hty => h.not_carries_syn ⟨g, hg, hty⟩
  cases hty : f.type with
  | syn | data | windowUpdate => exact hsyn
  | fin => exact h.sent_of_localClosed (ho.fin.mpr ⟨f, hf, hty⟩) hg
  | rst =>
    have hhere := ho.rst.mpr ⟨f, hf, hty⟩
    have hreset : s.reset ≠ none := by rcases hhere with hr | hr <;> simp [hr]
    rw [h.sent_of_isTerminal (isTerminal_of_reset hreset)] at hg
    cases hg

theorem Step.batch (h : s.Step maxPayload e u s') (hb : s.Batched threshold) (hf : f ∈ u.sent)
    (hty : f.type = .windowUpdate) : ∃ c, f.credit? = some c ∧ threshold.toNat ≤ c.toNat := by
  have batch {recv : RecvWindow} {n : Nat} (ht : recv.threshold = threshold)
      (hf : f ∈ s.updateFrames (recv.consume n).1) :
      ∃ c, f.credit? = some c ∧ threshold.toNat ≤ c.toNat := by
    cases hc : (recv.consume n).1 with
    | none => rw [hc] at hf; cases hf
    | some c =>
      rw [hc] at hf
      rw [List.mem_singleton.mp hf, ← ht]
      exact ⟨c, Frame.credit?_windowUpdate _ _, RecvWindow.threshold_le_of_consume hc⟩
  cases h with
  | read =>
    rw [readFrames] at hf
    split at hf
    · exact batch hb.threshold_eq hf
    · cases hf
  | dropHandle =>
    rcases List.mem_append.mp hf with hf | hf
    · rw [refund] at hf
      split at hf
      · cases hf
      · exact batch hb.threshold_eq hf
    · split at hf
      · cases hf
      · rw [List.mem_singleton.mp hf] at hty; cases hty
  | dataForNobody _ _ _ _ _ _ hrec =>
    exact batch ((RecvWindow.receive_threshold hrec).trans hb.threshold_eq) hf
  | reset | accused => rw [mem_abortFrames hf] at hty; cases hty
  | write | closeWrite => rw [List.mem_singleton.mp hf] at hty; cases hty
  | _ => cases hf

/-! ## Credit for what was let in -/

/-- DATA that the stream takes in and that its window has room for. -/
def admits (s : Stream) (f : Frame) : Bool :=
  s.tracked && s.reset.isNone && !s.remoteClosed && f.type = .data && f.payload.length ≤
    s.recv.remaining.toNat

/-- A stream that receives lets in all the bytes that come. -/
theorem Step.payloads_admitted (h : s.Step maxPayload e u s') (hs : s.Sound) (hr : s'.Receives) :
    payloads (u.got.filter s.admits) = payloads u.got := by
  have hbefore := h.receives hr
  have nothing {f : Frame} (hty : f.type ≠ .data) : payloads ([f].filter s.admits) =
      payloads [f] := by
    simp [admits, hty]
  have whole {f : Frame} {recv : RecvWindow} (ht : s.tracked = true) (hty : f.type = .data)
      (hrec : s.recv.receive f.payload.length = .ok recv) : payloads ([f].filter s.admits) =
          payloads [f] := by
    have hroom := (RecvWindow.receive_ok hrec).1
    have hfits : s.admits f = true := by
      simp only [admits, ht, hbefore.1, hbefore.2, hty]
      simp
      omega
    rw [List.filter_cons_of_pos hfits, List.filter_nil]
  cases h with
  | unheeded _ _ hun =>
    refine nothing ?_
    have hty := hun.resolve_left fun ht => not_receives_of_isTerminal (hs.terminal ht) hr
    simp [hty]
  | data _ _ hty ht _ _ hrec | emptyData _ _ hty ht _ _ hrec | dataForNobody _ _ hty ht _ _ hrec =>
    exact whole ht hty hrec
  | windowUpdate _ _ hty | fin _ _ hty => exact nothing (by simp [hty])
  | accused | rst => exact absurd hr (not_receives_of_isTerminal isTerminal_aborted)
  | _ => rfl

/-- Credit that went back is for bytes that were let in. -/
structure Repaid (s : Stream) (t : Traffic) (admitted : List Frame) : Prop where
  kept : s.Receives → payloads t.got = payloads admitted
  given : credits t.sent ≤ (payloads admitted).length

theorem Repaid.step {initial : Nat} (h : s.Repaid t fs) (hs : s.Sound)
    (hb : s'.Balance initial (t ++ u))
    (hstep : s.Step maxPayload e u s') : s'.Repaid (t ++ u) (fs ++ u.got.filter s.admits) := by
  by_cases hr : s'.Receives
  · have hsame : payloads (t ++ u).got = payloads (fs ++ u.got.filter s.admits) := by
      rw [Traffic.got_append, payloads_append, payloads_append, h.kept (hstep.receives hr),
        hstep.payloads_admitted hs hr]
    refine ⟨fun _ => hsame, ?_⟩
    have hkept := hb.kept hr
    rw [hsame] at hkept
    omega
  · refine ⟨fun hr' => absurd hr' hr, ?_⟩
    have hgiven := h.given
    have hnone : credits u.sent = 0 :=
      credits_eq_zero fun f hf hty => hstep.not_carries_windowUpdate hr ⟨f, hf, hty⟩
    rw [Traffic.sent_append, credits_append, hnone, payloads_append, List.length_append]
    omega

theorem Repaid.torn (h : s.Repaid t fs) (cause : Fault) :
    (Session.tornDown cause s).Repaid t fs := by
  refine Session.tornDown_of (P := (Repaid · t fs)) h ⟨fun hr => ?_, h.given⟩
  exact absurd hr (not_receives_of_isTerminal isTerminal_aborted)

theorem isTerminal_tornDown {cause : Fault} (h : s.isTerminal = true) :
    (Session.tornDown cause s).isTerminal = true :=
  Session.tornDown_of (P := fun s => s.isTerminal = true) h isTerminal_aborted

theorem not_receives_tornDown {cause : Fault} (h : ¬ s.Receives) :
    ¬ (Session.tornDown cause s).Receives :=
  Session.tornDown_of (P := fun s => ¬ s.Receives) h (not_receives_of_isTerminal isTerminal_aborted)

end Stream

namespace Session

variable {role : Role} {config : Config} {id : UInt32} {es before later : List Event}
  {st : Stream} {f : Frame}

/-- The application opened the stream `id` in the course of these events. -/
def Opens (s : Session) (id : UInt32) (es : List Event) : Prop :=
  (.call .openStream, .opened (.ok id)) ∈ s.trace es

theorem opens_iff : (make role config).Opens id es ↔
    role.owns id = true ∧ ((make role config).after es).find? id ≠ none := by
  induction es using List.reverseRecOn with
  | nil => exact ⟨(nomatch ·), fun h => absurd rfl h.2⟩
  | append_singleton es e ih =>
    have wf := wellFormed_after role config es
    have hrole := role_after role config es
    rw [Opens, trace_append, List.mem_append, ← Opens, ih, after_concat]
    generalize (make role config).after es = s at wf hrole
    constructor
    · rintro (⟨howns, hsome⟩ | hnow)
      · refine ⟨howns, ?_⟩
        obtain ⟨st, hst⟩ := Option.ne_none_iff_exists'.mp hsome
        obtain ⟨st', hst'⟩ := find?_after [e] wf hst
        rw [show (s.step e).state = s.after [e] from rfl, hst']
        simp
      · obtain ⟨rfl, hanswer⟩ := Prod.mk.inj (List.mem_singleton.mp hnow)
        obtain ⟨-, howns, hsome, -⟩ := opened_of_answer wf hanswer.symm
        exact ⟨hrole ▸ howns, by rw [hsome]; simp⟩
    · rintro ⟨howns, hsome⟩
      by_cases hbefore : s.find? id = none
      · obtain ⟨rfl, hanswer⟩ := answer_of_opened wf (hrole.symm ▸ howns) hbefore hsome
        exact .inr (by rw [trace, trace, hanswer]; exact List.mem_singleton.mpr rfl)
      · exact .inl ⟨howns, hbefore⟩

/-! ## Any run -/

/-- What a session queues for the stream `id` in the course of the events, and what
it queues when these are its first. -/
structure Grammatical (s : Session) (id : UInt32) (es : List Event) : Prop where
  opened : s.Opens id es →
    ∃ rest, s.framesFor id es = .syn id :: rest ∧ rest.map (·.type) ∈ FrameType.body.matches'
  answered : ¬ s.Opens id es → (s.framesFor id es).map (·.type) ∈ FrameType.body.matches'
  /-- DATA is neither empty nor too long. -/
  data : ∀ f ∈ s.framesFor id es, f.type = .data →
    1 ≤ f.payload.length ∧ f.payload.length ≤ s.config.maxFramePayload.toNat
  /-- Credit goes back in whole batches. -/
  batch : ∀ f ∈ s.framesFor id es, f.type = .windowUpdate →
    ∃ c, f.credit? = some c ∧ s.config.threshold.toNat ≤ c.toNat
  /-- No more credit goes back than the window let bytes in. -/
  repaid : credits (s.framesFor id es) ≤ (payloads (s.gotWhile Stream.admits id es)).length
  /-- Nothing is queued behind the peer's RST, or once both sides have finished. -/
  silent : ∀ before later, es = before ++ later →
    Carries .rst (s.traffic id before).got ∨
      Carries .fin (s.traffic id before).got ∧ Carries .fin (s.framesFor id before) →
    (s.after before).framesFor id later = []
  /-- No credit goes back behind the peer's FIN. -/
  heard : ∀ before later, es = before ++ later → Carries .fin (s.traffic id before).got →
    ¬ Carries .windowUpdate ((s.after before).framesFor id later)

theorem ordered (h : ((make role config).after es).find? id = some st) :
    ((make role config).traffic id es).sent.Pairwise fun f g => f.type.Precedes g.type := by
  have hboth : st.Outbound (role.owns id) config.maxFramePayload
      ((make role config).traffic id es) ∧
      ((make role config).traffic id es).sent.Pairwise fun f g => f.type.Precedes g.type := by
    refine stream_induction (P := fun st t => st.Outbound (role.owns id) config.maxFramePayload t ∧
        t.sent.Pairwise fun f g => f.type.Precedes g.type) (fun ho => ?_) (fun ho => ?_)
          (fun ho => ?_) ?_ ?_ h
    · rw [ho]; exact ⟨.make, List.pairwise_singleton _ _⟩
    · rw [ho]; exact ⟨.make, .nil⟩
    · rw [ho]; exact ⟨.refused, List.pairwise_singleton _ _⟩
    · rintro st st' e t u - hst ⟨ho, hordered⟩
      exact ⟨ho.step hst, List.pairwise_append.mpr ⟨hordered, hst.ordered, hst.precedes ho⟩⟩
    · rintro st t cause - ⟨ho, hordered⟩
      exact ⟨ho.torn cause, hordered⟩
  exact hboth.2

theorem batches (h : ((make role config).after es).find? id = some st)
    (hf : f ∈ ((make role config).traffic id es).sent)
    (hty : f.type = .windowUpdate) : ∃ c, f.credit? = some c ∧
    config.threshold.toNat ≤ c.toNat := by
  have hboth : st.Batched config.threshold ∧ ∀ f ∈ ((make role config).traffic id es).sent,
      f.type = .windowUpdate →
      ∃ c, f.credit? = some c ∧ config.threshold.toNat ≤ c.toNat := by
    refine stream_induction (P := fun st t => st.Batched config.threshold ∧ ∀ f ∈ t.sent,
        f.type = .windowUpdate →
        ∃ c, f.credit? = some c ∧ config.threshold.toNat ≤ c.toNat)
      (fun _ => ⟨.make (by simp), ?_⟩) (fun _ => ⟨.make (by simp), ?_⟩)
      (fun _ => ⟨(Stream.Batched.make (by simp)).aborted .here, ?_⟩)
      (fun st st' e t u _ hst ih => ⟨ih.1.step hst, fun f hf hty => ?_⟩)
        (fun st t cause _ ih => ⟨ih.1.torn cause, ih.2⟩) h
    · simp [Frame.syn]
    · simp
    · simp [Frame.rst]
    · rcases List.mem_append.mp hf with hf | hf
      · exact ih.2 f hf hty
      · exact hst.batch ih.1 hf hty
  exact hboth.2 f hf hty

theorem repaid (h : ((make role config).after es).find? id = some st) :
    st.Repaid ((make role config).traffic id es)
      ((make role config).gotWhile Stream.admits id es) := by
  let initial := config.initialWindow.toNat
  have hall : st.Inbound ((make role config).traffic id es) ∧
      st.Balance initial ((make role config).traffic id es) ∧
      st.Repaid ((make role config).traffic id es)
          ((make role config).gotWhile Stream.admits id es) := by
    refine stream_induction_while (P := fun st t fs => st.Inbound t ∧ st.Balance initial t ∧
      st.Repaid t fs) Stream.admits
      (throughout_of_forall (Q := fun _ _ => True) fun _ _ => trivial) (fun _ => ?_) (fun _ => ?_)
        (fun _ => ?_) ?_ ?_ h
    · exact ⟨.make, .make rfl rfl, fun _ => rfl, Nat.zero_le _⟩
    · exact ⟨.make, .make rfl rfl, fun _ => rfl, Nat.zero_le _⟩
    · refine ⟨.refused, ?_, fun _ => rfl, Nat.zero_le _⟩
      rw [← Traffic.empty_append { sent := [Frame.rst id] }]
      exact (Stream.Balance.make rfl rfl).aborted rfl rfl rfl .here
    · rintro s st st' e t u fs wf - hfind - hst ⟨hi, hb, hr⟩
      have hs := wf.sound st (mem_of_find? hfind)
      have hb' := hb.step config.initialWindow.toNat_lt_size hs hi hst
      exact ⟨hi.step hs hst, hb', hr.step hs hb' hst⟩
    · rintro st t fs cause hs ⟨hi, hb, hr⟩
      exact ⟨hi.torn hs cause, hb.torn cause, hr.torn cause⟩
  exact hall.2.2

/-- What a stream has sent is an opening and then a word of the language. -/
theorem word (h : ((make role config).after es).find? id = some st) :
    ∃ rest, (make role config).framesFor id es = Stream.opening (role.owns id) id ++ rest ∧
      rest.map (·.type) ∈ FrameType.body.matches' := by
  obtain ⟨rest, hsent, hsyn⟩ := (outbound h).opens
  have hordered := ordered h
  rw [hsent] at hordered
  have hrest : (rest.map (·.type)).Pairwise FrameType.Precedes :=
    List.pairwise_map.mpr (List.pairwise_append.mp hordered).2.1
  refine ⟨rest, by rw [framesFor_eq, hsent, find?_id h], FrameType.mem_body hrest fun hmem => ?_⟩
  obtain ⟨f, hf, hty⟩ := List.mem_map.mp hmem
  exact hsyn ⟨f, hf, hty⟩

/-- What was taken in for a stream shows that there is one. -/
theorem exists_of_carries {type : FrameType}
    (h : Carries type ((make role config).traffic id es).got) :
    ∃ st, ((make role config).after es).find? id = some st := by
  cases hfind : ((make role config).after es).find? id with
  | some st => exact ⟨st, rfl⟩
  | none =>
    rw [traffic_eq_empty hfind] at h
    exact absurd h carries_nil

theorem final_after {s : Session} (later : List Event) (wf : s.WellFormed)
    (h : s.find? id = some st) (hterm : st.isTerminal = true) :
    (∃ st', (s.after later).find? id = some st' ∧ st'.isTerminal = true) ∧
      s.framesFor id later = [] := by
  obtain ⟨st', hst', hterm', hnone⟩ :=
    hereafter (P := fun st => st.isTerminal = true) (R := fun _ => False)
    (fun st st' _ _ _ _ hst hterm => ⟨hst.isTerminal hterm,
      fun f hf => by rw [hst.sent_of_isTerminal hterm] at hf; cases hf⟩)
    (fun _ _ => Stream.isTerminal_tornDown) later wf h hterm
  refine ⟨⟨st', hst', hterm'⟩, ?_⟩
  rw [framesFor_eq]
  exact List.eq_nil_iff_forall_not_mem.mpr hnone

theorem framesFor_of_isTerminal (h : ((make role config).after before).find? id = some st)
    (hterm : st.isTerminal = true) : ((make role config).after before).framesFor id later = [] :=
  (final_after later (wellFormed_after role config before) h hterm).2

theorem not_carries_of_not_receives (h : ((make role config).after before).find? id = some st)
    (hr : ¬ st.Receives) :
    ¬ Carries .windowUpdate (((make role config).after before).framesFor id later) := by
  obtain ⟨-, -, -, hnone⟩ := hereafter (P := fun st => ¬ st.Receives)
    (R := fun f => f.type ≠ .windowUpdate) (fun st st' _ _ _ _ hst hr => by
      have hr' : ¬ st'.Receives := fun h => hr (hst.receives h)
      exact ⟨hr', fun f hf hty => hst.not_carries_windowUpdate hr' ⟨f, hf, hty⟩⟩)
    (fun _ _ => Stream.not_receives_tornDown) later (wellFormed_after role config before) h hr
  rw [framesFor_eq]
  rintro ⟨f, hf, hty⟩
  exact hnone f hf hty

theorem framesFor_of_over (h : Carries .rst ((make role config).traffic id before).got ∨
      Carries .fin ((make role config).traffic id before).got ∧
        Carries .fin ((make role config).framesFor id before)) :
    ((make role config).after before).framesFor id later = [] := by
  obtain ⟨st, hst⟩ := h.elim exists_of_carries fun h => exists_of_carries h.1
  refine framesFor_of_isTerminal hst ?_
  rcases h with hrst | ⟨hgot, hsent⟩
  · exact (inbound hst).rstTaken hrst
  · rw [framesFor_eq] at hsent
    by_cases hr : st.reset = none
    · rw [Stream.isTerminal_eq, (outbound hst).fin.mpr hsent, (inbound hst).finTaken hr hgot]
      simp
    · exact Stream.isTerminal_of_reset hr

theorem not_carries_of_finished (h : Carries .fin ((make role config).traffic id before).got) :
    ¬ Carries .windowUpdate (((make role config).after before).framesFor id later) := by
  obtain ⟨st, hst⟩ := exists_of_carries h
  refine not_carries_of_not_receives hst fun hr => ?_
  have hclosed := (inbound hst).finTaken hr.1 h
  rw [hr.2] at hclosed
  cases hclosed

/-- Whatever the peer sends and the application asks for, what a session queues for a
stream is a word of the language, with a SYN for the streams that were opened here. -/
theorem grammatical (role : Role) (config : Config) (id : UInt32) (es : List Event) :
    (make role config).Grammatical id es := by
  have hover := fun before later (_ : es = before ++ later) =>
    @framesFor_of_over role config id before later
  have hheard := fun before later (_ : es = before ++ later) =>
    @not_carries_of_finished role config id before later
  cases hfind : ((make role config).after es).find? id with
  | none =>
    have hnil : (make role config).framesFor id es =
      [] := by rw [framesFor_eq, traffic_eq_empty hfind]
    refine ⟨fun hopens => absurd hfind (opens_iff.mp hopens).2, fun _ => ?_, ?_, ?_,
      ?_, hover, hheard⟩
    all_goals rw [hnil]
    · exact FrameType.mem_body .nil List.not_mem_nil
    · exact fun f hf => nomatch hf
    · exact fun f hf => nomatch hf
    · exact Nat.zero_le _
  | some st =>
    obtain ⟨rest, hframes, hrest⟩ := word hfind
    refine ⟨fun hopens => ⟨rest, ?_, hrest⟩, fun hopens => ?_, fun f hf hty => ?_, fun f hf => ?_,
      ?_, hover, hheard⟩
    · rw [hframes, (opens_iff.mp hopens).1]
      rfl
    · have howns : role.owns id = false := by
        cases hown : role.owns id with
        | false => rfl
        | true => exact absurd (opens_iff.mpr ⟨hown, by rw [hfind]; simp⟩) hopens
      rw [hframes, howns]
      exact hrest
    · rw [framesFor_eq] at hf
      have hlegal := (outbound hfind).legal f hf
      rw [Frame.Legal, hty] at hlegal
      exact ⟨List.length_pos_of_ne_nil ((outbound hfind).dataFull f hf hty), hlegal⟩
    · rw [framesFor_eq] at hf
      exact batches hfind hf
    · rw [framesFor_eq]
      exact (repaid hfind).given

/-- A stream that is written to, read from, finished, read from once more and aborted. -/
def wholeLife : List Event :=
  [.call .openStream, .call (.write 1 [5] false), .message (Frame.data 1 [7, 8]).encode,
    .call (.read 1 4 false), .call (.closeWrite 1), .message (Frame.data 1 [9, 10]).encode,
    .call (.read 1 4 false), .call (.reset 1)]

/-- A stream that the peer aborts, and what the application tries then. -/
def struckDown : List Event := [.call .openStream, .message (Frame.rst 1).encode]

def tooLate : List Event :=
  [.call (.write 1 [5] false), .call (.closeWrite 1), .call (.reset 1), .call (.dropHandle 1)]

theorem grammatical_of_whole_life :
    [.data, .windowUpdate, .fin, .windowUpdate, .rst] ∈ FrameType.body.matches' ∧
      ((make .client ⟨4, 4, 50, 1⟩).after struckDown).framesFor 1 tooLate = [] := by
  obtain ⟨rest, hframes, hrest⟩ :=
    (grammatical .client ⟨4, 4, 50, 1⟩ 1 wholeLife).opened List.mem_cons_self
  obtain rfl : rest = [.data 1 [5], .windowUpdate 1 2, .fin 1, .windowUpdate 1 2, .rst 1] :=
    (List.cons.inj (hframes.symm.trans rfl)).2
  refine ⟨hrest, (grammatical .client ⟨4, 4, 50, 1⟩ 1 (struckDown ++ tooLate)).silent struckDown
    tooLate rfl (.inl ?_)⟩
  exact ⟨.rst 1, by decide, rfl⟩

end Session
end StreamMux

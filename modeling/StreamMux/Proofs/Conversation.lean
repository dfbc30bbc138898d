/-
Two sessions of one configuration, each with what has happened to it, where
each has heard a first part of what the other has said. This is all that later
modules need of the connection: it says nothing of queues, of messages under way
or of a cut, and holds as well of an end that has missed the rest for good.

The next frame either of them hears is welcome (`Conversation.welcome`), so
neither ever finds fault with the other.
-/
import StreamMux.Proofs.Welcome

namespace StreamMux

@[simp] theorem Role.other_other (role : Role) : role.other.other = role := by cases role <;> rfl

open Session (Event)

/-- The session of the end `r`. -/
abbrev sessionOf (config : Config) (es : Role → List Event) (r : Role) : Session :=
  (Session.make r config).after (es r)

/-- What has passed the stream `id` at the end `r`. -/
abbrev passed (config : Config) (es : Role → List Event) (r : Role) (id : UInt32) : Traffic :=
  (Session.make r config).traffic id (es r)

/-- What the end `r` has said. -/
abbrev said (config : Config) (es : Role → List Event) (r : Role) : List Frame :=
  (Session.make r config).framesOf (es r)

/-- What the end `r` has heard. -/
abbrev heardBy (config : Config) (es : Role → List Event) (r : Role) : List Frame :=
  (Session.make r config).takenOf (es r)

/-- What has happened to the two ends, and what each has heard. -/
structure Conversation (config : Config) (es : Role → List Event) : Prop where
  expected : ∀ r, Session.Throughout Session.Expected (.make r config) (es r)
  heard : ∀ r, heardBy config es r <+: said config es r.other

namespace Conversation

variable {config : Config} {es : Role → List Event} {r : Role} {id : UInt32}
  {st st' : Stream} {f : Frame}

theorem outbound (h : (sessionOf config es r).find? id = some st) :
    st.Outbound (r.owns id) config.maxFramePayload (passed config es r id) := Session.outbound h

theorem inbound (h : (sessionOf config es r).find? id = some st) :
    st.Inbound (passed config es r id) :=
  Session.inbound h

theorem balance (h : (sessionOf config es r).find? id = some st) :
    st.Balance config.initialWindow.toNat (passed config es r id) := Session.balance h

theorem fair (c : Conversation config es) (h : (sessionOf config es r).find? id = some st) :
    Session.Fair config.initialWindow.toNat st (passed config es r id) :=
      Session.fair (c.expected r) h

theorem passed_eq_empty (h : (sessionOf config es r).find? id = none) :
    passed config es r id = {} :=
  Session.traffic_eq_empty h

theorem wellFormed : (sessionOf config es r).WellFormed := Session.wellFormed_after r config (es r)

theorem role_eq : (sessionOf config es r).role = r := Session.role_after r config (es r)

theorem payloads_opening {own : Bool} {fs : List Frame} : payloads
    (Stream.opening own id ++ fs) = payloads fs := by
  cases own <;> simp [Stream.opening, Frame.syn]

theorem credits_opening {own : Bool} {fs : List Frame} :
    credits (Stream.opening own id ++ fs) = credits fs := by
  cases own <;> simp [Stream.opening, Frame.syn, Frame.credit?]

theorem carries_opening {own : Bool} {fs : List Frame} {type : FrameType} (h : type ≠ .syn) :
    Carries type (Stream.opening own id ++ fs) ↔ Carries type fs := by
  cases own <;> simp [Stream.opening, Frame.syn, h.symm]

theorem beforeFin_opening {own : Bool} {fs : List Frame} :
    beforeFin (Stream.opening own id ++ fs) = Stream.opening own id ++ beforeFin fs :=
  beforeFin_append_of_not_carries (by cases own <;> simp [Stream.opening, Frame.syn])

/-- What passes out of a stream is its part of what the end says. -/
theorem sent_eq : (passed config es r id).sent = (said config es r).filter (·.streamId == id) :=
  Session.sent_traffic

/-- What an end has heard of a stream it has: the SYN if the other end opened it, and what the
stream took in. -/
theorem heard_of_some (c : Conversation config es)
    (h : (sessionOf config es r).find? id = some st) :
    (heardBy config es r).filter (·.streamId == id) =
      Stream.opening (!r.owns id) id ++ (passed config es r id).got := by
  have hf := Session.takenOf_filter id (c.expected r)
  rw [h] at hf
  exact hf

/-- Nothing is heard of a stream that there is not. -/
theorem heard_of_none (c : Conversation config es) (h : (sessionOf config es r).find? id = none) :
    (heardBy config es r).filter (·.streamId == id) = [] := by
  have hf := Session.takenOf_filter id (c.expected r)
  rw [h] at hf
  exact hf

/-- What a stream has taken in is a first part of what the other end sent, behind the SYN of the
other end. -/
theorem got_sent (c : Conversation config es) (h : (sessionOf config es r).find? id = some st) :
    Stream.opening (!r.owns id) id ++ (passed config es r id).got <+:
      (passed config es r.other id).sent := by
  rw [← c.heard_of_some h, sent_eq]
  exact (c.heard r).filter _

/-- What a stream that the other end opened has heard first is its SYN. -/
theorem mirror (c : Conversation config es) (h : (sessionOf config es r).find? id = some st)
    (ho : r.owns id = false) : ∃ st', (sessionOf config es r.other).find? id = some st' := by
  cases hother : (sessionOf config es r.other).find? id with
  | some st' => exact ⟨st', rfl⟩
  | none =>
    have hp := c.got_sent h
    rw [passed_eq_empty hother, ho] at hp
    simp [Stream.opening] at hp

section

variable (c : Conversation config es) (h : (sessionOf config es r).find? id = some st)
include c h

theorem payloads_got : payloads (passed config es r id).got <+:
    payloads (passed config es r.other id).sent := by
  have hp := payloads_mono (c.got_sent h)
  rwa [payloads_opening] at hp

theorem credits_got : credits (passed config es r id).got ≤
    credits (passed config es r.other id).sent := by
  have hp := credits_mono (c.got_sent h)
  rwa [credits_opening] at hp

theorem carries_got {type : FrameType} (hty : type ≠ .syn)
    (hc : Carries type (passed config es r id).got) :
    Carries type (passed config es r.other id).sent :=
  ((carries_opening hty).mpr hc).mono (c.got_sent h)

/-- With the FIN of the other end, all the data it sent has come. -/
theorem payloads_whole (hfin : Carries .fin (passed config es r id).got) :
    payloads (beforeFin (passed config es r id).got) =
      payloads (passed config es r.other id).sent := by
  have hp := c.got_sent h
  have hfin' : Carries .fin (Stream.opening (!r.owns id) id ++ (passed config es r id).got) :=
    (carries_opening (by simp)).mpr hfin
  have hcut := congrArg payloads (beforeFin_eq hp hfin')
  rw [beforeFin_opening, payloads_opening] at hcut
  rw [hcut]
  cases hother : (sessionOf config es r.other).find? id with
  | none => rw [passed_eq_empty hother]; rfl
  | some st' => exact (outbound hother).dataFirst

end

/-! ## The next frame -/

/-- The next frame to be heard, behind all that was heard of its stream. -/
theorem next_sent (hnext : heardBy config es r ++ [f] <+: said config es r.other) :
    (heardBy config es r).filter (·.streamId == f.streamId) ++ [f] <+:
      (passed config es r.other f.streamId).sent := by
  rw [sent_eq]
  have hp := hnext.filter (·.streamId == f.streamId)
  rw [List.filter_append] at hp
  simpa using hp

variable (c : Conversation config es)
  (hnext : heardBy config es r ++ [f] <+: said config es r.other)
include c hnext

/-- The same, of a stream there is. -/
theorem next_of_some (h : (sessionOf config es r).find? f.streamId = some st) :
    Stream.opening (!r.owns f.streamId) f.streamId ++ (passed config es r f.streamId).got ++ [f] <+:
      (passed config es r.other f.streamId).sent := by
  have hp := next_sent hnext
  rwa [c.heard_of_some h] at hp

omit c in
theorem next_said : f ∈ said config es r.other := hnext.subset (by simp)

/-- A SYN has a new id. -/
theorem next_syn (hopen : (sessionOf config es r).ended = none) (hty : f.type = .syn) :
    (sessionOf config es r).mayOpen f.streamId = true := by
  have howns := Session.owns_of_syn (next_said hnext) hty
  have hzero : f.streamId ≠ 0 := by
    intro hz
    rw [hz, Role.not_owns_zero] at howns
    cases howns
  have hother : r.owns f.streamId = false := by simpa [Role.owns_other hzero] using howns
  refine Session.mayOpen_iff.mpr ⟨hzero, by rw [role_eq]; exact hother, ?_⟩
  rcases wellFormed.lastRemote hopen with hlast | ⟨st, hm, hlast, ho⟩
  · rw [hlast]
    rw [UInt32.lt_iff_toNat_lt]
    exact Nat.pos_of_ne_zero fun hz => hzero (UInt32.toNat_inj.mp hz)
  · -- The peer's last stream began with a SYN that was heard, and so came before this one.
    rw [role_eq] at ho
    have hfind := Session.find?_of_mem wellFormed.distinct hm
    have hf := c.heard_of_some hfind
    rw [ho] at hf
    have hsyn : Frame.syn st.id ∈ heardBy config es r := by
      have hmem : Frame.syn st.id ∈ (heardBy config es r).filter (·.streamId == st.id) := by
        rw [hf]
        simp [Stream.opening]
      exact (List.mem_filter.mp hmem).1
    obtain ⟨more, hmore⟩ := hnext
    have hsorted : (said config es r.other).Pairwise fun f g => f.type = .syn → g.type = .syn →
        f.streamId < g.streamId :=
      Session.syns_sorted r.other config (es r.other)
    rw [← hmore, List.append_assoc, List.pairwise_append] at hsorted
    have hlt := hsorted.2.2 _ hsyn f (by simp) rfl hty
    rwa [show (Frame.syn st.id).streamId = st.id from rfl, hlast] at hlt

/-- Any other frame is about a stream there is. -/
theorem next_known (hty : f.type ≠ .syn) :
    ∃ st, (sessionOf config es r).find? f.streamId = some st := by
  cases hfind : (sessionOf config es r).find? f.streamId with
  | some st => exact ⟨st, rfl⟩
  | none =>
    obtain ⟨st', hst'⟩ := Session.stream_of_frame (next_said hnext)
    obtain ⟨rest, hsent, _⟩ := (outbound hst').opens
    have hp := next_sent hnext
    rw [c.heard_of_none hfind] at hp
    cases ho : r.other.owns f.streamId with
    | true =>
      -- The stream would begin with this frame instead of its SYN.
      rw [ho, Session.find?_id hst'] at hsent
      rw [hsent] at hp
      simp only [Stream.opening, if_true, List.nil_append, List.singleton_append,
        List.cons_prefix_cons] at hp
      exact absurd (by rw [hp.1]; rfl) hty
    | false =>
      obtain ⟨st, hst⟩ := c.mirror hst' ho
      rw [Role.other_other] at hst
      exact ⟨st, by rw [← hfind]; exact hst⟩

/-- DATA comes before FIN, and within the window. -/
theorem next_data (hty : f.type = .data)
    (hfind : (sessionOf config es r).find? f.streamId = some st)
    (ht : st.tracked = true) : st.remoteClosed = false ∧ ∃ recv,
    st.recv.receive f.payload.length = .ok recv := by
  have hreset := (wellFormed.sound st (Session.mem_of_find? hfind)).reset_eq_none ht
  obtain ⟨st', hst'⟩ := Session.stream_of_frame (next_said hnext)
  have hp := c.next_of_some hnext hfind
  have hrc : st.remoteClosed = false := by
    cases hrc : st.remoteClosed with
    | false => rfl
    | true =>
      have hfin :
          Carries .fin (Stream.opening (!r.owns f.streamId) f.streamId ++
          (passed config es r f.streamId).got) :=
        (carries_opening (by simp)).mpr ((inbound hfind).fin hrc)
      exact absurd hty ((outbound hst').not_data_of_fin hp hfin)
  have hpay := (payloads_mono hp).length_le
  rw [List.append_assoc, payloads_opening, payloads_append] at hpay
  have hwindow := (balance hfind).window ⟨hreset, hrc⟩
  have hkept := (balance hfind).kept ⟨hreset, hrc⟩
  have hspent := (balance hst').spent
  have hcredits := c.credits_got hst'
  rw [Role.other_other] at hcredits
  simp only [payloads_cons, hty, if_true, payloads_nil, List.append_nil, List.length_append] at hpay
  refine ⟨hrc, ?_⟩
  simp only [RecvWindow.receive]
  rw [if_neg (by omega)]
  exact ⟨_, rfl⟩

/-- Credit fits: no more is given back than was ever spent. -/
theorem next_credit (hfind : (sessionOf config es r).find? f.streamId = some st) :
    (st.grant (f.credit?.getD 0)).1 = true := by
  obtain ⟨st', hst'⟩ := Session.stream_of_frame (next_said hnext)
  have hp := credits_mono (c.next_of_some hnext hfind)
  rw [List.append_assoc, credits_opening, credits_append, credits_cons, credits_nil] at hp
  have hspent := (balance hfind).spent
  have hgiven := (balance hst').given
  have hbefore : (payloads (beforeFin (passed config es r.other f.streamId).got)).length ≤
      (payloads (passed config es r.other f.streamId).got).length :=
        (payloads_mono (List.takeWhile_prefix _)).length_le
  have hgot := (c.payloads_got hst').length_le
  rw [Role.other_other] at hgot
  have hlt := config.initialWindow.toNat_lt_size
  simp only [Stream.grant]
  split
  · rfl
  · simp only [SendWindow.grant, decide_eq_true_eq]
    omega

/-- The next frame that an end hears is welcome. -/
theorem welcome (hopen : (sessionOf config es r).ended = none) :
    (sessionOf config es r).Welcome f where
  syn hty := c.next_syn hnext hopen hty
  known hty := c.next_known hnext hty
  data hty st htr := by
    obtain ⟨_, hfind, ht⟩ := Session.tracked?_eq_some wellFormed htr
    exact c.next_data hnext hty hfind ht
  credit _ st htr := by
    obtain ⟨_, hfind, _⟩ := Session.tracked?_eq_some wellFormed htr
    exact c.next_credit hnext hfind

end Conversation
end StreamMux

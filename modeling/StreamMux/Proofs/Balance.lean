/-
The credit of a stream against its traffic. A sender has never spent more than
it started with and was given, and a receiver has never given back more than
came in. At the receiver

    initial = remaining + buffered + unacked

holds exactly until the stream is aborted or the peer's FIN has come, and what
came in is then buffered, unacknowledged or given back.
-/
import StreamMux.Proofs.Inbound
import StreamMux.Proofs.Credit

namespace StreamMux

namespace Stream

variable {s s' : Stream} {maxPayload : UInt32} {e : Session.Event} {t u : Traffic} {f : Frame}

@[simp] theorem credits_updateFrames {c : Option UInt32} :
    credits (s.updateFrames c) = (c.getD 0).toNat := by
  cases c with
  | none => rfl
  | some c => simp [updateFrames]

@[simp] theorem credits_abortFrames :
    credits s.abortFrames = 0 := by simp only [abortFrames]; split <;> rfl

theorem credits_dropFrames : credits s.dropFrames = (s.refund.1.getD 0).toNat := by
  simp only [dropFrames, credits_append, credits_updateFrames]
  split <;> rfl

/-! ## Sending -/

theorem credits_of_type_ne (h : f.type ≠ .windowUpdate) : credits [f] = 0 :=
  credits_eq_zero fun g hg => by rw [List.mem_singleton.mp hg]; exact h

theorem spent_write {bytes : Bytes} {n : Nat}
    (hn : n = min (min bytes.length maxPayload.toNat) s.send.credit.toNat) :
    (s.send.credit - n.toUInt32).toNat + (payloads [Frame.data s.id (bytes.take n)]).length =
      s.send.credit.toNat := by
  have hle : n ≤ s.send.credit.toNat := by omega
  have hpay : payloads [Frame.data s.id (bytes.take n)] = bytes.take n := by simp [Frame.data]
  rw [toNat_sub_natCast hle, hpay, List.length_take]
  omega

/-- What a step spends on DATA it takes off its credit, which only the peer raises. -/
theorem Step.spent_le (h : s.Step maxPayload e u s') :
    s'.send.credit.toNat + (payloads u.sent).length ≤ s.send.credit.toNat + credits u.got := by
  cases h with
  | write _ _ _ _ hn => exact Nat.le_of_eq (spent_write hn)
  | @windowUpdate message f =>
    have hg := SendWindow.toNat_grant_le s.send (f.credit?.getD 0)
    rw [grant_eq]
    split
    · simp
    · simpa using hg
  | closeWrite | dropHandle => simp [Frame.fin, afterDrop]
  | _ => simp

/-- On a stream that stays alive, nothing of that is lost unless a grant does not fit. -/
theorem Step.spent_eq (h : s.Step maxPayload e u s') (hs : s.Sound) (hlive : s'.isTerminal = false)
    (hfit : ∀ f ∈ u.got, f.type = .windowUpdate → s.tracked = true →
      (s.grant (f.credit?.getD 0)).1 = true) :
    s'.send.credit.toNat + (payloads u.sent).length = s.send.credit.toNat + credits u.got := by
  have hlive' : s.isTerminal = false := by
    cases hterm : s.isTerminal with
    | false => rfl
    | true => rw [h.isTerminal hterm] at hlive; cases hlive
  cases h with
  | write _ _ _ _ hn => exact spent_write hn
  | @windowUpdate message f _ _ hty ht =>
    have hg := hfit f (by simp) hty ht
    rw [grant, hlive', if_neg (by simp)] at hg
    have hadd := SendWindow.toNat_grant hg
    rw [grant_eq, hlive']
    simpa using hadd
  | unheeded _ _ hun =>
    have hty := hun.resolve_left (by rw [hs.tracked_of_live hlive']; simp)
    rw [credits_of_type_ne (by simp [hty])]
    simp
  | data _ _ hty | emptyData _ _ hty | fin _ _ hty =>
    rw [credits_of_type_ne (by simp [hty])]
    simp
  | dataForNobody _ _ hty =>
    rw [credits_of_type_ne (by simp [hty])]
    simp
  | reset | accused | rst => rw [isTerminal_aborted] at hlive; cases hlive
  | closeWrite | dropHandle => simp [Frame.fin, afterDrop]
  | _ => simp

/-! ## Receiving -/

/-- The peer may still send, as far as this side knows. -/
def Receives (s : Stream) : Prop := s.reset = none ∧ s.remoteClosed = false

/-- The credit of a stream with this window, by its traffic. -/
structure Balance (initial : Nat) (s : Stream) (t : Traffic) : Prop where
  spent : s.send.credit.toNat + (payloads t.sent).length ≤ initial + credits t.got
  total : s.recv.remaining.toNat + s.buffered + s.recv.unacked.toNat ≤ initial
  window : s.Receives → s.recv.remaining.toNat + s.buffered + s.recv.unacked.toNat = initial
  kept : s.Receives → s.buffered + s.recv.unacked.toNat + credits t.sent = (payloads t.got).length
  given : credits t.sent ≤ (payloads (beforeFin t.got)).length

variable {initial : Nat}

theorem not_receives_of_isTerminal (h : s.isTerminal = true) : ¬ s.Receives := by
  rintro ⟨hr, hrc⟩
  rw [(closed_of_isTerminal h hr).2] at hrc
  cases hrc

/-- A step that gives no credit back, of a stream that takes in no bytes. -/
theorem Balance.keep (h : Balance initial s t) (hstep : s.Step maxPayload e u s')
    (hc : credits u.sent = 0)
    (htotal : s'.recv.remaining.toNat + s'.buffered + s'.recv.unacked.toNat ≤ initial)
    (hlive : s'.Receives → s.Receives ∧ s'.recv = s.recv ∧ s'.buffered = s.buffered ∧
      payloads u.got = []) :
    Balance initial s' (t ++ u) := by
  refine ⟨?_, htotal, fun hr => ?_, fun hr => ?_, ?_⟩
  · have := h.spent
    have := hstep.spent_le
    simp only [Traffic.sent_append, Traffic.got_append, payloads_append, credits_append,
      List.length_append]
    omega
  · obtain ⟨hr, hrecv, hb, _⟩ := hlive hr
    rw [hrecv, hb]
    exact h.window hr
  · obtain ⟨hr, hrecv, hb, hp⟩ := hlive hr
    have := h.kept hr
    simp only [Traffic.sent_append, Traffic.got_append, payloads_append, credits_append, hp,
      List.append_nil]
    rw [hrecv, hb]
    omega
  · have hle : (payloads (beforeFin t.got)).length ≤
        (payloads (beforeFin (t.got ++ u.got))).length :=
      (payloads_mono beforeFin_mono).length_le
    have := h.given
    rw [Traffic.sent_append, Traffic.got_append, credits_append, hc]
    omega

/-- A step of a stream that receives and goes on to. -/
theorem Balance.pass (h : Balance initial s t) (hstep : s.Step maxPayload e u s')
    (hi : s'.Inbound (t ++ u)) (hr : s.Receives) (hr' : s'.Receives)
    (hwindow : s'.recv.remaining.toNat + s'.buffered + s'.recv.unacked.toNat =
      s.recv.remaining.toNat + s.buffered + s.recv.unacked.toNat)
    (hkept : s'.buffered + s'.recv.unacked.toNat + credits u.sent =
      s.buffered + s.recv.unacked.toNat + (payloads u.got).length) : Balance initial s'
        (t ++ u) := by
  have hw := h.window hr
  have hk := h.kept hr
  have hall : s'.buffered + s'.recv.unacked.toNat + credits (t ++ u).sent =
      (payloads (t ++ u).got).length := by
    simp only [Traffic.sent_append, Traffic.got_append, payloads_append, credits_append,
      List.length_append]
    omega
  refine ⟨?_, by omega, fun _ => by omega, fun _ => hall, ?_⟩
  · have := h.spent
    have := hstep.spent_le
    simp only [Traffic.sent_append, Traffic.got_append, payloads_append, credits_append,
      List.length_append]
    omega
  · have hfin : ¬ Carries .fin (t ++ u).got := fun hc => by
      have := hi.finTaken hr'.1 hc
      rw [hr'.2] at this
      cases this
    rw [beforeFin_of_not_carries hfin]
    omega

/-- Counting `n` of `b` bytes as read. -/
theorem consume_sums {w : RecvWindow} {n b : Nat}
    (hlt : w.remaining.toNat + b + w.unacked.toNat < UInt32.size) (hn : n ≤ b) :
    (w.consume n).2.remaining.toNat + (b - n) + (w.consume n).2.unacked.toNat =
        w.remaining.toNat + b + w.unacked.toNat ∧
      b - n + (w.consume n).2.unacked.toNat + w.given n = b + w.unacked.toNat := by
  have hu := RecvWindow.toNat_unacked_consume (w := w) (n := n) (by omega)
  have hr := RecvWindow.toNat_remaining_consume (w := w) (n := n) (by omega)
  omega

/-- Bytes that come in move from the window to the buffer. -/
theorem receive_sums {w recv : RecvWindow} {n b : Nat} (h : w.receive n = .ok recv) :
    recv.remaining.toNat + (b + n) + recv.unacked.toNat =
      w.remaining.toNat + b + w.unacked.toNat := by
  obtain ⟨hremaining, hunacked⟩ := RecvWindow.receive_ok h
  rw [hunacked]
  omega

theorem length_drain_le (hs : s.Sound) (room : Nat) : (s.drain room).1.length ≤ s.buffered := by
  rw [drain_fst, hs.buffered_eq, List.length_take]
  exact Nat.min_le_right _ _

theorem readFrames_of_receives {room : Nat} (hr : s.Receives) :
    s.readFrames room = s.updateFrames (s.recv.consume (s.drain room).1.length).1 := by
  simp [readFrames, hr.1, hr.2]

theorem readFrames_of_not_receives {room : Nat} (hr : ¬ s.Receives) : s.readFrames room = [] := by
  rw [readFrames, if_neg]
  simpa [Receives, and_comm] using hr

/-- A read gives back what it returns, while the peer may send. -/
theorem Balance.read {room : Nat} (h : Balance initial s t) (hlt : initial < UInt32.size)
    (hs : s.Sound)
    (hi : (s.afterRead room).settle.Inbound
      (t ++ { sent := s.readFrames room, returned := (s.drain room).1 }))
    (hstep : s.Step maxPayload e { sent := s.readFrames room, returned := (s.drain room).1 }
      (s.afterRead room).settle) :
    Balance initial (s.afterRead room).settle (t ++
        { sent := s.readFrames room, returned := (s.drain room).1 }) := by
  have htotal := h.total
  obtain ⟨hwindow, hkept⟩ := consume_sums (w := s.recv) (by omega) (length_drain_le hs room)
  by_cases hr : s.Receives
  · refine h.pass hstep hi hr hr hwindow ?_
    simp only [readFrames_of_receives hr, credits_updateFrames, payloads_nil, List.length_nil]
    exact hkept
  · refine h.keep hstep (by simp [readFrames_of_not_receives hr]) ?_ fun hr' => absurd hr' hr
    simp only [settle_recv, settle_buffered, afterRead_recv, afterRead_buffered]
    omega

/-- A handle that goes gives back all that is unread, while the peer may send. -/
theorem Balance.dropHandle (h : Balance initial s t) (hlt : initial < UInt32.size)
    (hr : s.reset = none) (hi : s.afterDrop.settle.Inbound (t ++ { sent := s.dropFrames }))
    (hstep : s.Step maxPayload e { sent := s.dropFrames } s.afterDrop.settle) :
    Balance initial s.afterDrop.settle (t ++ { sent := s.dropFrames }) := by
  have htotal := h.total
  cases hrc : s.remoteClosed with
  | true =>
    have hrefund := refund_of_closed hrc
    refine h.keep hstep (by simp [credits_dropFrames, hrefund]) ?_ fun hr' => ?_
    · simp only [settle_recv, settle_buffered, afterDrop, hrefund]
      omega
    · have hopen : s.remoteClosed = false := hr'.2
      rw [hrc] at hopen
      cases hopen
  | false =>
    have hrefund := refund_of_open hrc
    obtain ⟨hwindow, hkept⟩ := consume_sums (w := s.recv) (by omega) (Nat.le_refl s.buffered)
    refine h.pass hstep hi ⟨hr, hrc⟩ ⟨hr, hrc⟩ ?_ ?_
    · simpa [afterDrop, hrefund] using hwindow
    · simpa [afterDrop, hrefund, credits_dropFrames, RecvWindow.given] using hkept

theorem Balance.step (h : Balance initial s t) (hlt : initial < UInt32.size) (hs : s.Sound)
    (hi : s.Inbound t) (hstep : s.Step maxPayload e u s') : Balance initial s' (t ++ u) := by
  have hi' := hi.step hs hstep
  have htotal := h.total
  have keep := h.keep hstep
  have pass := h.pass hstep hi'
  have whole := hstep
  cases hstep with
  | still | accept | readWaits | writeWaits | write | closeWrite | dropAborted =>
    exact keep rfl htotal fun hr => ⟨hr, rfl, rfl, rfl⟩
  | read => exact h.read hlt hs hi' whole
  | dropHandle _ hr => exact h.dropHandle hlt hr hi' whole
  | reset | accused | rst =>
    refine keep (by simp) ?_ fun hr => absurd hr (not_receives_of_isTerminal isTerminal_aborted)
    rw [aborted_recv, aborted_buffered]
    split <;> omega
  | unheeded _ _ hun =>
    refine keep rfl htotal fun hr => ⟨hr, rfl, rfl, ?_⟩
    have hty := hun.resolve_left fun ht => not_receives_of_isTerminal (hs.terminal ht) hr
    simp [hty]
  | data _ _ hty _ hr hrc hrec =>
    refine pass ⟨hr, hrc⟩ ⟨hr, hrc⟩ (receive_sums hrec) ?_
    simp [(RecvWindow.receive_ok hrec).2, hty]
    omega
  | emptyData _ _ hty _ hr hrc hrec _ hp =>
    refine pass ⟨hr, hrc⟩ ⟨hr, hrc⟩ ?_ ?_
    · simpa [hp] using receive_sums (b := s.buffered) hrec
    · simp [(RecvWindow.receive_ok hrec).2, hp]
  | @dataForNobody message f recv _ _ hty _ hr hrc hrec _ =>
    -- What comes in counts as read at once.
    have hin := receive_sums (b := s.buffered) hrec
    have hunacked := (RecvWindow.receive_ok hrec).2
    obtain ⟨hwindow, hkept⟩ := consume_sums (w := recv) (n := f.payload.length)
      (b := s.buffered + f.payload.length) (by omega) (Nat.le_add_left _ _)
    rw [Nat.add_sub_cancel] at hwindow hkept
    refine pass ⟨hr, hrc⟩ ⟨hr, hrc⟩ (hwindow.trans hin) ?_
    rw [hunacked] at hkept
    simp [hty, RecvWindow.given] at hkept ⊢
    omega
  | windowUpdate _ _ hty =>
    refine keep rfl (by simpa using htotal) fun hr =>
      ⟨?_, grant_recv, grant_buffered, by simp [hty]⟩
    simpa [Receives] using hr
  | fin =>
    refine keep rfl (by simpa using htotal) fun hr => ?_
    obtain ⟨hr, hrc⟩ := hr
    rw [settle_reset, finish_reset] at hr
    rw [settle_remoteClosed, finish_remoteClosed, hr] at hrc
    simp at hrc

/-- The end of the stream leaves its credit alone. -/
theorem Balance.aborted (h : Balance initial s t) (hu : payloads u.sent = [])
    (hc : credits u.sent = 0)
    (hgot : u.got = []) (cause : ResetCause) : Balance initial (s.aborted cause) (t ++ u) := by
  have htotal := h.total
  have hdead (hr : (s.aborted cause).Receives) : False :=
    not_receives_of_isTerminal isTerminal_aborted hr
  refine ⟨?_, ?_, fun hr => (hdead hr).elim, fun hr => (hdead hr).elim, ?_⟩
  · simpa [hu, hgot] using h.spent
  · rw [aborted_recv, aborted_buffered]
    split <;> omega
  · simpa [hc, hgot] using h.given

theorem Balance.torn (h : Balance initial s t) (cause : Fault) : Balance initial
    (Session.tornDown cause s) t := by
  refine Session.tornDown_of (P := (Balance initial · t)) h ?_
  rw [← Traffic.append_empty t]
  exact h.aborted rfl rfl rfl _

theorem Balance.make {id : UInt32} {config : Config} {handle : Handle} {sent : List Frame}
    (hp : payloads sent = []) (hc : credits sent = 0) :
    Balance config.initialWindow.toNat (.make id config handle) { sent } := by
  refine ⟨?_, ?_, fun _ => ?_, fun _ => ?_, ?_⟩ <;> simp [hp, hc, Stream.make, RecvWindow.make]

end Stream

namespace Session

/-- The credit of streams in every session that can be met. -/
theorem balance {role : Role} {config : Config} {id : UInt32} {es : List Event} {st : Stream}
    (h : ((make role config).after es).find? id = some st) :
    st.Balance config.initialWindow.toNat ((make role config).traffic id es) := by
  have hboth : st.Inbound ((make role config).traffic id es) ∧
      st.Balance config.initialWindow.toNat ((make role config).traffic id es) := by
    refine stream_induction (P := fun st t => st.Inbound t ∧
      st.Balance config.initialWindow.toNat t)
      (fun _ => ⟨.make, .make rfl rfl⟩) (fun _ => ⟨.make, .make rfl rfl⟩) (fun _ => ⟨.refused, ?_⟩)
      (fun st st' e t u hs hst ih => ⟨ih.1.step hs hst,
        ih.2.step config.initialWindow.toNat_lt_size hs ih.1 hst⟩)
      (fun st t cause hs ih => ⟨ih.1.torn hs cause, ih.2.torn cause⟩) h
    rw [← Traffic.empty_append { sent := [Frame.rst id] }]
    exact (Stream.Balance.make rfl rfl).aborted rfl rfl rfl .here
  exact hboth.2

end Session
end StreamMux

/-
Credit goes back in batches. What a receiver has read and not given back stays
below the threshold, and no batch is smaller than the threshold; both hold
whatever the peer does, and under teardown too. A handle that is gone leaves
nothing unread, so on a stream that still receives nothing but the part of a
batch is ever withheld.

At the other end a write waits only while there is no credit at all.
-/
import StreamMux.Proofs.Balance

namespace StreamMux

/-! ## The threshold -/

theorem toNat_max (a b : UInt32) : (max a b).toNat = max a.toNat b.toNat := by
  show (if a ≤ b then b else a).toNat = max a.toNat b.toNat
  split
  · next h =>
    have := UInt32.le_iff_toNat_le.mp h
    omega
  · next h =>
    have := mt UInt32.le_iff_toNat_le.mpr h
    omega

theorem updateThreshold_pos (window : UInt32) (percent : UInt8) :
    0 < (updateThreshold window percent).toNat := by
  unfold updateThreshold
  rw [toNat_max]
  exact Nat.lt_of_lt_of_le Nat.one_pos (Nat.le_max_right _ _)

/-- A percentage of a window that is not empty fits the window. -/
theorem updateThreshold_le {window : UInt32} {percent : UInt8} (hw : window ≠ 0)
    (hp : percent ≤ 100) : (updateThreshold window percent).toNat ≤ window.toNat := by
  have hpos : 1 ≤ window.toNat := Nat.pos_of_ne_zero fun hz => hw (UInt32.toNat_inj.mp hz)
  have hpercent : percent.toNat ≤ 100 := UInt8.le_iff_toNat_le.mp hp
  have hlt := window.toNat_lt_size
  have hpart : window.toNat * percent.toNat / 100 ≤ window.toNat := by
    calc window.toNat * percent.toNat / 100 ≤ window.toNat * 100 / 100 :=
          Nat.div_le_div_right (Nat.mul_le_mul_left _ hpercent)
      _ = window.toNat := Nat.mul_div_cancel _ (by omega)
  unfold updateThreshold
  rw [toNat_max, toNat_toUInt32 (by omega)]
  exact Nat.max_le.mpr ⟨hpart, hpos⟩

theorem Config.threshold_pos (config : Config) : 0 < config.threshold.toNat :=
  updateThreshold_pos _ _

theorem Config.Valid.threshold_le {config : Config} (h : config.Valid) :
    config.threshold.toNat ≤ config.initialWindow.toNat := updateThreshold_le h.1 h.2.2.2.2.2

namespace RecvWindow

variable {w recv : RecvWindow} {n : Nat} {credit : UInt32}

theorem threshold_make {initial threshold : UInt32} (h : 0 < threshold.toNat) :
    (make initial threshold).threshold = threshold := by
  apply UInt32.toNat_inj.mp
  show (max threshold 1).toNat = threshold.toNat
  rw [toNat_max]
  exact Nat.max_eq_left h

theorem receive_threshold (h : w.receive n = .ok recv) : recv.threshold = w.threshold := by
  unfold receive at h
  split at h
  · cases h
  · cases h
    rfl

theorem consume_threshold (w : RecvWindow) (n : Nat) : (w.consume n).2.threshold = w.threshold := by
  simp only [consume]
  split <;> rfl

/-- What is left after counting is only the beginning of a batch. -/
theorem unacked_consume_lt (h : 0 < w.threshold.toNat) :
    (w.consume n).2.unacked.toNat < w.threshold.toNat := by
  simp only [consume]
  split
  · next hlt => exact UInt32.lt_iff_toNat_lt.mp hlt
  · exact h

/-- What is given back is a whole batch. -/
theorem threshold_le_of_consume (h : (w.consume n).1 = some credit) :
    w.threshold.toNat ≤ credit.toNat := by
  simp only [consume] at h
  split at h
  · cases h
  · next hge =>
    cases h
    exact UInt32.le_iff_toNat_le.mp (UInt32.not_lt.mp hge)

end RecvWindow

namespace Stream

variable {s s' : Stream} {maxPayload threshold : UInt32} {e : Session.Event} {u : Traffic}

/-! ## What a receiver withholds -/

/-- The receiving side withholds less than a batch, and nothing for a handle that is gone. -/
structure Batched (threshold : UInt32) (s : Stream) : Prop where
  threshold_eq : s.recv.threshold = threshold
  unacked_lt : s.recv.unacked.toNat < threshold.toNat
  dropped : s.handle = .dropped → s.reset = none → s.buffered = 0

/-- A window that moves, in a stream that keeps to its handle. -/
theorem Batched.keep (h : s.Batched threshold) (ht : s'.recv.threshold = s.recv.threshold)
    (hu : s'.recv.unacked = s.recv.unacked ∨ s'.recv.unacked.toNat < threshold.toNat)
    (hd : s'.handle = .dropped → s'.reset = none → s'.buffered = 0) : s'.Batched threshold := by
  refine ⟨ht.trans h.threshold_eq, ?_, hd⟩
  rcases hu with hu | hu
  · rw [hu]; exact h.unacked_lt
  · exact hu

theorem Batched.consume_lt (h : s.Batched threshold) {recv : RecvWindow}
    (hr : recv.threshold = s.recv.threshold)
    (n : Nat) : (recv.consume n).2.unacked.toNat < threshold.toNat := by
  have ht : recv.threshold = threshold := hr.trans h.threshold_eq
  have hpos : 0 < recv.threshold.toNat := by
    have := h.unacked_lt
    rw [ht]
    omega
  have hlt := RecvWindow.unacked_consume_lt (n := n) hpos
  rwa [ht] at hlt

theorem Batched.aborted (h : s.Batched threshold) (cause : ResetCause) :
    (s.aborted cause).Batched threshold := by
  refine h.keep (by rw [aborted_recv]) (.inl (by rw [aborted_recv])) fun hd hr => ?_
  rw [aborted_handle] at hd
  rw [aborted_reset] at hr
  split at hr
  · rw [aborted_buffered, h.dropped hd hr, ite_self]
  · cases hr

theorem Batched.step (h : s.Batched threshold) (hstep : s.Step maxPayload e u s') :
    s'.Batched threshold := by
  cases hstep with
  | still => exact h
  | accept => exact h.keep rfl (.inl rfl) (by simp)
  | readWaits | writeWaits | write | closeWrite => exact h.keep rfl (.inl rfl) h.dropped
  | read hh =>
    refine h.keep (RecvWindow.consume_threshold _ _) (.inr (h.consume_lt rfl _)) fun hd => ?_
    rw [settle_handle, afterRead_handle, hh] at hd
    cases hd
  | reset | accused | rst => exact h.aborted _
  | dropAborted _ hr =>
    refine h.keep rfl (.inl rfl) fun _ hn => ?_
    rw [settle_reset] at hn
    rw [hn] at hr
    cases hr
  | dropHandle =>
    have hrecv : s.afterDrop.settle.recv = s.refund.2 := rfl
    cases hrc : s.remoteClosed with
    | true =>
      have hrefund := refund_of_closed hrc
      exact h.keep (by rw [hrecv, hrefund]) (.inl (by rw [hrecv, hrefund])) fun _ _ => rfl
    | false =>
      have hrefund := refund_of_open hrc
      refine h.keep (by rw [hrecv, hrefund, RecvWindow.consume_threshold]) (.inr ?_) fun _ _ => rfl
      rw [hrecv, hrefund]
      exact h.consume_lt rfl _
  | unheeded => exact h
  | data _ _ _ _ _ _ hrec hh | emptyData _ _ _ _ _ _ hrec hh =>
    refine h.keep (RecvWindow.receive_threshold hrec) (.inl (RecvWindow.receive_ok hrec).2)
      fun hd => ?_
    exact absurd hd hh
  | dataForNobody _ _ _ _ _ _ hrec =>
    have ht := RecvWindow.receive_threshold hrec
    exact h.keep ((RecvWindow.consume_threshold _ _).trans ht) (.inr (h.consume_lt ht _)) h.dropped
  | windowUpdate =>
    refine h.keep (by rw [grant_recv]) (.inl (by rw [grant_recv])) fun hd hr => ?_
    rw [grant_handle] at hd
    rw [grant_reset] at hr
    rw [grant_buffered]
    exact h.dropped hd hr
  | fin =>
    refine h.keep (by simp) (.inl (by simp)) fun hd hr => ?_
    rw [settle_handle, finish_handle] at hd
    rw [settle_reset, finish_reset] at hr
    rw [settle_buffered, finish_buffered]
    exact h.dropped hd hr

theorem Batched.torn (h : s.Batched threshold) (cause : Fault) :
    (Session.tornDown cause s).Batched threshold :=
  Session.tornDown_of h (h.aborted _)

theorem Batched.make {id : UInt32} {config : Config} {handle : Handle} (hh : handle ≠ .dropped) :
    (Stream.make id config handle).Batched config.threshold := by
  have ht : (RecvWindow.make config.initialWindow config.threshold).threshold = config.threshold :=
    RecvWindow.threshold_make config.threshold_pos
  exact ⟨ht, config.threshold_pos, fun hd => absurd hd hh⟩

/-! ## What a write waits for -/

/-- A write is suspended only on a stream that may be written to and has no credit. -/
def Patient (s : Stream) : Prop :=
  s.writeWaiting = true → s.send.credit = 0 ∧ s.localClosed = false ∧ s.reset = none

/-- No write waits on a final stream. -/
theorem Patient.idle (h : s.Patient) : (s.isTerminal && s.writeWaiting) = false := by
  cases hw : s.writeWaiting with
  | false => exact Bool.and_false _
  | true =>
    obtain ⟨-, hl, hr⟩ := h hw
    simp [isTerminal_eq, hl, hr]

theorem Patient.aborted (h : s.Patient) (cause : ResetCause) : (s.aborted cause).Patient := by
  intro hw
  rw [aborted_eq] at hw
  cases h.idle.symm.trans hw

theorem Patient.step (h : s.Patient) (hmax : maxPayload ≠ 0) (hstep : s.Step maxPayload e u s') :
    s'.Patient := by
  cases hstep with
  | @writeWaits bytes expired _ hb hr hl hzero =>
    intro _
    have hlen : bytes.length ≠ 0 := fun hz => hb (List.length_eq_zero_iff.mp hz)
    have hpos : maxPayload.toNat ≠ 0 := fun hz => hmax (UInt32.toNat_inj.mp hz)
    have hcredit : s.send.credit.toNat = 0 := by omega
    exact ⟨UInt32.toNat_inj.mp hcredit, hl, hr⟩
  | @write bytes expired n _ _ _ hn hmin =>
    intro hw
    -- A write that goes on has credit, so none was waiting before it.
    obtain ⟨hcredit, -, -⟩ := h hw
    have hz : s.send.credit.toNat = 0 := by rw [hcredit]; rfl
    omega
  | closeWrite | dropAborted | dropHandle => exact fun hw => nomatch hw
  | reset | accused | rst => exact h.aborted _
  | windowUpdate =>
    intro hw
    rw [grant_eq] at hw
    cases h.idle.symm.trans hw
  | fin =>
    intro hw
    have hw : s.writeWaiting = true := by
      rw [finish_eq] at hw
      exact hw
    obtain ⟨hcredit, hl, hr⟩ := h hw
    exact ⟨by rw [settle_send, finish_send, hcredit], by
      rw [settle_localClosed, finish_localClosed, hl],
      by rw [settle_reset, finish_reset, hr]⟩
  | _ => exact h

theorem Patient.torn (h : s.Patient) (cause : Fault) : (Session.tornDown cause s).Patient :=
  Session.tornDown_of h (h.aborted _)

end Stream

namespace Session

variable {role : Role} {config : Config} {id : UInt32} {es : List Event} {st : Stream}

/-- What streams withhold, in every session that can be met. -/
theorem batched (h : ((make role config).after es).find? id = some st) :
    st.Batched config.threshold :=
  stream_induction (P := fun st _ => st.Batched config.threshold) (fun _ => .make (by simp))
    (fun _ => .make (by simp))
    (fun _ => (Stream.Batched.make (by simp)).aborted .here) (fun _ _ _ _ _ _ hst ih => ih.step hst)
    (fun _ _ cause _ ih => ih.torn cause) h

/-- Writes wait for credit only, in every session that can be met. -/
theorem patient (hmax : config.maxFramePayload ≠ 0)
    (h : ((make role config).after es).find? id = some st) :
    st.Patient :=
  stream_induction (P := fun st _ => st.Patient) (fun _ hw => nomatch hw) (fun _ hw => nomatch hw)
    (fun _ hw => nomatch hw) (fun _ _ _ _ _ _ hst ih => ih.step hmax hst)
      (fun _ _ cause _ ih => ih.torn cause) h

end Session
end StreamMux

/-
Credit of two ends, with all that is on its way between them. Of each direction
of a stream that is alive,

    credit + DATA in flight + buffered + unacknowledged + credit in flight

is the initial window. Of streams that are not, and on connections that were
cut, no more is known than that nothing was spent twice; that is enough for every
DATA to fit the window of its receiver and every WINDOW_UPDATE the word that
counts credit.
-/
import StreamMux.Proofs.LinkRun

namespace StreamMux

namespace Session

/-- Unread bytes of the stream `id`; none if there is no such stream. -/
def bufferedOf (s : Session) (id : UInt32) : Nat := ((s.find? id).map (·.buffered)).getD 0

/-- Bytes of the stream `id` that were read and not given back. -/
def unackedOf (s : Session) (id : UInt32) : Nat := ((s.find? id).map (·.recv.unacked.toNat)).getD 0

/-- The frame has room: DATA in the window of its stream, before FIN, and credit in
the word that counts it. A stream that the session has forgotten takes no part. -/
def Fits (s : Session) (f : Frame) : Prop :=
  ∀ st, s.tracked? f.streamId = some st →
    (f.type = .data → st.remoteClosed = false ∧ ∃ recv,
      st.recv.receive f.payload.length = .ok recv) ∧
    (f.type = .windowUpdate → (st.grant (f.credit?.getD 0)).1 = true)

theorem Welcome.fits {s : Session} {f : Frame} (h : s.Welcome f) : s.Fits f :=
  fun st htr => ⟨fun hty => h.data hty st htr, fun hty => h.credit hty st htr⟩

end Session

namespace Link

variable {config : Config} {moves : List Move} {r x : Role} {id : UInt32} {st : Stream}

/-- Nothing that an end has taken in is lost to the credit of the other end. -/
theorem credit_of_some {peer : Stream} (hcut : ((make config).after moves).cut = false)
    (hopen : ∀ r, (((make config).after moves).endOf r).session.ended = none)
    (h : (((make config).after moves).endOf x).session.find? id = some st)
    (hlive : st.isTerminal = false)
    (hpeer : (((make config).after moves).endOf x.other).session.find? id = some peer)
    (hr : peer.Receives) :
    st.send.credit.toNat + (payloads (((make config).after moves).inFlightOf x id)).length +
      peer.buffered +
      peer.recv.unacked.toNat + credits (((make config).after moves).inFlightOf x.other id) =
        config.initialWindow.toNat := by
  have hsent := sent_of_some hcut (hopen x.other) hpeer
  have hback := sent_of_some hcut (hopen x) h
  rw [Role.other_other] at hsent
  rw [session_of_run] at h hpeer
  have hexact := ((conversation config moves).fair h).exact hlive
  have hkept := (Conversation.balance hpeer).kept hr
  rw [hsent, List.append_assoc, Conversation.payloads_opening, payloads_append,
    List.length_append] at hexact
  rw [hback, List.append_assoc, Conversation.credits_opening, credits_append] at hkept
  omega

theorem credit_of_none (hcut : ((make config).after moves).cut = false)
    (hopen : ∀ r, (((make config).after moves).endOf r).session.ended = none)
    (h : (((make config).after moves).endOf x).session.find? id = some st)
    (hlive : st.isTerminal = false)
    (hpeer : (((make config).after moves).endOf x.other).session.find? id = none) :
    st.send.credit.toNat + (payloads (((make config).after moves).inFlightOf x id)).length =
        config.initialWindow.toNat ∧
      ((make config).after moves).inFlightOf x.other id = [] := by
  have hsent := sent_of_none hcut (hopen x.other) hpeer
  have hback := sent_of_some hcut (hopen x) h
  rw [Role.other_other] at hsent
  rw [session_of_run] at h hpeer
  have hexact := ((conversation config moves).fair h).exact hlive
  rw [Conversation.passed_eq_empty hpeer] at hback
  obtain ⟨hgot, hflight⟩ := List.append_eq_nil_iff.mp hback.symm
  rw [hsent, (List.append_eq_nil_iff.mp hgot).2, credits_nil] at hexact
  exact ⟨by omega, hflight⟩

/-- Until the connection is cut and while both sessions are open, every byte of
credit that an end does not have for a live stream is on a DATA frame in flight,
unread or unacknowledged at the other end, or on its way back, as long as the other
end still receives; and there is none of the last three before it has seen the SYN.
At any time, cut or not, the next message an open end reads is a frame that fits. -/
theorem conservation {l : Link} (hl : l.Reachable config) :
    (l.cut = false → (∀ r, (l.endOf r).session.ended = none) →
      ∀ x id st, (l.endOf x).session.find? id = some st → st.isTerminal = false →
      (∀ peer, (l.endOf x.other).session.find? id = some peer → peer.Receives) →
      st.send.credit.toNat + (payloads (l.inFlightOf x id)).length +
        (l.endOf x.other).session.bufferedOf id +
          (l.endOf x.other).session.unackedOf id + credits (l.inFlightOf x.other id) =
            config.initialWindow.toNat ∧
        ((l.endOf x.other).session.find? id = none → (l.endOf x.other).session.bufferedOf id = 0 ∧
          (l.endOf x.other).session.unackedOf id = 0 ∧ credits (l.inFlightOf x.other id) = 0)) ∧
    ∀ r message rest, (l.endOf r.other).underWay = message :: rest →
      (l.endOf r).session.ended = none →
      ∃ f, Frame.decode message config.maxFramePayload = .ok f ∧ (l.endOf r).session.Fits f := by
  obtain ⟨moves, rfl⟩ := hl.exists_run
  constructor
  · intro hcut hopen x id st h hlive hreceives
    simp only [Session.bufferedOf, Session.unackedOf]
    cases hpeer : (((make config).after moves).endOf x.other).session.find? id with
    | some peer => exact ⟨credit_of_some hcut hopen h hlive hpeer (hreceives peer hpeer), by simp⟩
    | none =>
      obtain ⟨hcredit, hflight⟩ := credit_of_none hcut hopen h hlive hpeer
      rw [hflight]
      exact ⟨by simpa using hcredit, by simp⟩
  · intro r message rest hw hopen
    obtain ⟨f, rfl, hlegal, hnext⟩ := next_heard hw hopen
    refine ⟨f, Frame.decode_encode hlegal, ?_⟩
    rw [session_of_run] at hopen ⊢
    exact ((conversation config moves).welcome hnext hopen).fits

/-- Three bytes were sent; of two that have come one was read. -/
def oneRead : List Move :=
  [.call .client .openStream, .call .client (.write 1 [7, 8] false),
    .call .client (.write 1 [9] false),
    .write .client, .write .client, .write .client, .read .server, .read .server,
    .call .server (.accept 0), .call .server (.read 1 1 false)]

theorem conservation_of_one_read :
    1 + 1 + 1 + 1 + 0 = 4 ∧ ∃ f, Frame.decode (Frame.data 1 [9]).encode 4 = .ok f ∧
      (((make ⟨4, 4, 50, 1⟩).after oneRead).endOf .server).session.Fits f :=
  have h := conservation (reachable_after ⟨4, 4, 50, 1⟩ oneRead)
  ⟨(h.1 rfl (by rintro (_ | _) <;> rfl) .client 1 _ rfl rfl
      fun peer hpeer => by obtain rfl := Option.some.inj hpeer; exact ⟨rfl, rfl⟩).1,
    h.2 .server _ [] rfl rfl⟩

end Link
end StreamMux

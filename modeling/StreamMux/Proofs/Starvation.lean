/-
No writer waits in vain. Once nothing is on its way for a stream and its reader
has nothing left to read, or is gone, the writer has all of its credit back but
the part of a batch that the other end still collects; and that is never the
whole window. So a write that waits means bytes to be read at the other end, or
a frame that is still to come.

The bound is what `Link.conservation` leaves when all other terms are gone.
-/
import StreamMux.Proofs.Batching
import StreamMux.Proofs.Concord
import StreamMux.Proofs.Conservation

namespace StreamMux.Link

variable {config : Config} {moves : List Move} {x : Role} {id : UInt32} {st peer : Stream}

theorem receives_of_peer (h : (((make config).after moves).endOf x).session.find? id = some st)
    (hl : st.localClosed = false)
    (hpeer : (((make config).after moves).endOf x.other).session.find? id = some peer)
    (hr : peer.reset = none) : peer.Receives := by
  refine ⟨hr, ?_⟩
  cases hrc : peer.remoteClosed with
  | false => rfl
  | true =>
    have c := conversation config moves
    rw [session_of_run] at h hpeer
    have hfin := c.carries_got hpeer (by simp) ((Conversation.inbound hpeer).fin hrc)
    rw [Role.other_other] at hfin
    rw [(Conversation.outbound h).fin.mpr hfin] at hl
    cases hl

theorem withheld_lt
    (hpeer : (((make config).after moves).endOf x.other).session.find? id = some peer)
    (hr : peer.reset = none) (hread : peer.unread = [] ∨ peer.handle = .dropped) :
    peer.buffered + peer.recv.unacked.toNat < config.threshold.toNat := by
  have hsound := (wellFormed config moves x.other).sound peer (Session.mem_of_find? hpeer)
  rw [session_of_run] at hpeer
  have hbatched := Session.batched hpeer
  have hbuffered : peer.buffered = 0 := by
    rcases hread with hunread | hd
    · rw [hsound.buffered_eq, hunread]
      rfl
    · exact hbatched.dropped hd hr
  have := hbatched.unacked_lt
  omega

section

variable (hcut : ((make config).after moves).cut = false)
  (hopen : ∀ r, (((make config).after moves).endOf r).session.ended = none)
include hcut hopen

theorem credit_of_idle (h : (((make config).after moves).endOf x).session.find? id = some st)
    (hlive : st.isTerminal = false) (hl : st.localClosed = false)
    (hidle : ∀ r, ((make config).after moves).inFlightOf r id = [])
    (hread : ∀ peer, (((make config).after moves).endOf x.other).session.find? id = some peer →
      peer.reset = none ∧ (peer.unread = [] ∨ peer.handle = .dropped)) :
    config.initialWindow.toNat + 1 ≤ st.send.credit.toNat + config.threshold.toNat := by
  cases hpeer : (((make config).after moves).endOf x.other).session.find? id with
  | none =>
    obtain ⟨hcredit, -⟩ := credit_of_none hcut hopen h hlive hpeer
    have hpos := config.threshold_pos
    rw [hidle x, payloads_nil, List.length_nil] at hcredit
    omega
  | some peer =>
    obtain ⟨hr, hgone⟩ := hread peer hpeer
    have hcredit := credit_of_some hcut hopen h hlive hpeer (receives_of_peer h hl hpeer hr)
    have hheld := withheld_lt hpeer hr hgone
    rw [hidle x, hidle x.other, payloads_nil, List.length_nil, credits_nil] at hcredit
    omega

/-- An end that is aborted while the other is not has told it so, and that is still to come. -/
theorem inFlight_of_reset (h : (((make config).after moves).endOf x).session.find? id = some st)
    (hlive : st.isTerminal = false)
    (hpeer : (((make config).after moves).endOf x.other).session.find? id = some peer)
    (hr : peer.reset ≠ none) :
    ((make config).after moves).inFlightOf x.other id ≠ [] := by
  intro hidle
  have c := conversation config moves
  have hsent := sent_of_some hcut (hopen x) h
  have hended := hopen x.other
  rw [session_of_run] at h hpeer hended
  rw [hidle, List.append_nil] at hsent
  rcases c.reset_cases hpeer hr with hover | hhere | ⟨-, st', hst', hhere⟩
  · exact hover hended
  · have hrst := (Conversation.outbound hpeer).rst.mp (.inl hhere)
    rw [hsent, Conversation.carries_opening (by simp)] at hrst
    rw [(Conversation.inbound h).rstTaken hrst] at hlive
    cases hlive
  · rw [Role.other_other, h] at hst'
    obtain rfl := Option.some.inj hst'
    rw [Stream.isTerminal_of_reset (by simp [hhere])] at hlive
    cases hlive

end

/-- As long as the connection was not cut and both sessions are open, a stream that
may still be written to has all its credit but less than a batch, hence some, once
no frame for it is queued or under way and the other end, not aborted, has nothing
unread or has let it go. So a write is suspended only without credit, and then a
frame is still under way or the other application has bytes to read. -/
theorem no_starvation {l : Link} (hv : config.Valid) (hl : l.Reachable config)
    (hcut : l.cut = false)
    (hopen : ∀ r, (l.endOf r).session.ended = none) (h : (l.endOf x).session.find? id = some st) :
    (st.isTerminal = false → st.localClosed = false → (∀ r, l.inFlightOf r id = []) →
      (∀ peer, (l.endOf x.other).session.find? id = some peer →
        peer.reset = none ∧ (peer.unread = [] ∨ peer.handle = .dropped)) →
      config.initialWindow.toNat + 1 ≤ st.send.credit.toNat + config.threshold.toNat ∧
        1 ≤ st.send.credit.toNat) ∧
    (st.writeWaiting = true → st.send.credit = 0 ∧
      ((∃ r, l.inFlightOf r id ≠ []) ∨
        ∃ peer, (l.endOf x.other).session.find? id = some peer ∧ peer.unread ≠ [] ∧
          peer.handle ≠ .dropped)) := by
  obtain ⟨moves, rfl⟩ := hl.exists_run
  have hbatch := hv.threshold_le
  refine ⟨fun hlive hlc hidle hread => ?_, fun hwaits => ?_⟩
  · have hcredit := credit_of_idle hcut hopen h hlive hlc hidle hread
    omega
  · have hs := h
    rw [session_of_run] at hs
    obtain ⟨hzero, hlc, hr⟩ := Session.patient hv.2.1 hs hwaits
    have hlive : st.isTerminal = false := by simp [Stream.isTerminal_eq, hr, hlc]
    refine ⟨hzero, Classical.byContradiction fun hno => ?_⟩
    rw [not_or, not_exists, not_exists] at hno
    obtain ⟨hidle, hread⟩ := hno
    have hidle : ∀ r, ((make config).after moves).inFlightOf r id = [] :=
      fun r => Decidable.not_not.mp (hidle r)
    have hcredit := credit_of_idle hcut hopen h hlive hlc hidle fun peer hpeer => by
      have hreset : peer.reset = none := Decidable.byContradiction fun hr =>
        inFlight_of_reset hcut hopen h hlive hpeer hr (hidle x.other)
      refine ⟨hreset, Decidable.or_iff_not_imp_left.mpr fun hunread => ?_⟩
      exact Decidable.byContradiction fun hd => hread peer ⟨hpeer, hunread, hd⟩
    rw [hzero] at hcredit
    have hz : (0 : UInt32).toNat = 0 := rfl
    omega

/-- Of a window of four, one byte was sent, has come and was read. -/
def readBack : List Move :=
  [.call .client .openStream, .call .client (.write 1 [7] false), .write .client, .write .client,
    .read .server, .read .server, .call .server (.accept 0), .call .server (.read 1 4 false)]

/-- A whole window of four was sent and has come, and the next write waits. -/
def windowSpent : List Move :=
  [.call .client .openStream, .call .client (.write 1 [7, 8, 9, 10] false), .write .client,
    .write .client, .read .server, .read .server, .call .client (.write 1 [11] false)]

theorem no_starvation_of_read_back :
    (4 + 1 ≤ 3 + 2 ∧ 1 ≤ 3) ∧
      ((0 : UInt32) = 0 ∧ ((∃ r, ((make ⟨4, 4, 50, 1⟩).after windowSpent).inFlightOf r 1 ≠ []) ∨
        ∃ peer, (((make ⟨4, 4, 50, 1⟩).after windowSpent).endOf .server).session.find? 1 =
          some peer ∧ peer.unread ≠ [] ∧ peer.handle ≠ .dropped)) :=
  have hopen : ∀ moves, moves = readBack ∨ moves = windowSpent →
      ∀ r, (((make ⟨4, 4, 50, 1⟩).after moves).endOf r).session.ended = none := by
    rintro _ (rfl | rfl) (_ | _) <;> rfl
  ⟨(@no_starvation ⟨4, 4, 50, 1⟩ .client 1 _ _ (by decide) (reachable_after _ readBack) rfl
      (hopen _ (.inl rfl)) rfl).1 rfl rfl (by rintro (_ | _) <;> rfl)
      fun peer hpeer => by obtain rfl := Option.some.inj hpeer; exact ⟨rfl, .inl rfl⟩,
    (@no_starvation ⟨4, 4, 50, 1⟩ .client 1 _ _ (by decide) (reachable_after _ windowSpent) rfl
      (hopen _ (.inr rfl)) rfl).2 rfl⟩

end StreamMux.Link

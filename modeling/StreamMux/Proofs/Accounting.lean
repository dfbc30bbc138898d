/-
The books of a receiver, whatever its peer sends. The unread bytes are counted
right and kept in chunks of which none is empty, less than a batch is withheld, and

    remaining + buffered + unacked ≤ initial

always holds, so that no word of the receive path is ever cut short. The two sides
are equal unless unread bytes were thrown away: when the stream was aborted other
than by the end of the session, or its handle was given up after the peer's FIN.
-/
import StreamMux.Proofs.Batching

namespace StreamMux

namespace RecvWindow

/-- Counting `n` bytes as read is exact: the number fits a word, and neither sum stops at
the largest word. -/
structure Exact (w : RecvWindow) (n : Nat) : Prop where
  count : n.toUInt32.toNat = n
  unacked : (saturatingAdd w.unacked n.toUInt32).toNat = w.unacked.toNat + n
  remaining : (saturatingAdd w.remaining (saturatingAdd w.unacked n.toUInt32)).toNat =
    w.remaining.toNat + (w.unacked.toNat + n)

theorem Exact.of_lt {w : RecvWindow} {n : Nat}
    (h : w.remaining.toNat + (w.unacked.toNat + n) < UInt32.size) :
    w.Exact n := by
  have hcount : n.toUInt32.toNat = n := toNat_toUInt32 (by omega)
  have hunacked : (saturatingAdd w.unacked n.toUInt32).toNat = w.unacked.toNat + n := by
    rw [toNat_saturatingAdd (by omega), hcount]
  exact ⟨hcount, hunacked, by rw [toNat_saturatingAdd (by omega), hunacked]⟩

end RecvWindow

namespace Stream

variable {s s' : Stream} {maxPayload : UInt32} {e : Session.Event} {u : Traffic} {initial : Nat}
  {cause : ResetCause}

/-! ## Chunks -/

/-- No chunk of unread bytes is empty. -/
def Packed (s : Stream) : Prop := ∀ chunk ∈ s.chunks, chunk ≠ []

/-- What is left of chunks when bytes are taken off the front. -/
theorem takeBytes_packed {room : Nat} {chunks : List Bytes} (h : ∀ chunk ∈ chunks, chunk ≠ []) :
    ∀ chunk ∈ (takeBytes room chunks).2, chunk ≠ [] := by
  fun_induction takeBytes room chunks with
  | case1 chunks => exact h
  | case2 => exact h
  | case3 room c rest _ hle taken left heq ih =>
    rw [heq] at ih
    exact ih fun chunk hm => h chunk (List.mem_cons_of_mem _ hm)
  | case4 room c rest _ hlt =>
    rw [List.forall_mem_cons] at h ⊢
    refine ⟨fun hnil => ?_, h.2⟩
    rw [List.drop_eq_nil_iff] at hnil
    exact hlt hnil

theorem Packed.aborted (h : s.Packed) (cause : ResetCause) : (s.aborted cause).Packed := by
  rw [Packed, aborted_eq]
  split
  · exact h
  · exact fun _ hm => nomatch hm

theorem Packed.step (h : s.Packed) (hstep : s.Step maxPayload e u s') : s'.Packed := by
  cases hstep with
  | read => exact takeBytes_packed h
  | reset | accused | rst => exact h.aborted _
  | dropHandle => exact fun _ hm => nomatch hm
  | data _ _ _ _ _ _ _ _ hp =>
    intro chunk hm
    rcases List.mem_append.mp hm with hm | hm
    · exact h chunk hm
    · rw [List.mem_singleton.mp hm]
      exact hp
  | windowUpdate => rw [Packed, grant_eq]; exact h
  | fin => rw [finish_eq]; exact h
  | _ => exact h

theorem Packed.torn (h : s.Packed) (fault : Fault) : (Session.tornDown fault s).Packed :=
  Session.tornDown_of h (h.aborted _)

/-! ## Whole windows -/

/-- Nothing of the window is lost as long as no unread bytes are thrown away with the stream. -/
def Whole (initial : Nat) (s : Stream) : Prop :=
  s.reset.filter (·.discardsData) = none → s.recv.remaining.toNat + s.buffered +
    s.recv.unacked.toNat = initial

theorem Whole.keep (h : s.Whole initial) (hr : s'.reset = s.reset)
    (hsum : s.recv.remaining.toNat + s.buffered + s.recv.unacked.toNat = initial →
      s'.recv.remaining.toNat + s'.buffered + s'.recv.unacked.toNat = initial) : s'.Whole initial :=
  fun hkept => hsum (h (by rwa [hr] at hkept))

theorem Whole.aborted (h : s.Whole initial) (cause : ResetCause) :
    (s.aborted cause).Whole initial := by
  intro hkept
  rw [aborted_recv, aborted_buffered]
  rw [aborted_reset] at hkept
  cases hterm : s.isTerminal with
  | true =>
    rw [hterm, if_pos rfl] at hkept
    exact h hkept
  | false =>
    have hreset : s.reset = none := by
      rw [isTerminal_eq, Bool.or_eq_false_iff] at hterm
      simpa using hterm.1
    have hd : cause.discardsData = false := by simpa [hterm] using hkept
    rw [hd]
    exact h (by rw [hreset]; rfl)

theorem Whole.step (h : s.Whole initial) (hlt : initial < UInt32.size) (hs : s.Sound)
    (hdrop : e = .call (.dropHandle s.id) → s.handle = .held → s.remoteClosed = false)
    (hstep : s.Step maxPayload e u s') : s'.Whole initial := by
  cases hstep with
  | @read room =>
    exact h.keep rfl fun hsum => (consume_sums (by omega) (length_drain_le hs room)).1.trans hsum
  | reset | accused | rst => exact h.aborted _
  | dropHandle hheld =>
    refine h.keep rfl fun hsum => ?_
    -- The peer may still send, so the unread bytes count as read.
    have hrefund := refund_of_open (hdrop rfl hheld)
    have hall := (consume_sums (w := s.recv) (by omega) (Nat.le_refl s.buffered)).1
    rw [Nat.sub_self] at hall
    rw [settle_recv, settle_buffered, afterDrop, hrefund]
    exact hall.trans hsum
  | data _ _ _ _ _ _ hrec => exact h.keep rfl fun hsum => (receive_sums hrec).trans hsum
  | emptyData _ _ _ _ _ _ hrec _ hp =>
    refine h.keep rfl fun hsum => ?_
    rw [hp] at hrec
    exact (receive_sums hrec).trans hsum
  | @dataForNobody message f recv _ _ _ _ _ _ hrec =>
    refine h.keep rfl fun hsum => ?_
    have hin := receive_sums (b := s.buffered) hrec
    have hall :=
      (consume_sums (w := recv) (n := f.payload.length) (b := s.buffered + f.payload.length)
        (by omega) (Nat.le_add_left _ _)).1
    rw [Nat.add_sub_cancel] at hall
    exact (hall.trans hin).trans hsum
  | windowUpdate => exact h.keep grant_reset fun hsum => by rwa [grant_recv, grant_buffered]
  | fin => exact h.keep (by simp) fun hsum => by simpa using hsum
  | _ => exact h

/-! ## What follows -/

/-- The counts of a receiver. -/
structure Accounts (config : Config) (s : Stream) : Prop where
  buffered_eq : s.buffered = (s.chunks.map List.length).foldr (· + ·) 0
  packed : s.Packed
  unacked_lt : s.recv.unacked.toNat < config.threshold.toNat
  total_le : s.recv.remaining.toNat + s.buffered + s.recv.unacked.toNat ≤ config.initialWindow.toNat
  unread_le : s.unread.length ≤ config.initialWindow.toNat

/-- No word of the receive path is cut short and no count goes below zero, whatever is read,
comes in, or is thrown away next. -/
structure Precise (s : Stream) : Prop where
  read : ∀ room, (s.drain room).1.length ≤ s.buffered ∧ s.recv.Exact (s.drain room).1.length
  drop : s.recv.Exact s.buffered
  /-- Bytes that come in may have to be counted as read at once. -/
  arrival : ∀ n recv, s.recv.receive n = .ok recv →
    n.toUInt32.toNat = n ∧ n ≤ s.recv.remaining.toNat ∧
      recv.remaining.toNat = s.recv.remaining.toNat - n ∧ recv.Exact n

theorem precise (hs : s.Sound)
    (hlt : s.recv.remaining.toNat + s.buffered + s.recv.unacked.toNat < UInt32.size) :
    s.Precise where
  read room := by
    have hle := length_drain_le hs room
    exact ⟨hle, .of_lt (by omega)⟩
  drop := .of_lt (by omega)
  arrival n recv hrec := by
    obtain ⟨hremaining, hunacked⟩ := RecvWindow.receive_ok hrec
    exact ⟨toNat_toUInt32 (by omega), by omega, by omega, .of_lt (by rw [hunacked]; omega)⟩

end Stream

namespace Session

variable {role : Role} {config : Config} {id : UInt32} {es : List Event} {st : Stream}

/-- If the handle of the stream is given up, the peer has not sent its FIN. -/
def DropsEarly (id : UInt32) (s : Session) (e : Event) : Prop :=
  e = .call (.dropHandle id) → ∀ st, s.held? id = some st → st.remoteClosed = false

theorem packed (h : ((make role config).after es).find? id = some st) : st.Packed :=
  stream_induction (P := fun st _ => st.Packed) (fun _ _ hm => nomatch hm)
    (fun _ _ hm => nomatch hm)
    (fun _ _ hm => nomatch hm) (fun _ _ _ _ _ _ hst ih => ih.step hst)
      (fun _ _ fault _ ih => ih.torn fault) h

theorem accounts (h : ((make role config).after es).find? id = some st) : st.Accounts config := by
  have hs := (wellFormed_after role config es).sound st (mem_of_find? h)
  have htotal := (balance h).total
  have hbuffered := hs.buffered_eq
  refine ⟨?_, packed h, (batched h).unacked_lt, htotal, by omega⟩
  rw [hbuffered, Stream.unread, List.length_flatten]
  rfl

theorem whole (hq : Throughout (DropsEarly id) (make role config) es)
    (h : ((make role config).after es).find? id = some st) :
    st.Whole config.initialWindow.toNat := by
  have made (handle : Handle) : (Stream.make id config handle).Whole config.initialWindow.toNat :=
    fun _ => rfl
  refine stream_induction_of (P := fun st _ => st.Whole config.initialWindow.toNat) hq
    (fun _ => made _) (fun _ => made _)
    (fun _ => (made _).aborted _) ?_ (fun _ _ fault _ ih => Session.tornDown_of ih (ih.aborted _)) h
  rintro s st st' e t u wf - hfind hq hst ih
  obtain rfl := find?_id hfind
  refine ih.step config.initialWindow.toNat_lt_size (wf.sound st (mem_of_find? hfind))
    (fun he hheld => hq he st ?_) hst
  rw [held?_eq wf.distinct, hfind]
  simp [hheld]

/-- The receiving side of every stream, whatever the peer sends and the application asks
for: its counts are right and bounded, nothing of its window is missing unless unread bytes
were thrown away, and none of its arithmetic is ever cut short. -/
theorem accounting (role : Role) (config : Config) (id : UInt32) (es : List Event) {st : Stream}
    (h : ((make role config).after es).find? id = some st) :
    st.Accounts config ∧
    ((∀ before later held, es = before ++ .call (.dropHandle id) :: later →
        ((make role config).after before).held? id = some held → held.remoteClosed = false) →
      st.reset.filter (·.discardsData) = none →
        st.recv.remaining.toNat + st.buffered + st.recv.unacked.toNat =
          config.initialWindow.toNat) ∧
    st.Precise := by
  have haccounts := accounts h
  refine ⟨haccounts, fun hdrops => whole (throughout_of_splits ?_) h, Stream.precise ?_ ?_⟩
  · rintro before e later heq rfl held hheld
    exact hdrops before later held heq hheld
  · exact (wellFormed_after role config es).sound st (mem_of_find? h)
  · exact Nat.lt_of_le_of_lt haccounts.total_le config.initialWindow.toNat_lt_size

/-- Three bytes have come in one message, and one of them was read. -/
def partRead : List Event :=
  [.message (Frame.syn 1).encode, .call (.accept 0), .message (Frame.data 1 [7, 8, 9]).encode,
    .call (.read 1 1 false)]

theorem accounting_of_part_read :
    ∃ st, ((make .server ⟨4, 4, 50, 1⟩).after partRead).find? 1 = some st ∧ st.chunks = [[8, 9]] ∧
      st.buffered = [2].foldr (· + ·) 0 ∧
      1 + st.buffered + st.recv.unacked.toNat = 4 := by
  have h := accounting .server ⟨4, 4, 50, 1⟩ 1 partRead rfl
  refine ⟨_, rfl, rfl, h.1.buffered_eq, h.2.1 (fun before later held heq => ?_) rfl⟩
  have hmem : Event.call (.dropHandle 1) ∈ partRead := by
    rw [heq]
    simp
  exact absurd hmem (by decide)

end Session
end StreamMux

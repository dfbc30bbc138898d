/-
What a stream spends, whatever its peer sends. The DATA queued for it and the credit
it has left are together no more than it started with and was given since, and
exactly that as long as every grant could be used. A write call that has bytes
accepted queues just these in one frame, so that DATA carries what was accepted,
no byte skipped or repeated, also when a buffer goes out in pieces.
-/
import StreamMux.Proofs.Balance

namespace StreamMux

namespace Stream

variable {s s' : Stream} {maxPayload : UInt32} {e : Session.Event} {u : Traffic}

/-- Frames are routed to the stream as long as the session tracks it. -/
def routes (s : Stream) (_ : Frame) : Bool := s.tracked

theorem Step.spent_routed_le (h : s.Step maxPayload e u s') :
    s'.send.credit.toNat + (payloads u.sent).length ≤
      s.send.credit.toNat + credits (u.got.filter s.routes) := by
  cases h with
  | write _ _ _ _ hn => exact Nat.le_of_eq (spent_write hn)
  | @windowUpdate message f _ _ _ ht =>
    have hg := SendWindow.toNat_grant_le s.send (f.credit?.getD 0)
    rw [grant_eq]
    split
    · simp
    · simpa [routes, ht] using hg
  | closeWrite | dropHandle => simp [Frame.fin, afterDrop]
  | _ => simp

/-- Nothing is lost if a grant that is routed to the stream can be used. -/
theorem Step.spent_routed_eq (h : s.Step maxPayload e u s')
    (hfit : ∀ message f, e = .message message → Frame.decode message maxPayload = .ok f →
      f.type = .windowUpdate →
      f.streamId = s.id → s.tracked = true → s.isTerminal = false ∧
        (s.grant (f.credit?.getD 0)).1 = true) :
    s'.send.credit.toNat + (payloads u.sent).length =
      s.send.credit.toNat + credits (u.got.filter s.routes) := by
  have nothing {f : Frame} (hty : s.tracked = true → f.type ≠ .windowUpdate) :
      credits ([f].filter s.routes) = 0 := by
    refine credits_eq_zero fun g hg => ?_
    rw [List.mem_filter, List.mem_singleton] at hg
    obtain ⟨rfl, ht⟩ := hg
    exact hty ht
  cases h with
  | write _ _ _ _ hn => exact spent_write hn
  | @windowUpdate message f hdec hid hty ht =>
    obtain ⟨hlive, hg⟩ := hfit message f rfl hdec hty hid ht
    have hfits := hg
    rw [grant, hlive, if_neg (by simp)] at hfits
    have hadd := SendWindow.toNat_grant hfits
    rw [grant_eq, hlive]
    simpa [routes, ht] using hadd
  | unheeded _ _ hun =>
    rw [nothing fun ht => by simp [hun.resolve_left (by simp [ht])]]
    simp
  | data _ _ hty | emptyData _ _ hty | fin _ _ hty | rst _ _ hty =>
    rw [nothing fun _ => by simp [hty]]
    simp
  | dataForNobody _ _ hty =>
    rw [nothing fun _ => by simp [hty]]
    simp
  | accused _ ha =>
    cases ha with
    | violation _ hty =>
      rw [nothing fun _ => by simp [hty]]
      simp
    | lost => simp
  | closeWrite | dropHandle => simp [Frame.fin, afterDrop]
  | _ => simp

end Stream

namespace Session

variable {s : Session} {role : Role} {config : Config} {id : UInt32} {es part during : List Event}
  {e : Event} {st : Stream} {bytes buffer : Bytes} {expired : Bool}

/-! ## Credit -/

/-- The frames that were routed to the stream `id`. -/
def routed (s : Session) (id : UInt32) (es : List Event) : List Frame :=
  s.gotWhile Stream.routes id es

/-- A WINDOW_UPDATE that is routed to the stream `id` finds it alive, and its credit fits. -/
def GrantsFit (id : UInt32) (s : Session) (e : Event) : Prop :=
  ∀ message f st, e = .message message → Frame.decode message s.config.maxFramePayload = .ok f →
    f.type = .windowUpdate → f.streamId = id → s.tracked? id = some st →
    st.isTerminal = false ∧ (st.grant (f.credit?.getD 0)).1 = true

theorem spent_le (h : ((make role config).after es).find? id = some st) :
    st.send.credit.toNat + (payloads ((make role config).framesFor id es)).length ≤
      config.initialWindow.toNat + credits ((make role config).routed id es) := by
  rw [framesFor_eq]
  refine stream_induction_while
    (P := fun st t fs => st.send.credit.toNat + (payloads t.sent).length ≤
      config.initialWindow.toNat + credits fs)
    Stream.routes (throughout_of_forall (Q := fun _ _ => True) fun _ _ => trivial)
      (fun _ => Nat.le_refl _)
    (fun _ => Nat.le_refl _) (fun _ => ?_) ?_ ?_ h
  · simp [Stream.make, Frame.rst]
  · rintro s st st' e t u fs - - - - hst ih
    have hstep := hst.spent_routed_le
    rw [Traffic.sent_append, payloads_append, List.length_append, credits_append]
    omega
  · rintro st t fs fault - ih
    exact tornDown_of (P := fun st => st.send.credit.toNat + _ ≤ _) ih
      (by rwa [Stream.aborted_send])

theorem spent_eq (hq : Throughout (GrantsFit id) (make role config) es)
    (h : ((make role config).after es).find? id = some st) :
    st.send.credit.toNat + (payloads ((make role config).framesFor id es)).length =
      config.initialWindow.toNat + credits ((make role config).routed id es) := by
  rw [framesFor_eq]
  refine stream_induction_while
    (P := fun st t fs => st.send.credit.toNat + (payloads t.sent).length =
      config.initialWindow.toNat + credits fs)
    Stream.routes hq (fun _ => rfl) (fun _ => rfl) (fun _ => ?_) ?_ ?_ h
  · simp [Stream.make, Frame.rst]
  · rintro s st st' e t u fs wf hconfig hfind hq hst ih
    obtain rfl := find?_id hfind
    have hstep := hst.spent_routed_eq fun message f he hdec hty hid ht =>
      hq message f st he (by rwa [hconfig]) hty hid
        (by rw [tracked?_eq wf.distinct, hfind]; simp [ht])
    rw [Traffic.sent_append, payloads_append, List.length_append, credits_append]
    omega
  · rintro st t fs fault - ih
    exact tornDown_of (P := fun st => st.send.credit.toNat + _ = _) ih
      (by rwa [Stream.aborted_send])

/-! ## Writes -/

/-- A write call either has as many bytes accepted as one frame and the credit allow, and queues
just these, or has none accepted and queues nothing. -/
theorem write_cases (s : Session) (id : UInt32) (bytes : Bytes) (expired : Bool) :
    (∃ st n, s.held? id = some st ∧ n = min (min bytes.length s.config.maxFramePayload.toNat)
      st.send.credit.toNat ∧
      1 ≤ n ∧ (s.step (.call (.write id bytes expired))).result = .wrote (.ready (.ok n)) ∧
      (s.step (.call (.write id bytes expired))).frames = [.data id (bytes.take n)]) ∨
    (∀ n, (s.step (.call (.write id bytes expired))).result = .wrote (.ready (.ok n)) →
      bytes = []) ∧
      (s.step (.call (.write id bytes expired))).frames = [] := by
  simp only [step, call, onHeld]
  cases hh : s.held? id with
  | none => exact .inr ⟨by simp, rfl⟩
  | some st =>
    have hid : st.id = id := by
      have hmatch := List.find?_some hh
      simp only [Bool.and_eq_true, beq_iff_eq] at hmatch
      exact hmatch.1
    simp only [Outcome.as, write]
    split
    next => exact .inr ⟨by simp, rfl⟩
    split
    next => exact .inr ⟨by simp, rfl⟩
    split
    next hnil => exact .inr ⟨fun n _ => List.isEmpty_iff.mp hnil, rfl⟩
    have hlen : (bytes.take s.config.maxFramePayload.toNat).length =
        min bytes.length s.config.maxFramePayload.toNat := by
      rw [List.length_take, Nat.min_comm]
    simp only [SendWindow.reserve, hlen]
    split
    next => exact .inr ⟨by cases expired <;> simp, rfl⟩
    next hn =>
      split
      next hq =>
        left
        refine ⟨st, _, rfl, rfl, Nat.one_le_iff_ne_zero.mpr hn, rfl, ?_⟩
        simp only [queue] at hq
        split at hq
        · cases hq
        · cases hq
          rw [hid]
      next => exact .inr ⟨by simp, rfl⟩

/-! ## What was written -/

/-- The bytes that write calls had accepted on the stream `id`. -/
def bytesWritten (s : Session) (id : UInt32) (es : List Event) : Bytes :=
  (s.trace es).flatMap fun answer => acceptedBy id answer.1 answer.2

theorem bytesWritten_eq : s.bytesWritten id es = (s.traffic id es).wrote := wrote_traffic.symm

theorem bytesWritten_concat :
    s.bytesWritten id (es ++ [e]) = s.bytesWritten id es ++
      acceptedBy id e ((s.after es).step e).result := by
  simp [bytesWritten, trace_append, trace]

/-- DATA carries what was accepted, since any point of a run. -/
theorem payloads_framesFor (role : Role) (config : Config) (before during : List Event) :
    payloads (((make role config).after before).framesFor id during) =
      ((make role config).after before).bytesWritten id during := by
  have hall : payloads ((make role config).traffic id (before ++ during)).sent = _ := payloads_sent
  have hbefore : payloads ((make role config).traffic id before).sent = _ := payloads_sent
  rw [traffic_append, Traffic.sent_append, Traffic.wrote_append, payloads_append, hbefore] at hall
  rw [framesFor_eq, bytesWritten_eq]
  exact List.append_cancel_left hall

/-- Write calls that go on where the last one stopped write a first part of the buffer. -/
theorem bytesWritten_part
    (hrest : ∀ part bytes expired later, during = part ++ .call (.write id bytes expired) :: later →
    bytes = buffer.drop (s.bytesWritten id part).length) : s.bytesWritten id during <+: buffer := by
  induction during using List.reverseRecOn with
  | nil => exact List.nil_prefix
  | append_singleton during e ih =>
    obtain ⟨rest, hsplit⟩ := ih fun part bytes expired later heq =>
      hrest part bytes expired (later ++ [e]) (by simp [heq])
    rw [bytesWritten_concat]
    have other (hnone : acceptedBy id e ((s.after during).step e).result = []) :
        s.bytesWritten id during ++ acceptedBy id e ((s.after during).step e).result <+: buffer :=
      ⟨rest, by rw [hnone, List.append_nil, hsplit]⟩
    cases e with
    | call c =>
      cases c with
      | write i bytes expired =>
        by_cases hi : i = id
        · -- What is accepted now begins what was left of the buffer.
          subst hi
          rw [acceptedBy, if_pos rfl, hrest during bytes expired [] rfl, ← hsplit, List.drop_left]
          exact (List.prefix_append_right_inj _).mpr (List.take_prefix _ _)
        · exact other (by rw [acceptedBy, if_neg hi])
      | _ => exact other rfl
    | _ => exact other rfl

/-! ## Any run -/

/-- Whatever the peer sends and the application asks for. The payload of the DATA queued for a
stream and its credit are together at most the initial window and the credit of the
WINDOW_UPDATEs that were routed to it; and just that if each of these found the stream
alive and its credit fitted. A write call that has bytes accepted has the most accepted that
one frame and the credit allow, and queues just them; one that has not queues nothing. So the
DATA queued is what was accepted, and whoever writes a buffer by writing what is left of it
again and again has just the accepted part of it queued. -/
theorem spending (role : Role) (config : Config) (id : UInt32) (es : List Event) :
    let start := make role config
    let s := start.after es
    let spent := (payloads (start.framesFor id es)).length
    let granted := credits (start.routed id es)
    (∀ st, s.find? id = some st →
      st.send.credit.toNat + spent ≤ config.initialWindow.toNat + granted ∧
        ((∀ before message later f met, es = before ++ .message message :: later →
            Frame.decode message config.maxFramePayload = .ok f → f.type = .windowUpdate →
              f.streamId = id →
            (start.after before).tracked? id = some met →
            met.isTerminal = false ∧ (met.grant (f.credit?.getD 0)).1 = true) →
          st.send.credit.toNat + spent = config.initialWindow.toNat + granted)) ∧
    (∀ bytes expired,
      let write := s.step (.call (.write id bytes expired))
      (∀ n, bytes ≠ [] → write.result = .wrote (.ready (.ok n)) →
        ∃ st, s.held? id = some st ∧
          n = min (min bytes.length config.maxFramePayload.toNat) st.send.credit.toNat ∧ 1 ≤ n ∧
          write.frames = [.data id (bytes.take n)]) ∧
      ((∀ n, write.result = .wrote (.ready (.ok n)) → bytes = []) → write.frames = [])) ∧
    payloads (start.framesFor id es) = start.bytesWritten id es ∧
    ∀ before during (buffer : Bytes), es = before ++ during →
      let s := start.after before
      (∀ part bytes expired later, during = part ++ .call (.write id bytes expired) :: later →
        bytes = buffer.drop (s.bytesWritten id part).length) →
      payloads (s.framesFor id during) = buffer.take (s.bytesWritten id during).length := by
  intro start s spent granted
  refine ⟨fun st h => ⟨spent_le h, fun hfit => spent_eq (throughout_of_splits ?_) h⟩,
    fun bytes expired => ?_, ?_, ?_⟩
  · rintro before e later heq message f met rfl hdec hty hid hmet
    rw [config_after] at hdec
    exact hfit before message later f met heq hdec hty hid hmet
  · intro write
    have hcases := write_cases ((make role config).after es) id bytes expired
    rw [config_after] at hcases
    rcases hcases with ⟨st, n, hh, hn, hpos, hresult, hframes⟩ | ⟨hnone, hframes⟩
    · refine ⟨fun m hb hm => ?_, fun hnil => ?_⟩
      · obtain rfl : n = m := by simpa using hresult.symm.trans hm
        exact ⟨st, hh, hn, hpos, hframes⟩
      · rw [hnil n hresult, List.length_nil] at hn
        omega
    · exact ⟨fun n hb hresult => absurd (hnone n hresult) hb, fun _ => hframes⟩
  · exact payloads_framesFor role config [] es
  · intro before during buffer hes s hrest
    rw [payloads_framesFor]
    exact List.prefix_iff_eq_take.mp (bytesWritten_part hrest)

/-- Six bytes are written in two pieces, since the window has room for four of them. -/
def inPieces : List Event :=
  [.call (.write 1 [1, 2, 3, 4, 5, 6] false), .message (Frame.windowUpdate 1 3).encode,
    .call (.write 1 [5, 6] false)]

theorem spending_of_pieces :
    1 +
      (payloads ((make .client ⟨4, 4, 50, 1⟩).framesFor 1 (.call .openStream :: inPieces))).length =
      4 + 3 ∧
      payloads (((make .client ⟨4, 4, 50, 1⟩).after [.call .openStream]).framesFor 1 inPieces) =
        [1, 2, 3, 4, 5, 6].take 6 := by
  have h := spending .client ⟨4, 4, 50, 1⟩ 1 (.call .openStream :: inPieces)
  refine ⟨(h.1 _ rfl).2 ?_, h.2.2.2 [.call .openStream] inPieces [1, 2, 3, 4, 5, 6] rfl ?_⟩
  · rintro (_ | ⟨_, _ | ⟨_, _ | ⟨_, _ | ⟨_, _⟩⟩⟩⟩) message later f met heq hdec - - hmet <;>
      simp [inPieces] at heq
    obtain ⟨rfl, rfl, rfl, -⟩ := heq
    rw [Frame.decode_encode (show (Frame.windowUpdate 1 3).Legal 4 from rfl)] at hdec
    cases hdec
    cases hmet
    exact ⟨rfl, rfl⟩
  · rintro (_ | ⟨_, _ | ⟨_, _ | ⟨_, _⟩⟩⟩) bytes expired later heq <;> simp [inPieces] at heq
    · obtain ⟨⟨rfl, -⟩, -⟩ := heq
      rfl
    · obtain ⟨rfl, rfl, ⟨rfl, -⟩, -⟩ := heq
      rfl

end Session
end StreamMux

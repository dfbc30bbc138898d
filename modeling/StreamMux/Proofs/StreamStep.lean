/-
What one step of a session can do to one of its streams, as a relation:
`Stream.Step` lists every case with the guards the session checks, the frames it
queues for the stream and the bytes that pass the application. Invariants of
streams are proved by cases on it and never look into the session.

A session that has ended queues nothing. The relation need not say so: the
guards of every case that queues a frame fail then, because an ended session
has only final streams.
-/
import StreamMux.Session.Event
import StreamMux.Proofs.Traffic

namespace StreamMux.Stream

/-! ## Phases -/

variable (s : Stream)

theorem phase_eq_reset_iff : s.phase = .reset ↔ s.reset ≠ none := by
  obtain ⟨id, send, recv, chunks, buffered, localClosed, remoteClosed, reset, handle,
    tracked, rw, ww⟩ := s
  cases reset <;> cases localClosed <;> cases remoteClosed <;> simp [phase]

/-- Final: aborted, or closed in both directions. -/
theorem isTerminal_eq : s.isTerminal = (s.reset.isSome || (s.localClosed && s.remoteClosed)) := by
  obtain ⟨id, send, recv, chunks, buffered, localClosed, remoteClosed, reset, handle,
    tracked, rw, ww⟩ := s
  cases reset <;> cases localClosed <;> cases remoteClosed <;> rfl

/-- A stream that was not aborted is final only when it has closed. -/
theorem isTerminal_iff_closed (h : s.reset = none) : s.isTerminal = true ↔ s.phase = .closed := by
  have hlive : s.phase ≠ .reset := fun hreset => (phase_eq_reset_iff s).mp hreset h
  simp [isTerminal, hlive]

theorem isTerminal_of_retirable (h : s.retirable = true) : s.isTerminal = true := by
  simp only [retirable, Bool.or_eq_true, Bool.and_eq_true] at h
  simp only [isTerminal_eq, Bool.or_eq_true, Bool.and_eq_true]
  rcases h with h | ⟨h, -⟩
  · exact .inl h
  · exact .inr h

/-! ## Unread bytes -/

theorem takeBytes_eq (room : Nat) (chunks : List Bytes) :
    (takeBytes room chunks).1 = chunks.flatten.take room ∧
      (takeBytes room chunks).2.flatten = chunks.flatten.drop room := by
  fun_induction takeBytes room chunks with
  | case1 chunks => simp
  | case2 => simp
  | case3 room c rest _ hle taken left heq ih =>
    rw [heq] at ih
    simp only [List.flatten_cons, List.take_append, List.drop_append, List.take_of_length_le hle,
      List.drop_of_length_le hle, List.nil_append]
    exact ⟨by rw [← ih.1], ih.2⟩
  | case4 room c rest _ hlt =>
    have hz : room - c.length = 0 := by omega
    simp [List.take_append, List.drop_append, hz]

theorem drain_fst (room : Nat) : (s.drain room).1 = s.unread.take room :=
  (takeBytes_eq room s.chunks).1

theorem unread_drain (room : Nat) : (s.drain room).2.unread = s.unread.drop room :=
  (takeBytes_eq room s.chunks).2

/-! ## What operations leave behind -/

/-- The session forgets the stream if it has nothing left to do. -/
def settle : Stream := { s with tracked := s.tracked && !s.retirable }

/-- The stream after an abort, over which the session forgets it. -/
def aborted (cause : ResetCause) : Stream := { (s.abort cause).2 with tracked := false }

/-- The RST of an abort on this side. A final stream is not aborted. -/
def abortFrames : List Frame := if s.isTerminal then [] else [.rst s.id]

/-- The WINDOW_UPDATE for credit that goes back now. -/
def updateFrames : Option UInt32 → List Frame
  | some credit => [.windowUpdate s.id credit]
  | none => []

/-- The stream after up to `room` of its unread bytes were read. -/
def afterRead (room : Nat) : Stream :=
  { (s.drain room).2 with recv := (s.recv.consume (s.drain room).1.length).2 }

/-- The credit a read gives back, if the peer can still use it. -/
def readFrames (room : Nat) : List Frame :=
  if !s.remoteClosed && s.reset.isNone then s.updateFrames
    (s.recv.consume (s.drain room).1.length).1 else []

/-- The unread bytes count as read when the handle goes, unless the peer has sent its FIN. -/
def refund : Option UInt32 × RecvWindow :=
  if s.remoteClosed then (none, s.recv) else s.recv.consume s.buffered

/-- The stream after its handle was given up. -/
def afterDrop : Stream :=
  { s with
    handle := .dropped
    readWaiting := false
    writeWaiting := false
    chunks := []
    buffered := 0
    recv := s.refund.2
    localClosed := true }

def dropFrames : List Frame := s.updateFrames s.refund.1 ++ if s.localClosed then []
    else [.fin s.id]

/-- The suspended calls whose marks are gone afterwards. -/
def cleared (s' : Stream) : List Wake :=
  (if s.readWaiting && !s'.readWaiting then [.reader s.id] else []) ++
    if s.writeWaiting && !s'.writeWaiting then [.writer s.id] else []

/-- The suspended calls that a step wakes. Over a handle that is given up nobody waits. -/
def woken : Session.Event → Stream → List Wake
  | .call (.dropHandle _), _ => []
  | _, s' => s.cleared s'

/-- A fault of the peer on this stream: DATA it had no right to send, or a
message that was DATA once. -/
inductive Accusation (maxPayload : UInt32) : Bytes → List Frame → Prop
  | violation {message f v} : Frame.decode message maxPayload = .ok f → f.type = .data →
    f.streamId = s.id →
    (s.receive f.payload).1 = .violation v → Accusation maxPayload message [f]
  | lost {message e} : Frame.decode message maxPayload = .error e → e.damagedStream? = some s.id →
    Accusation maxPayload message []

/-- What one step of a session does to a stream it has: the event, what passes
the stream, and the stream afterwards. -/
inductive Step (maxPayload : UInt32) : Session.Event → Traffic → Stream → Prop
  /-- Another stream is concerned, or a call fails or answers without effect. -/
  | still {e} : Step maxPayload e {} s
  | accept {ticket} :
    s.handle = .unclaimed → Step maxPayload (.call (.accept ticket)) {} { s with handle := .held }
  | readWaits {room expired} : s.handle = .held → 0 < room → s.buffered = 0 →
    s.remoteClosed = false → s.reset = none →
    Step maxPayload (.call (.read s.id room expired)) {} { s with readWaiting := true }
  | read {room expired} : s.handle = .held → 0 < room → s.buffered ≠ 0 →
    (s.reset.filter (·.discardsData)) = none →
    Step maxPayload (.call (.read s.id room expired))
      { sent := s.readFrames room, returned := (s.drain room).1 } (s.afterRead room).settle
  | writeWaits {bytes expired} : s.handle = .held → bytes ≠ [] → s.reset = none →
    s.localClosed = false →
    min (min bytes.length maxPayload.toNat) s.send.credit.toNat = 0 →
    Step maxPayload (.call (.write s.id bytes expired)) {} { s with writeWaiting := true }
  | write {bytes expired n} : s.handle = .held → s.reset = none → s.localClosed = false → n ≠ 0 →
    n = min (min bytes.length maxPayload.toNat) s.send.credit.toNat →
    Step maxPayload (.call (.write s.id bytes expired))
      { sent := [.data s.id (bytes.take n)], wrote := bytes.take n }
      { s with send := ⟨s.send.credit - n.toUInt32⟩ }
  | closeWrite : s.handle = .held → s.reset = none → s.localClosed = false →
    Step maxPayload (.call (.closeWrite s.id)) { sent := [.fin s.id] }
      { s with localClosed := true, writeWaiting := false }.settle
  | reset : s.handle = .held → Step maxPayload (.call (.reset s.id)) { sent := s.abortFrames }
    (s.aborted .here)
  | dropAborted : s.handle = .held → s.reset.isSome →
    Step maxPayload (.call (.dropHandle s.id)) {}
      { s with handle := .dropped, readWaiting := false, writeWaiting := false }.settle
  | dropHandle : s.handle = .held → s.reset = none →
    Step maxPayload (.call (.dropHandle s.id)) { sent := s.dropFrames } s.afterDrop.settle
  /-- Routed to no stream: this one is forgotten, or the frame is a SYN once more. -/
  | unheeded {message f} : Frame.decode message maxPayload = .ok f → f.streamId = s.id →
    s.tracked = false ∨ f.type = .syn → (∀ cause, s.reset ≠ some (.teardown cause)) →
    Step maxPayload (.message message) { got := [f] } s
  | data {message f recv} : Frame.decode message maxPayload = .ok f → f.streamId = s.id →
    f.type = .data →
    s.tracked = true → s.reset = none → s.remoteClosed = false →
      s.recv.receive f.payload.length = .ok recv →
    s.handle ≠ .dropped → f.payload ≠ [] →
    Step maxPayload (.message message) { got := [f] }
      { s with
        recv
        chunks := s.chunks ++ [f.payload]
        buffered := s.buffered + f.payload.length
        readWaiting := false }
  | emptyData {message f recv} : Frame.decode message maxPayload = .ok f → f.streamId = s.id →
    f.type = .data →
    s.tracked = true → s.reset = none → s.remoteClosed = false →
      s.recv.receive f.payload.length = .ok recv →
    s.handle ≠ .dropped → f.payload = [] → Step maxPayload (.message message) { got := [f] }
      { s with recv }
  | dataForNobody {message f recv} : Frame.decode message maxPayload = .ok f → f.streamId = s.id →
    f.type = .data →
    s.tracked = true → s.reset = none → s.remoteClosed = false →
      s.recv.receive f.payload.length = .ok recv →
    s.handle = .dropped →
    Step maxPayload (.message message)
      { got := [f], sent := s.updateFrames (recv.consume f.payload.length).1 }
      { s with recv := (recv.consume f.payload.length).2 }
  | accused {message got} : s.tracked = true → s.Accusation maxPayload message got →
    Step maxPayload (.message message) { got, sent := s.abortFrames } (s.aborted .violation)
  | windowUpdate {message f} : Frame.decode message maxPayload = .ok f → f.streamId = s.id →
    f.type = .windowUpdate → s.tracked = true →
    Step maxPayload (.message message) { got := [f] } (s.grant (f.credit?.getD 0)).2
  | fin {message f} : Frame.decode message maxPayload = .ok f → f.streamId = s.id → f.type = .fin →
    s.tracked = true → Step maxPayload (.message message) { got := [f] } s.finish.settle
  | rst {message f} : Frame.decode message maxPayload = .ok f → f.streamId = s.id → f.type = .rst →
    s.tracked = true → Step maxPayload (.message message) { got := [f] } (s.aborted .peer)

/-! ## Fields that operations leave alone -/

variable {s} {cause : ResetCause} {room : Nat}

@[simp] theorem settle_id : s.settle.id = s.id := rfl
@[simp] theorem settle_send : s.settle.send = s.send := rfl
@[simp] theorem settle_recv : s.settle.recv = s.recv := rfl
@[simp] theorem settle_buffered : s.settle.buffered = s.buffered := rfl
@[simp] theorem settle_unread : s.settle.unread = s.unread := rfl
@[simp] theorem settle_localClosed : s.settle.localClosed = s.localClosed := rfl
@[simp] theorem settle_remoteClosed : s.settle.remoteClosed = s.remoteClosed := rfl
@[simp] theorem settle_reset : s.settle.reset = s.reset := rfl
@[simp] theorem settle_handle : s.settle.handle = s.handle := rfl

theorem aborted_eq : s.aborted cause =
    { s with
      chunks := if s.isTerminal || !cause.discardsData then s.chunks else []
      buffered := if s.isTerminal || !cause.discardsData then s.buffered else 0
      reset := if s.isTerminal then s.reset else some cause
      readWaiting := s.isTerminal && s.readWaiting
      writeWaiting := s.isTerminal && s.writeWaiting
      tracked := false } := by
  simp only [aborted, abort]
  cases s.isTerminal <;> cases cause.discardsData <;> rfl

@[simp] theorem aborted_tracked : (s.aborted cause).tracked = false := rfl
@[simp] theorem aborted_id : (s.aborted cause).id = s.id := by rw [aborted_eq]
@[simp] theorem aborted_send : (s.aborted cause).send = s.send := by rw [aborted_eq]
@[simp] theorem aborted_recv : (s.aborted cause).recv = s.recv := by rw [aborted_eq]
@[simp] theorem aborted_localClosed :
    (s.aborted cause).localClosed = s.localClosed := by rw [aborted_eq]
@[simp] theorem aborted_remoteClosed :
    (s.aborted cause).remoteClosed = s.remoteClosed := by rw [aborted_eq]
@[simp] theorem aborted_handle : (s.aborted cause).handle = s.handle := by rw [aborted_eq]

theorem aborted_reset : (s.aborted cause).reset = if s.isTerminal then s.reset else some cause := by
  rw [aborted_eq]

theorem aborted_buffered :
    (s.aborted cause).buffered = if s.isTerminal || !cause.discardsData then s.buffered else 0 := by
  rw [aborted_eq]

theorem aborted_unread :
    (s.aborted cause).unread = if s.isTerminal || !cause.discardsData then s.unread else [] := by
  rw [aborted_eq, unread]
  split <;> rfl

theorem isTerminal_aborted : (s.aborted cause).isTerminal = true := by
  have h := isTerminal_eq s
  rw [isTerminal_eq, aborted_reset, aborted_localClosed, aborted_remoteClosed]
  split
  · next ht => rw [← h, ht]
  · rfl

theorem cleared_of_eq {s' : Stream} (hr : s'.readWaiting = s.readWaiting)
    (hw : s'.writeWaiting = s.writeWaiting) : s.cleared s' = [] := by
  simp [cleared, hr, hw]

@[simp] theorem cleared_self : s.cleared s = [] := cleared_of_eq rfl rfl

@[simp] theorem woken_self {e : Session.Event} : s.woken e s = [] := by
  unfold woken
  split
  · rfl
  · exact cleared_self

theorem wokenByAbort_eq : s.wokenByAbort = s.cleared (s.aborted cause) := by
  rw [wokenByAbort, cleared, aborted_eq, reader, writer]
  cases s.isTerminal <;> simp

theorem refund_of_open (h : s.remoteClosed = false) : s.refund = s.recv.consume s.buffered := by
  rw [refund, h, if_neg (by simp)]

theorem refund_of_closed (h : s.remoteClosed = true) :
    s.refund = (none, s.recv) := by rw [refund, if_pos h]

variable {credit : UInt32}

theorem grant_eq : (s.grant credit).2 =
    { s with
      send := if s.isTerminal then s.send else (s.send.grant credit).2
      writeWaiting := s.isTerminal && s.writeWaiting } := by
  simp only [grant]
  cases s.isTerminal <;> rfl

theorem wokenByGrant_eq : s.wokenByGrant = s.cleared (s.grant credit).2 := by
  rw [wokenByGrant, cleared, grant_eq, writer]
  cases s.isTerminal <;> simp

@[simp] theorem grant_id : (s.grant credit).2.id = s.id := by rw [grant_eq]
@[simp] theorem grant_recv : (s.grant credit).2.recv = s.recv := by rw [grant_eq]
@[simp] theorem grant_buffered : (s.grant credit).2.buffered = s.buffered := by rw [grant_eq]
@[simp] theorem grant_unread : (s.grant credit).2.unread = s.unread := by rw [grant_eq]; rfl
@[simp] theorem grant_localClosed :
    (s.grant credit).2.localClosed = s.localClosed := by rw [grant_eq]
@[simp] theorem grant_remoteClosed :
    (s.grant credit).2.remoteClosed = s.remoteClosed := by rw [grant_eq]
@[simp] theorem grant_reset : (s.grant credit).2.reset = s.reset := by rw [grant_eq]
@[simp] theorem grant_handle : (s.grant credit).2.handle = s.handle := by rw [grant_eq]
@[simp] theorem grant_tracked : (s.grant credit).2.tracked = s.tracked := by rw [grant_eq]

theorem finish_eq : s.finish =
    { s with
      remoteClosed := s.remoteClosed || s.reset.isNone
      readWaiting := (s.remoteClosed || s.reset.isSome) && s.readWaiting } := by
  simp only [finish]
  obtain ⟨id, send, recv, chunks, buffered, localClosed, remoteClosed, reset, handle,
    tracked, rw, ww⟩ := s
  cases reset <;> cases remoteClosed <;> rfl

theorem wokenByFinish_eq : s.wokenByFinish = s.cleared s.finish := by
  rw [wokenByFinish, cleared, finish_eq, reader]
  cases s.reset <;> cases s.remoteClosed <;> simp

@[simp] theorem finish_id : s.finish.id = s.id := by rw [finish_eq]
@[simp] theorem finish_send : s.finish.send = s.send := by rw [finish_eq]
@[simp] theorem finish_recv : s.finish.recv = s.recv := by rw [finish_eq]
@[simp] theorem finish_buffered : s.finish.buffered = s.buffered := by rw [finish_eq]
@[simp] theorem finish_unread : s.finish.unread = s.unread := by rw [finish_eq]; rfl
@[simp] theorem finish_localClosed : s.finish.localClosed = s.localClosed := by rw [finish_eq]
@[simp] theorem finish_remoteClosed :
    s.finish.remoteClosed = (s.remoteClosed || s.reset.isNone) := by rw [finish_eq]
@[simp] theorem finish_reset : s.finish.reset = s.reset := by rw [finish_eq]
@[simp] theorem finish_handle : s.finish.handle = s.handle := by rw [finish_eq]
@[simp] theorem finish_tracked : s.finish.tracked = s.tracked := by rw [finish_eq]

@[simp] theorem afterRead_id : (s.afterRead room).id = s.id := rfl
@[simp] theorem afterRead_send : (s.afterRead room).send = s.send := rfl
@[simp] theorem afterRead_recv :
    (s.afterRead room).recv = (s.recv.consume (s.drain room).1.length).2 := rfl
@[simp] theorem afterRead_localClosed : (s.afterRead room).localClosed = s.localClosed := rfl
@[simp] theorem afterRead_remoteClosed : (s.afterRead room).remoteClosed = s.remoteClosed := rfl
@[simp] theorem afterRead_reset : (s.afterRead room).reset = s.reset := rfl
@[simp] theorem afterRead_handle : (s.afterRead room).handle = s.handle := rfl
@[simp] theorem afterRead_buffered :
    (s.afterRead room).buffered = s.buffered - (s.drain room).1.length := rfl
@[simp] theorem afterRead_unread : (s.afterRead room).unread = s.unread.drop room :=
  unread_drain s room

theorem receive_id (s : Stream) (payload : Bytes) : (s.receive payload).2.id = s.id := by
  simp only [receive]
  repeat' split
  all_goals rfl

theorem receive_reset (s : Stream) (payload : Bytes) : (s.receive payload).2.reset = s.reset := by
  simp only [receive]
  repeat' split
  all_goals rfl

/-- DATA that breaks the rules of a stream leaves it to the session to abort it. -/
theorem receive_of_violation {payload : Bytes} {v : Violation}
    (h : (s.receive payload).1 = .violation v) : s.receive payload = (.violation v, s) := by
  by_cases hr : s.reset.isSome = true
  · simp [receive, hr] at h
  by_cases hrc : s.remoteClosed = true
  · simp only [receive, hr, hrc, if_true, Bool.false_eq_true, if_false] at h ⊢
    rw [h]
  cases hrec : s.recv.receive payload.length with
  | error e =>
    simp only [receive, hr, hrc, hrec, Bool.false_eq_true, if_false] at h ⊢
    rw [h]
  | ok recv =>
    simp only [receive, hr, hrc, hrec, Bool.false_eq_true, if_false] at h
    split at h
    · cases h
    split at h <;> cases h

/-! ## What every step keeps -/

variable {maxPayload : UInt32} {e : Session.Event} {t : Traffic} {s' : Stream}

/-- What a session keeps true of each of its streams between steps: the count
of unread bytes is right, a stream that is not tracked is final, and one that is
tracked still has something to do. -/
structure Sound (s : Stream) : Prop where
  buffered_eq : s.buffered = s.unread.length
  terminal : s.tracked = false → s.isTerminal = true
  busy : s.tracked = true → s.retirable = false

/-- A tracked stream was not aborted. -/
theorem Sound.reset_eq_none (h : s.Sound) (ht : s.tracked = true) : s.reset = none := by
  have := h.busy ht
  simp only [retirable, Bool.or_eq_false_iff, Option.isSome_eq_false_iff,
    Option.isNone_iff_eq_none] at this
  exact this.1

/-- A stream that is not final is tracked. -/
theorem Sound.tracked_of_live (h : s.Sound) (hl : s.isTerminal = false) : s.tracked = true := by
  cases ht : s.tracked with
  | true => rfl
  | false => rw [h.terminal ht] at hl; cases hl

/-- A final stream without a handle is forgotten. -/
theorem Sound.untracked_of_dropped (h : s.Sound) (hterm : s.isTerminal = true)
    (hd : s.handle = .dropped) : s.tracked = false := by
  cases ht : s.tracked with
  | false => rfl
  | true =>
    have hbusy := h.busy ht
    have hr := h.reset_eq_none ht
    rw [isTerminal_eq, hr] at hterm
    have hclosed : s.localClosed = true ∧ s.remoteClosed = true := by simpa using hterm
    simp [retirable, hr, hd, hclosed] at hbusy

theorem Sound.make {id : UInt32} {config : Config} {handle : Handle} :
    (Stream.make id config handle).Sound :=
  ⟨rfl, by simp [Stream.make], by simp [Stream.make, retirable]⟩

/-- A stream refused to the peer. -/
theorem refused_reset {id : UInt32} {config : Config} :
    ((Stream.make id config .unclaimed).aborted .here).reset = some .here := rfl

theorem Sound.settle (hb : s.buffered = s.unread.length)
    (ht : s.tracked = false → s.isTerminal = true) :
    s.settle.Sound := by
  have hr : s.settle.retirable = s.retirable := rfl
  have hf : s.settle.isTerminal = s.isTerminal := rfl
  refine ⟨hb, fun h => ?_, fun h => ?_⟩
  · simp only [Stream.settle, Bool.and_eq_false_iff, Bool.not_eq_false'] at h
    rw [hf]
    rcases h with h | h
    · exact ht h
    · exact isTerminal_of_retirable s h
  · simp only [Stream.settle, Bool.and_eq_true, Bool.not_eq_true'] at h
    rw [hr]
    exact h.2

theorem Sound.aborted (h : s.Sound) : (s.aborted cause).Sound := by
  refine ⟨?_, fun _ => isTerminal_aborted, fun ht => by simp at ht⟩
  rw [aborted_buffered, aborted_unread]
  split
  · exact h.buffered_eq
  · rfl

theorem Step.id_eq (h : s.Step maxPayload e t s') : s'.id = s.id := by
  cases h with
  | windowUpdate => exact grant_id
  | fin => exact finish_id
  | reset | accused | rst => exact aborted_id
  | _ => rfl

theorem mem_abortFrames {f : Frame} (hf : f ∈ s.abortFrames) : f = .rst s.id := by
  simp only [abortFrames] at hf
  split at hf
  · cases hf
  · exact List.mem_singleton.mp hf

theorem mem_updateFrames {f : Frame} {credit : Option UInt32} (hf : f ∈ s.updateFrames credit) :
    ∃ c, f = .windowUpdate s.id c := by
  cases credit with
  | none => cases hf
  | some c => exact ⟨c, List.mem_singleton.mp hf⟩

/-- The frames a step queues: never a SYN, and DATA neither empty nor too long for the peer. -/
theorem Step.sent_cases (h : s.Step maxPayload e t s') {f : Frame} (hf : f ∈ t.sent) :
    (∃ p, f = .data s.id p ∧ p ≠ [] ∧ p.length ≤ maxPayload.toNat) ∨
      (∃ c, f = .windowUpdate s.id c) ∨
      f = .fin s.id ∨ f = .rst s.id := by
  cases h with
  | @write bytes expired n _ _ _ hpos hn =>
    have hlen := List.length_take (l := bytes) (i := n)
    refine .inl ⟨_, List.mem_singleton.mp hf, fun hnil => ?_, by omega⟩
    rw [hnil, List.length_nil] at hlen
    omega
  | read =>
    simp only [readFrames] at hf
    split at hf
    · exact .inr (.inl (mem_updateFrames hf))
    · cases hf
  | closeWrite => exact .inr (.inr (.inl (List.mem_singleton.mp hf)))
  | dropHandle =>
    simp only [dropFrames, List.mem_append] at hf
    rcases hf with hf | hf
    · exact .inr (.inl (mem_updateFrames hf))
    · split at hf
      · cases hf
      · exact .inr (.inr (.inl (List.mem_singleton.mp hf)))
  | dataForNobody => exact .inr (.inl (mem_updateFrames hf))
  | reset | accused => exact .inr (.inr (.inr (mem_abortFrames hf)))
  | _ => cases hf

theorem Step.sent_id (h : s.Step maxPayload e t s') {f : Frame} (hf : f ∈ t.sent) :
    f.streamId = s.id := by
  rcases h.sent_cases hf with ⟨_, rfl, _, _⟩ | ⟨_, rfl⟩ | rfl | rfl <;> rfl

/-- What a step takes in for a stream came in a message and names the stream. -/
theorem Step.got_cases (h : s.Step maxPayload e t s') {f : Frame} (hf : f ∈ t.got) :
    f.streamId = s.id ∧ ∃ message, e = .message message ∧
      Frame.decode message maxPayload = .ok f := by
  cases h with
  | unheeded hdec hid | data hdec hid | emptyData hdec hid | dataForNobody hdec hid
  | windowUpdate hdec hid
  | fin hdec hid | rst hdec hid =>
    rw [List.mem_singleton.mp hf]
    exact ⟨hid, _, rfl, hdec⟩
  | accused _ ha =>
    cases ha with
    | violation hdec _ hid =>
      rw [List.mem_singleton.mp hf]
      exact ⟨hid, _, rfl, hdec⟩
    | lost => cases hf
  | _ => cases hf

/-- A stream that the session has forgotten stays so. -/
theorem Step.untracked (h : s.Step maxPayload e t s') (ht : s.tracked = false) :
    s'.tracked = false := by
  cases h with
  | read => simp [settle, afterRead, drain, ht]
  | closeWrite | dropAborted => simp [settle, ht]
  | dropHandle => simp [settle, afterDrop, ht]
  | reset => rfl
  | data _ _ _ hp | emptyData _ _ _ hp | dataForNobody _ _ _ hp | accused hp | windowUpdate _ _ _ hp
  | fin _ _ _ hp
  | rst _ _ _ hp => rw [ht] at hp; cases hp
  | _ => exact ht

theorem Step.sound (h : s.Step maxPayload e t s') (hs : s.Sound) : s'.Sound := by
  have live (hr : s.reset = none) (hl : s.localClosed = false ∨ s.remoteClosed = false) :
      s.tracked = true := by
    apply hs.tracked_of_live
    rw [isTerminal_eq, hr]
    rcases hl with hl | hl <;> simp [hl]
  cases h with
  | still => exact hs
  | accept hu =>
    refine ⟨hs.buffered_eq, hs.terminal, fun ht => ?_⟩
    have := hs.busy ht
    simp only [retirable, hu] at this ⊢
    simpa using this
  | readWaits | writeWaits => exact ⟨hs.buffered_eq, hs.terminal, hs.busy⟩
  | write => exact ⟨hs.buffered_eq, hs.terminal, hs.busy⟩
  | read _ _ _ _ =>
    refine .settle ?_ hs.terminal
    rw [afterRead_buffered, afterRead_unread, drain_fst, hs.buffered_eq]
    simp only [List.length_take, List.length_drop]
    omega
  | closeWrite _ hr hl =>
    refine .settle hs.buffered_eq fun ht => ?_
    rw [live hr (.inl hl)] at ht; cases ht
  | reset | accused | rst => exact hs.aborted
  | dropAborted => exact .settle hs.buffered_eq hs.terminal
  | dropHandle _ hr =>
    refine .settle rfl fun ht => ?_
    have := hs.terminal ht
    simp only [isTerminal_eq, hr] at this
    simp only [isTerminal_eq, afterDrop, hr]
    simpa using (Bool.and_eq_true _ _ ▸ this : _ ∧ _).2
  | unheeded => exact hs
  | data _ _ _ ht hr hrc =>
    refine ⟨?_, fun h => ?_, fun _ => ?_⟩
    · simp only [unread, List.flatten_append, List.flatten_singleton, List.length_append]
      rw [hs.buffered_eq, unread]
    · rw [ht] at h; cases h
    · simp [retirable, hr, hrc]
  | emptyData => exact ⟨hs.buffered_eq, hs.terminal, hs.busy⟩
  | dataForNobody => exact ⟨hs.buffered_eq, hs.terminal, hs.busy⟩
  | windowUpdate _ _ _ ht =>
    rw [grant_eq]
    exact ⟨hs.buffered_eq, hs.terminal, hs.busy⟩
  | fin _ _ _ ht =>
    refine .settle (by simpa using hs.buffered_eq) fun h => ?_
    rw [finish_tracked, ht] at h
    cases h

/-- A stream nobody has accepted stays so until it is accepted. -/
theorem Step.unclaimed (h : s.Step maxPayload e t s') (hu : s.handle = .unclaimed) :
    s'.handle = .unclaimed ∨ ∃ ticket, e = .call (.accept ticket) := by
  cases h with
  | accept => exact .inr ⟨_, rfl⟩
  | windowUpdate => left; rw [grant_handle]; exact hu
  | fin => left; rw [settle_handle, finish_handle]; exact hu
  | accused | rst => left; rw [aborted_handle]; exact hu
  | read hh | closeWrite hh | reset hh | dropAborted hh | dropHandle hh => rw [hu] at hh; cases hh
  | _ => exact .inl hu

/-- Only the end of the session aborts a stream as a teardown. -/
theorem Step.teardown {fault : Fault} (h : s.Step maxPayload e t s')
    (hr : s'.reset = some (.teardown fault)) : s.reset = some (.teardown fault) := by
  cases h with
  | windowUpdate => rwa [grant_reset] at hr
  | fin => rwa [settle_reset, finish_reset] at hr
  | reset | accused | rst =>
    rw [aborted_reset] at hr
    split at hr
    · exact hr
    · cases hr
  | _ => exact hr

end StreamMux.Stream

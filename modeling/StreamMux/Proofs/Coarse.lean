/-
Readings of a session that most operations leave alone. What a session does for one
of its streams shows in the streams and in the number of those that were aborted. A
reading that does not show the streams is the same before and after every operation on
one of them that aborts none (`Distant`). If it does not show either how many were opened
it is the same after every other call (`Rough`), and if it does not show how many were
aborted after the aborts too (`Coarse`). Accepting is left alone by what does not show
the lines of those that wait (`Lineless`).
-/
import StreamMux.Proofs.SessionStep

namespace StreamMux.Session

variable {α : Type} {c : Session → α}

/-- The reading shows neither the single streams nor whether the session has ended. -/
structure Distant (c : Session → α) : Prop where
  put : ∀ s st, c (s.put st) = c s
  ended : ∀ (s : Session) ended streams, c { s with ended, streams } = c s

/-- The reading does not show either how many streams were opened. -/
structure Rough (c : Session → α) : Prop extends Distant c where
  opened : ∀ (s : Session) nextId streams, c { s with nextId, streams, stats := s.stats.opened } =
    c s

/-- The reading does not show either how many streams were aborted. -/
structure Coarse (c : Session → α) : Prop extends Rough c where
  reset : ∀ s : Session, c { s with stats := s.stats.reset } = c s

/-- The reading shows neither which streams and calls of accept wait, nor how many streams were
accepted. -/
structure Lineless (c : Session → α) : Prop where
  waits : ∀ (s : Session) acceptors, c { s with acceptors } = c s
  served : ∀ (s : Session) acceptors backlog,
    c { s with acceptors, backlog, stats := s.stats.accepted } = c s

namespace Distant

/-! ## Parts of operations -/

theorem retire (h : Distant c) (s : Session) (id : UInt32) : c (s.retire id).1 = c s := by
  simp only [Session.retire]
  split
  · exact h.put _ _
  · rfl

theorem retireIf (h : Distant c) (s : Session) (finished : Bool) (id : UInt32) :
    c (s.retireIf finished id).1 = c s := by
  simp only [Session.retireIf]
  split
  · exact h.retire s id
  · rfl

theorem terminate (h : Distant c) (s : Session) (cause : Fault) :
    c (s.terminate cause).state = c s := by
  simp only [Session.terminate]
  split
  · rfl
  · exact h.ended _ _ _

/-! ## Calls on a stream -/

theorem read (h : Distant c) (s : Session) (st : Stream) (room : Nat) (expired : Bool) :
    c (s.read st room expired).state = c s := by
  simp only [Session.read]
  split
  · rfl
  split
  · rfl
  split
  · split
    · rfl
    split
    · rfl
    · exact h.put _ _
  · exact (h.retireIf _ _ _).trans (h.put _ _)

theorem write (h : Distant c) (s : Session) (st : Stream) (bytes : Bytes) (expired : Bool) :
    c (s.write st bytes expired).state = c s := by
  simp only [Session.write]
  split
  · rfl
  split
  · rfl
  split
  · rfl
  split
  · exact h.put _ _
  split <;> exact h.put _ _

theorem closeWrite (h : Distant c) (s : Session) (st : Stream) :
    c (s.closeWrite st).state = c s := by
  simp only [Session.closeWrite]
  split
  · rfl
  split
  · exact h.put _ _
  · exact (h.retireIf _ _ _).trans (h.put _ _)

theorem dropHandle (h : Distant c) (s : Session) (st : Stream) :
    c (s.dropHandle st).state = c s := by
  simp only [Session.dropHandle]
  split <;> exact (h.retireIf _ _ _).trans (h.put _ _)

/-- An operation on a stream whose handle is needed. -/
theorem onHeld (s : Session) {id : UInt32} {answer : Stream → Outcome Session Reply}
    (hop : ∀ st, c (answer st).state = c s) : c (s.onHeld id answer).state = c s := by
  simp only [Session.onHeld]
  split
  · exact hop _
  · rfl

end Distant

namespace Rough

/-! ## Calls -/

theorem openStream (h : Rough c) (s : Session) : c s.openStream.state = c s := by
  simp only [Session.openStream]
  split
  next => rfl
  next hopen =>
    split
    next => rfl
    next id _ =>
      rw [show s.queue (.syn id) = .ok [.syn id] by simp only [queue, hopen]]
      exact h.opened _ _ _

/-- A call that is neither one of accept nor an abort. -/
theorem call (h : Rough c) (s : Session) {op : Call} (haccept : ∀ ticket, op ≠ .accept ticket)
    (hcancel : ∀ ticket, op ≠ .cancelAccept ticket) (hreset : ∀ id, op ≠ .reset id) :
    c (s.call op).state = c s := by
  cases op with
  | openStream => exact h.openStream s
  | accept ticket => exact absurd rfl (haccept ticket)
  | cancelAccept ticket => exact absurd rfl (hcancel ticket)
  | read id room expired => exact Distant.onHeld s fun st => h.read s st room expired
  | write id bytes expired => exact Distant.onHeld s fun st => h.write s st bytes expired
  | closeWrite id => exact Distant.onHeld s fun st => h.closeWrite s st
  | reset id => exact absurd rfl (hreset id)
  | dropHandle id => exact Distant.onHeld s fun st => h.dropHandle s st
  | close => exact h.terminate s _

theorem accept (h : Rough c) (hl : Lineless c) (s : Session) (ticket : Nat) :
    c (s.accept ticket).state = c s := by
  simp only [Session.accept]
  generalize (if ticket ∈ s.acceptors then s.acceptors else s.acceptors ++ [ticket]) = acceptors
  split
  · split
    · exact hl.waits s _
    split
    · split
      · exact (h.put _ _).trans (hl.served s _ _)
      · exact hl.served s _ _
    · exact hl.waits s _
  · exact hl.waits s _

/-- A call that is no abort. -/
theorem anyCall (h : Rough c) (hl : Lineless c) (s : Session) {op : Call}
    (hreset : ∀ id, op ≠ .reset id) : c (s.call op).state = c s := by
  by_cases haccept : ∃ ticket, op = .accept ticket
  · obtain ⟨ticket, rfl⟩ := haccept
    exact h.accept hl s ticket
  by_cases hcancel : ∃ ticket, op = .cancelAccept ticket
  · obtain ⟨ticket, rfl⟩ := hcancel
    exact hl.waits s _
  exact h.call s (fun ticket hc => haccept ⟨ticket, hc⟩)
    (fun ticket hc => hcancel ⟨ticket, hc⟩) hreset

end Rough

namespace Coarse

/-! ## Aborts -/

theorem resetStream (h : Coarse c) (s : Session) (st : Stream) (cause : ResetCause) :
    c (s.resetStream st cause).state = c s := by
  simp only [Session.resetStream]
  refine (h.retire _ _).trans ?_
  split
  · exact (h.reset _).trans (h.put _ _)
  · exact h.put _ _

theorem resetCall (h : Coarse c) (s : Session) (st : Stream) : c (s.reset st).state = c s := by
  simp only [Session.reset]
  refine (h.retire _ _).trans ?_
  split
  · exact (h.reset _).trans (h.put _ _)
  · exact h.put _ _

/-- A call that is not one of accept. -/
theorem call (h : Coarse c) (s : Session) {op : Call} (haccept : ∀ ticket, op ≠ .accept ticket)
    (hcancel : ∀ ticket, op ≠ .cancelAccept ticket) : c (s.call op).state = c s := by
  by_cases hreset : ∃ id, op = .reset id
  · obtain ⟨id, rfl⟩ := hreset
    exact Distant.onHeld s fun st => h.resetCall s st
  · exact h.toRough.call s haccept hcancel fun id hop => hreset ⟨id, hop⟩

theorem anyCall (h : Coarse c) (hl : Lineless c) (s : Session) (op : Call) :
    c (s.call op).state = c s := by
  by_cases hreset : ∃ id, op = .reset id
  · obtain ⟨id, rfl⟩ := hreset
    exact Distant.onHeld s fun st => h.resetCall s st
  · exact h.toRough.anyCall hl s fun id hop => hreset ⟨id, hop⟩

/-! ## Messages -/

/-- A frame other than SYN, if the reading does not show what is thrown away. -/
theorem onFrame (h : Coarse c)
    (hdropped : ∀ s : Session, c { s with stats := s.stats.dropped } = c s) (s : Session)
    {f : Frame} (hty : f.type ≠ .syn) : c (s.onFrame f).state = c s := by
  cases hf : f.type with
  | syn => exact absurd hf hty
  | data =>
    simp only [Session.onFrame, hf, onData]
    cases s.tracked? f.streamId with
    | none => exact hdropped s
    | some st =>
      simp only
      cases st.receive f.payload with
      | mk arrival st' =>
      cases arrival with
      | buffered => exact h.put _ _
      | discarded credit => cases credit <;> exact h.put _ _
      | ignored => exact (hdropped _).trans (h.put _ _)
      | violation v => exact (h.resetStream _ _ _).trans ((hdropped _).trans (h.put _ _))
  | windowUpdate =>
    simp only [Session.onFrame, hf, onWindowUpdate]
    cases s.tracked? f.streamId with
    | none => exact hdropped s
    | some st => exact h.put _ _
  | fin =>
    simp only [Session.onFrame, hf, onFin]
    cases s.tracked? f.streamId with
    | none => exact hdropped s
    | some st => exact (h.retireIf _ _ _).trans (h.put _ _)
  | rst =>
    simp only [Session.onFrame, hf, onRst]
    cases s.tracked? f.streamId with
    | none => exact hdropped s
    | some st => exact (h.retire _ _).trans ((h.reset _).trans (h.put _ _))

theorem onMalformed (h : Coarse c)
    (hdropped : ∀ s : Session, c { s with stats := s.stats.dropped } = c s) (s : Session)
    (err : FrameError) : c (s.onMalformed err).state = c s := by
  simp only [Session.onMalformed]
  cases err.isFatal with
  | true => exact h.terminate s _
  | false =>
    cases err.damagedStream? with
    | none => exact hdropped s
    | some id =>
      simp only [onLostData]
      cases ({ s with stats := s.stats.dropped } : Session).tracked? id with
      | none => exact hdropped s
      | some st => exact (h.resetStream _ _ _).trans (hdropped s)

end Coarse
end StreamMux.Session

/-
What an operation does to a stream depends on that stream only. Two open sessions
of one configuration may hold whatever other streams they like: as long as they
agree on one stream, an operation on it has the same answer in both, queues the
same frames and leaves them agreeing.
-/
import StreamMux.Proofs.WellFormed

namespace StreamMux

/-- Two outcomes with the same answer and the same frames, after which the sessions
agree on the stream `id`. -/
structure Outcome.Same {α : Type} (id : UInt32) (o o' : Outcome Session α) : Prop where
  result : o.result = o'.result
  frames : o.frames = o'.frames
  find : o.state.find? id = o'.state.find? id

theorem Outcome.Same.as {α : Type} {id : UInt32} {o o' : Outcome Session α} (h : o.Same id o')
    (reply : α → Session.Reply) :
    (Session.Outcome.as o reply).Same id (Session.Outcome.as o' reply) :=
  ⟨congrArg reply h.result, h.frames, h.find⟩

namespace Session

/-- Two open sessions that agree on the stream `id`. -/
structure Alike (id : UInt32) (s s' : Session) : Prop where
  config : s.config = s'.config
  find : s.find? id = s'.find? id
  opened : s.ended = none
  opened' : s'.ended = none
  distinct : s.DistinctIds
  distinct' : s'.DistinctIds

variable {s s' : Session} {st x : Stream} {id : UInt32}

/-- The counters of a session have no part in it. -/
theorem Alike.with_stats (h : Alike id s s') (stats stats' : Stats) :
    Alike id { s with stats } { s' with stats := stats' } :=
  ⟨h.config, h.find, h.opened, h.opened', h.distinct, h.distinct'⟩

theorem Alike.tracked (h : Alike id s s') : s.tracked? id = s'.tracked? id := by
  rw [tracked?_eq h.distinct, tracked?_eq h.distinct', h.find]

theorem Alike.held (h : Alike id s s') : s.held? id = s'.held? id := by
  rw [held?_eq h.distinct, held?_eq h.distinct', h.find]

section

variable (h : Alike st.id s s') (hf : s.find? st.id = some st)
include h hf

theorem Alike.find_put (hx : x.id = st.id) : (s.put x).find? st.id = (s'.put x).find? st.id := by
  have hs : (s.put x).find? x.id = some x := find?_put (by rw [hx]; exact hf)
  have hs' : (s'.put x).find? x.id = some x := find?_put (by rw [hx, ← h.find]; exact hf)
  rw [← hx, hs, hs']

theorem Alike.put (hx : x.id = st.id) : Alike st.id (s.put x) (s'.put x) := by
  refine ⟨h.config, h.find_put hf hx, h.opened, h.opened', ?_, ?_⟩
  · rw [DistinctIds, map_id_put]; exact h.distinct
  · rw [DistinctIds, map_id_put]; exact h.distinct'

theorem Alike.find_retireIf (hx : x.id = st.id) :
    ((s.put x).retireIf x.retirable st.id).1.find? st.id =
      ((s'.put x).retireIf x.retirable st.id).1.find? st.id := by
  have hs := retireIf_put x h.distinct (show s.find? x.id = some st by rw [hx]; exact hf)
  have hs' :=
    retireIf_put x h.distinct' (show s'.find? x.id = some st by rw [hx, ← h.find]; exact hf)
  rw [hx] at hs hs'
  rw [hs, hs']
  exact h.find_put hf hx

/-! ## Calls -/

theorem read_same (room : Nat) (expired : Bool) :
    (s.read st room expired).Same st.id (s'.read st room expired) := by
  simp only [read]
  split
  · exact ⟨rfl, rfl, h.find⟩
  split
  · exact ⟨rfl, rfl, h.find⟩
  split
  · split
    · exact ⟨rfl, rfl, h.find⟩
    split
    · exact ⟨rfl, rfl, h.find⟩
    · exact ⟨rfl, rfl, h.find_put hf rfl⟩
  · refine ⟨rfl, ?_, h.find_retireIf hf rfl⟩
    simp only [queueQuietly_of_open h.opened, queueQuietly_of_open h.opened']

theorem write_same (bytes : Bytes) (expired : Bool) :
    (s.write st bytes expired).Same st.id (s'.write st bytes expired) := by
  simp only [write, queue, h.config, h.opened, h.opened']
  split
  · exact ⟨rfl, rfl, h.find⟩
  split
  · exact ⟨rfl, rfl, h.find⟩
  split
  · exact ⟨rfl, rfl, h.find⟩
  split
  · exact ⟨rfl, rfl, h.find_put hf rfl⟩
  · exact ⟨rfl, rfl, h.find_put hf rfl⟩

theorem closeWrite_same : (s.closeWrite st).Same st.id (s'.closeWrite st) := by
  simp only [closeWrite, queue, h.opened, h.opened']
  split
  · exact ⟨rfl, rfl, h.find⟩
  · exact ⟨rfl, rfl, h.find_retireIf hf rfl⟩

theorem resetStream_same (cause : ResetCause) :
    (s.resetStream st cause).Same st.id (s'.resetStream st cause) := by
  have hf' : s'.find? st.id = some st := h.find ▸ hf
  refine ⟨rfl, ?_, ?_⟩
  · have hopen : (s.put (st.abort cause).2).ended = none := h.opened
    have hopen' : (s'.put (st.abort cause).2).ended = none := h.opened'
    simp only [resetStream, queueQuietly_of_open hopen, queueQuietly_of_open hopen']
  · rw [find?_resetStream h.distinct hf, find?_resetStream h.distinct' hf']

theorem reset_same : (s.reset st).Same st.id (s'.reset st) := by
  have habort := resetStream_same h hf .here
  exact ⟨rfl, habort.frames, habort.find⟩

theorem dropHandle_same : (s.dropHandle st).Same st.id (s'.dropHandle st) := by
  refine ⟨?_, ?_, ?_⟩
  · rfl
  · simp only [dropHandle, queueQuietly_of_open h.opened, queueQuietly_of_open h.opened']
    split <;> rfl
  · cases hr : st.reset with
    | some cause =>
      simp only [dropHandle, hr, Option.isSome_some, if_true]
      exact h.find_retireIf hf rfl
    | none =>
      rw [dropHandle_state hr, dropHandle_state hr]
      exact h.find_retireIf hf rfl

end

/-- The stream whose handle a call needs. -/
def Call.stream? : Call → Option UInt32
  | .read id _ _ | .write id _ _ | .closeWrite id | .reset id | .dropHandle id => some id
  | .openStream | .accept _ | .cancelAccept _ | .close => none

/-- Bytes pass a stream only in calls on it. -/
theorem acceptedBy_of_other {e : Event} {r : Reply} (h : ∀ c, e = .call c → c.stream? ≠ some id) :
    acceptedBy id e r = [] := by
  cases e with
  | call c =>
    cases c with
    | write i =>
      have hi : i ≠ id := fun hi => h _ rfl (congrArg some hi)
      exact if_neg hi
    | _ => rfl
  | _ => rfl

theorem returnedBy_of_other {e : Event} {r : Reply} (h : ∀ c, e = .call c → c.stream? ≠ some id) :
    returnedBy id e r = [] := by
  cases e with
  | call c =>
    cases c with
    | read i =>
      have hi : i ≠ id := fun hi => h _ rfl (congrArg some hi)
      exact if_neg hi
    | _ => rfl
  | _ => rfl

theorem onHeld_same (h : Alike id s s') {op op' : Stream → Outcome Session Reply}
    (hop : ∀ st, Alike st.id s s' → s.find? st.id = some st → (op st).Same st.id (op' st)) :
    (s.onHeld id op).Same id (s'.onHeld id op') := by
  simp only [onHeld, ← h.held]
  cases hh : s.held? id with
  | none => exact ⟨rfl, rfl, h.find⟩
  | some st =>
    rw [held?_eq h.distinct] at hh
    obtain ⟨hfind, -⟩ := Option.filter_eq_some_iff.mp hh
    obtain rfl := find?_id hfind
    exact hop st h hfind

/-- A call on the stream. -/
theorem call_same {c : Call} (h : Alike id s s') (hc : c.stream? = some id) :
    (s.step (.call c)).Same id (s'.step (.call c)) := by
  cases c with
  | openStream | accept | cancelAccept | close => cases hc
  | read i room expired =>
    obtain rfl := Option.some.inj hc
    exact onHeld_same h fun st h hf => (read_same h hf room expired).as _
  | write i bytes expired =>
    obtain rfl := Option.some.inj hc
    exact onHeld_same h fun st h hf => (write_same h hf bytes expired).as _
  | closeWrite i =>
    obtain rfl := Option.some.inj hc
    exact onHeld_same h fun st h hf => (closeWrite_same h hf).as _
  | reset i =>
    obtain rfl := Option.some.inj hc
    exact onHeld_same h fun st h hf => (reset_same h hf).as _
  | dropHandle i =>
    obtain rfl := Option.some.inj hc
    exact onHeld_same h fun st h hf => (dropHandle_same h hf).as _

/-! ## Messages -/

/-- A message for the stream, which the session does not know any more or which it does. -/
theorem Alike.tracked_cases (h : Alike id s s') :
    s.tracked? id = none ∧ s'.tracked? id = none ∨
      ∃ st, st.id = id ∧ s.find? st.id = some st ∧ s.tracked? st.id = some st ∧
        s'.tracked? st.id = some st := by
  have hsame := h.tracked
  cases hg : s.tracked? id with
  | none => exact .inl ⟨rfl, by rw [← hsame, hg]⟩
  | some st =>
    have hfind := hg
    rw [tracked?_eq h.distinct] at hfind
    obtain ⟨hfind, -⟩ := Option.filter_eq_some_iff.mp hfind
    obtain rfl := find?_id hfind
    exact .inr ⟨st, rfl, hfind, hg, by rw [← hsame, hg]⟩

theorem onSyn_same (h : Alike id s s') (hm : s.mayOpen id = false) (hm' : s'.mayOpen id = false) :
    (s.onSyn id).Same id (s'.onSyn id) := by
  simp only [onSyn, hm, hm']
  exact ⟨rfl, rfl, h.find⟩

theorem onUnknown_same (h : Alike id s s') (type : FrameType) :
    (s.onUnknown id type).Same id (s'.onUnknown id type) :=
  ⟨rfl, rfl, h.find⟩

theorem onData_same (h : Alike id s s') (payload : Bytes) :
    (s.onData id payload).Same id (s'.onData id payload) := by
  rcases h.tracked_cases with ⟨hg, hg'⟩ | ⟨st, rfl, hfind, hg, hg'⟩
  · simp only [onData, hg, hg']
    exact ⟨rfl, rfl, h.find⟩
  · have hid := st.receive_id payload
    simp only [onData, hg, hg']
    generalize st.receive payload = r at hid
    obtain ⟨arrival, st'⟩ := r
    have hid : st'.id = st.id := hid
    have hput := h.put hfind hid
    have hfind' : (s.put st').find? st'.id = some st' := find?_put (by rw [hid]; exact hfind)
    cases arrival with
    | buffered => exact ⟨rfl, rfl, hput.find⟩
    | discarded credit =>
      cases credit with
      | none => exact ⟨rfl, rfl, hput.find⟩
      | some credit =>
        have hopen : (s.put st').ended = none := h.opened
        have hopen' : (s'.put st').ended = none := h.opened'
        simp only [queueQuietly_of_open hopen, queueQuietly_of_open hopen']
        exact ⟨rfl, rfl, hput.find⟩
    | ignored => exact ⟨rfl, rfl, hput.find⟩
    | violation v =>
      rw [← hid] at hput ⊢
      have habort := resetStream_same (hput.with_stats s.stats.dropped s'.stats.dropped)
        hfind' .violation
      exact ⟨rfl, habort.frames, habort.find⟩

theorem onWindowUpdate_same (h : Alike id s s') (credit : UInt32) :
    (s.onWindowUpdate id credit).Same id (s'.onWindowUpdate id credit) := by
  rcases h.tracked_cases with ⟨hg, hg'⟩ | ⟨st, rfl, hfind, hg, hg'⟩
  · simp only [onWindowUpdate, hg, hg']
    exact onUnknown_same h .windowUpdate
  · simp only [onWindowUpdate, hg, hg']
    exact ⟨rfl, rfl, h.find_put hfind Stream.grant_id⟩

theorem onFin_same (h : Alike id s s') : (s.onFin id).Same id (s'.onFin id) := by
  rcases h.tracked_cases with ⟨hg, hg'⟩ | ⟨st, rfl, hfind, hg, hg'⟩
  · simp only [onFin, hg, hg']
    exact onUnknown_same h .fin
  · simp only [onFin, hg, hg']
    exact ⟨rfl, rfl, h.find_retireIf hfind Stream.finish_id⟩

theorem onRst_same (h : Alike id s s') : (s.onRst id).Same id (s'.onRst id) := by
  rcases h.tracked_cases with ⟨hg, hg'⟩ | ⟨st, rfl, hfind, hg, hg'⟩
  · simp only [onRst, hg, hg']
    exact onUnknown_same h .rst
  · have hfind' : s'.find? st.id = some st := h.find ▸ hfind
    have hretire := find?_retire_abort h.distinct hfind .peer s.stats.reset
    have hretire' := find?_retire_abort h.distinct' hfind' .peer s'.stats.reset
    simp only [onRst, hg, hg']
    exact ⟨rfl, rfl, hretire.trans hretire'.symm⟩

theorem onLostData_same (h : Alike id s s') : (s.onLostData id).Same id (s'.onLostData id) := by
  rcases h.tracked_cases with ⟨hg, hg'⟩ | ⟨st, rfl, hfind, hg, hg'⟩
  · simp only [onLostData, hg, hg']
    exact ⟨rfl, rfl, h.find⟩
  · have habort := resetStream_same h hfind .violation
    simp only [onLostData, hg, hg']
    exact ⟨rfl, habort.frames, habort.find⟩

theorem onFrame_same {f : Frame} (h : Alike f.streamId s s')
    (hsyn : f.type = .syn → s.mayOpen f.streamId = false ∧ s'.mayOpen f.streamId = false) :
    (s.onFrame f).Same f.streamId (s'.onFrame f) := by
  simp only [onFrame]
  cases hty : f.type with
  | syn => exact onSyn_same h (hsyn hty).1 (hsyn hty).2
  | data => exact onData_same h f.payload
  | windowUpdate => exact onWindowUpdate_same h _
  | fin => exact onFin_same h
  | rst => exact onRst_same h

/-- A message that is no frame, but has a header that names the stream. -/
theorem onMalformed_same {err : FrameError} (h : Alike id s s') (hfatal : err.isFatal = false)
    (hd : ∀ i, err.damagedStream? = some i → i = id) :
    (s.onMalformed err).Same id (s'.onMalformed err) := by
  simp only [onMalformed, hfatal]
  cases hdamaged : err.damagedStream? with
  | none => exact ⟨rfl, rfl, h.find⟩
  | some i =>
    obtain rfl := hd i hdamaged
    have hlost := onLostData_same (h.with_stats s.stats.dropped s'.stats.dropped)
    exact ⟨rfl, hlost.frames, hlost.find⟩

end Session
end StreamMux

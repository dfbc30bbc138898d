/-
What one step of a session can do, whatever the event: `Session.Turn` lists the
cases with their guards and with the traffic of every stream. It is proved once,
from the operations; every invariant of sessions is proved by cases on it.
-/
import StreamMux.Proofs.SessionOps

namespace StreamMux

/-! ## Ids -/

theorem Role.owns_iff {role : Role} {id : UInt32} :
    role.owns id = true ↔ id.toNat ≠ 0 ∧ (id.toNat % 2 = 1 ↔ role = .client) := by
  have h0 : id = 0 ↔ id.toNat = 0 := by rw [← UInt32.toNat_inj]; rfl
  have h1 : id % 2 = 1 ↔ id.toNat % 2 = 1 := by rw [← UInt32.toNat_inj, UInt32.toNat_mod]; rfl
  simp only [owns, Bool.and_eq_true, bne_iff_ne, ne_eq, h0, ← h1]
  cases role <;> simp

theorem Role.owns_other {role : Role} {id : UInt32} (h : id ≠ 0) :
    role.other.owns id = !role.owns id := by
  have h0 : id.toNat ≠ 0 := fun hz => h (UInt32.toNat_inj.mp hz)
  have hc := @Role.owns_iff role id
  have ho := @Role.owns_iff role.other id
  cases hr : role.owns id <;> cases hr' : role.other.owns id <;> cases role <;>
    simp_all [Role.other]

theorem Role.not_owns_zero {role : Role} : role.owns 0 = false := by cases role <;> rfl

theorem Role.owns_firstId {role : Role} : role.owns role.firstId = true := by cases role <;> rfl

theorem toNat_add_two {id : UInt32} (hfit : id.toNat + 2 < UInt32.size) :
    (id + 2).toNat = id.toNat + 2 := by
  rw [UInt32.toNat_add]
  exact Nat.mod_eq_of_lt hfit

theorem Role.owns_add_two {role : Role} {id : UInt32} (h : role.owns id = true)
    (hfit : id.toNat + 2 < UInt32.size) : role.owns (id + 2) = true := by
  rw [owns_iff] at h ⊢
  rw [toNat_add_two hfit]
  refine ⟨by omega, ?_⟩
  rw [← h.2]
  omega

namespace Session

/-! ## Traffic of a step -/

/-- The frame that an event brings to the streams of the session. After the end none of them gets
any. -/
def taken (s : Session) : Event → List Frame
  | .message bytes =>
    if s.isClosed then []
    else match Frame.decode bytes s.config.maxFramePayload with
      | .ok f => [f]
      | .error _ => []
  | _ => []

/-- The bytes that an answered call had accepted on the stream `id`. -/
def acceptedBy (id : UInt32) (e : Event) (r : Reply) : Bytes :=
  match e with
  | .call (.write i bytes _) => if i = id then bytes.take r.count else []
  | _ => []

/-- The bytes that an answered call returned from the stream `id`. -/
def returnedBy (id : UInt32) (e : Event) (r : Reply) : Bytes :=
  match e with
  | .call (.read i _ _) => if i = id then r.bytes else []
  | _ => []

/-- What passes the stream `id` in one step. -/
def trafficOf (s : Session) (e : Event) (id : UInt32) : Traffic where
  sent := (s.step e).frames.filter (·.streamId == id)
  got := if (s.find? id).isSome then (s.taken e).filter (·.streamId == id) else []
  wrote := acceptedBy id e (s.step e).result
  returned := returnedBy id e (s.step e).result

/-- What the end of a session leaves of a stream. -/
def tornDown (cause : Fault) (st : Stream) : Stream :=
  if st.tracked then st.aborted (.teardown cause) else st

/-- Why a session that is open ends over the event, if it does. -/
def Event.ends? : Event → Option Fault
  | .call .close => some .sessionClosed
  | .call _ => none
  | .message bytes =>
    -- Too short for a header.
    if bytes.length <
      Frame.headerSize then some (.protocol (FrameError.truncated bytes.length).message) else none
  | .connectionEnded => some (.connection "connection closed by peer")
  | .connectionFailed text => some (.connection text)
  | .sent _ => none

/-- What a step of the session does: what `e` was, what passed the streams, whom it
woke and the session afterwards. In every case but `ended` at most one stream changes. -/
inductive Turn (s : Session) (e : Event) : Session → Prop
  | quiet {acceptors stats} : (∀ id, s.trafficOf e id = {}) → (s.step e).wakes = [] →
    Turn s e { s with acceptors, stats }
  | touched {st st' t stats} : s.find? st.id = some st → (∀ ticket, e ≠ .call (.accept ticket)) →
    st.Step s.config.maxFramePayload e t st' →
      (∀ id, s.trafficOf e id = if id = st.id then t else {}) →
    (s.step e).wakes = st.woken e st' → Turn s e { s.put st' with stats }
  | claimed {st ticket rest acceptors stats} : e = .call (.accept ticket) →
    s.backlog = st.id :: rest →
    s.find? st.id = some st → (∀ id, s.trafficOf e id = {}) → (s.step e).wakes = [] →
    Turn s e { s.put { st with handle := .held } with backlog := rest, acceptors, stats }
  | opened {id stats} : e = .call .openStream → s.ended = none → s.nextId = some id →
    (∀ i, s.trafficOf e i = if i = id then { sent := [.syn id] } else {}) → (s.step e).wakes = [] →
    Turn s e { s with
      nextId := if id.toNat + 2 < UInt32.size then some (id + 2) else none
      streams := s.streams ++ [.make id s.config .held]
      stats }
  | announced {message f stats} : e = .message message → s.ended = none →
    Frame.decode message s.config.maxFramePayload = .ok f → f.type = .syn → s.mayOpen f.streamId →
    (∀ id, s.trafficOf e id = {}) → (s.step e).wakes = [] →
    Turn s e { s with
      lastRemoteId := f.streamId
      streams := s.streams ++ [.make f.streamId s.config .unclaimed]
      backlog := s.backlog ++ [f.streamId]
      stats }
  /-- The backlog is full. -/
  | refused {message f stats} : e = .message message → s.ended = none →
    Frame.decode message s.config.maxFramePayload = .ok f → f.type = .syn → s.mayOpen f.streamId →
    s.config.acceptBacklog ≤ s.backlog.length →
    (∀ id, s.trafficOf e id = if id = f.streamId then { sent := [.rst f.streamId] } else {}) →
    (s.step e).wakes = [] →
    Turn s e { s with
      lastRemoteId := f.streamId
      streams := s.streams ++ [(Stream.make f.streamId s.config .unclaimed).aborted .here]
      stats }
  /-- After the end. -/
  | late {message f stats} : e = .message message → s.ended ≠ none →
    Frame.decode message s.config.maxFramePayload = .ok f → f.type = .syn → s.mayOpen f.streamId →
    (∀ id, s.trafficOf e id = {}) → (s.step e).wakes = [] →
    Turn s e { s with lastRemoteId := f.streamId, stats }
  | ended {cause stats} : s.ended = none → e.ends? = some cause → (∀ id, s.trafficOf e id = {}) →
    (s.step e).wakes = (s.streams.flatMap fun st => st.cleared (tornDown cause st)) →
    Turn s e { s with
      ended := some cause
      streams := s.streams.map (tornDown cause)
      stats }

variable {s : Session} {e : Event} {st : Stream} {t : Traffic}

theorem filter_self {fs : List Frame} {id : UInt32} (h : ∀ f ∈ fs, f.streamId = id) :
    fs.filter (·.streamId == id) = fs := by
  rw [List.filter_eq_self]
  intro f hf
  simpa using h f hf

theorem filter_other {fs : List Frame} {id i : UInt32} (h : ∀ f ∈ fs, f.streamId = id)
    (hi : i ≠ id) : fs.filter (·.streamId == i) = [] := by
  rw [List.filter_eq_nil_iff]
  intro f hf
  simpa [h f hf] using hi.symm

/-- Nothing passes any stream. -/
theorem trafficOf_eq_empty (hsent : (s.step e).frames = [])
    (hgot : ∀ f ∈ s.taken e, s.find? f.streamId = none)
    (hwrote : ∀ id, acceptedBy id e (s.step e).result = [])
    (hreturned : ∀ id, returnedBy id e (s.step e).result = [])
    (id : UInt32) : s.trafficOf e id = {} := by
  have hgot' : (if (s.find? id).isSome then (s.taken e).filter (·.streamId == id) else []) =
      [] := by
    split
    · next hsome =>
      rw [List.filter_eq_nil_iff]
      intro f hf hid
      rw [beq_iff_eq] at hid
      rw [← hid, hgot f hf] at hsome
      cases hsome
    · rfl
  simp only [trafficOf, hsent, hgot', hwrote, hreturned, List.filter_nil]

/-- All that passes a stream passes this one. -/
theorem trafficOf_eq {id : UInt32} (hsent : (s.step e).frames = t.sent)
    (hids : ∀ f ∈ t.sent, f.streamId = id)
    (hgot : ∀ i, (if (s.find? i).isSome then (s.taken e).filter (·.streamId == i) else []) = if i =
      id then t.got else [])
    (hwrote : ∀ i, acceptedBy i e (s.step e).result = if i = id then t.wrote else [])
    (hreturned : ∀ i, returnedBy i e (s.step e).result = if i = id then t.returned else [])
    (i : UInt32) :
    s.trafficOf e i = if i = id then t else {} := by
  simp only [trafficOf, hsent, hgot, hwrote, hreturned]
  by_cases hi : i = id
  · subst hi
    simp only [if_true, filter_self hids]
  · simp only [hi, if_false, filter_other hids hi]

/-! ## Calls -/

/-- A call on a stream, which needs its handle. -/
theorem Turn.onHeld {c : Call} {id : UInt32} {op : Stream → Outcome Session Reply}
    (wf : s.WellFormed)
    (hcall : s.step (.call c) = s.onHeld id op) (hc : ∀ ticket, c ≠ .accept ticket)
    (hwrote : ∀ i, acceptedBy i (.call c) .noHandle = [])
    (hreturned : ∀ i, returnedBy i (.call c) .noHandle = [])
    (hop : ∀ st, st.id = id → s.find? st.id = some st → st.handle = .held →
      ∃ t, s.StepsOn st (.call c) (op st) t ∧ t.got = [] ∧
        (∀ i, acceptedBy i (.call c) (op st).result = if i = id then t.wrote else []) ∧
        (∀ i, returnedBy i (.call c) (op st).result = if i = id then t.returned else [])) :
    s.Turn (.call c) (s.step (.call c)).state := by
  rw [Session.onHeld] at hcall
  cases hh : s.held? id with
  | none =>
    rw [hh] at hcall
    rw [hcall]
    refine .quiet (trafficOf_eq_empty ?_ ?_ ?_ ?_) ?_
    · rw [hcall]
    · intro f hf; cases hf
    · rw [hcall]; exact hwrote
    · rw [hcall]; exact hreturned
    · rw [hcall]
  | some st =>
    rw [hh] at hcall
    rw [held?_eq wf.distinct] at hh
    obtain ⟨hfind, hheld⟩ := Option.filter_eq_some_iff.mp hh
    obtain rfl := find?_id hfind
    obtain ⟨t, ⟨st', stats, hstate, hframes, hwakes, hstep⟩, hgot, hwrote, hreturned⟩ :=
      hop st rfl hfind (by simpa using hheld)
    have htraffic : ∀ i, s.trafficOf (.call c) i = if i = st.id then t else {} := by
      refine trafficOf_eq ?_ (fun f hf => hstep.sent_id hf) (fun i => ?_) ?_ ?_
      · rw [hcall]; exact hframes
      · simp [taken, hgot]
      · rw [hcall]; exact hwrote
      · rw [hcall]; exact hreturned
    have hwakes' : (s.step (.call c)).wakes = st.woken (.call c) st' := by rw [hcall]; exact hwakes
    rw [hcall, hstate]
    exact .touched hfind (fun ticket he => hc ticket (Event.call.inj he)) hstep htraffic hwakes'

theorem Turn.openStream : s.Turn (.call .openStream) (s.step (.call .openStream)).state := by
  have fails (fault : Fault) (h : s.openStream = { result := .error fault, state := s }) :
      s.Turn (.call .openStream) (s.step (.call .openStream)).state := by
    have hstate : (s.step (.call .openStream)).state = s := congrArg Outcome.state h
    have hframes : (s.step (.call .openStream)).frames = [] := congrArg Outcome.frames h
    rw [hstate]
    exact .quiet (trafficOf_eq_empty hframes (fun f hf => nomatch hf) (fun _ => rfl) fun _ => rfl)
      (congrArg Outcome.wakes h)
  cases he : s.ended with
  | some cause => exact fails cause (by simp only [Session.openStream, he])
  | none =>
  cases hn : s.nextId with
  | none => exact fails .idsExhausted (by simp only [Session.openStream, he, hn])
  | some id =>
    have hstate : (s.step (.call .openStream)).state = { s with
        nextId := if id.toNat + 2 < UInt32.size then some (id + 2) else none
        streams := s.streams ++ [.make id s.config .held]
        stats := s.stats.opened } := by
      simp only [step, call, Outcome.as, Session.openStream, he, hn, queue]
    have hframes : (s.step (.call .openStream)).frames = [.syn id] := by
      simp only [step, call, Outcome.as, Session.openStream, he, hn, queue]
    have hwakes : (s.step (.call .openStream)).wakes = [] := by
      simp only [step, call, Outcome.as, Session.openStream, he, hn, queue]
    rw [hstate]
    refine .opened rfl he hn (trafficOf_eq hframes (fun f hf => ?_) (fun i => ?_) (fun i => ?_)
      fun i => ?_) hwakes
    · rw [List.mem_singleton.mp hf]; rfl
    all_goals simp [taken, acceptedBy, returnedBy]

theorem accept_silent {ticket : Nat} : Silent (s.accept ticket) := by
  simp only [accept]
  repeat' split
  all_goals exact ⟨rfl, rfl⟩

theorem Turn.accept (wf : s.WellFormed) (ticket : Nat) :
    s.Turn (.call (.accept ticket)) (s.step (.call (.accept ticket))).state := by
  have htraffic : ∀ id, s.trafficOf (.call (.accept ticket)) id = {} :=
    trafficOf_eq_empty accept_silent.1 (fun f hf => nomatch hf) (fun _ => rfl) fun _ => rfl
  have hwakes : (s.step (.call (.accept ticket))).wakes = [] := accept_silent.2
  simp only [step, call, Outcome.as, Session.accept]
  generalize (if ticket ∈ s.acceptors then s.acceptors else s.acceptors ++ [ticket]) = acceptors
  split
  · split
    · exact .quiet htraffic hwakes
    · split
      next id rest hb =>
        obtain ⟨st, hfind, _⟩ := wf.backlog id (by rw [hb]; exact List.mem_cons_self)
        obtain rfl := find?_id hfind
        have hfind' : s.streams.find? (fun a => a.id == st.id) = some st := hfind
        simp only [Session.find?, hfind']
        exact .claimed rfl hb hfind htraffic hwakes
      · exact .quiet htraffic hwakes
  · exact .quiet htraffic hwakes

theorem terminate_frames {fault : Fault} : (s.terminate fault).frames = [] := by
  simp only [terminate]
  split <;> rfl

/-- The end of a session wakes every call that is suspended on a stream it tracks. -/
theorem terminate_wakes {fault : Fault} (hopen : s.ended = none) :
    (s.terminate fault).wakes = s.streams.flatMap fun st => st.cleared (tornDown fault st) := by
  simp only [terminate, hopen]
  congr 1
  funext st
  rw [tornDown]
  split
  · exact Stream.wokenByAbort_eq
  · exact Stream.cleared_self.symm

theorem Turn.terminate (fault : Fault) (stats : Stats)
    (hstate : (s.step e).state = (({ s with stats } : Session).terminate fault).state)
    (hwakes : (s.step e).wakes = (({ s with stats } : Session).terminate fault).wakes)
    (hsent : (s.step e).frames = []) (htaken : s.taken e = [])
    (hwrote : ∀ id, acceptedBy id e (s.step e).result = [])
    (hreturned : ∀ id, returnedBy id e (s.step e).result = [])
    (hends : e.ends? = some fault) :
    s.Turn e (s.step e).state := by
  have htraffic := trafficOf_eq_empty hsent (by rw [htaken]; intro f hf; cases hf) hwrote hreturned
  rw [hstate]
  simp only [Session.terminate]
  split
  next cause hended =>
    simp only [Session.terminate, hended] at hwakes
    exact .quiet htraffic hwakes
  next hopen =>
    exact .ended hopen hends htraffic (hwakes.trans (terminate_wakes (s := { s with stats }) hopen))

/-! ## Messages -/

variable {message : Bytes} {f : Frame}

theorem taken_of_ok (hopen : s.ended = none)
    (hdec : Frame.decode message s.config.maxFramePayload = .ok f) :
    s.taken (.message message) = [f] := by
  simp [taken, isClosed, hopen, hdec]

theorem taken_of_error (hopen : s.ended = none) {err : FrameError}
    (hdec : Frame.decode message s.config.maxFramePayload = .error err) :
    s.taken (.message message) = [] := by
  simp [taken, isClosed, hopen, hdec]

theorem taken_of_ended {fault : Fault} (h : s.ended = some fault) : s.taken e = [] := by
  cases e <;> simp [taken, isClosed, h]

theorem step_of_ok (hdec : Frame.decode message s.config.maxFramePayload = .ok f) :
    s.step (.message message) =
      Outcome.as (({ s with stats := s.stats.received message.length } : Session).onFrame f)
        fun _ => .nothing := by
  simp [step, receive, hdec]

theorem step_of_syn (hdec : Frame.decode message s.config.maxFramePayload = .ok f)
    (ht : f.type = .syn) : s.step (.message message) =
      Outcome.as (({ s with stats := s.stats.received message.length } : Session).onSyn f.streamId)
        fun _ => .nothing := by
  rw [step_of_ok hdec, onFrame, ht]

theorem step_of_error {err : FrameError}
    (hdec : Frame.decode message s.config.maxFramePayload = .error err) :
    s.step (.message message) =
      Outcome.as (({ s with stats := s.stats.received message.length } : Session).onMalformed err)
        fun _ => .nothing := by
  simp [step, receive, hdec]

theorem WellFormed.with_stats (wf : s.WellFormed) (stats : Stats) : WellFormed { s with stats } :=
  ⟨wf.distinct, wf.sound, wf.untracked, wf.teardown, wf.nextOwned, wf.below, wf.peers,
    wf.lastRemote, wf.backlog, wf.backlogNodup⟩

/-- A message for one stream of the session. -/
theorem Turn.ofMessage {o : Outcome Session Unit}
    (hstep : s.step (.message message) = Outcome.as o fun _ => .nothing)
    (h : s.find? st.id = some st) (hs : s.StepsOn st (.message message) o t)
    (htaken : s.taken (.message message) = t.got)
    (hwrote : t.wrote = []) (hreturned : t.returned = []) :
    s.Turn (.message message) (s.step (.message message)).state := by
  obtain ⟨st', stats, hstate, hframes, hwakes, hst⟩ := hs
  have htraffic : ∀ i, s.trafficOf (.message message) i = if i = st.id then t else {} := by
    refine trafficOf_eq ?_ (fun f hf => hst.sent_id hf) (fun i => ?_) (fun i => ?_) fun i => ?_
    · rw [hstep]; exact hframes
    · rw [htaken]
      by_cases hi : i = st.id
      · subst hi
        simp only [h, Option.isSome_some, if_true, filter_self fun f hf => (hst.got_cases hf).1]
      · rw [filter_other (fun f hf => (hst.got_cases hf).1) hi, if_neg hi, ite_self]
    · simp [acceptedBy, hwrote]
    · simp [returnedBy, hreturned]
  have : (s.step (.message message)).state = { s.put st' with stats } := by rw [hstep]; exact hstate
  rw [this]
  exact .touched h (fun ticket => by simp) hst htraffic (by rw [hstep]; exact hwakes)

theorem Turn.unknown (hopen : s.ended = none)
    (hdec : Frame.decode message s.config.maxFramePayload = .ok f)
    (h : s.find? f.streamId = none) (hframes : (s.step (.message message)).frames = [])
    (i : UInt32) :
    s.trafficOf (.message message) i = {} := by
  refine trafficOf_eq_empty hframes (fun g hg => ?_) (fun _ => rfl) (fun _ => rfl) i
  rw [taken_of_ok hopen hdec] at hg
  rw [List.mem_singleton.mp hg]
  exact h

theorem Turn.syn (wf : s.WellFormed) (hopen : s.ended = none)
    (hdec : Frame.decode message s.config.maxFramePayload = .ok f) (ht : f.type = .syn)
    (h : s.find? f.streamId = none) :
    s.Turn (.message message) (s.step (.message message)).state := by
  let counted : Session := { s with stats := s.stats.received message.length }
  have hstep : s.step (.message message) = Outcome.as (counted.onSyn f.streamId)
      fun _ => .nothing :=
    step_of_syn hdec ht
  have hframes : (s.step (.message message)).frames = (counted.onSyn f.streamId).frames := by
    rw [hstep]; rfl
  have hwakes : (s.step (.message message)).wakes = [] := by rw [hstep]; exact onSyn_wakes
  have hstate : (s.step (.message message)).state = (counted.onSyn f.streamId).state := by
    rw [hstep]; rfl
  cases hm : s.mayOpen f.streamId with
  | false =>
    have hignored := onSyn_of_invalid (s := counted) hm
    rw [hignored.1.1] at hframes
    rw [hstate, hignored.2]
    exact .quiet (Turn.unknown hopen hdec h hframes) hwakes
  | true =>
  by_cases hb : s.backlog.length < s.config.acceptBacklog
  · have hnew := onSyn_of_room (s := counted) hopen hm hb
    rw [hnew.1.1] at hframes
    rw [hstate, hnew.2]
    exact .announced rfl hopen hdec ht hm (Turn.unknown hopen hdec h hframes) hwakes
  · have hnew := onSyn_of_full (s := counted) wf.distinct hopen h hm hb
    rw [hnew.1] at hframes
    rw [hstate, hnew.2]
    refine .refused rfl hopen hdec ht hm (Nat.le_of_not_lt hb) ?_ hwakes
    refine trafficOf_eq hframes (fun g hg => ?_) (fun i => ?_) (fun i => ?_) fun i => ?_
    · rw [List.mem_singleton.mp hg]; rfl
    · rw [taken_of_ok hopen hdec]
      by_cases hi : i = f.streamId
      · simp [hi, h]
      · simp [Ne.symm hi]
    all_goals simp [acceptedBy, returnedBy]

theorem tracked?_of_none (wf : s.WellFormed) {id : UInt32} (h : s.find? id = none) :
    s.tracked? id = none := by
  rw [tracked?_eq wf.distinct, h, Option.filter_none]

/-- A frame other than SYN for a stream that is not in the table. -/
theorem onFrame_of_unknown (hg : s.tracked? f.streamId = none) (ht : f.type ≠ .syn) :
    Silent (s.onFrame f) ∧ (s.onFrame f).state = { s with stats := s.stats.dropped } := by
  cases hf : f.type with
  | syn => exact absurd hf ht
  | data => simp only [onFrame, hf, onData, hg]; exact ⟨⟨rfl, rfl⟩, rfl⟩
  | windowUpdate => simp only [onFrame, hf, onWindowUpdate, hg, onUnknown]; exact ⟨⟨rfl, rfl⟩, rfl⟩
  | fin => simp only [onFrame, hf, onFin, hg, onUnknown]; exact ⟨⟨rfl, rfl⟩, rfl⟩
  | rst => simp only [onFrame, hf, onRst, hg, onUnknown]; exact ⟨⟨rfl, rfl⟩, rfl⟩

theorem Turn.frame (wf : s.WellFormed) (hopen : s.ended = none)
    (hdec : Frame.decode message s.config.maxFramePayload = .ok f) :
    s.Turn (.message message) (s.step (.message message)).state := by
  let counted : Session := { s with stats := s.stats.received message.length }
  have hstep := step_of_ok hdec
  cases h : s.find? f.streamId with
  | some st =>
    have hid := find?_id h
    rw [← hid] at h
    obtain ⟨sent, hs⟩ := onFrame_steps (s := counted) (wf.with_stats _) hopen h hdec hid.symm
    exact .ofMessage (t := { got := [f], sent }) hstep h hs (taken_of_ok hopen hdec) rfl rfl
  | none =>
  by_cases ht : f.type = .syn
  · exact .syn wf hopen hdec ht h
  · have hout := onFrame_of_unknown (s := counted) (tracked?_of_none (wf.with_stats _) h) ht
    have hframes : (s.step (.message message)).frames = [] := by rw [hstep]; exact hout.1.1
    have hwakes : (s.step (.message message)).wakes = [] := by rw [hstep]; exact hout.1.2
    have hstate : (s.step (.message message)).state =
        { counted with stats := counted.stats.dropped } := by
      rw [hstep]; exact hout.2
    rw [hstate]
    exact .quiet (Turn.unknown hopen hdec h hframes) hwakes

theorem tracked?_eq_some (wf : s.WellFormed) {id : UInt32} (h : s.tracked? id = some st) :
    st.id = id ∧ s.find? id = some st ∧ st.tracked = true := by
  rw [tracked?_eq wf.distinct] at h
  obtain ⟨hfind, ht⟩ := Option.filter_eq_some_iff.mp h
  exact ⟨find?_id hfind, hfind, ht⟩

/-- A message that is no frame and damages no stream of the session is only counted. -/
theorem onMalformed_of_unknown {err : FrameError} (hfatal : err.isFatal = false)
    (hd : ∀ id, err.damagedStream? = some id → s.tracked? id = none) :
    Silent (s.onMalformed err) ∧ (s.onMalformed err).state =
      { s with stats := s.stats.dropped } := by
  cases hdamaged : err.damagedStream? with
  | none =>
    simp only [onMalformed, hfatal, hdamaged]
    exact ⟨⟨rfl, rfl⟩, rfl⟩
  | some id =>
    have hg : ({ s with stats := s.stats.dropped } : Session).tracked? id = none := hd id hdamaged
    simp only [onMalformed, hfatal, hdamaged, onLostData, hg]
    exact ⟨⟨rfl, rfl⟩, rfl⟩

/-- DATA that lost its frame is lost for its stream. -/
theorem onMalformed_of_damaged {err : FrameError} {id : UInt32} (hfatal : err.isFatal = false)
    (hd : err.damagedStream? = some id) :
    (s.onMalformed err).frames =
      (({ s with stats := s.stats.dropped } : Session).onLostData id).frames ∧
      (s.onMalformed err).state =
        (({ s with stats := s.stats.dropped } : Session).onLostData id).state ∧
      (s.onMalformed err).wakes =
          (({ s with stats := s.stats.dropped } : Session).onLostData id).wakes := by
  simp only [onMalformed, hfatal, hd]
  exact ⟨rfl, rfl, rfl⟩

theorem Turn.malformed (wf : s.WellFormed) (hopen : s.ended = none) {err : FrameError}
    (hdec : Frame.decode message s.config.maxFramePayload = .error err) :
    s.Turn (.message message) (s.step (.message message)).state := by
  let counted : Session := { s with stats := s.stats.received message.length }
  have hstep := step_of_error hdec
  have htaken := taken_of_error hopen hdec
  cases hfatal : err.isFatal with
  | true =>
    obtain ⟨hshort, rfl⟩ := Frame.truncated_of_isFatal hdec hfatal
    have hout : counted.onMalformed (.truncated message.length) =
        counted.terminate (.protocol (FrameError.truncated message.length).message) := by
      rw [onMalformed, hfatal, if_pos rfl]
    rw [hout] at hstep
    refine .terminate _ counted.stats ?_ ?_ ?_ htaken (fun _ => rfl) (fun _ => rfl) (if_pos hshort)
    · exact congrArg Outcome.state hstep
    · exact congrArg Outcome.wakes hstep
    · exact (congrArg Outcome.frames hstep).trans terminate_frames
  | false =>
  by_cases hhit : ∃ id st, err.damagedStream? = some id ∧ s.tracked? id = some st
  · obtain ⟨id, st, hd, hg⟩ := hhit
    obtain ⟨rfl, hfind, htr⟩ := tracked?_eq_some wf hg
    obtain ⟨hframes, hstate, hwakes⟩ := onMalformed_of_damaged (s := counted) hfatal hd
    obtain ⟨st', stats, hstate', hframes', hwakes', hst⟩ :=
      onLostData_steps (s := counted) (wf.with_stats _) hfind htr hdec hd counted.stats.dropped
    exact .ofMessage hstep hfind
      ⟨st', stats, hstate.trans hstate', hframes.trans hframes', hwakes.trans hwakes', hst⟩
        htaken rfl rfl
  · have hmiss (id : UInt32) (hd : err.damagedStream? = some id) : counted.tracked? id = none :=
      Option.eq_none_iff_forall_ne_some.mpr fun st hg => hhit ⟨id, st, hd, hg⟩
    obtain ⟨⟨hframes, hwakes⟩, hstate⟩ := onMalformed_of_unknown hfatal hmiss
    have hstate' : (s.step (.message message)).state =
        { counted with stats := counted.stats.dropped } :=
      (congrArg Outcome.state hstep).trans hstate
    rw [hstate']
    refine .quiet (trafficOf_eq_empty ((congrArg Outcome.frames hstep).trans hframes) ?_
      (fun _ => rfl) fun _ => rfl) ((congrArg Outcome.wakes hstep).trans hwakes)
    rw [htaken]
    intro f hf
    cases hf

/-! ## After the end -/

theorem tracked?_of_ended (wf : s.WellFormed) (hended : s.ended ≠ none) (id : UInt32) :
    s.tracked? id = none := by
  cases h : s.tracked? id with
  | none => rfl
  | some st =>
    obtain ⟨-, hfind, ht⟩ := tracked?_eq_some wf h
    rw [wf.untracked hended st (mem_of_find? hfind)] at ht
    cases ht

/-- A message that comes after the end is counted, and as dropped if it has a header,
but for a new SYN, which uses up its id. -/
theorem step_of_late (wf : s.WellFormed) (hended : s.ended ≠ none) (message : Bytes) :
    let counted := s.stats.received message.length
    let late := s.step (.message message)
    Silent late ∧
      (late.state = { s with stats := counted } ∨ late.state = { s with stats := counted.dropped } ∨
        ∃ f, Frame.decode message s.config.maxFramePayload = .ok f ∧ f.type = .syn ∧
          s.mayOpen f.streamId = true ∧ late.state =
              { s with lastRemoteId := f.streamId, stats := counted }) := by
  intro counted late
  let heard : Session := { s with stats := counted }
  have hunknown : ∀ id, heard.tracked? id = none := tracked?_of_ended (wf.with_stats _) hended
  cases hdec : Frame.decode message s.config.maxFramePayload with
  | ok f =>
    have hlate : late = Outcome.as (heard.onFrame f) fun _ => .nothing := step_of_ok hdec
    rw [hlate]
    by_cases ht : f.type = .syn
    · have hsyn : heard.onFrame f = heard.onSyn f.streamId := by rw [onFrame, ht]
      rw [hsyn]
      cases hm : s.mayOpen f.streamId with
      | true =>
        obtain ⟨hsilent, hstate⟩ := onSyn_of_ended (s := heard) hended hm
        exact ⟨hsilent, .inr (.inr ⟨f, rfl, ht, hm, hstate⟩)⟩
      | false =>
        obtain ⟨hsilent, hstate⟩ := onSyn_of_invalid (s := heard) hm
        exact ⟨hsilent, .inr (.inl hstate)⟩
    · obtain ⟨hsilent, hstate⟩ := onFrame_of_unknown (hunknown f.streamId) ht
      exact ⟨hsilent, .inr (.inl hstate)⟩
  | error err =>
    have hlate : late = Outcome.as (heard.onMalformed err) fun _ => .nothing := step_of_error hdec
    rw [hlate]
    cases hfatal : err.isFatal with
    | true =>
      obtain ⟨fault, hfault⟩ := Option.ne_none_iff_exists'.mp hended
      have hout : heard.onMalformed err = { result := (), state := heard } := by
        rw [onMalformed, hfatal, if_pos rfl]
        simp only [terminate, show heard.ended = some fault from hfault]
      rw [hout]
      exact ⟨⟨rfl, rfl⟩, .inl rfl⟩
    | false =>
      obtain ⟨hsilent, hstate⟩ := onMalformed_of_unknown hfatal fun id _ => hunknown id
      exact ⟨hsilent, .inr (.inl hstate)⟩

theorem Turn.afterEnd (wf : s.WellFormed) (hended : s.ended ≠ none) :
    s.Turn (.message message) (s.step (.message message)).state := by
  obtain ⟨fault, hfault⟩ := Option.ne_none_iff_exists'.mp hended
  obtain ⟨⟨hframes, hwakes⟩, hstate⟩ := step_of_late wf hended message
  have htraffic : ∀ id, s.trafficOf (.message message) id = {} := by
    refine trafficOf_eq_empty hframes (fun f hf => ?_) (fun _ => rfl) fun _ => rfl
    rw [taken_of_ended hfault] at hf
    cases hf
  rcases hstate with hstate | hstate | ⟨f, hdec, ht, hm, hstate⟩ <;> rw [hstate]
  · exact .quiet htraffic hwakes
  · exact .quiet htraffic hwakes
  · exact .late rfl hended hdec ht hm htraffic hwakes

/-! ## Every step -/

theorem Turn.call (wf : s.WellFormed) (c : Call) : s.Turn (.call c) (s.step (.call c)).state := by
  cases c with
  | openStream => exact .openStream
  | accept ticket => exact .accept wf ticket
  | cancelAccept ticket =>
    exact .quiet (trafficOf_eq_empty rfl (fun f hf => nomatch hf) (fun _ => rfl) fun _ => rfl) rfl
  | read id room expired =>
    refine .onHeld wf rfl (by simp) (fun _ => rfl) (fun i => by simp [returnedBy, Reply.bytes])
      fun st hid hfind hh => ?_
    subst hid
    obtain ⟨t, hs, hgot, hwrote, hreturned⟩ := read_steps wf hfind hh room expired
    refine ⟨t, hs, hgot, fun i => by simp [acceptedBy, hwrote], fun i => ?_⟩
    simp only [returnedBy, hreturned, eq_comm]
    rfl
  | write id bytes expired =>
    refine .onHeld wf rfl (by simp) (fun i => by simp [acceptedBy, Reply.count]) (fun _ => rfl)
      fun st hid hfind hh => ?_
    subst hid
    obtain ⟨t, hs, hgot, hwrote, hreturned⟩ := write_steps wf hfind hh bytes expired
    refine ⟨t, hs, hgot, fun i => ?_, fun i => by simp [returnedBy, hreturned]⟩
    simp only [acceptedBy, hwrote, eq_comm]
    rfl
  | closeWrite id =>
    refine .onHeld wf rfl (by simp) (fun _ => rfl) (fun _ => rfl) fun st hid hfind hh => ?_
    subst hid
    obtain ⟨t, hs, hgot, hwrote, hreturned⟩ := closeWrite_steps wf hfind hh
    exact ⟨t, hs, hgot, by simp [acceptedBy, hwrote], by simp [returnedBy, hreturned]⟩
  | reset id =>
    refine .onHeld wf rfl (by simp) (fun _ => rfl) (fun _ => rfl) fun st hid hfind hh => ?_
    subst hid
    obtain ⟨t, hs, hgot, hwrote, hreturned⟩ := reset_steps wf hfind hh
    exact ⟨t, hs, hgot, by simp [acceptedBy, hwrote], by simp [returnedBy, hreturned]⟩
  | dropHandle id =>
    refine .onHeld wf rfl (by simp) (fun _ => rfl) (fun _ => rfl) fun st hid hfind hh => ?_
    subst hid
    obtain ⟨t, hs, hgot, hwrote, hreturned⟩ := dropHandle_steps wf hfind hh
    exact ⟨t, hs, hgot, by simp [acceptedBy, hwrote], by simp [returnedBy, hreturned]⟩
  | close =>
    exact .terminate .sessionClosed s.stats rfl rfl terminate_frames rfl (fun _ => rfl)
      (fun _ => rfl) rfl

/-- Whatever happens to a session is one of the turns. -/
theorem turn_of_step (wf : s.WellFormed) (e : Event) : s.Turn e (s.step e).state := by
  cases e with
  | call c => exact .call wf c
  | message bytes =>
    cases hopen : s.ended with
    | some fault => exact .afterEnd wf (by simp [hopen])
    | none =>
    cases hdec : Frame.decode bytes s.config.maxFramePayload with
    | ok f => exact .frame wf hopen hdec
    | error err => exact .malformed wf hopen hdec
  | connectionEnded =>
    exact .terminate _ s.stats rfl rfl terminate_frames rfl (fun _ => rfl) (fun _ => rfl) rfl
  | connectionFailed text =>
    exact .terminate _ s.stats rfl rfl terminate_frames rfl (fun _ => rfl) (fun _ => rfl) rfl
  | sent f =>
    exact .quiet (trafficOf_eq_empty rfl (fun f hf => nomatch hf) (fun _ => rfl) fun _ => rfl) rfl

end Session
end StreamMux

/-
The life of one stream in a session, over any sequence of events. `Change` says
how a step brings a stream into being, changes it or tears it down; `traffic`
collects what passed it. An invariant of a stream and its traffic that every
change keeps holds after every sequence of events (`stream_induction`).
-/
import StreamMux.Proofs.WellFormed
import Mathlib.Data.List.Induction

namespace StreamMux.Session

/-- What a step of the session does to its stream `id`: the stream before, what
passes it, and the stream afterwards. -/
inductive Change (s : Session) (e : Event) (id : UInt32) : Option Stream → Traffic →
    Option Stream → Prop
  | absent : Change s e id none {} none
  | opened : s.role.owns id = true → s.nextId = some id →
    Change s e id none { sent := [.syn id] } (some (.make id s.config .held))
  | announced {message f} : e = .message message → s.ended = none →
    Frame.decode message s.config.maxFramePayload = .ok f → f.type = .syn → f.streamId = id →
      s.mayOpen id = true →
    Change s e id none {} (some (.make id s.config .unclaimed))
  | refused {message f} : e = .message message → s.ended = none →
    Frame.decode message s.config.maxFramePayload = .ok f → f.type = .syn → f.streamId = id →
      s.mayOpen id = true →
    s.config.acceptBacklog ≤ s.backlog.length →
    Change s e id none { sent := [.rst id] }
      (some ((Stream.make id s.config .unclaimed).aborted .here))
  | step {st t st'} : st.id = id → st.Step s.config.maxFramePayload e t st' →
    Change s e id (some st) t (some st')
  | torn {st cause} : Change s e id (some st) {} (some (tornDown cause st))

variable {s s' : Session} {e : Event} {id : UInt32}

theorem Change.of_eq {o o' : Option Stream} {t : Traffic} (ho : s.find? id = o)
    (ho' : s'.find? id = o')
    (ht : s.trafficOf e id = t) (h : s.Change e id o t o') :
    s.Change e id (s.find? id) (s.trafficOf e id) (s'.find? id) := by
  rw [ho, ho', ht]
  exact h

/-- A stream that a step does not touch. -/
theorem Change.untouched (h : s'.find? id = s.find? id) (ht : s.trafficOf e id = {}) :
    s.Change e id (s.find? id) (s.trafficOf e id) (s'.find? id) := by
  rw [h, ht]
  cases hf : s.find? id with
  | none => exact .absent
  | some st => exact .step (find?_id hf) .still

/-- A stream that a step adds, and the others. -/
theorem Change.added (st : Stream) {t : Traffic} (hfresh : s.find? st.id = none)
    (happ : s'.streams = s.streams ++ [st])
    (ht : ∀ i, s.trafficOf e i = if i = st.id then t else {})
    (h : s.Change e st.id none t (some st)) :
    s.Change e id (s.find? id) (s.trafficOf e id) (s'.find? id) := by
  by_cases hi : id = st.id
  · subst hi
    exact .of_eq hfresh (find?_append_self hfresh happ) (by rw [ht, if_pos rfl]) h
  · exact .untouched (find?_append_ne hi happ) (by rw [ht, if_neg hi])

theorem Turn.change (h : s.Turn e s') (wf : s.WellFormed) (id : UInt32) :
    s.Change e id (s.find? id) (s.trafficOf e id) (s'.find? id) := by
  cases h with
  | quiet ht => exact .untouched rfl (ht id)
  | @touched st st' t stats hfind _ hstep ht =>
    have hid := hstep.id_eq
    by_cases hi : id = st.id
    · subst hi
      have hput : (s.put st').find? st'.id = some st' := find?_put (by rw [hid]; exact hfind)
      rw [hid] at hput
      exact .of_eq hfind hput (by rw [ht, if_pos rfl]) (.step rfl hstep)
    · exact .untouched (find?_put_ne (by rw [hid]; exact hi)) (by rw [ht, if_neg hi])
  | @claimed st ticket rest acceptors stats he hb hfind ht =>
    by_cases hi : id = st.id
    · subst hi
      obtain ⟨a, ha, hu⟩ := wf.backlog st.id (by rw [hb]; exact List.mem_cons_self)
      rw [hfind] at ha
      obtain rfl := Option.some.inj ha
      subst he
      have hput : (s.put { st with handle := .held }).find? st.id =
        some { st with handle := .held } := find?_put hfind
      exact .of_eq hfind hput (ht _) (.step rfl (.accept hu))
    · exact .untouched (find?_put_ne hi) (ht id)
  | @opened i stats he hopen hn ht =>
    exact .added (.make i s.config .held) (wf.find?_nextId hn) rfl ht
      (.opened (wf.nextOwned i hn) hn)
  | @announced message f stats he hopen hdec hsyn hm ht =>
    refine .added (.make f.streamId s.config .unclaimed) (wf.find?_of_mayOpen hm) rfl (fun i => ?_)
      (.announced he hopen hdec hsyn rfl hm)
    rw [ht, ite_self]
  | @refused message f stats he hopen hdec hsyn hm hb ht =>
    exact .added ((Stream.make f.streamId s.config .unclaimed).aborted .here)
      (wf.find?_of_mayOpen hm) rfl ht (.refused he hopen hdec hsyn rfl hm hb)
  | late _ _ _ _ _ ht => exact .untouched rfl (ht id)
  | @ended cause stats _ _ ht =>
    refine .of_eq rfl (find?_tornDown (s := s) cause rfl) (ht id) ?_
    cases s.find? id with
    | none => exact .absent
    | some st => exact .torn

/-- Every step changes each stream in one of these ways. -/
theorem change_of_step (wf : s.WellFormed) (e : Event) (id : UInt32) :
    s.Change e id (s.find? id) (s.trafficOf e id) ((s.step e).state.find? id) :=
      (turn_of_step wf e).change wf id

theorem Turn.role (h : s.Turn e s') : s'.role = s.role := by cases h <;> rfl

theorem Turn.config (h : s.Turn e s') : s'.config = s.config := by cases h <;> rfl

/-- A session that has ended stays so. -/
theorem Turn.ended_of_ended (h : s.Turn e s') (he : s.ended ≠ none) : s'.ended ≠ none := by
  cases h with
  | ended => simp
  | _ => exact he

/-! ## Sequences of events -/

/-- The frames that the events bring to the session while it is open. -/
def takenOf (s : Session) : List Event → List Frame
  | [] => []
  | e :: rest => s.taken e ++ takenOf (s.step e).state rest

/-- The messages among the events. -/
def messages (es : List Event) : List Bytes :=
  es.filterMap fun e => match e with
    | .message bytes => some bytes
    | _ => none

/-- What passes the stream `id` over a sequence of events. -/
def traffic (s : Session) (id : UInt32) : List Event → Traffic
  | [] => {}
  | e :: rest => s.trafficOf e id ++ traffic (s.step e).state id rest

/-- The frames taken in for the stream `id` that the stream looked at in this way when they came. -/
def gotWhile (s : Session) (p : Stream → Frame → Bool) (id : UInt32) : List Event → List Frame
  | [] => []
  | e :: rest =>
    (s.trafficOf e id).got.filter (fun f => (s.find? id).any (p · f)) ++
    gotWhile (s.step e).state p id rest

/-- `Q` holds of every event, at the session it happens to. -/
def Throughout (Q : Session → Event → Prop) (s : Session) : List Event → Prop
  | [] => True
  | e :: rest => Q s e ∧ Throughout Q (s.step e).state rest

variable {es es' : List Event} {role : Role} {config : Config} {Q : Session → Event → Prop}

theorem mem_messages {message : Bytes} : message ∈ messages es ↔ .message message ∈ es := by
  simp only [messages, List.mem_filterMap]
  refine ⟨fun ⟨e, he, hm⟩ => ?_, fun h => ⟨_, h, rfl⟩⟩
  split at hm
  · cases hm
    exact he
  · cases hm

@[simp] theorem messages_append : messages (es ++ es') = messages es ++ messages es' :=
  List.filterMap_append

theorem after_append : s.after (es ++ es') = (s.after es).after es' := List.foldl_append

@[simp] theorem after_concat : s.after (es ++ [e]) = ((s.after es).step e).state := after_append

theorem framesOf_append : s.framesOf (es ++ es') = s.framesOf es ++ (s.after es).framesOf es' := by
  induction es generalizing s with
  | nil => rfl
  | cons e es ih => simp [framesOf, ih, after]

theorem takenOf_append : s.takenOf (es ++ es') = s.takenOf es ++ (s.after es).takenOf es' := by
  induction es generalizing s with
  | nil => rfl
  | cons e es ih => simp [takenOf, ih, after]

theorem traffic_append :
    s.traffic id (es ++ es') = s.traffic id es ++ (s.after es).traffic id es' := by
  induction es generalizing s with
  | nil => simp [traffic, after]
  | cons e es ih => simp [traffic, ih, after, Traffic.append_assoc]

@[simp] theorem framesOf_concat :
    s.framesOf (es ++ [e]) = s.framesOf es ++ ((s.after es).step e).frames := by
  simp [framesOf_append, framesOf]

@[simp] theorem takenOf_concat : s.takenOf (es ++ [e]) = s.takenOf es ++ (s.after es).taken e := by
  simp [takenOf_append, takenOf]

@[simp] theorem traffic_concat :
    s.traffic id (es ++ [e]) = s.traffic id es ++ (s.after es).trafficOf e id := by
  simp [traffic_append, traffic]

theorem gotWhile_append (p : Stream → Frame → Bool) :
    s.gotWhile p id (es ++ es') = s.gotWhile p id es ++ (s.after es).gotWhile p id es' := by
  induction es generalizing s with
  | nil => rfl
  | cons e es ih => simp [gotWhile, ih, after]

theorem gotWhile_sublist (p : Stream → Frame → Bool) :
    (s.gotWhile p id es).Sublist (s.traffic id es).got := by
  induction es generalizing s with
  | nil => exact .slnil
  | cons e es ih => exact List.filter_sublist.append ih

theorem throughout_append : Throughout Q s (es ++ es') ↔ Throughout Q s es ∧
    Throughout Q (s.after es) es' := by
  induction es generalizing s with
  | nil => simp [Throughout, after]
  | cons e es ih => simp [Throughout, ih, after, and_assoc]

@[simp] theorem throughout_concat : Throughout Q s (es ++ [e]) ↔ Throughout Q s es ∧
    Q (s.after es) e := by
  simp [throughout_append, Throughout]

theorem throughout_of_forall (h : ∀ s e, Q s e) : Throughout Q s es := by
  induction es generalizing s with
  | nil => trivial
  | cons e es ih => exact ⟨h s e, ih⟩

theorem throughout_of_splits
    (h : ∀ before e later, es = before ++ e :: later → Q (s.after before) e) :
    Throughout Q s es := by
  induction es generalizing s with
  | nil => trivial
  | cons e es ih =>
    exact ⟨h [] e es rfl, ih fun before e' later heq => h (e :: before) e' later (by rw [heq]; rfl)⟩

/-- What the events make the session queue for the stream `id`. -/
def framesFor (s : Session) (id : UInt32) (es : List Event) : List Frame :=
  (s.framesOf es).filter (·.streamId == id)

/-- What passes a stream is its part of all that is queued. -/
theorem sent_traffic : (s.traffic id es).sent = (s.framesOf es).filter (·.streamId == id) := by
  induction es generalizing s with
  | nil => rfl
  | cons e es ih => simp [traffic, framesOf, ih, trafficOf]

theorem framesFor_eq : s.framesFor id es = (s.traffic id es).sent := sent_traffic.symm

theorem wrote_traffic :
    (s.traffic id es).wrote = (s.trace es).flatMap
      fun answer => acceptedBy id answer.1 answer.2 := by
  induction es generalizing s with
  | nil => rfl
  | cons e es ih => simp [traffic, trafficOf, trace, ih]

theorem returned_traffic :
    (s.traffic id es).returned = (s.trace es).flatMap
      fun answer => returnedBy id answer.1 answer.2 := by
  induction es generalizing s with
  | nil => rfl
  | cons e es ih => simp [traffic, trafficOf, trace, ih]

theorem trace_append : s.trace (es ++ es') = s.trace es ++ (s.after es).trace es' := by
  induction es generalizing s with
  | nil => rfl
  | cons e es ih => simp [trace, ih, after]

/-- What was answered was answered at some point of the run. -/
theorem split_of_mem_trace {reply : Reply} (h : (e, reply) ∈ s.trace es) :
    ∃ before later, es = before ++ e :: later ∧ ((s.after before).step e).result = reply := by
  induction es generalizing s with
  | nil => cases h
  | cons e' es ih =>
    rcases List.mem_cons.mp h with h | h
    · cases h
      exact ⟨[], es, rfl, rfl⟩
    · obtain ⟨before, later, rfl, hreply⟩ := ih h
      exact ⟨e' :: before, later, rfl, hreply⟩

theorem mem_of_mem_trace {reply : Reply} (h : (e, reply) ∈ s.trace es) : e ∈ es := by
  obtain ⟨before, later, rfl, -⟩ := split_of_mem_trace h
  exact List.mem_append_right _ List.mem_cons_self

theorem wellFormed_after (role : Role) (config : Config) (es : List Event) :
    ((make role config).after es).WellFormed :=
  (reachable_after .start es).wellFormed

/-- What can be met is met after some events. -/
theorem Reachable.exists_run {role : Role} {config : Config} (h : Reachable role config s) :
    ∃ es, s = (make role config).after es := by
  induction h with
  | start => exact ⟨[], rfl⟩
  | step e _ ih =>
    obtain ⟨es, rfl⟩ := ih
    exact ⟨es ++ [e], after_concat.symm⟩

theorem role_after (role : Role) (config : Config) (es : List Event) :
    ((make role config).after es).role = role := by
  induction es using List.reverseRecOn with
  | nil => rfl
  | append_singleton es e ih =>
    rw [after_concat, (turn_of_step (wellFormed_after role config es) e).role, ih]

theorem config_after (role : Role) (config : Config) (es : List Event) :
    ((make role config).after es).config = config := by
  induction es using List.reverseRecOn with
  | nil => rfl
  | append_singleton es e ih =>
    rw [after_concat, (turn_of_step (wellFormed_after role config es) e).config, ih]

theorem ended_after_mono (h : (((make role config).after (es ++ [e])).ended = none)) :
    ((make role config).after es).ended = none := by
  rw [after_concat] at h
  have hturn := turn_of_step (wellFormed_after role config es) e
  exact Decidable.byContradiction fun hne => hturn.ended_of_ended hne h

/-- A session whose messages are legal frames takes them in order, and all of them while it is
open. -/
theorem takenOf_of_messages {fs : List Frame} (hlegal : ∀ f ∈ fs, f.Legal config.maxFramePayload)
    (hm : messages es = fs.map Frame.encode) :
    (make role config).takenOf es <+: fs ∧
      (((make role config).after es).ended = none → (make role config).takenOf es = fs) := by
  induction es using List.reverseRecOn generalizing fs with
  | nil =>
    obtain rfl : fs = [] := List.map_eq_nil_iff.mp hm.symm
    exact ⟨List.prefix_rfl, fun _ => rfl⟩
  | append_singleton es e ih =>
    rw [messages_append] at hm
    obtain ⟨before, now, rfl, hbefore, hnow⟩ := List.append_eq_map_iff.mp hm
    obtain ⟨hpart, hwhole⟩ := ih (fun f hf => hlegal f (List.mem_append_left _ hf)) hbefore.symm
    rw [takenOf_concat]
    cases hended : ((make role config).after es).ended with
    | some fault =>
      rw [taken_of_ended hended, List.append_nil]
      refine ⟨hpart.trans (List.prefix_append _ _), fun hopen => ?_⟩
      rw [ended_after_mono hopen] at hended
      cases hended
    | none =>
      have hnext : ((make role config).after es).taken e = now := by
        cases e with
        | message bytes =>
          obtain ⟨f, rfl, hf⟩ := List.map_eq_singleton_iff.mp hnow
          rw [← hf]
          refine taken_of_ok hended ?_
          rw [config_after]
          exact Frame.decode_encode (hlegal f (by simp))
        | call | connectionEnded | connectionFailed | sent =>
          exact (List.map_eq_nil_iff.mp hnow).symm
      rw [hwhole hended, hnext]
      exact ⟨List.prefix_rfl, fun _ => rfl⟩

/-- Nothing passes a stream that is not there. -/
theorem traffic_eq_empty (h : ((make role config).after es).find? id = none) :
    (make role config).traffic id es = {} := by
  induction es using List.reverseRecOn with
  | nil => rfl
  | append_singleton es e ih =>
    rw [after_concat] at h
    have hc := change_of_step (wellFormed_after role config es) e id
    rw [h] at hc
    rw [traffic_concat]
    generalize ((make role config).after es).find? id = o at hc ih
    generalize ((make role config).after es).trafficOf e id = u at hc ⊢
    cases hc with
    | absent => rw [ih rfl, Traffic.append_empty]

/-- What holds of a stream `id` with its traffic and with the frames that it looked at
as `p` says, and is kept by every step and by the end of the session, holds of it at any time. -/
theorem stream_induction_while (p : Stream → Frame → Bool) (hq : Throughout Q (make role config) es)
    {P : Stream → Traffic → List Frame → Prop}
    (opened : role.owns id = true → P (.make id config .held) { sent := [.syn id] } [])
    (announced : role.owns id = false → P (.make id config .unclaimed) {} [])
    (refused : role.owns id = false → P ((Stream.make id config .unclaimed).aborted .here)
      { sent := [.rst id] } [])
    (step : ∀ (s : Session) (st st' : Stream) e t u fs, s.WellFormed → s.config = config →
      s.find? id = some st → Q s e →
      st.Step config.maxFramePayload e u st' → P st t fs →
        P st' (t ++ u) (fs ++ u.got.filter (p st)))
    (torn : ∀ (st : Stream) t fs cause, st.Sound → P st t fs → P (tornDown cause st) t fs)
    {st : Stream} (h : ((make role config).after es).find? id = some st) :
    P st ((make role config).traffic id es) ((make role config).gotWhile p id es) := by
  induction es using List.reverseRecOn generalizing st with
  | nil => cases h
  | append_singleton es e ih =>
    obtain ⟨hbefore, hnow⟩ := throughout_concat.mp hq
    have wf := wellFormed_after role config es
    have hrole := role_after role config es
    have hconfig := config_after role config es
    have hc := change_of_step wf e id
    have hempty : ((make role config).after es).find? id = none →
        (make role config).traffic id es = {} ∧ (make role config).gotWhile p id es = [] :=
            fun hnone => by
      have htraffic : (make role config).traffic id es = {} := traffic_eq_empty hnone
      have hsub : ((make role config).gotWhile p id es).Sublist
          ((make role config).traffic id es).got :=
        gotWhile_sublist p
      rw [htraffic] at hsub
      exact ⟨htraffic, List.sublist_nil.mp hsub⟩
    have ih := @ih hbefore
    rw [after_concat] at h
    rw [h] at hc
    rw [traffic_concat, gotWhile_append, gotWhile, gotWhile, List.append_nil]
    generalize ho : ((make role config).after es).find? id = o at hc ih hempty
    generalize ((make role config).after es).trafficOf e id = u at hc ⊢
    generalize (make role config).after es = s at hc hrole hconfig wf hnow ho
    subst hrole hconfig
    cases hc with
    | opened howns =>
      obtain ⟨ht, hfs⟩ := hempty rfl
      rw [ht, hfs, Traffic.empty_append]
      exact opened howns
    | announced _ _ _ _ _ hm =>
      obtain ⟨ht, hfs⟩ := hempty rfl
      rw [ht, hfs, Traffic.empty_append]
      exact announced (mayOpen_iff.mp hm).2.1
    | refused _ _ _ _ _ hm =>
      obtain ⟨ht, hfs⟩ := hempty rfl
      rw [ht, hfs, Traffic.empty_append]
      exact refused (mayOpen_iff.mp hm).2.1
    | step _ hst => exact step s _ _ e _ _ _ wf rfl ho hnow hst (ih rfl)
    | torn =>
      rw [Traffic.append_empty, List.filter_nil, List.append_nil]
      exact torn _ _ _ _ (wf.sound _ (mem_of_find? ho)) (ih rfl)

/-- The same, of a stream and its traffic. -/
theorem stream_induction_of (hq : Throughout Q (make role config) es) {P : Stream → Traffic → Prop}
    (opened : role.owns id = true → P (.make id config .held) { sent := [.syn id] })
    (announced : role.owns id = false → P (.make id config .unclaimed) {})
    (refused : role.owns id = false → P ((Stream.make id config .unclaimed).aborted .here)
      { sent := [.rst id] })
    (step : ∀ (s : Session) (st st' : Stream) e t u, s.WellFormed → s.config = config →
      s.find? id = some st → Q s e →
      st.Step config.maxFramePayload e u st' → P st t → P st' (t ++ u))
    (torn : ∀ (st : Stream) t cause, st.Sound → P st t → P (tornDown cause st) t)
    {st : Stream} (h : ((make role config).after es).find? id = some st) :
        P st ((make role config).traffic id es) :=
  stream_induction_while (P := fun st t _ => P st t) (fun _ _ => true) hq opened announced refused
    (fun s st st' e t u _ => step s st st' e t u) (fun st t _ => torn st t) h

/-- The same, for all events. -/
theorem stream_induction {P : Stream → Traffic → Prop}
    (opened : role.owns id = true → P (.make id config .held) { sent := [.syn id] })
    (announced : role.owns id = false → P (.make id config .unclaimed) {})
    (refused : role.owns id = false → P ((Stream.make id config .unclaimed).aborted .here)
      { sent := [.rst id] })
    (step : ∀ (st st' : Stream) e t u, st.Sound → st.Step config.maxFramePayload e u st' → P st t →
      P st' (t ++ u))
    (torn : ∀ (st : Stream) t cause, st.Sound → P st t → P (tornDown cause st) t)
    {st : Stream} (h : ((make role config).after es).find? id = some st) :
        P st ((make role config).traffic id es) :=
  stream_induction_of (throughout_of_forall fun _ _ => trivial) opened announced refused
    (fun _ st st' e t u wf _ hfind _ hst => step st st' e t u
      (wf.sound st (mem_of_find? hfind)) hst) torn h

/-- What every step and the end of the session keep of a stream and of what has passed it
since holds of it ever after. -/
theorem hereafter_of {P : Stream → Traffic → Prop}
    (step : ∀ (st st' : Stream) maxPayload e t u, st.Sound → st.Step maxPayload e u st' → P st t →
      P st' (t ++ u))
    (torn : ∀ st t cause, P st t → P (tornDown cause st) t) (es : List Event) (wf : s.WellFormed)
    {st : Stream}
    (h : s.find? id = some st) (hp : P st {}) : ∃ st', (s.after es).find? id = some st' ∧
    P st' (s.traffic id es) := by
  induction es using List.reverseRecOn with
  | nil => exact ⟨st, h, hp⟩
  | append_singleton es e ih =>
    obtain ⟨now, hnow, hpnow⟩ := ih
    have wf' := wf.after es
    have hc := change_of_step wf' e id
    rw [after_concat, traffic_concat]
    rw [hnow] at hc
    generalize (s.after es).trafficOf e id = u at hc ⊢
    generalize ((s.after es).step e).state.find? id = o at hc ⊢
    cases hc with
    | step _ hst => exact ⟨_, rfl, step _ _ _ e _ u (wf'.sound _ (mem_of_find? hnow)) hst hpnow⟩
    | torn =>
      rw [Traffic.append_empty]
      exact ⟨_, rfl, torn _ _ _ hpnow⟩

/-- The same, with what the stream may send meanwhile. -/
theorem hereafter {P : Stream → Prop} {R : Frame → Prop}
    (step : ∀ (st st' : Stream) maxPayload e u, st.Sound → st.Step maxPayload e u st' → P st →
      P st' ∧ ∀ f ∈ u.sent, R f)
    (torn : ∀ st cause, P st → P (tornDown cause st)) (es : List Event) (wf : s.WellFormed)
    {st : Stream}
    (h : s.find? id = some st) (hp : P st) :
    ∃ st', (s.after es).find? id = some st' ∧ P st' ∧ ∀ f ∈ (s.traffic id es).sent, R f := by
  refine hereafter_of (P := fun st t => P st ∧ ∀ f ∈ t.sent, R f) ?_ ?_ es wf h
    ⟨hp, fun f hf => nomatch hf⟩
  · rintro st st' maxPayload e t u hs hst ⟨hp, hsent⟩
    obtain ⟨hp', hnow⟩ := step st st' maxPayload e u hs hst hp
    rw [Traffic.sent_append, List.forall_mem_append]
    exact ⟨hp', hsent, hnow⟩
  · rintro st t cause ⟨hp, hsent⟩
    exact ⟨torn st cause hp, hsent⟩

/-- A session keeps its streams, also those that it routes no frames to any more. -/
theorem find?_after (es : List Event) (wf : s.WellFormed) {st : Stream} (h : s.find? id = some st) :
    ∃ st', (s.after es).find? id = some st' := by
  obtain ⟨st', hst', -⟩ := hereafter_of (P := fun _ _ => True) (fun _ _ _ _ _ _ _ _ _ => trivial)
    (fun _ _ _ _ => trivial) es wf h trivial
  exact ⟨st', hst'⟩

end StreamMux.Session

/-
What the counter of aborted streams counts. It grows with every stream that is aborted,
however that comes about, and once more for every RST that comes for a stream which has
closed before and is only kept because something of it is unread: such a stream stays
closed. Without these the counter is the number of streams that were aborted.
-/
import StreamMux.Proofs.Coarse
import StreamMux.Proofs.History

namespace StreamMux

/-- The stream was aborted before the session ended. -/
def Stream.wasReset (st : Stream) : Bool :=
  match st.reset with
  | none | some (.teardown _) => false
  | some _ => true

theorem Stream.wasReset_iff {st : Stream} :
    st.wasReset = true ↔ st.phase = .reset ∧ ∀ fault, st.reset ≠ some (.teardown fault) := by
  rw [phase_eq_reset_iff, wasReset]
  cases st.reset with
  | none => simp
  | some cause => cases cause <;> simp

namespace Session

/-- Streams that were aborted for another cause than the end of the session. -/
def resetStreams (s : Session) : Nat := s.streams.countP (·.wasReset)

/-- The frame is an RST for a stream that has closed in both directions. -/
def ComesLate (s : Session) (f : Frame) : Prop :=
  f.type = .rst ∧ ∃ st, s.tracked? f.streamId = some st ∧ st.phase = .closed

instance (s : Session) (f : Frame) : Decidable (s.ComesLate f) :=
  decidable_of_iff (f.type = .rst ∧ (s.tracked? f.streamId).any (·.phase = .closed)) (by
    simp only [ComesLate, Option.any_eq_true, decide_eq_true_eq])

/-- The event brings such a frame. -/
def lateRst (s : Session) (e : Event) : Bool := (s.taken e).any (s.ComesLate ·)

/-- How often that happens over a sequence of events. -/
def lateRsts (s : Session) : List Event → Nat
  | [] => 0
  | e :: rest => (if s.lateRst e then 1 else 0) + lateRsts (s.step e).state rest

variable {s s' s'' : Session} {st st' : Stream} {e : Event} {n m : Nat}

/-! ## Counting streams -/

theorem countP_put (p : Stream → Bool) (hd : s.DistinctIds) (h : s.find? st'.id = some st) :
    (s.put st').streams.countP p + (if p st then 1 else 0) =
      s.streams.countP p + (if p st' then 1 else 0) := by
  simp only [find?, put, DistinctIds] at h hd ⊢
  generalize s.streams = l at h hd
  induction l with
  | nil => cases h
  | cons a l ih =>
    simp only [List.map_cons, List.nodup_cons, List.mem_map, not_exists, not_and] at hd
    simp only [List.find?_cons] at h
    simp only [List.map_cons, List.countP_cons]
    by_cases ha : a.id = st'.id
    · have hrest : (l.map fun old => if old.id = st'.id then st' else old) = l := by
        rw [List.map_congr_left (g := fun b => b) ?_, List.map_id']
        intro b hb
        rw [if_neg fun hid => hd.1 b hb (hid.trans ha.symm)]
      simp only [ha, beq_self_eq_true, Option.some.injEq] at h
      rw [hrest, if_pos ha, h]
      omega
    · rw [beq_eq_false_iff_ne.mpr ha] at h
      have := ih h hd.2
      rw [if_neg ha]
      omega

/-- From one session to the other the counter has grown by as much as the number of aborted
streams, and by `n`. -/
def CountsOver (n : Nat) (s s' : Session) : Prop :=
  s'.stats.streamsReset + s.resetStreams = s.stats.streamsReset + s'.resetStreams + n

theorem CountsOver.refl (s : Session) : CountsOver 0 s s := rfl

theorem CountsOver.trans (h : CountsOver n s s') (h' : CountsOver m s' s'') :
    CountsOver (n + m) s s'' := by
  unfold CountsOver at h h' ⊢
  omega

/-- A stream that is no more and no less aborted than before. -/
theorem countsOver_put (hd : s.DistinctIds) (h : s.find? st'.id = some st)
    (hr : st'.reset = st.reset) : CountsOver 0 s (s.put st') := by
  have hput := countP_put (·.wasReset) hd h
  have hsame : st'.wasReset = st.wasReset := by rw [Stream.wasReset, Stream.wasReset, hr]
  simp only [hsame] at hput
  show s.stats.streamsReset + s.resetStreams = s.stats.streamsReset + (s.put st').resetStreams + 0
  unfold resetStreams
  omega

/-- An abort that is counted if it takes effect. -/
theorem countsOver_aborted (hd : s.DistinctIds) (h : s.find? st.id = some st) (cause : ResetCause)
    (hcause : ∀ fault, cause ≠ .teardown fault) :
    CountsOver 0 s { s.put (st.aborted cause) with
      stats := if st.isTerminal then s.stats else s.stats.reset } := by
  by_cases hterm : st.isTerminal = true
  · have hsame : (st.aborted cause).reset = st.reset := by rw [Stream.aborted_reset, if_pos hterm]
    rw [if_pos hterm]
    exact countsOver_put hd (by rw [Stream.aborted_id]; exact h) hsame
  · have hself : s.find? (st.aborted cause).id = some st := by rw [Stream.aborted_id]; exact h
    have hput := countP_put (·.wasReset) hd hself
    have hbefore : st.wasReset = false := by
      have hr : st.reset = none := by
        rw [Stream.isTerminal_eq] at hterm
        simp only [Bool.or_eq_true, not_or, Bool.not_eq_true, Option.isSome_eq_false_iff,
          Option.isNone_iff_eq_none] at hterm
        exact hterm.1
      rw [Stream.wasReset, hr]
    have hafter : (st.aborted cause).wasReset = true := by
      rw [Stream.wasReset, Stream.aborted_reset, if_neg hterm]
      cases cause with
      | teardown fault => exact absurd rfl (hcause fault)
      | here | peer | violation => rfl
    simp only [hbefore, hafter, if_true, Bool.false_eq_true, if_false] at hput
    rw [if_neg hterm]
    show s.stats.streamsReset + 1 + s.resetStreams =
      s.stats.streamsReset + (s.put (st.aborted cause)).resetStreams + 0
    unfold resetStreams
    omega

theorem countsOver_append (st : Stream) {added : Session} (hs : added.streams = s.streams ++ [st])
    (hcount : added.stats.streamsReset = s.stats.streamsReset) (hr : st.reset = none) :
    CountsOver 0 s added := by
  have hnew : st.wasReset = false := by rw [Stream.wasReset, hr]
  have hstreams : added.resetStreams = s.resetStreams := by
    unfold resetStreams
    rw [hs, List.countP_append, List.countP_singleton, hnew]
    rfl
  unfold CountsOver
  omega

/-- The end of the session aborts streams, but for a cause that does not count. -/
theorem wasReset_tornDown (cause : Fault) (st : Stream) :
    (tornDown cause st).wasReset = st.wasReset := by
  unfold tornDown
  split
  · rw [Stream.wasReset, Stream.wasReset, Stream.aborted_reset, Stream.isTerminal_eq]
    cases st.reset <;> cases st.localClosed <;> cases st.remoteClosed <;> rfl
  · rfl

theorem countP_tornDown (cause : Fault) (l : List Stream) :
    (l.map (tornDown cause)).countP (·.wasReset) = l.countP (·.wasReset) := by
  rw [List.countP_map]
  refine List.countP_congr fun st _ => ?_
  rw [Function.comp, wasReset_tornDown]

theorem countsOver_terminate (s : Session) (cause : Fault) :
    CountsOver 0 s (s.terminate cause).state := by
  simp only [terminate]
  split
  · rfl
  · show s.stats.streamsReset + s.resetStreams =
      s.stats.streamsReset + (s.streams.map (tornDown cause)).countP (·.wasReset) + 0
    rw [countP_tornDown]
    rfl

/-! ## Calls -/

/-- The counter of aborted streams. -/
abbrev resetCount (s : Session) : Nat := s.stats.streamsReset

theorem rough_resetCount : Rough resetCount :=
  ⟨⟨fun _ _ => rfl, fun _ _ _ => rfl⟩, fun _ _ _ => rfl⟩

theorem lineless_resetCount : Lineless resetCount := ⟨fun _ _ => rfl, fun _ _ _ => rfl⟩

/-- A step of a stream that is neither an abort nor a message. -/
theorem reset_of_step {maxPayload : UInt32} {u : Traffic} (h : st.Step maxPayload e u st')
    (hm : ∀ message, e ≠ .message message) (hreset : ∀ id, e ≠ .call (.reset id)) :
    st'.reset = st.reset := by
  cases h with
  | reset => exact absurd rfl (hreset _)
  | unheeded | data | emptyData | dataForNobody | accused | windowUpdate | fin | rst =>
    exact absurd rfl (hm _)
  | _ => rfl

/-- What is neither an abort nor a message aborts nothing. -/
theorem resetStreams_of_turn (wf : s.WellFormed) (h : s.Turn e s')
    (hm : ∀ message, e ≠ .message message)
    (hreset : ∀ id, e ≠ .call (.reset id)) : s'.resetStreams = s.resetStreams := by
  have put {a a' : Stream} (hfind : s.find? a'.id = some a) (hr : a'.reset = a.reset) :
      (s.put a').streams.countP (·.wasReset) = s.streams.countP (·.wasReset) := by
    have hput := countP_put (·.wasReset) wf.distinct hfind
    have hsame : a'.wasReset = a.wasReset := by rw [Stream.wasReset, Stream.wasReset, hr]
    simp only [hsame] at hput
    omega
  cases h with
  | quiet | late => rfl
  | touched hfind _ hstep =>
    exact put (by rw [hstep.id_eq]; exact hfind) (reset_of_step hstep hm hreset)
  | @claimed st _ _ _ _ _ _ hfind =>
    have hclaimed : s.find? ({ st with handle := .held } : Stream).id = some st := hfind
    exact put hclaimed rfl
  | opened =>
    unfold resetStreams
    rw [List.countP_append]
    rfl
  | announced he | refused he => exact absurd he (hm _)
  | ended => exact countP_tornDown _ _

theorem countsOver_call (wf : s.WellFormed) {c : Call} (hreset : ∀ id, c ≠ .reset id) :
    CountsOver 0 s (s.step (.call c)).state := by
  have hstreams := resetStreams_of_turn wf (turn_of_step wf (.call c)) (fun _ he => nomatch he)
    fun id he => hreset id (Event.call.inj he)
  have hcount : (s.step (.call c)).state.stats.streamsReset = s.stats.streamsReset :=
    rough_resetCount.anyCall lineless_resetCount s hreset
  unfold CountsOver
  omega

theorem countsOver_reset (wf : s.WellFormed) (id : UInt32) :
    CountsOver 0 s (s.step (.call (.reset id))).state := by
  simp only [step, call, onHeld]
  cases hh : s.held? id with
  | none => exact .refl s
  | some st =>
    rw [held?_eq wf.distinct] at hh
    obtain ⟨hfind, -⟩ := Option.filter_eq_some_iff.mp hh
    obtain rfl := find?_id hfind
    simp only [Outcome.as, reset_state wf.distinct hfind]
    exact countsOver_aborted wf.distinct hfind _ (by simp)

/-! ## Messages -/

variable {id : UInt32} {f : Frame} {message : Bytes}

theorem countsOver_onSyn (wf : s.WellFormed) (hopen : s.ended = none) :
    CountsOver 0 s (s.onSyn id).state := by
  by_cases hm : s.mayOpen id = true
  · have hfresh : s.find? id = none := by
      by_contra hne
      obtain ⟨st, hst⟩ := Option.ne_none_iff_exists'.mp hne
      obtain rfl := find?_id hst
      rw [mayOpen_eq_false wf hst] at hm
      cases hm
    by_cases hroom : s.backlog.length < s.config.acceptBacklog
    · rw [(onSyn_of_room hopen hm hroom).2]
      exact countsOver_append (.make id s.config .unclaimed) rfl rfl rfl
    · rw [(onSyn_of_full wf.distinct hopen hfresh hm hroom).2]
      unfold CountsOver resetStreams
      rw [List.countP_append]
      show s.stats.streamsReset + 1 + s.streams.countP _ =
        s.stats.streamsReset + (s.streams.countP _ + 1) + 0
      omega
  · rw [(onSyn_of_invalid (by simpa using hm)).2]
    exact .refl s

theorem countsOver_onData (wf : s.WellFormed) (payload : Bytes) :
    CountsOver 0 s (s.onData id payload).state := by
  cases hst : s.tracked? id with
  | none =>
    simp only [onData, hst]
    exact .refl s
  | some st =>
    obtain ⟨rfl, hfind, -⟩ := tracked?_eq_some wf hst
    cases hv : st.receive payload with
    | mk arrival st' =>
    have hid : st'.id = st.id := by rw [← st.receive_id payload, hv]
    have hr : st'.reset = st.reset := by rw [← st.receive_reset payload, hv]
    have hput : CountsOver 0 s (s.put st') :=
      countsOver_put wf.distinct (by rw [hid]; exact hfind) hr
    simp only [onData, hst, hv]
    cases arrival with
    | buffered | ignored => exact hput
    | discarded credit => cases credit <;> exact hput
    | violation v =>
      rw [Stream.receive_of_violation (congrArg Prod.fst hv)] at hv
      obtain rfl : st = st' := congrArg Prod.snd hv
      simp only [put_self wf.distinct hfind,
        resetStream_state (s := { s with stats := s.stats.dropped }) wf.distinct hfind]
      exact countsOver_aborted (s := { s with stats := s.stats.dropped }) wf.distinct hfind _
        (by simp)

/-- An RST for a stream of the session aborts it and is counted, whether that took effect or not. -/
theorem onRst_state (wf : s.WellFormed) (hst : s.tracked? st.id = some st)
    (hfind : s.find? st.id = some st) :
    (s.onRst st.id).state = { s.put (st.aborted .peer) with stats := s.stats.reset } := by
  have hretire := retire_abort wf.distinct hfind .peer s.stats.reset
  rw [abort_id] at hretire
  simp only [onRst, hst]
  exact hretire

theorem countsOver_onRst (wf : s.WellFormed) :
    CountsOver (if ∃ st, s.tracked? id = some st ∧ st.phase = .closed then 1 else 0) s
      (s.onRst id).state := by
  cases hst : s.tracked? id with
  | none =>
    simp only [onRst, hst, reduceCtorEq, false_and, exists_false, if_false]
    exact .refl s
  | some st =>
    obtain ⟨rfl, hfind, htracked⟩ := tracked?_eq_some wf hst
    have hr := (wf.sound st (mem_of_find? hfind)).reset_eq_none htracked
    have haborted := countsOver_aborted wf.distinct hfind .peer (by simp)
    rw [onRst_state wf hst hfind]
    simp only [Option.some.injEq, exists_eq_left']
    have hfinal := st.isTerminal_iff_closed hr
    by_cases hclosed : st.phase = .closed
    · rw [if_pos (hfinal.mpr hclosed)] at haborted
      rw [if_pos hclosed]
      unfold CountsOver at haborted ⊢
      show s.stats.streamsReset + 1 + s.resetStreams =
        s.stats.streamsReset + (s.put (st.aborted .peer)).resetStreams + 1
      have hsame : s.stats.streamsReset + s.resetStreams =
        s.stats.streamsReset + (s.put (st.aborted .peer)).resetStreams + 0 := haborted
      omega
    · rw [if_neg (mt hfinal.mp hclosed)] at haborted
      rw [if_neg hclosed]
      exact haborted

theorem countsOver_onFrame (wf : s.WellFormed) (hopen : s.ended = none) (f : Frame) :
    CountsOver (if s.ComesLate f then 1 else 0) s (s.onFrame f).state := by
  cases ht : f.type with
  | rst =>
    simp only [onFrame, ht, ComesLate, true_and]
    exact countsOver_onRst wf
  | syn =>
    simp only [onFrame, ht, ComesLate, reduceCtorEq, false_and, if_false]
    exact countsOver_onSyn wf hopen
  | data =>
    simp only [onFrame, ht, ComesLate, reduceCtorEq, false_and, if_false]
    exact countsOver_onData wf f.payload
  | windowUpdate =>
    simp only [onFrame, ht, ComesLate, reduceCtorEq, false_and, if_false, onWindowUpdate]
    cases hst : s.tracked? f.streamId with
    | none => exact .refl s
    | some st =>
      obtain ⟨hid, hfind, -⟩ := tracked?_eq_some wf hst
      exact countsOver_put wf.distinct (by rw [Stream.grant_id, hid]; exact hfind)
        Stream.grant_reset
  | fin =>
    simp only [onFrame, ht, ComesLate, reduceCtorEq, false_and, if_false, onFin]
    cases hst : s.tracked? f.streamId with
    | none => exact .refl s
    | some st =>
      obtain ⟨hid, hfind, -⟩ := tracked?_eq_some wf hst
      have hfind : s.find? st.finish.id = some st := by rw [Stream.finish_id, hid]; exact hfind
      have hput := retireIf_put st.finish wf.distinct hfind
      rw [Stream.finish_id, hid] at hput
      simp only [hput]
      exact countsOver_put wf.distinct hfind Stream.finish_reset

theorem countsOver_onMalformed (wf : s.WellFormed) (err : FrameError) :
    CountsOver 0 s (s.onMalformed err).state := by
  simp only [onMalformed]
  split
  · exact countsOver_terminate s _
  · cases err.damagedStream? with
    | none => exact .refl s
    | some id =>
      simp only [onLostData]
      cases hst : ({ s with stats := s.stats.dropped } : Session).tracked? id with
      | none => exact .refl s
      | some st =>
        obtain ⟨rfl, hfind, -⟩ := tracked?_eq_some (s := s) wf hst
        simp only [resetStream_state (s := { s with stats := s.stats.dropped }) wf.distinct hfind]
        exact countsOver_aborted (s := { s with stats := s.stats.dropped }) wf.distinct hfind _
          (by simp)

/-! ## Runs -/

/-- What one event adds to the counter: the streams it aborts, and one for an RST that comes
late. -/
theorem countsOver_step (wf : s.WellFormed) (e : Event) :
    CountsOver (if s.lateRst e then 1 else 0) s (s.step e).state := by
  cases e with
  | call c =>
    show CountsOver 0 s _
    by_cases hreset : ∃ id, c = .reset id
    · obtain ⟨id, rfl⟩ := hreset
      exact countsOver_reset wf id
    · exact countsOver_call wf fun id hc => hreset ⟨id, hc⟩
  | message bytes =>
    cases hended : s.ended with
    | some cause =>
      have hlate := (step_of_late wf (by simp [hended]) bytes).2
      rw [lateRst, taken_of_ended hended]
      rcases hlate with hstate | hstate | ⟨f, -, -, -, hstate⟩ <;> rw [hstate] <;> exact .refl s
    | none =>
    cases hdec : Frame.decode bytes s.config.maxFramePayload with
    | ok f =>
      rw [lateRst, taken_of_ok hended hdec, step_of_ok hdec, List.any_cons, List.any_nil,
        Bool.or_false]
      simp only [decide_eq_true_eq]
      exact countsOver_onFrame (s := { s with stats := s.stats.received bytes.length })
        (wf.with_stats _) hended f
    | error err =>
      rw [lateRst, taken_of_error hended hdec, step_of_error hdec]
      exact countsOver_onMalformed (s := { s with stats := s.stats.received bytes.length })
        (wf.with_stats _) err
  | connectionEnded | connectionFailed => exact countsOver_terminate s _
  | sent f => exact .refl s

theorem countsOver_after {role : Role} {config : Config} (h : Reachable role config s)
    (es : List Event) : CountsOver (s.lateRsts es) s (s.after es) := by
  induction es generalizing s with
  | nil => exact .refl s
  | cons e es ih => exact (countsOver_step h.wellFormed e).trans (ih (h.step e))

/-- The counter of aborted streams is the number of those that were aborted, other than by the end
of the session, and of the RSTs that came for a stream which had closed. -/
theorem streamsReset_after (role : Role) (config : Config) (es : List Event) :
    ((make role config).after es).stats.streamsReset =
      ((make role config).after es).resetStreams + (make role config).lateRsts es := by
  have h : CountsOver _ (make role config) _ := countsOver_after .start es
  unfold CountsOver at h
  have hcount : (make role config).stats.streamsReset = 0 := rfl
  have hstreams : (make role config).resetStreams = 0 := rfl
  omega

/-- Stream 2 has closed in both directions, and four bytes of it are unread, when an RST comes. -/
def closedThenRst : List Event :=
  [.message (Frame.syn 2).encode, .call (.accept 0),
    .message (Frame.data 2 [107, 101, 101, 112]).encode,
    .call (.closeWrite 2), .message (Frame.fin 2).encode, .message (Frame.rst 2).encode]

/-- One stream is counted and none was aborted. -/
theorem streamsReset_of_closedThenRst :
    ((make .client .default).after closedThenRst).stats.streamsReset = 1 ∧
      ((make .client .default).after closedThenRst).resetStreams = 0 ∧
      ∀ st ∈ ((make .client .default).after closedThenRst).streams, st.phase = .closed := by
  refine ⟨rfl, rfl, ?_⟩
  decide

end Session
end StreamMux

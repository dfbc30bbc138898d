/-
What the connection of a session takes: the frames that the session queued, whole
and in order, up to some point, however the connection stalls and fails and
whenever the session ends. That the writer gives up waiting for a frame when the
session ends costs nothing: the frame stays in its slot, before all others.

And if the connection takes frames again in time, it gets all of them, and is
closed behind the last.
-/
import StreamMux.Proofs.EndpointRun
import StreamMux.Proofs.Teardown

namespace StreamMux

namespace Writer

/-- The frames that the connection has taken. -/
def delivered (effects : List Effect) : List Frame :=
  effects.filterMap fun
    | .delivered f _ => some f
    | _ => none

variable {w w' : Writer} {out : Outlet} {ended : Bool} {now : Nat} {effects effects' : List Effect}

@[simp] theorem delivered_append :
    delivered (effects ++ effects') = delivered effects ++ delivered effects' :=
  List.filterMap_append

@[simp] theorem pending_enqueue (frames : List Frame) :
    (w.enqueue frames).pending = w.pending ++ frames := by
  simp [pending, enqueue, inHand]

@[simp] theorem inHand_enqueue (frames : List Frame) : (w.enqueue frames).inHand = w.inHand := rfl

@[simp] theorem phase_enqueue (frames : List Frame) : (w.enqueue frames).phase = w.phase := rfl

/-- As long as the connection is not let go of, a frame that leaves the queue or the slot
has been taken by the connection. -/
theorem Turn.delivered_pending (h : w.Turn out ended now w' effects) (hp : w'.phase ≠ .finished) :
    delivered effects ++ w'.pending = w.pending := by
  cases h with
  | load _ hs hq => simp [delivered, pending, inHand, Writer.load, hs, hq]
  | deliver _ hs => simp [delivered, pending, inHand, hs]
  | drain _ _ hs => simp [delivered, pending, inHand, hs]
  | broke | abandoned | closed => exact absurd rfl hp

/-- The last move delivers nothing, and closes the connection only if nothing is left. -/
theorem Turn.of_finished (h : w.Turn out ended now w' effects) (hp : w'.phase = .finished) :
    delivered effects = [] ∧ w'.inHand = [] ∧ (.closed ∈ effects → w.pending = []) := by
  cases h with
  | load hlive | deliver hlive => exact absurd hp hlive
  | drain => cases hp
  | broke | abandoned => exact ⟨rfl, rfl, by simp⟩
  | closed _ hall => exact ⟨rfl, rfl, fun _ => hall⟩

/-- The connection is closed only in a last move. -/
theorem Turn.closed_cases (h : w.Turn out ended now w' effects) (hc : .closed ∈ effects) :
    w'.phase = .finished := by
  cases h with
  | closed => rfl
  | _ => simp at hc

theorem Turn.phase_ne (h : w.Turn out ended now w' effects) : w.phase ≠ .finished := by
  cases h with
  | load hlive | deliver hlive => exact hlive
  | drain hp | broke hp | abandoned hp | closed hp => simp [hp]

/-- The writer stops running only over the end of the session, or ends the session over it. -/
theorem Turn.running_cases (h : w.Turn out ended now w' effects) (hp : w'.phase ≠ .running) :
    w.phase ≠ .running ∨ ended = true ∨ ∃ text, out.send = .failed text ∧
      effects = [.broke text] := by
  cases h with
  | load | deliver => exact .inl hp
  | drain _ he => exact .inr (.inl he)
  | broke _ hf => exact .inr (.inr ⟨_, hf, rfl⟩)
  | abandoned hd | closed hd => exact .inl (by simp [hd])

/-- Two moves for each frame that is left, one to learn that the session has ended, and one to
close. -/
theorem work_le (w : Writer) : w.work ≤ 2 * w.pending.length + 2 := by
  have hhand : w.inHand.length = if w.slot.isSome then 1 else 0 := by
    rw [inHand]
    cases w.slot <;> rfl
  simp only [work, pending, List.length_append, hhand]
  cases w.phase with
  | running | draining | finished => simp only []; omega

end Writer

namespace Endpoint

open Writer (delivered)

variable {e : Endpoint} {m : Move} {queued : List Frame} {effects : List Writer.Effect}
  {start : Nat}

/-! ## In order -/

/-- An end of a connection, behind moves that queued these frames and had these effects. -/
structure Orderly (queued : List Frame) (effects : List Writer.Effect) (e : Endpoint) : Prop where
  /-- Until the connection is let go of, a frame that was queued was taken or is still here. -/
  whole : e.writer.phase ≠ .finished → delivered effects ++ e.writer.pending = queued
  /-- The frame in the slot is the next that was queued. -/
  part : delivered effects ++ e.writer.inHand <+: queued
  /-- The writer goes on until the session has ended. -/
  ended : e.writer.phase ≠ .running → e.session.ended ≠ none
  /-- The connection is closed only behind the last frame. -/
  closed : .closed ∈ effects → e.writer.phase = .finished ∧ delivered effects = queued

theorem Orderly.react (h : e.Orderly queued effects) (wf : e.session.WellFormed)
    (event : Session.Event) :
    (e.react event).state.Orderly (queued ++ (e.react event).queued) effects := by
  have hturn := Session.turn_of_step wf event
  have hnone (hended : e.session.ended ≠ none) : (e.session.step event).frames = [] :=
    hturn.frames_of_ended wf hended
  simp only [Endpoint.react, settle]
  refine ⟨fun hp => ?_, h.part.trans (List.prefix_append _ _),
    fun hp => hturn.ended_of_ended (h.ended hp), fun hc => ?_⟩
  · rw [Writer.pending_enqueue, ← List.append_assoc, h.whole hp]
  · -- Behind the end of the connection nothing more is queued.
    obtain ⟨hp, hall⟩ := h.closed hc
    rw [hnone (h.ended (by simp [hp])), List.append_nil]
    exact ⟨hp, hall⟩

theorem Orderly.write (h : e.Orderly queued effects) (wf : e.session.WellFormed) (out : Outlet)
    (now : Nat) :
    (e.step (.write out now)).state.Orderly (queued ++ (e.step (.write out now)).queued)
      (effects ++ (e.step (.write out now)).effects) := by
  cases hstep : e.writer.step out e.session.isClosed now with
  | none =>
    simp only [step, hstep, List.append_nil]
    exact h
  | some moved =>
    obtain ⟨w, more⟩ := moved
    have hturn := Writer.turn_of_step hstep
    -- The writer moves, so it has not let go of the connection before, and nothing is missing yet.
    have hlive := h.whole hturn.phase_ne
    have hopen : .closed ∉ effects := fun hc => hturn.phase_ne (h.closed hc).1
    rw [step_write hstep, List.append_nil]
    refine ⟨fun hp => ?_, ?_, fun hp => ?_, fun hc => ?_⟩
    · rw [Writer.delivered_append, List.append_assoc, hturn.delivered_pending hp]
      exact hlive
    · rw [Writer.delivered_append, List.append_assoc, ← hlive]
      by_cases hp : w.phase = .finished
      · obtain ⟨hnone, hhand, -⟩ := hturn.of_finished hp
        rw [hnone, hhand]
        simp
      · rw [← hturn.delivered_pending hp, Writer.pending, ← List.append_assoc (delivered more)]
        exact List.prefix_append_right_inj _ |>.mpr (List.prefix_append _ _)
    · rcases hturn.running_cases hp with hbefore | hended | ⟨text, -, rfl⟩
      · exact (Session.framesOf_of_ended wf (h.ended hbefore)).2
      · exact (Session.framesOf_of_ended wf (Session.isClosed_iff.mp hended)).2
      · show ((e.session.terminate _).state).ended ≠ none
        simp only [Session.terminate]
        split
        next hended => simp [hended]
        next => simp
    · have hnow : .closed ∈ more := (List.mem_append.mp hc).resolve_left hopen
      have hp := hturn.closed_cases hnow
      obtain ⟨hnone, -, hall⟩ := hturn.of_finished hp
      rw [hall hnow, List.append_nil] at hlive
      exact ⟨hp, by rw [Writer.delivered_append, hnone, List.append_nil, hlive]⟩

theorem Orderly.giveUp (h : e.Orderly queued effects) (since now : Nat) :
    (e.step (.giveUp since now)).state.Orderly (queued ++ (e.step (.giveUp since now)).queued)
      (effects ++ (e.step (.giveUp since now)).effects) := by
  simp only [step]
  split
  next hgives =>
    simp only [Bool.and_eq_true, decide_eq_true_eq] at hgives
    obtain ⟨⟨hended, hlive⟩, -⟩ := hgives
    refine ⟨fun hp => absurd rfl hp, ?_, fun _ => Session.isClosed_iff.mp hended, fun hc => ?_⟩
    · have hpart := (List.prefix_append _ _).trans h.part
      simpa [delivered, Writer.inHand, Endpoint.giveUp, Writer.finish] using hpart
    · have hbefore : .closed ∈ effects := by simpa using hc
      exact absurd (h.closed hbefore).1 hlive
  next =>
    rw [List.append_nil, List.append_nil]
    exact h

theorem Orderly.step (h : e.Orderly queued effects) (wf : e.session.WellFormed) (m : Move) :
    (e.step m).state.Orderly (queued ++ (e.step m).queued) (effects ++ (e.step m).effects) := by
  rcases step_cases e m with ⟨event, hreact⟩ | ⟨out, now, rfl⟩ | ⟨since, now, rfl⟩
  · rw [hreact, react_effects, List.append_nil]
    exact h.react wf event
  · exact h.write wf out now
  · exact h.giveUp since now

/-- Every end that can be met is orderly. -/
theorem orderly (role : Role) (config : Config) (moves : List Move) :
    ((make (.make role config)).after moves).Orderly ((make (.make role config)).queuedBy moves)
      ((make (.make role config)).effectsOf moves) := by
  induction moves using List.reverseRecOn with
  | nil => exact ⟨fun _ => rfl, List.prefix_rfl, fun hp => absurd rfl hp, fun hc => nomatch hc⟩
  | append_singleton moves m ih =>
    rw [after_concat, queuedBy_concat, effectsOf_concat]
    exact ih.step (wellFormed_after role config moves) m

/-- The messages are the frames that the connection has taken. -/
theorem messagesOf_eq (moves : List Move) :
    e.messagesOf moves = (delivered (e.effectsOf moves)).map Frame.encode := by
  simp only [messagesOf, delivered, List.map_filterMap]
  congr 1
  funext effect
  cases effect <;> rfl

/-! ## To the end -/

/-- The connection fails as the writer turns to it. -/
def Move.Fails : Move → Prop
  | .write out _ => (∃ text, out.send = .failed text) ∨ ∃ text, out.close = .failed text
  | _ => False

/-- Nobody's time is up yet, if the session ended at `start`. -/
def Move.Timely (start : Nat) : Move → Prop
  | .write _ now => start ≤ now ∧ now < start + closeGrace
  | .giveUp since now => start ≤ since ∧ now < start + closeGrace
  | _ => True

/-- The connection takes a frame if there is one. -/
def Move.takes : Move → Bool
  | .write out _ => out.send = .done
  | _ => false

/-- The connection lets itself be closed if there is nothing to take. -/
def Move.closes : Move → Bool
  | .write out _ => out.close = .done
  | _ => false

/-- An end whose session has ended at `start`, and whose writer has time left or has closed the
connection. -/
structure Closing (start : Nat) (effects : List Writer.Effect) (e : Endpoint) : Prop where
  ended : e.session.ended ≠ none
  deadline : ∀ deadline, e.writer.phase = .draining deadline → start + closeGrace ≤ deadline
  last : e.writer.phase = .finished → effects.getLast? = some .closed

theorem wellFormed_step (wf : e.session.WellFormed) (m : Move) :
    (e.step m).state.session.WellFormed := by
  rw [(session_step m).1]
  exact wf.after _

theorem ended_step (wf : e.session.WellFormed) (hended : e.session.ended ≠ none) (m : Move) :
    (e.step m).state.session.ended ≠ none := by
  rw [(session_step m).1]
  exact (Session.framesOf_of_ended wf hended).2

theorem ended_after {moves : List Move} (wf : e.session.WellFormed)
    (hended : e.session.ended ≠ none) : (e.after moves).session.ended ≠ none := by
  rw [session_after]
  exact (Session.framesOf_of_ended wf hended).2

/-- An event leaves the writer of an ended session alone. -/
theorem react_writer (wf : e.session.WellFormed) (hended : e.session.ended ≠ none)
    (event : Session.Event) : (e.react event).state.writer = e.writer := by
  simp only [Endpoint.react, settle, (Session.turn_of_step wf event).frames_of_ended wf hended,
    enqueue_nil]

theorem Closing.write {out : Outlet} {now : Nat} (h : e.Closing start effects)
    (wf : e.session.WellFormed)
    (hm : ¬ (Move.write out now).Fails) (ht : (Move.write out now).Timely start) :
    (e.step (.write out now)).state.Closing start (effects ++
      (e.step (.write out now)).effects) := by
  have hended := ended_step wf h.ended (.write out now)
  obtain ⟨hstart, hnow⟩ := ht
  cases hstep : e.writer.step out e.session.isClosed now with
  | none =>
    simp only [Endpoint.step, hstep, List.append_nil]
    exact h
  | some moved =>
    obtain ⟨w, more⟩ := moved
    rw [step_write hstep] at hended ⊢
    have hturn := Writer.turn_of_step hstep
    refine ⟨hended, fun deadline hp => ?_, fun hp => ?_⟩
    · cases hturn with
      | load | deliver => exact h.deadline deadline hp
      | drain => cases hp; omega
      | broke | abandoned | closed => cases hp
    · cases hturn with
      | load hlive | deliver hlive => exact absurd hp hlive
      | drain => cases hp
      | broke _ hf => exact absurd (.inl ⟨_, hf⟩) hm
      | abandoned hd hwhy =>
        rcases hwhy with ⟨text, hf | hf⟩ | hlate
        · exact absurd (.inl ⟨text, hf⟩) hm
        · exact absurd (.inr ⟨text, hf⟩) hm
        · have := h.deadline _ hd
          omega
      | closed => simp

theorem Closing.step (h : e.Closing start effects) (wf : e.session.WellFormed) (hm : ¬ m.Fails)
    (ht : m.Timely start) : (e.step m).state.Closing start (effects ++ (e.step m).effects) := by
  rcases step_cases e m with ⟨event, hreact⟩ | ⟨out, now, rfl⟩ | ⟨since, now, rfl⟩
  · have hended := ended_step wf h.ended m
    have hwriter := react_writer wf h.ended event
    rw [hreact] at hended ⊢
    rw [react_effects, List.append_nil]
    exact ⟨hended, by rw [hwriter]; exact h.deadline, by rw [hwriter]; exact h.last⟩
  · exact h.write wf hm ht
  · obtain ⟨hstart, hnow⟩ := ht
    have hearly : ¬ since + closeGrace ≤ now := by omega
    simp only [Endpoint.step, hearly, decide_false, Bool.and_false, Bool.false_eq_true, if_false,
      List.append_nil]
    exact h

/-- A writer that has finished does nothing any more. -/
theorem step_of_finished (wf : e.session.WellFormed) (hended : e.session.ended ≠ none)
    (hp : e.writer.phase = .finished) : (e.step m).state.writer.phase = .finished ∧
    (e.step m).effects = [] := by
  rcases step_cases e m with ⟨event, hreact⟩ | ⟨out, now, rfl⟩ | ⟨since, now, rfl⟩
  · rw [hreact, react_writer wf hended]
    exact ⟨hp, rfl⟩
  · have hnone : e.writer.step out e.session.isClosed now = none := by rw [Writer.step, hp]
    simp [step, hnone, hp]
  · simp [step, hp]

theorem after_of_finished {moves : List Move} (wf : e.session.WellFormed)
    (hended : e.session.ended ≠ none)
    (hp : e.writer.phase = .finished) : (e.after moves).writer.phase = .finished ∧
    e.effectsOf moves = [] := by
  induction moves generalizing e with
  | nil => exact ⟨hp, rfl⟩
  | cons m moves ih =>
    obtain ⟨hstep, hnow⟩ := step_of_finished (m := m) wf hended hp
    obtain ⟨hlast, hlater⟩ := ih (wellFormed_step wf m) (ended_step wf hended m) hstep
    exact ⟨hlast, by rw [effectsOf, hnow, hlater, List.append_nil]⟩

/-- Every move at which the connection takes frames brings the writer of an ended session
nearer to having nothing left but to close. -/
theorem work_step (wf : e.session.WellFormed) (hended : e.session.ended ≠ none) (m : Move) :
    (e.step m).state.writer.phase = .finished ∨
      (e.step m).state.writer.work ≤ max 1 (e.writer.work - if m.takes then 1 else 0) := by
  cases m with
  | call | message | connectionEnded | connectionFailed =>
    exact .inr ((Nat.le_of_eq (congrArg Writer.work (react_writer wf hended _))).trans
      (Nat.le_max_right _ _))
  | write out now =>
    cases hstep : e.writer.step out e.session.isClosed now with
    | none =>
      simp only [step, hstep, Move.takes, decide_eq_true_eq]
      by_cases hwaits : e.writer.phase = .finished ∨ e.writer.work ≤ 1
      · exact hwaits.imp_right fun hone => hone.trans (Nat.le_max_left _ _)
      · -- A writer that has frames to deliver waits only for a connection that takes none.
        obtain ⟨hp, hleft⟩ := not_or.mp hwaits
        rw [Session.isClosed_iff.mpr hended] at hstep
        have hblocked : out.send ≠ .done :=
          fun hsend => Writer.step_of_takes hp hsend (Nat.lt_of_not_le hleft) hstep
        rw [if_neg hblocked]
        exact .inr (Nat.le_max_right _ _)
    | some moved =>
      obtain ⟨w, more⟩ := moved
      have hless : w.work < e.writer.work := Writer.work_lt_of_step hstep
      rw [step_write hstep]
      right
      show w.work ≤ _
      split <;> omega
  | giveUp since now =>
    simp only [step]
    split
    · exact .inl rfl
    · exact .inr (Nat.le_max_right _ _)

theorem work_after {flushing : List Move} (wf : e.session.WellFormed)
    (hended : e.session.ended ≠ none) : (e.after flushing).writer.phase = .finished ∨
      (e.after flushing).writer.work ≤ max 1 (e.writer.work - flushing.countP Move.takes) := by
  induction flushing generalizing e with
  | nil => exact .inr (Nat.le_max_right _ _)
  | cons m flushing ih =>
    have wf' := wellFormed_step wf m
    have hended' := ended_step wf hended m
    show (((e.step m).state.after flushing).writer.phase = _) ∨
      ((e.step m).state.after flushing).writer.work ≤ _
    rw [List.countP_cons]
    rcases work_step wf hended m with hp | hless
    · exact .inl (after_of_finished wf' hended' hp).1
    · exact (ih wf' hended').imp_right fun hlater => by omega

/-- A writer that has nothing left but to close goes on waiting until it can. -/
theorem step_of_waiting (wf : e.session.WellFormed) (hended : e.session.ended ≠ none)
    (hleft : e.writer.phase = .finished ∨ e.writer.work ≤ 1) (m : Move) :
    (e.step m).state.writer.phase = .finished ∨ (e.step m).state.writer.work ≤ 1 ∧
      m.closes = false := by
  by_cases hp : e.writer.phase = .finished
  · exact .inl (step_of_finished wf hended hp).1
  have hone := hleft.resolve_left hp
  cases hc : m.closes with
  | false =>
    refine (work_step wf hended m).imp_right fun hless => ⟨?_, rfl⟩
    omega
  | true =>
    cases m with
    | write out now =>
      have hstep : e.writer.step out e.session.isClosed now = some (e.writer.finish, [.closed]) :=
        Writer.step_of_closes hp (of_decide_eq_true hc) hone
      rw [step_write hstep]
      exact .inl rfl
    | call | message | connectionEnded | connectionFailed | giveUp => cases hc

/-- A writer that has nothing left but to close finishes when the connection lets itself be
closed. -/
theorem finished_of_closes {closing : List Move} (wf : e.session.WellFormed)
    (hended : e.session.ended ≠ none)
    (hleft : e.writer.phase = .finished ∨ e.writer.work ≤ 1) (hcloses : ∃ m ∈ closing, m.closes) :
    (e.after closing).writer.phase = .finished := by
  induction closing generalizing e with
  | nil => obtain ⟨_, hm, -⟩ := hcloses; cases hm
  | cons m closing ih =>
    have wf' := wellFormed_step wf m
    have hended' := ended_step wf hended m
    show ((e.step m).state.after closing).writer.phase = _
    rcases step_of_waiting wf hended hleft m with hp | ⟨hleft', hm⟩
    · exact (after_of_finished wf' hended' hp).1
    · obtain ⟨x, hx, hc⟩ := hcloses
      refine ih wf' hended' (.inr hleft') ⟨x, (List.mem_cons.mp hx).resolve_left fun hxm => ?_, hc⟩
      rw [hxm, hm] at hc
      cases hc

theorem Closing.after {within : List Move} (h : e.Closing start effects) (wf : e.session.WellFormed)
    (hm : ∀ m ∈ within, ¬ m.Fails) (ht : ∀ m ∈ within, m.Timely start) :
    (e.after within).Closing start (effects ++ e.effectsOf within) := by
  induction within generalizing e effects with
  | nil => rw [effectsOf, List.append_nil]; exact h
  | cons m within ih =>
    rw [List.forall_mem_cons] at hm ht
    rw [effectsOf, ← List.append_assoc]
    exact ih (h.step wf hm.1 ht.1) (wellFormed_step wf m) hm.2 ht.2

/-- All that happens to the connection ends with its being closed. -/
theorem Closing.closes {flushing closing : List Move} (h : e.Closing start effects)
    (wf : e.session.WellFormed)
    (hm : ∀ m ∈ flushing ++ closing, ¬ m.Fails) (ht : ∀ m ∈ flushing ++ closing, m.Timely start)
    (htakes : 2 * e.writer.pending.length + 1 ≤ flushing.countP Move.takes)
    (hcloses : ∃ m ∈ closing, m.closes)
    (rest : List Move) : (effects ++ e.effectsOf (flushing ++ closing ++ rest)).getLast? =
    some .closed := by
  have hclosing := h.after wf hm ht
  have wfAfter (moves : List Move) : (e.after moves).session.WellFormed := by
    rw [session_after]; exact wf.after _
  have hflushed : (e.after flushing).writer.phase = .finished ∨
      (e.after flushing).writer.work ≤ 1 := by
    have hmost := e.writer.work_le
    exact (work_after wf h.ended).imp_right fun hless => by omega
  have hfinished : (e.after (flushing ++ closing)).writer.phase = .finished := by
    rw [after_append]
    exact finished_of_closes (wfAfter flushing) (ended_after wf h.ended) hflushed hcloses
  rw [effectsOf_append, (after_of_finished (wfAfter _) hclosing.ended hfinished).2, List.append_nil]
  exact hclosing.last hfinished

/-- The move that ends the session leaves the writer running, unless the connection failed. -/
theorem Orderly.closing (h : e.Orderly queued effects) (hopen : e.session.ended = none)
    (hended : (e.step m).state.session.ended ≠ none) (hm : ¬ m.Fails) :
    (e.step m).state.Closing start (effects ++ (e.step m).effects) := by
  have hrunning : e.writer.phase = .running := Decidable.byContradiction fun hp => h.ended hp hopen
  have hp : (e.step m).state.writer.phase = .running := by
    rcases step_cases e m with ⟨event, hreact⟩ | ⟨out, now, rfl⟩ | ⟨since, now, rfl⟩
    · rw [hreact]
      exact hrunning
    · cases hstep : e.writer.step out e.session.isClosed now with
      | none => simpa only [Endpoint.step, hstep] using hrunning
      | some moved =>
        obtain ⟨w, more⟩ := moved
        rw [step_write hstep]
        refine Decidable.byContradiction fun hp => ?_
        rcases (Writer.turn_of_step hstep).running_cases hp with hbefore | hclosed | ⟨text, hf, -⟩
        · exact hbefore hrunning
        · exact Session.isClosed_iff.mp hclosed hopen
        · exact hm (.inl ⟨text, hf⟩)
    · have hclosed : e.session.isClosed = false := by simp [Session.isClosed, hopen]
      simpa [Endpoint.step, hclosed] using hrunning
  exact ⟨hended, fun deadline hd => by simp [hp] at hd, fun hf => by simp [hp] at hf⟩

/-- The connection takes the encoded frames that the session queued, whole and in order, up to
some point, and the frame in the writer's hand is always the next. Take a run in which the
session ends at `start` and the connection does not fail from then on, but while nobody's time
is up takes all that is left, and then lets itself be closed; it takes one move of the writer to
learn of the end, and two for each frame, to take it up and to deliver it. Then all frames are
delivered, and the last that happens to the connection is that it is closed. -/
theorem sent_in_order (role : Role) (config : Config) (moves : List Move) :
    (make (.make role config)).messagesOf moves ++
        ((make (.make role config)).after moves).writer.inHand.map Frame.encode <+:
      ((make (.make role config)).queuedBy moves).map Frame.encode ∧
    ∀ before m flushing closing rest start, moves = before ++ m :: (flushing ++ closing) ++ rest →
      ((make (.make role config)).after before).session.ended = none →
      ((make (.make role config)).after (before ++ [m])).session.ended ≠ none →
      (∀ x ∈ m :: (flushing ++ closing), ¬ x.Fails) → (∀ x ∈ flushing ++ closing, x.Timely start) →
      2 * ((make (.make role config)).after (before ++ [m])).writer.pending.length + 1 ≤
        flushing.countP Move.takes →
      (∃ x ∈ closing, x.closes) →
      (make (.make role config)).messagesOf moves =
        ((make (.make role config)).queuedBy moves).map Frame.encode ∧
        ((make (.make role config)).effectsOf moves).getLast? = some .closed := by
  constructor
  · rw [messagesOf_eq, ← List.map_append]
    exact (orderly role config moves).part.map _
  · rintro before m flushing closing rest start rfl hopen hended hm ht htakes hcloses
    rw [List.forall_mem_cons] at hm
    have wf := wellFormed_after role config (before ++ [m])
    have hclosing : ((make (.make role config)).after (before ++ [m])).Closing start
        ((make (.make role config)).effectsOf (before ++ [m])) := by
      rw [after_concat] at hended ⊢
      rw [effectsOf_concat]
      exact (orderly role config before).closing hopen hended hm.1
    have hlast := hclosing.closes wf hm.2 ht htakes hcloses rest
    rw [← effectsOf_append] at hlast
    rw [show before ++ m :: (flushing ++ closing) ++ rest = before ++ [m] ++
      (flushing ++ closing ++ rest) by simp]
    have hall := ((orderly role config _).closed (List.mem_of_getLast? hlast)).2
    exact ⟨by rw [messagesOf_eq, hall], hlast⟩

/-- A stream is opened and written to, and its SYN is on its way out. -/
def caughtSending : List Move :=
  [.call .openStream, .call (.write 1 [7, 8] false), .write ⟨.done, .done⟩ 0]

/-- The connection stalls as the session ends, and takes frames again a second later. -/
def unstalled : List Move :=
  .write ⟨.blocked, .blocked⟩ 10 :: List.replicate 5 (.write ⟨.done, .blocked⟩ 1010)

theorem sent_in_order_of_stalled :
    (make (.make .client ⟨4, 4, 50, 1⟩)).messagesOf
        (caughtSending ++ .call .close :: (unstalled ++ [.write ⟨.blocked, .done⟩ 1020]) ++ []) =
        [Frame.syn 1, Frame.data 1 [7, 8]].map Frame.encode ∧
      ((make (.make .client ⟨4, 4, 50, 1⟩)).effectsOf
        (caughtSending ++ .call .close :: (unstalled ++ [.write ⟨.blocked, .done⟩ 1020]) ++
          [])).getLast? = some .closed :=
  (sent_in_order .client ⟨4, 4, 50, 1⟩ _).2 caughtSending (.call .close) unstalled
    [.write ⟨.blocked, .done⟩ 1020] [] 10
    rfl rfl (by decide) (by simp [unstalled, Move.Fails])
      (by simp [unstalled, Move.Timely, closeGrace]) (by decide)
    ⟨_, List.mem_singleton_self _, rfl⟩

end Endpoint
end StreamMux

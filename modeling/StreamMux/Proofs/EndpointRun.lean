/-
A session with its sending half, move by move. `Writer.Turn` lists what one move
of the writer can do, with its guards. To the session a move is a sequence of
events, so every run of an endpoint is one of its session (`session_after`), and
what holds of sessions holds of it.
-/
import StreamMux.Endpoint
import StreamMux.Proofs.History

namespace StreamMux

namespace Writer

/-- The frame that is on its way into the connection. -/
def inHand (w : Writer) : List Frame := (w.slot.map (·.frame)).toList

/-- The frames that the connection has not taken, the next one first. -/
def pending (w : Writer) : List Frame := w.inHand ++ w.queue

/-- What one move of the writer can do: the writer afterwards, and the effects. -/
inductive Turn (w : Writer) (out : Outlet) (ended : Bool) (now : Nat) : Writer → List Effect → Prop
  | load {f rest} : w.phase ≠ .finished → w.slot = none → w.queue = f :: rest →
    Turn w out ended now (w.load f rest) []
  | deliver {slot counted} : w.phase ≠ .finished → w.slot = some slot → out.send = .done →
    Turn w out ended now { w with slot := none } [.delivered slot.frame counted]
  /-- The session has ended. A frame in the slot stays there and is awaited no more. -/
  | drain {slot} : w.phase = .running → ended = true → slot.map (·.frame) = w.slot.map (·.frame) →
    Turn w out ended now { w with slot, phase := .draining (now + closeGrace) } []
  | broke {text} : w.phase = .running → out.send = .failed text →
    Turn w out ended now w.finish [.broke text]
  | abandoned {deadline why} : w.phase = .draining deadline →
    (∃ text, out.send = .failed text ∨ out.close = .failed text) ∨ deadline ≤ now →
    Turn w out ended now w.finish [.abandoned why]
  | closed {deadline} : w.phase = .draining deadline → w.pending = [] → out.close = .done →
    Turn w out ended now w.finish [.closed]

variable {w w' : Writer} {out : Outlet} {ended : Bool} {now deadline : Nat} {effects : List Effect}

theorem turn_of_stepRunning (hp : w.phase = .running)
    (h : w.stepRunning out ended now = some (w', effects)) :
    w.Turn out ended now w' effects := by
  have hlive : w.phase ≠ .finished := by simp [hp]
  simp only [stepRunning] at h
  split at h
  next slot hs =>
    split at h
    next hd => cases h; exact .deliver hlive hs hd
    next hf => cases h; exact .broke hp hf
    next =>
      split at h
      next he => cases h; exact .drain hp he (by rw [hs]; rfl)
      next => cases h
  next hs =>
    split at h
    next hq => cases h; exact .load hlive hs hq
    next hq =>
      split at h
      next he => cases h; exact .drain hp he rfl
      next => cases h

theorem turn_of_waitUntil (hp : w.phase = .draining deadline)
    (h : w.waitUntil deadline now = some (w', effects)) :
    w.Turn out ended now w' effects := by
  simp only [waitUntil] at h
  split at h
  next hlate => cases h; exact .abandoned hp (.inr hlate)
  next => cases h

theorem turn_of_stepDraining (hp : w.phase = .draining deadline)
    (h : w.stepDraining out deadline now = some (w', effects)) :
    w.Turn out ended now w' effects := by
  have hlive : w.phase ≠ .finished := by simp [hp]
  simp only [stepDraining] at h
  split at h
  next slot hs =>
    split at h
    next hd => cases h; exact .deliver hlive hs hd
    next text hf => cases h; exact .abandoned hp (.inl ⟨text, .inl hf⟩)
    next => exact turn_of_waitUntil hp h
  next hs =>
    split at h
    next hq => cases h; exact .load hlive hs hq
    next hq =>
      split at h
      next hc => cases h; exact .closed hp (by simp [pending, inHand, hs, hq]) hc
      next text hf => cases h; exact .abandoned hp (.inl ⟨text, .inr hf⟩)
      next => exact turn_of_waitUntil hp h

/-- Whatever the writer does is one of the turns. -/
theorem turn_of_step (h : w.step out ended now = some (w', effects)) :
    w.Turn out ended now w' effects := by
  simp only [step] at h
  split at h
  next hp => exact turn_of_stepRunning hp h
  next hp => exact turn_of_stepDraining hp h
  next => cases h

/-- A writer that has more to do than to close the connection does not wait for one that
takes frames, once the session has ended. -/
theorem step_of_takes (hp : w.phase ≠ .finished) (hsend : out.send = .done) (hleft : 1 < w.work) :
    w.step out true now ≠ none := by
  simp only [step, stepRunning, stepDraining, hsend]
  split
  · split
    · simp
    · split <;> simp
  next hd =>
    split
    · simp
    next hs =>
      split
      · simp
      next hq => simp [work, hd, hs, hq] at hleft
  next hf => exact absurd hf hp

/-- A writer that has nothing else to do closes a connection that lets itself be closed. -/
theorem step_of_closes (hp : w.phase ≠ .finished) (hclose : out.close = .done)
    (hleft : w.work ≤ 1) : w.step out ended now = some (w.finish, [.closed]) := by
  cases h : w.phase with
  | running => simp [work, h] at hleft
  | draining deadline =>
    have hs : w.slot = none := by
      cases hs : w.slot with
      | none => rfl
      | some slot => simp [work, h, hs] at hleft
    have hq : w.queue = [] := by
      cases hq : w.queue with
      | nil => rfl
      | cons => simp [work, h, hq] at hleft
    simp only [step, h, stepDraining, hs, hq, hclose]
  | finished => exact absurd h hp

/-- What an effect of the writer is to its session. -/
def Effect.event? : Effect → Option Session.Event
  | .delivered f counted => if counted then some (.sent f) else none
  | .broke text => some (.connectionFailed text)
  | .closed | .abandoned _ => none

end Writer

namespace Endpoint

/-- What a move is to the session. -/
def events (e : Endpoint) : Move → List Session.Event
  | .call c => [.call c]
  | .message bytes => [.message bytes]
  | .connectionEnded => [.connectionEnded]
  | .connectionFailed text => [.connectionFailed text]
  | .write out now => (e.step (.write out now)).effects.filterMap Writer.Effect.event?
  | .giveUp _ _ => []

/-- What a sequence of moves is to the session. -/
def eventsOf (e : Endpoint) : List Move → List Session.Event
  | [] => []
  | m :: rest => e.events m ++ eventsOf (e.step m).state rest

variable {e : Endpoint} {m : Move} {moves moves' : List Move} {effects : List Writer.Effect}

@[simp] theorem enqueue_nil (w : Writer) : w.enqueue [] = w := by simp [Writer.enqueue]

/-- What the session learns of an effect leaves the writer alone. -/
theorem learn_eq (effect : Writer.Effect) :
    (e.learn effect).1 = { e with session := e.session.after effect.event?.toList } := by
  cases effect with
  | delivered f counted => cases counted <;> rfl
  | broke text =>
    have hframes : (e.session.connectionFailed text).frames = [] := Session.terminate_frames
    simp only [learn, settle, hframes, enqueue_nil]
    rfl
  | closed | abandoned => rfl

theorem learnAll_eq (effects : List Writer.Effect) :
    (e.learnAll effects).1 =
      { e with session := e.session.after (effects.filterMap Writer.Effect.event?) } := by
  induction effects generalizing e with
  | nil => rfl
  | cons effect rest ih =>
    show ((e.learn effect).1.learnAll rest).1 = _
    rw [ih, learn_eq]
    cases h : effect.event? <;> simp [h, Session.after]

/-- A move of the writer, if it can make one. -/
theorem step_write {out : Outlet} {now : Nat} {w : Writer}
    (h : e.writer.step out e.session.isClosed now = some (w, effects)) :
    e.step (.write out now) =
      { state := ⟨e.session.after (effects.filterMap Writer.Effect.event?), w⟩, effects } := by
  simp only [step, h, learnAll_eq]

theorem framesOf_effects (s : Session) (effects : List Writer.Effect) :
    s.framesOf (effects.filterMap Writer.Effect.event?) = [] := by
  induction effects generalizing s with
  | nil => rfl
  | cons effect rest ih =>
    cases effect with
    | delivered f counted => cases counted <;> exact ih _
    | broke text =>
      show (s.terminate _).frames ++ _ = []
      rw [Session.terminate_frames, List.nil_append]
      exact ih _
    | closed | abandoned => exact ih _

/-- A move does to the session what its events do. -/
theorem session_step (m : Move) :
    (e.step m).state.session = e.session.after (e.events m) ∧
      (e.step m).queued = e.session.framesOf (e.events m) := by
  cases m with
  | call | message | connectionEnded | connectionFailed =>
    exact ⟨rfl, by simp [step, react, events, Session.framesOf]⟩
  | write out now =>
    simp only [events]
    cases h : e.writer.step out e.session.isClosed now with
    | none => simp only [step, h]; exact ⟨rfl, rfl⟩
    | some moved =>
      rw [step_write h]
      exact ⟨rfl, (framesOf_effects _ _).symm⟩
  | giveUp since now =>
    simp only [step]
    split <;> exact ⟨rfl, rfl⟩

/-- A move is an event for the session, or one of its writer, or gives up waiting for it. -/
theorem step_cases (e : Endpoint) (m : Move) :
    (∃ event, e.step m = e.react event) ∨ (∃ out now, m = .write out now) ∨ ∃ since now,
      m = .giveUp since now := by
  cases m with
  | call | message | connectionEnded | connectionFailed => exact .inl ⟨_, rfl⟩
  | write out now => exact .inr (.inl ⟨out, now, rfl⟩)
  | giveUp since now => exact .inr (.inr ⟨since, now, rfl⟩)

@[simp] theorem react_effects (event : Session.Event) : (e.react event).effects = [] := rfl

/-! ## Sequences of moves -/

theorem after_append : e.after (moves ++ moves') = (e.after moves).after moves' := List.foldl_append

@[simp] theorem after_concat : e.after (moves ++ [m]) = ((e.after moves).step m).state :=
  after_append

theorem queuedBy_append :
    e.queuedBy (moves ++ moves') = e.queuedBy moves ++ (e.after moves).queuedBy moves' := by
  induction moves generalizing e with
  | nil => rfl
  | cons m moves ih => simp [queuedBy, ih, after]

theorem effectsOf_append :
    e.effectsOf (moves ++ moves') = e.effectsOf moves ++ (e.after moves).effectsOf moves' := by
  induction moves generalizing e with
  | nil => rfl
  | cons m moves ih => simp [effectsOf, ih, after]

@[simp] theorem queuedBy_concat :
    e.queuedBy (moves ++ [m]) = e.queuedBy moves ++ ((e.after moves).step m).queued := by
  simp [queuedBy_append, queuedBy]

@[simp] theorem effectsOf_concat :
    e.effectsOf (moves ++ [m]) = e.effectsOf moves ++ ((e.after moves).step m).effects := by
  simp [effectsOf_append, effectsOf]

/-- The session of an endpoint goes through a run of its own. -/
theorem session_after : (e.after moves).session = e.session.after (e.eventsOf moves) := by
  induction moves generalizing e with
  | nil => rfl
  | cons m moves ih =>
    show ((e.step m).state.after moves).session = _
    rw [ih, (session_step m).1, eventsOf, Session.after_append]

theorem wellFormed_after (role : Role) (config : Config) (moves : List Move) :
    ((make (.make role config)).after moves).session.WellFormed := by
  rw [session_after]
  exact Session.wellFormed_after role config _

end Endpoint

end StreamMux

/-
What the counters of sent frames say about the connection. The writer counts each frame
whose sending it sees through, and it sees all of them through but one: the frame it is
waiting for as the session ends. That one stays in the slot, and if the connection takes
it in time, it has taken one message more than the session has counted.
-/
import StreamMux.Proofs.Passed
import StreamMux.Proofs.Sending
import Mathlib.Algebra.Ring.Nat

namespace StreamMux

/-! ## The events of a session -/

namespace Session

variable {s : Session}

/-- The frames that a session learns were sent. -/
def sentFrames (events : List Event) : List Frame :=
  events.filterMap fun
    | .sent f => some f
    | _ => none

theorem step_unsent {e : Event} (hsent : ∀ f, e ≠ .sent f) :
    (s.step e).state.stats.framesSent = s.stats.framesSent ∧
      (s.step e).state.stats.bytesSent = s.stats.bytesSent := by
  by_cases hmessage : ∃ message, e = .message message
  · obtain ⟨message, rfl⟩ := hmessage
    have hpassed := message_passed (s := s) message
    simp only [passed, Prod.mk.injEq] at hpassed
    exact ⟨hpassed.1, hpassed.2.1⟩
  · have hpassed := step_passed (s := s) (fun message he => hmessage ⟨message, he⟩) hsent
    simp only [passed, Prod.mk.injEq] at hpassed
    exact ⟨hpassed.1, hpassed.2.1⟩

theorem sent_after (events : List Event) :
    (s.after events).stats.framesSent = s.stats.framesSent + (sentFrames events).length ∧
      (s.after events).stats.bytesSent = s.stats.bytesSent +
        ((sentFrames events).map Frame.encodedLength).sum := by
  induction events generalizing s with
  | nil => exact ⟨rfl, rfl⟩
  | cons e events ih =>
    obtain ⟨hframes, hbytes⟩ := ih (s := (s.step e).state)
    by_cases hsent : ∃ f, e = .sent f
    · obtain ⟨f, rfl⟩ := hsent
      refine ⟨hframes.trans ?_, hbytes.trans ?_⟩
      · show s.stats.framesSent + 1 + _ = s.stats.framesSent + ((sentFrames events).length + 1)
        omega
      · show s.stats.bytesSent + f.encodedLength + _ =
          s.stats.bytesSent + (f :: sentFrames events |>.map _).sum
        rw [List.map_cons, List.sum_cons, Nat.add_assoc]
    · have hnone : sentFrames (e :: events) = sentFrames events := by
        cases e with
        | sent f => exact absurd ⟨f, rfl⟩ hsent
        | call | message | connectionEnded | connectionFailed => rfl
      have hsame := step_unsent (s := s) fun f hf => hsent ⟨f, hf⟩
      rw [hnone, ← hsame.1, ← hsame.2]
      exact ⟨hframes, hbytes⟩

end Session

/-! ## Moves of the writer -/

namespace Writer

variable {w w' : Writer} {out : Outlet} {ended : Bool} {now : Nat} {effects effects' : List Effect}
  {f : Frame}

/-- The frames whose sending the writer has seen through. -/
def counted (effects : List Effect) : List Frame :=
  effects.filterMap fun
    | .delivered f true => some f
    | _ => none

@[simp] theorem counted_append :
    counted (effects ++ effects') = counted effects ++ counted effects' :=
  List.filterMap_append

theorem sentFrames_effects (effects : List Effect) :
    Session.sentFrames (effects.filterMap Effect.event?) = counted effects := by
  simp only [Session.sentFrames, counted, List.filterMap_filterMap]
  congr 1
  funext effect
  cases effect with
  | delivered f counted => cases counted <;> rfl
  | broke | closed | abandoned => rfl

/-- The writer gives up waiting for the frame in its slot: the session has ended, and the
connection does not take the frame now. -/
def stopsWaiting (w : Writer) (out : Outlet) (ended : Bool) : Bool :=
  ended && w.phase = .running && w.slot.isSome && out.send = .blocked

/-- The writer waits for the frame in its slot, if there is one. -/
def Awaits (w : Writer) : Prop := ∀ slot, w.slot = some slot → slot.awaited = true

/-- The slot holds a frame that the writer waits for no more. -/
def Leaves (w : Writer) (f : Frame) : Prop := w.slot = some ⟨f, false⟩ ∧ w.phase ≠ .running

theorem awaits_of_none (h : w.slot = none) : w.Awaits := fun _ hs => nomatch h ▸ hs

theorem step_of_awaits (h : w.step out ended now = some (w', effects)) (ha : w.Awaits)
    (hstop : w.stopsWaiting out ended = false) :
    w'.Awaits ∧ counted effects = delivered effects := by
  simp only [step, stepRunning, stepDraining, waitUntil] at h
  split at h
  next hp =>
    split at h
    next slot hs =>
      split at h
      next => cases h; exact ⟨awaits_of_none rfl, rfl⟩
      next => cases h; exact ⟨awaits_of_none rfl, rfl⟩
      next hb =>
        split at h
        next he => simp [stopsWaiting, hp, hs, hb, he] at hstop
        next => cases h
    next hs =>
      split at h
      next => cases h; exact ⟨fun slot hslot => by cases hslot; rfl, rfl⟩
      next =>
        split at h
        next => cases h; exact ⟨ha, rfl⟩
        next => cases h
  next deadline hp =>
    split at h
    next slot hs =>
      have hawaited := ha slot hs
      split at h
      next => cases h; exact ⟨awaits_of_none rfl, by rw [hawaited]; rfl⟩
      next => cases h; exact ⟨awaits_of_none rfl, rfl⟩
      next =>
        split at h
        next => cases h; exact ⟨awaits_of_none rfl, rfl⟩
        next => cases h
    next hs =>
      split at h
      next => cases h; exact ⟨fun slot hslot => by cases hslot; rfl, rfl⟩
      next =>
        split at h
        next => cases h; exact ⟨awaits_of_none rfl, rfl⟩
        next => cases h; exact ⟨awaits_of_none rfl, rfl⟩
        next =>
          split at h
          next => cases h; exact ⟨awaits_of_none rfl, rfl⟩
          next => cases h
  next => cases h

theorem step_of_stops (h : w.step out ended now = some (w', effects))
    (hstop : w.stopsWaiting out ended = true) :
    effects = [] ∧ ∃ f, w.inHand = [f] ∧ w'.Leaves f := by
  simp only [stopsWaiting, Bool.and_eq_true, decide_eq_true_eq] at hstop
  obtain ⟨⟨⟨he, hp⟩, hsome⟩, hb⟩ := hstop
  obtain ⟨slot, hs⟩ := Option.isSome_iff_exists.mp hsome
  simp only [step, hp, stepRunning, hs, hb, he, if_true] at h
  cases h
  exact ⟨rfl, slot.frame, by rw [inHand, hs]; rfl, rfl, by simp⟩

/-- A frame that was given up leaves the slot uncounted: the connection takes it, or is let go
of. -/
theorem step_of_leaves (h : w.step out ended now = some (w', effects)) (hl : w.Leaves f) :
    counted effects = [] ∧
      (delivered effects = [f] ∧ w'.Awaits ∧ w'.phase ≠ .running ∨ delivered effects = [] ∧
        w'.phase = .finished) := by
  obtain ⟨hs, hp⟩ := hl
  simp only [step] at h
  split at h
  next hrunning => exact absurd hrunning hp
  next deadline hd =>
    simp only [stepDraining, waitUntil, hs] at h
    split at h
    next => cases h; exact ⟨rfl, .inl ⟨rfl, awaits_of_none rfl, by simp [hd]⟩⟩
    next => cases h; exact ⟨rfl, .inr ⟨rfl, rfl⟩⟩
    next =>
      split at h
      next => cases h; exact ⟨rfl, .inr ⟨rfl, rfl⟩⟩
      next => cases h
  next => cases h

theorem Turn.phase_ne_running (h : w.Turn out ended now w' effects) (hp : w.phase ≠ .running) :
    w'.phase ≠ .running := by
  cases h with
  | load | deliver => exact hp
  | drain hrunning | broke hrunning => exact absurd hrunning hp
  | abandoned | closed => simp [finish]

end Writer

/-! ## Moves of an endpoint -/

namespace Endpoint

open Writer (counted delivered)

variable {e : Endpoint} {m : Move} {moves : List Move} {f : Frame}

/-- The move makes the writer give up waiting for the frame in its slot. -/
def stopsWaiting (e : Endpoint) : Move → Bool
  | .write out _ => e.writer.stopsWaiting out e.session.isClosed
  | _ => false

/-- The first frame that the connection takes after the writer has given up waiting for it. -/
def lateFrame? (e : Endpoint) : List Move → Option Frame
  | [] => none
  | m :: rest =>
    if e.stopsWaiting m then (delivered ((e.step m).state.effectsOf rest)).head?
      else lateFrame? (e.step m).state rest

/-- A move that is none of the writer's leaves slot and phase alone, or empties the slot for
good. -/
theorem step_writer (m : Move) (hm : ∀ out now, m ≠ .write out now) :
    delivered (e.step m).effects = [] ∧ counted (e.step m).effects = [] ∧
      ((e.step m).state.writer.slot = e.writer.slot ∧
        (e.step m).state.writer.phase = e.writer.phase ∨
        (e.step m).state.writer.slot = none ∧ (e.step m).state.writer.phase = .finished) := by
  rcases step_cases e m with ⟨event, hreact⟩ | ⟨out, now, rfl⟩ | ⟨since, now, rfl⟩
  · rw [hreact]
    exact ⟨rfl, rfl, .inl ⟨rfl, rfl⟩⟩
  · exact absurd rfl (hm out now)
  · simp only [step]
    split
    · exact ⟨rfl, rfl, .inr ⟨rfl, rfl⟩⟩
    · exact ⟨rfl, rfl, .inl ⟨rfl, rfl⟩⟩

theorem phase_step (hp : e.writer.phase ≠ .running) (m : Move) :
    (e.step m).state.writer.phase ≠ .running := by
  by_cases hm : ∃ out now, m = .write out now
  · obtain ⟨out, now, rfl⟩ := hm
    cases hstep : e.writer.step out e.session.isClosed now with
    | none => simpa only [step, hstep] using hp
    | some moved =>
      rw [step_write hstep]
      exact (Writer.turn_of_step hstep).phase_ne_running hp
  · obtain ⟨-, -, ⟨-, hphase⟩ | ⟨-, hphase⟩⟩ :=
      step_writer (e := e) m fun out now h => hm ⟨out, now, h⟩
    · rwa [hphase]
    · simp [hphase]

theorem awaits_step (ha : e.writer.Awaits) (hstop : e.stopsWaiting m = false) :
    (e.step m).state.writer.Awaits ∧ counted (e.step m).effects = delivered (e.step m).effects := by
  by_cases hm : ∃ out now, m = .write out now
  · obtain ⟨out, now, rfl⟩ := hm
    cases hstep : e.writer.step out e.session.isClosed now with
    | none =>
      simp only [step, hstep]
      exact ⟨ha, rfl⟩
    | some moved =>
      rw [step_write hstep]
      exact Writer.step_of_awaits hstep ha hstop
  · obtain ⟨hd, hc, hslot⟩ := step_writer (e := e) m fun out now h => hm ⟨out, now, h⟩
    refine ⟨fun slot hs => ?_, hc.trans hd.symm⟩
    rcases hslot with ⟨hslot, -⟩ | ⟨hslot, -⟩
    · exact ha slot (hslot ▸ hs)
    · exact absurd (hslot ▸ hs) (by simp)

theorem stopsWaiting_of_phase (hp : e.writer.phase ≠ .running) (m : Move) :
    e.stopsWaiting m = false := by
  cases m with
  | write out now => simp [stopsWaiting, Writer.stopsWaiting, hp]
  | _ => rfl

/-! ## Sequences of moves -/

theorem counted_of_past (ha : e.writer.Awaits) (hp : e.writer.phase ≠ .running)
    (moves : List Move) : counted (e.effectsOf moves) = delivered (e.effectsOf moves) := by
  induction moves generalizing e with
  | nil => rfl
  | cons m moves ih =>
    obtain ⟨hawaits, hnow⟩ := awaits_step ha (stopsWaiting_of_phase hp m)
    rw [effectsOf, Writer.counted_append, Writer.delivered_append, hnow,
      ih hawaits (phase_step hp m)]

theorem nothing_of_finished (hp : e.writer.phase = .finished) (moves : List Move) :
    delivered (e.effectsOf moves) = [] ∧ counted (e.effectsOf moves) = [] := by
  induction moves generalizing e with
  | nil => exact ⟨rfl, rfl⟩
  | cons m moves ih =>
    by_cases hm : ∃ out now, m = .write out now
    · obtain ⟨out, now, rfl⟩ := hm
      have hnone : e.writer.step out e.session.isClosed now = none := by rw [Writer.step, hp]
      simp only [effectsOf, step, hnone, List.nil_append]
      exact ih hp
    · obtain ⟨hd, hc, hphase⟩ := step_writer (e := e) m fun out now h => hm ⟨out, now, h⟩
      have hfinished : (e.step m).state.writer.phase = .finished := by
        rcases hphase with ⟨-, hsame⟩ | ⟨-, hlast⟩
        · exact hsame.trans hp
        · exact hlast
      rw [effectsOf, Writer.delivered_append, Writer.counted_append, hd, hc]
      exact ih hfinished

/-- The frame that was given up is the first that the connection takes, and the only one that does
not count. -/
theorem delivered_of_leaves (hl : e.writer.Leaves f) (moves : List Move) :
    delivered (e.effectsOf moves) = [] ∧ counted (e.effectsOf moves) = [] ∨
      delivered (e.effectsOf moves) = f :: counted (e.effectsOf moves) := by
  induction moves generalizing e with
  | nil => exact .inl ⟨rfl, rfl⟩
  | cons m moves ih =>
    by_cases hm : ∃ out now, m = .write out now
    · obtain ⟨out, now, rfl⟩ := hm
      cases hstep : e.writer.step out e.session.isClosed now with
      | none =>
        simp only [effectsOf, step, hstep, List.nil_append]
        exact ih hl
      | some moved =>
        obtain ⟨w, more⟩ := moved
        rw [effectsOf, step_write hstep, Writer.counted_append, Writer.delivered_append]
        obtain ⟨hc, ⟨hd, hawaits, hp⟩ | ⟨hd, hp⟩⟩ := Writer.step_of_leaves hstep hl
        · rw [hc, hd, counted_of_past hawaits hp]
          exact .inr rfl
        · rw [hc, hd]
          exact .inl (nothing_of_finished hp moves)
    · obtain ⟨hd, hc, hslot⟩ := step_writer (e := e) m fun out now h => hm ⟨out, now, h⟩
      rw [effectsOf, Writer.delivered_append, Writer.counted_append, hd, hc]
      rcases hslot with ⟨hslot, hphase⟩ | ⟨-, hlast⟩
      · exact ih ⟨hslot.trans hl.1, by rw [hphase]; exact hl.2⟩
      · exact .inl (nothing_of_finished hlast moves)

theorem stops_step (hstop : e.stopsWaiting m = true) :
    (e.step m).effects = [] ∧ ∃ f, e.writer.inHand = [f] ∧ (e.step m).state.writer.Leaves f := by
  cases m with
  | write out now =>
    cases hstep : e.writer.step out e.session.isClosed now with
    | none =>
      -- A writer that gives up a frame does move.
      simp only [stopsWaiting, Writer.stopsWaiting, Bool.and_eq_true, decide_eq_true_eq] at hstop
      obtain ⟨⟨⟨he, hp⟩, hsome⟩, hb⟩ := hstop
      obtain ⟨slot, hs⟩ := Option.isSome_iff_exists.mp hsome
      simp [Writer.step, Writer.stepRunning, hp, hs, hb, he] at hstep
    | some moved =>
      rw [step_write hstep]
      exact Writer.step_of_stops hstep hstop
  | call | message | connectionEnded | connectionFailed | giveUp => cases hstop

theorem delivered_perm (ha : e.writer.Awaits) (moves : List Move) :
    (delivered (e.effectsOf moves)).Perm ((e.lateFrame? moves).toList ++
      counted (e.effectsOf moves)) := by
  induction moves generalizing e with
  | nil => exact .refl _
  | cons m moves ih =>
    rw [effectsOf, Writer.delivered_append, Writer.counted_append, lateFrame?]
    cases hstop : e.stopsWaiting m with
    | true =>
      obtain ⟨hnone, f, -, hl⟩ := stops_step hstop
      rw [if_pos rfl, hnone]
      rcases delivered_of_leaves hl moves with ⟨hd, hc⟩ | hd
      · rw [hd, hc]
        exact .refl _
      · rw [hd]
        exact .refl _
    | false =>
      obtain ⟨hawaits, hnow⟩ := awaits_step ha hstop
      rw [if_neg Bool.false_ne_true, hnow]
      refine ((ih hawaits).append_left _).trans ?_
      rw [← List.append_assoc, ← List.append_assoc]
      exact List.perm_append_comm.append_right _

theorem given_up_of_late (h : e.lateFrame? moves = some f) :
    ∃ before m rest, moves = before ++ m :: rest ∧ (e.after before).stopsWaiting m = true ∧
      (e.after before).writer.inHand = [f] := by
  induction moves generalizing e with
  | nil => cases h
  | cons m moves ih =>
    rw [lateFrame?] at h
    cases hstop : e.stopsWaiting m with
    | true =>
      rw [hstop, if_pos rfl] at h
      obtain ⟨-, g, hhand, hl⟩ := stops_step hstop
      have hfirst : f = g := by
        rcases delivered_of_leaves hl moves with ⟨hd, -⟩ | hd <;> rw [hd] at h <;> cases h
        rfl
      exact ⟨[], m, moves, rfl, hstop, hfirst ▸ hhand⟩
    | false =>
      rw [hstop, if_neg Bool.false_ne_true] at h
      obtain ⟨before, m', rest, rfl, hlast, hhand⟩ := ih h
      exact ⟨m :: before, m', rest, rfl, hlast, hhand⟩

theorem sentFrames_eventsOf (moves : List Move) :
    Session.sentFrames (e.eventsOf moves) = counted (e.effectsOf moves) := by
  induction moves generalizing e with
  | nil => rfl
  | cons m moves ih =>
    have hnow : Session.sentFrames (e.events m) = counted (e.step m).effects := by
      cases m with
      | write out now => exact Writer.sentFrames_effects _
      | giveUp since now =>
        simp only [events, step]
        split <;> rfl
      | call | message | connectionEnded | connectionFailed => rfl
    rw [effectsOf, Writer.counted_append, ← ih, ← hnow]
    exact List.filterMap_append

theorem stats_after (role : Role) (config : Config) (moves : List Move) :
    ((make (.make role config)).after moves).session.stats.framesSent =
        (counted ((make (.make role config)).effectsOf moves)).length ∧
      ((make (.make role config)).after moves).session.stats.bytesSent =
        ((counted ((make (.make role config)).effectsOf moves)).map Frame.encodedLength).sum := by
  obtain ⟨hframes, hbytes⟩ :=
    Session.sent_after (s := .make role config) ((make (.make role config)).eventsOf moves)
  rw [sentFrames_eventsOf] at hframes hbytes
  rw [session_after]
  exact ⟨hframes.trans (Nat.zero_add _), hbytes.trans (Nat.zero_add _)⟩

/-- In every state the connection has taken the messages that the session has counted as sent,
and at most one more: the frame that the writer was waiting for as the session ended, if the
connection did not take it then but took it later. The bytes differ by the length of that frame. -/
theorem sent_count (role : Role) (config : Config) (moves : List Move) :
    ((make (.make role config)).messagesOf moves).length =
        ((make (.make role config)).after moves).session.stats.framesSent +
          ((make (.make role config)).lateFrame? moves).toList.length ∧
      (((make (.make role config)).messagesOf moves).map List.length).sum =
        ((make (.make role config)).after moves).session.stats.bytesSent +
          (((make (.make role config)).lateFrame? moves).toList.map Frame.encodedLength).sum ∧
      ∀ f, (make (.make role config)).lateFrame? moves = some f →
        ∃ before m rest, moves = before ++ m :: rest ∧
          ((make (.make role config)).after before).stopsWaiting m = true ∧
          ((make (.make role config)).after before).writer.inHand = [f] := by
  have hperm := delivered_perm (e := make (.make role config)) (fun _ hs => nomatch hs) moves
  obtain ⟨hframes, hbytes⟩ := stats_after role config moves
  have hlength : List.length ∘ Frame.encode = Frame.encodedLength := funext Frame.length_encode
  refine ⟨?_, ?_, fun f => given_up_of_late⟩
  · rw [messagesOf_eq, List.length_map, hperm.length_eq, List.length_append, hframes, Nat.add_comm]
  · rw [messagesOf_eq, List.map_map, hlength, (hperm.map _).sum_nat, List.map_append,
      List.sum_append_nat, hbytes, Nat.add_comm]

/-- The connection stalls with a SYN in the slot as the session is closed, and then takes it and
is closed. -/
def closedWhileStalled : List Move :=
  [.call .openStream, .write ⟨.blocked, .blocked⟩ 0, .call .close, .write ⟨.blocked, .blocked⟩ 0,
    .write ⟨.done, .blocked⟩ 10, .write ⟨.done, .done⟩ 10]

/-- The connection has got the SYN and was closed in order, and nothing counts as sent. -/
theorem sent_count_of_closedWhileStalled :
    ((make (.make .client ⟨4, 4, 50, 1⟩)).after closedWhileStalled).writer.phase = .finished ∧
      ((make (.make .client ⟨4, 4, 50, 1⟩)).effectsOf closedWhileStalled).getLast? = some .closed ∧
      (make (.make .client ⟨4, 4, 50, 1⟩)).messagesOf closedWhileStalled = [(Frame.syn 1).encode] ∧
      ((make (.make .client ⟨4, 4, 50, 1⟩)).after closedWhileStalled).session.stats.framesSent = 0 ∧
      ((make (.make .client ⟨4, 4, 50, 1⟩)).after closedWhileStalled).session.stats.bytesSent =
        0 := by
  decide

end Endpoint
end StreamMux

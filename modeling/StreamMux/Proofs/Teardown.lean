/-
The end of a session. It ends over the first event that is a reason to, with the cause
that this event gives, and no other event touches its end again: an ended session knows
only final streams, has the same answer for every call that would need a session, and
queues nothing. What its reader still takes is counted and comes to no stream.
-/
import StreamMux.Proofs.Tracking

namespace StreamMux.Session

variable {s s' : Session} {e : Event} {es : List Event} {id : UInt32} {st : Stream} {cause : Fault}
  {role : Role} {config : Config}

/-! ## The end -/

/-- The event that ends a session tears all its streams down with the cause. -/
theorem find?_of_end (wf : s.WellFormed) (hopen : s.ended = none)
    (hended : (s.step e).state.ended = some cause)
    (h : s.find? id = some st) : (s.step e).state.find? id = some (tornDown cause st) := by
  have hturn := turn_of_step wf e
  generalize (s.step e).state = s' at hturn hended
  cases hturn with
  | @ended cause' =>
    obtain rfl : cause' = cause := Option.some.inj hended
    rw [find?_tornDown cause' rfl, h]
    rfl
  | _ => cases hopen.symm.trans hended

theorem ended_of_ends (hopen : s.ended = none) (h : e.ends? = some cause) :
    (s.step e).state.ended = some cause := by
  have terminates (stats : Stats) : (({ s with stats } : Session).terminate cause).state.ended =
      some cause := by
    simp only [terminate, hopen]
  cases e with
  | call c =>
    cases c with
    | close =>
      obtain rfl := Option.some.inj h
      exact terminates s.stats
    | _ => cases h
  | message bytes =>
    simp only [Event.ends?] at h
    split at h
    next hshort =>
      obtain rfl := Option.some.inj h
      rw [step_of_error (Frame.decode_of_short hshort _)]
      exact terminates (s.stats.received bytes.length)
    next => cases h
  | connectionEnded | connectionFailed =>
    obtain rfl := Option.some.inj h
    exact terminates s.stats
  | sent => cases h

theorem ended_step (wf : s.WellFormed) (e : Event) :
    (s.step e).state.ended = s.ended.or e.ends? := by
  cases hopen : s.ended with
  | some cause =>
    have hturn := turn_of_step wf e
    generalize (s.step e).state = s' at hturn
    cases hturn with
    | ended hnone => cases hnone.symm.trans hopen
    | _ => exact hopen
  | none =>
    cases hends : e.ends? with
    | some cause => exact ended_of_ends hopen hends
    | none =>
      have hturn := turn_of_step wf e
      generalize (s.step e).state = s' at hturn
      cases hturn with
      | ended _ hsome => cases hends.symm.trans hsome
      | _ => exact hopen

theorem ended_after (wf : s.WellFormed) (es : List Event) :
    (s.after es).ended = s.ended.or (es.findSome? Event.ends?) := by
  induction es generalizing s with
  | nil => exact (Option.or_none).symm
  | cons e es ih =>
    rw [after, List.foldl_cons, ← after, ih (step_wellFormed wf e), ended_step wf e,
      Option.or_assoc, List.findSome?_cons]
    cases e.ends? <;> rfl

/-! ## Ended sessions -/

theorem isClosed_iff : s.isClosed = true ↔ s.ended ≠ none := by
  simp [isClosed, Option.isSome_iff_ne_none]

theorem Turn.frames_of_ended (h : s.Turn e s') (wf : s.WellFormed) (hended : s.ended ≠ none) :
    (s.step e).frames = [] := by
  cases h with
  | quiet ht | claimed _ _ _ ht | late _ _ _ _ _ ht => exact frames_eq_nil ht
  | @touched st _ _ _ hfind _ hst ht =>
    have hm := mem_of_find? hfind
    rw [frames_eq ht]
    exact hst.sent_of_isTerminal ((wf.sound st hm).terminal (wf.untracked hended st hm))
  | opened _ hopen | announced _ hopen | refused _ hopen | ended hopen => exact absurd hopen hended

theorem framesOf_of_ended {es : List Event} (wf : s.WellFormed) (hended : s.ended ≠ none) :
    s.framesOf es = [] ∧ (s.after es).ended ≠ none := by
  induction es generalizing s with
  | nil => exact ⟨rfl, hended⟩
  | cons e es ih =>
    have hturn := turn_of_step wf e
    obtain ⟨hframes, hlast⟩ := ih (step_wellFormed wf e) (hturn.ended_of_ended hended)
    exact ⟨by rw [framesOf, hturn.frames_of_ended wf hended, hframes, List.append_nil], hlast⟩

/-- A reason to end leaves a session alone that has ended, but that it counts a message. -/
theorem step_of_ends (hended : s.ended = some cause) (h : e.ends? ≠ none) :
    ∃ stats, s.step e = { result := .nothing, state := { s with stats } } := by
  have terminates (stats : Stats) (fault : Fault) :
      Outcome.as (({ s with stats } : Session).terminate fault) (fun _ => .nothing) =
        { result := .nothing, state := { s with stats } } := by
    simp only [terminate, hended, Outcome.as]
  cases e with
  | call c =>
    cases c with
    | close => exact ⟨_, terminates s.stats _⟩
    | _ => exact absurd rfl h
  | message bytes =>
    have hshort : bytes.length < Frame.headerSize := by
      by_contra hlong
      exact h (if_neg hlong)
    rw [step_of_error (Frame.decode_of_short hshort _)]
    exact ⟨_, terminates (s.stats.received bytes.length) _⟩
  | connectionEnded | connectionFailed => exact ⟨_, terminates s.stats _⟩
  | sent => exact absurd rfl h

theorem accept_of_ended (hended : s.ended = some cause) {ticket : Nat}
    (hhead : (s.lineUp ticket).head? = some ticket) :
    s.accept ticket =
      { result := .ready (.error cause), state := { s with
        acceptors := (s.lineUp ticket).erase ticket } } := by
  have hline : (if ticket ∈ s.acceptors then s.acceptors else s.acceptors ++ [ticket]) =
    s.lineUp ticket := rfl
  simp only [accept, hline, hhead, hended, if_true]

/-- Those who wait are told one after the other, and so is everybody who comes later. -/
theorem trace_of_waiting (hended : s.ended = some cause) (later : List Nat) :
    s.trace ((s.acceptors ++ later).map fun ticket => .call (.accept ticket)) =
      (s.acceptors ++ later).map fun ticket => (.call (.accept ticket),
        .accepted (.ready (.error cause))) := by
  generalize hline : s.acceptors ++ later = line
  induction line generalizing s later with
  | nil => rfl
  | cons ticket line ih =>
    obtain ⟨rest, later', hhead, herase, hrest⟩ : ∃ rest later',
        (s.lineUp ticket).head? = some ticket ∧
        (s.lineUp ticket).erase ticket = rest ∧ rest ++ later' = line := by
      cases hwait : s.acceptors with
      | nil =>
        rw [hwait, List.nil_append] at hline
        exact ⟨[], line, by simp [lineUp, hwait], by simp [lineUp, hwait], rfl⟩
      | cons first rest =>
        rw [hwait, List.cons_append, List.cons.injEq] at hline
        obtain ⟨rfl, hrest⟩ := hline
        exact ⟨rest, later, by simp [lineUp, hwait], by simp [lineUp, hwait], hrest⟩
    have haccept := accept_of_ended hended hhead
    simp only [List.map_cons, trace, step, call, Outcome.as, haccept, List.cons.injEq, true_and]
    exact ih (s := { s with acceptors := (s.lineUp ticket).erase ticket }) hended later'
      (by rw [← hrest, ← herase])

/-- The session is over, for this cause: nothing can be done with it any more, and neither
what would end it nor what is still read changes more of it than the counters and the last
id of the peer. -/
structure Over (s : Session) (cause : Fault) : Prop where
  isClosed : s.isClosed = true
  streamCount : s.streamCount = 0
  final : ∀ st ∈ s.streams, st.isTerminal = true
  opens : s.openStream = { result := .error cause, state := s }
  accepts : ∀ ticket r, (s.accept ticket).result = .ready r → r = .error cause
  served : ∀ later, s.trace ((s.acceptors ++ later).map fun ticket => .call (.accept ticket)) =
    (s.acceptors ++ later).map fun ticket => (.call (.accept ticket),
      .accepted (.ready (.error cause)))
  closed : s.closed = .ready cause
  queues : ∀ f, s.queue f = .error cause
  ends : ∀ e : Event, e.ends? ≠ none → ∃ stats, s.step e =
    { result := .nothing, state := { s with stats } }
  reads : ∀ message, Silent (s.step (.message message)) ∧
    ∃ lastRemoteId stats, (s.step (.message message)).state = { s with lastRemoteId, stats }

theorem over_of_ended (wf : s.WellFormed) (hended : s.ended = some cause) : s.Over cause := by
  have huntracked := wf.untracked (by simp [hended])
  refine ⟨?_, ?_, ?_, ?_, ?_, trace_of_waiting hended, ?_, ?_, fun e => step_of_ends hended,
    fun message => ?_⟩
  · simp [Session.isClosed, hended]
  · rw [Session.streamCount, List.countP_eq_zero]
    intro st hm
    simp [huntracked st hm]
  · intro st hm
    exact (wf.sound st hm).terminal (huntracked st hm)
  · simp only [openStream, hended]
  · intro ticket r hr
    have hattempt := attempt wf ticket
    rw [hr] at hattempt
    generalize (s.accept ticket).state = s' at hattempt
    cases hattempt with
    | fails _ hcause =>
      rw [hended] at hcause
      rw [Option.some.inj hcause]
    | served _ hopen => cases hopen.symm.trans hended
  · simp only [Session.closed, hended]
  · intro f
    simp only [queue, hended]
  · obtain ⟨hsilent, hstate⟩ := step_of_late wf (by simp [hended]) message
    refine ⟨hsilent, ?_⟩
    rcases hstate with hstate | hstate | ⟨f, -, -, -, hstate⟩ <;> exact ⟨_, _, hstate⟩

/-! ## Any run -/

/-- Whatever the peer sends and the application asks for: a session has ended when there was
a reason to, with the cause of the first; from then on it is over for that cause, whatever
comes later, it queues no frame, and every stream that was handed out, waited to be accepted
or was routed to at any time is final. -/
theorem first_cause_wins (role : Role) (config : Config) (es : List Event) :
    ((make role config).after es).ended = es.findSome? Event.ends? ∧
    ∀ cause, es.findSome? Event.ends? = some cause → ∀ later,
      ((make role config).after (es ++ later)).Over cause ∧
      ((make role config).after es).framesOf later = [] ∧
      ∀ id, ((make role config).Surfaced id (es ++ later) ∨
          ∃ before rest, es ++ later = before ++ rest ∧
            ((make role config).after before).tracked? id ≠ none) →
        ∃ st, ((make role config).after (es ++ later)).find? id = some st ∧
          st.isTerminal = true := by
  have hended (es : List Event) : ((make role config).after es).ended = es.findSome? Event.ends? :=
    ended_after (.make role config) es
  refine ⟨hended es, fun cause hfirst later => ?_⟩
  have hlast : ((make role config).after (es ++ later)).ended = some cause := by
    rw [hended, List.findSome?_append, hfirst]
    rfl
  have hover := over_of_ended (wellFormed_after role config (es ++ later)) hlast
  refine ⟨hover, ?_, fun id hknown => ?_⟩
  · exact (framesOf_of_ended (wellFormed_after role config es) (by rw [hended, hfirst]; simp)).1
  · obtain ⟨st, hst⟩ : ∃ st, ((make role config).after (es ++ later)).find? id = some st := by
      rcases hknown with hsurfaced | ⟨before, rest, hes, htracked⟩
      · exact hsurfaced.exists
      · have wf := wellFormed_after role config before
        obtain ⟨st, hst⟩ := Option.ne_none_iff_exists'.mp htracked
        rw [hes, after_append]
        exact find?_after rest wf (tracked?_eq_some wf hst).2.1
    exact ⟨st, hst, hover.final st (mem_of_find? hst)⟩

/-- A call of accept waits while a stream is in use; then the connection breaks, and the application
closes the session twice. -/
def brokenThenClosed : List Event :=
  [.call .openStream, .call (.accept 0), .call (.accept 1), .connectionFailed "reset",
    .call .close, .call .close]

theorem first_cause_wins_of_broken :
    ((make .client ⟨4, 4, 50, 1⟩).after brokenThenClosed).closed = .ready (.connection "reset") ∧
      (((make .client ⟨4, 4, 50, 1⟩).after brokenThenClosed).trace
        [.call (.accept 0), .call (.accept 1)]).map (·.2) =
        [.accepted (.ready (.error (.connection "reset"))),
          .accepted (.ready (.error (.connection "reset")))] := by
  obtain ⟨-, hlast⟩ := first_cause_wins .client ⟨4, 4, 50, 1⟩ brokenThenClosed
  obtain ⟨hover, -⟩ := hlast (.connection "reset") rfl []
  refine ⟨hover.closed, ?_⟩
  have hserved := hover.served []
  rw [show ((make .client ⟨4, 4, 50, 1⟩).after (brokenThenClosed ++ [])).acceptors = [0, 1] from
    rfl] at hserved
  exact congrArg (List.map (·.2)) hserved

end StreamMux.Session

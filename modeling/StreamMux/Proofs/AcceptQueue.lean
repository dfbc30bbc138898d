/-
How the streams of a peer come to the application. Two lines meet in a session: the
streams that wait to be accepted, in the order of their SYNs, and the calls of accept
that wait for one, in the order in which they came. `Queueing` says what a step does to
the two. So every stream of the peer is handed out once, waits or was refused, and every
call was served, waits or was given up; and both lines are served from the front.
-/
import StreamMux.Proofs.Ids
import StreamMux.Proofs.Grammar
import StreamMux.Proofs.Coarse

namespace StreamMux.Session

/-! ## Lines -/

/-- Of those who came, in this order, some were served, some wait and the others are gone
without being served; and they are served as they came. -/
structure Line {α : Type} (came served waiting gone : List α) : Prop where
  places : (served ++ waiting ++ gone).Perm came
  order : (served ++ waiting).Sublist came

namespace Line

variable {α : Type} {came served waiting gone rest : List α}

theorem join (h : Line came served waiting gone) (x : α) :
    Line (came ++ [x]) served (waiting ++ [x]) gone := by
  constructor
  · have hlast : (served ++ (waiting ++ [x]) ++ gone).Perm (served ++ waiting ++ gone ++ [x]) := by
      simp only [List.append_assoc]
      exact (List.perm_append_comm.append_left _).append_left _
    exact hlast.trans (h.places.append_right [x])
  · rw [← List.append_assoc]
    exact h.order.append (.refl [x])

theorem turnAway (h : Line came served waiting gone) (x : α) :
    Line (came ++ [x]) served waiting (gone ++ [x]) := by
  constructor
  · rw [← List.append_assoc]
    exact h.places.append_right [x]
  · exact h.order.trans (List.sublist_append_left _ _)

theorem serve {x : α} (h : Line came served (x :: rest) gone) :
    Line came (served ++ [x]) rest gone := by
  have hsame : served ++ [x] ++ rest = served ++ x :: rest := by simp
  constructor
  · rw [hsame]; exact h.places
  · rw [hsame]; exact h.order

theorem leave [DecidableEq α] {x : α} (h : Line came served waiting gone) (hx : x ∈ waiting) :
    Line came served (waiting.erase x) (gone ++ [x]) := by
  constructor
  · have hback : (waiting.erase x ++ (gone ++ [x])).Perm (waiting ++ gone) :=
      calc waiting.erase x ++ (gone ++ [x])
        _ = waiting.erase x ++ gone ++ [x] := (List.append_assoc _ _ _).symm
        List.Perm _ (x :: waiting.erase x ++ gone) := List.perm_append_comm
        List.Perm _ (waiting ++ gone) := (List.perm_cons_erase hx).symm.append_right _
    have hplaces := h.places
    rw [List.append_assoc] at hplaces ⊢
    exact (hback.append_left served).trans hplaces
  · exact ((List.erase_sublist).append_left _).trans h.order

/-- Who is gone was not served, unless somebody came twice. -/
theorem not_mem_served {x : α} (h : Line came served waiting gone) (hdistinct : came.Nodup)
    (hx : x ∈ gone) : x ∉ served := by
  intro hserved
  have hplaces := h.places.nodup_iff.mpr hdistinct
  exact (List.nodup_append.mp hplaces).2.2 x (List.mem_append_left _ hserved) x hx rfl

end Line

variable {α : Type} {s : Session} {e : Event} {es : List Event} {id : UInt32}
  {ticket : Nat} {role : Role} {config : Config}

/-! ## Histories -/

/-- What the events add to a history, each at the session it happens to. -/
def along (f : Session → Event → List α) (s : Session) : List Event → List α
  | [] => []
  | e :: rest => f s e ++ along f (s.step e).state rest

theorem along_concat (f : Session → Event → List α) :
    s.along f (es ++ [e]) = s.along f es ++ f (s.after es) e := by
  induction es generalizing s with
  | nil => simp [along, after]
  | cons e' es ih => simp [along, ih, after]

/-- The stream that an answer says was accepted. -/
def Reply.handed? : Reply → Option UInt32
  | .accepted (.ready (.ok id)) => some id
  | _ => none

/-- The call of accept that is answered with a stream, and the stream. -/
def handedBy (s : Session) : Event → List (Nat × UInt32)
  | .call (.accept ticket) =>
    ((s.step (.call (.accept ticket))).result.handed?.map (ticket, ·)).toList
  | _ => []

/-- The streams that a step admits and does not let wait. -/
def refusedBy (s : Session) (e : Event) : List UInt32 :=
  (s.admittedBy e).filter (· ∉ (s.step e).state.backlog)

/-- The call of accept that gets in line. -/
def startedBy (s : Session) : Event → List Nat
  | .call (.accept ticket) => if ticket ∈ s.acceptors then [] else [ticket]
  | _ => []

/-- The waiting call of accept that is given up. -/
def cancelledBy (s : Session) : Event → List Nat
  | .call (.cancelAccept ticket) => if ticket ∈ s.acceptors then [ticket] else []
  | _ => []

def handedOut (s : Session) (es : List Event) : List (Nat × UInt32) := s.along handedBy es

def refusedIds (s : Session) (es : List Event) : List UInt32 := s.along refusedBy es

def started (s : Session) (es : List Event) : List Nat := s.along startedBy es

def cancelled (s : Session) (es : List Event) : List Nat := s.along cancelledBy es

/-- The ids of the SYNs that the events bring to the session. -/
def synIds (s : Session) (es : List Event) : List UInt32 :=
  ((s.takenOf es).filter (·.type = .syn)).map (·.streamId)

/-- A SYN is admitted if its id is one of the peer's and above all that were admitted before. -/
def letIn (role : Role) (admitted : List UInt32) (id : UInt32) : List UInt32 :=
  if id ≠ 0 ∧ role.other.owns id = true ∧ admitted.all (· < id) = true then admitted ++ [id]
  else admitted

theorem handedBy_eq_nil (h : ∀ ticket, e ≠ .call (.accept ticket)) : s.handedBy e = [] := by
  unfold handedBy
  split
  next => exact absurd rfl (h _)
  next => rfl

theorem startedBy_eq_nil (h : ∀ ticket, e ≠ .call (.accept ticket)) : s.startedBy e = [] := by
  unfold startedBy
  split
  next => exact absurd rfl (h _)
  next => rfl

theorem cancelledBy_eq_nil (h : ∀ ticket, e ≠ .call (.cancelAccept ticket)) :
    s.cancelledBy e = [] := by
  unfold cancelledBy
  split
  next => exact absurd rfl (h _)
  next => rfl

/-! ## The two lines -/

/-- What a session keeps of accepting. -/
structure Lobby where
  backlog : List UInt32
  acceptors : List Nat
  accepted : Nat
  refused : Nat

def lobby (s : Session) : Lobby :=
  ⟨s.backlog, s.acceptors, s.stats.streamsAccepted, s.stats.streamsRefused⟩

theorem coarse_lobby : Coarse lobby :=
  ⟨⟨⟨fun _ _ => rfl, fun _ _ _ => rfl⟩, fun _ _ _ => rfl⟩, fun _ => rfl⟩

/-- What a step does to the two lines of a session that is open. -/
inductive Queueing (s : Session) (e : Event) : Lobby → Prop
  | none : (∀ ticket, e ≠ .call (.accept ticket)) → (∀ ticket, e ≠ .call (.cancelAccept ticket)) →
    (∀ f ∈ s.taken e, f.type = .syn → s.mayOpen f.streamId = false) → s.admittedBy e = [] →
      Queueing s e s.lobby
  | queued {message f} : e = .message message → s.taken e = [f] → f.type = .syn →
    s.mayOpen f.streamId = true →
    s.admittedBy e = [f.streamId] → s.refusedBy e = [] → s.backlog.length < s.config.acceptBacklog →
    Queueing s e { s.lobby with backlog := s.backlog ++ [f.streamId] }
  | refused {message f} : e = .message message → s.taken e = [f] → f.type = .syn →
    s.mayOpen f.streamId = true →
    s.admittedBy e = [f.streamId] → s.refusedBy e = [f.streamId] →
      s.config.acceptBacklog ≤ s.backlog.length →
    Queueing s e { s.lobby with refused := s.lobby.refused + 1 }
  | waits {ticket : Nat} : e = .call (.accept ticket) → s.handedBy e = [] →
    Queueing s e { s.lobby with acceptors := s.lineUp ticket }
  | served {ticket : Nat} {id : UInt32} {rest others} : e = .call (.accept ticket) →
    s.lineUp ticket = ticket :: others → s.backlog = id :: rest → s.handedBy e = [(ticket, id)] →
    Queueing s e { s.lobby with
      backlog := rest, acceptors := others, accepted := s.lobby.accepted + 1 }
  | cancelled {ticket : Nat} : e = .call (.cancelAccept ticket) →
    Queueing s e { s.lobby with acceptors := s.acceptors.erase ticket }

theorem queueing_accept (wf : s.WellFormed) (hopen : s.ended = none) (ticket : Nat) :
    s.Queueing (.call (.accept ticket)) (s.accept ticket).state.lobby := by
  have hattempt := attempt wf ticket
  have hhanded : s.handedBy (.call (.accept ticket)) =
      ((Reply.accepted (s.accept ticket).result).handed?.map (ticket, ·)).toList := rfl
  generalize (s.accept ticket).result = answer at hattempt hhanded
  generalize (s.accept ticket).state = s' at hattempt
  cases hattempt with
  | behind | waits => exact .waits rfl hhanded
  | fails _ hended => cases hopen.symm.trans hended
  | @served st rest hhead _ hb =>
    obtain ⟨others, hline⟩ := List.head?_eq_some_iff.mp hhead
    have hserved := Queueing.served rfl hline hb hhanded
    rw [hline, List.erase_cons_head]
    exact hserved

/-- A message that admits no stream. -/
theorem queueing_of_unadmitted (wf : s.WellFormed) (hopen : s.ended = none) {message : Bytes}
    (hnone : ∀ f ∈ s.taken (.message message), f.type = .syn → s.mayOpen f.streamId = false) :
    s.Queueing (.message message) (s.step (.message message)).state.lobby := by
  let counted : Session := { s with stats := s.stats.received message.length }
  have hlobby : (s.step (.message message)).state.lobby = s.lobby := by
    cases hdec : Frame.decode message s.config.maxFramePayload with
    | error err =>
      rw [step_of_error hdec]
      exact coarse_lobby.onMalformed (fun _ => rfl) counted err
    | ok f =>
      by_cases hty : f.type = .syn
      · rw [taken_of_ok hopen hdec, List.forall_mem_singleton] at hnone
        rw [step_of_syn hdec hty]
        show (counted.onSyn f.streamId).state.lobby = s.lobby
        rw [(onSyn_of_invalid (s := counted) (hnone hty)).2]
        rfl
      · rw [step_of_ok hdec]
        exact coarse_lobby.onFrame (fun _ => rfl) counted hty
  rw [hlobby]
  refine .none (by simp) (by simp) hnone ?_
  cases naming wf (.message message) with
  | none hids => exact admittedBy_of_ids_eq hids
  | opened he => cases he
  | admitted _ htaken hty hm =>
    rw [hnone _ (by rw [htaken]; exact List.mem_singleton_self _) hty] at hm
    cases hm

/-- A SYN that is admitted waits if there is room. -/
theorem queueing_of_admitted (wf : s.WellFormed) (hopen : s.ended = none)
    {message : Bytes} {f : Frame}
    (hdec : Frame.decode message s.config.maxFramePayload = .ok f) (hty : f.type = .syn)
    (hm : s.mayOpen f.streamId = true) :
    s.Queueing (.message message) (s.step (.message message)).state.lobby := by
  let counted : Session := { s with stats := s.stats.received message.length }
  have htaken := taken_of_ok hopen hdec
  have hfresh := wf.find?_of_mayOpen hm
  have hstate : (s.step (.message message)).state = (counted.onSyn f.streamId).state := by
    rw [step_of_syn hdec hty]
    rfl
  have hadmitted (st : Stream) (hid : st.id = f.streamId)
      (hstreams : (s.step (.message message)).state.streams = s.streams ++ [st]) :
      s.admittedBy (.message message) = [f.streamId] := by
    have hids : (s.step (.message message)).state.ids = s.ids ++ [f.streamId] := by
      rw [ids, hstreams, List.map_append, List.map_singleton, hid]
      rfl
    rw [admittedBy, hids, List.drop_left]
  by_cases hb : s.backlog.length < s.config.acceptBacklog
  · have hnew := (onSyn_of_room (s := counted) hopen hm hb).2
    have hids := hadmitted (.make f.streamId s.config .unclaimed) rfl (by rw [hstate, hnew])
    have hrefused : s.refusedBy (.message message) = [] := by
      rw [refusedBy, hids, hstate, hnew]
      simp
    have hqueued := Queueing.queued rfl htaken hty hm hids hrefused hb
    rw [hstate, hnew]
    exact hqueued
  · have hnew := (onSyn_of_full (s := counted) wf.distinct hopen hfresh hm hb).2
    have hids := hadmitted ((Stream.make f.streamId s.config .unclaimed).aborted .here) rfl
      (by rw [hstate, hnew])
    have hunknown : f.streamId ∉ s.backlog := by
      intro hmem
      obtain ⟨st, hst, -⟩ := wf.backlog _ hmem
      rw [hfresh] at hst
      cases hst
    have hrefused : s.refusedBy (.message message) = [f.streamId] := by
      rw [refusedBy, hids, hstate, hnew]
      exact List.filter_eq_self.mpr (by simpa using hunknown)
    have hturned := Queueing.refused rfl htaken hty hm hids hrefused (Nat.le_of_not_lt hb)
    rw [hstate, hnew]
    exact hturned

theorem queueing (wf : s.WellFormed) (hopen : s.ended = none) (e : Event) :
    s.Queueing e (s.step e).state.lobby := by
  cases e with
  | call c =>
    by_cases haccept : ∃ ticket, c = .accept ticket
    · obtain ⟨ticket, rfl⟩ := haccept
      exact queueing_accept wf hopen ticket
    by_cases hcancel : ∃ ticket, c = .cancelAccept ticket
    · obtain ⟨ticket, rfl⟩ := hcancel
      exact .cancelled rfl
    have hnot (ticket : Nat) : c ≠ .accept ticket := fun hc => haccept ⟨ticket, hc⟩
    have hnot' (ticket : Nat) : c ≠ .cancelAccept ticket := fun hc => hcancel ⟨ticket, hc⟩
    rw [show (s.step (.call c)).state.lobby = s.lobby from coarse_lobby.call s hnot hnot']
    exact .none (by simpa using hnot) (by simpa using hnot') (fun f hf => nomatch hf) rfl
  | message message =>
    by_cases hadmits : ∃ f, Frame.decode message s.config.maxFramePayload = .ok f ∧ f.type = .syn ∧
        s.mayOpen f.streamId = true
    · obtain ⟨f, hdec, hty, hm⟩ := hadmits
      exact queueing_of_admitted wf hopen hdec hty hm
    · refine queueing_of_unadmitted wf hopen fun f hf hty => ?_
      by_contra hm
      refine hadmits ⟨f, ?_, hty, by simpa using hm⟩
      cases hdec : Frame.decode message s.config.maxFramePayload with
      | error err => rw [taken_of_error hopen hdec] at hf; cases hf
      | ok f' =>
        rw [taken_of_ok hopen hdec] at hf
        rw [List.mem_singleton.mp hf]
  | connectionEnded =>
    rw [show (s.step .connectionEnded).state.lobby = s.lobby from coarse_lobby.terminate s _]
    exact .none (by simp) (by simp) (fun f hf => nomatch hf) rfl
  | connectionFailed text =>
    rw [show (s.step (.connectionFailed text)).state.lobby = s.lobby from
      coarse_lobby.terminate s _]
    exact .none (by simp) (by simp) (fun f hf => nomatch hf) rfl
  | sent f => exact .none (by simp) (by simp) (fun f hf => nomatch hf) rfl

/-! ## Every step so far -/

/-- The two lines, if these streams were admitted, these refused and these handed out, to these
calls, and these calls were made and these given up. -/
structure Tally (l : Lobby) (admitted refused : List UInt32) (handed : List (Nat × UInt32))
    (started cancelled : List Nat) : Prop where
  streams : Line admitted (handed.map (·.2)) l.backlog refused
  calls : Line started (handed.map (·.1)) l.acceptors cancelled
  accepted : l.accepted = handed.length
  refused : l.refused = refused.length

variable {l : Lobby} {admitted refused : List UInt32} {handed : List (Nat × UInt32)}
  {started cancelled : List Nat}

/-- A call gets in line unless it stands there. -/
theorem Tally.getInLine (h : Tally s.lobby admitted refused handed started cancelled)
    (ticket : Nat) : Tally { s.lobby with acceptors := s.lineUp ticket } admitted refused handed
      (started ++ s.startedBy (.call (.accept ticket))) cancelled := by
  by_cases hmem : ticket ∈ s.acceptors
  · simp only [lineUp, startedBy, hmem, if_true, List.append_nil]
    exact h
  · simp only [lineUp, startedBy, hmem, if_false]
    exact ⟨h.streams, h.calls.join ticket, h.accepted, h.refused⟩

/-- The fronts of the two lines meet. -/
theorem Tally.serve {rest : List UInt32} {others : List Nat}
    (h : Tally l admitted refused handed started cancelled)
    (hb : l.backlog = id :: rest) (ha : l.acceptors = ticket :: others) :
    Tally { l with backlog := rest, acceptors := others, accepted := l.accepted + 1 }
      admitted refused (handed ++ [(ticket, id)]) started cancelled := by
  have hstreams := h.streams
  have hcalls := h.calls
  rw [hb] at hstreams
  rw [ha] at hcalls
  refine ⟨?_, ?_, ?_, h.refused⟩
  · rw [List.map_append]
    exact hstreams.serve
  · rw [List.map_append]
    exact hcalls.serve
  · rw [List.length_append, h.accepted]
    rfl

theorem Tally.giveUp (h : Tally s.lobby admitted refused handed started cancelled) (ticket : Nat) :
    Tally { s.lobby with acceptors := s.acceptors.erase ticket } admitted refused handed started
      (cancelled ++ s.cancelledBy (.call (.cancelAccept ticket))) := by
  by_cases hmem : ticket ∈ s.acceptors
  · simp only [cancelledBy, hmem, if_true]
    exact ⟨h.streams, h.calls.leave hmem, h.accepted, h.refused⟩
  · simp only [cancelledBy, hmem, if_false, List.append_nil, List.erase_of_not_mem hmem]
    exact h

theorem Tally.step {l' : Lobby} (h : Tally s.lobby admitted refused handed started cancelled)
    (hq : s.Queueing e l') :
    Tally l' (admitted ++ s.admittedBy e) (refused ++ s.refusedBy e) (handed ++ s.handedBy e)
      (started ++ s.startedBy e) (cancelled ++ s.cancelledBy e) := by
  cases hq with
  | none haccept hcancel _ hids =>
    rw [refusedBy, hids, handedBy_eq_nil haccept, startedBy_eq_nil haccept,
      cancelledBy_eq_nil hcancel]
    simpa using h
  | @queued message f he _ _ _ hids hrefused =>
    subst he
    rw [hids, hrefused, handedBy_eq_nil (by simp), startedBy_eq_nil (by simp),
      cancelledBy_eq_nil (by simp)]
    simp only [List.append_nil]
    exact ⟨h.streams.join f.streamId, h.calls, h.accepted, h.refused⟩
  | @refused message f he _ _ _ hids hrefused =>
    subst he
    rw [hids, hrefused, handedBy_eq_nil (by simp), startedBy_eq_nil (by simp),
      cancelledBy_eq_nil (by simp)]
    simp only [List.append_nil]
    refine ⟨h.streams.turnAway f.streamId, h.calls, h.accepted, ?_⟩
    rw [List.length_append, h.refused]
    rfl
  | @waits ticket he hhanded =>
    subst he
    rw [hhanded, refusedBy, cancelledBy_eq_nil (by simp)]
    simpa [admittedBy] using h.getInLine ticket
  | @served ticket id rest others he hline hb hhanded =>
    subst he
    rw [hhanded, refusedBy, cancelledBy_eq_nil (by simp)]
    simpa [admittedBy] using (h.getInLine ticket).serve hb hline
  | @cancelled ticket he =>
    subst he
    rw [refusedBy, handedBy_eq_nil (by simp), startedBy_eq_nil (by simp)]
    simpa [admittedBy] using h.giveUp ticket

theorem Tally.length_eq (h : Tally l admitted refused handed started cancelled) :
    l.accepted + l.refused + l.backlog.length = admitted.length := by
  have hlength := h.streams.places.length_eq
  rw [List.length_append, List.length_append, List.length_map] at hlength
  rw [h.accepted, h.refused]
  omega

theorem tally (hopen : ((make role config).after es).ended = none) :
    Tally ((make role config).after es).lobby ((make role config).admittedIds es)
      ((make role config).refusedIds es)
      ((make role config).handedOut es) ((make role config).started es)
        ((make role config).cancelled es) := by
  induction es using List.reverseRecOn with
  | nil => exact ⟨⟨.nil, .slnil⟩, ⟨.nil, .slnil⟩, rfl, rfl⟩
  | append_singleton es e ih =>
    have hbefore := ended_after_mono hopen
    have hqueueing := queueing (wellFormed_after role config es) hbefore e
    simp only [refusedIds, handedOut, started, cancelled, along_concat, admittedIds_concat,
      after_concat] at ih ⊢
    exact (ih hbefore).step hqueueing

theorem Queueing.length_backlog_le {l : Lobby} (hq : s.Queueing e l)
    (h : s.backlog.length ≤ s.config.acceptBacklog) :
    l.backlog.length ≤ s.config.acceptBacklog := by
  cases hq with
  | none | refused | waits | cancelled => exact h
  | queued _ _ _ _ _ _ hroom =>
    rw [List.length_append, List.length_singleton]
    omega
  | served _ _ hb =>
    rw [hb, List.length_cons] at h
    exact Nat.le_of_succ_le h

theorem length_backlog_le (hopen : ((make role config).after es).ended = none) :
    ((make role config).after es).backlog.length ≤ config.acceptBacklog := by
  induction es using List.reverseRecOn with
  | nil => exact Nat.zero_le _
  | append_singleton es e ih =>
    have hbefore := ended_after_mono hopen
    have hqueueing := queueing (wellFormed_after role config es) hbefore e
    have hroom := hqueueing.length_backlog_le (by rw [config_after]; exact ih hbefore)
    rw [config_after] at hroom
    rw [after_concat]
    exact hroom

/-! ## Admission -/

theorem mayOpen_iff_of_named {opened admitted : List UInt32} (wf : s.WellFormed)
    (hopen : s.ended = none) (hnamed : Named s.role s opened admitted) :
    s.mayOpen id = true ↔ id ≠ 0 ∧ s.role.other.owns id = true ∧ ∀ i ∈ admitted, i < id := by
  rw [mayOpen_iff]
  refine and_congr_right fun hzero => ?_
  rw [Role.owns_other hzero, Bool.not_eq_true']
  refine and_congr_right fun _ => ⟨fun hlast i hi => ?_, fun habove => ?_⟩
  · have hle := hnamed.last i hi
    rw [UInt32.le_iff_toNat_le] at hle
    rw [UInt32.lt_iff_toNat_lt] at hlast ⊢
    omega
  · rcases wf.lastRemote hopen with hnone | ⟨st, hm, hid, howned⟩
    · rw [hnone, UInt32.lt_iff_toNat_lt]
      exact Nat.pos_of_ne_zero fun h => hzero (UInt32.toNat_inj.mp h)
    · refine habove _ ?_
      rw [← hnamed.theirs, List.mem_filter, ← hid]
      exact ⟨List.mem_map_of_mem hm, by rw [howned]; rfl⟩

theorem letIn_eq {opened admitted : List UInt32} (wf : s.WellFormed) (hopen : s.ended = none)
    (hnamed : Named s.role s opened admitted) :
    letIn s.role admitted id = if s.mayOpen id then admitted ++ [id] else admitted := by
  simp only [letIn, mayOpen_iff_of_named wf hopen hnamed, List.all_eq_true, decide_eq_true_eq]

theorem Queueing.admittedBy_eq {l : Lobby} {opened admitted : List UInt32} (hq : s.Queueing e l)
    (wf : s.WellFormed) (hopen : s.ended = .none) (hnamed : Named s.role s opened admitted) :
    admitted ++ s.admittedBy e =
      (((s.taken e).filter (·.type = .syn)).map (·.streamId)).foldl (letIn s.role) admitted := by
  have admits {f : Frame} (htaken : s.taken e = [f]) (hty : f.type = .syn)
      (hm : s.mayOpen f.streamId = true) :
      (((s.taken e).filter (·.type = .syn)).map (·.streamId)).foldl (letIn s.role) admitted =
        admitted ++ [f.streamId] := by
    rw [htaken, List.filter_cons_of_pos (by simpa using hty)]
    show letIn s.role admitted f.streamId = _
    rw [letIn_eq wf hopen hnamed, if_pos hm]
  cases hq with
  | none _ _ hnone hids =>
    rw [hids, List.append_nil]
    refine (List.foldlRecOn (motive := (· = admitted)) _ _ rfl ?_).symm
    rintro _ rfl i hi
    obtain ⟨f, hf, rfl⟩ := List.mem_map.mp hi
    obtain ⟨hf, hty⟩ := List.mem_filter.mp hf
    rw [letIn_eq wf hopen hnamed, hnone f hf (by simpa using hty)]
    rfl
  | queued _ htaken hty hm hids | refused _ htaken hty hm hids => rw [hids, admits htaken hty hm]
  | waits he | served he | cancelled he =>
    subst he
    exact List.append_nil admitted

/-- The streams that are admitted are those of the SYNs with an id of the peer above all before. -/
theorem admittedIds_eq (hopen : ((make role config).after es).ended = none) :
    (make role config).admittedIds es = ((make role config).synIds es).foldl (letIn role) [] := by
  induction es using List.reverseRecOn with
  | nil => rfl
  | append_singleton es e ih =>
    have hbefore := ended_after_mono hopen
    have wf := wellFormed_after role config es
    have hrole := role_after role config es
    have hnamed := named role config es
    have hqueueing := queueing wf hbefore e
    rw [synIds, takenOf_concat, List.filter_append, List.map_append, ← synIds, List.foldl_append,
      ← ih hbefore, admittedIds_concat]
    generalize (make role config).after es = s at *
    subst hrole
    exact hqueueing.admittedBy_eq wf hbefore hnamed

/-! ## What becomes of a stream -/

/-- A stream that a step admits comes to be in it. -/
theorem fresh_of_admitted (wf : s.WellFormed) (h : id ∈ s.admittedBy e) :
    (∃ message, e = .message message) ∧ s.find? id = none ∧ (s.step e).state.find? id ≠ none := by
  cases naming wf e with
  | none hids => rw [admittedBy_of_ids_eq hids] at h; cases h
  | opened he => subst he; cases h
  | @admitted message f he _ _ hm hids =>
    subst he
    rw [admittedBy, hids, List.drop_left] at h
    obtain rfl := List.mem_singleton.mp h
    refine ⟨⟨message, rfl⟩, wf.find?_of_mayOpen hm, fun hnone => ?_⟩
    have hmem : f.streamId ∈ (s.step (.message message)).state.ids := by
      rw [hids]
      exact List.mem_append_right _ (List.mem_singleton_self _)
    obtain ⟨st, hst, hid⟩ := List.mem_map.mp hmem
    exact find?_eq_none_iff.mp hnone st hst hid

/-- A stream that was refused is aborted, and its RST is all that is ever queued for it. -/
theorem aborted_of_refused (h : id ∈ (make role config).refusedIds es) :
    (∃ st, ((make role config).after es).find? id = some st ∧ st.reset = some .here) ∧
      (make role config).framesFor id es = [.rst id] := by
  induction es using List.reverseRecOn with
  | nil => cases h
  | append_singleton es e ih =>
    have wf := wellFormed_after role config es
    rw [refusedIds, along_concat, List.mem_append] at h
    rw [framesFor_eq, traffic_concat, Traffic.sent_append, ← framesFor_eq, after_concat]
    rcases h with hold | hnew
    · obtain ⟨⟨st, hst, hr⟩, hframes⟩ := ih hold
      have hlast := (final_after [e] wf hst (Stream.isTerminal_of_reset (by simp [hr]))).2
      rw [framesFor_eq, traffic, traffic, Traffic.append_empty] at hlast
      rw [hframes, hlast]
      exact ⟨reset_after [e] wf hst hr, rfl⟩
    · obtain ⟨hadmitted, haway⟩ := List.mem_filter.mp hnew
      obtain ⟨⟨message, rfl⟩, hnone, hsome⟩ := fresh_of_admitted wf hadmitted
      rw [framesFor_eq, traffic_eq_empty hnone]
      cases birth wf hnone hsome with
      | opened he => cases he
      | announced _ _ hmem => simp [hmem] at haway
      | refused _ _ _ hst hsent =>
        rw [hsent]
        exact ⟨⟨_, hst, Stream.refused_reset⟩, rfl⟩

theorem untracked_of_refused (h : id ∈ (make role config).refusedIds es) :
    ((make role config).after es).tracked? id = none := by
  have wf := wellFormed_after role config es
  obtain ⟨⟨st, hst, hr⟩, -⟩ := aborted_of_refused h
  obtain rfl := find?_id hst
  rw [tracked?_of_find? wf hst, if_neg]
  intro ht
  rw [(wf.sound st (mem_of_find? hst)).reset_eq_none ht] at hr
  cases hr

/-- A session that is open refuses what it admits just when as many streams wait as may. -/
theorem Queueing.refused_iff {l : Lobby} (hq : s.Queueing e l)
    (hroom : s.backlog.length ≤ s.config.acceptBacklog)
    (hadmitted : s.admittedBy e = [id]) : s.refusedBy e = [id] ↔
    s.backlog.length = s.config.acceptBacklog := by
  cases hq with
  | none _ _ _ hids => rw [hids] at hadmitted; cases hadmitted
  | queued _ _ _ _ _ hrefused hlt =>
    rw [hrefused]
    exact ⟨(nomatch ·), fun h => absurd h (Nat.ne_of_lt hlt)⟩
  | refused _ _ _ _ hids hrefused hle =>
    rw [hrefused, ← hids, hadmitted]
    exact ⟨fun _ => Nat.le_antisymm hroom hle, fun _ => rfl⟩
  | waits he | served he | cancelled he => subst he; cases hadmitted

/-- A call of accept is answered with a stream just when it is the first in line, and then with
the stream that waits longest. -/
theorem accepted_iff (wf : s.WellFormed) (hopen : s.ended = none) :
    (s.step (.call (.accept ticket))).result = .accepted (.ready (.ok id)) ↔
      (s.lineUp ticket).head? = some ticket ∧ s.backlog.head? = some id := by
  have hattempt := attempt wf ticket
  rw [show (s.step (.call (.accept ticket))).result = .accepted (s.accept ticket).result from rfl,
    Reply.accepted.injEq]
  generalize (s.accept ticket).result = answer at hattempt
  generalize (s.accept ticket).state = s' at hattempt
  cases hattempt with
  | behind hbehind => simp [hbehind]
  | waits _ _ hb => simp [hb]
  | fails _ hended => cases hopen.symm.trans hended
  | served hhead _ hb => simp [hhead, hb]

/-! ## Any run -/

/-- How a session has attended to the streams of the peer in the course of these events. -/
structure Attended (s : Session) (es : List Event) : Prop where
  /-- Those are admitted whose SYN has an id of the peer above all that were admitted before. -/
  admitted : s.admittedIds es = (s.synIds es).foldl (letIn s.role) []
  distinct : (s.admittedIds es).Nodup
  /-- Each of them was handed out once, in the order in which they came, waits or was refused. -/
  streams : Line (s.admittedIds es) ((s.handedOut es).map (·.2)) (s.after es).backlog
    (s.refusedIds es)
  room : (s.after es).backlog.length ≤ s.config.acceptBacklog
  refuses : ∀ e id, (s.after es).admittedBy e = [id] →
    ((s.after es).refusedBy e = [id] ↔ (s.after es).backlog.length = s.config.acceptBacklog)
  refused : ∀ id ∈ s.refusedIds es, s.framesFor id es = [.rst id] ∧ (s.after es).tracked? id = none
  /-- Each call was answered with a stream, in the order in which they came, waits or was given
  up. -/
  calls : Line (s.started es) ((s.handedOut es).map (·.1)) (s.after es).acceptors (s.cancelled es)
  gives : ∀ ticket id, ((s.after es).step (.call (.accept ticket))).result =
    .accepted (.ready (.ok id)) ↔
    ((s.after es).lineUp ticket).head? = some ticket ∧ (s.after es).backlog.head? = some id
  /-- A call that is given up takes no stream, then or before. -/
  cancels : ∀ ticket, s.after (es ++ [.call (.cancelAccept ticket)]) =
    { s.after es with acceptors := (s.after es).acceptors.erase ticket }
  spared : (s.started es).Nodup → ∀ ticket ∈ s.cancelled es, ∀ id, (ticket, id) ∉ s.handedOut es
  accepted : (s.after es).stats.streamsAccepted = (s.handedOut es).length
  turnedAway : (s.after es).stats.streamsRefused = (s.refusedIds es).length
  counts : (s.after es).stats.streamsAccepted + (s.after es).stats.streamsRefused +
    (s.after es).backlog.length =
    (s.admittedIds es).length

/-- Whatever the peer sends and the application asks for: in a session that is open each stream
that was admitted is in one place, and both lines go by the order of arrival. -/
theorem accept_queue (role : Role) (config : Config) (es : List Event)
    (hopen : ((make role config).after es).ended = none) : (make role config).Attended es := by
  have wf := wellFormed_after role config es
  have htally := tally hopen
  have hroom := length_backlog_le hopen
  have hsorted := (named role config es).sorted
  refine ⟨admittedIds_eq hopen, ?_, htally.streams, hroom, ?_, ?_, htally.calls, ?_, ?_, ?_,
    htally.accepted, htally.refused, htally.length_eq⟩
  · exact hsorted.imp UInt32.ne_of_lt
  · intro e id hadmitted
    have hconfig := config_after role config es
    rw [(queueing wf hopen e).refused_iff (by rwa [hconfig]) hadmitted, hconfig]
    rfl
  · intro id hrefused
    exact ⟨(aborted_of_refused hrefused).2, untracked_of_refused hrefused⟩
  · intro ticket id
    exact accepted_iff wf hopen
  · intro ticket
    exact after_append
  · intro hdistinct ticket hcancelled id hhanded
    exact htally.calls.not_mem_served hdistinct hcancelled (List.mem_map_of_mem hhanded)

/-- Two calls wait when the peer opens a stream, and another one for which there is no room; then
the second of them takes the place of the first. -/
def queueOfOne : List Event :=
  [.call (.accept 6), .call (.accept 7), .message (Frame.syn 1).encode,
    .message (Frame.syn 3).encode, .call (.cancelAccept 6), .call (.accept 7)]

theorem accept_queue_of_one_place :
    (make .server ⟨4, 4, 50, 1⟩).handedOut queueOfOne = [(7, 1)] ∧
      (make .server ⟨4, 4, 50, 1⟩).refusedIds queueOfOne = [3] ∧
      (make .server ⟨4, 4, 50, 1⟩).framesFor 3 queueOfOne = [.rst 3] := by
  have hrefused : (make .server ⟨4, 4, 50, 1⟩).refusedIds queueOfOne = [3] := by decide
  refine ⟨rfl, hrefused, ?_⟩
  have hattended := accept_queue .server ⟨4, 4, 50, 1⟩ queueOfOne rfl
  exact (hattended.refused 3 (by rw [hrefused]; exact List.mem_singleton_self 3)).1

end StreamMux.Session

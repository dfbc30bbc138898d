/-
A run of the link, seen from its two ends: each move is at most one event for
one of them, and every message one end reads is one the other wrote, in order.
Until the connection is cut none is missing; from then on each end has read a
first part of what the other wrote, and what is still under way continues it.
-/
import StreamMux.Link
import StreamMux.Proofs.Conversation

namespace StreamMux

theorem Role.eq_or_eq_other (r r' : Role) : r' = r ∨ r' = r.other := by cases r <;> cases r' <;>
    simp [Role.other]

@[simp] theorem Role.other_ne (r : Role) : r.other ≠ r := by cases r <;> simp [Role.other]

@[simp] theorem Role.ne_other (r : Role) : r ≠ r.other := by cases r <;> simp [Role.other]

namespace Link

open Session (Event Call messages messages_append)

variable {l l' : Link} {r r' : Role} {m : Move} {moves moves' : List Move}

theorem session_make {config : Config} :
    ((make config).endOf r).session = .make r config := by cases r <;> rfl

@[simp] theorem endOf_setEnd {e : End} : (l.setEnd r e).endOf r = e := by cases r <;> rfl
@[simp] theorem endOf_setEnd_other {e : End} :
    (l.setEnd r e).endOf r.other = l.endOf r.other := by cases r <;> rfl
@[simp] theorem endOf_setEnd_of_other {e : End} :
    (l.setEnd r.other e).endOf r = l.endOf r := by cases r <;> rfl
@[simp] theorem cut_setEnd {e : End} : (l.setEnd r e).cut = l.cut := by cases r <;> rfl

@[simp] theorem endOf_perform {α : Type} {op : Session → Outcome Session α} :
    (l.perform r op).2.endOf r = { l.endOf r with
      session := (op (l.endOf r).session).state, queue :=
        (l.endOf r).queue ++ (op (l.endOf r).session).frames } := by
  simp [perform]
@[simp] theorem endOf_perform_other {α : Type} {op : Session → Outcome Session α} :
    (l.perform r op).2.endOf r.other = l.endOf r.other := by simp [perform]
@[simp] theorem cut_perform {α : Type} {op : Session → Outcome Session α} :
    (l.perform r op).2.cut = l.cut := by
  simp [perform]

/-! ## Moves -/

/-- One event at one end. -/
def only (r : Role) (e : Event) : Role → List Event := fun r' => if r' = r then [e] else []

@[simp] theorem only_self {e : Event} : only r e r = [e] := if_pos rfl
@[simp] theorem only_other {e : Event} : only r e r.other = [] := if_neg (Role.other_ne r)

/-- What a move is to the sessions of the two ends. -/
def happens (l : Link) : Move → Role → List Event
  | .call r c => only r (.call c)
  | .write r =>
    match (l.endOf r).queue with
    | [] => fun _ => []
    | f :: _ => if l.cut then only r (.connectionFailed "connection cut") else only r (.sent f)
  | .read r =>
    match (l.endOf r.other).underWay with
    | message :: _ => only r (.message message)
    | [] => if (l.endOf r.other).hungUp || l.cut then only r .connectionEnded else fun _ => []
  | .hangUp _ => fun _ => []
  | .sever _ _ => fun _ => []
  | .lose r =>
    match (l.endOf r).queue with
    | [] => fun _ => []
    | f :: _ => if l.cut then only r (.sent f) else fun _ => []
  | .fail r text => if l.cut then only r (.connectionFailed text) else fun _ => []

theorem happens_read {message : Bytes} {rest : List Bytes}
    (hw : (l.endOf r.other).underWay = message :: rest) :
    l.happens (.read r) = only r (.message message) := by
  simp only [happens, hw]

/-- What a move does: the events it is to the two ends, and the link afterwards. -/
inductive Act (l : Link) : Move → (Role → List Event) → Link → Prop
  | idle {m : Move} : Act l m (fun _ => []) l
  | call {r : Role} {c : Call} : Act l (.call r c) (only r (.call c)) (l.perform r (·.call c)).2
  | wrote {r : Role} {f : Frame} {rest : List Frame} : (l.endOf r).queue = f :: rest →
    l.cut = false →
    Act l (.write r) (only r (.sent f)) (l.setEnd r { l.endOf r with
      queue := rest
      underWay := (l.endOf r).underWay ++ [f.encode]
      session := (l.endOf r).session.recordSent f })
  | failed {r : Role} : l.cut = true →
    Act l (.write r) (only r (.connectionFailed "connection cut"))
      (l.perform r (·.connectionFailed "connection cut")).2
  | received {r : Role} {message : Bytes} {rest : List Bytes} :
    (l.endOf r.other).underWay = message :: rest →
    Act l (.read r) (only r (.message message))
      ((l.setEnd r.other { l.endOf r.other with underWay := rest }).perform r (·.receive message)).2
  | ended {r : Role} : (l.endOf r.other).underWay = [] →
    Act l (.read r) (only r .connectionEnded) (l.perform r (·.connectionEnded)).2
  | hungUp {r : Role} :
    Act l (.hangUp r) (fun _ => []) (l.setEnd r { l.endOf r with hungUp := true })
  | severed {a b : Nat} : Act l (.sever a b) (fun _ => []) (l.sever a b)
  | lost {r : Role} {f : Frame} {rest : List Frame} : (l.endOf r).queue = f :: rest → l.cut = true →
    Act l (.lose r) (only r (.sent f))
      (l.setEnd r { l.endOf r with queue := rest, session := (l.endOf r).session.recordSent f })
  | noticed {r : Role} {text : String} : l.cut = true →
    Act l (.fail r text) (only r (.connectionFailed text)) (l.perform r (·.connectionFailed text)).2

theorem act_of_step (l : Link) (m : Move) : l.Act m (l.happens m) (l.step m).2 := by
  cases m with
  | call r c => exact .call
  | write r =>
    simp only [happens, step, write]
    cases hq : (l.endOf r).queue with
    | nil => exact .idle
    | cons f rest =>
      cases hc : l.cut with
      | true => exact .failed hc
      | false => exact .wrote hq hc
  | read r =>
    simp only [happens, step, read]
    cases hw : (l.endOf r.other).underWay with
    | cons message rest => exact .received hw
    | nil =>
      simp only
      split
      · exact .ended hw
      · exact .idle
  | hangUp r =>
    simp only [happens, step, hangUp]
    split
    · exact .hungUp
    · exact .idle
  | sever a b => exact .severed
  | lose r =>
    simp only [happens, step, lose]
    cases hq : (l.endOf r).queue with
    | nil => exact .idle
    | cons f rest =>
      cases hc : l.cut with
      | true => exact .lost hq hc
      | false => exact .idle
  | fail r text =>
    simp only [happens, step, fail]
    cases hc : l.cut with
    | true => exact .noticed hc
    | false => exact .idle

/-- The session of an end goes by the events of that end. -/
theorem Act.session {ev : Role → List Event} (h : l.Act m ev l') (r : Role) :
    (l'.endOf r).session = (l.endOf r).session.after (ev r) := by
  cases h with
  | idle => rfl
  | @call r' | @failed r' | @ended r' | @noticed r' =>
    rcases Role.eq_or_eq_other r' r with rfl | rfl
    · simp [Session.after, Session.step, Session.Outcome.as]
    · simp [Session.after]
  | @received r' | @wrote r' | @lost r' =>
    rcases Role.eq_or_eq_other r' r with rfl | rfl
    · simp [Session.after, Session.step, Session.Outcome.as]
    · simp [Session.after]
  | @hungUp r' =>
    rcases Role.eq_or_eq_other r' r with rfl | rfl
    · simp [Session.after]
    · simp [Session.after]
  | severed => cases r <;> rfl

/-- A move is at most one event for an end, and a message only if it was under way. -/
theorem Act.event {ev : Role → List Event} (h : l.Act m ev l') (r : Role) :
    ev r = [] ∨
      ∃ e, ev r = [e] ∧ ∀ message, e = .message message → ∃ rest,
        (l.endOf r.other).underWay = message :: rest := by
  cases h with
  | idle | hungUp | severed => exact .inl rfl
  | @call r' | @failed r' | @ended r' | @noticed r' | @wrote r' | @lost r' =>
    rcases Role.eq_or_eq_other r' r with rfl | rfl
    · exact .inr ⟨_, only_self, by simp⟩
    · exact .inl only_other
  | @received r' message rest hw =>
    rcases Role.eq_or_eq_other r' r with rfl | rfl
    · refine .inr ⟨_, only_self, fun message he => ⟨rest, ?_⟩⟩
      rw [hw, Event.message.inj he]
    · exact .inl only_other

/-- A move is a call for an end only if it is that call at that end. -/
theorem Act.call_inv {ev : Role → List Event} (h : l.Act m ev l') {c : Call} (hc : .call c ∈ ev r) :
    m = .call r c := by
  cases h with
  | idle | hungUp | severed => cases hc
  | @call r' c' | @failed r' | @ended r' | @noticed r' | @wrote r' | @lost r' | @received r' =>
    rcases Role.eq_or_eq_other r' r with rfl | rfl
    · simp only [only_self, List.mem_singleton] at hc
      cases hc <;> rfl
    · simp at hc

/-- A move is a message for an end only if it reads that message. -/
theorem Act.message_inv {ev : Role → List Event} (h : l.Act m ev l') {message : Bytes}
    (hm : .message message ∈ ev r) : m = .read r ∧ ∃ rest,
    (l.endOf r.other).underWay = message :: rest := by
  cases h with
  | idle | hungUp | severed => cases hm
  | @call r' c' | @failed r' | @ended r' | @noticed r' | @wrote r' | @lost r' =>
    rcases Role.eq_or_eq_other r' r with rfl | rfl <;> simp at hm
  | @received r' message' rest hw =>
    rcases Role.eq_or_eq_other r' r with rfl | rfl
    · simp only [only_self, List.mem_singleton] at hm
      cases hm
      exact ⟨rfl, rest, hw⟩
    · simp at hm

/-! ## What is under way -/

/-- What moves from the queue of the end `r` onto the connection, and from there to the other
end. -/
structure Flow (l l' : Link) (ev : Role → List Event) (r : Role) (gone : List Frame) : Prop where
  queue : (l.endOf r).queue ++ (l.endOf r).session.framesOf (ev r) = gone ++ (l'.endOf r).queue
  cut : l.cut = true → l'.cut = true ∧ messages (ev r.other) ++ (l'.endOf r).underWay <+:
    (l.endOf r).underWay
  whole : l'.cut = false →
    messages (ev r.other) ++ (l'.endOf r).underWay = (l.endOf r).underWay ++ gone.map Frame.encode
  part : l.cut = false →
    messages (ev r.other) ++ (l'.endOf r).underWay <+: (l.endOf r).underWay ++ gone.map Frame.encode

/-- Nothing moves. -/
theorem Flow.stay {ev : Role → List Event} (hc : l'.cut = l.cut) (hm : messages (ev r.other) = [])
    (hq : (l'.endOf r).queue = (l.endOf r).queue ++ (l.endOf r).session.framesOf (ev r))
    (hu : (l'.endOf r).underWay = (l.endOf r).underWay) : Flow l l' ev r [] := by
  refine ⟨hq.symm, fun h => ⟨hc.trans h, ?_⟩, fun _ => ?_, fun _ => ?_⟩
  all_goals simp [hm, hu]

theorem Act.flow {ev : Role → List Event} (h : l.Act m ev l') (r : Role) :
    ∃ gone, Flow l l' ev r gone := by
  cases h with
  | idle => exact ⟨[], .stay rfl rfl (by simp [Session.framesOf]) rfl⟩
  | @call r' | @failed r' | @ended r' | @noticed r' =>
    refine ⟨[], .stay cut_perform ?_ ?_ ?_⟩
    all_goals rcases Role.eq_or_eq_other r' r with rfl | rfl <;>
      simp [Session.framesOf, Session.step, Session.Outcome.as, messages]
  | @hungUp r' =>
    refine ⟨[], .stay cut_setEnd ?_ ?_ ?_⟩
    all_goals rcases Role.eq_or_eq_other r' r with rfl | rfl <;> simp [Session.framesOf, messages]
  | @wrote r' f rest hq hc =>
    rcases Role.eq_or_eq_other r' r with rfl | rfl
    · refine ⟨[f], ?_, fun h => ?_, fun _ => ?_, fun _ => ?_⟩
      · simp [Session.framesOf, Session.step, hq]
      · rw [hc] at h; cases h
      all_goals simp [messages]
    · refine ⟨[], .stay cut_setEnd ?_ ?_ ?_⟩
      all_goals simp [Session.framesOf, messages]
  | @lost r' f rest hq hc =>
    rcases Role.eq_or_eq_other r' r with rfl | rfl
    · refine ⟨[f], ?_, fun _ => ⟨by simpa using hc, ?_⟩, fun h => ?_, fun h => ?_⟩
      · simp [Session.framesOf, Session.step, hq]
      · simp [messages]
      · rw [cut_setEnd, hc] at h; cases h
      · rw [hc] at h; cases h
    · refine ⟨[], .stay cut_setEnd ?_ ?_ ?_⟩
      all_goals simp [Session.framesOf, messages]
  | @received r' message rest hw =>
    rcases Role.eq_or_eq_other r' r with rfl | rfl
    · refine ⟨[], .stay (by simp) ?_ ?_ ?_⟩
      all_goals simp [Session.framesOf, Session.step, Session.Outcome.as, messages]
    · refine ⟨[], ?_, fun h => ⟨by simpa using h, ?_⟩, fun _ => ?_, fun _ => ?_⟩
      all_goals simp [Session.framesOf, messages, hw]
  | @severed a b =>
    refine ⟨[], ?_, fun _ => ⟨rfl, ?_⟩, fun h => ?_, fun _ => ?_⟩
    · cases r <;> simp [sever, endOf, Session.framesOf]
    · cases r <;> simp [sever, endOf, messages, List.take_prefix]
    · cases h
    · cases r <;> simp [sever, endOf, messages, List.take_prefix]

/-! ## Runs -/

/-- What a run is to the session of the end `r`. -/
def events (l : Link) (r : Role) : List Move → List Event
  | [] => []
  | m :: rest => l.happens m r ++ events (l.step m).2 r rest

theorem after_append : l.after (moves ++ moves') = (l.after moves).after moves' := List.foldl_append

@[simp] theorem after_concat : l.after (moves ++ [m]) = ((l.after moves).step m).2 := after_append

theorem events_append :
    l.events r (moves ++ moves') = l.events r moves ++ (l.after moves).events r moves' := by
  induction moves generalizing l with
  | nil => rfl
  | cons m moves ih => simp [events, ih, after]

@[simp] theorem events_concat :
    l.events r (moves ++ [m]) = l.events r moves ++ (l.after moves).happens m r := by
  simp [events_append, events]

theorem reachable_after (config : Config) (moves : List Move) :
    ((make config).after moves).Reachable config := by
  induction moves using List.reverseRecOn with
  | nil => exact .start
  | append_singleton moves m ih =>
    rw [after_concat]
    exact .step m ih

/-- What can be met is what some run leads to. -/
theorem Reachable.exists_run {config : Config} (h : l.Reachable config) :
    ∃ moves, l = (make config).after moves := by
  induction h with
  | start => exact ⟨[], rfl⟩
  | @step l m _ ih =>
    obtain ⟨moves, rfl⟩ := ih
    exact ⟨moves ++ [m], after_concat.symm⟩

theorem session_after (l : Link) (r : Role) (moves : List Move) :
    ((l.after moves).endOf r).session = (l.endOf r).session.after (l.events r moves) := by
  induction moves generalizing l with
  | nil => rfl
  | cons m moves ih =>
    show (((l.step m).2.after moves).endOf r).session = _
    rw [ih, (act_of_step l m).session r, events, Session.after_append]

/-- The messages that the other end has read of the end `r`, and those still under
way, are a first part of what the end `r` has taken off its queue; all of it until
the connection is cut. -/
theorem wire (config : Config) (moves : List Move) (r : Role) :
    ∃ gone, (Session.make r config).framesOf ((make config).events r moves) =
        gone ++ (((make config).after moves).endOf r).queue ∧
      messages ((make config).events r.other moves) ++
        (((make config).after moves).endOf r).underWay <+:
        gone.map Frame.encode ∧
      (((make config).after moves).cut = false →
        messages ((make config).events r.other moves) ++
          (((make config).after moves).endOf r).underWay =
          gone.map Frame.encode) := by
  induction moves using List.reverseRecOn with
  | nil => cases r <;> exact ⟨[], rfl, List.prefix_rfl, fun _ => rfl⟩
  | append_singleton moves m ih =>
    obtain ⟨gone, hsaid, hpart, hwhole⟩ := ih
    obtain ⟨more, hflow⟩ := (act_of_step ((make config).after moves) m).flow r
    have hsession := session_after (make config) r moves
    rw [session_make] at hsession
    refine ⟨gone ++ more, ?_, ?_, fun hc => ?_⟩
    · rw [events_concat, Session.framesOf_append, hsaid, ← hsession, List.append_assoc, hflow.queue,
        after_concat, List.append_assoc]
    · rw [events_concat, messages_append, List.append_assoc, after_concat, List.map_append]
      cases hcut : ((make config).after moves).cut with
      | true =>
        have hless :=
          (List.prefix_append_right_inj (messages ((make config).events r.other moves))).mpr
            (hflow.cut hcut).2
        exact hless.trans (hpart.trans (List.prefix_append _ _))
      | false =>
        rw [← hwhole hcut, List.append_assoc]
        exact (List.prefix_append_right_inj _).mpr (hflow.part hcut)
    · rw [after_concat] at hc ⊢
      have hcut : ((make config).after moves).cut = false := by
        cases hcut : ((make config).after moves).cut with
        | false => rfl
        | true => rw [(hflow.cut hcut).1] at hc; cases hc
      rw [events_concat, messages_append, List.append_assoc, hflow.whole hc, ← List.append_assoc,
        hwhole hcut, List.map_append]

/-- What a run from the beginning is to the two ends. -/
abbrev history (config : Config) (moves : List Move) (r : Role) : List Event :=
  (make config).events r moves

theorem session_of_run (config : Config) (moves : List Move) (r : Role) :
    (((make config).after moves).endOf r).session = sessionOf config (history config moves) r := by
  rw [session_after, session_make]

theorem wellFormed (config : Config) (moves : List Move) (r : Role) :
    (((make config).after moves).endOf r).session.WellFormed := by
  rw [session_of_run]
  exact Conversation.wellFormed

theorem config_eq (config : Config) (moves : List Move) (r : Role) :
    (((make config).after moves).endOf r).session.config = config := by
  rw [session_of_run, Session.config_after]

theorem legal_of_said {config : Config} {moves : List Move} {r : Role} {f : Frame}
    (hf : f ∈ said config (history config moves) r) : f.Legal config.maxFramePayload :=
    Session.legal_of_frame hf

/-- What the other end of `r` has said, by what has become of it: read by `r`, under
way, lost, or queued. -/
theorem parcels (config : Config) (moves : List Move) (r : Role) : ∃ read way lost,
    said config (history config moves) r.other = read ++ way ++ lost ++
      (((make config).after moves).endOf r.other).queue ∧
    messages (history config moves r) = read.map Frame.encode ∧
    (((make config).after moves).endOf r.other).underWay = way.map Frame.encode ∧
    (((make config).after moves).cut = false → lost = []) := by
  obtain ⟨gone, hsaid, ⟨rest, hpart⟩, hwhole⟩ := wire config moves r.other
  rw [Role.other_other] at hpart hwhole
  obtain ⟨arrived, lost, rfl, harrived, _⟩ := List.append_eq_map_iff.mp hpart
  obtain ⟨read, way, rfl, hread, hway⟩ := List.append_eq_map_iff.mp harrived.symm
  refine ⟨read, way, lost, hsaid, hread.symm, hway.symm, fun hc => ?_⟩
  have hlen := congrArg List.length (hwhole hc)
  rw [← hread, ← hway] at hlen
  simp only [List.length_append, List.length_map] at hlen
  exact List.length_eq_zero_iff.mp (by omega)

/-- What an end has taken in is a first part of what the other end has said. -/
theorem heard (config : Config) (moves : List Move) (r : Role) :
    heardBy config (history config moves) r <+: said config (history config moves) r.other := by
  obtain ⟨read, way, lost, hsaid, hread, _, _⟩ := parcels config moves r
  have hlegal : ∀ f ∈ read, f.Legal config.maxFramePayload :=
    fun f hf => legal_of_said (by rw [hsaid]; simp [hf])
  rw [hsaid, List.append_assoc, List.append_assoc]
  exact (Session.takenOf_of_messages hlegal hread).1.trans (List.prefix_append _ _)

/-- The next message to be read stands for the frame that was said behind those that were read. -/
theorem next_read {config : Config} {moves : List Move} {r : Role} {message : Bytes}
    {rest : List Bytes}
    (hw : (((make config).after moves).endOf r.other).underWay = message :: rest) :
    ∃ read f, f.encode = message ∧ f.Legal config.maxFramePayload ∧
      (∀ g ∈ read, g.Legal config.maxFramePayload) ∧ messages (history config moves r) =
        read.map Frame.encode ∧
      read ++ [f] <+: said config (history config moves) r.other := by
  obtain ⟨read, way, lost, hsaid, hread, hway, _⟩ := parcels config moves r
  rw [hw] at hway
  obtain ⟨f, way, rfl, hf, _⟩ := List.map_eq_cons_iff.mp hway.symm
  refine ⟨read, f, hf, legal_of_said (by rw [hsaid]; simp),
    fun g hg => legal_of_said (by rw [hsaid]; simp [hg]), hread, ?_⟩
  rw [hsaid]
  exact ⟨way ++ lost ++ (((make config).after moves).endOf r.other).queue, by simp⟩

/-- As long as the reader is open, it has heard all of these. -/
theorem next_heard {config : Config} {moves : List Move} {r : Role} {message : Bytes}
    {rest : List Bytes}
    (hw : (((make config).after moves).endOf r.other).underWay = message :: rest)
    (hopen : (((make config).after moves).endOf r).session.ended = none) :
    ∃ f, f.encode = message ∧ f.Legal config.maxFramePayload ∧
      heardBy config (history config moves) r ++ [f] <+:
        said config (history config moves) r.other := by
  obtain ⟨read, f, hf, hlegal, hlegals, hread, hnext⟩ := next_read hw
  rw [session_of_run] at hopen
  rw [heardBy, (Session.takenOf_of_messages hlegals hread).2 hopen]
  exact ⟨f, hf, hlegal, hnext⟩

/-- What an end has read was once the next message under way to it. -/
theorem read_of_message {config : Config} {moves : List Move} {r : Role} {message : Bytes}
    (hm : message ∈ messages (history config moves r)) :
    ∃ before later rest, moves = before ++ .read r :: later ∧
      (((make config).after before).endOf r.other).underWay = message :: rest := by
  induction moves using List.reverseRecOn with
  | nil => cases hm
  | append_singleton moves m ih =>
    rw [history, events_concat, messages_append, List.mem_append] at hm
    rcases hm with hbefore | hnow
    · obtain ⟨before, later, rest, rfl, hw⟩ := ih hbefore
      exact ⟨before, later ++ [m], rest, by simp, hw⟩
    · obtain ⟨rfl, rest, hw⟩ :=
        (act_of_step ((make config).after moves) m).message_inv (Session.mem_messages.mp hnow)
      exact ⟨moves, [], rest, rfl, hw⟩

/-- The two ends of a link keep a conversation, whatever happens to them and to the connection. -/
theorem conversation (config : Config) (moves : List Move) :
    Conversation config (history config moves) := by
  refine ⟨fun r => ?_, heard config moves⟩
  induction moves using List.reverseRecOn generalizing r with
  | nil => trivial
  | append_singleton moves m ih =>
    rw [history, events_concat, Session.throughout_append]
    refine ⟨ih r, ?_⟩
    have c : Conversation config (history config moves) := ⟨ih, heard config moves⟩
    rcases (act_of_step ((make config).after moves) m).event r with hnone | ⟨e, he, hunder⟩
    · rw [hnone]; trivial
    · rw [he]
      refine ⟨fun message hmessage hopen => ?_, trivial⟩
      obtain ⟨rest, hw⟩ := hunder message hmessage
      obtain ⟨f, rfl, hlegal, hnext⟩ := next_heard hw (by rw [session_of_run]; exact hopen)
      refine ⟨f, ?_, c.welcome hnext hopen⟩
      rw [Session.config_after]
      exact Frame.decode_encode hlegal

/-- Frames of the end `r` that are queued, on the wire or read but not looked at yet. -/
def inFlight (l : Link) (r : Role) : List Frame :=
  (l.endOf r).underWay.filterMap (fun message =>
    (Frame.decode message (l.endOf r).session.config.maxFramePayload).toOption) ++ (l.endOf r).queue

theorem filterMap_decode {max : UInt32} {fs : List Frame} (h : ∀ f ∈ fs, f.Legal max) :
    (fs.map Frame.encode).filterMap (fun message => (Frame.decode message max).toOption) = fs := by
  induction fs with
  | nil => rfl
  | cons f fs ih =>
    have hf := Frame.decode_encode (h f (by simp))
    rw [List.map_cons, List.filterMap_cons_some (by rw [hf]; rfl),
      ih fun g hg => h g (by simp [hg])]

/-- On a connection that was not cut, everything said was heard or is in flight, as long as the
hearer is open. -/
theorem said_eq {config : Config} {moves : List Move} {r : Role}
    (hcut : ((make config).after moves).cut = false)
    (hopen : (((make config).after moves).endOf r).session.ended = none) :
    said config (history config moves) r.other =
      heardBy config (history config moves) r ++ ((make config).after moves).inFlight r.other := by
  obtain ⟨read, way, lost, hsaid, hread, hway, hlost⟩ := parcels config moves r
  have hlegal : ∀ f ∈ read ++ way, f.Legal config.maxFramePayload := fun f hf =>
    legal_of_said (by rw [hsaid, List.append_assoc]; exact List.mem_append_left _ hf)
  have hdecode := filterMap_decode fun f hf => hlegal f (List.mem_append_right _ hf)
  rw [session_of_run] at hopen
  rw [heardBy, hsaid, hlost hcut,
    (Session.takenOf_of_messages (fun f hf => hlegal f (List.mem_append_left _ hf)) hread).2 hopen,
    inFlight, config_eq, hway, hdecode]
  simp

/-- What of that is about the stream `id`. -/
def inFlightOf (l : Link) (r : Role) (id : UInt32) : List Frame :=
  (l.inFlight r).filter (·.streamId == id)

variable {config : Config} {id : UInt32} {st : Stream}

/-- What was sent on a stream and not taken in by the other end is in flight. -/
theorem sent_of_some (hcut : ((make config).after moves).cut = false)
    (hopen : (((make config).after moves).endOf r).session.ended = none)
    (h : (((make config).after moves).endOf r).session.find? id = some st) :
    (passed config (history config moves) r.other id).sent =
      Stream.opening (!r.owns id) id ++ (passed config (history config moves) r id).got ++
        ((make config).after moves).inFlightOf r.other id := by
  rw [session_of_run] at h
  rw [Conversation.sent_eq, said_eq hcut hopen, List.filter_append,
    (conversation config moves).heard_of_some h, inFlightOf]

/-- All of it, as long as the other end has no such stream. -/
theorem sent_of_none (hcut : ((make config).after moves).cut = false)
    (hopen : (((make config).after moves).endOf r).session.ended = none)
    (h : (((make config).after moves).endOf r).session.find? id = none) :
    (passed config (history config moves) r.other id).sent =
      ((make config).after moves).inFlightOf r.other id := by
  rw [session_of_run] at h
  rw [Conversation.sent_eq, said_eq hcut hopen, List.filter_append,
    (conversation config moves).heard_of_none h, inFlightOf, List.nil_append]

end Link
end StreamMux

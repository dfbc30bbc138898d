/-
Streams are apart from each other. What a session does with one stream can be
told from what it gets to see of that stream alone: how it came to be, the
messages that name it and the calls on it. Whatever happens to other streams
in between, and however much of it, leaves no trace in its answers, its state
and its frames.

The proof has a session of its own for the stream (`alone`), which holds nothing
else, and lets it see the same (`View.look`).
-/
import StreamMux.Proofs.Alike
import StreamMux.Proofs.Birth

namespace StreamMux

namespace Session

/-! ## What concerns a stream -/

/-- An event, as far as it concerns one stream. -/
inductive Sight
  /-- A call opened the stream. -/
  | opened
  /-- The peer opened it, and it waits to be accepted. -/
  | announced
  /-- The peer opened it, and there was no room for it. -/
  | refused
  /-- A call accepted it. -/
  | accepted
  | call (c : Call)
  /-- Any other message with its id in the header. -/
  | message (bytes : Bytes)

/-- What an event is to the stream `id`, if it concerns the stream at all. -/
def sight (s : Session) (id : UInt32) : Event → Option Sight
  | .call .openStream =>
    match s.openStream.result with
    | .ok i => if i = id then some .opened else none
    | .error _ => none
  | .call (.accept ticket) =>
    match (s.accept ticket).result with
    | .ready (.ok i) => if i = id then some .accepted else none
    | _ => none
  | .call c => if c.stream? = some id then some (.call c) else none
  | .message bytes =>
    if Frame.headerStream? bytes = some id then
      match s.find? id, (s.step (.message bytes)).state.find? id with
      | none, some _ =>
        some (if id ∈ (s.step (.message bytes)).state.backlog then .announced else .refused)
      | _, _ => some (.message bytes)
    else none
  | _ => none

/-- What the events are to the stream `id`, in order. -/
def sights (s : Session) (id : UInt32) : List Event → List Sight
  | [] => []
  | e :: rest => (s.sight id e).toList ++ sights (s.step e).state id rest

/-- The answers to the calls on the stream `id`. -/
def answersOf (id : UInt32) (answers : List (Event × Reply)) : List Reply :=
  answers.flatMap fun answer => match answer.1 with
    | .call c => if c.stream? = some id then [answer.2] else []
    | _ => []

/-! ## The stream alone -/

/-- A session that holds this stream, if any, and no other, and takes no other from its peer. -/
def alone (config : Config) (o : Option Stream) : Session :=
  { make .client config with streams := o.toList, lastRemoteId := UInt32.ofNat (UInt32.size - 1) }

/-- A stream with all that came of it. -/
structure View where
  stream : Option Stream
  answers : List Reply
  frames : List Frame

/-- What the stream does in a session of its own, by what it sees. -/
def View.look (config : Config) (id : UInt32) (v : View) : Sight → View
  | .opened => { v with stream := some (.make id config .held), frames := v.frames ++ [.syn id] }
  | .announced => { v with stream := some (.make id config .unclaimed) }
  | .refused =>
    { v with
      stream := some ((Stream.make id config .unclaimed).aborted .here), frames :=
      v.frames ++ [.rst id] }
  | .accepted => { v with stream := v.stream.map ({ · with handle := .held }) }
  | .call c =>
    let o := (alone config v.stream).step (.call c)
    ⟨o.state.find? id, v.answers ++ [o.result], v.frames ++ o.frames.filter (·.streamId == id)⟩
  | .message bytes =>
    let o := (alone config v.stream).step (.message bytes)
    { v with stream := o.state.find? id, frames := v.frames ++ o.frames.filter (·.streamId == id) }

/-- What came of the stream `id` in a session, over a sequence of events. -/
def view (s : Session) (id : UInt32) (es : List Event) : View :=
  ⟨(s.after es).find? id, answersOf id (s.trace es), s.framesFor id es⟩

variable {s : Session} {e : Event} {id : UInt32} {config : Config} {role : Role} {es : List Event}
  {st : Stream} {bytes : Bytes}

theorem alone_mayOpen (config : Config) (o : Option Stream) (id : UInt32) :
    (alone config o).mayOpen id = false := by
  have hlt := id.toNat_lt_size
  have hlast : ¬ (alone config o).lastRemoteId < id := by
    rw [UInt32.lt_iff_toNat_lt]
    show ¬ UInt32.size - 1 < id.toNat
    omega
  simp [mayOpen, hlast]

theorem alike_alone (wf : s.WellFormed) (hopen : s.ended = none) (id : UInt32) :
    Alike id s (alone s.config (s.find? id)) := by
  refine ⟨rfl, ?_, hopen, rfl, wf.distinct, ?_⟩
  · cases h : s.find? id with
    | none => rfl
    | some st =>
      obtain rfl := find?_id h
      simp [alone, Session.find?]
  · cases s.find? id with
    | none => exact List.nodup_nil
    | some st => simp [alone, DistinctIds]

/-- A message that names the stream and does not bring it into being does the same
in two sessions that agree on it. -/
theorem message_same {s' : Session} (h : Alike id s s')
    (hheader : Frame.headerStream? bytes = some id)
    (hsyn : ∀ f, Frame.decode bytes s.config.maxFramePayload = .ok f → f.type = .syn →
      s.mayOpen id = false ∧ s'.mayOpen id = false) :
    (s.step (.message bytes)).Same id (s'.step (.message bytes)) := by
  have hcounted := h.with_stats (s.stats.received bytes.length) (s'.stats.received bytes.length)
  cases hdec : Frame.decode bytes s.config.maxFramePayload with
  | ok f =>
    have hdec' := hdec
    rw [h.config] at hdec'
    rw [step_of_ok hdec, step_of_ok hdec']
    have hid := Frame.headerStream?_of_decode hdec
    rw [hheader, Option.some.injEq] at hid
    subst hid
    exact (onFrame_same hcounted fun hty => hsyn f hdec hty).as _
  | error err =>
    have hdec' := hdec
    rw [h.config] at hdec'
    rw [step_of_error hdec, step_of_error hdec']
    refine (onMalformed_same hcounted (Frame.isFatal_of_header hheader hdec) fun i hd => ?_).as _
    have hi := Frame.headerStream?_of_damaged hdec hd
    rw [hheader] at hi
    exact (Option.some.inj hi).symm

/-! ## What does not concern a stream -/

/-- The call is on the stream, or the header of the message names it. -/
def Event.Names (id : UInt32) : Event → Prop
  | .call c => c.stream? = some id
  | .message bytes => Frame.headerStream? bytes = some id
  | _ => False

end Session

/-- A step that does something to a stream is one that names it, unless the stream is accepted. -/
theorem Stream.Step.names {s s' : Stream} {maxPayload : UInt32} {e : Session.Event} {t : Traffic}
    (h : s.Step maxPayload e t s') : t = {} ∧ s' = s ∨ e.Names s.id ∨ ∃ ticket,
    e = .call (.accept ticket) := by
  cases h with
  | still => exact .inl ⟨rfl, rfl⟩
  | accept => exact .inr (.inr ⟨_, rfl⟩)
  | readWaits | read | writeWaits | write | closeWrite | reset | dropAborted | dropHandle =>
    exact .inr (.inl rfl)
  | unheeded hdec hid | data hdec hid | emptyData hdec hid | dataForNobody hdec hid
  | windowUpdate hdec hid
  | fin hdec hid | rst hdec hid =>
    rw [← hid]
    exact .inr (.inl (Frame.headerStream?_of_decode hdec))
  | accused _ ha =>
    refine .inr (.inl ?_)
    cases ha with
    | violation hdec _ hid =>
      rw [← hid]
      exact Frame.headerStream?_of_decode hdec
    | lost hdec hid => exact Frame.headerStream?_of_damaged hdec hid

namespace Session

variable {s : Session} {e : Event} {id : UInt32} {config : Config} {role : Role}
  {es es' : List Event} {st : Stream} {bytes : Bytes}

theorem sight_of_call {c : Call} {x : Sight} (h : s.sight id (.call c) = some x) :
    c = .openStream ∧ (s.step (.call .openStream)).result = .opened (.ok id) ∧ x = .opened ∨
      (∃ ticket, c = .accept ticket ∧ (s.accept ticket).result = .ready (.ok id) ∧ x = .accepted) ∨
      c.stream? = some id ∧ x = .call c := by
  cases c with
  | openStream =>
    simp only [sight] at h
    split at h
    next i hresult =>
      split at h
      next hi => exact .inl ⟨rfl, congrArg Reply.opened (hi ▸ hresult), (Option.some.inj h).symm⟩
      next => cases h
    next => cases h
  | accept ticket =>
    simp only [sight] at h
    split at h
    next i hresult =>
      split at h
      next hi => exact .inr (.inl ⟨ticket, rfl, hi ▸ hresult, (Option.some.inj h).symm⟩)
      next => cases h
    next => cases h
  | cancelAccept | close => cases h
  | read | write | closeWrite | reset | dropHandle =>
    obtain ⟨hc, hx⟩ := Option.ite_none_right_eq_some.mp h
    exact .inr (.inr ⟨hc, (Option.some.inj hx).symm⟩)

theorem not_names_of_unseen (h : s.sight id e = none) : ¬ e.Names id := by
  intro hnames
  cases e with
  | call c =>
    have hnames : c.stream? = some id := hnames
    cases c with
    | openStream | accept | cancelAccept | close => cases hnames
    | read | write | closeWrite | reset | dropHandle =>
      simp only [sight, hnames, if_true] at h; cases h
  | message bytes =>
    have hnames : Frame.headerStream? bytes = some id := hnames
    simp only [sight, hnames, if_true] at h
    split at h <;> cases h
  | connectionEnded | connectionFailed | sent => exact hnames

theorem unseen (wf : s.WellFormed) (hopen : (s.step e).state.ended = none)
    (h : s.sight id e = none) :
    (s.step e).state.find? id = s.find? id ∧ (s.trafficOf e id).sent = [] := by
  have hnames := not_names_of_unseen h
  have haccept : ∀ ticket, e = .call (.accept ticket) → (s.step e).state.find? id = s.find? id := by
    rintro ticket rfl
    refine find?_accept_of_ne fun hresult => ?_
    simp only [sight, hresult, if_true] at h
    cases h
  have hopened : e = .call .openStream → s.ended = none → s.nextId ≠ some id := by
    rintro rfl hended hn
    simp only [sight, openStream, queue, hended, hn, if_true] at h
    cases h
  have hturn := turn_of_step wf e
  generalize (s.step e).state = s' at hturn hopen haccept
  cases hturn with
  | quiet ht | late _ _ _ _ _ ht => exact ⟨rfl, by rw [ht]⟩
  | @touched st st' t stats hfind hne hst ht =>
    by_cases hid : id = st.id
    · subst hid
      obtain ⟨rfl, rfl⟩ := hst.names.resolve_right fun hseen => hseen.elim hnames
        fun haccepts => haccepts.elim hne
      exact ⟨(find?_put hfind).trans hfind.symm, by rw [ht, if_pos rfl]⟩
    · exact ⟨find?_put_ne (by rw [hst.id_eq]; exact hid), by rw [ht, if_neg hid]⟩
  | claimed he _ _ ht => exact ⟨haccept _ he, by rw [ht]⟩
  | @opened next _ he hended hn ht =>
    have hid : id ≠ (Stream.make next s.config .held).id :=
      fun hid => hopened he hended (by rw [hid]; exact hn)
    exact ⟨find?_append_ne hid rfl, by rw [ht, if_neg (show id ≠ next from hid)]⟩
  | @announced message f _ he _ hdec _ _ ht =>
    have hid : id ≠ (Stream.make f.streamId s.config .unclaimed).id := fun hid =>
      hnames (by rw [he, hid]; exact Frame.headerStream?_of_decode hdec)
    exact ⟨find?_append_ne hid rfl, by rw [ht]⟩
  | @refused message f _ he _ hdec _ _ _ ht =>
    have hid : id ≠ ((Stream.make f.streamId s.config .unclaimed).aborted .here).id := fun hid =>
      hnames (by rw [he, hid]; exact Frame.headerStream?_of_decode hdec)
    exact ⟨find?_append_ne hid rfl, by rw [ht, if_neg (show id ≠ f.streamId from hid)]⟩
  | ended => cases hopen

theorem answersOf_of_not_names {r : Reply} (h : ¬ e.Names id) : answersOf id [(e, r)] = [] := by
  cases e with
  | call c =>
    have hother : c.stream? ≠ some id := h
    simp [answersOf, hother]
  | message | connectionEnded | connectionFailed | sent => rfl

/-! ## One step -/

section

variable (wf : s.WellFormed) (answers : List Reply) (frames : List Frame)
include wf

theorem look_opened (h : (s.step (.call .openStream)).result = .opened (.ok id)) :
    View.look s.config id ⟨s.find? id, answers, frames⟩ .opened =
      ⟨(s.step (.call .openStream)).state.find? id, answers,
        frames ++ (s.trafficOf (.call .openStream) id).sent⟩ := by
  obtain ⟨-, -, hfind, hframes⟩ := opened_of_answer wf h
  have hsent : (s.trafficOf (.call .openStream) id).sent = [.syn id] := by
    rw [trafficOf, hframes]
    simp [Frame.syn]
  rw [hfind, hsent]
  rfl

omit wf in
theorem look_accepted {ticket : Nat} (h : (s.accept ticket).result = .ready (.ok id)) :
    View.look s.config id ⟨s.find? id, answers, frames⟩ .accepted =
      ⟨(s.step (.call (.accept ticket))).state.find? id, answers,
        frames ++ (s.trafficOf (.call (.accept ticket)) id).sent⟩ := by
  have hsent : (s.trafficOf (.call (.accept ticket)) id).sent = [] := by
    rw [trafficOf, show (s.step (.call (.accept ticket))).frames = [] from accept_silent.1]
    rfl
  rw [hsent, List.append_nil]
  exact congrArg (View.mk · answers frames) (find?_accept h).symm

theorem look_born (hnone : s.find? id = none)
    (hsome : (s.step (.message bytes)).state.find? id ≠ none) :
    View.look s.config id ⟨s.find? id, answers, frames⟩
        (if id ∈ (s.step (.message bytes)).state.backlog then .announced else .refused) =
      ⟨(s.step (.message bytes)).state.find? id, answers,
        frames ++ (s.trafficOf (.message bytes) id).sent⟩ := by
  cases birth wf hnone hsome with
  | opened he => cases he
  | announced _ _ hmem hfind hsent =>
    rw [if_pos hmem, hfind, hsent, List.append_nil]
    rfl
  | refused _ _ hmem hfind hsent =>
    rw [if_neg hmem, hfind, hsent]
    rfl

variable (hopen : s.ended = none)
include hopen

theorem look_call {c : Call} (hc : c.stream? = some id) :
    View.look s.config id ⟨s.find? id, answers, frames⟩ (.call c) =
      ⟨(s.step (.call c)).state.find? id, answers ++ [(s.step (.call c)).result],
        frames ++ (s.trafficOf (.call c) id).sent⟩ := by
  have hsame := call_same (alike_alone wf hopen id) hc
  simp only [View.look, trafficOf, hsame.result, hsame.frames, hsame.find]

theorem look_message (hheader : Frame.headerStream? bytes = some id)
    (h : s.find? id = none → (s.step (.message bytes)).state.find? id = none) :
    View.look s.config id ⟨s.find? id, answers, frames⟩ (.message bytes) =
      ⟨(s.step (.message bytes)).state.find? id, answers,
        frames ++ (s.trafficOf (.message bytes) id).sent⟩ := by
  have hsame := message_same (alike_alone wf hopen id) hheader fun f hdec hty => by
    refine ⟨?_, alone_mayOpen _ _ _⟩
    obtain rfl : id = f.streamId :=
      Option.some.inj (hheader.symm.trans (Frame.headerStream?_of_decode hdec))
    cases hm : s.mayOpen f.streamId with
    | false => rfl
    | true =>
      obtain ⟨st, hst⟩ := find?_of_syn wf hopen hdec hty hm
      exact nomatch (h (wf.find?_of_mayOpen hm)).symm.trans hst
  simp only [View.look, trafficOf, hsame.frames, hsame.find]

end

/-- What a stream sees is all it goes by. -/
theorem look_sight (wf : s.WellFormed) (hopen : s.ended = none)
    (hopen' : (s.step e).state.ended = none)
    (id : UInt32) (answers : List Reply) (frames : List Frame) :
    (s.sight id e).toList.foldl (View.look s.config id) ⟨s.find? id, answers, frames⟩ =
      ⟨(s.step e).state.find? id, answers ++ answersOf id [(e, (s.step e).result)],
        frames ++ (s.trafficOf e id).sent⟩ := by
  cases hsight : s.sight id e with
  | none =>
    obtain ⟨hfind, hsent⟩ := unseen wf hopen' hsight
    rw [hfind, hsent, answersOf_of_not_names (not_names_of_unseen hsight), List.append_nil,
      List.append_nil]
    rfl
  | some x =>
    show View.look s.config id _ x = _
    cases e with
    | call c =>
      have hno (c : Call) (hc : c.stream? = none) :
          answersOf id [(.call c, (s.step (.call c)).result)] = [] := by
        simp [answersOf, hc]
      rcases sight_of_call hsight with ⟨rfl, hopened, rfl⟩ |
        ⟨ticket, rfl, haccepted, rfl⟩ | ⟨hc, rfl⟩
      · rw [look_opened wf answers frames hopened, hno _ rfl, List.append_nil]
      · rw [look_accepted answers frames haccepted, hno _ rfl, List.append_nil]
      · rw [look_call wf answers frames hopen hc]
        simp [answersOf, hc]
    | message bytes =>
      rw [show answersOf id [(.message bytes, (s.step (.message bytes)).result)] = [] from rfl,
        List.append_nil]
      simp only [sight] at hsight
      split at hsight
      next hheader =>
        split at hsight
        next hnone hsome =>
          obtain rfl := Option.some.inj hsight
          exact look_born wf answers frames hnone (by rw [hsome]; simp)
        next hnot =>
          obtain rfl := Option.some.inj hsight
          refine look_message wf answers frames hopen hheader fun hnone => ?_
          exact Option.eq_none_iff_forall_ne_some.mpr fun st hst => hnot st hnone hst
      next => cases hsight
    | connectionEnded | connectionFailed | sent => cases hsight

theorem sights_concat :
    s.sights id (es ++ [e]) = s.sights id es ++ ((s.after es).sight id e).toList := by
  induction es generalizing s with
  | nil => simp [sights, after]
  | cons e es ih => simp [sights, ih, after]

/-- While the session is open, what came of a stream can be told from what it saw. -/
theorem view_eq (hopen : ((make role config).after es).ended = none) :
    (make role config).view id es = ((make role config).sights id es).foldl
      (View.look config id) ⟨none, [], []⟩ := by
  induction es using List.reverseRecOn with
  | nil => rfl
  | append_singleton es e ih =>
    have hbefore := ended_after_mono hopen
    have hlook := look_sight (wellFormed_after role config es) hbefore
      (by rwa [after_concat] at hopen) id
      (answersOf id ((make role config).trace es)) ((make role config).framesFor id es)
    rw [config_after] at hlook
    rw [sights_concat, List.foldl_append, ← ih hbefore]
    refine Eq.trans ?_ hlook.symm
    simp [view, answersOf, trace_append, trace, framesFor_eq]

/-- Two runs of which a stream sees the same, whatever else happens in either, have the
same answers for the calls on it, leave it the same and queue the same frames for it, as
long as both sessions are open. -/
theorem isolation (role : Role) (config : Config) (id : UInt32) (es es' : List Event)
    (hopen : ((make role config).after es).ended = none)
    (hopen' : ((make role config).after es').ended = none)
    (hsights : (make role config).sights id es = (make role config).sights id es') :
    answersOf id ((make role config).trace es) = answersOf id ((make role config).trace es') ∧
      ((make role config).after es).find? id = ((make role config).after es').find? id ∧
      (make role config).framesFor id es = (make role config).framesFor id es' := by
  have hview : (make role config).view id es = (make role config).view id es' := by
    rw [view_eq hopen, view_eq hopen', hsights]
  exact ⟨congrArg View.answers hview, congrArg View.stream hview, congrArg View.frames hview⟩

/-- The whole life of a stream that the peer opens, and nothing else. -/
def undisturbed : List Event :=
  [.message (Frame.syn 1).encode, .call (.accept 0), .message (Frame.data 1 [7, 8]).encode,
    .call (.read 1 4 false), .call (.write 1 [5] false), .message (Frame.fin 1).encode,
    .call (.read 1 4 false), .call (.closeWrite 1)]

/-- The same, while a stream is opened and dropped, one is accused of too much DATA
and of cut off DATA, one is refused for want of room, and a SYN comes late. -/
def crowded : List Event :=
  [.call .openStream, .message (Frame.syn 1).encode, .call (.write 2 [1, 2, 3] false),
    .call (.accept 0), .message (Frame.syn 3).encode, .message (Frame.syn 5).encode,
    .message (Frame.data 1 [7, 8]).encode, .message (Frame.data 3 [1, 2, 3]).encode.dropLast,
    .message (Frame.data 2 [1, 2, 3, 4]).encode, .call (.read 1 4 false),
    .message (Frame.data 2 [5]).encode, .call (.write 1 [5] false), .call (.accept 1),
    .call (.dropHandle 2), .message (Frame.fin 1).encode, .message (Frame.syn 3).encode,
    .call (.read 1 4 false), .call (.closeWrite 1)]

theorem isolation_of_crowded :
    answersOf 1 ((make .server ⟨4, 4, 50, 1⟩).trace undisturbed) =
        answersOf 1 ((make .server ⟨4, 4, 50, 1⟩).trace crowded) ∧
      ((make .server ⟨4, 4, 50, 1⟩).after undisturbed).find? 1 =
        ((make .server ⟨4, 4, 50, 1⟩).after crowded).find? 1 ∧
      (make .server ⟨4, 4, 50, 1⟩).framesFor 1 undisturbed =
        (make .server ⟨4, 4, 50, 1⟩).framesFor 1 crowded :=
  isolation .server ⟨4, 4, 50, 1⟩ 1 undisturbed crowded rfl rfl rfl

end Session
end StreamMux

/-
What the checks of a load check have in mind is so, whatever the relay does. The bytes that a
check has left to send and those that it has got back fit what was written and read on its
stream, and it takes the stream for ended only once the relay has sent FIN and every
byte before FIN was read. So a check that comes to compare what came back has sent
its payload, and compares all that the relay has answered.
-/
import StreamMux.Load.AnyRelay
import StreamMux.Proofs.Birth
import StreamMux.Proofs.Ledger
import StreamMux.Proofs.Spending

namespace StreamMux.Load

open Session (Event Call)

variable {config : Config} {es more : List Event} {e : Event} {id : UInt32} {sent bytes : Bytes}
  {stage : Stage}

/-! ## One check -/

/-- The stream that a check has opened, whatever has become of it. -/
def Stage.opened? : Stage → Option UInt32
  | .running id _ _ _ | .passed id | .failed (.broken id _) | .failed (.mismatch id _ _) => some id
  | .toOpen | .failed (.notOpened _) => none

/-- What is left to be sent. -/
def Sending.rest : Sending → Bytes
  | .writing rest => rest
  | .done => []

/-- The client's session after these events. -/
abbrev clientAfter (config : Config) (es : List Event) : Session :=
  (Session.make .client config).after es

/-- The relay has sent these bytes on the stream, and FIN behind them. -/
structure Answered (config : Config) (es : List Event) (id : UInt32) (bytes : Bytes) : Prop where
  fin : Carries .fin ((Session.make .client config).arrivals id es)
  whole : payloads (beforeFin ((Session.make .client config).arrivals id es)) = bytes

theorem Answered.mono (h : Answered config es id bytes) :
    Answered config (es ++ more) id bytes where
  fin := by
    rw [Session.arrivals_append, carries_append]
    exact .inl h.fin
  whole := by rw [Session.arrivals_append, beforeFin_append h.fin, h.whole]

theorem Answered.unique {bytes' : Bytes} (h : Answered config es id bytes)
    (h' : Answered config es id bytes') : bytes = bytes' := h.whole.symm.trans h'.whole

/-- What a check that is to send these bytes has in mind is so after these events of the client's
session. -/
inductive Stage.Accurate (config : Config) (es : List Event) (sent : Bytes) : Stage → Prop
  | toOpen : Accurate config es sent .toOpen
  | notOpened {cause : Fault} : Accurate config es sent (.failed (.notOpened cause))
  | running {id : UInt32} {sending : Sending} {ended : Bool} {got : List Bytes} :
    (clientAfter config es).find? id ≠ none → (Session.make .client config).bytesWritten id es ++
      sending.rest = sent →
    (Session.make .client config).bytesRead id es = got.reverse.flatten →
    (ended = true → Answered config es id got.reverse.flatten) →
      Accurate config es sent (.running id sending ended got)
  | broken {id : UInt32} {cause : Fault} : (clientAfter config es).find? id ≠ none →
    Accurate config es sent (.failed (.broken id cause))
  | passed {id : UInt32} : (clientAfter config es).find? id ≠ none →
    (Session.make .client config).bytesWritten id es = sent → Answered config es id sent →
    Accurate config es sent (.passed id)
  | mismatch {id : UInt32} {back : Bytes} {size : Nat} : (clientAfter config es).find? id ≠ none →
    (Session.make .client config).bytesWritten id es = sent →
    Answered config es id back → back ≠ sent →
    Accurate config es sent (.failed (.mismatch id back.length size))

theorem Stage.Accurate.known (h : stage.Accurate config es sent) (hid : stage.opened? = some id) :
    (clientAfter config es).find? id ≠ none := by
  cases h with
  | toOpen | notOpened => cases hid
  | running hknown | broken hknown | passed hknown | mismatch hknown =>
    cases hid
    exact hknown

theorem find?_ne_none_after (h : (clientAfter config es).find? id ≠ none) :
    (clientAfter config (es ++ more)).find? id ≠ none := by
  obtain ⟨st, hst⟩ := Option.ne_none_iff_exists'.mp h
  obtain ⟨st', hst'⟩ := Session.find?_after more (Session.wellFormed_after .client config es) hst
  rw [clientAfter, Session.after_append, hst']
  simp

/-- Only calls on its own stream are of account to a check. -/
theorem Stage.Accurate.other (h : stage.Accurate config es sent)
    (hother : ∀ c, e = .call c → ∀ id, stage.opened? = some id → c.stream? ≠ some id) :
    stage.Accurate config (es ++ [e]) sent := by
  have hwritten {id : UInt32} (hid : stage.opened? = some id) :
      (Session.make .client config).bytesWritten id (es ++ [e]) =
          (Session.make .client config).bytesWritten id es := by
    rw [Session.bytesWritten_concat, Session.acceptedBy_of_other fun c hc => hother c hc id hid,
      List.append_nil]
  cases h with
  | toOpen => exact .toOpen
  | notOpened => exact .notOpened
  | running hknown hsent hgot hended =>
    refine .running (find?_ne_none_after hknown) ?_ ?_ fun h => (hended h).mono
    · rw [hwritten rfl, hsent]
    · rw [Session.bytesRead_concat, Session.returnedBy_of_other fun c hc => hother c hc _ rfl,
        List.append_nil, hgot]
  | broken hknown => exact .broken (find?_ne_none_after hknown)
  | passed hknown hsent hback =>
    exact .passed (find?_ne_none_after hknown) ((hwritten rfl).trans hsent) hback.mono
  | mismatch hknown hsent hback hne =>
    exact .mismatch (find?_ne_none_after hknown) ((hwritten rfl).trans hsent) hback.mono hne

theorem Stage.Accurate.others {calls : List Call} (h : stage.Accurate config es sent)
    (hother : ∀ c ∈ calls, ∀ id, stage.opened? = some id → c.stream? ≠ some id) :
    stage.Accurate config (es ++ calls.map .call) sent := by
  induction calls generalizing es with
  | nil => simpa using h
  | cons c calls ih =>
    rw [List.map_cons, List.append_cons]
    refine ih (h.other fun _ hc => ?_) fun c hc => hother c (List.mem_cons_of_mem _ hc)
    cases hc
    exact hother c List.mem_cons_self

namespace Check

variable {c : Check} {l : Link} {size room : Nat}

/-- What one step of a check comes to: nothing, the call that opens its stream, or calls on that
stream. -/
inductive Moved (config : Config) (es : List Event) (sent : Bytes) (c : Check) :
    Check × List Link.Move → Prop
  | rests : Moved config es sent c (c, [])
  | opens {stage : Stage} : c.stage.opened? = none →
    stage.Accurate config (es ++ [.call .openStream]) sent →
    (∀ id, stage.opened? = some id → (clientAfter config es).find? id = none) →
    Moved config es sent c ({ c with stage }, [.call .client .openStream])
  | calls {id : UInt32} {stage : Stage} (calls : List Call) : c.stage.opened? = some id →
    (∀ call ∈ calls, call.stream? = some id) → stage.opened? = some id →
    stage.Accurate config (es ++ calls.map .call) sent →
    Moved config es sent c ({ c with stage }, calls.map (.call .client ·))

/-- A half that fails ends the check with a call, and one that drops the handle. -/
theorem Moved.breakOff {call : Call} {cause : Fault} (h : c.stage.opened? = some id)
    (hcall : call.stream? = some id) (hknown : (clientAfter config es).find? id ≠ none) :
    c.Moved config es sent (c.breakOff id cause (.call .client call)) :=
  .calls [call, .dropHandle id] h
    (List.forall_mem_cons.mpr ⟨hcall, List.forall_mem_singleton.mpr rfl⟩) rfl
    (.broken (find?_ne_none_after hknown))

theorem count_eq_zero {answer : Session.Reply} (h : ∀ n, answer = .wrote (.ready (.ok n)) → False) :
    answer.count = 0 := by
  unfold Session.Reply.count
  split
  next n => exact (h n rfl).elim
  next => rfl

theorem bytes_eq_nil {answer : Session.Reply}
    (h : ∀ bytes, answer = .got (.ready (.ok bytes)) → False) :
    answer.bytes = [] := by
  unfold Session.Reply.bytes
  split
  next bytes => exact (h bytes rfl).elim
  next => rfl

theorem answer_call (hl : (l.endOf .client).session = clientAfter config es) (call : Call) :
    (l.step (.call .client call)).1 = ((clientAfter config es).step (.call call)).result := by
  rw [← hl]
  rfl

theorem moved_openStream (h : c.stage.Accurate config es (payload c.seed size))
    (hl : (l.endOf .client).session = clientAfter config es) :
    c.Moved config es (payload c.seed size) (c.openStream size l) := by
  obtain ⟨seed, expired, stage⟩ := c
  cases h with
  | toOpen =>
    unfold Check.openStream
    simp only [answer_call hl]
    generalize hanswer : ((clientAfter config es).step (.call .openStream)).result = answer
    split
    next id =>
      obtain ⟨hnone, -, hfind, -⟩ :=
        Session.opened_of_answer (Session.wellFormed_after .client config es) hanswer
      have hnothing : (Session.make .client config).traffic id es = {} :=
        Session.traffic_eq_empty hnone
      refine .opens rfl (.running ?_ ?_ ?_ fun h => absurd h Bool.false_ne_true) fun i hi => ?_
      · rw [clientAfter, Session.after_concat, hfind]
        simp
      · rw [Session.bytesWritten_concat, Session.bytesWritten_eq, hnothing]
        rfl
      · rw [Session.bytesRead_concat, Session.bytesRead_eq, hnothing]
        rfl
      · cases hi
        exact hnone
    next => exact .opens rfl .notOpened fun id hid => nomatch hid
    next => exact .opens rfl .toOpen fun id hid => nomatch hid
  | _ => exact .rests

theorem moved_sendOnce (h : c.stage.Accurate config es sent)
    (hl : (l.endOf .client).session = clientAfter config es) :
    c.Moved config es sent (c.sendOnce l) := by
  obtain ⟨seed, expired, stage⟩ := c
  cases h with
  | @running id sending ended got hknown hsent hgot hended =>
    -- A call that is no read leaves what has come back as it is.
    have sends (call : Call) (left : Sending) (hcall : call.stream? = some id)
        (hread : Session.returnedBy id (.call call)
          ((clientAfter config es).step (.call call)).result = [])
        (hleft : Session.acceptedBy id (.call call)
          ((clientAfter config es).step (.call call)).result ++ left.rest =
          sending.rest) :
        Moved config es sent ⟨seed, expired, .running id sending ended got⟩
          (⟨seed, expired, .running id left ended got⟩, [.call .client call]) := by
      refine .calls [call] rfl (by simp [hcall]) rfl
        (.running (find?_ne_none_after hknown) ?_ ?_ fun h => (hended h).mono)
      · rw [List.map_singleton, Session.bytesWritten_concat, List.append_assoc, hleft, hsent]
      · rw [List.map_singleton, Session.bytesRead_concat, hread, List.append_nil, hgot]
    cases sending with
    | done => exact .rests
    | writing rest =>
      cases rest with
      | nil =>
        unfold sendOnce
        simp only [answer_call hl]
        split
        next => exact .breakOff rfl rfl hknown
        next => exact sends _ .done rfl rfl rfl
      | cons b rest =>
        unfold sendOnce
        simp only [answer_call hl]
        generalize hanswer :
          ((clientAfter config es).step (.call (.write id (b :: rest) false))).result = answer
        have taken (left : Bytes) (hcount : (b :: rest).take answer.count ++ left = b :: rest) :=
          sends (.write id (b :: rest) false) (.writing left) rfl rfl
            (by rw [hanswer, Session.acceptedBy, if_pos rfl]; exact hcount)
        split
        next n => exact taken _ (List.take_append_drop n _)
        next => exact .breakOff rfl rfl hknown
        next hother _ =>
          refine taken (b :: rest) ?_
          rw [count_eq_zero hother]
          rfl
  | _ => exact .rests

theorem moved_receiveOnce (h : c.stage.Accurate config es sent)
    (hl : (l.endOf .client).session = clientAfter config es)
    (room : Nat) : c.Moved config es sent (c.receiveOnce l room) := by
  obtain ⟨seed, expired, stage⟩ := c
  cases h with
  | @running id sending ended got hknown hsent hgot hended =>
    cases ended with
    | true => exact .rests
    | false =>
      unfold receiveOnce
      dsimp only
      split
      · exact .rests
      next hroom =>
      simp only [answer_call hl]
      generalize hanswer :
        ((clientAfter config es).step (.call (.read id room expired))).result = answer
      have reads {ended : Bool} {got' : List Bytes}
          (hbytes : got.reverse.flatten ++ answer.bytes = got'.reverse.flatten)
          (hended : ended = true → Answered config es id got'.reverse.flatten) :
          Moved config es sent ⟨seed, expired, .running id sending false got⟩
            (⟨seed, expired, .running id sending ended got'⟩,
                [.call .client (.read id room expired)]) := by
        refine .calls [.read id room expired] rfl (by simp [Call.stream?]) rfl
          (.running (find?_ne_none_after hknown) ?_ ?_ fun h => (hended h).mono)
        · rw [List.map_singleton, Session.bytesWritten_concat]
          simpa [Session.acceptedBy] using hsent
        · rw [List.map_singleton, Session.bytesRead_concat, Session.returnedBy, if_pos rfl, hanswer,
            hgot, hbytes]
      split
      next =>
        obtain ⟨hfin, hwhole⟩ := Session.bytesRead_of_eof (Nat.pos_of_ne_zero hroom) hanswer
        exact reads (List.append_nil _) fun _ => ⟨hfin, by rw [← hwhole, hgot]⟩
      next bytes hne =>
        exact reads (by simp [Session.Reply.bytes]) fun h => absurd h Bool.false_ne_true
      next => exact .breakOff rfl rfl hknown
      next _ hbytes _ =>
        refine reads ?_ fun h => absurd h Bool.false_ne_true
        rw [bytes_eq_nil hbytes, List.append_nil]
  | _ => exact .rests

theorem moved_conclude (h : c.stage.Accurate config es (payload c.seed size)) :
    c.Moved config es (payload c.seed size) (c.conclude size) := by
  obtain ⟨seed, expired, stage⟩ := c
  cases h with
  | @running id sending ended got hknown hsent hgot hended =>
    cases sending with
    | writing => exact .rests
    | done =>
      cases ended with
      | false => exact .rests
      | true =>
        have hwritten : (Session.make .client config).bytesWritten id
            (es ++ [.call (.dropHandle id)]) = payload seed size := by
          rw [Session.bytesWritten_concat]
          simpa [Session.acceptedBy, Sending.rest] using hsent
        have hback : Answered config (es ++ [.call (.dropHandle id)]) id got.reverse.flatten :=
          (hended rfl).mono
        unfold conclude
        dsimp only
        split
        next heq =>
          rw [heq] at hback
          exact .calls [.dropHandle id] rfl (by simp [Call.stream?]) rfl
            (.passed (find?_ne_none_after hknown) hwritten hback)
        next hne =>
          exact .calls [.dropHandle id] rfl (by simp [Call.stream?]) rfl
            (.mismatch (find?_ne_none_after hknown) hwritten hback hne)
  | _ => exact .rests

/-- One step of a check. -/
theorem moved (h : c.stage.Accurate config es (payload c.seed size))
    (hl : (l.endOf .client).session = clientAfter config es)
    (what : Step) : c.Moved config es (payload c.seed size) (c.take size l what) := by
  cases what with
  | openStream => exact moved_openStream h hl
  | send => exact moved_sendOnce h hl
  | receive room => exact moved_receiveOnce h hl room
  | conclude => exact moved_conclude h

end Check

/-! ## Checks that have compared -/

/-- The stream of a check that has compared what came back. -/
def Stage.compared? : Stage → Option UInt32
  | .passed id | .failed (.mismatch id _ _) => some id
  | .toOpen | .running _ _ _ _ | .failed (.notOpened _) | .failed (.broken _ _) => none

def Stage.isFailed : Stage → Bool
  | .failed _ => true
  | _ => false

/-- A check that has compared has sent all it was to send, and fails if something else came back. -/
theorem Stage.Accurate.compared (h : stage.Accurate config es sent)
    (hid : stage.compared? = some id) :
    stage.opened? = some id ∧ (Session.make .client config).bytesWritten id es = sent ∧
      ∃ back, Answered config es id back ∧ (stage.isFailed = true ↔ back ≠ sent) := by
  cases h with
  | toOpen | notOpened | running | broken => cases hid
  | passed _ hsent hback =>
    cases hid
    exact ⟨rfl, hsent, sent, hback, by simp [isFailed]⟩
  | mismatch _ hsent hback hne =>
    cases hid
    exact ⟨rfl, hsent, _, hback, by simp [isFailed, hne]⟩

/-! ## All checks -/

namespace System

variable {s : System} {encounters later : List Encounter} {m : Encounter} {size streams i : Nat}
  {what : Check.Step}

/-- What an encounter is to the client's session. -/
def eventsOf (s : System) : Encounter → List Event
  | .check i what => s.link.events .client (s.calls (.check i what))
  | .expire => []
  | .message bytes => [.message bytes]
  | .connectionEnded => [.connectionEnded]
  | .connectionFailed text => [.connectionFailed text]
  | .sent f => [.sent f]

/-- What a sequence of encounters is to the client's session. -/
def history (s : System) : List Encounter → List Event
  | [] => []
  | m :: rest => s.eventsOf m ++ history (s.meet m) rest

theorem meeting_append : s.meeting (encounters ++ later) = (s.meeting encounters).meeting later :=
  List.foldl_append

theorem meeting_concat : s.meeting (encounters ++ [m]) = (s.meeting encounters).meet m :=
  meeting_append

theorem history_append :
    s.history (encounters ++ later) = s.history encounters ++
      (s.meeting encounters).history later := by
  induction encounters generalizing s with
  | nil => rfl
  | cons first encounters ih =>
    show s.eventsOf first ++ (s.meet first).history (encounters ++ later) = _
    rw [ih, ← List.append_assoc]
    rfl

theorem history_concat :
    s.history (encounters ++ [m]) = s.history encounters ++ (s.meeting encounters).eventsOf m := by
  rw [history_append]
  simp [history]

theorem events_calls (l : Link) (calls : List Call) :
    l.events .client (calls.map (.call .client ·)) = calls.map .call := by
  induction calls generalizing l with
  | nil => rfl
  | cons c calls ih => exact congrArg (_ :: ·) (ih _)

/-- The books of all checks, after these events of the client's session. -/
structure Booked (config : Config) (es : List Event) (size streams : Nat) (s : System) : Prop where
  session : (s.link.endOf .client).session = clientAfter config es
  size_eq : s.size = size
  count : s.checks.length = streams
  seed : ∀ (i : Nat) (c : Check), s.checks[i]? = some c → c.seed = i
  accurate : ∀ (i : Nat) (c : Check), s.checks[i]? = some c →
    c.stage.Accurate config es (payload i size)
  apart : Apart s.checks (·.stage.opened?)

theorem Booked.unanswered (config : Config) (size streams : Nat) (expired : Bool) :
    Booked config [] size streams (unanswered config size streams expired) := by
  have start {i : Nat} {c : Check} (h : (System.unanswered config size streams expired).checks[i]? =
      some c) : c = ⟨i, expired, .toOpen⟩ := by
    obtain ⟨hi, rfl⟩ := List.getElem?_eq_some_iff.mp h
    simp [System.unanswered, make]
  refine ⟨rfl, rfl, ?_, fun i c h => ?_, fun i c h => ?_, fun i j a b id hi hj ha hb => ?_⟩
  · simp [System.unanswered, make]
  · rw [start h]
  · rw [start h]
    exact .toOpen
  · rw [start hi] at ha
    cases ha

/-- What no check has asked for is of no account to the books. -/
theorem Booked.befall (h : s.Booked config es size streams) (he : ∀ c, e ≠ .call c) :
    (s.befall e).Booked config (es ++ [e]) size streams where
  session := by
    show ((s.link.endOf .client).session.step e).state = _
    rw [h.session, clientAfter, clientAfter, Session.after_concat]
  size_eq := h.size_eq
  count := h.count
  seed := h.seed
  accurate i c hc := (h.accurate i c hc).other fun call hcall => absurd hcall (he call)
  apart := h.apart

theorem Booked.expire (h : s.Booked config es size streams) :
    s.expire.Booked config es size streams := by
  have before {i : Nat} {c : Check} (hc : s.expire.checks[i]? = some c) :
      ∃ b, s.checks[i]? = some b ∧ c.seed = b.seed ∧ c.stage = b.stage := by
    simp only [System.expire, List.getElem?_map, Option.map_eq_some_iff] at hc
    obtain ⟨b, hb, rfl⟩ := hc
    exact ⟨b, hb, rfl, rfl⟩
  refine ⟨h.session, h.size_eq, ?_, fun i c hc => ?_, fun i c hc => ?_,
    fun i j a b id hi hj ha hb => ?_⟩
  · rw [System.expire, List.length_map, h.count]
  · obtain ⟨b, hb, hseed, -⟩ := before hc
    rw [hseed, h.seed i b hb]
  · obtain ⟨b, hb, -, hstage⟩ := before hc
    rw [hstage]
    exact h.accurate i b hb
  · obtain ⟨a', ha', -, hstage⟩ := before hi
    obtain ⟨b', hb', -, hstage'⟩ := before hj
    exact h.apart i j a' b' id ha' hb' ((congrArg Stage.opened? hstage).symm.trans ha)
      ((congrArg Stage.opened? hstage').symm.trans hb)

/-- One step of a check: the others see none of its calls. -/
theorem Booked.moved {c : Check} {step : Check × List Link.Move}
    (h : s.Booked config es size streams) (hi : s.checks[i]? = some c)
    (hmoved : c.Moved config es (payload i size) step) (reports : List Report) :
    Booked config (es ++ s.link.events .client step.2) size streams
      { s with link := s.link.after step.2, checks := replace s.checks i step.1, reports } := by
  have hseed := h.seed i c hi
  have goesOn (calls : List Call) (stage : Stage)
      (hcalls : ∀ call ∈ calls, ∀ j id, i ≠ j → (s.checks[j]?.bind (·.stage.opened?)) = some id →
        call.stream? ≠ some id)
      (haccurate : stage.Accurate config (es ++ calls.map .call) (payload i size))
      (hfresh : ∀ id, stage.opened? = some id → c.stage.opened? = some id ∨ ∀ x ∈ s.checks,
        x.stage.opened? ≠ some id) :
      Booked config (es ++ s.link.events .client (calls.map (.call .client ·))) size streams
        { s with
          link := s.link.after (calls.map (.call .client ·))
          checks := replace s.checks i { c with stage }
          reports } := by
    rw [events_calls]
    refine ⟨?_, h.size_eq, ?_, fun j b hj => ?_, fun j b hj => ?_, h.apart.replace hi hfresh⟩
    · show ((s.link.after _).endOf .client).session = _
      rw [Link.session_after, events_calls, h.session, clientAfter, clientAfter,
        Session.after_append]
    · rw [replace, List.length_set, h.count]
    · rcases replace_cases hj with ⟨rfl, rfl⟩ | ⟨-, hj⟩
      · exact hseed
      · exact h.seed j b hj
    · rcases replace_cases hj with ⟨rfl, rfl⟩ | ⟨hij, hj⟩
      · exact haccurate
      · exact (h.accurate j b hj).others fun call hcall id hid =>
          hcalls call hcall j id hij (by rw [hj]; exact hid)
  cases hmoved with
  | rests =>
    rw [replace_self hi]
    exact ⟨by simpa [Link.events, Link.after] using h.session, h.size_eq, h.count, h.seed,
      by simpa [Link.events] using h.accurate, h.apart⟩
  | @opens stage hnone haccurate hnew =>
    refine goesOn [.openStream] stage (fun call hcall j id _ _ => ?_) haccurate fun id hid => .inr
      fun x hx hxid => ?_
    · rw [List.mem_singleton.mp hcall]
      exact (Option.some_ne_none id).symm
    · obtain ⟨j, hj⟩ := List.mem_iff_getElem?.mp hx
      exact (h.accurate j x hj).known hxid (hnew id hid)
  | @calls id stage calls hid hcalls hstage haccurate =>
    refine goesOn calls stage (fun call hcall j other hij hother hsame => ?_) haccurate
      fun i' hi' => .inl ?_
    · rw [hcalls call hcall] at hsame
      obtain ⟨b, hb, hopened⟩ := Option.bind_eq_some_iff.mp hother
      exact hij (h.apart i j c b id hi hb hid (hopened.trans hsame.symm))
    · rw [hid, ← hi', hstage]

theorem Booked.meet (h : s.Booked config es size streams) (m : Encounter) :
    (s.meet m).Booked config (es ++ s.eventsOf m) size streams := by
  cases m with
  | check i what =>
    simp only [System.meet, eventsOf, act, calls]
    cases hi : s.checks[i]? with
    | none => simpa [Link.events] using h
    | some c =>
      obtain rfl := h.size_eq
      obtain rfl := h.seed i c hi
      exact h.moved hi (Check.moved (h.accurate _ c hi) h.session what) _
  | expire =>
    rw [eventsOf, List.append_nil]
    exact h.expire
  | message | connectionEnded | connectionFailed | sent => exact h.befall (by simp)

/-- What a check has read when it has found the end is all that the relay has answered. -/
theorem Booked.answered {sending : Sending} {expired : Bool} {got : List Bytes}
    (h : s.Booked config es size streams)
    (hi : s.checks[i]? = some ⟨i, expired, .running id sending true got⟩) :
    Answered config es id got.reverse.flatten := by
  have haccurate := h.accurate i _ hi
  cases haccurate with
  | running _ _ _ hended => exact hended rfl

/-- The books are right after any encounters. -/
theorem booked (config : Config) (size streams : Nat) (expired : Bool)
    (encounters : List Encounter) :
    Booked config ((unanswered config size streams expired).history encounters) size streams
      ((unanswered config size streams expired).meeting encounters) := by
  induction encounters using List.reverseRecOn with
  | nil => exact .unanswered config size streams expired
  | append_singleton encounters m ih =>
    rw [meeting_concat, history_concat]
    exact ih.meet m

/-- The stream that the check at this place has opened. -/
def openedBy? (s : System) (i : Nat) : Option UInt32 := s.checks[i]?.bind (·.stage.opened?)

/-- The stream of which the check at this place has compared what came back. -/
def comparedBy? (s : System) (i : Nat) : Option UInt32 := s.checks[i]?.bind (·.stage.compared?)

theorem Booked.lt_of_opened (h : s.Booked config es size streams) (hid : s.openedBy? i = some id) :
    i < streams := by
  obtain ⟨c, hc, -⟩ := Option.bind_eq_some_iff.mp hid
  rw [← h.count]
  exact (List.getElem?_eq_some_iff.mp hc).1

/-- A check that has compared has sent all of its payload. -/
theorem Booked.compared (h : s.Booked config es size streams) (hid : s.comparedBy? i = some id) :
    s.openedBy? i = some id ∧ (Session.make .client config).bytesWritten id es =
      payload i size := by
  obtain ⟨c, hc, hcompared⟩ := Option.bind_eq_some_iff.mp hid
  obtain ⟨hopened, hsent, -⟩ := (h.accurate i c hc).compared hcompared
  exact ⟨by rw [openedBy?, hc]; exact hopened, hsent⟩

/-- It fails if something else came back. -/
theorem Booked.failed_iff (h : s.Booked config es size streams) {c : Check}
    (hc : s.checks[i]? = some c)
    (hid : s.comparedBy? i = some id) (hbytes : Answered config es id bytes) :
    c.stage.isFailed = true ↔ bytes ≠ payload i size := by
  rw [comparedBy?, hc] at hid
  obtain ⟨-, -, back, hback, hfailed⟩ := (h.accurate i c hc).compared hid
  rw [hfailed, hback.unique hbytes]

end System
end StreamMux.Load

/-
A turn of a check (`Load.Check.turn`) is some of its steps in a row: each call that it makes
is the call of one step, and what it makes of the answer is what the step makes of it. A
step that breaks the check off leads to where a half that failed does.
-/
import StreamMux.Load.Interleaving
import StreamMux.Proofs.Answers
import StreamMux.Proofs.LinkRun

namespace StreamMux

namespace Link

variable {l : Link} {r : Role} {id : UInt32} {α : Type} {call : Session.Call}
  {reply : α → Session.Reply} {op : Session → Stream → Outcome Session α}

theorem setEnd_endOf : l.setEnd r (l.endOf r) = l := by cases r <;> rfl

/-- The call is this operation on a stream whose handle is held. -/
def Does (call : Session.Call) (id : UInt32) (op : Session → Stream → Outcome Session α)
    (reply : α → Session.Reply) : Prop :=
  ∀ s : Session, s.call call = s.onHeld id fun st => Session.Outcome.as (op s st) reply

theorem step_of_held {st : Stream} (hc : Does call id op reply)
    (h : (l.endOf r).session.held? id = some st) :
    l.step (.call r call) = (reply (l.perform r fun s => op s st).1,
      (l.perform r fun s => op s st).2) := by
  simp only [step, perform, hc _, Session.onHeld, h, Session.Outcome.as]

theorem step_of_not_held (hc : Does call id op reply) (h : (l.endOf r).session.held? id = none) :
    l.step (.call r call) = (.noHandle, l) := by
  simp only [step, perform, hc _, Session.onHeld, h, List.append_nil]
  exact congrArg _ setEnd_endOf

/-- What ending a direction comes to, from the answer of the call: the cause it fails with, or
this. -/
def closing (done : α) : Session.Reply → Except Fault α
  | .closed (.error cause) => .error cause
  | _ => .ok done

theorem closing_cases (done : α) (reply : Session.Reply) :
    (∃ cause, reply = .closed (.error cause) ∧ closing done reply = .error cause) ∨
      (∀ cause, reply ≠ .closed (.error cause)) ∧ closing done reply = .ok done := by
  by_cases hfails : ∃ cause, reply = .closed (.error cause)
  · obtain ⟨cause, rfl⟩ := hfails
    exact .inl ⟨cause, rfl, rfl⟩
  · have hnot : ∀ cause, reply ≠ .closed (.error cause) := fun cause h => hfails ⟨cause, h⟩
    exact .inr ⟨hnot, by rw [closing]; exact hnot⟩

end Link

namespace Load

open Link

namespace Check

variable {size : Nat} {l l' : Link} {r : Role} {id : UInt32} {c c' : Check} {sending : Sending}
  {ended : Bool} {got : List Bytes} {rest : Bytes}

/-! ## Calls and turns -/

theorem tryCall_eq {α : Type} {op : Session → Stream → Outcome Session (Poll (Except Fault α))}
    {reply : Poll (Except Fault α) → Session.Reply} {call : Session.Call}
    (hc : Does call id op reply) :
    (tryCall l r id op).2 = (l.step (.call r call)).2 ∧
      ((l.step (.call r call)).1 = reply (tryCall l r id op).1 ∨
        (l.step (.call r call)).1 = .noHandle ∧ (tryCall l r id op).1 = .pending) := by
  unfold tryCall
  cases h : (l.endOf r).session.held? id with
  | none =>
    rw [step_of_not_held hc h]
    exact ⟨rfl, .inr ⟨rfl, rfl⟩⟩
  | some st =>
    rw [step_of_held hc h]
    exact ⟨rfl, .inl rfl⟩

theorem finish_eq (l : Link) (id : UInt32) :
    finish l id = (l.step (.call .client (.dropHandle id))).2 := by
  have hc : Does (.dropHandle id) id (fun s st => s.dropHandle st) fun _ => .nothing := fun _ => rfl
  unfold finish
  cases h : (l.endOf .client).session.held? id with
  | none => rw [step_of_not_held hc h]
  | some st => rw [step_of_held hc h]

theorem send_nil (l : Link) (id : UInt32) (fuel : Nat) :
    (send l id fuel []).1 = closing .done (l.step (.call .client (.closeWrite id))).1 ∧
      (send l id fuel []).2 = (l.step (.call .client (.closeWrite id))).2 := by
  have hc : Does (.closeWrite id) id (fun s st => s.closeWrite st) .closed := fun _ => rfl
  cases h : (l.endOf .client).session.held? id with
  | none =>
    have hsend : send l id fuel [] = (.ok .done, l) := by cases fuel <;> simp only [send, h]
    rw [hsend, step_of_not_held hc h]
    exact ⟨rfl, rfl⟩
  | some st =>
    have hsend : send l id fuel [] =
        ((l.perform .client (·.closeWrite st)).1.map fun _ => .done,
            (l.perform .client (·.closeWrite st)).2) := by
      cases fuel <;> simp only [send, h]
    rw [hsend, step_of_held hc h]
    refine ⟨?_, rfl⟩
    dsimp only
    cases (l.perform .client (·.closeWrite st)).1 <;> rfl

/-! ## A check -/

/-- Some steps in a row lead from here to there. -/
inductive Leads (size : Nat) : Check × Link → Check × Link → Prop
  | refl {a : Check × Link} : Leads size a a
  | step {c c' : Check} {l : Link} {calls : List Link.Move} {b : Check × Link} (what : Step) :
    c.take size l what = (c', calls) → Leads size (c', l.after calls) b → Leads size (c, l) b

variable {a b b' : Check × Link}

theorem Leads.trans (h : Leads size a b) (h' : Leads size b b') : Leads size a b' := by
  induction h with
  | refl => exact h'
  | step what htake _ ih => exact .step what htake (ih h')

/-- A step that makes one call. -/
theorem Leads.call {m : Link.Move} (what : Step) (h : c.take size l what = (c', [m])) :
    Leads size (c, l) (c', (l.step m).2) :=
  .step what h .refl

/-- How a check goes on with what one of its halves came to. -/
def goOn {α : Type} (c : Check) (id : UInt32) (next : α → Stage) :
    Except Fault α × Link → Check × Link
  | (.ok a, l) => ({ c with stage := next a }, l)
  | (.error cause, l) => ({ c with stage := .failed (.broken id cause) }, finish l id)

/-- A step that breaks the check off leads to where a half that failed does. -/
theorem Leads.breakOff {α : Type} {next : α → Stage} {call : Session.Call} {cause : Fault}
    (what : Step) (h : c.take size l what = c'.breakOff id cause (.call .client call)) :
    Leads size (c, l) (c'.goOn id next (.error cause, (l.step (.call .client call)).2)) := by
  refine .step what h ?_
  rw [goOn, finish_eq]
  exact .refl

theorem leads_closeWrite (fuel : Nat) :
    Leads size ({ c with stage := .running id (.writing []) ended got }, l)
      (c.goOn id (.running id · ended got) (send l id fuel [])) := by
  obtain ⟨hsent, hlink⟩ := send_nil l id fuel
  rw [show send l id fuel [] = ((send l id fuel []).1, (send l id fuel []).2) from rfl,
    hsent, hlink]
  rcases closing_cases Sending.done (l.step (.call .client (.closeWrite id))).1 with
    ⟨cause, h, hclosing⟩ | ⟨hnot, hclosing⟩
  · rw [hclosing]
    refine .breakOff .send ?_
    simp only [take, sendOnce, h]
    rfl
  · rw [hclosing]
    refine .call .send ?_
    simp only [take, sendOnce]

theorem leads_send (fuel : Nat) :
    Leads size ({ c with stage := .running id (.writing rest) ended got }, l)
      (c.goOn id (.running id · ended got) (send l id fuel rest)) := by
  induction fuel generalizing l rest with
  | zero =>
    cases rest with
    | nil => exact leads_closeWrite 0
    | cons => exact .refl
  | succ fuel ih =>
    cases rest with
    | nil => exact leads_closeWrite (fuel + 1)
    | cons b rest =>
      have hc : Does (.write id (b :: rest) false) id (fun s st => s.write st (b :: rest) false)
        .wrote := fun _ => rfl
      obtain ⟨hlink, hanswer⟩ := tryCall_eq (l := l) (r := .client) hc
      simp only [send]
      rw [hlink]
      generalize (tryCall l .client id fun s st => s.write st (b :: rest) false).1 =
        answer at hanswer
      rcases answer with (cause | n) | _
      · have h := hanswer.resolve_right (by simp)
        refine .breakOff .send ?_
        simp only [take, sendOnce, h]
        rfl
      · have h := hanswer.resolve_right (by simp)
        refine Leads.trans (.call .send ?_) ih
        simp only [take, sendOnce, h]
      · refine .call .send ?_
        simp only [take, sendOnce]
        rcases hanswer with h | ⟨h, -⟩ <;> rw [h]

theorem leads_receive {room : Nat} (hroom : room ≠ 0) (fuel : Nat) :
    Leads size ({ c with stage := .running id sending false got }, l)
      (c.goOn id (fun read => .running id sending read.1 read.2)
          (receive l id room c.expired got fuel)) := by
  induction fuel generalizing l got with
  | zero => exact .refl
  | succ fuel ih =>
    have hc : Does (.read id room c.expired) id (fun s st => s.read st room c.expired) .got :=
      fun _ => rfl
    obtain ⟨hlink, hanswer⟩ := tryCall_eq (l := l) (r := .client) hc
    simp only [receive]
    rw [hlink]
    generalize (tryCall l .client id fun s st => s.read st room c.expired).1 = answer at hanswer
    rcases answer with (cause | bytes) | _
    · have h := hanswer.resolve_right (by simp)
      refine .breakOff (.receive room) ?_
      simp only [take, receiveOnce, h, if_neg hroom]
      rfl
    · have h := hanswer.resolve_right (by simp)
      cases bytes with
      | nil =>
        refine .call (.receive room) ?_
        simp only [take, receiveOnce, h, if_neg hroom]
      | cons b bytes =>
        refine Leads.trans (.call (.receive room) ?_) ih
        simp only [take, receiveOnce, h, if_neg hroom]
    · refine .call (.receive room) ?_
      simp only [take, receiveOnce, if_neg hroom]
      rcases hanswer with h | ⟨h, -⟩ <;> rw [h]

theorem leads_conclude (h : (ended && sending = .done) = true) :
    Leads size ({ c with stage := .running id sending ended got }, l)
      ({ c with stage :=
          if got.reverse.flatten = payload c.seed size then .passed id
          else .failed (.mismatch id got.reverse.flatten.length size) }, finish l id) := by
  obtain ⟨rfl, rfl⟩ : ended = true ∧ sending = .done := by simpa using h
  rw [finish_eq]
  exact .call .conclude rfl

/-- The second half of a turn, and its end. -/
theorem leads_reading :
    Leads size ({ c with stage := .running id sending ended got }, l)
      (let (received, l) :=
        if ended then (.ok (true, got), l)
        else receive l id (readSize size) c.expired got (unreadCount l .client id + 1)
      match received with
      | .error cause => ({ c with stage := .failed (.broken id cause) }, finish l id)
      | .ok (ended, got) =>
        if ended && sending = .done then
          let back := got.reverse.flatten
          let stage := if back = payload c.seed size then .passed id
            else .failed (.mismatch id back.length size)
          ({ c with stage }, finish l id)
        else ({ c with stage := .running id sending ended got }, l)) := by
  have hreceived : Leads size ({ c with stage := .running id sending ended got }, l)
      (c.goOn id (fun read => .running id sending read.1 read.2) (if ended then (.ok (true, got), l)
        else receive l id (readSize size) c.expired got (unreadCount l .client id + 1))) := by
    cases ended with
    | true => exact .refl
    | false => exact leads_receive (by unfold readSize; omega) _
  generalize (if ended then (.ok (true, got), l)
    else receive l id (readSize size) c.expired got (unreadCount l .client id + 1)) =
      received at hreceived
  obtain ⟨cause | ⟨ended, got⟩, l⟩ := received
  · exact hreceived
  · refine hreceived.trans ?_
    dsimp only
    split
    next hdone => exact leads_conclude hdone
    next => exact .refl

theorem leads_advance :
    Leads size ({ c with stage := .running id sending ended got }, l)
      (c.advance size l id sending ended got) := by
  cases sending with
  | done => exact leads_reading
  | writing rest =>
    have hsent : Leads size ({ c with stage := .running id (.writing rest) ended got }, l) _ :=
      leads_send (c := c) rest.length
    simp only [advance]
    generalize send l id rest.length rest = sent at hsent
    obtain ⟨cause | sending, l⟩ := sent
    · exact hsent
    · exact hsent.trans leads_reading

/-- A turn of a check is some of its steps in a row. -/
theorem leads_turn (c : Check) (l : Link) : Leads size (c, l) (c.turn size l) := by
  obtain ⟨seed, expired, stage⟩ := c
  cases stage with
  | toOpen =>
    have hopens {c' : Check} (h : take ⟨seed, expired, .toOpen⟩ size l .openStream =
        (c', [.call .client .openStream])) :
        Leads size (⟨seed, expired, .toOpen⟩, l) (c', (l.perform .client (·.openStream)).2) :=
          .call .openStream h
    have hanswer : (l.step (.call .client .openStream)).1 =
      .opened (l.perform .client (·.openStream)).1 := rfl
    simp only [turn]
    generalize (l.perform .client (·.openStream)).1 = answer at hanswer
    cases answer with
    | error cause =>
      refine hopens ?_
      simp only [take, openStream, hanswer]
    | ok id =>
      refine (hopens ?_).trans (leads_advance (c := ⟨seed, expired, .toOpen⟩))
      simp only [take, openStream, hanswer]
  | running id sending ended got =>
    exact leads_advance (c := ⟨seed, expired, .running id sending ended got⟩)
  | passed | failed => exact .refl

/-- A check that is over takes no step. -/
theorem take_of_isOver (h : c.isOver = true) (what : Step) : c.take size l what = (c, []) := by
  obtain ⟨seed, expired, stage⟩ := c
  cases stage with
  | toOpen | running => cases h
  | passed | failed => cases what <;> rfl

theorem Leads.of_isOver (h : Leads size a b) (hover : a.1.isOver = true) : b.1 = a.1 := by
  induction h with
  | refl => rfl
  | step what htake _ ih =>
    rw [take_of_isOver hover] at htake
    obtain ⟨rfl, rfl⟩ := Prod.mk.inj htake
    exact ih hover

theorem reports_of_isOver {before : Check} (h : before.isOver = true) :
    c.reports before size = [] := if_pos h

theorem reports_of_not_isOver {before : Check} (h : c.isOver = false) :
    c.reports before size = [] := by
  obtain ⟨seed, expired, stage⟩ := c
  cases stage with
  | toOpen | running => exact ite_self _
  | passed | failed => cases h

theorem reports_self : c.reports c size = [] := by
  cases hover : c.isOver with
  | true => exact reports_of_isOver hover
  | false => exact reports_of_not_isOver hover

/-- A check is reported once, when it is over. -/
theorem Leads.reports (h : Leads size a b) (c : Check) (hc : c.isOver = true → a.1 = c) :
    a.1.reports c size ++ b.1.reports a.1 size = b.1.reports c size := by
  by_cases hover : c.isOver = true
  · rw [hc hover, reports_of_isOver hover, reports_of_isOver hover, List.append_nil]
  by_cases hover' : a.1.isOver = true
  · rw [h.of_isOver hover', reports_of_isOver hover', List.append_nil]
  · rw [reports_of_not_isOver (by simpa using hover'), List.nil_append]
    unfold Check.reports
    rw [if_neg hover, if_neg hover']

end Check

end Load
end StreamMux

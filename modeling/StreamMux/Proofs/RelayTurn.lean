/-
A turn of the relay's work on a stream that it echoes (`Load.Serving.turn`) is some of its steps
in a row. The only thing a turn does that no step does is to take an empty copy buffer for a
new one; a buffer that the steps have emptied has all its room again already.
-/
import StreamMux.Proofs.CheckTurn

namespace StreamMux.Load

open Link

namespace Serving

variable {l : Link} {v v' : Serving} {held : Bytes} {room total : Nat} {ended : Bool}
  {cause : Fault} {b b' : Serving × Link × List Report}

/-- Some steps in a row lead from here to there, and report this. -/
inductive Leads : Serving → Link → Serving × Link × List Report → Prop
  | refl {v : Serving} {l : Link} : Leads v l (v, l, [])
  | step {v v' : Serving} {l : Link} {calls : List Link.Move} {now : List Report}
    {b : Serving × Link × List Report}
    (what : Step) : v.take l what = (v', calls, now) → Leads v' (l.after calls) b →
    Leads v l (b.1, b.2.1, now ++ b.2.2)

theorem Leads.trans (h : Leads v l b) (h' : Leads b.1 b.2.1 b') :
    Leads v l (b'.1, b'.2.1, b.2.2 ++ b'.2.2) := by
  induction h with
  | refl => exact h'
  | step what htake _ ih =>
    rw [List.append_assoc]
    exact .step what htake (ih h')

/-- A step that makes one call. -/
theorem Leads.call {m : Link.Move} {now : List Report} (what : Step)
    (h : v.take l what = (v', [m], now)) : Leads v l (v', (l.step m).2, now) := by
  have hstep := Leads.step what h .refl
  rwa [List.append_nil] at hstep

theorem release_eq (l : Link) (id : UInt32) :
    release l id = (l.step (.call .server (.dropHandle id))).2 := by
  have hc : Does (.dropHandle id) id (fun s st => s.dropHandle st) fun _ => .nothing := fun _ => rfl
  unfold release
  cases h : (l.endOf .server).session.held? id with
  | none => rw [step_of_not_held hc h]
  | some st => rw [step_of_held hc h]

/-- How copying goes on with what some of its steps came to. -/
def goOn {α : Type} (v : Serving) (next : α → Service) : Except Fault α × Link →
    Serving × Link × List Report
  | (.ok a, l) => ({ v with service := next a }, l, [])
  | (.error cause, l) => ({ v with service := .over }, release l v.id, [.echoAborted v.id cause])

theorem goOn_ok {α : Type} (next : α → Service) (a : α) :
    v.goOn next (.ok a, l) = ({ v with service := next a }, l, []) := rfl

theorem goOn_congr {α : Type} {next next' : α → Service} {done : Except Fault α × Link}
    (h : ∀ a, done.1 = .ok a → next a = next' a) : v.goOn next done = v.goOn next' done := by
  obtain ⟨cause | a, l⟩ := done
  · rfl
  · rw [goOn, goOn, h a rfl]

/-- A step that breaks the copying off leads to where failed copying does. -/
theorem Leads.breakOff {α : Type} {next : α → Service} {call : Session.Call} (what : Step)
    (h : v.take l what = v'.breakOff cause (.call .server call)) :
    Leads v l (v'.goOn next (.error cause, (l.step (.call .server call)).2)) := by
  rw [goOn, release_eq]
  exact .step what h .refl

theorem leads_fill (hroom : room ≠ 0) :
    Leads { v with service := .copying held room false total } l
      (v.goOn (fun came => .copying (held ++ came.getD []) (room - (came.getD []).length)
        (came == some []) total) (fill l v.id room)) := by
  have hc : Does (.read v.id room false) v.id (fun s st => s.read st room false) .got :=
    fun _ => rfl
  obtain ⟨hlink, hanswer⟩ := Check.tryCall_eq (l := l) (r := .server) hc
  unfold fill
  dsimp only
  rw [hlink]
  generalize (Check.tryCall l .server v.id fun s st => s.read st room false).1 = answer at hanswer
  rcases answer with (cause | bytes) | _
  · have h := hanswer.resolve_right (by simp)
    refine .breakOff .fill ?_
    simp only [take, fillOnce, h, if_neg hroom]
    rfl
  · have h := hanswer.resolve_right (by simp)
    refine .call .fill ?_
    simp only [take, fillOnce, h, if_neg hroom]
    cases bytes <;> rfl
  · have hsame : Leads { v with service := .copying held room false total } l
        ({ v with service := .copying held room false total },
            (l.step (.call .server (.read v.id room false))).2, []) := by
      refine .call .fill ?_
      simp only [take, fillOnce, if_neg hroom]
      rcases hanswer with h | ⟨h, -⟩ <;> rw [h]
    simpa [goOn] using hsame

/-- A copy buffer after some writes: one that is empty has all its room. -/
def roomOf (left : Bytes) (room : Nat) : Nat := if left.isEmpty then copyBuffer else room

theorem writeAll_nil (fuel : Nat) (l : Link) (id : UInt32) :
    writeAll l id fuel [] = (.ok [], l) := by cases fuel <;> rfl

theorem roomOf_self (hroom : held = [] → room = copyBuffer) : roomOf held room = room := by
  cases held with
  | nil => exact (hroom rfl).symm
  | cons => rfl

theorem roomOf_roomOf {left rest : Bytes} (h : rest.length ≤ left.length) :
    roomOf rest (roomOf left room) = roomOf rest room := by
  cases left with
  | nil => rw [List.length_eq_zero_iff.mp (Nat.le_zero.mp h)]; rfl
  | cons => rfl

/-- What is left is no more than there was, and nothing if there was nothing. -/
theorem writeAll_left {fuel : Nat} {id : UInt32} {left : Bytes}
    (h : (writeAll l id fuel held).1 = .ok left) :
    left.length ≤ held.length := by
  induction fuel generalizing l held with
  | zero =>
    cases held with
    | nil => rw [writeAll_nil] at h; cases h; exact Nat.le_refl _
    | cons => cases h; exact Nat.le_refl _
  | succ fuel ih =>
    cases held with
    | nil => rw [writeAll_nil] at h; cases h; exact Nat.le_refl _
    | cons b held =>
      simp only [writeAll] at h
      split at h
      · cases h; exact Nat.le_refl _
      · cases h
      next n _ =>
        have hle := ih h
        rw [List.length_drop] at hle
        omega

theorem leads_stay (hroom : held = [] → room = copyBuffer) :
    Leads { v with service := .copying held room ended total } l
      (v.goOn (fun left => .copying left (roomOf left room) ended
        (total + (held.length - left.length))) (.ok held, l)) := by
  rw [goOn, Nat.sub_self, Nat.add_zero, roomOf_self hroom]
  exact .refl

theorem leads_writeAll (fuel : Nat) (hroom : held = [] → room = copyBuffer) :
    Leads { v with service := .copying held room ended total } l
      (v.goOn (fun left => .copying left (roomOf left room) ended
        (total + (held.length - left.length))) (writeAll l v.id fuel held)) := by
  induction fuel generalizing l held room total with
  | zero => cases held <;> exact leads_stay hroom
  | succ fuel ih =>
    cases held with
    | nil => exact leads_stay hroom
    | cons b held =>
      have hc : Does (.write v.id (b :: held) false) v.id (fun s st => s.write st (b :: held) false)
        .wrote := fun _ => rfl
      obtain ⟨hlink, hanswer⟩ := Check.tryCall_eq (l := l) (r := .server) hc
      simp only [writeAll]
      rw [hlink]
      generalize (Check.tryCall l .server v.id fun s st => s.write st (b :: held) false).1 =
        answer at hanswer
      rcases answer with (cause | n) | _
      · have h := hanswer.resolve_right (by simp)
        refine .breakOff .put ?_
        simp only [take, putOnce, h]
        rfl
      · have h := hanswer.resolve_right (by simp)
        obtain ⟨left, hleft⟩ : ∃ left, (b :: held).drop n = left := ⟨_, rfl⟩
        have hdrop : left.length ≤ (b :: held).length := by
          rw [← hleft, List.length_drop]
          omega
        have hput : Leads { v with service := .copying (b :: held) room ended total } l
            ({ v with
                service := .copying left (roomOf left room) ended
                  (total + ((b :: held).length - left.length)) },
              (l.step (.call .server (.write v.id (b :: held) false))).2, []) := by
          refine .call .put ?_
          simp only [take, putOnce, h, hleft]
          rfl
        dsimp only
        rw [hleft]
        have hrest := hput.trans (ih fun hnil => by rw [hnil]; rfl)
        refine (goOn_congr fun rest hrest => ?_) ▸ hrest
        have hle := writeAll_left hrest
        rw [roomOf_roomOf hle, show total + ((b :: held).length - left.length) +
          (left.length - rest.length) =
          total + ((b :: held).length - rest.length) by omega]
      · have hsame : Leads { v with service := .copying (b :: held) room ended total } l
            ({ v with service := .copying (b :: held) room ended total },
              (l.step (.call .server (.write v.id (b :: held) false))).2, []) := by
          refine .call .put ?_
          simp only [take, putOnce]
          rcases hanswer with h | ⟨h, -⟩ <;> rw [h]
        exact hsame.trans (leads_stay hroom)

/-- How copying stands with what `copy` came to. -/
def stand (copied : Bytes × Nat × Bool × Nat) : Service :=
  .copying copied.1 copied.2.1 copied.2.2.1 copied.2.2.2

/-- The read that starts a round, if there is one. -/
theorem leads_space :
    Leads { v with service := .copying held room ended total } l
      (v.goOn (fun came => .copying (held ++ came.getD []) (room - (came.getD []).length)
        (ended || came == some []) total)
        (if room > 0 && !ended then fill l v.id room else (.ok none, l))) := by
  split
  next hspace =>
    obtain ⟨hroom, rfl⟩ : 0 < room ∧ ended = false := by simpa using hspace
    exact leads_fill (Nat.pos_iff_ne_zero.mp hroom)
  next =>
    simp only [goOn, Option.getD_none, List.append_nil, List.length_nil, Nat.sub_zero]
    rw [show (ended || (none : Option Bytes) == some []) = ended by simp]
    exact .refl

/-- Copying goes on until it has to wait or is done. -/
theorem leads_copy (fuel : Nat) (hroom : held = [] → room = copyBuffer) :
    Leads { v with service := .copying held room ended total } l
      (v.goOn stand (copy l v.id held room ended total fuel)) := by
  induction fuel generalizing l held room ended total with
  | zero => exact .refl
  | succ fuel ih =>
    have hfilled : Leads { v with service := .copying held room ended total } l _ := leads_space
    simp only [copy]
    generalize (if room > 0 && !ended then fill l v.id room else (.ok none, l)) = filled at hfilled
    obtain ⟨cause | came, l⟩ := filled
    · exact hfilled
    have hempty : held ++ came.getD [] = [] → room - (came.getD []).length = copyBuffer := by
      intro hnil
      obtain ⟨hheld, hcame⟩ := List.append_eq_nil_iff.mp hnil
      rw [hcame, hroom hheld, List.length_nil, Nat.sub_zero]
    rw [goOn_ok] at hfilled
    have hwritten := hfilled.trans (leads_writeAll (held ++ came.getD []).length hempty)
    dsimp only [List.nil_append] at hwritten ⊢
    generalize writeAll l v.id (held ++ came.getD []).length (held ++ came.getD []) =
      written at hwritten
    obtain ⟨cause | left, l⟩ := written
    · exact hwritten
    cases left with
    | cons b left => exact hwritten
    | nil =>
      dsimp only
      rw [if_neg (by simp)]
      split_ifs
      · exact hwritten
      · exact hwritten.trans (ih fun _ => rfl)

/-! ## The end of copying -/

theorem closeWrite_eq (l : Link) (id : UInt32) :
    (closeWrite l id).1 = closing () (l.step (.call .server (.closeWrite id))).1 ∧
      (closeWrite l id).2 = (l.step (.call .server (.closeWrite id))).2 := by
  have hc : Does (.closeWrite id) id (fun s st => s.closeWrite st) .closed := fun _ => rfl
  unfold closeWrite
  cases h : (l.endOf .server).session.held? id with
  | none =>
    rw [step_of_not_held hc h]
    exact ⟨rfl, rfl⟩
  | some st =>
    rw [step_of_held hc h]
    refine ⟨?_, rfl⟩
    dsimp only
    cases (l.perform .server (·.closeWrite st)).1 <;> rfl

/-- Once FIN was sent the handle may be dropped. -/
theorem isShut_of_shut (wf : (l.endOf .server).session.WellFormed) :
    v.isShut (l.step (.call .server (.closeWrite v.id))).2 = true := by
  have hsession : ((l.step (.call .server (.closeWrite v.id))).2.endOf .server).session =
      ((l.endOf .server).session.step (.call (.closeWrite v.id))).state := by
    simp [step, Session.step]
  unfold isShut
  rw [hsession]
  generalize (l.endOf .server).session = s at wf
  have wf' := Session.step_wellFormed wf (.call (.closeWrite v.id))
  rw [Session.held?_eq wf'.distinct]
  cases hheld : s.held? v.id with
  | none =>
    have hsame : (s.step (.call (.closeWrite v.id))).state = s := by
      simp only [Session.step, Session.call, Session.onHeld, hheld]
    rw [hsame, ← Session.held?_eq wf.distinct, hheld]
    rfl
  | some st =>
    rw [Session.held?_eq wf.distinct] at hheld
    obtain ⟨hfind, hheld⟩ := Option.filter_eq_some_iff.mp hheld
    obtain ⟨-, st', hst', hheld', -, hdone⟩ :=
      Session.closeWrite_held wf hfind (by simpa using hheld)
    rw [hst', Option.filter_some, if_pos (by simpa using hheld')]
    exact hdone

theorem leads_shut (wf : (l.endOf .server).session.WellFormed) :
    Leads { v with service := .copying [] room true total } l (match closeWrite l v.id with
      | (.error cause, l) =>
        ({ v with service := .over }, release l v.id, [.echoAborted v.id cause])
      | (.ok (), l) => ({ v with service := .over }, release l v.id, [.echoed v.id total])) := by
  obtain ⟨hclosed, hlink⟩ := closeWrite_eq l v.id
  rw [show closeWrite l v.id = ((closeWrite l v.id).1, (closeWrite l v.id).2) from rfl,
    hclosed, hlink]
  rcases closing_cases () (l.step (.call .server (.closeWrite v.id))).1 with ⟨cause, h, hclosing⟩ |
    ⟨hnot, hclosing⟩
  · rw [hclosing]
    have hover : Leads { v with service := .copying [] room true total } l
        (v.goOn stand (.error cause, (l.step (.call .server (.closeWrite v.id))).2)) := by
      refine .breakOff .shut ?_
      simp only [take, shut, h]
      rfl
    exact hover
  · rw [hclosing]
    have hshut : Leads { v with service := .copying [] room true total } l
        ({ v with service := .copying [] room true total },
            (l.step (.call .server (.closeWrite v.id))).2, []) := by
      refine .call .shut ?_
      simp only [take, shut]
    have hleft : Leads { v with service := .copying [] room true total }
        (l.step (.call .server (.closeWrite v.id))).2
        ({ v with service := .over }, release (l.step (.call .server (.closeWrite v.id))).2 v.id,
            [.echoed v.id total]) := by
      rw [release_eq]
      refine .call .release ?_
      simp only [take, leave]
      rw [if_pos (isShut_of_shut (v := { v with service := .copying [] room true total }) wf)]
    exact hshut.trans hleft

/-- The task only copies, through a buffer that has all its room when it is empty. -/
def Copies (v : Serving) : Prop :=
  match v.service with
  | .copying held room _ _ => held = [] → room = copyBuffer
  | .over => True
  | _ => False

theorem Copies.take (h : v.Copies) (l : Link) (what : Step) : (v.take l what).1.Copies := by
  have hover (cause : Fault) (call : Link.Move) : (v.breakOff cause call).1.Copies := trivial
  cases what with
  | fill =>
    unfold Serving.take fillOnce
    dsimp only
    split
    next held room total hservice =>
      split
      · exact h
      split
      next bytes _ =>
        intro hnil
        obtain ⟨hheld, rfl⟩ := List.append_eq_nil_iff.mp hnil
        rw [Copies, hservice] at h
        exact h hheld
      next => exact hover _ _
      next => exact h
    next => exact h
  | put =>
    unfold Serving.take putOnce
    dsimp only
    split
    next b held room ended total hservice =>
      split
      next n _ =>
        intro hnil
        rw [hnil]
        rfl
      next => exact hover _ _
      next => exact h
    next => exact h
  | shut =>
    unfold Serving.take Serving.shut
    dsimp only
    split
    · split
      · exact hover _ _
      · exact h
    · exact h
  | release =>
    unfold Serving.take leave
    dsimp only
    split
    · split
      · exact trivial
      · exact h
    · exact h

theorem Leads.wellFormed (h : Leads v l b) (wf : ∀ r, (l.endOf r).session.WellFormed) :
    ∀ r, (b.2.1.endOf r).session.WellFormed := by
  induction h with
  | refl => exact wf
  | step what _ _ ih =>
    refine ih fun r => ?_
    rw [session_after]
    exact (wf r).after _

/-- A turn of the relay's work on a stream is some of its steps in a row. -/
theorem leads_turn (hv : v.Copies) (wf : ∀ r, (l.endOf r).session.WellFormed) :
    Leads v l (v.turn .echo l) := by
  obtain ⟨id, service⟩ := v
  cases service with
  | copying held room ended total =>
    have hcopied : Leads ⟨id, .copying held room ended total⟩ l _ :=
      leads_copy (v := ⟨id, .over⟩) (Check.unreadCount l .server id + 2) hv
    simp only [turn]
    generalize copy l id held room ended total (Check.unreadCount l .server id + 2) =
      copied at hcopied
    obtain ⟨cause | ⟨held, room, ended, total⟩, l⟩ := copied
    · exact hcopied
    have wf' := hcopied.wellFormed wf
    dsimp only
    split_ifs with hdone
    · obtain ⟨rfl, rfl⟩ : ended = true ∧ held = [] := by simpa using hdone
      exact hcopied.trans (leads_shut (v := ⟨id, .over⟩) (wf' .server))
    · exact hcopied
  | collecting | returning | holding => cases hv
  | _ => exact .refl

end Serving

end StreamMux.Load

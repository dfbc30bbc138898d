/-
A turn is a sequence of single calls, so whatever holds after every interleaving of the
calls of the tasks also holds when each task goes on as far as it comes.
-/
import StreamMux.Proofs.RelayTurn

namespace StreamMux.Load.System

open Link

variable {s : System} {i size streams : Nat} {c : Check} {v : Serving} {config : Config}

theorem after_append (s : System) (acts acts' : List Act) :
    s.after (acts ++ acts') = (s.after acts).after acts' :=
  List.foldl_append

theorem replace_self {α : Type} {items : List α} {a : α} (h : items[i]? = some a) :
    replace items i a = items := by
  obtain ⟨hi, rfl⟩ := List.getElem?_eq_some_iff.mp h
  exact List.set_getElem_self hi

theorem getElem?_replace {α : Type} {items : List α} {a a' : α} (h : items[i]? = some a) :
    (replace items i a')[i]? = some a' :=
  List.getElem?_set_self (List.getElem?_eq_some_iff.mp h).1

theorem replace_replace {α : Type} {items : List α} {a a' : α} :
    replace (replace items i a) i a' = replace items i a' :=
  List.set_set a

/-- Steps of a check are acts of the system. -/
theorem acts_of_check {b : Check × Link} (h : Check.Leads size (c, s.link) b)
    (hsize : s.size = size) (hc : s.checks[i]? = some c) : ∃ acts, s.after acts = { s with
      link := b.2
      checks := replace s.checks i b.1
      reports := s.reports ++ b.1.reports c size } := by
  generalize ha : (c, s.link) = a at h
  induction h generalizing s c with
  | refl =>
    subst ha
    refine ⟨[], ?_⟩
    rw [replace_self hc, Check.reports_self, List.append_nil]
    rfl
  | @step c₀ c' l calls b what htake hleads ih =>
    obtain ⟨rfl, rfl⟩ := Prod.mk.inj ha
    have hact : s.act (.check i what) = { s with
        link := s.link.after calls
        checks := replace s.checks i c'
        reports := s.reports ++ c'.reports c size } := by
      simp only [act, hc, hsize, htake]
    obtain ⟨acts, hacts⟩ := @ih (s.act (.check i what)) c' (by rw [hact]; exact hsize)
      (by rw [hact]; exact getElem?_replace hc) (by rw [hact])
    have hover : c.isOver = true → c' = c := fun hover => by
      rw [Check.take_of_isOver hover] at htake
      exact (Prod.mk.inj htake).1.symm
    refine ⟨.check i what :: acts, ?_⟩
    show (s.act (.check i what)).after acts = _
    rw [hacts, hact]
    simp only [replace_replace, List.append_assoc, hleads.reports c hover]

/-- Steps of the relay's work on a stream are acts of the system. -/
theorem acts_of_serving {b : Serving × Link × List Report} (h : Serving.Leads v s.link b)
    (hv : s.servings[i]? = some v) : ∃ acts, s.after acts = { s with
      link := b.2.1
      servings := replace s.servings i b.1
      reports := s.reports ++ b.2.2 } := by
  generalize hl : s.link = l at h
  induction h generalizing s with
  | refl =>
    subst hl
    refine ⟨[], ?_⟩
    rw [replace_self hv, List.append_nil]
    rfl
  | @step v v' l calls now b what htake hleads ih =>
    subst hl
    have hact : s.act (.serve i what) = { s with
        link := s.link.after calls
        servings := replace s.servings i v'
        reports := s.reports ++ now } := by
      simp only [act, hv, htake]
    obtain ⟨acts, hacts⟩ := @ih (s.act (.serve i what)) (by rw [hact]; exact getElem?_replace hv)
      (by rw [hact])
    refine ⟨.serve i what :: acts, ?_⟩
    show (s.act (.serve i what)).after acts = _
    rw [hacts, hact]
    simp only [replace_replace, List.append_assoc]

/-- The relay echoes. -/
structure Echoes (s : System) : Prop where
  relay : s.relay = .echo
  copies : ∀ v ∈ s.servings, v.Copies
  wellFormed : ∀ r, (s.link.endOf r).session.WellFormed

/-- Every move is some acts in a row. -/
theorem Echoes.acts_of_step (h : s.Echoes) (m : Move) : ∃ acts, s.after acts = s.step m := by
  cases m with
  | check i =>
    unfold step turnCheck
    dsimp only
    cases hc : s.checks[i]? with
    | none => exact ⟨[], rfl⟩
    | some c => exact acts_of_check (Check.leads_turn c s.link) rfl hc
  | serve i =>
    unfold step turnServing
    dsimp only
    cases hv : s.servings[i]? with
    | none => exact ⟨[], rfl⟩
    | some v =>
      have hleads := Serving.leads_turn (h.copies v (List.mem_of_getElem? hv)) h.wellFormed
      rw [← h.relay] at hleads
      exact acts_of_serving hleads hv
  | accept => exact ⟨[.accept], rfl⟩
  | write role => exact ⟨[.write role], rfl⟩
  | read role => exact ⟨[.read role], rfl⟩

/-- An act is its moves on the link. -/
theorem link_act (hrelay : s.relay = .echo) (a : Act) :
    (s.act a).link = s.link.after (s.calls a) := by
  cases a with
  | check i what => simp only [act, calls]; cases s.checks[i]? <;> rfl
  | serve i what => simp only [act, calls]; cases s.servings[i]? <;> rfl
  | accept =>
    simp only [act, acceptStream, hrelay]
    split <;> rfl
  | write | read => rfl

theorem Echoes.act (h : s.Echoes) (a : Act) : (s.act a).Echoes := by
  refine ⟨?_, ?_, fun r => ?_⟩
  · cases a with
    | check i what => simp only [System.act]; cases s.checks[i]? <;> exact h.relay
    | serve i what => simp only [System.act]; cases s.servings[i]? <;> exact h.relay
    | accept =>
      simp only [System.act, acceptStream, h.relay]
      split <;> rfl
    | write | read => exact h.relay
  · cases a with
    | check i what => simp only [System.act]; cases s.checks[i]? <;> exact h.copies
    | serve i what =>
      simp only [System.act]
      cases hv : s.servings[i]? with
      | none => exact h.copies
      | some v =>
        intro v' hv'
        rcases List.mem_or_eq_of_mem_set hv' with hold | rfl
        · exact h.copies v' hold
        · exact (h.copies v (List.mem_of_getElem? hv)).take _ _
    | accept =>
      simp only [System.act, acceptStream, h.relay]
      split
      · simp only [List.forall_mem_append, List.forall_mem_singleton]
        exact ⟨h.copies, fun _ => rfl⟩
      · exact h.copies
    | write | read => exact h.copies
  · rw [link_act h.relay, session_after]
    exact (h.wellFormed r).after _

theorem Echoes.after (h : s.Echoes) (acts : List Act) : (s.after acts).Echoes := by
  induction acts generalizing s with
  | nil => exact h
  | cons a acts ih => exact ih (h.act a)

theorem echoes_make (config : Config) (size streams : Nat) (expired : Bool) :
    (make (Link.make config) .echo size streams expired).Echoes where
  relay := rfl
  copies v hv := nomatch hv
  wellFormed r := by
    show ((Link.make config).endOf r).session.WellFormed
    rw [session_make]
    exact .make r config

/-- What the tasks come to in turns they also come to call by call. -/
theorem Reachable.exists_acts {start : System} (hstart : start.Echoes) (h : Reachable start s) :
    ∃ acts, start.after acts = s := by
  induction h with
  | start => exact ⟨[], rfl⟩
  | step m _ ih =>
    obtain ⟨acts, rfl⟩ := ih
    obtain ⟨more, hmore⟩ := (hstart.after acts).acts_of_step m
    exact ⟨acts ++ more, by rw [after_append, hmore]⟩

end StreamMux.Load.System

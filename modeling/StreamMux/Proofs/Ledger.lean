/-
All tasks of a load check together, in a calm run. Each check and each task of the relay has a
stream of its own, and what it has in mind of that stream is so; each stream that the
client has opened belongs to a check, and each that the relay has accepted to one of its
tasks. An act of one task leaves what the others have in mind as it is.
-/
import StreamMux.Proofs.Honest
import StreamMux.Proofs.Turns

namespace StreamMux.Load

open Link (Calm EndRead entryOf)

/-! ## Names of their own -/

section Names

variable {α : Type} {items : List α} {name : α → Option UInt32} {i j : Nat} {a b : α}

/-- No two of the items have one name. -/
def Apart (items : List α) (name : α → Option UInt32) : Prop :=
  ∀ (i j : Nat) (a b : α) (id : UInt32), items[i]? = some a → items[j]? = some b →
    name a = some id →
    name b = some id → i = j

theorem replace_cases (h : (System.replace items i a)[j]? = some b) : i = j ∧ b = a ∨ i ≠ j ∧
    items[j]? = some b := by
  unfold System.replace at h
  rw [List.getElem?_set] at h
  split at h
  next hij =>
    split at h
    · exact .inl ⟨hij, (Option.some.inj h).symm⟩
    · cases h
  next hij => exact .inr ⟨hij, h⟩

theorem Apart.replace (h : Apart items name) (hi : items[i]? = some b)
    (hfresh : ∀ id, name a = some id → name b = some id ∨ ∀ x ∈ items, name x ≠ some id) :
    Apart (System.replace items i a) name := by
  have alone {j : Nat} {x : α} {id : UInt32} (hj : items[j]? = some x) (ha : name a = some id)
      (hx : name x = some id) : i = j := by
    rcases hfresh id ha with hb | hnone
    · exact h i j b x id hi hj hb hx
    · exact absurd hx (hnone x (List.mem_of_getElem? hj))
  intro j k x y id hj hk hx hy
  rcases replace_cases hj with ⟨rfl, rfl⟩ | ⟨-, hj'⟩ <;>
    rcases replace_cases hk with ⟨rfl, rfl⟩ | ⟨-, hk'⟩
  · rfl
  · exact alone hk' hx hy
  · exact (alone hj' hy hx).symm
  · exact h j k x y id hj' hk' hx hy

theorem Apart.append (h : Apart items name)
    (hfresh : ∀ id, name a = some id → ∀ x ∈ items, name x ≠ some id) :
    Apart (items ++ [a]) name := by
  have place {j : Nat} {x : α} (hj : (items ++ [a])[j]? = some x) : items[j]? = some x ∨
      j = items.length ∧ x = a := by
    rw [List.getElem?_append] at hj
    split at hj
    · exact .inl hj
    next hlong =>
      obtain ⟨hlt, hx⟩ := List.getElem?_eq_some_iff.mp hj
      rw [List.length_singleton] at hlt
      exact .inr ⟨by omega, by rw [← hx]; simp⟩
  intro j k x y id hj hk hx hy
  rcases place hj with hj' | ⟨rfl, rfl⟩ <;> rcases place hk with hk' | ⟨rfl, rfl⟩
  · exact h j k x y id hj' hk' hx hy
  · exact absurd hx (hfresh id hy x (List.mem_of_getElem? hj'))
  · exact absurd hy (hfresh id hx y (List.mem_of_getElem? hk'))
  · rfl

/-- An item that takes the place of another and keeps its name leaves no name without an item. -/
theorem named_replace (hi : items[i]? = some b) (hsame : ∀ id, name b = some id → name a = some id)
    {id : UInt32}
    (h : ∃ x ∈ items, name x = some id) : ∃ x ∈ System.replace items i a, name x = some id := by
  obtain ⟨x, hx, hid⟩ := h
  obtain ⟨j, hj⟩ := List.mem_iff_getElem?.mp hx
  by_cases hij : i = j
  · subst hij
    obtain rfl := Option.some.inj (hi.symm.trans hj)
    exact ⟨a, List.mem_of_getElem? (System.getElem?_replace hi), hsame id hid⟩
  · refine ⟨x, List.mem_of_getElem? (i := j) ?_, hid⟩
    rw [System.replace, List.getElem?_set, if_neg hij, hj]

end Names

variable {config : Config} {moves : List Link.Move} {m : Link.Move} {size streams i : Nat}
  {id : UInt32} {checks : List Check} {servings : List Serving} {c c' : Check} {v v' : Serving}

/-! ## The checks -/

/-- The checks of a load check after a run. -/
structure ChecksKept (config : Config) (moves : List Link.Move) (size streams : Nat)
    (checks : List Check) : Prop where
  count : checks.length = streams
  kept : ∀ (i : Nat) (c : Check), checks[i]? = some c → c.Kept config moves size streams i
  apart : Apart checks (·.stage.stream?)
  opened : ∀ id entry, entryOf config moves .client id = some entry → Role.client.owns id = true →
    ∃ c ∈ checks, c.stage.stream? = some id

theorem ChecksKept.other (h : ChecksKept config moves size streams checks)
    (hm : ∀ c, m ≠ .call .client c) : ChecksKept config (moves ++ [m]) size streams checks where
  count := h.count
  kept i c hi :=
    ⟨(h.kept i c hi).seed, (h.kept i c hi).patient,
      (h.kept i c hi).honest.other fun call hc => absurd hc (hm call)⟩
  apart := h.apart
  opened id entry he howns := by
    rcases Link.opened_of_entry he howns with ⟨before, hbefore⟩ | ⟨hopen, -⟩
    · exact h.opened id before hbefore howns
    · exact absurd hopen (hm _)

theorem ChecksKept.call {call : Session.Call} (h : ChecksKept config moves size streams checks)
    (hi : checks[i]? = some c)
    (hcall : call.stream? = c.stage.stream?)
    (hkept : c'.Kept config (moves ++ [.call .client call]) size streams i)
    (hsame : ∀ id, c.stage.stream? = some id → c'.stage.stream? = some id)
    (hopened : ∀ id, call = .openStream →
      (((Link.make config).after moves).step (.call .client call)).1 = .opened (.ok id) →
        c'.stage.stream? = some id)
    (hfresh : ∀ id, c'.stage.stream? = some id →
      c.stage.stream? = some id ∨ entryOf config moves .client id = none) :
    ChecksKept config (moves ++ [.call .client call]) size streams
      (System.replace checks i c') where
  count := by rw [System.replace, List.length_set, h.count]
  kept j b hj := by
    rcases replace_cases hj with ⟨rfl, rfl⟩ | ⟨hij, hj⟩
    · exact hkept
    obtain ⟨hseed, hpatient, hhonest⟩ := h.kept j b hj
    refine ⟨hseed, hpatient, hhonest.other ?_⟩
    intro _ hc id hb hid
    cases hc
    exact hij (h.apart i j c b id hi hj (hcall.symm.trans hid) hb)
  apart := by
    refine h.apart.replace hi fun id hid => (hfresh id hid).imp_right fun hnone b hb hid => ?_
    obtain ⟨j, hj⟩ := List.mem_iff_getElem?.mp hb
    obtain ⟨entry, hentry⟩ := (h.kept j b hj).honest.entry hid
    rw [hnone] at hentry
    cases hentry
  opened id entry he howns := by
    rcases Link.opened_of_entry he howns with ⟨before, hbefore⟩ | ⟨hopen, hanswer⟩
    · exact named_replace hi hsame (h.opened id before hbefore howns)
    · cases hopen
      exact ⟨c', List.mem_of_getElem? (System.getElem?_replace hi), hopened id rfl hanswer⟩

/-- When a check finds all ids given out, there are more checks than ids. -/
theorem ChecksKept.many (h : ChecksKept config moves size streams checks) (hi : checks[i]? = some c)
    (hc : c.stage.stream? = none)
    (hnone : (((Link.make config).after moves).endOf .client).session.nextId = none) :
    2 ^ 31 < streams := by
  have wf := Link.wellFormed config moves .client
  obtain ⟨opened, admitted, hnamed⟩ : ∃ opened admitted,
      Session.Named .client (((Link.make config).after moves).endOf .client).session
          opened admitted := by
    rw [Link.session_of_run]
    exact ⟨_, _, Session.named .client config (Link.history config moves .client)⟩
  have husedUp := hnamed.usedUp hnone
  have hdistinct : opened.Nodup := by
    rw [← hnamed.mine]
    exact wf.distinct.filter _
  have hsub : opened ⊆ checks.filterMap (·.stage.stream?) := by
    intro id hid
    rw [← hnamed.mine] at hid
    obtain ⟨hmem, howns⟩ := List.mem_filter.mp hid
    obtain ⟨st, hst, rfl⟩ := List.mem_map.mp hmem
    exact List.mem_filterMap.mpr
      (h.opened _ _ (Link.entry_of_find? (Session.find?_of_mem wf.distinct hst)) howns)
  have hle := (List.subperm_of_subset hdistinct hsub).length_le
  have hlt : (checks.filterMap (·.stage.stream?)).length < checks.length :=
    List.length_filterMap_lt_length_iff_exists.mpr ⟨c, List.mem_of_getElem? hi, hc⟩
  have hfirst : Role.client.firstId.toNat = 1 := rfl
  have hsize : UInt32.size = 2 * 2 ^ 31 := rfl
  have hcount := h.count
  omega

/-! ## The relay -/

/-- The relay's tasks after a run. -/
structure ServingsKept (config : Config) (moves : List Link.Move)
    (servings : List Serving) : Prop where
  honest : ∀ v ∈ servings, v.service.Honest config moves v.id
  apart : Apart servings (some ·.id)
  claimed : ∀ id entry, entryOf config moves .server id = some entry → entry.handle ≠ .unclaimed →
    ∃ v ∈ servings, v.id = id

theorem ServingsKept.other (h : ServingsKept config moves servings)
    (hm : ∀ c, m = .call .server c → c.stream? = none ∧ ∀ id,
      (((Link.make config).after moves).step m).1 ≠ .opened (.ok id) ∧
        (((Link.make config).after moves).step m).1 ≠ .accepted (.ready (.ok id))) :
    ServingsKept config (moves ++ [m]) servings where
  honest v hv := (h.honest v hv).other fun c hc => by rw [(hm c hc).1]; simp
  apart := h.apart
  claimed id entry he hclaimed := by
    rcases Link.claimed_of_entry he hclaimed with ⟨before, hbefore, hu⟩ | ⟨hopen, hanswer⟩ |
      ⟨ticket, haccept, hanswer⟩
    · exact h.claimed id before hbefore hu
    · exact absurd hanswer ((hm _ hopen).2 id).1
    · exact absurd hanswer ((hm _ haccept).2 id).2

theorem ServingsKept.call {call : Session.Call} (h : ServingsKept config moves servings)
    (hi : servings[i]? = some v) (hcall : call.stream? = some v.id) (hid : v'.id = v.id)
    (hkept : v'.service.Honest config (moves ++ [.call .server call]) v'.id) :
    ServingsKept config (moves ++ [.call .server call]) (System.replace servings i v') where
  honest b hb := by
    obtain ⟨j, hj⟩ := List.mem_iff_getElem?.mp hb
    rcases replace_cases hj with ⟨rfl, rfl⟩ | ⟨hij, hj⟩
    · exact hkept
    refine (h.honest b (List.mem_of_getElem? hj)).other ?_
    intro _ hc hb
    cases hc
    exact hij (h.apart i j v b b.id hi hj (hcall.symm.trans hb) rfl)
  apart := h.apart.replace hi fun id hv' => .inl (by rw [← hv', hid])
  claimed id entry he hclaimed := by
    have hbefore : ∃ before, entryOf config moves .server id = some before ∧
        before.handle ≠ .unclaimed := by
      rcases Link.claimed_of_entry he hclaimed with hbefore | ⟨hopen, -⟩ | ⟨ticket, haccept, -⟩
      · exact hbefore
      · cases hopen
        cases hcall
      · cases haccept
        cases hcall
    obtain ⟨before, hbefore, hu⟩ := hbefore
    obtain ⟨b, hb, rfl⟩ := h.claimed id before hbefore hu
    have hthere : ∃ x ∈ System.replace servings i v', some x.id = some b.id :=
      named_replace hi (fun id hv => by rw [← hv, hid]) ⟨b, hb, rfl⟩
    obtain ⟨x, hx, hxid⟩ := hthere
    exact ⟨x, hx, Option.some.inj hxid⟩

theorem ServingsKept.accepted (h : ServingsKept config moves servings) {ticket : Nat}
    (hanswer : (((Link.make config).after moves).step (.call .server (.accept ticket))).1 =
      .accepted (.ready (.ok id))) :
    ServingsKept config (moves ++ [.call .server (.accept ticket)])
      (servings ++ [.start .echo id]) := by
  obtain ⟨⟨before, hbefore, hu⟩, hentry⟩ := Link.entry_of_accepted hanswer
  refine ⟨?_, h.apart.append fun i hi v hv hvid => ?_, fun i entry he hclaimed => ?_⟩
  · rw [List.forall_mem_append, List.forall_mem_singleton]
    refine ⟨fun v hv => (h.honest v hv).other ?_, ?_⟩
    · intro _ hc
      cases hc
      simp [Session.Call.stream?]
    · exact .copying hentry (fun h => nomatch h) (fun h => nomatch h) fun _ => rfl
  · obtain rfl : id = i := Option.some.inj hi
    obtain ⟨entry, he, hclaimed⟩ := (h.honest v hv).entry
    rw [Option.some.inj hvid, hbefore] at he
    rw [← Option.some.inj he] at hclaimed
    exact hclaimed hu
  · rcases Link.claimed_of_entry he hclaimed with ⟨entry, hentry, hu⟩ | ⟨hopen, -⟩ |
      ⟨ticket', haccept, hanswer'⟩
    · obtain ⟨v, hv, hid⟩ := h.claimed i entry hentry hu
      exact ⟨v, List.mem_append_left _ hv, hid⟩
    · cases hopen
    · cases haccept
      rw [hanswer] at hanswer'
      cases hanswer'
      exact ⟨_, List.mem_append_right _ (List.mem_singleton_self _), rfl⟩

/-- A stream whose end the client has read gave back what the client had written on it. -/
theorem ServingsKept.returned_eq (h : ServingsKept config moves servings) {entry : Link.Entry}
    (hend : EndRead config moves .client id) (he : entryOf config moves .client id = some entry) :
    entry.returned = entry.written := by
  obtain ⟨hback, peer, hpeer, hclosed⟩ := hend.agreed
  have hentry := Link.entry_of_find? hpeer
  obtain ⟨v, hv, rfl⟩ := h.claimed id _ hentry (Link.claimed_of_closed hentry hclosed)
  -- The relay has ended its direction, so it had come to the end of the other one.
  obtain ⟨hread, hwritten⟩ : EndRead config moves .server v.id ∧
      Link.accepted .server v.id ((Link.make config).trace moves) =
          Link.returned .server v.id ((Link.make config).trace moves) := by
    have hhonest := h.honest v hv
    generalize v.service = service at hhonest
    cases hhonest with
    | copying he' hcl hended =>
      obtain ⟨rfl, rfl⟩ :=
        hcl (by rw [← hclosed]; exact congrArg (·.closed) (Option.some.inj (he'.symm.trans hentry)))
      exact ⟨hended rfl, by rw [Link.entry_written he', Link.entry_returned he', List.append_nil]⟩
    | finished he' hread => exact ⟨hread, by rw [Link.entry_written he', Link.entry_returned he']⟩
  rw [← Link.entry_returned he, ← Link.entry_written he, hback]
  exact hwritten.trans hread.agreed.1

/-! ## One step of a task -/

section

variable {step : Check × List Link.Move} {work : Serving.Taken}

theorem ChecksKept.taken (h : ChecksKept config moves size streams checks)
    (hi : checks[i]? = some c) (htaken : c.Taken config moves size streams i step) :
    ChecksKept config (moves ++ step.2) size streams (System.replace checks i step.1) := by
  obtain ⟨hseed, hpatient, -⟩ := h.kept i c hi
  cases htaken with
  | rests =>
    rw [System.replace_self hi, List.append_nil]
    exact h
  | @opens id hnone hanswer =>
    obtain ⟨hnew, hentry⟩ := Link.entry_of_opened hanswer
    refine h.call hi hnone.symm ⟨hseed, hpatient, .writing hentry rfl fun h => Bool.noConfusion h⟩
      (fun id hid => ?_) (fun id' _ hanswer' => ?_) fun id' hid => ?_
    · rw [hnone] at hid
      cases hid
    · rw [hanswer] at hanswer'
      cases hanswer'
      rfl
    · cases hid
      exact .inr hnew
  | outOfIds hnone hnext hanswer =>
    refine h.call hi hnone.symm ⟨hseed, hpatient, .outOfIds (h.many hi hnone hnext)⟩
      (fun id hid => ?_) (fun id _ hanswer' => ?_) fun id hid => ?_
    · rw [hnone] at hid
      cases hid
    · rw [hanswer] at hanswer'
      cases hanswer'
    · cases hid
  | @calls id call stage hid hcall hid' hhonest =>
    refine h.call hi (hcall.trans hid.symm) ⟨hseed, hpatient, hhonest⟩ (fun i hi' => ?_)
      (fun i hopen => ?_) fun i hi' => ?_
    · rw [← hi', hid, ← hid']
    · rw [hopen] at hcall
      cases hcall
    · rw [← hi', hid, ← hid']
      exact .inl rfl

theorem ServingsKept.taken (h : ServingsKept config moves servings)
    (htaken : c.Taken config moves size streams i step) :
    ServingsKept config (moves ++ step.2) servings := by
  cases htaken with
  | rests =>
    rw [List.append_nil]
    exact h
  | opens | outOfIds | calls => exact h.other (by simp)

theorem ServingsKept.done (h : ServingsKept config moves servings) (hi : servings[i]? = some v)
    (hdone : v.Done config moves work) : ServingsKept config (moves ++ work.2.1)
    (System.replace servings i work.1) := by
  cases hdone with
  | rests =>
    rw [System.replace_self hi, List.append_nil]
    exact h
  | calls hcall hhonest => exact h.call hi hcall rfl hhonest

theorem ChecksKept.done (h : ChecksKept config moves size streams checks)
    (hdone : v.Done config moves work) :
    ChecksKept config (moves ++ work.2.1) size streams checks := by
  cases hdone with
  | rests =>
    rw [List.append_nil]
    exact h
  | calls => exact h.other (by simp)

end

/-! ## Any run -/

theorem Check.plain_take (c : Check) (size : Nat) (l : Link) (what : Check.Step) :
    ∀ m ∈ (c.take size l what).2, m.Plain := by
  cases what with
  | openStream =>
    unfold Check.take Check.openStream
    dsimp only
    repeat' split
    all_goals simp [Link.Move.Plain]
  | send =>
    unfold Check.take Check.sendOnce
    dsimp only
    repeat' split
    all_goals simp [Check.breakOff, Link.Move.Plain]
  | receive room =>
    unfold Check.take Check.receiveOnce
    dsimp only
    repeat' split
    all_goals simp [Check.breakOff, Link.Move.Plain]
  | conclude =>
    unfold Check.take Check.conclude
    dsimp only
    split
    all_goals simp [Link.Move.Plain]

theorem Serving.plain_take (v : Serving) (l : Link) (what : Serving.Step) :
    ∀ m ∈ (v.take l what).2.1, m.Plain := by
  cases what with
  | fill =>
    unfold Serving.take Serving.fillOnce
    dsimp only
    repeat' split
    all_goals simp [Serving.breakOff, Link.Move.Plain]
  | put =>
    unfold Serving.take Serving.putOnce
    dsimp only
    repeat' split
    all_goals simp [Serving.breakOff, Link.Move.Plain]
  | shut =>
    unfold Serving.take Serving.shut
    dsimp only
    repeat' split
    all_goals simp [Serving.breakOff, Link.Move.Plain]
  | release =>
    unfold Serving.take Serving.leave
    dsimp only
    repeat' split
    all_goals simp [Link.Move.Plain]

namespace System

variable {s : System} {acts more : List Act}

theorem moves_append : s.moves (acts ++ more) = s.moves acts ++ (s.after acts).moves more := by
  induction acts generalizing s with
  | nil => rfl
  | cons a acts ih =>
    show s.calls a ++ (s.act a).moves (acts ++ more) = s.calls a ++ (s.act a).moves acts ++ _
    rw [ih, List.append_assoc]
    rfl

theorem Echoes.link_after (h : s.Echoes) (acts : List Act) :
    (s.after acts).link = s.link.after (s.moves acts) := by
  induction acts generalizing s with
  | nil => rfl
  | cons a acts ih =>
    show ((s.act a).after acts).link = s.link.after (s.calls a ++ (s.act a).moves acts)
    rw [ih (h.act a), link_act h.relay, Link.after_append]

/-- The tasks neither abort a stream nor touch the connection. -/
theorem plain_calls (s : System) (a : Act) : ∀ m ∈ s.calls a, m.Plain := by
  cases a with
  | check i what =>
    unfold calls
    dsimp only
    split
    · exact Check.plain_take _ _ _ what
    · exact fun m hm => nomatch hm
  | serve i what =>
    unfold calls
    dsimp only
    split
    · exact Serving.plain_take _ _ what
    · exact fun m hm => nomatch hm
  | accept | write | read => simp [calls, Link.Move.Plain]

theorem plain_moves (s : System) (acts : List Act) : ∀ m ∈ s.moves acts, m.Plain := by
  induction acts generalizing s with
  | nil => exact fun m hm => nomatch hm
  | cons a acts ih => exact List.forall_mem_append.mpr ⟨s.plain_calls a, ih _⟩

/-- All that a load check consists of, after a run. -/
structure Kept (config : Config) (moves : List Link.Move) (size streams : Nat)
    (s : System) : Prop where
  link : s.link = (Link.make config).after moves
  relay : s.relay = .echo
  size_eq : s.size = size
  checks : ChecksKept config moves size streams s.checks
  servings : ServingsKept config moves s.servings

theorem kept_echoing (config : Config) (size streams : Nat) :
    (echoing config size streams).Kept config [] size streams where
  link := rfl
  relay := rfl
  size_eq := rfl
  checks := by
    have hstages {i : Nat} {c : Check}
        (hi : ((List.range streams).map fun seed => (⟨seed, false, .toOpen⟩ : Check))[i]? =
        some c) : c = ⟨i, false, .toOpen⟩ := by
      rw [List.getElem?_map] at hi
      obtain ⟨seed, hseed, rfl⟩ := Option.map_eq_some_iff.mp hi
      obtain ⟨-, rfl⟩ := List.getElem?_eq_some_iff.mp hseed
      rw [List.getElem_range]
    refine ⟨by simp [echoing, make], fun i c hi => ?_, fun i j a b id hi _ ha _ => ?_,
      fun id entry he _ => ?_⟩
    · rw [hstages hi]
      exact ⟨rfl, rfl, .toOpen⟩
    · rw [hstages hi] at ha
      cases ha
    · rw [Link.entryOf_nil] at he
      cases he
  servings := by
    refine ⟨fun v hv => (nomatch hv), fun i j a b id hi _ _ _ => (nomatch hi),
      fun id entry he _ => ?_⟩
    rw [Link.entryOf_nil] at he
    cases he

theorem Kept.act (h : s.Kept config moves size streams) (hcalm : Calm config moves) (a : Act) :
    (s.act a).Kept config (moves ++ s.calls a) size streams := by
  have hlink : (s.act a).link = (Link.make config).after (moves ++ s.calls a) := by
    rw [link_act h.relay, h.link, Link.after_append]
  have hrelay := h.relay
  have hsize := h.size_eq
  cases a with
  | write role =>
    exact ⟨hlink, hrelay, hsize, h.checks.other (by simp), h.servings.other (by simp)⟩
  | read role =>
    exact ⟨hlink, hrelay, hsize, h.checks.other (by simp), h.servings.other (by simp)⟩
  | accept =>
    refine ⟨hlink, ?_, ?_, ?_, ?_⟩ <;> simp only [System.act, acceptStream, hrelay] <;> split
    · rfl
    · rfl
    · exact hsize
    · exact hsize
    · exact h.checks.other (by simp)
    · exact h.checks.other (by simp)
    next id hanswer =>
      rw [h.link] at hanswer
      exact h.servings.accepted (congrArg Session.Reply.accepted hanswer)
    next hno =>
      refine h.servings.other fun c hc => ?_
      cases hc
      refine ⟨rfl, fun id => ⟨by rintro ⟨⟩, fun hanswer => hno id ?_⟩⟩
      rw [h.link]
      exact Session.Reply.accepted.inj hanswer
  | check i what =>
    cases hi : s.checks[i]? with
    | none =>
      simp only [System.act, calls, hi, List.append_nil]
      exact h
    | some c =>
      have htaken := (h.checks.kept i c hi).take hcalm (fun id entry => h.servings.returned_eq) what
      subst hsize
      rw [← h.link] at htaken
      simp only [System.act, calls, hi] at hlink ⊢
      exact ⟨hlink, hrelay, rfl, h.checks.taken hi htaken, h.servings.taken htaken⟩
  | serve i what =>
    cases hi : s.servings[i]? with
    | none =>
      simp only [System.act, calls, hi, List.append_nil]
      exact h
    | some v =>
      have hdone := Serving.done_take hcalm (h.servings.honest v (List.mem_of_getElem? hi)) what
      rw [← h.link] at hdone
      simp only [System.act, calls, hi] at hlink ⊢
      exact ⟨hlink, hrelay, hsize, h.checks.done hdone, h.servings.done hi hdone⟩

/-- Whatever the tasks do, what they have in mind is so, as long as no stream was refused. -/
theorem kept_after {acts : List Act}
    (hcalm : Calm config ((echoing config size streams).moves acts)) :
    ((echoing config size streams).after acts).Kept config
      ((echoing config size streams).moves acts) size streams := by
  induction acts using List.reverseRecOn with
  | nil => exact kept_echoing config size streams
  | append_singleton acts a ih =>
    rw [moves_append] at hcalm ⊢
    have hbefore := hcalm.before
    have hact := (ih hbefore).act hbefore a
    rw [after_append]
    simpa [moves, System.after] using hact

end System
end StreamMux.Load

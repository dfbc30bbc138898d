/-
Ids are given out once. `Naming` says what one step does to the ids in use: it adds
the next one of this side, or a higher one of the peer, or none. So the streams of a
session, which keeps all there ever were, have the ids that were opened here, which
count up by two from the first, and those that were admitted from the peer, which go
up. When the ids of this side are used up, nothing more is opened.
-/
import StreamMux.Proofs.Isolation
import StreamMux.Proofs.Outbound

namespace StreamMux.Session

/-- The stream that an answer says was opened. -/
def Reply.opened? : Reply → Option UInt32
  | .opened (.ok id) => some id
  | _ => none

/-- The ids of all streams there ever were, in order of creation. -/
def ids (s : Session) : List UInt32 := s.streams.map (·.id)

/-- The ids that calls of open answered, in order. -/
def openedIds (s : Session) (es : List Event) : List UInt32 := (s.trace es).filterMap (·.2.opened?)

/-- The ids that a message adds to them. -/
def admittedBy (s : Session) : Event → List UInt32
  | .message bytes => (s.step (.message bytes)).state.ids.drop s.ids.length
  | _ => []

/-- The ids of the streams that messages bring into being, in order. -/
def admittedIds (s : Session) : List Event → List UInt32
  | [] => []
  | e :: rest => s.admittedBy e ++ admittedIds (s.step e).state rest

variable {s s' : Session} {e : Event} {es es' : List Event} {st : Stream} {id : UInt32}
  {role : Role} {config : Config}

theorem openedIds_append :
    s.openedIds (es ++ es') = s.openedIds es ++ (s.after es).openedIds es' := by
  rw [openedIds, trace_append, List.filterMap_append]
  rfl

theorem openedIds_concat :
    s.openedIds (es ++ [e]) = s.openedIds es ++ ((s.after es).step e).result.opened?.toList := by
  rw [openedIds_append]
  congr 1

theorem admittedIds_concat :
    s.admittedIds (es ++ [e]) = s.admittedIds es ++ (s.after es).admittedBy e := by
  induction es generalizing s with
  | nil => simp [admittedIds, after]
  | cons e' es ih => simp [admittedIds, ih, after]

theorem admittedBy_of_ids_eq (h : (s.step e).state.ids = s.ids) : s.admittedBy e = [] := by
  cases e with
  | message bytes => rw [admittedBy, h, List.drop_length]
  | call | connectionEnded | connectionFailed | sent => rfl

/-! ## One step -/

theorem opened?_eq_some (h : (s.step e).result.opened? = some id) :
    e = .call .openStream ∧ (s.step e).result = .opened (.ok id) := by
  cases e with
  | call c =>
    cases c with
    | openStream =>
      refine ⟨rfl, ?_⟩
      simp only [step, call, Outcome.as] at h ⊢
      cases hr : s.openStream.result with
      | ok i =>
        rw [hr] at h
        cases h
        rfl
      | error fault => rw [hr] at h; cases h
    | accept | cancelAccept | close => cases h
    | read | write | closeWrite | reset | dropHandle =>
      simp only [step, call, onHeld] at h
      split at h <;> cases h
  | message | connectionEnded | connectionFailed | sent => cases h

/-- What a step does to the ids in use. -/
inductive Naming (s : Session) (e : Event) (s' : Session) : Prop
  | none : s'.ids = s.ids → s'.nextId = s.nextId → s.lastRemoteId ≤ s'.lastRemoteId →
    (s.step e).result.opened? = none → (∀ f ∈ (s.step e).frames, f.type ≠ .syn) → Naming s e s'
  | opened {next} : e = .call .openStream → s.nextId = some next → s'.ids = s.ids ++ [next] →
    s'.nextId = (if next.toNat + 2 < UInt32.size then some (next + 2) else .none) →
      s'.lastRemoteId = s.lastRemoteId →
    (s.step e).result.opened? = some next → (s.step e).frames = [.syn next] → Naming s e s'
  | admitted {message f} : e = .message message → s.taken e = [f] → f.type = .syn →
    s.mayOpen f.streamId = true →
    s'.ids = s.ids ++ [f.streamId] → s'.nextId = s.nextId → s'.lastRemoteId = f.streamId →
    (s.step e).result.opened? = .none → (∀ f ∈ (s.step e).frames, f.type ≠ .syn) → Naming s e s'

theorem naming (wf : s.WellFormed) (e : Event) : s.Naming e (s.step e).state := by
  have hturn := turn_of_step wf e
  -- A SYN is queued for every stream that is opened, so where there is none nothing was.
  have unopened (hnone : ∀ f ∈ (s.step e).frames, f.type ≠ .syn) :
      (s.step e).result.opened? = none := by
    refine Option.eq_none_iff_forall_ne_some.mpr fun id h => ?_
    obtain ⟨rfl, hresult⟩ := opened?_eq_some h
    have hframes := (opened_of_answer wf hresult).2.2.2
    exact hnone (.syn id) (by rw [hframes]; exact List.mem_singleton_self _) rfl
  have hopened : e = .call .openStream → s.ended = none → ∀ id, s.nextId = some id →
      (s.step e).result.opened? = some id := by
    rintro rfl hopen id hn
    simp only [step, call, Outcome.as, openStream, queue, hopen, hn]
    rfl
  have quietly (hframes : (s.step e).frames = []) : ∀ f ∈ (s.step e).frames, f.type ≠ .syn := by
    simp [hframes]
  generalize hs' : (s.step e).state = s' at hturn
  cases hturn with
  | quiet ht =>
    have hnone := quietly (frames_eq_nil ht)
    exact .none rfl rfl (UInt32.le_refl _) (unopened hnone) hnone
  | late _ _ _ _ hm ht =>
    have hnone := quietly (frames_eq_nil ht)
    exact .none rfl rfl (UInt32.le_of_lt (mayOpen_iff.mp hm).2.2) (unopened hnone) hnone
  | touched _ _ hst ht =>
    have hnone : ∀ f ∈ (s.step e).frames, f.type ≠ .syn := by
      rw [frames_eq ht]
      exact fun f hf hty => hst.not_carries_syn ⟨f, hf, hty⟩
    exact .none map_id_put rfl (UInt32.le_refl _) (unopened hnone) hnone
  | claimed _ _ _ ht =>
    have hnone := quietly (frames_eq_nil ht)
    exact .none map_id_put rfl (UInt32.le_refl _) (unopened hnone) hnone
  | @opened id stats he hopen hn ht =>
    exact .opened he hn (by simp [ids, Stream.make]) rfl rfl (hopened he hopen id hn) (frames_eq ht)
  | @announced message f stats he hopen hdec hty hm ht =>
    have hnone := quietly (frames_eq_nil ht)
    exact .admitted he (by rw [he]; exact taken_of_ok hopen hdec) hty hm
      (by simp [ids, Stream.make]) rfl rfl (unopened hnone) hnone
  | @refused message f stats he hopen hdec hty hm _ ht =>
    have hnone : ∀ g ∈ (s.step e).frames, g.type ≠ .syn := by
      rw [frames_eq ht]
      simp [Frame.rst]
    exact .admitted he (by rw [he]; exact taken_of_ok hopen hdec) hty hm
      (by simp [ids, Stream.make]) rfl rfl (unopened hnone) hnone
  | @ended cause stats _ _ ht =>
    have hnone := quietly (frames_eq_nil ht)
    refine .none ?_ rfl (UInt32.le_refl _) (unopened hnone) hnone
    simp [ids, tornDown_id]

/-- A step adds at most one id, which no stream ever had. -/
theorem ids_step (wf : s.WellFormed) (e : Event) :
    ∃ new, (s.step e).state.ids = s.ids ++ new ∧ new.length ≤ 1 ∧ ∀ id ∈ new,
      s.find? id = none := by
  cases naming wf e with
  | none hids => exact ⟨[], by rw [hids, List.append_nil], Nat.zero_le _, fun _ h => nomatch h⟩
  | @opened next _ hn hids =>
    refine ⟨[next], hids, Nat.le_refl _, ?_⟩
    rw [List.forall_mem_singleton]
    exact wf.find?_nextId hn
  | @admitted message f _ _ _ hm hids =>
    refine ⟨[f.streamId], hids, Nat.le_refl _, ?_⟩
    rw [List.forall_mem_singleton]
    exact wf.find?_of_mayOpen hm

/-! ## Every step so far -/

/-- The ids that the session `s` has in use, if these were opened here and these admitted. -/
structure Named (role : Role) (s : Session) (opened admitted : List UInt32) : Prop where
  counted : opened.map (·.toNat) = (List.range opened.length).map (role.firstId.toNat + 2 * ·)
  next : ∀ id, s.nextId = some id → id.toNat = role.firstId.toNat + 2 * opened.length
  usedUp : s.nextId = none → UInt32.size ≤ role.firstId.toNat + 2 * opened.length
  sorted : admitted.Pairwise (· < ·)
  last : ∀ id ∈ admitted, id ≤ s.lastRemoteId
  mine : s.ids.filter role.owns = opened
  theirs : s.ids.filter (!role.owns ·) = admitted

variable {opened admitted : List UInt32}

theorem Named.make (role : Role) (config : Config) : Named role (make role config) [] [] where
  counted := rfl
  next id h := by rw [← Option.some.inj h, List.length_nil, Nat.mul_zero, Nat.add_zero]
  usedUp h := nomatch h
  sorted := .nil
  last _ h := nomatch h
  mine := rfl
  theirs := rfl

theorem Named.same (h : Named role s opened admitted) (hids : s'.ids = s.ids)
    (hnext : s'.nextId = s.nextId)
    (hlast : s.lastRemoteId ≤ s'.lastRemoteId) : Named role s' opened admitted :=
  ⟨h.counted, by rw [hnext]; exact h.next, by rw [hnext]; exact h.usedUp, h.sorted,
    fun id hid => UInt32.le_trans (h.last id hid) hlast, by rw [hids]; exact h.mine, by
      rw [hids]; exact h.theirs⟩

theorem Named.open {next : UInt32} (h : Named s.role s opened admitted) (wf : s.WellFormed)
    (hn : s.nextId = some next)
    (hids : s'.ids = s.ids ++ [next]) (hlast : s'.lastRemoteId = s.lastRemoteId)
    (hnext : s'.nextId = if next.toNat + 2 < UInt32.size then some (next + 2) else none) :
    Named s.role s' (opened ++ [next]) admitted := by
  have howns := wf.nextOwned next hn
  have hcount := h.next next hn
  refine ⟨?_, fun id hid => ?_, fun hnone => ?_, h.sorted, by rw [hlast]; exact h.last, ?_, ?_⟩
  · rw [List.length_append, List.length_singleton, List.range_succ, List.map_append,
      List.map_append, h.counted, List.map_singleton, List.map_singleton, hcount]
  all_goals try rw [hnext] at *
  · split at hid
    next hfit =>
      rw [← Option.some.inj hid, toNat_add_two hfit, List.length_append, List.length_singleton]
      omega
    next => cases hid
  · split at hnone
    next => cases hnone
    next hfull =>
      rw [List.length_append, List.length_singleton]
      omega
  · simp [hids, h.mine, howns]
  · simp [hids, h.theirs, howns]

theorem Named.arrive {id : UInt32} (h : Named s.role s opened admitted) (hm : s.mayOpen id = true)
    (hids : s'.ids = s.ids ++ [id]) (hnext : s'.nextId = s.nextId) (hlast : s'.lastRemoteId = id) :
    Named s.role s' opened (admitted ++ [id]) := by
  obtain ⟨-, hother, habove⟩ := mayOpen_iff.mp hm
  have below (i : UInt32) (hi : i ∈ admitted) : i < id := by
    have hle := h.last i hi
    rw [UInt32.le_iff_toNat_le] at hle
    rw [UInt32.lt_iff_toNat_lt] at habove ⊢
    omega
  refine ⟨h.counted, by rw [hnext]; exact h.next, by rw [hnext]; exact h.usedUp, ?_, ?_, ?_, ?_⟩
  · rw [List.pairwise_append]
    refine ⟨h.sorted, List.pairwise_singleton _ _, fun i hi j hj => ?_⟩
    rw [List.mem_singleton.mp hj]
    exact below i hi
  · rw [hlast, List.forall_mem_append, List.forall_mem_singleton]
    refine ⟨fun i hi => ?_, UInt32.le_refl _⟩
    exact UInt32.le_of_lt (below i hi)
  · simp [hids, h.mine, hother]
  · simp [hids, h.theirs, hother]

theorem named (role : Role) (config : Config) (es : List Event) :
    Named role ((make role config).after es) ((make role config).openedIds es)
      ((make role config).admittedIds es) := by
  induction es using List.reverseRecOn with
  | nil => exact .make role config
  | append_singleton es e ih =>
    have wf := wellFormed_after role config es
    have hrole := role_after role config es
    rw [after_concat, openedIds_concat, admittedIds_concat]
    generalize (make role config).after es = s at ih wf hrole ⊢
    subst hrole
    cases naming wf e with
    | none hids hnext hlast hanswer =>
      rw [hanswer, admittedBy_of_ids_eq hids, Option.toList_none, List.append_nil, List.append_nil]
      exact ih.same hids hnext hlast
    | opened he hn hids hnext hlast hanswer =>
      rw [hanswer, show s.admittedBy e = [] by rw [he]; rfl, List.append_nil]
      exact ih.open wf hn hids hlast hnext
    | admitted he _ _ hm hids hnext hlast hanswer =>
      subst he
      rw [hanswer, admittedBy, hids, List.drop_left, Option.toList_none, List.append_nil]
      exact ih.arrive hm hids hnext hlast

/-- SYNs are queued for the streams that are opened here, in that order. -/
theorem syns_eq (role : Role) (config : Config) (es : List Event) :
    ((make role config).framesOf es).filter (·.type = .syn) =
      ((make role config).openedIds es).map .syn := by
  induction es using List.reverseRecOn with
  | nil => rfl
  | append_singleton es e ih =>
    rw [framesOf_concat, List.filter_append, ih, openedIds_concat, List.map_append]
    congr 1
    have none (hanswer : (((make role config).after es).step e).result.opened? = none)
        (hframes : ∀ f ∈ (((make role config).after es).step e).frames, f.type ≠ .syn) :
        (((make role config).after es).step e).frames.filter (·.type = .syn) =
          (((make role config).after es).step e).result.opened?.toList.map .syn := by
      rw [hanswer]
      exact List.filter_eq_nil_iff.mpr fun f hf => by simpa using hframes f hf
    cases naming (wellFormed_after role config es) e with
    | none _ _ _ hanswer hframes => exact none hanswer hframes
    | opened _ _ _ _ _ hanswer hframes =>
      rw [hanswer, hframes]
      rfl
    | admitted _ _ _ _ _ _ _ hanswer hframes => exact none hanswer hframes

/-- Every stream that is admitted has a SYN of its own among the messages. -/
theorem admittedIds_sublist (role : Role) (config : Config) (es : List Event) :
    ((make role config).admittedIds es).Sublist
      ((((make role config).takenOf es).filter (·.type = .syn)).map (·.streamId)) := by
  induction es using List.reverseRecOn with
  | nil => exact .slnil
  | append_singleton es e ih =>
    rw [admittedIds_concat, takenOf_concat, List.filter_append, List.map_append]
    refine ih.append ?_
    cases naming (wellFormed_after role config es) e with
    | none hids =>
      rw [admittedBy_of_ids_eq hids]
      exact List.nil_sublist _
    | opened he =>
      subst he
      exact .slnil
    | admitted he htaken hty _ hids =>
      rw [htaken]
      subst he
      rw [admittedBy, hids, List.drop_left, List.filter_cons_of_pos (by simpa using hty)]
      exact .refl _

/-! ## The table of streams -/

theorem retire_eq (hd : s.DistinctIds) (hm : st ∈ s.streams) :
    (s.retire st.id).1 = if st.tracked then s.put { st with tracked := false } else s := by
  simp only [retire, tracked?_eq hd, find?_of_mem hd hm]
  cases ht : st.tracked <;> simp [Option.filter, ht]

theorem tracked_of_not_names (wf : s.WellFormed) (hm : st ∈ s.streams) (ht : st.tracked = true)
    (hopen : (s.step e).state.ended = none) (hnames : ¬ e.Names st.id) :
    (s.step e).state.tracked? st.id ≠ none := by
  have hfind := find?_of_mem wf.distinct hm
  have wf' := step_wellFormed wf e
  obtain ⟨st', hst', ht'⟩ : ∃ st', (s.step e).state.find? st.id = some st' ∧
      st'.tracked = true := by
    have added (new : Stream) {t : Session} (happ : t.streams = s.streams ++ [new]) :
        t.find? st.id = some st := by
      rw [find?_append s new happ, hfind]
      rfl
    have hturn := turn_of_step wf e
    generalize (s.step e).state = s' at hturn hopen
    cases hturn with
    | quiet | late => exact ⟨st, hfind, ht⟩
    | @touched old new _ _ hold hne hst =>
      by_cases hid : st.id = old.id
      · rw [← hid, hfind] at hold
        obtain rfl := Option.some.inj hold
        obtain ⟨-, rfl⟩ := hst.names.resolve_right fun hseen => hseen.elim hnames
          fun haccepts => haccepts.elim hne
        exact ⟨_, find?_put hfind, ht⟩
      · exact ⟨st, (find?_put_ne (by rwa [hst.id_eq])).trans hfind, ht⟩
    | @claimed old _ _ _ _ _ _ hold =>
      let claimed : Stream := { old with handle := .held }
      by_cases hid : st.id = claimed.id
      · obtain rfl : st = old := Option.some.inj (hfind.symm.trans (by rw [hid]; exact hold))
        exact ⟨claimed, find?_put (show s.find? claimed.id = some st from hfind), ht⟩
      · exact ⟨st, (find?_put_ne hid).trans hfind, ht⟩
    | opened => exact ⟨st, added _ rfl, ht⟩
    | announced => exact ⟨st, added _ rfl, ht⟩
    | refused => exact ⟨st, added _ rfl, ht⟩
    | ended => cases hopen
  rw [tracked?_eq wf'.distinct, hst']
  simp [ht']

/-! ## When ids run out -/

theorem open_cases (hopen : s.ended = none) :
    (∃ id, s.nextId = some id ∧ (s.step (.call .openStream)).result = .opened (.ok id) ∧
      (s.step (.call .openStream)).state.ended = none) ∨
    s.nextId = none ∧ (s.step (.call .openStream)).result = .opened (.error .idsExhausted) ∧
      (s.step (.call .openStream)).state = s ∧ (s.step (.call .openStream)).frames = [] := by
  cases hn : s.nextId with
  | none =>
    right
    simp [step, call, Outcome.as, openStream, hopen, hn]
  | some id =>
    left
    simp [step, call, Outcome.as, openStream, queue, hopen, hn]

/-- As many calls of open as there are ids all succeed. -/
theorem openedIds_replicate (role : Role) (config : Config) {n : Nat}
    (h : role.firstId.toNat + 2 * n < UInt32.size + 2) :
    ((make role config).openedIds (List.replicate n (.call .openStream))).length = n ∧
      ((make role config).after (List.replicate n (.call .openStream))).ended = none := by
  induction n with
  | zero => exact ⟨rfl, rfl⟩
  | succ n ih =>
    obtain ⟨hlength, hopen⟩ := ih (by omega)
    have husedUp := (named role config (List.replicate n (.call .openStream))).usedUp
    rw [List.replicate_succ', openedIds_concat, after_concat, List.length_append, hlength]
    rcases open_cases hopen with ⟨id, -, hresult, hopen'⟩ | ⟨hnone, -⟩
    · rw [hresult]
      exact ⟨rfl, hopen'⟩
    · have := husedUp hnone
      omega

/-! ## Any run -/

/-- Whatever the peer sends and the application asks for: the ids in use are those that were
opened here, two by two from the first of this side, and those that were admitted, going up
(`Named`). SYNs are queued for the former, in that order; each of the latter is the peer's and
has a SYN of its own. No id is in use twice, so a stream that a step adds has a new one, to
retire a stream is to forget just that stream or nothing, and a session that goes on forgets
one only over an event that names it. Once the ids of this side are used up, every call of
open on an open session fails for that and has no effect; until then none does. -/
theorem ids_given_once (role : Role) (config : Config) (es : List Event) :
    let start := make role config
    let s := start.after es
    let opened := start.openedIds es
    let admitted := start.admittedIds es
    Named role s opened admitted ∧
    (∀ id ∈ opened, role.owns id = true) ∧
    (start.framesOf es).filter (·.type = .syn) = opened.map .syn ∧
    (∀ id ∈ admitted, id ≠ 0 ∧ role.other.owns id = true) ∧
    admitted.Sublist (((start.takenOf es).filter (·.type = .syn)).map (·.streamId)) ∧
    s.ids.Nodup ∧
    (∀ e, ∃ new, (s.step e).state.ids = s.ids ++ new ∧ new.length ≤ 1 ∧
      ∀ id ∈ new, s.find? id = none) ∧
    (∀ st ∈ s.streams,
      (s.retire st.id).1 = (if st.tracked then s.put { st with tracked := false } else s) ∧
        ∀ e, st.tracked = true → (s.step e).state.ended = none → ¬ e.Names st.id →
          (s.step e).state.tracked? st.id ≠ none) ∧
    (∀ later, UInt32.size ≤ role.firstId.toNat + 2 * opened.length →
      let s' := start.after (es ++ later)
      s'.ended = none →
      (s'.step (.call .openStream)).result = .opened (.error .idsExhausted) ∧
        (s'.step (.call .openStream)).state = s' ∧ (s'.step (.call .openStream)).frames = []) ∧
    (role.firstId.toNat + 2 * opened.length < UInt32.size → s.ended = none →
      ∃ id, (s.step (.call .openStream)).result = .opened (.ok id)) := by
  intro start s opened admitted
  have wf : s.WellFormed := wellFormed_after role config es
  have hnamed : Named role s opened admitted := named role config es
  refine ⟨hnamed, fun id hid => ?_, syns_eq role config es, fun id hid => ?_,
    admittedIds_sublist role config es,
    wf.distinct, ids_step wf,
      fun st hm => ⟨retire_eq wf.distinct hm, fun e ht => tracked_of_not_names wf hm ht⟩,
    fun later hfull => ?_, fun hleft hopen => ?_⟩
  · rw [← hnamed.mine] at hid
    exact (List.mem_filter.mp hid).2
  · rw [← hnamed.theirs, List.mem_filter, Bool.not_eq_true'] at hid
    obtain ⟨st, hm, rfl⟩ := List.mem_map.mp hid.1
    have hzero := (wf.peers st hm (by rw [role_after]; exact hid.2)).1
    exact ⟨hzero, by rw [Role.owns_other hzero, hid.2]; rfl⟩
  · intro s' hopen
    have hlater := (named role config (es ++ later)).next
    rw [openedIds_append, List.length_append, show (make role config).openedIds es = opened from
      rfl] at hlater
    refine ((open_cases hopen).resolve_left ?_).2
    rintro ⟨id, hn, -⟩
    have hcount := hlater id hn
    have hlt := id.toNat_lt_size
    omega
  · rcases open_cases hopen with ⟨id, -, hresult, -⟩ | ⟨hnone, -⟩
    · exact ⟨id, hresult⟩
    · have := hnamed.usedUp hnone
      omega

/-- A client has opened a stream of every odd id. -/
theorem ids_given_once_of_all_opened :
    (((make .client .default).after (List.replicate (UInt32.size / 2) (.call .openStream) ++
      [])).step (.call .openStream)).result =
      .opened (.error .idsExhausted) := by
  obtain ⟨hlength, hopen⟩ := openedIds_replicate .client .default (n := UInt32.size / 2) (by decide)
  obtain ⟨-, -, -, -, -, -, -, -, husedUp, -⟩ :=
    ids_given_once .client .default (List.replicate (UInt32.size / 2) (.call .openStream))
  exact (husedUp [] (by rw [hlength]; decide) (by rwa [List.append_nil])).1

end StreamMux.Session

/-
Every session that can be met is well-formed, whatever its peer sends: ids stay
distinct, an ended session tracks nothing, and the ids of its own next stream
and of the peer's next stream lie above all those in use.
-/
import StreamMux.Proofs.SessionStep

namespace StreamMux.Session

variable {s s' : Session} {e : Event} {st : Stream} {id : UInt32}

theorem mayOpen_iff : s.mayOpen id = true ↔ id ≠ 0 ∧ s.role.owns id = false ∧
    s.lastRemoteId < id := by
  simp [mayOpen, and_assoc]

/-- The id of the next stream of this side is not in use. -/
theorem WellFormed.find?_nextId (wf : s.WellFormed) (h : s.nextId = some id) :
    s.find? id = none := by
  rw [find?_eq_none_iff]
  intro st hm heq
  have howned : s.role.owns st.id = true := by rw [heq]; exact wf.nextOwned id h
  have hlt := wf.below st hm howned id h
  rw [heq, UInt32.lt_iff_toNat_lt] at hlt
  omega

/-- The id of a stream the peer may open is not in use. -/
theorem WellFormed.find?_of_mayOpen (wf : s.WellFormed) (h : s.mayOpen id = true) :
    s.find? id = none := by
  cases hf : s.find? id with
  | none => rfl
  | some st =>
    have hid := find?_id hf
    rw [← hid] at hf h
    rw [mayOpen_eq_false wf hf] at h
    cases h

theorem WellFormed.make (role : Role) (config : Config) :
    (Session.make role config).WellFormed where
  distinct := List.nodup_nil
  sound st h := nomatch h
  untracked _ st h := nomatch h
  teardown st h := nomatch h
  nextOwned n h := by
    rw [← Option.some.inj h]
    exact Role.owns_firstId
  below st h := nomatch h
  peers st h := nomatch h
  lastRemote _ := .inl rfl
  backlog id h := nomatch h
  backlogNodup := List.nodup_nil

/-- A well-formed session stays so when a stream of it changes the way streams do. -/
theorem WellFormed.put {st' : Stream} (wf : s.WellFormed) (h : s.find? st'.id = some st)
    (hs : st'.Sound) (ht : st.tracked = false → st'.tracked = false)
    (hd : ∀ fault, st'.reset = some (.teardown fault) → st.reset = some (.teardown fault))
    (hu : st.handle = .unclaimed → st'.handle = .unclaimed ∨ st.id ∉ s.backlog) :
    (s.put st').WellFormed := by
  have hm := mem_of_find? h
  have hid : st.id = st'.id := find?_id h
  have hids : (s.put st').streams.map (·.id) = s.streams.map (·.id) := map_id_put
  refine ⟨?_, forall_mem_put hs wf.sound, fun he => ?_, ?_, wf.nextOwned, ?_, ?_, ?_,
    fun i hi => ?_, wf.backlogNodup⟩
  · rw [DistinctIds, hids]; exact wf.distinct
  · exact forall_mem_put (ht (wf.untracked he st hm)) (wf.untracked he)
  · exact forall_mem_put (fun fault hr => wf.teardown st hm fault (hd fault hr)) wf.teardown
  · refine forall_mem_put ?_ wf.below
    rw [← hid]
    exact wf.below st hm
  · refine forall_mem_put ?_ wf.peers
    rw [← hid]
    exact wf.peers st hm
  · intro hopen
    rcases wf.lastRemote hopen with hz | ⟨a, ha, hlast, ho⟩
    · exact .inl hz
    · have hmem : a.id ∈ (s.put st').streams.map (·.id) := by
        rw [hids]; exact List.mem_map_of_mem ha
      obtain ⟨b, hb, hba⟩ := List.mem_map.mp hmem
      exact .inr ⟨b, hb, hba.trans hlast, by rw [hba]; exact ho⟩
  · obtain ⟨a, ha, hua⟩ := wf.backlog i hi
    by_cases heq : i = st'.id
    · subst heq
      rw [h] at ha
      obtain rfl := Option.some.inj ha
      refine ⟨st', find?_put h, ?_⟩
      rcases hu hua with hu | hu
      · exact hu
      · rw [hid] at hu
        exact absurd hi hu
    · exact ⟨a, (find?_put_ne heq).trans ha, hua⟩

theorem backlog_append (wf : s.WellFormed) (st : Stream) {t : Session}
    (ht : t.streams = s.streams ++ [st]) :
    ∀ i ∈ s.backlog, ∃ a, t.find? i = some a ∧ a.handle = .unclaimed := by
  intro i hi
  obtain ⟨a, ha, hu⟩ := wf.backlog i hi
  exact ⟨a, by rw [find?_append s st ht, ha]; rfl, hu⟩

/-- A stream opened on this side. -/
theorem WellFormed.opened (wf : s.WellFormed) (hopen : s.ended = none) (hn : s.nextId = some id)
    (stats : Stats) : WellFormed { s with
      nextId := if id.toNat + 2 < UInt32.size then some (id + 2) else none
      streams := s.streams ++ [.make id s.config .held]
      stats } := by
  have howned := wf.nextOwned id hn
  have hfresh : s.find? (Stream.make id s.config .held).id = none := wf.find?_nextId hn
  have next {n : UInt32} (h : (if id.toNat + 2 < UInt32.size then some (id + 2) else none) =
      some n) : s.role.owns n = true ∧ id < n := by
    split at h
    · next hfit =>
      rw [← Option.some.inj h, UInt32.lt_iff_toNat_lt, toNat_add_two hfit]
      exact ⟨Role.owns_add_two howned hfit, by omega⟩
    · cases h
  refine ⟨wf.distinct.append hfresh rfl, ?_, fun he => absurd hopen he, ?_,
    fun n h => (next h).1, ?_, ?_, ?_,
    backlog_append wf (.make id s.config .held) rfl, wf.backlogNodup⟩
  all_goals simp only [List.forall_mem_append, List.forall_mem_singleton]
  · exact ⟨wf.sound, .make⟩
  · exact ⟨wf.teardown, by simp [Stream.make]⟩
  · refine ⟨fun a ha ho n h => ?_, fun _ n h => (next h).2⟩
    exact UInt32.lt_trans (wf.below a ha ho id hn) (next h).2
  · refine ⟨wf.peers, fun ho => ?_⟩
    rw [show (Stream.make id s.config .held).id = id from rfl, howned] at ho
    cases ho
  · intro _
    rcases wf.lastRemote hopen with hz | ⟨a, ha, hlast⟩
    · exact .inl hz
    · exact .inr ⟨a, List.mem_append_left _ ha, hlast⟩

/-- A stream opened by the peer, whether it is refused or not. -/
theorem WellFormed.announced {backlog : List UInt32} (wf : s.WellFormed)
    (hm : s.mayOpen st.id = true)
    (hopen : s.ended = none) (hs : st.Sound) (hr : ∀ fault, st.reset ≠ some (.teardown fault))
    (hb : backlog = s.backlog ∨ backlog = s.backlog ++ [st.id] ∧ st.handle = .unclaimed)
    (stats : Stats) :
    WellFormed { s with lastRemoteId := st.id, streams := s.streams ++ [st], backlog, stats } := by
  have hfresh := wf.find?_of_mayOpen hm
  obtain ⟨hzero, ho, hlast⟩ := mayOpen_iff.mp hm
  have hold : ∀ i ∈ s.backlog, ∃ a, ({ s with
      lastRemoteId := st.id, streams := s.streams ++ [st], backlog, stats } : Session).find? i =
        some a ∧ a.handle = .unclaimed := backlog_append wf st rfl
  refine ⟨wf.distinct.append hfresh rfl, ?_, fun he => absurd hopen he, ?_, wf.nextOwned, ?_, ?_,
    fun _ => .inr ⟨st, by simp, rfl, ho⟩, ?_, ?_⟩
  · simp only [List.forall_mem_append, List.forall_mem_singleton]
    exact ⟨wf.sound, hs⟩
  · simp only [List.forall_mem_append, List.forall_mem_singleton]
    exact ⟨wf.teardown, fun fault hf => absurd hf (hr fault)⟩
  · simp only [List.forall_mem_append, List.forall_mem_singleton]
    refine ⟨wf.below, fun h => ?_⟩
    rw [ho] at h
    cases h
  · simp only [List.forall_mem_append, List.forall_mem_singleton]
    refine ⟨fun a ha hoa => ⟨(wf.peers a ha hoa).1, ?_⟩, fun _ => ⟨hzero, UInt32.le_refl _⟩⟩
    have hle := (wf.peers a ha hoa).2
    rw [UInt32.lt_iff_toNat_lt] at hlast
    rw [UInt32.le_iff_toNat_le] at hle ⊢
    omega
  · rcases hb with rfl | ⟨rfl, hu⟩
    · exact hold
    · simp only [List.forall_mem_append, List.forall_mem_singleton]
      exact ⟨hold, st, find?_append_self hfresh rfl, hu⟩
  · rcases hb with rfl | ⟨rfl, hu⟩
    · exact wf.backlogNodup
    · rw [List.nodup_append]
      refine ⟨wf.backlogNodup, by simp, fun i hi j hj hij => ?_⟩
      obtain ⟨a, ha, _⟩ := wf.backlog i hi
      rw [hij, List.mem_singleton.mp hj, hfresh] at ha
      cases ha

/-- What holds of a stream, and of it aborted, holds of it after the end of the session. -/
theorem tornDown_of {P : Stream → Prop} {cause : Fault} {st : Stream} (h : P st)
    (haborted : P (st.aborted (.teardown cause))) : P (tornDown cause st) := by
  rw [tornDown]
  split
  · exact haborted
  · exact h

theorem tornDown_id (cause : Fault) (st : Stream) : (tornDown cause st).id = st.id :=
  tornDown_of (P := fun x => x.id = st.id) rfl Stream.aborted_id

theorem tornDown_handle (cause : Fault) (st : Stream) : (tornDown cause st).handle = st.handle :=
  tornDown_of (P := fun x => x.handle = st.handle) rfl Stream.aborted_handle

theorem find?_tornDown (cause : Fault) {t : Session}
    (ht : t.streams = s.streams.map (tornDown cause)) :
    t.find? id = (s.find? id).map (tornDown cause) := by
  rw [find?, ht, List.find?_map, find?]
  congr 2
  funext a
  simp only [Function.comp, tornDown_id]

theorem WellFormed.ended (wf : s.WellFormed) (cause : Fault) (stats : Stats) :
    WellFormed
      { s with ended := some cause, streams := s.streams.map (tornDown cause), stats } := by
  have hids : (s.streams.map (tornDown cause)).map (·.id) = s.streams.map (·.id) := by
    rw [List.map_map]
    exact List.map_congr_left fun a _ => tornDown_id cause a
  refine ⟨?_, ?_, fun _ => ?_, fun _ _ _ _ => by simp, wf.nextOwned, ?_, ?_, ?_, fun i hi => ?_,
    wf.backlogNodup⟩
  · rw [DistinctIds, hids]; exact wf.distinct
  all_goals try simp only [List.forall_mem_map, tornDown_id]
  · intro a ha
    simp only [tornDown]
    split
    · exact (wf.sound a ha).aborted
    · exact wf.sound a ha
  · intro a ha
    simp only [tornDown]
    split
    · exact Stream.aborted_tracked
    · next ht => simpa using ht
  · exact wf.below
  · exact wf.peers
  · exact fun hopen => absurd hopen (Option.some_ne_none cause)
  · obtain ⟨a, ha, hu⟩ := wf.backlog i hi
    refine ⟨tornDown cause a, ?_, by rw [tornDown_handle]; exact hu⟩
    rw [find?_tornDown cause rfl, ha]
    rfl

theorem Turn.wellFormed (h : s.Turn e s') (wf : s.WellFormed) : s'.WellFormed := by
  cases h with
  | quiet =>
    exact ⟨wf.distinct, wf.sound, wf.untracked, wf.teardown, wf.nextOwned, wf.below, wf.peers,
      wf.lastRemote, wf.backlog, wf.backlogNodup⟩
  | @touched st st' t stats hfind hne hstep =>
    have hid := hstep.id_eq
    refine (WellFormed.put wf (hid ▸ hfind) (hstep.sound (wf.sound st (mem_of_find? hfind)))
      hstep.untracked (fun _ => hstep.teardown) fun hu => ?_).with_stats stats
    rcases hstep.unclaimed hu with hu' | ⟨ticket, rfl⟩
    · exact .inl hu'
    · exact absurd rfl (hne ticket)
  | @claimed st ticket rest acceptors stats he hb hfind =>
    have hnodup := wf.backlogNodup
    have hrest : ∀ i ∈ rest, i ∈ s.backlog :=
      fun i hi => by rw [hb]; exact List.mem_cons_of_mem _ hi
    rw [hb, List.nodup_cons] at hnodup
    have hsound := wf.sound st (mem_of_find? hfind)
    have shorter : WellFormed { s with backlog := rest, acceptors, stats } :=
      ⟨wf.distinct, wf.sound, wf.untracked, wf.teardown, wf.nextOwned, wf.below,
        wf.peers, wf.lastRemote, fun i hi => wf.backlog i (hrest i hi), hnodup.2⟩
    obtain ⟨a, ha, hu⟩ := wf.backlog st.id (by rw [hb]; exact List.mem_cons_self)
    rw [hfind] at ha
    obtain rfl := Option.some.inj ha
    have hclaim : st.Step s.config.maxFramePayload e {} { st with handle := .held } := by
      rw [he]
      exact .accept hu
    exact shorter.put hfind (hclaim.sound hsound) hclaim.untracked (fun _ => hclaim.teardown)
      fun _ => .inr hnodup.1
  | opened _ hopen hn => exact wf.opened hopen hn _
  | @announced message f stats _ hopen _ _ hm =>
    have hm : s.mayOpen (Stream.make f.streamId s.config .unclaimed).id = true := hm
    exact wf.announced hm hopen .make (by simp [Stream.make]) (.inr ⟨rfl, rfl⟩) _
  | @refused message f stats _ hopen _ _ hm =>
    have hs : ((Stream.make f.streamId s.config .unclaimed).aborted .here).Sound :=
      Stream.Sound.make.aborted
    have hm : s.mayOpen ((Stream.make f.streamId s.config .unclaimed).aborted .here).id = true := hm
    exact wf.announced hm hopen hs (by simp [Stream.refused_reset]) (.inl rfl) _
  | @late message f stats _ hended _ _ hm =>
    have hlast := (mayOpen_iff.mp hm).2.2
    refine ⟨wf.distinct, wf.sound, wf.untracked, wf.teardown, wf.nextOwned, wf.below,
      fun a ha ho => ?_, fun hopen => absurd hopen hended, wf.backlog, wf.backlogNodup⟩
    obtain ⟨hzero, hle⟩ := wf.peers a ha ho
    exact ⟨hzero, UInt32.le_of_lt (UInt32.lt_of_le_of_lt hle hlast)⟩
  | ended => exact wf.ended _ _

theorem step_wellFormed (wf : s.WellFormed) (e : Event) : (s.step e).state.WellFormed :=
  (turn_of_step wf e).wellFormed wf

theorem WellFormed.after (wf : s.WellFormed) (es : List Event) : (s.after es).WellFormed := by
  induction es generalizing s with
  | nil => exact wf
  | cons e es ih => exact ih (step_wellFormed wf e)

theorem Reachable.wellFormed {role : Role} {config : Config} (h : Reachable role config s) :
    s.WellFormed := by
  induction h with
  | start => exact .make role config
  | step e _ ih => exact step_wellFormed ih e

end StreamMux.Session

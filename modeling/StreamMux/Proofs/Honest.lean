/-
What the tasks of a load check and its relay keep in mind is so, in every calm run in which no
read deadline comes: what a check has left to send and has got back, and what the relay
holds in its copy buffers, fit what the applications have written and read on the streams.
Each task makes its calls on a stream of its own.

So no task fails, but for a check that finds all stream ids given out. A check whose stream
has come to its end has got back what it sent.
-/
import StreamMux.Load.Interleaving
import StreamMux.Proofs.Logbook

namespace StreamMux.Load

open Link (Calm EndRead entryOf entry_of_other)

variable {config : Config} {moves : List Link.Move} {m : Link.Move} {sent : Bytes}
  {size streams i : Nat} {id : UInt32}

/-! ## A check -/

/-- The stream of a check that has opened one. -/
def Stage.stream? : Stage → Option UInt32
  | .running id _ _ _ | .passed id => some id
  | .toOpen | .failed _ => none

/-- What a check that is to send these bytes has in mind is so after a run. -/
inductive Stage.Honest (config : Config) (moves : List Link.Move) (sent : Bytes)
    (streams : Nat) : Stage → Prop
  | toOpen : Honest config moves sent streams .toOpen
  | writing {id : UInt32} {rest ended got written} :
    entryOf config moves .client id = some ⟨.held, false, written, got.reverse.flatten⟩ →
      written ++ rest = sent →
    (ended = true → EndRead config moves .client id) →
    Honest config moves sent streams (.running id (.writing rest) ended got)
  | done {id : UInt32} {ended got} :
    entryOf config moves .client id = some ⟨.held, true, sent, got.reverse.flatten⟩ →
    (ended = true → EndRead config moves .client id) →
      Honest config moves sent streams (.running id .done ended got)
  | passed {id : UInt32} : entryOf config moves .client id = some ⟨.dropped, true, sent, sent⟩ →
    EndRead config moves .client id → Honest config moves sent streams (.passed id)
  | outOfIds :
    2 ^ 31 < streams → Honest config moves sent streams (.failed (.notOpened .idsExhausted))

variable {stage : Stage}

/-- What a check knows of its stream. -/
theorem Stage.Honest.entry (h : stage.Honest config moves sent streams)
    (hid : stage.stream? = some id) : ∃ entry, entryOf config moves .client id = some entry := by
  cases h with
  | toOpen | outOfIds => cases hid
  | writing he | done he | passed he =>
    cases hid
    exact ⟨_, he⟩

/-- Only its own calls are of account to a check. -/
theorem Stage.Honest.other (h : stage.Honest config moves sent streams)
    (hother : ∀ c, m = .call .client c → ∀ id, stage.stream? = some id → c.stream? ≠ some id) :
    stage.Honest config (moves ++ [m]) sent streams := by
  cases h with
  | toOpen => exact .toOpen
  | writing he hsent hended =>
    exact .writing (entry_of_other he (by simp) fun c hc => hother c hc _ rfl) hsent
      fun h => (hended h).mono
  | done he hended =>
    exact .done (entry_of_other he (by simp) fun c hc => hother c hc _ rfl) fun h => (hended h).mono
  | passed he hended =>
    exact .passed (entry_of_other he (by simp) fun c hc => hother c hc _ rfl) hended.mono
  | outOfIds hmany => exact .outOfIds hmany

namespace Check

variable {c : Check} {room : Nat}

/-- The check at the place `i` has its seed from there, meets no deadline, and what it has in mind
is so. -/
structure Kept (config : Config) (moves : List Link.Move) (size streams i : Nat)
    (c : Check) : Prop where
  seed : c.seed = i
  patient : c.expired = false
  honest : c.stage.Honest config moves (payload i size) streams

/-- What one step of a check does in a calm run: nothing, or one call. -/
inductive Taken (config : Config) (moves : List Link.Move) (size streams i : Nat) (c : Check) :
    Check × List Link.Move → Prop
  | rests : Taken config moves size streams i c (c, [])
  | opens {id : UInt32} : c.stage.stream? = none →
    (((Link.make config).after moves).step (.call .client .openStream)).1 = .opened (.ok id) →
    Taken config moves size streams i c
      ({ c with stage := .running id (.writing (payload i size)) false [] },
        [.call .client .openStream])
  | outOfIds : c.stage.stream? = none →
    (((Link.make config).after moves).endOf .client).session.nextId = none →
    (((Link.make config).after moves).step (.call .client .openStream)).1 =
      .opened (.error .idsExhausted) →
    Taken config moves size streams i c
      ({ c with stage := .failed (.notOpened .idsExhausted) }, [.call .client .openStream])
  | calls {id : UInt32} {call : Session.Call} {stage : Stage} : c.stage.stream? = some id →
    call.stream? = some id → stage.stream? = some id →
    stage.Honest config (moves ++ [.call .client call]) (payload i size) streams →
    Taken config moves size streams i c ({ c with stage }, [.call .client call])

variable (hcalm : Calm config moves) (hk : c.Kept config moves size streams i)
include hcalm hk

theorem Kept.openStream :
    c.Taken config moves size streams i (c.openStream size ((Link.make config).after moves)) := by
  obtain ⟨seed, expired, stage⟩ := c
  obtain ⟨rfl, rfl, hh⟩ := hk
  cases hh with
  | toOpen =>
    rcases Session.open_cases (hcalm.isOpen .client) with ⟨id, -, hanswer, -⟩ | ⟨hnone, hanswer, -⟩
    · have hanswer : (((Link.make config).after moves).step (.call .client .openStream)).1 = _ :=
        hanswer
      unfold Check.openStream
      simp only [hanswer]
      exact .opens rfl hanswer
    · have hanswer : (((Link.make config).after moves).step (.call .client .openStream)).1 = _ :=
        hanswer
      unfold Check.openStream
      simp only [hanswer]
      exact .outOfIds rfl hnone hanswer
  | _ => exact .rests

theorem Kept.sendOnce :
    c.Taken config moves size streams i (c.sendOnce ((Link.make config).after moves)) := by
  obtain ⟨seed, expired, stage⟩ := c
  obtain ⟨rfl, rfl, hh⟩ := hk
  cases hh with
  | @writing id rest ended got written he hsent hended =>
    unfold Check.sendOnce
    cases rest with
    | nil =>
      obtain ⟨hanswer, he'⟩ := Link.entry_of_closeWrite hcalm he rfl
      rw [List.append_nil] at hsent
      subst hsent
      simp only [hanswer]
      exact .calls rfl rfl rfl (.done he' fun h => (hended h).mono)
    | cons b rest =>
      rcases Link.entry_of_write hcalm he rfl rfl (List.cons_ne_nil b rest) with ⟨hanswer, he'⟩ |
        ⟨n, hanswer, -, -, he'⟩
      · simp only [hanswer]
        exact .calls rfl rfl rfl (.writing he' hsent fun h => (hended h).mono)
      · simp only [hanswer]
        refine .calls rfl rfl rfl (.writing he' ?_ fun h => (hended h).mono)
        rw [List.append_assoc, List.take_append_drop, hsent]
  | _ => exact .rests

theorem Kept.receiveOnce (room : Nat) :
    c.Taken config moves size streams i (c.receiveOnce ((Link.make config).after moves) room) := by
  obtain ⟨seed, expired, stage⟩ := c
  obtain ⟨rfl, rfl, hh⟩ := hk
  -- Both halves of a check are independent: reading is the same whatever sending has come to.
  have reads {id : UInt32} {sending : Sending} {got : List Bytes} {entry : Link.Entry}
      (he : entryOf config moves .client id = some entry) (hheld : entry.handle = .held)
      (hreturned : entry.returned = got.reverse.flatten)
      (next : ∀ now ended got, entryOf config now .client id =
        some { entry with returned := got.reverse.flatten } →
        (ended = true → EndRead config now .client id) →
        (Stage.running id sending ended got).Honest config now (payload seed size) streams) :
      Taken config moves size streams seed ⟨seed, false, .running id sending false got⟩
        (Check.receiveOnce ⟨seed, false, .running id sending false got⟩
            ((Link.make config).after moves) room) := by
    unfold Check.receiveOnce
    dsimp only
    split
    · exact .rests
    next hroom =>
    have hroom := Nat.pos_of_ne_zero hroom
    rcases Link.entry_of_read hcalm he hheld hroom with ⟨hanswer, he'⟩ | ⟨bytes, hanswer, -, he'⟩
    · simp only [hanswer]
      exact .calls rfl rfl rfl (next _ _ _ (by rw [← hreturned]; exact he') (fun h => nomatch h))
    · cases bytes with
      | nil =>
        simp only [hanswer]
        refine .calls rfl rfl rfl (next _ _ _ ?_ fun _ =>
          ⟨moves, room, false, [], rfl, hroom, hanswer⟩)
        rw [← hreturned]
        simpa using he'
      | cons b bytes =>
        simp only [hanswer]
        refine .calls rfl rfl rfl (next _ _ _ ?_ (fun h => nomatch h))
        rw [hreturned] at he'
        simpa using he'
  cases hh with
  | @writing id rest ended got written he hsent hended =>
    cases ended with
    | true => exact .rests
    | false => exact reads he rfl rfl fun now ended got he hended => .writing he hsent hended
  | @done id ended got he hended =>
    cases ended with
    | true => exact .rests
    | false => exact reads he rfl rfl fun now ended got he hended => .done he hended
  | _ => exact .rests

/-- A check that has come to its end passes, if the stream gives back what was written on it. -/
theorem Kept.conclude (hback : ∀ id entry, EndRead config moves .client id →
      entryOf config moves .client id = some entry → entry.returned = entry.written) :
    c.Taken config moves size streams i (c.conclude size) := by
  obtain ⟨seed, expired, stage⟩ := c
  obtain ⟨rfl, rfl, hh⟩ := hk
  cases hh with
  | @done id ended got he hended =>
    cases ended with
    | false => exact .rests
    | true =>
      have hback : got.reverse.flatten = payload seed size := hback id _ (hended rfl) he
      have he' := Link.entry_of_dropHandle hcalm he rfl
      rw [hback] at he'
      unfold Check.conclude
      dsimp only
      rw [if_pos hback]
      exact .calls rfl rfl rfl (.passed he' (hended rfl).mono)
  | _ => exact .rests

/-- One step of a check. -/
theorem Kept.take (hback : ∀ id entry, EndRead config moves .client id →
      entryOf config moves .client id = some entry → entry.returned = entry.written) (what : Step) :
    c.Taken config moves size streams i (c.take size ((Link.make config).after moves) what) := by
  cases what with
  | openStream => exact hk.openStream hcalm
  | send => exact hk.sendOnce hcalm
  | receive room => exact hk.receiveOnce hcalm room
  | conclude => exact hk.conclude hcalm hback

end Check

/-! ## The relay's work on a stream -/

/-- What the relay has in mind of the stream `id` is so after a run: it holds in its buffer what
it has read and not written back. -/
inductive Service.Honest (config : Config) (moves : List Link.Move) (id : UInt32) : Service → Prop
  | copying {held : Bytes} {room : Nat} {ended : Bool} {total : Nat} {closed : Bool}
    {written : Bytes} :
    entryOf config moves .server id = some ⟨.held, closed, written, written ++ held⟩ →
    (closed = true → ended = true ∧ held = []) → (ended = true → EndRead config moves .server id) →
    (held = [] → room = copyBuffer) → Honest config moves id (.copying held room ended total)
  | finished {bytes : Bytes} :
    entryOf config moves .server id = some ⟨.dropped, true, bytes, bytes⟩ →
    EndRead config moves .server id → Honest config moves id .over

variable {service : Service}

theorem Service.Honest.entry (h : service.Honest config moves id) :
    ∃ entry, entryOf config moves .server id = some entry ∧ entry.handle ≠ .unclaimed := by
  cases h with
  | copying he => exact ⟨_, he, by simp⟩
  | finished he => exact ⟨_, he, by simp⟩

theorem Service.Honest.other (h : service.Honest config moves id)
    (hother : ∀ c, m = .call .server c → c.stream? ≠ some id) :
    service.Honest config (moves ++ [m]) id := by
  cases h with
  | copying he hclosed hended hroom =>
    exact .copying (entry_of_other he (by simp) hother) hclosed (fun h => (hended h).mono) hroom
  | finished he hended => exact .finished (entry_of_other he (by simp) hother) hended.mono

namespace Serving

variable {v : Serving}

/-- What one step of the relay's work on a stream does in a calm run: nothing, or one call. -/
inductive Done (config : Config) (moves : List Link.Move) (v : Serving) : Taken → Prop
  | rests : Done config moves v (v, [], [])
  | calls {call : Session.Call} {service : Service} {reports : List Report} :
    call.stream? = some v.id →
    service.Honest config (moves ++ [.call .server call]) v.id →
    Done config moves v ({ v with service }, [.call .server call], reports)

variable (hcalm : Calm config moves) (hk : v.service.Honest config moves v.id)
include hcalm hk

theorem done_fillOnce : v.Done config moves (v.fillOnce ((Link.make config).after moves)) := by
  obtain ⟨id, service⟩ := v
  cases hk with
  | @copying held room ended total closed written he hclosed hended hroom =>
    cases ended with
    | true => exact .rests
    | false =>
      obtain rfl : closed = false := by simpa using hclosed
      unfold fillOnce
      dsimp only
      split
      · exact .rests
      next hspace =>
      have hspace := Nat.pos_of_ne_zero hspace
      rcases Link.entry_of_read hcalm he rfl hspace with ⟨hanswer, he'⟩ |
        ⟨bytes, hanswer, hlength, he'⟩
      · simp only [hanswer]
        exact .calls rfl (.copying he' hclosed (fun h => nomatch h) hroom)
      · simp only [hanswer]
        rw [List.append_assoc] at he'
        refine .calls rfl (.copying he' (fun h => nomatch h) (fun hempty => ?_) fun hnil => ?_)
        · obtain rfl := List.isEmpty_iff.mp hempty
          exact ⟨moves, room, false, [], rfl, hspace, hanswer⟩
        · obtain ⟨hheld, rfl⟩ := List.append_eq_nil_iff.mp hnil
          exact hroom hheld
  | finished => exact .rests

theorem done_putOnce : v.Done config moves (v.putOnce ((Link.make config).after moves)) := by
  obtain ⟨id, service⟩ := v
  cases hk with
  | @copying held room ended total closed written he hclosed hended hroom =>
    cases held with
    | nil => exact .rests
    | cons b held =>
      obtain rfl : closed = false := by
        cases closed with
        | false => rfl
        | true => cases (hclosed rfl).2
      unfold putOnce
      dsimp only
      rcases Link.entry_of_write hcalm he rfl rfl (List.cons_ne_nil b held) with ⟨hanswer, he'⟩ |
        ⟨n, hanswer, -, -, he'⟩
      · simp only [hanswer]
        exact .calls rfl (.copying he' hclosed (fun h => (hended h).mono) hroom)
      · simp only [hanswer]
        have hrest : written ++ (b :: held) = written ++ (b :: held).take n ++
            (b :: held).drop n := by
          rw [List.append_assoc, List.take_append_drop]
        rw [hrest] at he'
        refine .calls rfl (.copying he' (fun h => nomatch h) (fun h => (hended h).mono)
          fun hnil => ?_)
        rw [hnil]
        rfl
  | finished => exact .rests

theorem done_shut : v.Done config moves (v.shut ((Link.make config).after moves)) := by
  obtain ⟨id, service⟩ := v
  cases hk with
  | @copying held room ended total closed written he hclosed hended hroom =>
    unfold Serving.shut
    dsimp only
    split
    next hservice =>
      obtain ⟨rfl, rfl, rfl, rfl⟩ := Service.copying.inj hservice
      obtain ⟨hanswer, he'⟩ := Link.entry_of_closeWrite hcalm he rfl
      simp only [hanswer]
      exact .calls rfl (.copying he' (fun _ => ⟨rfl, rfl⟩) (fun h => (hended h).mono) hroom)
    next => exact .rests
  | finished => exact .rests

theorem done_leave : v.Done config moves (v.leave ((Link.make config).after moves)) := by
  obtain ⟨id, service⟩ := v
  cases hk with
  | @copying held room ended total closed written he hclosed hended hroom =>
    unfold Serving.leave
    dsimp only
    split
    next hservice =>
      obtain ⟨rfl, rfl, rfl, rfl⟩ := Service.copying.inj hservice
      split
      next =>
        have he' := Link.entry_of_dropHandle hcalm he rfl
        rw [List.append_nil] at he'
        exact .calls rfl (.finished he' (hended rfl).mono)
      next => exact .rests
    next => exact .rests
  | finished => exact .rests

/-- One step of the relay's work on a stream. -/
theorem done_take (what : Step) :
    v.Done config moves (v.take ((Link.make config).after moves) what) := by
  cases what with
  | fill => exact done_fillOnce hcalm hk
  | put => exact done_putOnce hcalm hk
  | shut => exact done_shut hcalm hk
  | release => exact done_leave hcalm hk

end Serving
end StreamMux.Load

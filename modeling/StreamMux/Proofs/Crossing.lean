/-
What a load check makes of a relay that mixes up its streams. What is sent on a stream
depends on no more than the last seven bits of the stream's number, since the number is
multiplied by an even number and a byte is kept. So the check that gets the bytes of
another stream fails, unless the two numbers agree in those bits; then it cannot tell.
-/
import StreamMux.Proofs.Mixing
import Mathlib.Logic.Equiv.Basic

namespace StreamMux.Load

open Session (Event)

/-! ## Payloads that are alike -/

section Payload

variable {seed seed' size i : Nat}

/-- A byte is cut from two parts, one for the place and one for the stream. -/
theorem payloadByte_eq :
    payloadByte seed i = (i.toUInt64 * 31).toUInt8 ^^^ (seed * 0x9E).toUInt8 := by
  have hseed : (seed.toUInt64 * 0x9E).toUInt8 = (seed * 0x9E).toUInt8 := by
    apply UInt8.toNat_inj.mp
    simp
  rw [payloadByte, UInt64.toUInt8_xor, hseed]

theorem toUInt8_mul_eq_iff : (seed * 0x9E).toUInt8 = (seed' * 0x9E).toUInt8 ↔
    seed % 128 = seed' % 128 := by
  have hbyte (n : Nat) : n.toUInt8.toNat = n % 256 := UInt8.toNat_ofNat'
  rw [← UInt8.toNat_inj, hbyte, hbyte]
  omega

theorem payload_eq_iff (hsize : 0 < size) : payload seed size = payload seed' size ↔
    seed % 128 = seed' % 128 := by
  rw [← toUInt8_mul_eq_iff]
  constructor
  · intro h
    have hfirst : (payload seed size).head? = (payload seed' size).head? := by rw [h]
    obtain ⟨n, rfl⟩ := Nat.exists_eq_succ_of_ne_zero hsize.ne'
    simpa [payload, List.range_succ_eq_map, payloadByte_eq] using hfirst
  · intro h
    refine List.map_congr_left fun i _ => ?_
    rw [payloadByte_eq, payloadByte_eq, h]

end Payload

/-! ## Who fails -/

theorem Stage.compared_or_failed (c : Check) (h : c.isOver = true) :
    (∃ id, c.stage.compared? = some id) ∨ c.stage.isFailed = true := by
  obtain ⟨seed, expired, stage⟩ := c
  cases stage with
  | toOpen | running => cases h
  | passed id => exact .inl ⟨id, rfl⟩
  | failed why => exact .inr rfl

namespace System

variable {config : Config} {es : List Event} {s : System} {p : Nat → Nat} {size streams i : Nat}

theorem countFailures_eq : countFailures s = s.checks.countP (·.stage.isFailed) := rfl

theorem countP_checks {test : Check → Bool} {holds : Nat → Bool}
    (h : ∀ i c, s.checks[i]? = some c → test c = holds i) :
    s.checks.countP test = (List.range s.checks.length).countP holds := by
  have hchecks : s.checks.countP test = s.checks.zipIdx.countP fun item => test item.1 := by
    conv_lhs => rw [← List.zipIdx_map_fst 0 s.checks]
    rw [List.countP_map]
    rfl
  have hplaces : (List.range s.checks.length).countP holds = s.checks.zipIdx.countP
      fun item => holds item.2 := by
    rw [List.range_eq_range', ← List.zipIdx_map_snd 0 s.checks, List.countP_map]
    rfl
  rw [hchecks, hplaces]
  refine List.countP_congr fun item hitem => ?_
  rw [h item.2 item.1 (List.mem_zipIdx_iff_getElem?.mp hitem)]

variable (h : s.Booked config es size streams) (hp : s.Crosses config es p)
include h hp

theorem countFailures_of_compared (hall : s.AllCompared streams) (hsize : 0 < size) :
    countFailures s = (List.range streams).countP fun i => p i % 128 ≠ i % 128 := by
  rw [countFailures_eq, ← h.count]
  refine countP_checks fun i c hc => ?_
  have hi : i < streams := by
    rw [← h.count]
    exact (List.getElem?_eq_some_iff.mp hc).1
  obtain ⟨id, hid⟩ := Option.ne_none_iff_exists'.mp (hall i hi)
  rw [Bool.eq_iff_iff, h.failed_iff hc hid (hp.answered h hall hid).2, ne_eq, payload_eq_iff hsize,
    decide_eq_true_eq]

/-- Ways to mix up streams of which the payloads are alike cannot be told apart. -/
theorem crosses_iff {p' : Nat → Nat} (hall : s.AllCompared streams) (hsize : 0 < size)
    (hp' : ∀ i < streams, p' i < streams) :
    s.Crosses config es p' ↔ ∀ i < streams, p' i % 128 = p i % 128 := by
  constructor
  · intro hother i hi
    obtain ⟨id, hid⟩ := Option.ne_none_iff_exists'.mp (hall i hi)
    have hsame := (hother.answered h hall hid).2.unique (hp.answered h hall hid).2
    exact (payload_eq_iff hsize).mp hsame
  · intro hsame
    refine crosses_of_answered h hall hp' fun i id hid => ?_
    rw [(payload_eq_iff hsize).mpr (hsame i (h.lt_of_opened (h.compared hid).1))]
    exact (hp.answered h hall hid).2

theorem countFailures_pos (hover : s.allOver = true) (hi : i < streams) (hne : p i % 128 ≠ i % 128)
    (hsize : 0 < size) : 0 < countFailures s := by
  rw [countFailures_eq, List.countP_pos_iff]
  by_contra hnone
  have hcompared {j : Nat} (hj : j < streams) : s.comparedBy? j ≠ none := by
    intro hj'
    have hlt : j < s.checks.length := by rwa [h.count]
    have hmem := List.getElem_mem hlt
    rcases Stage.compared_or_failed _ (List.all_eq_true.mp hover _ hmem) with ⟨id, hid⟩ | hfailed
    · rw [comparedBy?, List.getElem?_eq_getElem hlt] at hj'
      exact Option.some_ne_none id (hid.symm.trans hj')
    · exact hnone ⟨_, hmem, hfailed⟩
  have hcount := countFailures_of_compared h hp (fun j hj => hcompared hj) hsize
  have hpos : 0 < (List.range streams).countP fun i => p i % 128 ≠ i % 128 :=
    List.countP_pos_iff.mpr ⟨i, List.mem_range.mpr hi, by simpa using hne⟩
  rw [← hcount, countFailures_eq, List.countP_pos_iff] at hpos
  exact hnone hpos

omit h hp

/-- What is sent on a stream depends on no more than the last seven bits of its number. Suppose
that a relay answers each stream in full and with FIN, but with what was written on another; on
which, `p` gives. A load check of which all checks have come out fails if any of them gets the
bytes of a stream whose number differs from its own in those bits. Up to 128 streams that means:
if any gets the bytes of another. If all checks have compared, just those have failed that got
such bytes, and the relay might as well have mixed up the streams in any way that agrees with `p`
in those bits. This is no empty matter: every way to mix up streams is possible, of as many as
there are ids, and lets all checks compare. -/
theorem crossing (config : Config) (size streams : Nat) (hsize : 0 < size) :
    (∀ i j, payload i size = payload j size ↔ i % 128 = j % 128) ∧
    (∀ expired encounters (p : Nat → Nat),
      let s := (unanswered config size streams expired).meeting encounters
      let es := (unanswered config size streams expired).history encounters
      s.Crosses config es p →
        (s.allOver = true → (∃ i < streams, p i % 128 ≠ i % 128) →
          ∃ failures, 0 < failures ∧ s.verdict streams = .failed failures streams) ∧
        (s.allOver = true → streams ≤ 128 → (∃ i < streams, p i < streams ∧ p i ≠ i) →
          ∃ failures, 0 < failures ∧ s.verdict streams = .failed failures streams) ∧
        (s.AllCompared streams →
          countFailures s = ((List.range streams).countP fun i => p i % 128 ≠ i % 128) ∧
          ∀ p' : Nat → Nat, (∀ i < streams, p' i < streams) →
            (s.Crosses config es p' ↔ ∀ i < streams, p' i % 128 = p i % 128))) ∧
    (∀ p : Nat → Nat, config.Valid → size ≤ config.maxFramePayload.toNat → streams ≤ 2 ^ 31 →
      (∀ i < streams, p i < streams) → ∃ encounters,
        let s := (unanswered config size streams false).meeting encounters
        s.Crosses config ((unanswered config size streams false).history encounters) p ∧
            s.AllCompared streams) := by
  refine ⟨fun i j => payload_eq_iff hsize, fun expired encounters p => ?_,
    fun p hv hfits hids hp => exists_crosses hv hsize hfits hids hp⟩
  intro s es hp
  have h : s.Booked config es size streams := booked config size streams expired encounters
  have hfails (hover : s.allOver = true) (hne : ∃ i < streams, p i % 128 ≠ i % 128) :
      ∃ failures, 0 < failures ∧ s.verdict streams = .failed failures streams := by
    obtain ⟨i, hi, hne⟩ := hne
    have hfailures := countFailures_pos h hp hover hi hne hsize
    exact ⟨countFailures s, hfailures, by rw [verdict, if_neg hfailures.ne']⟩
  refine ⟨hfails, fun hover hfew hne => hfails hover ?_, fun hall => ?_⟩
  · obtain ⟨i, hi, hplace, hne⟩ := hne
    exact ⟨i, hi, by omega⟩
  · exact ⟨countFailures_of_compared h hp hall hsize, fun p' hp' => crosses_iff h hp hall hsize hp'⟩

/-- Two checks that get each other's bytes. -/
def swapped : List Encounter :=
  sending 0 ++ sending 1 ++ (answering 0 1 (payload 1 8) ++ [.check 0 .conclude]) ++
    (answering 1 3 (payload 0 8) ++ [.check 1 .conclude])

theorem crosses_swapped :
    ((unanswered ⟨8, 8, 50, 1⟩ 8 2 false).meeting swapped).AllCompared 2 ∧
      ((unanswered ⟨8, 8, 50, 1⟩ 8 2 false).meeting swapped).Crosses ⟨8, 8, 50, 1⟩
        ((unanswered ⟨8, 8, 50, 1⟩ 8 2 false).history swapped) (1 - ·) := by
  have h := booked ⟨8, 8, 50, 1⟩ 8 2 false swapped
  have hcompared : ((unanswered ⟨8, 8, 50, 1⟩ 8 2 false).meeting swapped).comparedBy? 0 = some 1 ∧
      ((unanswered ⟨8, 8, 50, 1⟩ 8 2 false).meeting swapped).comparedBy? 1 =
        some 3 := by decide +kernel
  have hall : ((unanswered ⟨8, 8, 50, 1⟩ 8 2 false).meeting swapped).AllCompared 2 := by
    intro i hi
    rcases Nat.le_one_iff_eq_zero_or_eq_one.mp (Nat.le_of_lt_succ hi) with rfl | rfl
    · simp [hcompared.1]
    · simp [hcompared.2]
  refine ⟨hall, crosses_of_answered h hall (fun i hi => by omega) fun i id hid => ?_⟩
  rcases Nat.le_one_iff_eq_zero_or_eq_one.mp
    (Nat.le_of_lt_succ (h.lt_of_opened (h.compared hid).1)) with rfl | rfl
  · obtain rfl : id = 1 := Option.some.inj (hid.symm.trans hcompared.1)
    exact ⟨by unfold Carries; decide +kernel, by decide +kernel⟩
  · obtain rfl : id = 3 := Option.some.inj (hid.symm.trans hcompared.2)
    exact ⟨by unfold Carries; decide +kernel, by decide +kernel⟩

/-- Both fail. More than these can be mixed up in this way. -/
theorem crossing_of_swapped :
    ((unanswered ⟨8, 8, 50, 1⟩ 8 2 false).meeting swapped).verdict 2 = .failed 2 2 ∧
      ∃ encounters, ((unanswered .default 8 200 false).meeting encounters).Crosses .default
        ((unanswered .default 8 200 false).history encounters) (199 - ·) := by
  obtain ⟨-, hrelay, -⟩ := crossing ⟨8, 8, 50, 1⟩ 8 2 (by decide)
  obtain ⟨-, -, hexists⟩ := crossing .default 8 200 (by decide)
  obtain ⟨hall, hp⟩ := crosses_swapped
  obtain ⟨-, hfails, hcompared⟩ := hrelay false swapped (1 - ·) hp
  obtain ⟨failures, -, hverdict⟩ := hfails (by decide +kernel) (by decide) ⟨0, by decide⟩
  have htwo : countFailures ((unanswered ⟨8, 8, 50, 1⟩ 8 2 false).meeting swapped) = 2 :=
    (hcompared hall).1.trans (by decide)
  obtain ⟨encounters, hcrosses, -⟩ :=
    hexists (199 - ·) (by decide) (by decide) (by decide) fun i hi => by omega
  refine ⟨?_, encounters, hcrosses⟩
  rw [verdict, htwo] at hverdict ⊢
  rfl

/-- A relay that swaps the first and the last of 129 streams does what one does that echoes them
all, so the load check passes. -/
theorem not_crossing_of_like_payloads :
    payload 0 8 = payload 128 8 ∧ (∀ i < 129, Equiv.swap 0 128 i < 129) ∧
      (∃ i < 129, Equiv.swap 0 128 i ≠ i) ∧
      ∃ encounters,
        let s := (unanswered .default 8 129 false).meeting encounters
        let es := (unanswered .default 8 129 false).history encounters
        s.Crosses .default es (Equiv.swap 0 128) ∧ s.Crosses .default es id ∧ s.AllCompared 129 ∧
          s.verdict 129 = .passed s.link.client.session.stats := by
  have hplaces : ∀ i < 129, Equiv.swap 0 128 i < 129 := by decide
  refine ⟨by decide, hplaces, ⟨0, by decide⟩, ?_⟩
  have hv : Config.default.Valid := by decide
  have hsize : 0 < 8 := by decide
  obtain ⟨encounters, hp, hall⟩ := exists_crosses hv hsize (by decide) (by decide) hplaces
  have h := booked .default 8 129 false encounters
  have hnone : countFailures ((unanswered .default 8 129 false).meeting encounters) = 0 := by
    rw [countFailures_of_compared h hp hall (by decide)]
    decide +kernel
  have hechoes := (crosses_iff h hp hall (by decide) fun i (hi : i < 129) => hi).mpr
    (by decide +kernel)
  exact ⟨encounters, hp, hechoes, hall, by rw [verdict, if_pos hnone]⟩

end System
end StreamMux.Load

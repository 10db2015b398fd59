import Montage.Proofs.Pool.Duels

/-!
Which requests are abandoned although nothing is taken out of the pool.
-/

namespace Montage

namespace Pool

/-- **Requests that wait for slots.** Of requests for an asset each, while nothing else changes what
the slots are bound to:

- a request is abandoned when it is handed a lock after its last pick, whatever is free then;
- a request that is handed a lock before binds a slot, if it was the last in line or another slot is
  free; otherwise it lets go of the lock for the next in line, and has lost a pick;
- nobody is abandoned as long as there is at most one request more than slots, and with one more
  than that somebody may be. -/
theorem abandoned_of_contest (config : PoolConfig) (backend : Backend) :
    let c := Pool.new config backend
    (∀ es t r stage, Contest es → (c.run es).work? t = some (.request r stage) →
      (∀ result, stage ≠ .done result) →
        ((∃ a, ((c.run es).resume t).result? t = some (.error (.abandoned a))) ↔
          ∃ i, stage = .queued i none 0 ∧ (c.run es).holds i t = true)) ∧
    (∀ es t r i k n, Contest es → (c.run es).work? t = some (.request r (.queued i k (n + 1))) →
      (c.run es).holds i t = true →
        (((c.run es).slot i).lock.waiting = [] ∨
            (∃ j, j ≠ i ∧ j < (c.run es).size ∧ (c.run es).isFree j = true) →
          ∃ j, (c.run es).Binds ((c.run es).resume t) t r j) ∧
        ∀ u rest, ((c.run es).slot i).lock.waiting = u :: rest →
          (∀ j, j ≠ i → j < (c.run es).size → (c.run es).isFree j = false) →
            (∃ j, ((c.run es).resume t).work? t = some (.request r (.queued j none n))) ∧
              ((c.run es).resume t).holds i u = true ∧
              ∀ j, (((c.run es).resume t).slot j).binding = ((c.run es).slot j).binding) ∧
    ∀ k, (∀ es, Contest es → (asked es).length ≤ k →
        ∀ t a, (c.run es).result? t ≠ some (.error (.abandoned a))) ↔ k ≤ c.size + 1 := by
  intro c
  refine ⟨fun es t r stage hes hw hs => ?_, fun es t r i k n hes hw holds => ⟨fun hfree => ?_,
    fun u rest hnext hbusy => ?_⟩, fun k => ⟨fun hk => ?_, fun hk es hes hlen => ?_⟩⟩
  · exact (hes.contested config backend).abandoned_iff hw hs
  · exact (hes.contested config backend).binds_of_free hw holds hfree
  · exact (hes.contested config backend).queued_of_busy hw holds hnext hbusy
  · by_contra hmany
    obtain ⟨es, hes, hlen, t, a, ha⟩ := exists_abandoned config backend
    exact hk es hes (hlen.trans_le (Nat.not_le.mp hmany)) t a ha
  · exact (hes.roomy config backend (hlen.trans hk)).kept

/-- Three requests for the slot of a pool that has one. -/
def crowd : List Event :=
  [.request (rival 0), .request (rival 1), .request (rival 2), .resume 1, .resume 2, .resume 3]

lemma plain_crowd : ∀ e ∈ crowd, e.Plain := by
  simp [crowd, Event.Plain, rival]

lemma contest_crowd (es : List Event)
    (h : ∀ e ∈ es, e.asset? = none ∧ e.Plain) : Contest (crowd ++ es) := by
  have hasked : asked es = [] := List.filterMap_eq_nil_iff.mpr fun e he => (h e he).1
  refine ⟨fun e he => ?_, ?_⟩
  · exact (List.mem_append.mp he).elim (plain_crowd e) fun he => (h e he).2
  · rw [asked_append, hasked, List.append_nil]
    exact nodup_rivals 3

/-- The first in line is handed the lock when the load is over, and lets go of it for the second. -/
theorem abandoned_of_contest_crowd :
    let p := (single 20).run (crowd ++ [.schedule { now := 20 }, .resume 1])
    Contest (crowd ++ [.schedule { now := 20 }, .resume 1]) ∧ p.holds 0 2 = true ∧
      (¬∃ a, (p.resume 2).result? 2 = some (.error (.abandoned a))) ∧
      (p.resume 2).holds 0 3 = true ∧
      ∀ es, Contest es → (asked es).length ≤ 2 →
        ∀ t a, ((single 20).run es).result? t ≠ some (.error (.abandoned a)) := by
  obtain ⟨habandoned, hturn, hfew⟩ := abandoned_of_contest { poolSize := 1 } { loadMs := 20 }
  have hcontest : Contest (crowd ++ [.schedule { now := 20 }, .resume 1]) :=
    contest_crowd _ (by simp [Event.asset?, Event.Plain])
  have hholds :
      ((single 20).run (crowd ++ [.schedule { now := 20 }, .resume 1])).holds 0 2 = true := by
    decide +kernel
  have hw : ((single 20).run (crowd ++ [.schedule { now := 20 }, .resume 1])).work? 2 =
      some (.request (rival 1) (.queued 0 none 3)) := by
    with_unfolding_all rfl
  refine ⟨hcontest, hholds, fun h => ?_, ?_, (hfew 2).mpr (by decide)⟩
  · obtain ⟨i, hi, -⟩ := (habandoned _ 2 (rival 1) (.queued 0 none 3) hcontest hw (by simp)).mp h
    cases hi
  · refine ((hturn _ 2 (rival 1) 0 none 2 hcontest hw hholds).2 3 [] (by decide +kernel) ?_).2.1
    intro j hj hlt
    rw [(Ordered.new _ _).size_run] at hlt
    exact absurd (Nat.lt_one_iff.mp hlt) hj

/-- **Two of three requests for one slot are abandoned** after its load is over. The slot is free
then, and nobody else has been given it. -/
theorem contest_abandons :
    let es := crowd ++ [.schedule { now := 20 }, .resume 1, .resume 2, .resume 3, .resume 2,
      .resume 3, .resume 2, .resume 3, .resume 2, .resume 3]
    let p := (single 20).run es
    Contest es ∧ p.result? 1 = some (.ok ⟨(rival 0).asset.id, 0, false⟩) ∧
      p.result? 2 = some (.error (.abandoned (rival 1).asset.id)) ∧
      p.result? 3 = some (.error (.abandoned (rival 2).asset.id)) ∧
      p.isFree 0 = true ∧ (p.slot 0).asset = some (rival 0).asset.id ∧
      (p.slot 0).generation = 1 :=
  ⟨contest_crowd _ (by simp [Event.asset?, Event.Plain]), by decide +kernel, by decide +kernel,
    by decide +kernel, by decide +kernel, by decide +kernel, by decide +kernel⟩

end Pool

end Montage

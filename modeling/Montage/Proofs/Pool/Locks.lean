import Mathlib.Data.List.Nodup
import Montage.Proofs.Pool.Moves

/-!
Who holds the locks of the slots, and who waits for them.

A lock is fair: whoever waits is served in the order of asking. The stakes of the tasks tell the
same as the locks do, and a change of either goes with a change of the other.
-/

namespace Montage

/-- Whoever holds a lock or waits for it has a stake in its slot, and the other way round. -/
structure Account.Fair (c : Account) : Prop where
  idle : ∀ {i}, (c.pool.slot i).lock.holder = none → (c.pool.slot i).lock.waiting = []
  mem : ∀ {t i}, t ∈ (c.pool.slot i).lock.tasks ↔ (c.stake t).lock? = some i
  nodup : ∀ i, (c.pool.slot i).lock.tasks.Nodup
  held : ∀ {t i}, (c.stake t).held? = some i → (c.pool.slot i).lock.holder = some t

namespace Account.Fair

variable {c : Account} {q : Pool} {t : TaskId} {s : Stake} {i : Nat}

lemma congr (h : c.Fair) (hq : ∀ j, (q.slot j).lock = (c.pool.slot j).lock) :
    Fair ⟨q, c.stake⟩ := by
  refine ⟨fun {j} hj => ?_, fun {u j} => ?_, fun j => ?_, fun {u j} hj => ?_⟩ <;>
    simp only [hq] at *
  · exact h.idle hj
  · exact h.mem
  · exact h.nodup j
  · exact h.held hj

lemma put (h : c.Fair) (hq : ∀ j, (q.slot j).lock = (c.pool.slot j).lock)
    (hs : s.lock? = (c.stake t).lock?)
    (hh : ∀ j, s.held? = some j → (c.pool.slot j).lock.holder = some t) : (c.put q t s).Fair := by
  refine ⟨fun {j} hj => ?_, fun {u j} => ?_, fun j => ?_, fun {u j} hj => ?_⟩
  · simp only [Account.put, hq] at hj ⊢
    exact h.idle hj
  · simp only [Account.put, hq, Function.update_apply]
    split
    · next hu => rw [hs, ← hu, h.mem]
    · exact h.mem
  · simp only [Account.put, hq]
    exact h.nodup j
  · simp only [Account.put, hq, Function.update_apply] at hj ⊢
    split at hj
    · next hu => rw [hu, hh j hj]
    · exact h.held hj

/-- A free lock is taken. -/
lemma take (h : c.Fair) (hfree : (c.pool.slot i).lock.holder = none) (hlt : i < c.pool.size)
    (hq : ∀ j, (q.slot j).lock =
      if i = j ∧ i < c.pool.size then (c.pool.slot j).lock.take t else (c.pool.slot j).lock)
    (hold : (c.stake t).lock? = none) (hs : s.lock? = some i)
    (hh : ∀ j, s.held? = some j → j = i) : (c.put q t s).Fair := by
  have hat : ∀ j, (q.slot j).lock = if i = j then ⟨some t, []⟩ else (c.pool.slot j).lock := by
    intro j
    rw [hq]
    by_cases hij : i = j
    · subst hij
      simp [hlt, Lock.take, h.idle hfree]
    · simp [hij]
  have hnone : ∀ u, (c.stake u).lock? ≠ some i := by
    intro u hu
    have hm := h.mem.mpr hu
    simp [Lock.tasks, hfree, h.idle hfree] at hm
  refine ⟨fun {j} hj => ?_, fun {u j} => ?_, fun j => ?_, fun {u j} hj => ?_⟩
  · simp only [Account.put, hat] at hj ⊢
    split at hj
    · simp at hj
    · next hij => simpa [hij] using h.idle hj
  · simp only [Account.put, hat, Function.update_apply]
    by_cases hij : i = j
    · subst hij
      by_cases hu : u = t
      · simp [hu, hs, Lock.tasks]
      · simp [hu, hnone u, Lock.tasks]
    · rw [if_neg hij, h.mem]
      by_cases hu : u = t
      · simp [hu, hold, hs, hij]
      · simp [hu]
  · simp only [Account.put, hat]
    split
    · simp [Lock.tasks]
    · exact h.nodup j
  · simp only [Account.put, hat, Function.update_apply] at hj ⊢
    split at hj
    · next hu => simp [hh j hj, hu]
    · have hij : i ≠ j := by
        rintro rfl
        have hm := h.held hj
        simp [hfree] at hm
      rw [if_neg hij]
      exact h.held hj

/-- A task queues up for a lock that somebody holds. -/
lemma enqueue (h : c.Fair) (hbusy : (c.pool.slot i).lock.holder ≠ none)
    (hq : ∀ j, (q.slot j).lock =
      if i = j then (c.pool.slot j).lock.enqueue t else (c.pool.slot j).lock)
    (hold : (c.stake t).lock? = none) (hs : s.lock? = some i) (hh : s.held? = none) :
    (c.put q t s).Fair := by
  have htasks : ∀ j, (q.slot j).lock.tasks =
      if i = j then (c.pool.slot j).lock.tasks ++ [t] else (c.pool.slot j).lock.tasks := by
    intro j
    rw [hq]
    split <;> simp [Lock.tasks, Lock.enqueue]
  have hholder : ∀ j, (q.slot j).lock.holder = (c.pool.slot j).lock.holder := by
    intro j
    rw [hq]
    split <;> rfl
  refine ⟨fun {j} hj => ?_, fun {u j} => ?_, fun j => ?_, fun {u j} hj => ?_⟩
  · simp only [Account.put, hholder] at hj ⊢
    have hij : i ≠ j := fun e => hbusy (e ▸ hj)
    rw [hq, if_neg hij]
    exact h.idle hj
  · simp only [Account.put, htasks, Function.update_apply]
    by_cases hu : u = t
    · by_cases hij : i = j
      · simp [hu, hij, hs]
      · simp [hu, hij, hs, h.mem, hold]
    · by_cases hij : i = j
      · simp [hu, hij, h.mem]
      · simp [hu, hij, h.mem]
  · simp only [Account.put, htasks]
    split
    · refine List.nodup_append.mpr ⟨h.nodup j, by simp, fun u hu v hv huv => ?_⟩
      rw [huv, List.mem_singleton.mp hv, h.mem, hold] at hu
      simp at hu
    · exact h.nodup j
  · simp only [Account.put, hholder, Function.update_apply] at hj ⊢
    split at hj
    · simp [hh] at hj
    · exact h.held hj

/-- The holder lets go, and the one who has waited longest holds the lock. -/
lemma release (h : c.Fair) (hhold : (c.pool.slot i).lock.holder = some t)
    (hq : ∀ j, (q.slot j).lock =
      if i = j then (c.pool.slot j).lock.release else (c.pool.slot j).lock) :
    (c.put q t .none).Fair := by
  have hi : (c.pool.slot i).lock.tasks = t :: (c.pool.slot i).lock.waiting := by
    simp [Lock.tasks, hhold]
  have hrel : (c.pool.slot i).lock.release.tasks = (c.pool.slot i).lock.waiting :=
    Lock.tasks_release _ (by simp [hhold])
  have hnot : t ∉ (c.pool.slot i).lock.waiting := by
    have hn := h.nodup i
    rw [hi] at hn
    exact (List.nodup_cons.mp hn).1
  have hstake : (c.stake t).lock? = some i := h.mem.mp (by simp [hi])
  refine ⟨fun {j} hj => ?_, fun {u j} => ?_, fun j => ?_, fun {u j} hj => ?_⟩
  · simp only [Account.put, hq] at hj ⊢
    split at hj
    · next hij =>
      rw [if_pos hij]
      revert hj
      unfold Lock.release
      split <;> simp
    · next hij =>
      rw [if_neg hij]
      exact h.idle hj
  · simp only [Account.put, hq, Function.update_apply]
    by_cases hij : i = j
    · subst hij
      rw [if_pos rfl, hrel]
      by_cases hu : u = t
      · simp [hu, hnot]
      · rw [if_neg hu, ← h.mem, hi]
        simp [hu]
    · rw [if_neg hij, h.mem]
      by_cases hu : u = t
      · simp [hu, hstake, hij]
      · simp [hu]
  · simp only [Account.put, hq]
    split
    · next hij =>
      subst hij
      rw [hrel]
      have hn := h.nodup i
      rw [hi] at hn
      exact (List.nodup_cons.mp hn).2
    · exact h.nodup j
  · simp only [Account.put, hq, Function.update_apply] at hj ⊢
    split at hj
    · simp at hj
    · next hu =>
      have hij : i ≠ j := by
        rintro rfl
        have hholder := h.held hj
        rw [hhold] at hholder
        exact hu (Option.some.inj hholder).symm
      rw [if_neg hij]
      exact h.held hj

end Account.Fair

end Montage

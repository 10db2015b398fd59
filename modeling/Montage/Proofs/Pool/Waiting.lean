import Montage.Proofs.Pool.Turns

/-!
Nobody waits for a lock with another one in hand.

Whoever waits for the lock of a slot has a stake in that slot and in no other. So the holder of a
lock that somebody waits for does not wait for a lock itself: it has a turn to take, or it waits for
its element, and no longer than for the load, the seek or the time given to the seek.
-/

namespace Montage

namespace Wait

/-- The work waits for its element, and for nothing that other work may keep from it. -/
def forElement : Wait → Bool
  | turn | lock _ => false
  | load _ | seek .. => true

/-- What work waits for its element for has come: the load is over, or the seek, or the time given
to the seek. -/
def Ends (now : Nat) : Wait → Prop
  | turn | lock _ => False
  | load due => due ≤ now
  | seek due deadline => (∃ d, due = some d ∧ d ≤ now) ∨ deadline ≤ now

end Wait

namespace Pool

variable {p q : Pool} {t u : TaskId} {w : Work} {a : Wait} {i : Nat}

lemma wait?_of_work? (hw : p.work? t = some w) : p.wait? t = w.wait? p t := by
  rw [wait?, hw, Option.bind_some]

lemma wait?_eq_some : p.wait? t = some a ↔ ∃ w, p.work? t = some w ∧ w.wait? p t = some a :=
  Option.bind_eq_some_iff

lemma toGoOf_of_work? (hw : p.work? t = some w) : p.toGoOf t = w.toGo := by
  rw [toGoOf, hw, Option.elim_some]

lemma toGoOf_congr (h : q.work? u = p.work? t) : q.toGoOf u = p.toGoOf t := by
  rw [toGoOf, toGoOf, h]

namespace Ordered

lemma holds_of_waiting (hp : p.Ordered) (hi : t ∈ (p.slot i).lock.waiting) (j : Nat) :
    p.holds j t = false := by
  rw [← Bool.not_eq_true, holds_iff]
  intro hj
  have hfair := hp.good.fair
  have hlock : (p.account.stake t).lock? = some i := hfair.mem.mp (List.mem_append_right _ hi)
  have hother : (p.account.stake t).lock? = some j := hfair.mem.mp (by
    show t ∈ (p.slot j).lock.tasks
    simp [Lock.tasks, hj])
  obtain rfl : i = j := Option.some.inj (hlock.symm.trans hother)
  have hnodup : (p.slot i).lock.tasks.Nodup := hfair.nodup i
  rw [Lock.tasks, hj] at hnodup
  exact (List.nodup_cons.mp hnodup).1 hi

lemma goesOn (hp : p.Ordered) (h : p.wait? t = some .turn) : p.GoesOn t := by
  obtain ⟨w, hw, hturn⟩ := wait?_eq_some.mp h
  obtain ⟨n, hn, hturns⟩ := Work.turns_poll (d := False) hp hw hturn False.elim
  obtain ⟨k, -, hk⟩ := hturns.spends
  rw [GoesOn, toGoOf_of_work? (hp.work?_resume_self hw), toGoOf_of_work? hw]
  omega

/-- Work that waits for a lock is queued up for it behind somebody else. -/
lemma exists_holder (hp : p.Ordered) (h : p.wait? t = some (.lock i)) :
    t ∈ (p.slot i).lock.waiting ∧ ∃ u ≠ t, (p.slot i).lock.holder = some u := by
  obtain ⟨w, hw, hlock⟩ := wait?_eq_some.mp h
  have hstake : (p.account.stake t).lock? = some i ∧ p.holds i t = false := by
    rw [show p.account.stake t = w.stake from stake_of_work? hw]
    rcases w with ⟨r, _ | ⟨j, k, n⟩ | ⟨j, g, due⟩ | ⟨j, g, due, deadline⟩ | result⟩ |
      ⟨w, _ | due | _⟩
    all_goals simp only [Work.wait?, Option.some.injEq, reduceCtorEq] at hlock
    · split at hlock
      · cases hlock
      · next hn =>
        cases hlock
        exact ⟨rfl, by simpa using hn⟩
    all_goals split at hlock <;> cases hlock
  have hmem : t ∈ (p.slot i).lock.tasks := hp.good.fair.mem.mpr hstake.1
  have hne : (p.slot i).lock.holder ≠ some t := by
    rw [← Bool.not_eq_true, holds_iff] at hstake
    exact hstake.2
  have hwaiting : t ∈ (p.slot i).lock.waiting := by
    rcases List.mem_append.mp hmem with hholder | hwaiting
    · exact absurd (Option.mem_toList.mp hholder) hne
    · exact hwaiting
  refine ⟨hwaiting, ?_⟩
  rcases hholder : (p.slot i).lock.holder with _ | u
  · have hnone : (p.slot i).lock.waiting = [] := hp.good.fair.idle hholder
    simp [hnone] at hwaiting
  · exact ⟨u, fun hu => hne (hu ▸ hholder), rfl⟩

/-- Whoever holds a lock has a turn to take, or waits for an element. -/
lemma wait?_of_holder (hp : p.Ordered) (h : (p.slot i).lock.holder = some u) :
    ∃ a, p.wait? u = some a ∧ (a = .turn ∨ a.forElement = true) := by
  have hlock : (p.account.stake u).lock? = some i := hp.good.fair.mem.mp (by
    show u ∈ (p.slot i).lock.tasks
    simp [Lock.tasks, h])
  rcases hw : p.work? u with _ | w
  · rw [show p.account.stake u = .none from stake_of_none hw] at hlock
    cases hlock
  rw [show p.account.stake u = w.stake from stake_of_work? hw] at hlock
  rw [wait?_of_work? hw]
  have hholds : p.holds i u = true := holds_iff.mpr h
  rcases w with ⟨r, _ | ⟨j, k, n⟩ | ⟨j, g, due⟩ | ⟨j, g, due, deadline⟩ | result⟩ |
    ⟨w, _ | due | _⟩
  · cases hlock
  · cases hlock
    exact ⟨.turn, by simp [Work.wait?, hholds], .inl rfl⟩
  · exact ⟨_, rfl, by split <;> simp [Wait.forElement]⟩
  · exact ⟨_, rfl, by split <;> simp [Wait.forElement]⟩
  · cases hlock
  · exact ⟨_, rfl, .inl rfl⟩
  · exact ⟨_, rfl, by split <;> simp [Wait.forElement]⟩
  · cases hlock

/-- **No two wait for each other.** Whoever is in the way of work that is not over has a turn to
take, or waits for an element. -/
theorem exists_unblocked (hp : p.Ordered) (h : p.wait? t = some a) :
    ∃ u b, (u = t ∨ ∃ i, a = .lock i ∧ (p.slot i).lock.holder = some u) ∧ p.wait? u = some b ∧
      (b = .turn ∨ b.forElement = true) := by
  rcases a with _ | i | due | ⟨due, deadline⟩
  · exact ⟨t, _, .inl rfl, h, .inl rfl⟩
  · obtain ⟨-, u, -, hu⟩ := hp.exists_holder h
    obtain ⟨b, hb, hcases⟩ := hp.wait?_of_holder hu
    exact ⟨u, b, .inr ⟨i, rfl, hu⟩, hb, hcases⟩
  · exact ⟨t, _, .inl rfl, h, .inr rfl⟩
  · exact ⟨t, _, .inl rfl, h, .inr rfl⟩

/-- Work that waits for its element goes on when that has come, whatever has become of the pool. -/
lemma goesOn_of_ends (hq : q.Ordered) (h : p.wait? t = some a) (same : q.work? t = p.work? t)
    (ends : a.Ends q.now) : q.GoesOn t := by
  obtain ⟨w, hw, ha⟩ := wait?_eq_some.mp h
  refine hq.goesOn ?_
  rw [wait?_of_work? (same.trans hw)]
  have hload : ∀ {due}, (if due ≤ p.now then Wait.turn else .load due) = a → due ≤ q.now := by
    intro due hdue
    split at hdue <;> subst hdue
    · exact ends.elim
    · exact ends
  rcases w with ⟨r, _ | ⟨j, k, n⟩ | ⟨j, g, due⟩ | ⟨j, g, due, deadline⟩ | result⟩ |
    ⟨w, _ | due | _⟩
  · rfl
  · obtain rfl := Option.some.inj ha
    split at ends <;> exact ends.elim
  · simp [Work.wait?, hload (Option.some.inj ha)]
  · have hseek := Option.some.inj ha
    split at hseek <;> subst hseek
    · exact ends.elim
    · rcases ends with ⟨d, rfl, hd⟩ | hd <;> simp [Work.wait?, hd]
  · cases ha
  · rfl
  · simp [Work.wait?, hload (Option.some.inj ha)]
  · cases ha

end Ordered

end Pool

end Montage

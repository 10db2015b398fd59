import Montage.Proofs.Pool.Owners

/-!
A pool in order: its table is tidy, its locks are with those who have a stake in the slot, and a
stake means what it says. Every move keeps a pool in order.
-/

namespace Montage

/-- Pool and stakes are in order. -/
structure Account.Good (c : Account) : Prop where
  tidy : c.pool.Tidy
  fair : c.Fair
  owned : c.Owned

namespace Account.Good

variable {c d : Account} {q : Pool} {ns : List Note}

lemma agrees (h : c.Good) (hq : c.pool.Agrees q) : Good ⟨q, c.stake⟩ where
  tidy := h.tidy.congr hq.clock hq.disposed hq.record
  fair := h.fair.congr hq.lock
  owned := h.owned.unbindSome fun j => .inr (hq.binding j)

lemma unbind (h : c.Good) (i : Nat) : Good ⟨c.pool.unbind i, c.stake⟩ where
  tidy := h.tidy.unbind i
  fair := h.fair.congr fun j => by
    rw [Pool.slot_unbind]
    split <;> rfl
  owned := h.owned.unbindSome fun j => by
    rw [Pool.slot_unbind]
    split
    · exact .inl ⟨rfl, rfl⟩
    · exact .inr rfl

lemma reset (h : c.Good) : Good ⟨c.pool.reset, c.stake⟩ where
  tidy := h.tidy.reset
  fair := h.fair.congr fun j => by
    rw [Pool.slot_reset]
    split <;> rfl
  owned := h.owned.unbindSome fun j => by
    rw [Pool.slot_reset]
    split
    · exact .inl ⟨rfl, rfl⟩
    · exact .inr rfl

lemma ne_of_isFree (h : c.Good) {t : TaskId} {i j : Nat} (hj : (c.stake t).held? = some j)
    (free : c.pool.isFree i = true) : i ≠ j := by
  rintro rfl
  have hheld := h.fair.held hj
  rw [Pool.isFree_iff.mp free] at hheld
  cases hheld

lemma ne_of_holds (h : c.Good) {t u : TaskId} {i j : Nat} (hj : (c.stake u).held? = some j)
    (hne : u ≠ t) (holds : c.pool.holds i t = true) : i ≠ j := by
  rintro rfl
  have hheld := h.fair.held hj
  rw [Pool.holds_iff.mp holds] at hheld
  exact hne (Option.some.inj hheld).symm

lemma giveUp {t : TaskId} {i g : Nat} {a : AssetId} (h : c.Good)
    (was : c.stake t = .loading i g a)
    (lost : (c.pool.slot i).loading = true → (c.pool.slot i).generation ≠ g) :
    (c.put c.pool t (.queued i none)).Good where
  tidy := h.tidy
  fair := h.fair.put (fun _ => rfl) (by rw [was]; rfl) fun j hj => by simp [Stake.held?] at hj
  owned := h.owned.put (fun _ => rfl)
    (fun j b hj hb => by
      rw [was] at hb
      cases hb
      exact lost hj rfl)
    (by simp) (by simp)

section

variable {t : TaskId} {i : Nat} {a : AssetId}

lemma keep (h : c.Good) (idle : c.stake t = .none) (bound : c.pool.slotOf? a = some i) :
    (c.put (c.pool.touch i) t (.found i (c.pool.slot i).generation)).Good where
  tidy := h.tidy.touch (Pool.slotOf?_eq_some bound)
  fair := by
    refine h.fair.put (fun j => ?_) (by simp [idle, Stake.lock?]) (by simp [Stake.held?])
    rw [Pool.slot_touch]
    split <;> rfl
  owned := by
    refine h.owned.put (fun j => ?_) (by simp [idle]) (by simp) (by simp)
    rw [Pool.slot_touch]
    split <;> rfl

lemma take (h : c.Good) (idle : c.stake t = .none) (alive : c.pool.disposed = false)
    (unbound : c.pool.slotOf? a = none) (free : c.pool.isFree i = true) (lt : i < c.pool.size) :
    (c.put (c.pool.rebind t i a) t (.loading i ((c.pool.slot i).generation + 1) a)).Good where
  tidy := h.tidy.rebind alive unbound lt
  fair := by
    refine h.fair.take (Pool.isFree_iff.mp free) lt (fun j => ?_) (by simp [idle]) rfl
      fun j hj => by simpa [Stake.held?] using hj.symm
    rw [Pool.slot_rebind]
    split <;> rfl
  owned := h.owned.rebind lt (by simp [idle])

lemma wait {g : Option Nat} (h : c.Good) (busy : c.pool.isFree i = false)
    (away : (c.stake t).lock? = none) (idle : ∀ j n b, c.stake t ≠ .loading j n b) :
    (c.put (c.pool.enqueue i t) t (.queued i g)).Good where
  tidy := h.tidy.congr rfl rfl fun j => by
    show ((c.pool.enqueue i t).slot j).record = _
    rw [Pool.slot_enqueue]
    split <;> rfl
  fair := by
    have held : (c.pool.slot i).lock.holder ≠ none := by
      rw [ne_eq, ← Pool.isFree_iff]
      simp [busy]
    have hlt : i < c.pool.size := c.pool.lt_size_of_slot fun e => held (by simp [e])
    refine h.fair.enqueue held (fun j => ?_) away rfl rfl
    simp only [Pool.slot_enqueue, hlt, and_true]
    split <;> rfl
  owned := by
    refine h.owned.put (fun j => ?_) (fun j b _ => idle j _ b) (by simp) (by simp)
    rw [Pool.slot_enqueue]
    split <;> rfl

lemma enter {g : Nat} (h : c.Good) (found : c.stake t = .found i g)
    (free : c.pool.isFree i = true) (lt : i < c.pool.size) :
    (c.put (c.pool.lock i t) t (.queued i (some g))).Good where
  tidy := h.tidy.congr rfl rfl fun j => by
    show ((c.pool.lock i t).slot j).record = _
    rw [Pool.slot_lock]
    split <;> rfl
  fair := by
    refine h.fair.take (Pool.isFree_iff.mp free) lt (fun j => ?_) (by simp [found, Stake.lock?])
      rfl (by simp [Stake.held?])
    rw [Pool.slot_lock]
    split <;> rfl
  owned := by
    refine h.owned.put (fun j => ?_) (by simp [found]) (by simp) (by simp)
    rw [Pool.slot_lock]
    split <;> rfl

lemma serve {g : Nat} (h : c.Good) (was : c.stake t = .queued i (some g))
    (holds : c.pool.holds i t = true) (serves : (c.pool.slot i).serves a g = true) :
    (c.put c.pool t (.serving i g a)).Good where
  tidy := h.tidy
  fair := h.fair.put (fun _ => rfl) (by rw [was]; rfl) fun j hj => by
    cases hj
    exact Pool.holds_iff.mp holds
  owned := h.owned.put (fun _ => rfl) (by simp [was]) (by simp) fun j n b e => by
    cases e
    exact serves

lemma load {g : Nat} (h : c.Good) (was : c.stake t = .loading i g a)
    (same : (c.pool.slot i).generation = g) :
    (c.put (c.pool.modifySlot i Slot.finishLoad) t (.serving i g a)).Good where
  tidy := h.tidy.finishLoad ((h.owned.loading was).2 same).1
  fair := by
    refine h.fair.put (fun j => ?_) (by rw [was]; rfl) fun j hj => ?_
    · rw [Pool.slot_modifySlot]
      split <;> rfl
    · cases hj
      exact h.fair.held (by simp [was, Stake.held?])
  owned := h.owned.finishLoad h.fair was same

lemma lose {g : Nat} (h : c.Good) (was : c.stake t = .loading i g a)
    (lost : c.pool.isLost i g = true) : (c.put c.pool t (.queued i none)).Good := by
  refine h.giveUp was fun hl hg => ?_
  have hasset := ((h.owned.loading was).2 hg).2
  simp only [Pool.isLost, Bool.or_eq_true, bne_iff_ne, ne_eq] at lost
  rcases lost with hd | hne
  · simp [h.tidy.closed hd i] at hasset
  · exact hne hg

lemma leave (h : c.Good) (was : (c.stake t).leaves i) (holds : c.pool.holds i t = true) :
    (c.put (c.pool.unlock i) t .none).Good where
  tidy := h.tidy.congr (by simp [Account.put]) (by simp [Account.put]) fun j => by
    simp only [Account.put, Pool.slot_unlock]
    split <;> rfl
  fair := by
    have hlt := c.pool.lt_size_of_holds holds
    refine h.fair.release (Pool.holds_iff.mp holds) fun j => ?_
    simp only [Pool.slot_unlock, hlt, and_true]
    split <;> rfl
  owned := by
    refine h.owned.put (fun j => ?_) (fun j b _ e => by simp [e, Stake.leaves] at was) (by simp)
      (by simp)
    rw [Pool.slot_unlock]
    split <;> rfl

end

/-- **Every move keeps the account in order.** -/
lemma move (h : c.Good) (m : Move c ns d) : d.Good := by
  cases m with
  | still hq => exact h.agrees hq.toAgrees
  | count =>
    exact ⟨h.tidy.countUse, h.fair.congr fun _ => rfl, h.owned.unbindSome fun _ => .inr rfl⟩
  | keep idle bound => exact h.keep idle bound
  | take idle alive unbound free lt => exact h.take idle alive unbound free lt
  | @wait t i g busy was =>
    refine h.wait busy ?_ fun j n b => ?_
    all_goals
      rw [was]
      cases g <;> simp [Stake.lock?]
  | enter found free lt => exact h.enter found free lt
  | serve was holds serves => exact h.serve was holds serves
  | load was same => exact h.load was same
  | @fail t i g a was same holds =>
    have hlt := c.pool.lt_size_of_holds holds
    exact (h.unbind i).giveUp was fun hl => by simp [hlt, Slot.unbind] at hl
  | lose was lost => exact h.lose was lost
  | leave was holds => exact h.leave was holds
  | unbind lt => exact h.unbind _
  | reset => exact h.reset
  | close empty =>
    exact ⟨⟨h.tidy.sound, h.tidy.distinct, h.tidy.ages, fun _ => empty⟩,
      h.fair.congr fun _ => rfl, h.owned.unbindSome fun _ => .inr rfl⟩

lemma moves (h : c.Good) (m : Moves c ns d) : d.Good := by
  induction m with
  | refl => exact h
  | step _ m ih => exact ih.move m

end Account.Good

end Montage

import Montage.Proofs.Pool.Moves

/-!
The table of slots is tidy: bindings, flags and counts of use fit together, whatever moves are
made.
-/

namespace Montage

/-- All of a slot but its element and its lock. -/
def Slot.record (s : Slot) : Slot := { s with element := {}, lock := {} }

lemma Slot.record_eq_iff {r s : Slot} : r.record = s.record ↔ r.asset = s.asset ∧
    r.loading = s.loading ∧ r.prepared = s.prepared ∧ r.lastUsed = s.lastUsed ∧
      r.generation = s.generation := by
  simp [record]

/-- Either nothing is bound and nothing known, or an asset is bound and loading or prepared. -/
inductive Slot.Sound (clock : Nat) (s : Slot) : Prop
  | unbound (asset : s.asset = none) (lastUsed : s.lastUsed = 0) (loading : s.loading = false)
      (prepared : s.prepared = false)
  | bound {a : AssetId} (asset : s.asset = some a) (pos : 0 < s.lastUsed)
      (le : s.lastUsed ≤ clock) (flags : s.loading = !s.prepared)

namespace Slot.Sound

variable {clock : Nat} {s : Slot}

lemma lastUsed_le (h : s.Sound clock) : s.lastUsed ≤ clock := by
  cases h with
  | unbound _ h => omega
  | bound _ _ h => exact h

lemma asset_eq_none_iff (h : s.Sound clock) : s.asset = none ↔ s.lastUsed = 0 := by
  cases h with
  | unbound ha hu => simp [ha, hu]
  | bound ha hp =>
    simp only [ha, reduceCtorEq, false_iff]
    omega

lemma flags_of_unbound (h : s.Sound clock) (ha : s.asset = none) :
    s.loading = false ∧ s.prepared = false := by
  cases h with
  | unbound _ _ hl hp => exact ⟨hl, hp⟩
  | bound hb => simp [ha] at hb

lemma flags_of_bound (h : s.Sound clock) (ha : s.asset ≠ none) : s.loading = !s.prepared := by
  cases h with
  | unbound hu => exact absurd hu ha
  | bound _ _ _ hf => exact hf

lemma mono {later : Nat} (h : s.Sound clock) (hle : clock ≤ later) : s.Sound later := by
  cases h with
  | unbound ha hu hl hp => exact .unbound ha hu hl hp
  | bound ha hp hu hf => exact .bound ha hp (Nat.le_trans hu hle) hf

lemma congr {r : Slot} (h : s.Sound clock) (hr : r.record = s.record) : r.Sound clock := by
  obtain ⟨ha, hl, hp, hu, -⟩ := Slot.record_eq_iff.mp hr
  cases h with
  | unbound h1 h2 h3 h4 => exact .unbound (ha.trans h1) (hu.trans h2) (hl.trans h3) (hp.trans h4)
  | bound h1 h2 h3 h4 => exact .bound (ha.trans h1) (hu ▸ h2) (hu ▸ h3) (by rw [hl, hp, h4])

lemma not_prepared (h : s.Sound clock) (hl : s.loading = true) : s.prepared = false := by
  cases h with
  | unbound _ _ _ hp => exact hp
  | bound _ _ _ hf => simpa [hl] using hf.symm

end Slot.Sound

/-- No asset has two slots, no two bound slots were used last at one time, and a pool that was
disposed of is empty. -/
structure Pool.Tidy (p : Pool) : Prop where
  sound : ∀ i, (p.slot i).Sound p.clock
  distinct : ∀ {i j a}, (p.slot i).asset = some a → (p.slot j).asset = some a → i = j
  ages : ∀ {i j}, (p.slot i).lastUsed ≠ 0 → (p.slot i).lastUsed = (p.slot j).lastUsed → i = j
  closed : p.disposed = true → ∀ i, (p.slot i).asset = none

namespace Pool.Tidy

variable {p q : Pool}

lemma new (config : PoolConfig) (backend : Backend) : (Pool.new config backend).Tidy := by
  refine ⟨fun i => ?_, fun h => ?_, fun h => ?_, fun h => ?_⟩
  · rw [slot_new]
    exact .unbound rfl rfl rfl rfl
  · simp at h
  · simp at h
  · simp [Pool.new] at h

lemma congr (h : p.Tidy) (hc : q.clock = p.clock) (hd : q.disposed = p.disposed)
    (hs : ∀ i, (q.slot i).record = (p.slot i).record) : q.Tidy := by
  have ha : ∀ i, (q.slot i).asset = (p.slot i).asset := fun i => (Slot.record_eq_iff.mp (hs i)).1
  have hu : ∀ i, (q.slot i).lastUsed = (p.slot i).lastUsed := fun i =>
    (Slot.record_eq_iff.mp (hs i)).2.2.2.1
  refine ⟨fun i => ?_, fun h1 h2 => ?_, fun h1 h2 => ?_, fun h1 i => ?_⟩
  · rw [hc]
    exact (h.sound i).congr (hs i)
  · rw [ha] at h1 h2
    exact h.distinct h1 h2
  · rw [hu] at h1 h2
    rw [hu] at h2
    exact h.ages h1 h2
  · rw [ha]
    exact h.closed (hd ▸ h1) i

lemma countUse (h : p.Tidy) : p.countUse.Tidy :=
  ⟨fun i => (h.sound i).mono (Nat.le_succ _), h.distinct, h.ages, h.closed⟩

/-- Uses a bound slot, or binds one that nothing else is bound to; either way it is the one used
last. -/
lemma use {i : Nat} {a : AssetId} {f : Slot → Slot} (h : p.Tidy) (hd : p.disposed = false)
    (hlt : i < p.size) (hfresh : ∀ j, (p.slot j).asset = some a → j = i)
    (ha : (f (p.slot i)).asset = some a) (hu : (f (p.slot i)).lastUsed = p.clock + 1)
    (hf : (f (p.slot i)).loading = !(f (p.slot i)).prepared) :
    (p.countUse.modifySlot i f).Tidy := by
  have hs : ∀ j, (p.countUse.modifySlot i f).slot j = if i = j then f (p.slot j) else p.slot j := by
    intro j
    simp [hlt]
  have hold : ∀ j, (p.slot j).lastUsed ≤ p.clock := fun j => (h.sound j).lastUsed_le
  refine ⟨fun j => ?_, fun {j k b} h1 h2 => ?_, fun {j k} h1 h2 => ?_, fun h1 => ?_⟩
  · rw [hs]
    split
    · next hij =>
      subst hij
      exact .bound ha (by omega) (by rw [hu]; exact Nat.le_refl _) hf
    · exact (h.sound j).mono (Nat.le_succ _)
  · rw [hs] at h1 h2
    split at h1 <;> split at h2
    · next hj hk => exact hj.symm.trans hk
    · next hj _ =>
      subst hj
      rw [ha] at h1
      cases h1
      exact (hfresh _ h2).symm
    · next _ hk =>
      subst hk
      rw [ha] at h2
      cases h2
      exact hfresh _ h1
    · exact h.distinct h1 h2
  · rw [hs] at h1 h2
    rw [hs] at h2
    have hj := hold j
    have hk := hold k
    split at h2 <;> split at h2
    · next hj hk => exact hj.symm.trans hk
    · next hj _ =>
      subst hj
      omega
    · next _ hk =>
      subst hk
      omega
    · next hj _ =>
      rw [if_neg hj] at h1
      exact h.ages h1 h2
  · rw [disposed_modifySlot] at h1
    exact absurd h1 (by simp [Pool.countUse, hd])

lemma touch {i : Nat} {a : AssetId} (h : p.Tidy) (ha : (p.slot i).asset = some a) :
    (p.touch i).Tidy := by
  have hd : p.disposed = false := by
    by_contra hc
    simp [h.closed (by simpa using hc) i] at ha
  refine h.use hd (p.lt_size_of_asset ha) (fun j hj => h.distinct hj ha) ha rfl ?_
  cases h.sound i with
  | unbound hn => simp [hn] at ha
  | bound _ _ _ hf => exact hf

lemma rebind {t : TaskId} {i : Nat} {a : AssetId} (h : p.Tidy) (hd : p.disposed = false)
    (ha : p.slotOf? a = none) (hlt : i < p.size) : (p.rebind t i a).Tidy := by
  refine (h.use (f := fun s => s.bind p.now a (p.clock + 1)) hd hlt
    (fun j hj => absurd hj (slotOf?_eq_none ha j)) rfl rfl rfl).congr ?_ ?_ fun j => ?_
  · rfl
  · rfl
  · rw [slot_rebind, slot_modifySlot, size_countUse]
    split <;> rfl

lemma unbindSome {f : Slot → Slot} (h : p.Tidy) (hd : q.disposed = p.disposed)
    (hf : ∀ s, (f s).asset = none ∧ (f s).lastUsed = 0 ∧ (f s).loading = false ∧
      (f s).prepared = false)
    (hs : ∀ i, q.slot i = f (p.slot i) ∨ q.slot i = p.slot i ∧ (p.slot i).Sound q.clock) :
    q.Tidy := by
  refine ⟨fun i => ?_, fun {i j a} h1 h2 => ?_, fun {i j} h1 h2 => ?_, fun h1 i => ?_⟩
  · rcases hs i with hi | ⟨hi, hsound⟩ <;> rw [hi]
    · obtain ⟨ha, hu, hl, hp⟩ := hf (p.slot i)
      exact .unbound ha hu hl hp
    · exact hsound
  · rcases hs i with hi | ⟨hi, -⟩ <;> rw [hi] at h1
    · simp [(hf _).1] at h1
    rcases hs j with hj | ⟨hj, -⟩ <;> rw [hj] at h2
    · simp [(hf _).1] at h2
    exact h.distinct h1 h2
  · rcases hs i with hi | ⟨hi, -⟩ <;> rw [hi] at h1 h2
    · simp [(hf _).2.1] at h1
    rcases hs j with hj | ⟨hj, -⟩ <;> rw [hj] at h2
    · simp [(hf _).2.1] at h2
      exact absurd h2 h1
    exact h.ages h1 h2
  · rcases hs i with hi | ⟨hi, -⟩ <;> rw [hi]
    · exact (hf _).1
    · exact h.closed (hd ▸ h1) i

lemma unbind (h : p.Tidy) (i : Nat) : (p.unbind i).Tidy := by
  refine h.unbindSome (f := fun s => s.unbind p.now) rfl (fun s => ⟨rfl, rfl, rfl, rfl⟩) fun j => ?_
  rw [slot_unbind]
  split
  · exact .inl rfl
  · exact .inr ⟨rfl, h.sound j⟩

lemma reset (h : p.Tidy) : p.reset.Tidy := by
  refine h.unbindSome (f := fun s => s.unbind p.now) rfl (fun s => ⟨rfl, rfl, rfl, rfl⟩) fun j => ?_
  rw [slot_reset]
  split
  · exact .inl rfl
  · next hj =>
    refine .inr ⟨rfl, ?_⟩
    rw [p.slot_of_size_le (by omega)]
    exact .unbound rfl rfl rfl rfl

lemma finishLoad {i : Nat} (h : p.Tidy) (hl : (p.slot i).loading = true) :
    (p.modifySlot i Slot.finishLoad).Tidy := by
  have hs : ∀ j, ((p.modifySlot i Slot.finishLoad).slot j).asset = (p.slot j).asset ∧
      ((p.modifySlot i Slot.finishLoad).slot j).lastUsed = (p.slot j).lastUsed := by
    intro j
    rw [slot_modifySlot]
    split <;> exact ⟨rfl, rfl⟩
  refine ⟨fun j => ?_, fun {j k a} h1 h2 => ?_, fun {j k} h1 h2 => ?_, fun h1 j => ?_⟩
  · rw [slot_modifySlot, clock_modifySlot]
    split
    · next hij =>
      rw [← hij.1]
      cases h.sound i with
      | unbound _ _ hn => simp [hl] at hn
      | bound ha hp hu => exact .bound ha hp hu rfl
    · exact h.sound j
  · rw [(hs _).1] at h1 h2
    exact h.distinct h1 h2
  · rw [(hs _).2] at h1 h2
    rw [(hs _).2] at h2
    exact h.ages h1 h2
  · rw [(hs _).1]
    exact h.closed h1 j

end Pool.Tidy

end Montage

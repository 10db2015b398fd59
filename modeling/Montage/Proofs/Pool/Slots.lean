import Mathlib.Logic.Function.Basic
import Montage.Media.Request

/-!
What the operations of a pool do to its slots.

A pool reads a slot it does not have as one that is unbound and free, so the laws below need a
bound on the number of a slot only where a slot is written.
-/

namespace Montage

/-- All of a slot but its element. -/
def Slot.bare (s : Slot) : Slot := { s with element := {} }

/-- The tasks that hold a lock or wait for it, in the order of their turns. -/
def Lock.tasks (l : Lock) : List TaskId := l.holder.toList ++ l.waiting

lemma Lock.tasks_release (l : Lock) (h : l.holder ≠ none) : l.release.tasks = l.waiting := by
  obtain ⟨_ | t, _ | ⟨u, rest⟩⟩ := l <;> simp [release, tasks] at h ⊢

@[simp] lemma Agenda.started_wake (a : Agenda) (t : TaskId) : (a.wake t).started = a.started := by
  unfold wake
  split <;> rfl

@[simp] lemma Agenda.started_sleepUntil (a : Agenda) (t : TaskId) (due : Nat) :
    (a.sleepUntil t due).started = a.started := by
  unfold sleepUntil
  split <;> rfl

@[simp] lemma Agenda.started_stopTimers (a : Agenda) (t : TaskId) :
    (a.stopTimers t).started = a.started := rfl

namespace Pool

variable (p : Pool) {i j : Nat}

lemma slot_of_size_le (h : p.size ≤ i) : p.slot i = {} := by
  simp [slot, size] at h ⊢
  rw [List.getElem?_eq_none h]
  rfl

lemma lt_size_of_slot {i : Nat} (h : p.slot i ≠ {}) : i < p.size := by
  by_contra hc
  exact h (p.slot_of_size_le (by omega))

lemma lt_size_of_asset {a : AssetId} (h : (p.slot i).asset = some a) : i < p.size :=
  p.lt_size_of_slot fun e => by simp [e] at h

lemma lt_size_of_holds {t : TaskId} (h : p.holds i t = true) : i < p.size :=
  p.lt_size_of_slot fun e => by simp [holds, e] at h

@[simp] lemma slot_new (config : PoolConfig) (backend : Backend) (i : Nat) :
    (Pool.new config backend).slot i = {} := by
  simp only [slot, Pool.new, List.getElem?_replicate]
  split <;> rfl

@[simp] lemma size_modifySlot (i : Nat) (f : Slot → Slot) : (p.modifySlot i f).size = p.size := by
  simp [modifySlot, size]

@[simp] lemma slot_modifySlot (i j : Nat) (f : Slot → Slot) :
    (p.modifySlot i f).slot j = if i = j ∧ i < p.size then f (p.slot j) else p.slot j := by
  simp only [modifySlot, slot, size, List.getElem?_modify]
  rcases h : p.slots[j]? with _ | s
  · have hj := List.getElem?_eq_none_iff.mp h
    have hij : ¬(i = j ∧ i < p.slots.length) := by omega
    simp [hij]
  · have hj := (List.getElem?_eq_some_iff.mp h).1
    by_cases hij : i = j
    · subst hij
      simp [hj]
    · simp [hij]

@[simp] lemma clock_modifySlot (i : Nat) (f : Slot → Slot) :
    (p.modifySlot i f).clock = p.clock := rfl

@[simp] lemma disposed_modifySlot (i : Nat) (f : Slot → Slot) :
    (p.modifySlot i f).disposed = p.disposed := rfl

@[simp] lemma size_modifyElement (i : Nat) (f : Element → Element) :
    (p.modifyElement i f).size = p.size :=
  p.size_modifySlot _ _

@[simp] lemma slot_modifyElement (i j : Nat) (f : Element → Element) :
    (p.modifyElement i f).slot j =
      if i = j ∧ i < p.size then { p.slot j with element := f (p.slot j).element } else p.slot j :=
  p.slot_modifySlot _ _ _

@[simp] lemma size_lock (i : Nat) (t : TaskId) : (p.lock i t).size = p.size :=
  p.size_modifySlot _ _

@[simp] lemma slot_lock (i j : Nat) (t : TaskId) : (p.lock i t).slot j =
    if i = j ∧ i < p.size then { p.slot j with lock := (p.slot j).lock.take t } else p.slot j :=
  p.slot_modifySlot _ _ _

@[simp] lemma size_enqueue (i : Nat) (t : TaskId) : (p.enqueue i t).size = p.size :=
  p.size_modifySlot _ _

@[simp] lemma slot_enqueue (i j : Nat) (t : TaskId) : (p.enqueue i t).slot j =
    if i = j ∧ i < p.size then { p.slot j with lock := (p.slot j).lock.enqueue t } else p.slot j :=
  p.slot_modifySlot _ _ _

@[simp] lemma size_bind (i : Nat) (a : AssetId) : (p.bind i a).size = p.size :=
  p.size_modifySlot _ _

@[simp] lemma slot_bind (i j : Nat) (a : AssetId) : (p.bind i a).slot j =
    if i = j ∧ i < p.size then (p.slot j).bind p.now a p.clock else p.slot j :=
  p.slot_modifySlot _ _ _

@[simp] lemma size_unbind (i : Nat) : (p.unbind i).size = p.size := p.size_modifySlot _ _

@[simp] lemma slot_unbind (i j : Nat) : (p.unbind i).slot j =
    if i = j ∧ i < p.size then (p.slot j).unbind p.now else p.slot j :=
  p.slot_modifySlot _ _ _

@[simp] lemma size_countUse : p.countUse.size = p.size := rfl

@[simp] lemma slot_countUse (i : Nat) : p.countUse.slot i = p.slot i := rfl

@[simp] lemma size_unlock (i : Nat) : (p.unlock i).size = p.size := by
  unfold unlock
  dsimp only
  split <;> exact p.size_modifySlot _ _

@[simp] lemma slot_unlock (i j : Nat) : (p.unlock i).slot j =
    if i = j ∧ i < p.size then { p.slot j with lock := (p.slot j).lock.release } else p.slot j := by
  have h : (p.unlock i).slot j =
      (p.modifySlot i fun s => { s with lock := (p.slot i).lock.release }).slot j := by
    unfold unlock
    dsimp only
    split <;> rfl
  rw [h, slot_modifySlot]
  split
  · next hij => rw [hij.1]
  · rfl

@[simp] lemma clock_unlock (i : Nat) : (p.unlock i).clock = p.clock := by
  unfold unlock
  dsimp only
  split <;> rfl

@[simp] lemma disposed_unlock (i : Nat) : (p.unlock i).disposed = p.disposed := by
  unfold unlock
  dsimp only
  split <;> rfl

@[simp] lemma work_unlock (i : Nat) : (p.unlock i).work = p.work := by
  unfold unlock
  dsimp only
  split <;> rfl

@[simp] lemma config_unlock (i : Nat) : (p.unlock i).config = p.config := by
  unfold unlock
  dsimp only
  split <;> rfl

@[simp] lemma backend_unlock (i : Nat) : (p.unlock i).backend = p.backend := by
  unfold unlock
  dsimp only
  split <;> rfl

@[simp] lemma started_unlock (i : Nat) : (p.unlock i).agenda.started = p.agenda.started := by
  unfold unlock
  dsimp only
  split
  · rfl
  · exact Agenda.started_wake _ _

@[simp] lemma size_reset : p.reset.size = p.size := by simp [reset, size]

@[simp] lemma slot_reset (i : Nat) :
    p.reset.slot i = if i < p.size then (p.slot i).unbind p.now else p.slot i := by
  simp only [reset, slot, size, List.getElem?_map]
  rcases h : p.slots[i]? with _ | s
  · have hlen := List.getElem?_eq_none_iff.mp h
    simp [Nat.not_lt.mpr hlen]
  · simp [(List.getElem?_eq_some_iff.mp h).1]

/-! ### Looking for slots -/

variable {p}

lemma isFree_iff : p.isFree i = true ↔ (p.slot i).lock.holder = none := by
  simp [isFree, Lock.isFree]

@[simp] lemma isFree_enqueue (p : Pool) (i j : Nat) (t : TaskId) :
    (p.enqueue i t).isFree j = p.isFree j := by
  rw [isFree, slot_enqueue]
  split <;> rfl

lemma holds_iff {t : TaskId} : p.holds i t = true ↔ (p.slot i).lock.holder = some t := by
  simp [holds]

lemma slotOf?_eq_some {a : AssetId} (h : p.slotOf? a = some i) : (p.slot i).asset = some a := by
  obtain ⟨hi, ha, -⟩ := List.findIdx?_eq_some_iff_getElem.mp h
  simpa [slot, hi] using ha

lemma slotOf?_eq_none {a : AssetId} (h : p.slotOf? a = none) (i : Nat) :
    (p.slot i).asset ≠ some a := by
  intro ha
  have hi := p.lt_size_of_asset ha
  have hmem : p.slot i ∈ p.slots := by
    rw [slot, List.getElem?_eq_getElem hi]
    exact List.getElem_mem hi
  have hnot := List.findIdx?_eq_none_iff.mp h _ hmem
  simp [ha] at hnot

lemma mem_byAge {pinned : List Nat} : i ∈ p.byAge pinned ↔ i < p.size ∧ i ∉ pinned := by
  simp [byAge, List.mem_mergeSort]

lemma idleSlot?_eq_some (h : p.idleSlot? = some i) :
    i < p.size ∧ (p.slot i).asset = none ∧ p.isFree i = true := by
  obtain ⟨hi, hs, -⟩ := List.findIdx?_eq_some_iff_getElem.mp h
  simp only [Bool.and_eq_true, Option.isNone_iff_eq_none, beq_iff_eq] at hs
  exact ⟨hi, by simpa [slot, hi] using hs.1.1, by simpa [isFree, slot, hi] using hs.2⟩

end Pool

end Montage

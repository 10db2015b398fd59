import Montage.Proofs.Pool.Locks
import Montage.Proofs.Pool.Tidy

/-!
What the stakes in a slot are worth.

Whoever loads a slot, or is served by it, knows the generation at which it was had. As long as the
slot is at that generation it is still bound to what the task has in mind; and nobody else loads it.
-/

namespace Montage

/-- All of a slot that tells what it is bound to. -/
def Slot.binding (s : Slot) : Slot := { s.record with lastUsed := 0 }

lemma Slot.binding_eq_iff {r s : Slot} : r.binding = s.binding ↔ r.asset = s.asset ∧
    r.loading = s.loading ∧ r.prepared = s.prepared ∧ r.generation = s.generation := by
  simp [binding, record]

namespace Pool.Agrees

variable {p q : Pool} (h : p.Agrees q) (i : Nat)

include h

lemma record : (q.slot i).record = (p.slot i).record :=
  congrArg (fun s : Slot => { s with lock := {} }) (h.slot i)

lemma lock : (q.slot i).lock = (p.slot i).lock := by
  have hl := congrArg Slot.lock (h.slot i)
  exact hl

lemma binding : (q.slot i).binding = (p.slot i).binding :=
  congrArg (fun s : Slot => { s with lock := {}, lastUsed := 0 }) (h.slot i)

end Pool.Agrees

lemma Slot.serves_eq_true {s : Slot} {a : AssetId} {g : Nat} : s.serves a g = true ↔
    s.generation = g ∧ s.prepared = true ∧ s.loading = false ∧ s.asset = some a := by
  simp [serves, and_assoc]

lemma Slot.serves_of_binding {r s : Slot} (h : r.binding = s.binding) (a : AssetId) (g : Nat) :
    r.serves a g = s.serves a g := by
  obtain ⟨ha, hl, hp, hg⟩ := binding_eq_iff.mp h
  simp [serves, ha, hl, hp, hg]

/-- A stake of the generation that its slot is at means what it says, and a slot that loads is
loaded by somebody. -/
structure Account.Owned (c : Account) : Prop where
  loading : ∀ {t i g a}, c.stake t = .loading i g a → g ≤ (c.pool.slot i).generation ∧
    ((c.pool.slot i).generation = g →
      (c.pool.slot i).loading = true ∧ (c.pool.slot i).asset = some a)
  serving : ∀ {t i g a}, c.stake t = .serving i g a → g ≤ (c.pool.slot i).generation ∧
    ((c.pool.slot i).generation = g → (c.pool.slot i).serves a g = true)
  loader : ∀ {i}, (c.pool.slot i).loading = true →
    ∃ t a, c.stake t = .loading i (c.pool.slot i).generation a

namespace Account.Owned

variable {c : Account} {q : Pool} {t : TaskId} {s : Stake} {i : Nat}

/-- A stake that is up to date after a slot has been bound anew a few times was so before. -/
lemma same_before {a : AssetId} {g k : Nat} (h : c.Owned) (hs : c.stake t = .loading i g a)
    (hle : (c.pool.slot i).generation ≤ k) (hk : k = g) : (c.pool.slot i).generation = g :=
  Nat.le_antisymm (hk ▸ hle) (h.loading hs).1

lemma unbindSome (h : c.Owned) (hq : ∀ j,
    (q.slot j).generation = (c.pool.slot j).generation + 1 ∧ (q.slot j).loading = false ∨
      (q.slot j).binding = (c.pool.slot j).binding) : Owned ⟨q, c.stake⟩ := by
  refine ⟨fun {u j g a} hu => ?_, fun {u j g a} hu => ?_, fun {j} hj => ?_⟩ <;> dsimp only at *
  · have hold := h.loading hu
    rcases hq j with ⟨hg, -⟩ | hb
    · exact ⟨by omega, fun e => by omega⟩
    · obtain ⟨ha, hl, -, hg⟩ := Slot.binding_eq_iff.mp hb
      simpa [ha, hl, hg] using hold
  · have hold := h.serving hu
    rcases hq j with ⟨hg, -⟩ | hb
    · exact ⟨by omega, fun e => by omega⟩
    · obtain ⟨-, -, -, hg⟩ := Slot.binding_eq_iff.mp hb
      simpa [hg, Slot.serves_of_binding hb] using hold
  · rcases hq j with ⟨-, hl⟩ | hb
    · simp [hl] at hj
    · obtain ⟨-, hl, -, hg⟩ := Slot.binding_eq_iff.mp hb
      obtain ⟨u, a, hu⟩ := h.loader (hl ▸ hj)
      exact ⟨u, a, by rw [hg]; exact hu⟩

/-- A task that loads nothing takes up a stake that claims no more than it may. -/
lemma put (h : c.Owned) (hq : ∀ j, (q.slot j).binding = (c.pool.slot j).binding)
    (hold : ∀ j a, (c.pool.slot j).loading = true →
      c.stake t ≠ .loading j (c.pool.slot j).generation a)
    (hl : ∀ j g a, s ≠ .loading j g a)
    (hs : ∀ j g a, s = .serving j g a → (c.pool.slot j).serves a g = true) :
    (c.put q t s).Owned := by
  have hc : Owned ⟨q, c.stake⟩ := h.unbindSome fun j => .inr (hq j)
  refine ⟨fun {u j g a} hu => ?_, fun {u j g a} hu => ?_, fun {j} hj => ?_⟩
  · simp only [Account.put, Function.update_apply] at hu
    split at hu
    · exact absurd hu (hl j g a)
    · exact hc.loading hu
  · simp only [Account.put, Function.update_apply] at hu
    split at hu
    · have hserves := hs j g a hu
      rw [← Slot.serves_of_binding (hq j)] at hserves
      have hg := (Slot.serves_eq_true.mp hserves).1
      exact ⟨by show g ≤ (q.slot j).generation; omega, fun _ => hserves⟩
    · exact hc.serving hu
  · obtain ⟨-, hlj, -, hgj⟩ := Slot.binding_eq_iff.mp (hq j)
    obtain ⟨u, a, hu⟩ := hc.loader hj
    refine ⟨u, a, ?_⟩
    simp only [Account.put, Function.update_apply] at hu ⊢
    rw [if_neg, hu]
    rintro rfl
    rw [hgj] at hu
    exact hold j a (hlj ▸ hj) hu

lemma rebind {a : AssetId} (h : c.Owned) (hlt : i < c.pool.size)
    (hold : (c.stake t).held? = none) :
    (c.put (c.pool.rebind t i a) t (.loading i ((c.pool.slot i).generation + 1) a)).Owned := by
  have hother : ∀ u j g b, c.stake u = .loading j g b → u ≠ t := by
    rintro u j g b hu rfl
    simp [hu, Stake.held?] at hold
  refine ⟨fun {u j g b} hu => ?_, fun {u j g b} hu => ?_, fun {j} hj => ?_⟩
  · simp only [Account.put, Function.update_apply, Pool.slot_rebind] at hu ⊢
    split at hu
    · cases hu
      simp [hlt, Slot.bind]
    · have hold := h.loading hu
      split
      · simp only [Slot.bind]
        exact ⟨by omega, fun e => by omega⟩
      · exact hold
  · simp only [Account.put, Function.update_apply, Pool.slot_rebind] at hu ⊢
    split at hu
    · simp at hu
    · have hold := h.serving hu
      split
      · simp only [Slot.bind]
        exact ⟨by omega, fun e => by omega⟩
      · exact hold
  · simp only [Account.put, Function.update_apply, Pool.slot_rebind] at hj ⊢
    by_cases hij : i = j
    · subst hij
      exact ⟨t, a, by simp [hlt, Slot.bind]⟩
    · rw [if_neg (by simp [hij])] at hj ⊢
      obtain ⟨u, b, hu⟩ := h.loader hj
      exact ⟨u, b, by rw [if_neg (hother u _ _ _ hu), hu]⟩

/-- The holder of a slot has loaded it. -/
lemma finishLoad {g : Nat} {a : AssetId} (h : c.Owned) (hf : c.Fair)
    (was : c.stake t = .loading i g a) (same : (c.pool.slot i).generation = g) :
    (c.put (c.pool.modifySlot i Slot.finishLoad) t (.serving i g a)).Owned := by
  have hlt : i < c.pool.size := c.pool.lt_size_of_holds
    (Pool.holds_iff.mpr (hf.held (t := t) (by simp [was, Stake.held?])))
  have halone : ∀ u g' b, c.stake u = .loading i g' b → u = t := by
    intro u g' b hu
    have h1 := hf.held (t := u) (i := i) (by simp [hu, Stake.held?])
    have h2 := hf.held (t := t) (i := i) (by simp [was, Stake.held?])
    exact Option.some.inj (h1.symm.trans h2)
  have hasset : (c.pool.slot i).asset = some a := ((h.loading was).2 same).2
  refine ⟨fun {u j g' b} hu => ?_, fun {u j g' b} hu => ?_, fun {j} hj => ?_⟩
  · simp only [Account.put, Function.update_apply, Pool.slot_modifySlot] at hu ⊢
    split at hu
    · simp at hu
    · next hne =>
      have hij : i ≠ j := by
        rintro rfl
        exact hne (halone u g' b hu)
      simpa [hij] using h.loading hu
  · simp only [Account.put, Function.update_apply, Pool.slot_modifySlot] at hu ⊢
    split at hu
    · cases hu
      simp [hlt, same, Slot.serves, Slot.finishLoad, hasset]
    · have hold := h.serving hu
      split
      · simp only [Slot.serves_eq_true] at hold
        simp only [Slot.finishLoad, Slot.serves_eq_true]
        exact ⟨hold.1, fun e => ⟨e, by simp, by simp, (hold.2 e).2.2.2⟩⟩
      · exact hold
  · simp only [Account.put, Function.update_apply, Pool.slot_modifySlot] at hj ⊢
    by_cases hij : i = j
    · subst hij
      simp [hlt, Slot.finishLoad] at hj
    · rw [if_neg (by simp [hij])] at hj ⊢
      obtain ⟨u, b, hu⟩ := h.loader hj
      refine ⟨u, b, ?_⟩
      rw [if_neg, hu]
      rintro rfl
      rw [was] at hu
      cases hu
      exact hij rfl

end Account.Owned

end Montage

import Montage.Proofs.Pool.Order

/-!
What the notes of a course of moves tell of the pool at its end: how often each slot was bound or
unbound, who has bound it last, and what each task has picked last.
-/

namespace Montage

namespace Note

lemma countP_rebinds_unbound (i n : Nat) :
    ((List.range n).map Note.unbound).countP (rebinds i) = if i < n then 1 else 0 := by
  induction n with
  | zero => rfl
  | succ n ih =>
    rw [List.range_succ, List.map_append, List.countP_append, ih]
    simp only [List.map_cons, List.map_nil, List.countP_singleton, rebinds, beq_iff_eq]
    split <;> split <;> split <;> omega

lemma last_unbound {α : Type} {f : Note → Option α} (hf : ∀ i, f (.unbound i) = none)
    (is : List Nat) : last f (is.map .unbound) = none := by
  simp [last, List.findSome?_eq_none_iff, hf]

lemma binder_append (ns ms : List Note) (i : Nat) :
    binder (ns ++ ms) i = (binder ms i).or (binder ns i) := last_append _ _ _

lemma picked_append (ns ms : List Note) (t : TaskId) :
    picked (ns ++ ms) t = (picked ms t).or (picked ns t) := last_append _ _ _

end Note

variable {c d : Account} {ns ms : List Note}

/-- What a move does to what a slot is bound to. -/
inductive Move.Effect (c d : Account) (ns : List Note) (i : Nat) : Prop
  | stays (binding : (d.pool.slot i).binding = (c.pool.slot i).binding)
      (notes : ns.countP (Note.rebinds i) = 0)
  | loaded {t : TaskId} {a : AssetId} (was : c.stake t = .loading i (c.pool.slot i).generation a)
      (slot : d.pool.slot i = (c.pool.slot i).finishLoad) (notes : ns.countP (Note.rebinds i) = 0)
  /-- Somebody has the slot for another asset, or takes it away. -/
  | evicted (generation : (d.pool.slot i).generation = (c.pool.slot i).generation + 1)
      (notes : ns.countP (Note.rebinds i) = 1) (told : ∃ n ∈ ns, n.evicts i = true)
  /-- A load of the slot fails. -/
  | failed {t : TaskId} {a : AssetId} (was : c.stake t = .loading i (c.pool.slot i).generation a)
      (generation : (d.pool.slot i).generation = (c.pool.slot i).generation + 1)
      (notes : ns.countP (Note.rebinds i) = 1)

lemma Move.effect (m : Move c ns d) (i : Nat) : Effect c d ns i := by
  cases m with
  | still hq => exact .stays (hq.binding i) rfl
  | count | serve | lose | close => exact .stays rfl rfl
  | keep | wait | enter | leave =>
    refine .stays ?_ rfl
    simp only [Account.put, Pool.slot_touch, Pool.slot_enqueue, Pool.slot_lock, Pool.slot_unlock]
    split <;> rfl
  | @take t a j _ _ _ _ lt =>
    by_cases hij : j = i
    · subst hij
      exact .evicted (by simp [Account.put, lt, Slot.bind]) (by simp [Note.rebinds])
        (by simp [Note.evicts])
    · exact .stays (by simp [Account.put, hij]) (by simp [Note.rebinds, hij])
  | @load t j g a was same =>
    by_cases hij : j = i ∧ j < c.pool.size
    · obtain ⟨rfl, lt⟩ := hij
      rw [← same] at was
      exact .loaded was (by simp [Account.put, lt]) rfl
    · exact .stays (by simp only [Account.put, Pool.slot_modifySlot, if_neg hij]) rfl
  | @fail t j g a was same holds =>
    have lt := c.pool.lt_size_of_holds holds
    by_cases hij : j = i
    · subst hij
      rw [← same] at was
      exact .failed was (by simp [Account.put, lt, Slot.unbind])
        (by simp [Note.rebinds])
    · exact .stays (by simp [Account.put, hij]) (by simp [Note.rebinds, hij])
  | @unbind j lt =>
    by_cases hij : j = i
    · subst hij
      exact .evicted (by simp [lt, Slot.unbind]) (by simp [Note.rebinds])
        (by simp [Note.evicts])
    · exact .stays (by simp [hij]) (by simp [Note.rebinds, hij])
  | reset =>
    have hcount := Note.countP_rebinds_unbound i c.pool.size
    by_cases lt : i < c.pool.size
    · rw [if_pos lt] at hcount
      have htold : Note.unbound i ∈ (List.range c.pool.size).map Note.unbound :=
        List.mem_map_of_mem (List.mem_range.mpr lt)
      exact .evicted (by simp [lt, Slot.unbind]) hcount ⟨_, htold, by simp [Note.evicts]⟩
    · rw [if_neg lt] at hcount
      exact .stays (by simp [lt]) hcount

lemma Move.generation (m : Move c ns d) (i : Nat) :
    (d.pool.slot i).generation = (c.pool.slot i).generation + ns.countP (Note.rebinds i) := by
  cases m.effect i with
  | stays hb hn => rw [hn, (Slot.binding_eq_iff.mp hb).2.2.2, Nat.add_zero]
  | loaded _ hslot hn =>
    rw [hn, hslot]
    rfl
  | evicted hg hn => rw [hn, hg]
  | failed _ hg hn => rw [hn, hg]

lemma Move.asset (m : Move c ns d) {i : Nat} (h : ∀ n ∈ ns, n.rebinds i = false) :
    (d.pool.slot i).asset = (c.pool.slot i).asset := by
  have hnone : ns.countP (Note.rebinds i) = 0 :=
    List.countP_eq_zero.mpr fun n hn => by simp [h n hn]
  cases m.effect i with
  | stays hb => exact (Slot.binding_eq_iff.mp hb).1
  | loaded _ hslot =>
    rw [hslot]
    rfl
  | evicted _ hn => omega
  | failed _ _ hn => omega

/-- A slot that is prepared can only be bound anew or unbound by somebody who says so; a load that
fails is never its own. -/
lemma Move.binding_of_prepared (m : Move c ns d) (hc : c.Good) {i : Nat}
    (hp : (c.pool.slot i).prepared = true) (h : ∀ n ∈ ns, n.evicts i = false) :
    (d.pool.slot i).binding = (c.pool.slot i).binding := by
  have hidle : ∀ {t a}, c.stake t ≠ .loading i (c.pool.slot i).generation a := by
    intro t a ht
    have hl := ((hc.owned.loading ht).2 rfl).1
    simp [(hc.tidy.sound i).not_prepared hl] at hp
  cases m.effect i with
  | stays hb => exact hb
  | loaded was => exact absurd was hidle
  | evicted _ _ told =>
    obtain ⟨n, hn, hev⟩ := told
    simp [h n hn] at hev
  | failed was => exact absurd was hidle

/-- The notes know what every stake goes back to. -/
structure Account.Recalled (c : Account) (ns : List Note) : Prop where
  picked : ∀ {t x}, (c.stake t).pick? = some x → Note.picked ns t = some x
  binder : ∀ {t i g a}, c.stake t = .loading i g a → (c.pool.slot i).generation = g →
    Note.binder ns i = some t

namespace Account.Recalled

variable {q : Pool} {t : TaskId} {s : Stake}

lemma put (h : c.Recalled ns) (hc : c.Owned)
    (hgen : ∀ j, (c.pool.slot j).generation ≤ (q.slot j).generation)
    (hs : ∀ x, s.pick? = some x → (c.stake t).pick? = some x) (hl : ∀ j g a, s ≠ .loading j g a)
    (hpick : ∀ u, Note.picked ms u = none) (hbind : ∀ j, Note.binder ms j = none) :
    (c.put q t s).Recalled (ns ++ ms) := by
  refine ⟨fun {u x} hu => ?_, fun {u j g a} hu hg => ?_⟩
  · rw [Note.picked_append, hpick, Option.none_or]
    simp only [Account.put, Function.update_apply] at hu
    split at hu
    · next e =>
      subst e
      exact h.picked (hs x hu)
    · exact h.picked hu
  · rw [Note.binder_append, hbind, Option.none_or]
    simp only [Account.put, Function.update_apply] at hu hg
    split at hu
    · exact absurd hu (hl j g a)
    · exact h.binder hu (hc.same_before hu (hgen j) hg)

lemma picked_put {n : Note} {y : Nat × Nat} (h : c.Recalled ns)
    (hn : ∀ u, Note.pickOf u n = if t = u then some y else none) (hs : s.pick? = some y)
    {u : TaskId} {x : Nat × Nat} (hu : ((c.put q t s).stake u).pick? = some x) :
    Note.picked (ns ++ [n]) u = some x := by
  rw [Note.picked_append, Note.picked, Note.last_singleton, hn]
  simp only [Account.put, Function.update_apply] at hu
  split at hu
  · next e => rw [if_pos e.symm, ← hs, hu, Option.some_or]
  · next e => rw [if_neg (Ne.symm e), Option.none_or, h.picked hu]

lemma congr (h : c.Recalled ns) (hc : c.Owned)
    (hgen : ∀ j, (c.pool.slot j).generation ≤ (q.slot j).generation)
    (hpick : ∀ u, Note.picked ms u = none) (hbind : ∀ j, Note.binder ms j = none) :
    Recalled ⟨q, c.stake⟩ (ns ++ ms) := by
  refine ⟨fun {u x} hu => ?_, fun {u j g a} hu hg => ?_⟩
  · rw [Note.picked_append, hpick, Option.none_or]
    exact h.picked hu
  · rw [Note.binder_append, hbind, Option.none_or]
    exact h.binder hu (hc.same_before hu (hgen j) hg)

lemma move (h : c.Recalled ns) (hc : c.Good) (m : Move c ms d) : d.Recalled (ns ++ ms) := by
  have hgen : ∀ j, (c.pool.slot j).generation ≤ (d.pool.slot j).generation := by
    intro j
    rw [m.generation]
    omega
  cases m with
  | still | count | close | unbind =>
    exact h.congr hc.owned hgen (fun _ => rfl) fun _ => rfl
  | reset =>
    exact h.congr hc.owned hgen (fun _ => Note.last_unbound (fun _ => rfl) _)
      fun _ => Note.last_unbound (fun _ => rfl) _
  | @keep t a i idle bound =>
    refine ⟨h.picked_put (fun _ => rfl) rfl, fun {u j g b} hu hg => ?_⟩
    rw [Note.binder_append]
    simp only [Account.put, Function.update_apply] at hu
    split at hu
    · simp at hu
    · have hn := h.binder hu (hc.owned.same_before hu (hgen j) hg)
      simpa [Note.binder, Note.binderOf] using hn
  | @take t a i idle alive unbound free lt =>
    refine ⟨h.picked_put (fun _ => rfl) rfl, fun {u j g b} hu hg => ?_⟩
    rw [Note.binder_append]
    simp only [Account.put, Function.update_apply] at hu hg
    split at hu
    · next e =>
      cases hu
      simp [Note.binder, Note.binderOf, e]
    · have hle := (hc.owned.loading hu).1
      by_cases hij : i = j
      · subst hij
        simp [lt, Slot.bind] at hg
        omega
      · have hn := h.binder hu (by simpa [hij] using hg)
        simpa [Note.binder, Note.binderOf, hij] using hn
  | wait busy was =>
    refine h.put hc.owned hgen (fun x hx => ?_) (by simp) (fun _ => rfl) fun _ => rfl
    rw [was]
    revert hx
    cases ‹Option Nat› <;> simp [Stake.pick?]
  | enter was | serve was | load was =>
    refine h.put hc.owned hgen (fun x hx => ?_) (by simp) (fun _ => rfl) fun _ => rfl
    rw [was]
    exact hx
  | fail | lose | leave =>
    exact h.put hc.owned hgen (by simp [Stake.pick?]) (by simp) (fun _ => rfl) fun _ => rfl

end Account.Recalled

end Montage

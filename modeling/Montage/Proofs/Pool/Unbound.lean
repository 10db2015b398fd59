import Montage.Proofs.Pool.Elements

/-!
What is loaded into slots that nothing is bound to.

A slot that is unbound has an element without a source, which stands still. The exception are loads
in advance that start late: they have their first turn after their slot was taken away, and leave a
source behind that nobody asks for. It stays until the slot is bound or unbound again.
-/

namespace Montage

namespace Pool

/-- Some event of a run was like this when it happened. -/
def Once (c : Pool) (es : List Event) (P : Pool → Event → Prop) : Prop :=
  ∃ es₁ e es₂, es = es₁ ++ e :: es₂ ∧ P (c.run es₁) e

/-- The element of the slot has no source and stands still. -/
structure Unloaded (p : Pool) (i : Nat) : Prop where
  source : (p.element i).source = none
  paused : (p.element i).isPaused = true

variable {p c : Pool} {es : List Event} {e : Event} {P : Pool → Event → Prop} {i : Nat}

lemma not_once_nil : ¬c.Once [] P := by
  rintro ⟨es₁, e, es₂, h, -⟩
  exact absurd h (by simp)

lemma once_concat : c.Once (es ++ [e]) P ↔ c.Once es P ∨ P (c.run es) e := by
  constructor
  · rintro ⟨es₁, e', es₂, h, hP⟩
    rcases List.eq_nil_or_concat es₂ with rfl | ⟨es₂, e'', rfl⟩
    · obtain ⟨rfl, rfl⟩ : es = es₁ ∧ e = e' := by simpa using h
      exact .inr hP
    · obtain ⟨rfl, -⟩ : es = es₁ ++ e' :: es₂ ∧ e = e'' := by
        rw [List.concat_eq_append, ← List.cons_append, ← List.append_assoc] at h
        simpa using List.append_inj' h rfl
      exact .inl ⟨es₁, e', es₂, rfl, hP⟩
  · rintro (⟨es₁, e', es₂, rfl, hP⟩ | hP)
    · exact ⟨es₁, e', es₂ ++ [e], by simp, hP⟩
    · exact ⟨es, e, [], rfl, hP⟩

lemma Once.mono {Q : Pool → Event → Prop} (h : c.Once es P)
    (hPQ : ∀ es₁ e es₂, es = es₁ ++ e :: es₂ → P (c.run es₁) e → Q (c.run es₁) e) :
    c.Once es Q := by
  obtain ⟨es₁, e, es₂, hes, hP⟩ := h
  exact ⟨es₁, e, es₂, hes, hPQ es₁ e es₂ hes hP⟩

lemma Ordered.generation_le (hp : p.Ordered) (es : List Event) (i : Nat) :
    (p.slot i).generation ≤ ((p.run es).slot i).generation := by
  obtain ⟨ns, hns⟩ := Traced.exists_of hp es
  have hgen : ((p.run es).slot i).generation = (p.slot i).generation + _ := hns.course.generation i
  omega

lemma Ordered.asset_eq (hp : p.Ordered) (es : List Event)
    (h : ((p.run es).slot i).generation = (p.slot i).generation) :
    ((p.run es).slot i).asset = (p.slot i).asset := by
  obtain ⟨ns, hns⟩ := Traced.exists_of hp es
  have hgen : ((p.run es).slot i).generation = (p.slot i).generation + _ := hns.course.generation i
  have hcount : ns.countP (Note.rebinds i) = 0 := by omega
  exact hns.course.asset fun n hn => by simpa using List.countP_eq_zero.mp hcount n hn

/-- A load in advance has started late since the slot was bound or unbound last. -/
def IsLeftover (c : Pool) (es : List Event) (i : Nat) : Prop :=
  c.Once es fun p e => e.StartsLate p i ∧
    (p.slot i).generation = ((c.run es).slot i).generation

lemma isLeftover_concat_of_same
    (h : ((c.run (es ++ [e])).slot i).generation = ((c.run es).slot i).generation) :
    c.IsLeftover (es ++ [e]) i ↔ c.IsLeftover es i ∨ e.StartsLate (c.run es) i := by
  simp only [IsLeftover, once_concat, h, and_true]

lemma not_isLeftover_concat (hp : c.Ordered)
    (h : ((c.run es).slot i).generation < ((c.run (es ++ [e])).slot i).generation) :
    ¬c.IsLeftover (es ++ [e]) i := by
  intro hleft
  rcases once_concat.mp hleft with ⟨es₁, e', es₂, rfl, -, hgen⟩ | ⟨-, hgen⟩
  · have hle := (hp.run es₁).generation_le (e' :: es₂) i
    rw [← run_append] at hle
    omega
  · omega

lemma Ordered.isLeftover_iff_of_same (hp : p.Ordered)
    (hgen : ((p.run es).slot i).generation = (p.slot i).generation) :
    p.IsLeftover es i ↔ p.Once es fun p e => e.StartsLate p i := by
  refine ⟨fun h => h.mono fun _ _ _ _ hl => hl.1, fun h => h.mono fun es₁ e es₂ hes hl => ⟨hl, ?_⟩⟩
  have hle := (hp.run es₁).generation_le (e :: es₂) i
  rw [← run_append, ← hes] at hle
  exact Nat.le_antisymm hle (hgen ▸ hp.generation_le es₁ i)

/-- **An unbound slot is unloaded unless something is left over.** -/
lemma Ordered.unloaded (hp : p.Ordered) (hv : p.account.Vacant)
    (hstart : (p.slot i).asset = none → p.Unloaded i) (es : List Event)
    (gentle : ∀ e ∈ es, e.Gentle) (hnone : ((p.run es).slot i).asset = none) :
    (p.IsLeftover es i → ((p.run es).element i).source ≠ none) ∧
      (¬p.IsLeftover es i → (p.run es).Unloaded i) := by
  induction es using List.reverseRecOn with
  | nil => exact ⟨fun h => absurd h not_once_nil, fun _ => hstart hnone⟩
  | append_singleton es e ih =>
    have hgentle := gentle e (List.mem_append_right _ (List.mem_singleton_self e))
    have hq := hp.run es
    have hvq := hp.vacant hv es
    have hturns := e.turns hq hvq hgentle i
    have hrun := p.run_concat es e
    rw [← hrun] at hturns
    have hlate := fun h : e.StartsLate (p.run es) i => h.turns hq hvq
    rw [← hrun] at hlate
    cases hturns with
    | keeps h =>
      obtain ⟨hsource, hunloaded⟩ :=
        ih (fun e he => gentle e (List.mem_append_left _ he)) (h.asset.symm.trans hnone)
      rw [isLeftover_concat_of_same h.generation]
      refine ⟨fun hleft => ?_, fun hnot => ?_⟩
      · rcases hleft with hleft | hnow
        · exact fun h' => hsource hleft (h.element.source.symm.trans h')
        · exact (hlate hnow).2.2
      · obtain ⟨hs, hpaused⟩ := hunloaded fun hleft => hnot (.inl hleft)
        exact ⟨h.element.source.trans hs, h.element.paused hs hpaused⟩
    | clears h =>
      have hnot := not_isLeftover_concat hp h.later
      exact ⟨fun hleft => absurd hleft hnot, fun _ => ⟨h.source, h.paused⟩⟩
    | reserves h => exact absurd hnone h.asset
    | binds _ _ _ h => simp [h.asset] at hnone
    | fills _ _ _ asset _ h => simp [h.asset, asset] at hnone
    | late late binding _ source =>
      have hgen := (Slot.binding_eq_iff.mp binding).2.2.2
      have hleft := (isLeftover_concat_of_same hgen).mpr (.inr late)
      exact ⟨fun _ => source, fun hnot => absurd hleft hnot⟩

lemma Ordered.unloaded_iff (hp : p.Ordered) (hv : p.account.Vacant)
    (hstart : (p.slot i).asset = none → p.Unloaded i) (es : List Event)
    (gentle : ∀ e ∈ es, e.Gentle) (hnone : ((p.run es).slot i).asset = none) :
    (p.run es).Unloaded i ↔ ¬p.IsLeftover es i := by
  obtain ⟨hsource, hunloaded⟩ := hp.unloaded hv hstart es gentle hnone
  exact ⟨fun h hleft => hsource hleft h.source, hunloaded⟩

lemma Unloaded.of_slot {s : Slot} (h : p.slot i = s) (source : s.element.source = none)
    (paused : s.element.isPaused = true) : p.Unloaded i := by
  subst h
  exact ⟨source, paused⟩

lemma unloaded_reset (p : Pool) (i : Nat) : p.reset.Unloaded i ∧ (p.reset.slot i).asset = none := by
  by_cases hi : i < p.size
  · have hslot := p.slot_reset i
    rw [if_pos hi] at hslot
    exact ⟨.of_slot hslot rfl rfl, congrArg Slot.asset hslot⟩
  · have hslot : p.reset.slot i = {} := p.reset.slot_of_size_le (by simpa using hi)
    exact ⟨.of_slot hslot rfl rfl, congrArg Slot.asset hslot⟩

/-- **What is unbound is unloaded**, unless a load in advance starts late:

- a slot that nothing is bound to has an element without a source that stands still, unless a load
  in advance that lost the slot has started since the slot was bound or unbound last;
- after all slots were unbound, and until a slot is bound or unbound again, its element has no
  source unless such a load starts. -/
theorem unloaded_of_run (config : PoolConfig) (backend : Backend) :
    let c := Pool.new config backend
    (∀ es i, (∀ e ∈ es, e.Gentle) → ((c.run es).slot i).asset = none →
      ((c.run es).Unloaded i ↔ ¬c.Once es fun p e => e.StartsLate p i ∧
        (p.slot i).generation = ((c.run es).slot i).generation)) ∧
    ∀ es e es' i, e = .reset ∨ e = .dispose → (∀ e ∈ es', e.Gentle) →
      let p := c.run (es ++ [e])
      p.Unloaded i ∧ (((p.run es').slot i).generation = (p.slot i).generation →
        ((p.run es').Unloaded i ↔ ¬p.Once es' fun p e => e.StartsLate p i)) := by
  intro c
  have hc := Ordered.new config backend
  have hv := vacant_new config backend
  refine ⟨fun es i gentle hnone => ?_, fun es e es' i he gentle => ?_⟩
  · exact hc.unloaded_iff hv (fun _ => .of_slot (slot_new config backend i) rfl rfl) es gentle hnone
  · intro p
    have hp : p.Ordered := hc.run (es ++ [e])
    have hstart : p.Unloaded i ∧ (p.slot i).asset = none := by
      have hp : p = e.apply (c.run es) := c.run_concat es e
      rw [hp]
      rcases he with rfl | rfl
      · exact unloaded_reset _ i
      · obtain ⟨⟨hsource, hpaused⟩, hnone⟩ := unloaded_reset (c.run es) i
        exact ⟨⟨hsource, hpaused⟩, hnone⟩
    refine ⟨hstart.1, fun hgen => ?_⟩
    rw [hp.unloaded_iff (hc.vacant hv _) (fun _ => hstart.1) es' gentle
      ((hp.asset_eq es' hgen).trans hstart.2), hp.isLeftover_iff_of_same hgen]

/-- A shot is loaded in advance, and in the meantime everything is unbound. -/
def warmShot (e : Event) : List Event :=
  [.preload [⟨"shot"⟩] ⟨[(shot 0.0).asset]⟩, e]

lemma gentle_warmShot (t : TaskId) (a : Agenda) :
    ∀ e ∈ warmShot (.resume t) ++ [.reset, .schedule a, .resume t], e.Gentle := by
  simp [warmShot, Event.Gentle]

/-- A load that starts in time leaves nothing behind. -/
theorem unloaded_of_run_shot :
    let es := warmShot (.resume 1) ++ [.reset, .schedule { now := 20 }, .resume 1]
    let p := (single 20).run es
    (∀ e ∈ es, e.Gentle) ∧ (p.slot 0).asset = none ∧ p.Unloaded 0 ∧
      ¬(single 20).Once es fun q e => e.StartsLate q 0 ∧
        (q.slot 0).generation = (p.slot 0).generation := by
  have hgentle := gentle_warmShot 1 { now := 20 }
  have hasset : (((single 20).run (warmShot (.resume 1) ++
      [.reset, .schedule { now := 20 }, .resume 1])).slot 0).asset = none := by decide +kernel
  have hunloaded : ((single 20).run (warmShot (.resume 1) ++
      [.reset, .schedule { now := 20 }, .resume 1])).Unloaded 0 :=
    ⟨by decide +kernel, by decide +kernel⟩
  exact ⟨hgentle, hasset, hunloaded, ((unloaded_of_run { poolSize := 1 } { loadMs := 20 }).1 _ 0
    hgentle hasset).mp hunloaded⟩

/-- **A load that starts late**: the slot was unbound before its first turn, and after the load is
over its element has a source that nothing asks for. -/
theorem unbound_loaded :
    let es := warmShot .reset ++ [.resume 1, .schedule { now := 20 }, .resume 1]
    let p := (single 20).run es
    (∀ e ∈ es, e.Gentle) ∧ (p.slot 0).asset = none ∧ p.isFree 0 = true ∧
      (p.element 0).source = some "shot.mp4" ∧
      ∃ w, p.work = [(1, .warmup w .done)] := by
  refine ⟨?_, by decide +kernel, by decide +kernel, by decide +kernel, _, rfl⟩
  simp [warmShot, Event.Gentle]

end Pool

end Montage

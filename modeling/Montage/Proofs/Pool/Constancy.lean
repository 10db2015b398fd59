import Montage.Proofs.Pool.Answers
import Montage.Proofs.Pool.Sources

/-!
Pools with a past, and assets that stay what they are.

What is prepared has a source, unless somebody has taken it away from outside. When each asset has
one url, and from there it always loads or never does, then what is prepared can be loaded. So no
request for an asset that fails to load is ever served.
-/

namespace Montage

namespace Pool

variable {url : AssetId → String} {b : Backend} {p q : Pool} {e : Event} {i : Nat} {a : AssetId}

/-- The pool has come from a new one, and nobody has given its elements sources from outside. -/
def Gently (p : Pool) : Prop :=
  ∃ config backend es, p = (Pool.new config backend).run es ∧ ∀ e ∈ es, e.Gentle

namespace Gently

lemma event (h : p.Gently) (he : e.Gentle) : (e.apply p).Gently := by
  obtain ⟨config, backend, es, rfl, hes⟩ := h
  refine ⟨config, backend, es ++ [e], (run_concat _ es e).symm, fun e' he' => ?_⟩
  rcases List.mem_append.mp he' with he' | he'
  · exact hes e' he'
  · exact List.mem_singleton.mp he' ▸ he

lemma source (h : p.Gently) (hi : (p.slot i).prepared = true) : (p.element i).source ≠ none := by
  obtain ⟨config, backend, es, rfl, hes⟩ := h
  obtain ⟨a, u, -, hsource, -⟩ := (Ordered.new config backend).source_of_prepared
    (vacant_new config backend) (not_prepared_new config backend) es hes hi
  rw [hsource]
  exact Option.some_ne_none u

lemma carries (h : p.Gently) (hc : p.Carries q) : q.Gently := by
  induction hc with
  | refl => exact h
  | @beside q e _ he ih =>
    refine ih.event ?_
    cases e with
    | element => exact he.elim
    | _ => trivial
  | turn _ _ ih => exact ih.event (e := .resume .main) trivial

lemma answers {r : Request} {result : Except MediaError Handle} (h : p.Gently)
    (idle : p.work? .main = none) (ha : p.Answers r result q) : q.Gently := by
  obtain ⟨c, hcarries, hresult, rfl⟩ := ha
  have hcall := h.event (e := .call r) trivial
  simp only [Event.apply, idle, Option.isNone_none, if_true] at hcall
  have hcollect := ((hcall.carries hcarries).event (e := .resume .main) trivial).event
    (e := .collect .main) trivial
  have hover : (c.resume .main).isOver .main = true := by simp [isOver, hresult]
  simpa only [Event.apply, hover, if_true, collect] using hcollect

end Gently

/-- The event has each asset at its url, and the same assets load. -/
structure Event.KeepsTo (url : AssetId → String) (b : Backend) (e : Event) : Prop where
  gentle : e.Gentle
  offers : ∀ a u, e.Offers a u → u = url a
  fates : ∀ b', e = .backend b' → ∀ a, b'.refuses (url a) = b.refuses (url a)

/-- The pool has always had each asset at its url, and the same assets have always loaded. -/
def KeepsTo (url : AssetId → String) (b : Backend) (p : Pool) : Prop :=
  ∃ config es, p = (Pool.new config b).run es ∧ ∀ e ∈ es, e.KeepsTo url b

lemma Event.failing_apply (h : ∀ b', e ≠ .backend b') (p : Pool) :
    (e.apply p).backend.failing = p.backend.failing := by
  cases e with
  | backend b' => exact absurd rfl (h b')
  | resume t => exact (eases_resume p t).failing
  | preload upcoming assets => exact (eases_preload p upcoming assets).failing
  | call | collect =>
    simp only [apply]
    split <;> rfl
  | release =>
    simp only [apply, Pool.release]
    split <;> rfl
  | request | reset | dispose | pauseExcept | element | attend | schedule => rfl

namespace KeepsTo

lemma event (h : p.KeepsTo url b) (he : e.KeepsTo url b) : (e.apply p).KeepsTo url b := by
  obtain ⟨config, es, rfl, hes⟩ := h
  refine ⟨config, es ++ [e], (run_concat _ es e).symm, fun e' he' => ?_⟩
  rcases List.mem_append.mp he' with he' | he'
  · exact hes e' he'
  · exact List.mem_singleton.mp he' ▸ he

lemma refuses (h : p.KeepsTo url b) (a : AssetId) :
    p.backend.refuses (url a) = b.refuses (url a) := by
  obtain ⟨config, es, rfl, hes⟩ := h
  induction es using List.reverseRecOn with
  | nil => rfl
  | append_singleton es e ih =>
    have hlast := hes e (List.mem_append_right _ (List.mem_singleton_self e))
    rw [run_concat]
    by_cases hb : ∃ b', e = .backend b'
    · obtain ⟨b', rfl⟩ := hb
      exact hlast.fates b' rfl a
    · rw [Backend.refuses, Event.failing_apply fun b' hb' => hb ⟨b', hb'⟩]
      exact ih fun e he => hes e (List.mem_append_left _ he)

lemma obeys (h : p.KeepsTo url b) : p.Obeys fun _ _ a u => u = url a := by
  obtain ⟨config, es, rfl, hes⟩ := h
  exact (obeys_new config b).run (Ordered.new config b) (vacant_new config b) es
    (fun e he => (hes e he).gentle) fun e he a u ho _ _ _ => (hes e he).offers a u ho

/-- Nothing is prepared that cannot be loaded. -/
lemma not_refuses (h : p.KeepsTo url b) (hs : p.Shows i a) : b.refuses (url a) = false := by
  obtain ⟨config, es, rfl, hes⟩ := h
  induction es using List.reverseRecOn with
  | nil =>
    have hprep := not_prepared_new config b i
    rw [show ((Pool.new config b).slot i).prepared = true from hs.1] at hprep
    cases hprep
  | append_singleton es e ih =>
    have hbefore := fun e he => hes e (List.mem_append_left _ he)
    have hkeeps : ((Pool.new config b).run es).KeepsTo url b := ⟨config, es, rfl, hbefore⟩
    have hturns := e.turns ((Ordered.new config b).run es)
      ((Ordered.new config b).vacant (vacant_new config b) es)
      (hes e (List.mem_append_right _ (List.mem_singleton_self e))).gentle i
    rw [run_concat] at hs
    cases hturns with
    | keeps h => exact ih hbefore ⟨h.prepared.symm.trans hs.1, h.asset.symm.trans hs.2⟩
    | clears h => cases h.asset.symm.trans hs.2
    | reserves h => cases h.prepared.symm.trans hs.1
    | @binds t r stage _ work live h =>
      obtain rfl : r.asset.id = a := Option.some.inj (h.asset.symm.trans hs.2)
      have hloaded := h.loaded hs.1
      rw [hkeeps.obeys.asks t r stage work live i _ h.later] at hloaded
      exact (hkeeps.refuses _).symm.trans hloaded
    | @fills t w _ work stake asset empty h =>
      obtain rfl : w.asset = a :=
        Option.some.inj (asset.symm.trans (h.asset.symm.trans hs.2))
      have hloaded := (h.loaded hs.1).resolve_left (by simp [empty])
      rw [hkeeps.obeys.loads t w i _ work stake] at hloaded
      exact (hkeeps.refuses _).symm.trans hloaded
    | late _ binding unbound _ =>
      have hasset := (Slot.binding_eq_iff.mp binding).1.trans unbound
      cases hasset.symm.trans hs.2

/-- **What is shown** plays the url of its asset. -/
lemma source (h : p.KeepsTo url b) (hs : p.Shows i a) :
    (p.element i).source = some (url a) := by
  obtain ⟨a', u, ha', hsource, rfl⟩ := h.obeys.slots i hs.1
  obtain rfl : a = a' := Option.some.inj (hs.2.symm.trans ha')
  exact hsource

lemma carries (h : p.KeepsTo url b) (hc : p.Carries q) : q.KeepsTo url b := by
  induction hc with
  | refl => exact h
  | @beside q e _ he ih =>
    refine ih.event ?_
    cases e with
    | resume | schedule => exact ⟨trivial, fun _ _ ho => ho.elim, fun _ hb => by cases hb⟩
    | backend b' =>
      refine ⟨trivial, fun _ _ ho => ho.elim, fun b'' hb a => ?_⟩
      cases hb
      have hfailing : b'.failing = q.backend.failing := he
      rw [← ih.refuses a, Backend.refuses, hfailing]
      rfl
    | _ => exact he.elim
  | turn _ _ ih =>
    exact ih.event (e := .resume .main) ⟨trivial, fun _ _ ho => ho.elim, fun _ hb => by cases hb⟩

lemma answers {r : Request} {result : Except MediaError Handle} (h : p.KeepsTo url b)
    (idle : p.work? .main = none) (offer : r.asset.url = url r.asset.id)
    (ha : p.Answers r result q) : q.KeepsTo url b := by
  obtain ⟨c, hcarries, hresult, rfl⟩ := ha
  have hcall := h.event (e := .call r)
    ⟨trivial, fun a u ho => ho.2.symm.trans (offer.trans (congrArg url ho.1)),
      fun _ hb => by cases hb⟩
  simp only [Event.apply, idle, Option.isNone_none, if_true] at hcall
  have hresume := (hcall.carries hcarries).event (e := .resume .main)
    ⟨trivial, fun _ _ ho => ho.elim, fun _ hb => by cases hb⟩
  have hcollect := hresume.event (e := .collect .main)
    ⟨trivial, fun _ _ ho => ho.elim, fun _ hb => by cases hb⟩
  have hover : (c.resume .main).isOver .main = true := by simp [isOver, hresult]
  simpa only [Event.apply, hover, if_true, collect] using hcollect

end KeepsTo

end Pool

end Montage

import Montage.Proofs.Pool.Takings

/-!
What stays in a pool while requests are made of it once more.

Some slots have been given out before, and now the main task asks again for what they show, among
other things, and pins what it gets. Only a request whose asset fails to load takes one of them
away. Before that, the slots are all there, or those that are left are pinned. After it nothing is
bound to the slot, so that it is taken before any other, whether for its own asset or for one that
fails to load as well.
-/

namespace Montage

namespace Pool

open Request

variable {base p q : Pool} {r : Request} {result : Except MediaError Handle} {own pinned : List Nat}
  {lost : Nat → Prop} {i j k : Nat} {a : AssetId}

/-! ### Slots that are taken -/

lemma Alone.shows (h : p.Alone) (idle : p.work? .main = none) (hi : p.IsOpen i)
    (ha : (p.slot i).asset = some a) : p.Shows i a := by
  refine ⟨h.prepared_of_isOpen hi (fun g b hs => ?_) (by simp [ha]), ha⟩
  rw [stake_of_none idle] at hs
  cases hs

/-- A request takes a slot that shows something else. -/
structure Ousts (p q : Pool) (r : Request) (result : Except MediaError Handle) (i : Nat) :
    Prop where
  taken : ¬p.SameAt q i
  unpinned : i ∉ r.pinned
  unshown : ∀ k, ¬p.Shows k r.asset.id
  oldest : ∀ k, k < p.size → k ∉ r.pinned → p.isFree k = true →
    (p.slot i).lastUsed ≤ (p.slot k).lastUsed
  others : ∀ k ≠ i, p.IsOpen k → p.SameAt q k
  result : (∃ stale, result = .ok ⟨r.asset.id, i, stale⟩) ∧
      p.backend.refuses r.asset.url = false ∨
    ∃ reason, result = .error (.loadFailed r.asset.url reason)

section Answered

variable (h : p.Answers r result q) (hp : p.Alone) (idle : p.work? .main = none)

include h hp idle

lemma Answers.kept (hs : p.Shows i a) : p.SameAt q i ∨ p.Ousts q r result i := by
  by_cases hsame : p.SameAt q i
  · exact .inl hsame
  · obtain ⟨⟨hsince, -⟩, -⟩ := h.since hp idle
    obtain ⟨others, hresult⟩ := h.takes hp idle (hp.isOpen_of_prepared hs.1) hsame
    cases hsince.fate i with
    | stays hstays => exact absurd (.of_binding hstays.binding) hsame
    | lands _ binding _ => exact absurd (.of_binding binding) hsame
    | loads empty => simp [hs.1] at empty
    | takes _ hpin unshown oldest => exact .inr ⟨hsame, hpin, unshown, oldest, others, hresult⟩

lemma Answers.gives (hs : p.Shows i r.asset.id) (named : r.asset.url.isEmpty = false)
    (other : result ≠ .error .disposed) : ∃ stale, result = .ok ⟨r.asset.id, i, stale⟩ := by
  obtain ⟨⟨hsince, -⟩, hverdict, -⟩ := h.since hp idle
  have hshows : q.Shows i r.asset.id := hsince.shows hs (.inr rfl)
  cases hverdict with
  | @served j stale shows =>
    obtain rfl : j = i := hsince.alone.ordered.good.tidy.distinct shows.2 hshows.2
    exact ⟨stale, rfl⟩
  | missing empty => simp [named] at empty
  | disposed => exact absurd rfl other
  | exhausted unbound | failed unbound => exact absurd hshows.2 (unbound i)

lemma Answers.unbound_of_failed {reason : String} (taken : ¬p.SameAt q i)
    (failed : result = .error (.loadFailed r.asset.url reason)) : (q.slot i).asset = none := by
  obtain ⟨⟨hsince, -⟩, hverdict, -⟩ := h.since hp idle
  subst failed
  cases hverdict with
  | failed unbound =>
    rcases hsince.rebound i with hsame | hasset | hnone
    · exact absurd hsame taken
    · exact absurd hasset (unbound i)
    · exact hnone

end Answered

/-! ### Slots that are kept -/

/-- The slot is as it was at first, or a pinned slot shows what it showed then. -/
inductive Safe (base p : Pool) (pinned : List Nat) (i : Nat) : Prop
  | stays (same : base.SameAt p i)
  | settled {j : Nat} {a : AssetId} (asset : (base.slot i).asset = some a) (hj : j ∈ pinned)
      (shows : p.Shows j a)

/-- Why no slot will be lost but to an asset that fails to load. -/
inductive Secure (base : Pool) (own : List Nat) (lost : Nat → Prop) (p : Pool)
    (pinned : List Nat) : Prop
  | firm (all : ∀ i ∈ own, i ∈ pinned ∨ lost i)
  | whole (all : ∀ i ∈ own, base.Safe p pinned i)
  | gap {i j : Nat} (others : ∀ k ∈ own, k ≠ i → base.Safe p pinned k)
      (lt : j < p.size) (hj : j ∉ pinned) (hopen : p.IsOpen j) (unbound : (p.slot j).asset = none)

/-- Some slots of the pool are as they were at first, apart from those that have been lost. -/
structure Keeps (base : Pool) (own : List Nat) (lost : Nat → Prop) (p : Pool)
    (pinned : List Nat) : Prop where
  opens : ∀ i ∈ own, p.IsOpen i
  bound : ∀ i ∈ own, (base.slot i).asset ≠ none
  kept : ∀ i ∈ own, base.SameAt p i ∨ lost i
  secure : base.Secure own lost p pinned

/-- What is pinned after a request. -/
def pinnedBy (pinned : List Nat) : Except MediaError Handle → List Nat
  | .ok h => h.slot :: pinned
  | .error _ => pinned

lemma mem_pinnedBy (hi : i ∈ pinned) : i ∈ pinnedBy pinned result := by
  cases result with
  | ok => exact List.mem_cons_of_mem _ hi
  | error => exact hi

/-- The asset of the request is that of a slot at first, or cannot be loaded. -/
inductive Recalls (base : Pool) (own : List Nat) (p : Pool) (r : Request) : Prop
  | known {i : Nat} (hi : i ∈ own) (asset : (base.slot i).asset = some r.asset.id)
  | refused (refuses : p.backend.refuses r.asset.url = true)

section Answered

variable (h : p.Answers r result q) (hp : p.Alone) (idle : p.work? .main = none)

include h hp idle

/-- A slot that nothing is bound to is left so, or taken for an asset that can be loaded. -/
lemma Answers.gap (hj : j ∉ r.pinned) (hopen : p.IsOpen j) (unbound : (p.slot j).asset = none) :
    (q.slot j).asset = none ∧ j ∉ pinnedBy r.pinned result ∨
      (∃ stale, result = .ok ⟨r.asset.id, j, stale⟩) ∧ p.backend.refuses r.asset.url = false := by
  obtain ⟨⟨hsince, -⟩, hverdict, -⟩ := h.since hp idle
  have hpinned (hnone : (q.slot j).asset = none) : j ∉ pinnedBy r.pinned result := by
    cases hverdict with
    | served shows =>
      rintro (_ | ⟨_, hmem⟩)
      · simp [shows.2] at hnone
      · exact hj hmem
    | missing | disposed | exhausted | failed => exact hj
  by_cases hsame : p.SameAt q j
  · have hnone := hsame.2.trans unbound
    exact .inl ⟨hnone, hpinned hnone⟩
  · obtain ⟨-, hgood | ⟨reason, hfailed⟩⟩ := h.takes hp idle hopen hsame
    · exact .inr hgood
    · have hnone := h.unbound_of_failed hp idle hsame hfailed
      exact .inl ⟨hnone, hpinned hnone⟩

end Answered

section Asked

variable (h : p.Answers r result q) (hp : p.Alone) (idle : p.work? .main = none)
  (hkeeps : base.Keeps own lost p r.pinned)

include hp idle hkeeps

lemma Keeps.shows (hi : i ∈ own) (hsame : base.SameAt p i) (ha : (base.slot i).asset = some a) :
    p.Shows i a :=
  hp.shows idle (hkeeps.opens i hi) (hsame.2.trans ha)

lemma Keeps.shows_safe (hi : i ∈ own) (hsafe : base.Safe p r.pinned i)
    (ha : (base.slot i).asset = some a) : ∃ k, p.Shows k a := by
  cases hsafe with
  | stays same => exact ⟨i, hkeeps.shows hp idle hi same ha⟩
  | @settled j b asset _ hs =>
    obtain rfl : a = b := Option.some.inj (ha.symm.trans asset)
    exact ⟨j, hs⟩

lemma Keeps.not_ousts (hi : i ∈ own) (hsame : base.SameAt p i) (lt : j < p.size)
    (hj : j ∉ r.pinned) (hopen : p.IsOpen j) (unbound : (p.slot j).asset = none) :
    ¬p.Ousts q r result i := by
  intro hout
  have hstake : (p.stake .main).lock? = none := by
    rw [stake_of_none idle]
    rfl
  have hold := hout.oldest j lt hj (hp.isFree_of_isOpen hstake hopen)
  have hsound := hp.ordered.good.tidy.sound
  have hzero : (p.slot j).lastUsed = 0 := (hsound j).asset_eq_none_iff.mp unbound
  have hnone : (p.slot i).asset = none :=
    (hsound i).asset_eq_none_iff.mpr (Nat.le_zero.mp (hzero ▸ hold))
  exact hkeeps.bound i hi (hsame.2.symm.trans hnone)

/-- A slot is taken for an asset that fails to load, when those of all other slots are shown. -/
lemma Keeps.fails (hrecalls : base.Recalls own p r)
    (all : ∀ i ∈ own, base.Safe p r.pinned i)
    (hout : p.Ousts q r result i) : ∃ reason, result = .error (.loadFailed r.asset.url reason) := by
  cases hrecalls with
  | known hk asset =>
    obtain ⟨m, hs⟩ := hkeeps.shows_safe hp idle hk (all _ hk) asset
    exact absurd hs (hout.unshown m)
  | refused refuses =>
    rcases hout.result with ⟨-, hgood⟩ | hfailed
    · simp [refuses] at hgood
    · exact hfailed

include h

lemma Keeps.kept_or_ousts (hi : i ∈ own) (hsame : base.SameAt p i) :
    base.SameAt q i ∨ p.Ousts q r result i := by
  obtain ⟨a, ha⟩ := Option.ne_none_iff_exists'.mp (hkeeps.bound i hi)
  exact (h.kept hp idle (hkeeps.shows hp idle hi hsame ha)).imp_left hsame.trans

lemma Keeps.opens_asked (hi : i ∈ own) : q.IsOpen i := by
  obtain ⟨⟨hsince, -⟩, -⟩ := h.since hp idle
  exact hsince.opens i (hkeeps.opens i hi)

lemma Keeps.safe_or_ousts (hi : i ∈ own) (hsafe : base.Safe p r.pinned i) :
    base.Safe q (pinnedBy r.pinned result) i ∨ base.SameAt p i ∧ p.Ousts q r result i := by
  cases hsafe with
  | stays same =>
    exact (hkeeps.kept_or_ousts h hp idle hi same).imp .stays fun hout => ⟨same, hout⟩
  | settled asset hj hs =>
    obtain ⟨⟨hsince, -⟩, -⟩ := h.since hp idle
    exact .inl (.settled asset (mem_pinnedBy hj) (hsince.shows hs (.inl hj)))

lemma Keeps.step_firm {lost' : Nat → Prop} (all : ∀ i ∈ own, i ∈ r.pinned ∨ lost i)
    (mono : ∀ i, lost i → lost' i) : base.Keeps own lost' q (pinnedBy r.pinned result) where
  opens i hi := hkeeps.opens_asked h hp idle hi
  bound := hkeeps.bound
  kept i hi := by
    rcases hkeeps.kept i hi with hsame | hlost
    · refine (hkeeps.kept_or_ousts h hp idle hi hsame).imp_right fun hout => ?_
      exact mono i ((all i hi).resolve_left hout.unpinned)
    · exact .inr (mono i hlost)
  secure := .firm fun i hi => (all i hi).imp mem_pinnedBy (mono i)

/-- Once a slot is taken for an asset that fails to load, nothing is bound to it. -/
lemma Keeps.secure_ousts {lost' : Nat → Prop}
    (all : ∀ i ∈ own, base.Safe p r.pinned i)
    (hi : i ∈ own) (hsame : base.SameAt p i) (hout : p.Ousts q r result i) {reason : String}
    (failed : result = .error (.loadFailed r.asset.url reason)) :
    base.Secure own lost' q (pinnedBy r.pinned result) := by
  obtain ⟨⟨hsince, -⟩, -⟩ := h.since hp idle
  obtain ⟨a, ha⟩ := Option.ne_none_iff_exists'.mp (hkeeps.bound i hi)
  refine .gap (i := i) (j := i) (fun k hk hne => ?_) ?_ ?_ (hkeeps.opens_asked h hp idle hi)
    (h.unbound_of_failed hp idle hout.taken failed)
  · refine (hkeeps.safe_or_ousts h hp idle hk (all k hk)).resolve_right fun hk' => ?_
    exact hk'.2.taken (hout.others k hne (hkeeps.opens k hk))
  · rw [hsince.size]
    exact p.lt_size_of_asset (hsame.2.trans ha)
  · subst failed
    exact hout.unpinned

/-- A slot that nothing was bound to has been taken for the one asset that was missing. -/
lemma Keeps.secure_refilled {lost' : Nat → Prop} {m : Nat} {stale : Bool}
    (hrecalls : base.Recalls own p r)
    (others : ∀ k ∈ own, k ≠ m → base.Safe p r.pinned k)
    (stay : ∀ k ∈ own, k ≠ m → base.Safe q (pinnedBy r.pinned result) k)
    (unbound : (p.slot j).asset = none) (given : result = .ok ⟨r.asset.id, j, stale⟩)
    (good : p.backend.refuses r.asset.url = false) :
    base.Secure own lost' q (pinnedBy r.pinned result) := by
  obtain ⟨⟨hsince, -⟩, -⟩ := h.since hp idle
  subst given
  have hs : q.Shows j r.asset.id := h.shows hp idle
  cases hrecalls with
  | refused refuses => simp [refuses] at good
  | @known i hi asset =>
    refine .whole fun k hk => ?_
    by_cases hkm : k = m
    · by_cases hki : k = i
      · subst hki
        exact .settled asset List.mem_cons_self hs
      · obtain ⟨n, hn⟩ := hkeeps.shows_safe hp idle hi (others i hi (hkm ▸ Ne.symm hki)) asset
        -- The asset would have had a slot before.
        obtain rfl : n = j := hsince.alone.ordered.good.tidy.distinct
          (hsince.shows hn (.inr rfl)).2 hs.2
        simp [hn.2] at unbound
    · exact stay k hk hkm

/-- **What a request leaves** of the slots. One of them is lost only to an asset that fails to
load. -/
theorem Keeps.step {lost' : Nat → Prop} (hrecalls : base.Recalls own p r)
    (mono : ∀ i, lost i → lost' i)
    (loses : ∀ i ∈ own, base.SameAt p i → p.Ousts q r result i →
      ∀ reason, result = .error (.loadFailed r.asset.url reason) → lost' i) :
    base.Keeps own lost' q (pinnedBy r.pinned result) := by
  cases hkeeps.secure with
  | firm all => exact hkeeps.step_firm h hp idle all mono
  | whole all =>
    refine ⟨fun i hi => hkeeps.opens_asked h hp idle hi, hkeeps.bound, fun i hi => ?_, ?_⟩
    · rcases hkeeps.kept i hi with hsame | hlost
      · refine (hkeeps.kept_or_ousts h hp idle hi hsame).imp_right fun hout => ?_
        obtain ⟨reason, hfailed⟩ := hkeeps.fails hp idle hrecalls all hout
        exact loses i hi hsame hout reason hfailed
      · exact .inr (mono i hlost)
    · by_cases hex : ∃ i ∈ own, base.SameAt p i ∧ p.Ousts q r result i
      · obtain ⟨i, hi, hsame, hout⟩ := hex
        obtain ⟨reason, hfailed⟩ := hkeeps.fails hp idle hrecalls all hout
        exact hkeeps.secure_ousts h hp idle all hi hsame hout hfailed
      · refine .whole fun i hi => ?_
        exact (hkeeps.safe_or_ousts h hp idle hi (all i hi)).resolve_right fun hout =>
          hex ⟨i, hi, hout⟩
  | @gap m j others lt hj hopen unbound =>
    have hout : ∀ i ∈ own, base.SameAt p i → ¬p.Ousts q r result i := fun i hi hsame =>
      hkeeps.not_ousts hp idle hi hsame lt hj hopen unbound
    have hstay : ∀ k ∈ own, k ≠ m → base.Safe q (pinnedBy r.pinned result) k := fun k hk hne =>
      (hkeeps.safe_or_ousts h hp idle hk (others k hk hne)).resolve_right fun hk' =>
        hout k hk hk'.1 hk'.2
    refine ⟨fun i hi => hkeeps.opens_asked h hp idle hi, hkeeps.bound, fun i hi => ?_, ?_⟩
    · rcases hkeeps.kept i hi with hsame | hlost
      · exact .inl ((hkeeps.kept_or_ousts h hp idle hi hsame).resolve_right (hout i hi hsame))
      · exact .inr (mono i hlost)
    · obtain ⟨⟨hsince, -⟩, -⟩ := h.since hp idle
      rcases h.gap hp idle hj hopen unbound with ⟨hnone, hpin⟩ | ⟨⟨stale, hgiven⟩, good⟩
      · exact .gap hstay (hsince.size ▸ lt) hpin (hsince.opens j hopen) hnone
      · exact hkeeps.secure_refilled h hp idle hrecalls others hstay unbound hgiven good

end Asked

/-- What an element does is no matter. -/
lemma Keeps.modifyElement (h : base.Keeps own lost p pinned) (i : Nat) (f : Element → Element) :
    base.Keeps own lost (p.modifyElement i f) pinned := by
  have hagrees := p.agrees_modifyElement i f
  have hsame : ∀ k, p.SameAt (p.modifyElement i f) k := fun k => .of_binding (hagrees.binding k)
  have hopens : ∀ k, p.IsOpen k → (p.modifyElement i f).IsOpen k := by
    intro k hk
    rw [IsOpen, slot_modifyElement]
    split <;> exact hk
  have hsafe : ∀ k, base.Safe p pinned k → base.Safe (p.modifyElement i f) pinned k := by
    intro k hk
    cases hk with
    | stays same => exact .stays (same.trans (hsame k))
    | settled asset hj hs => exact .settled asset hj (hs.of_binding (hagrees.binding _))
  refine ⟨fun k hk => hopens k (h.opens k hk), h.bound,
    fun k hk => (h.kept k hk).imp_left fun same => same.trans (hsame k), ?_⟩
  cases h.secure with
  | firm all => exact .firm all
  | whole all => exact .whole fun k hk => hsafe k (all k hk)
  | gap others lt hj hopen unbound =>
    exact .gap (fun k hk hne => hsafe k (others k hk hne)) (hagrees.size ▸ lt) hj
      (hopens _ hopen) ((hsame _).2.trans unbound)

end Pool

end Montage

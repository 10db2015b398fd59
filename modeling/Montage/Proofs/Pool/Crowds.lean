import Mathlib.Data.Finset.Card
import Montage.Proofs.Pool.Queues

/-!
How many requests it takes until one is abandoned.

A turn comes to nothing only if every slot has somebody who works on it or is next in line, and
one more waits. All of these are under way at once, and somebody was done before them, or else
nobody would have had a turn.
-/

namespace Montage

lemma Request.Stage.waits_of_stake {r : Request} {stage : Request.Stage} {i : Nat} {k : Option Nat}
    (h : stage.stake r = .queued i k) : stage.waits = true := by
  cases stage with
  | queued => rfl
  | _ => cases h

namespace Pool

variable {p q : Pool} {t u : TaskId} {r : Request} {stage : Request.Stage} {as : List AssetId}
  {i n c : Nat}

/-- Under the task there is a request that is not over. -/
def isUnderWay (p : Pool) (t : TaskId) : Bool :=
  match p.work? t with
  | some (.request _ (.done _)) => false
  | some (.request ..) => true
  | _ => false

/-- The tasks whose requests are not over. -/
def underWay (p : Pool) : Finset TaskId :=
  (Finset.range (p.agenda.started + 1)).filter fun t => p.isUnderWay t

lemma isUnderWay_iff : p.isUnderWay t = true ↔
    ∃ r stage, p.work? t = some (.request r stage) ∧ ∀ result, stage ≠ .done result := by
  unfold isUnderWay
  rcases hw : p.work? t with _ | ⟨r, stage⟩ | ⟨w, stage⟩
  · simp
  · cases stage <;> simp
  · simp

lemma mem_underWay (hp : p.Ordered) : t ∈ p.underWay ↔ p.isUnderWay t = true := by
  rw [underWay, Finset.mem_filter, Finset.mem_range, and_iff_right_of_imp]
  intro h
  obtain ⟨r, stage, hw, -⟩ := isUnderWay_iff.mp h
  by_contra hlt
  have hnone := hp.work?_eq_none (Nat.lt_of_lt_of_le (Nat.lt_succ_self _) (Nat.not_lt.mp hlt))
  simp [hnone] at hw

lemma Contested.underWay_of_lock (h : Contested as p) (ht : (p.stake t).lock? = some i) :
    t ∈ p.underWay := by
  rw [mem_underWay h.ordered, isUnderWay_iff]
  rcases hw : p.work? t with _ | w
  · rw [stake_of_none hw] at ht
    cases ht
  · obtain ⟨r, stage, rfl, -⟩ := h.requests t w hw
    refine ⟨r, stage, rfl, ?_⟩
    rintro result rfl
    rw [stake_of_work? hw] at ht
    cases ht

/-- Slots that are taken have a holder each. -/
lemma Contested.exists_holders (h : Contested as p)
    (hbusy : ∀ j, j < p.size → p.isFree j = false) : ∃ holders ⊆ p.underWay,
      holders.card = p.size ∧ ∀ v ∈ holders, ∃ j, (p.slot j).lock.holder = some v := by
  have hholder : ∀ j, j < p.size → ∃ v, (p.slot j).lock.holder = some v := by
    intro j hj
    rw [← Option.isSome_iff_exists, Option.isSome_iff_ne_none, ne_eq, ← isFree_iff]
    simp [hbusy j hj]
  choose! holder hholder using hholder
  have hlock : ∀ j, j < p.size → (p.stake (holder j)).lock? = some j := fun j hj =>
    h.ordered.good.fair.mem.mp (List.mem_append_left _ (by simp [account, hholder j hj]))
  have hinj : Set.InjOn holder (Finset.range p.size) := by
    intro j hj k hk hjk
    have hj := hlock j (Finset.mem_range.mp hj)
    rw [hjk, hlock k (Finset.mem_range.mp hk)] at hj
    exact (Option.some.inj hj).symm
  refine ⟨(Finset.range p.size).image holder, fun v hv => ?_, ?_, fun v hv => ?_⟩
  · obtain ⟨j, hj, rfl⟩ := Finset.mem_image.mp hv
    exact h.underWay_of_lock (hlock j (Finset.mem_range.mp hj))
  · rw [Finset.card_image_of_injOn hinj, Finset.card_range]
  · obtain ⟨j, hj, rfl⟩ := Finset.mem_image.mp hv
    exact ⟨j, hholder j (Finset.mem_range.mp hj)⟩

lemma Contested.crowded (h : Contested as p) (hbusy : ∀ j, j < p.size → p.isFree j = false)
    (hu : u ∈ (p.slot i).lock.waiting) : p.size + 1 ≤ p.underWay.card := by
  have hfair := h.ordered.good.fair
  obtain ⟨holders, hsub, hcard, hholder⟩ := h.exists_holders hbusy
  have huLock : (p.stake u).lock? = some i := hfair.mem.mp (List.mem_append_right _ hu)
  have hnot : u ∉ holders := by
    intro hmem
    obtain ⟨j, hj⟩ := hholder u hmem
    have hjLock : (p.stake u).lock? = some j :=
      hfair.mem.mp (List.mem_append_left _ (by simp [account, hj]))
    obtain rfl : j = i := Option.some.inj (hjLock.symm.trans huLock)
    have hnodup := hfair.nodup j
    rw [Lock.tasks, show (p.account.pool.slot j).lock.holder = some u from hj,
      Option.toList_some, List.singleton_append, List.nodup_cons] at hnodup
    exact hnodup.1 hu
  have hle := Finset.card_le_card
    (Finset.insert_subset (h.underWay_of_lock huLock) hsub)
  rwa [Finset.card_insert_of_notMem hnot, hcard] at hle

/-- A request has been handed the lock that it waited for. -/
def Handed (p : Pool) : Prop := ∃ t i k, p.stake t = .queued i k ∧ p.holds i t = true

/-- Whoever holds the lock of a slot after a step that leaves the request under way has held it
before, unless it is the request itself. -/
lemma Round.holds {out : Pool × Request.Stage} (h : Round t r p stage out)
    (hturn : ∀ i n, stage = .queued i none n → p.holds i t = false)
    (hlive : ∀ result, out.2 ≠ .done result) {j : Nat} {v : TaskId} (hv : out.1.holds j v = true) :
    p.holds j v = true ∨ v = t ∧ out.2.waits = false := by
  have hlock : ∀ {q q' : Pool}, (∀ l, (q'.slot l).lock = (q.slot l).lock) →
      q'.holds j v = true → q.holds j v = true := by
    intro q q' hq hq'
    rwa [holds_iff, hq, ← holds_iff] at hq'
  have hseeks : ∀ {q i g}, r.Seeks q i g out → q.holds j v = true := by
    intro q i g hs
    cases hs with
    | waits tame => exact hlock tame.lock hv
    | ends => exact absurd rfl (hlive _)
    | lost => exact absurd rfl (hlive _)
  have hloads : ∀ {q i g due}, r.Loads q i g due out → q.holds j v = true := by
    intro q i g due hl
    cases hl with
    | waits => exact hv
    | lost => exact absurd rfl (hlive _)
    | fails => exact absurd rfl (hlive _)
    | loads _ _ _ seeks =>
      refine hlock (fun l => ?_) (hseeks seeks)
      rw [slot_modifySlot]
      split <;> rfl
  cases h with
  | refused => exact absurd rfl (hlive _)
  | starts competes =>
    cases competes with
    | @binds i q free lt tame had loads =>
      have hq := hlock tame.lock (hloads loads)
      rw [holds_iff, slot_begun] at hq
      split at hq
      · exact .inr ⟨(Option.some.inj hq).symm, (loads.ended had).1⟩
      · exact .inl (holds_iff.mpr hq)
    | @waits i busy oldest eq =>
      subst eq
      rw [holds_iff, slot_enqueue] at hv
      refine .inl (holds_iff.mpr ?_)
      split at hv <;> exact hv
  | stays => exact .inl hv
  | again holds => simp [hturn _ _ rfl] at holds
  | spent => exact absurd rfl (hlive _)
  | loads _ loads => exact .inl (hloads loads)
  | seeks _ seeks => exact .inl (hseeks seeks)

/-- What few requests keep to themselves: there is a slot for each of them but the one that is done
or still waits for its first turn. -/
structure Roomy (calls : Nat) (p : Pool) : Prop where
  count : p.underWay.card ≤ calls
  handed : p.Handed → p.underWay.card + 1 ≤ calls
  first : ∀ t r i k n, p.work? t = some (.request r (.queued i k n)) → n = 3
  kept : ∀ t a, p.result? t ≠ some (.error (.abandoned a))

/-- Nobody has a turn for the first time unless somebody is done. -/
lemma Contested.handed_of_resume (h : Contested as p)
    (hw : p.work? t = some (.request r stage)) (hs : ∀ result, stage ≠ .done result)
    (hlive : ∀ result, (r.poll t p stage).2 ≠ .done result) (hq : (p.resume t).Handed) :
    p.Handed := by
  by_contra hnot
  have hturn : ∀ i n, stage = .queued i none n → p.holds i t = false := by
    intro i n hi
    by_contra hc
    exact hnot ⟨t, i, none, by rw [stake_of_work? hw, hi]; rfl, by simpa using hc⟩
  obtain ⟨v, j, k, hstake, hv⟩ := hq
  have hslot : (p.resume t).slot j = (r.poll t p stage).1.slot j := slot_resume hw j
  have hv' : (r.poll t p stage).1.holds j v = true := by
    rwa [holds_iff, hslot, ← holds_iff] at hv
  have hnow : (p.resume t).work? t = some (.request r (r.poll t p stage).2) :=
    work?_resume hw (work_poll h.ordered hw)
  have hround := (h.round hw hs).holds hturn hlive hv'
  by_cases hvt : v = t
  · subst hvt
    have hwaits : (r.poll v p stage).2.waits = true := by
      rw [stake_of_work? hnow] at hstake
      exact Request.Stage.waits_of_stake hstake
    have hold : p.holds j v = true := by simpa [hwaits] using hround
    have hlock : (p.stake v).lock? = some j := by
      refine h.ordered.good.fair.mem.mp (List.mem_append_left _ ?_)
      rw [show (p.account.pool.slot j).lock.holder = some v from holds_iff.mp hold]
      exact List.mem_singleton_self v
    rw [stake_of_work? hw] at hlock
    cases stage with
    | unstarted => cases hlock
    | queued i k n =>
      cases hlock
      obtain rfl := (h.competitor hw).anew _ _ _ rfl
      simp [hturn _ _ rfl] at hold
    | _ => cases h.waited hw hwaits
  · refine hnot ⟨v, j, k, ?_, by simpa [hvt] using hround⟩
    rw [← hstake]
    exact (stake_congr (work?_resume_of_ne hw (work_poll h.ordered hw) hvt)).symm

lemma underWay_subset (hp : p.Ordered) (hq : q.Ordered)
    (h : ∀ u, q.isUnderWay u = true → p.isUnderWay u = true) : q.underWay ⊆ p.underWay :=
  fun u hu => (mem_underWay hp).mpr (h u ((mem_underWay hq).mp hu))

lemma Roomy.congr (h : Roomy c p) (hp : p.Ordered) (hq : q.Ordered)
    (hw : ∀ u, q.work? u = p.work? u) (hh : ∀ j u, q.holds j u = p.holds j u) : Roomy c q := by
  have hle : q.underWay.card ≤ p.underWay.card := by
    refine Finset.card_le_card (underWay_subset hp hq fun u hu => ?_)
    rwa [isUnderWay, ← hw]
  refine ⟨hle.trans h.count, fun ⟨u, i, k, hs, hi⟩ => ?_, fun u r i k n hu => ?_, fun u a hu => ?_⟩
  · have hp := h.handed ⟨u, i, k, (stake_congr (hw u)) ▸ hs, hh i u ▸ hi⟩
    omega
  · exact h.first u r i k n (hw u ▸ hu)
  · refine h.kept u a ?_
    rwa [result?, ← hw]

/-- Few requests cannot keep one another from a slot. -/
lemma Contested.binds_turn {k : Option Nat} (h : Contested as p) (hr : Roomy c p)
    (hc : c ≤ p.size + 1) (hw : p.work? t = some (.request r (.queued i k (n + 1))))
    (holds : p.holds i t = true) :
    (r.poll t p (.queued i k (n + 1))).2.waits = false := by
  have hcompetes := h.competes hw holds
  obtain ⟨out, hout⟩ : ∃ out, r.poll t p (.queued i k (n + 1)) = out := ⟨_, rfl⟩
  rw [hout] at hcompetes ⊢
  cases hcompetes with
  | binds _ _ _ had loads => exact (loads.ended had).1
  | @waits j busy oldest eq =>
    have hlt := p.lt_size_of_holds holds
    have hfew := hr.handed ⟨t, i, k, stake_of_work? hw, holds⟩
    have hfree : ∀ l, l < p.size → p.isFree l = false := by
      intro l hl
      by_contra hcon
      have hl' := busy l (by simpa using hl)
      by_cases hli : l = i
      · subst hli
        rw [Bool.not_eq_false, isFree_iff, holds_iff.mp holds] at hcon
        cases hcon
      · have hfree := (isFree_unlock hlt).mpr (.inr ⟨hli, by simpa using hcon⟩)
        simp [hfree] at hl'
    have hnext : ∃ u, u ∈ (p.slot i).lock.waiting := by
      rcases hwait : (p.slot i).lock.waiting with _ | ⟨u, rest⟩
      · have hi := busy i (by simpa using hlt)
        simp [(isFree_unlock hlt).mpr (.inl ⟨rfl, hwait⟩)] at hi
      · exact ⟨u, List.mem_cons_self⟩
    obtain ⟨u, hu⟩ := hnext
    have hmany := h.crowded hfree hu
    omega

/-- Whoever waits among few waits for the first time. -/
lemma Contested.first_of_round {k : Option Nat} (h : Contested as p) (hr : Roomy c p)
    (hc : c ≤ p.size + 1) (hw : p.work? t = some (.request r stage))
    (hs : ∀ result, stage ≠ .done result) (hout : (r.poll t p stage).2 = .queued i k n) :
    n = 3 := by
  have hround := h.round hw hs
  obtain ⟨out, heq⟩ : ∃ out, r.poll t p stage = out := ⟨_, rfl⟩
  have hwaits : out.2.waits = true := by
    rw [← heq, hout]
    rfl
  rw [heq] at hround hout
  cases hround with
  | starts competes =>
    cases competes with
    | binds _ _ _ had loads => simp [(loads.ended had).1] at hwaits
    | waits _ _ eq =>
      subst eq
      cases hout
      rfl
  | stays =>
    cases hout
    exact hr.first t r i none n hw
  | again holds =>
    have hbinds := h.binds_turn hr hc hw holds
    rw [heq, hwaits] at hbinds
    cases hbinds
  | loads had loads => simp [(loads.ended had).1] at hwaits
  | seeks had seeks => simp [(seeks.ended had).1] at hwaits
  | refused | spent => cases hout

lemma Roomy.resume (hr : Roomy c p) (h : Contested as p) (hc : c ≤ p.size + 1) (t : TaskId) :
    Roomy c (p.resume t) := by
  rcases hw : p.work? t with _ | w
  · rwa [resume_eq_self hw]
  obtain ⟨r, stage, rfl, -⟩ := h.requests t w hw
  have hq := (h.resume t).ordered
  have hwork := work_poll h.ordered hw
  have hnow : (p.resume t).work? t = some (.request r (r.poll t p stage).2) :=
    work?_resume hw hwork
  have hothers : ∀ u ≠ t, (p.resume t).work? u = p.work? u := fun u =>
    work?_resume_of_ne hw hwork
  by_cases hs : ∃ result, stage = .done result
  · obtain ⟨result, rfl⟩ := hs
    refine hr.congr h.ordered hq (fun u => ?_) fun j u => ?_
    · by_cases hut : u = t
      · rw [hut, hnow, hw]
        rfl
      · exact hothers u hut
    · rw [holds, slot_resume hw]
      rfl
  have hs : ∀ result, stage ≠ .done result := fun result hr => hs ⟨result, hr⟩
  have hmem : t ∈ p.underWay := (mem_underWay h.ordered).mpr (isUnderWay_iff.mpr ⟨r, stage, hw, hs⟩)
  have hsub : (p.resume t).underWay ⊆ p.underWay := by
    refine underWay_subset h.ordered hq fun u hu => ?_
    by_cases hut : u = t
    · exact hut ▸ (mem_underWay h.ordered).mp hmem
    · rwa [isUnderWay, ← hothers u hut]
  refine ⟨(Finset.card_le_card hsub).trans hr.count, fun hhanded => ?_, fun u r' i k n hu => ?_,
    fun u a hu => ?_⟩
  · by_cases hlive : ∃ result, (r.poll t p stage).2 = .done result
    · obtain ⟨result, hdone⟩ := hlive
      have hnot : t ∉ (p.resume t).underWay := by
        rw [mem_underWay hq, isUnderWay, hnow, hdone]
        simp
      have hlt := Finset.card_lt_card ((Finset.ssubset_iff_of_subset hsub).mpr ⟨t, hmem, hnot⟩)
      have hcount := hr.count
      omega
    · have hp := hr.handed (h.handed_of_resume hw hs (fun result hr => hlive ⟨result, hr⟩) hhanded)
      have hle := Finset.card_le_card hsub
      omega
  · by_cases hut : u = t
    · subst hut
      rw [hnow] at hu
      have hout : (r.poll u p stage).2 = .queued i k n := by
        injection Option.some.inj hu
      exact h.first_of_round hr hc hw hs hout
    · exact hr.first u r' i k n (hothers u hut ▸ hu)
  · by_cases hut : u = t
    · subst hut
      obtain ⟨i, rfl, -⟩ := (h.abandoned_iff hw hs).mp ⟨a, hu⟩
      cases hr.first u r i none 0 hw
    · refine hr.kept u a ?_
      rwa [result?, ← hothers u hut]

/-- One request more. -/
lemma Roomy.append (hr : Roomy c p) (hp : p.Ordered) (hq : q.Ordered)
    (hslots : q.slots = p.slots) (hw : q.work = p.work ++ [(t, .request r .unstarted)])
    (ht : p.work? t = none) : Roomy (c + 1) q := by
  have hwork : ∀ u, q.work? u = if u = t then some (.request r .unstarted) else p.work? u := by
    intro u
    rw [work?_append hw]
    split
    · next hu => rw [hu, ht, Option.none_or]
    · exact Option.or_none
  have hsub : q.underWay ⊆ insert t p.underWay := by
    intro u hu
    rw [mem_underWay hq, isUnderWay, hwork] at hu
    by_cases hut : u = t
    · rw [hut]
      exact Finset.mem_insert_self t _
    · rw [if_neg hut] at hu
      exact Finset.mem_insert_of_mem ((mem_underWay hp).mpr hu)
  have hle := (Finset.card_le_card hsub).trans (Finset.card_insert_le t p.underWay)
  have hcount := hr.count
  refine ⟨hle.trans (by omega), fun ⟨u, i, k, hs, hi⟩ => ?_, fun u r' i k n hu => ?_,
    fun u a hu => ?_⟩
  · have hut : u ≠ t := by
      rintro rfl
      rw [stake_of_work? ((hwork u).trans (if_pos rfl))] at hs
      cases hs
    have hwu : q.work? u = p.work? u := (hwork u).trans (if_neg hut)
    rw [stake_congr hwu] at hs
    rw [holds, slot, hslots] at hi
    have hmany := hr.handed ⟨u, i, k, hs, hi⟩
    omega
  · rw [hwork] at hu
    split at hu
    · cases hu
    · exact hr.first u r' i k n hu
  · rw [result?, hwork] at hu
    split at hu
    · next h =>
      split at h
      · cases h
      · exact hr.kept u a (by rw [result?, h]; exact hu)
    · cases hu

lemma Roomy.forget (hr : Roomy c p) (hp : p.Ordered) (hq : (p.forget t).Ordered)
    (ht : p.isOver t = true) : Roomy c (p.forget t) := by
  have hsome : ∀ {u w}, (p.forget t).work? u = some w → p.work? u = some w := by
    intro u w hu
    rw [work?_forget] at hu
    split at hu
    · cases hu
    · exact hu
  have hsub : (p.forget t).underWay ⊆ p.underWay := by
    refine underWay_subset hp hq fun u hu => ?_
    obtain ⟨r, stage, hw, hs⟩ := isUnderWay_iff.mp hu
    exact isUnderWay_iff.mpr ⟨r, stage, hsome hw, hs⟩
  have hle := Finset.card_le_card hsub
  have hstake : (p.forget t).stake = p.stake := stake_forget (stake_of_isOver ht)
  refine ⟨hle.trans hr.count, fun ⟨u, i, k, hs, hi⟩ => ?_, fun u r i k n hu =>
    hr.first u r i k n (hsome hu), fun u a hu => ?_⟩
  · have hmany := hr.handed ⟨u, i, k, hstake ▸ hs, hi⟩
    omega
  · obtain ⟨r, hw⟩ := work?_of_result? hu
    exact hr.kept u a (by rw [result?, hsome hw])

lemma Roomy.event {e : Event} (hr : Roomy c p) (h : Contested as p) (he : e.Plain)
    (hc : c ≤ p.size + 1) : Roomy (c + e.asset?.toList.length) (e.apply p) := by
  have hq : (e.apply p).Ordered := by
    obtain ⟨_, ⟨_, hq⟩, _⟩ := e.course h.ordered
    exact hq
  cases e with
  | request r =>
    exact hr.append h.ordered hq rfl rfl (h.ordered.work?_eq_none (Nat.lt_succ_self _))
  | call r =>
    simp only [Event.apply] at hq ⊢
    split at hq <;> split
    · next hnone => exact hr.append h.ordered hq rfl rfl (by simpa using hnone)
    · contradiction
    · contradiction
    · have hcount := hr.count
      exact ⟨by omega, fun hh => Nat.le_succ_of_le (hr.handed hh), hr.first, hr.kept⟩
  | resume t => exact hr.resume h hc t
  | collect t =>
    simp only [Event.apply] at hq ⊢
    split
    · next ht =>
      rw [if_pos ht] at hq
      exact hr.forget h.ordered hq ht
    · exact hr
  | pauseExcept active =>
    have hlock := (p.agrees_pauseExcept active).lock
    exact hr.congr h.ordered hq (fun _ => rfl) fun j u => by
      rw [holds, holds]
      exact congrArg (fun l : Lock => l.holder == some u) (hlock j)
  | element i f =>
    have hlock := (p.agrees_modifyElement i f).lock
    exact hr.congr h.ordered hq (fun _ => rfl) fun j u => by
      rw [holds, holds]
      exact congrArg (fun l : Lock => l.holder == some u) (hlock j)
  | attend | backend | schedule => exact hr.congr h.ordered hq (fun _ => rfl) fun _ _ => rfl
  | preload | release | reset | dispose => exact he.elim

/-- **Few requests all come to something.** -/
lemma Contest.roomy (config : PoolConfig) (backend : Backend) {es : List Event} (h : Contest es)
    (hfew : (asked es).length ≤ (Pool.new config backend).size + 1) :
    Roomy (asked es).length ((Pool.new config backend).run es) := by
  induction es using List.reverseRecOn with
  | nil =>
    rw [run_nil]
    have hwork : ∀ t, (Pool.new config backend).work? t = none := fun _ => rfl
    have hempty : (Pool.new config backend).underWay = ∅ :=
      Finset.filter_eq_empty_iff.mpr fun t _ => by simp [isUnderWay, hwork]
    refine ⟨by simp [hempty], fun ⟨t, i, k, hs, _⟩ => ?_, fun t r i k n hw => ?_, fun t a hr => ?_⟩
    · rw [stake_of_none (hwork t)] at hs
      cases hs
    · simp [hwork] at hw
    · simp [result?, hwork] at hr
  | append_singleton es e ih =>
    obtain ⟨hes, he, -⟩ := h.of_concat
    rw [asked_concat, List.length_append] at hfew ⊢
    rw [run_concat]
    refine (ih hes (by omega)).event (hes.contested config backend) he ?_
    rw [(Ordered.new config backend).size_run]
    omega

end Pool

end Montage

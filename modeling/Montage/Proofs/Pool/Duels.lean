import Montage.Proofs.Pool.Crowds

/-!
A pool of any size in which two requests leave each other without a slot.

All slots are loading, and two more requests wait for the one used longest ago. When its load is
over the first of them is handed the lock, and lets go of it for the second; so they take turns
until the picks of the first are spent.
-/

namespace Montage

namespace Pool

/-- Requests of some assets, one each. -/
def rival (n : Nat) : Request :=
  ⟨.video ⟨String.ofList (List.replicate n 'x')⟩ "clip.mp4" 10.0, 0.0, false, []⟩

/-- Loads take a while, and seeks are over at once. -/
def slowLoads : Backend := { loadMs := 20, seekMs := 0 }

lemma rival_injective {m n : Nat} (h : (rival m).asset.id = (rival n).asset.id) : m = n := by
  have hname : String.ofList (List.replicate m 'x') = String.ofList (List.replicate n 'x') :=
    congrArg AssetId.name h
  have hlen := congrArg (fun s : String => s.toList.length) hname
  simpa using hlen

variable {p q : Pool} {t u : TaskId} {r : Request} {as : List AssetId} {i m n : Nat}

/-! ### Every slot is loading -/

def fill : Nat → List Event
  | 0 => []
  | m + 1 =>
    fill m ++ [.backend slowLoads, .schedule { now := 0 }, .request (rival m), .resume (m + 1)]

/-- The requests of the first few rivals load a slot each. -/
structure Filled (m : Nat) (p : Pool) : Prop where
  started : p.agenda.started = m
  loading : ∀ j, j < m → ∃ i g, p.work? (j + 1) = some (.request (rival j) (.loading i g 20)) ∧
    (p.element i).source = some "clip.mp4"

lemma asked_fill (m : Nat) : asked (fill m) = (List.range m).map fun j => (rival j).asset.id := by
  induction m with
  | zero => rfl
  | succ m ih =>
    rw [fill, asked_append, ih, List.range_succ, List.map_append]
    rfl

lemma nodup_rivals (m : Nat) : ((List.range m).map fun j => (rival j).asset.id).Nodup :=
  List.nodup_range.map fun _ _ => rival_injective

lemma plain_fill (m : Nat) : ∀ e ∈ fill m, e.Plain := by
  induction m with
  | zero => exact fun e he => absurd he List.not_mem_nil
  | succ m ih =>
    intro e he
    rw [fill, List.mem_append] at he
    rcases he with he | he
    · exact ih e he
    · simp only [List.mem_cons, List.not_mem_nil, or_false] at he
      rcases he with rfl | rfl | rfl | rfl <;> trivial

lemma contest_fill (m : Nat) : Contest (fill m) :=
  ⟨plain_fill m, asked_fill m ▸ nodup_rivals m⟩

lemma exists_free (h : Contested as p) (hfew : p.underWay.card < p.size) :
    ∃ i, i < p.size ∧ p.isFree i = true := by
  by_contra hnone
  push Not at hnone
  obtain ⟨holders, hsub, hcard, -⟩ := h.exists_holders fun j hj => by simpa using hnone j hj
  have hle := Finset.card_le_card hsub
  omega

/-- A request that is made while a slot is free, and that nothing is done for yet, starts to
load. -/
lemma Contested.resume_loading (h : Contested as p)
    (hw : p.work? t = some (.request (rival n) .unstarted)) (hlt : i < p.size)
    (hfree : p.isFree i = true) (hnow : p.now = 0) (hback : p.backend = slowLoads) :
    ∃ j g, p.isFree j = true ∧
      (p.resume t).work? t = some (.request (rival n) (.loading j g 20)) ∧
      ((p.resume t).element j).source = some "clip.mp4" ∧
      ∀ l, l ≠ j → ((p.resume t).element l).source = (p.element l).source := by
  have hnowWork :
      (p.resume t).work? t = some (.request (rival n) ((rival n).poll t p .unstarted).2) :=
    work?_resume hw (work_poll h.ordered hw)
  have helement : ∀ l, (p.resume t).element l = ((rival n).poll t p .unstarted).1.element l :=
    fun l => congrArg Slot.element (slot_resume hw l)
  have hround := h.round hw nofun
  obtain ⟨out, hout⟩ : ∃ out, (rival n).poll t p .unstarted = out := ⟨_, rfl⟩
  rw [hout] at hround hnowWork helement
  cases hround with
  | refused empty => simp [rival, MediaAsset.video] at empty
  | starts competes =>
    cases competes with
    | waits busy => simp [busy i hlt] at hfree
    | @binds j q jfree jlt tame had loads =>
      have hq : q.now = 0 := tame.now.trans hnow
      have hdue : p.now + p.backend.loadMs = 20 := by rw [hnow, hback]; rfl
      rw [hdue] at loads
      cases loads with
      | waits =>
        refine ⟨j, _, jfree, hnowWork, ?_, fun l hl => ?_⟩
        · rw [helement, (tame.element j).source, element, slot_begun, if_pos ⟨rfl, jlt⟩]
          rfl
        · rw [helement, (tame.element l).source, element, slot_begun, if_neg (by simp [Ne.symm hl])]
          rfl
      | lost _ lost => simp [had] at lost
      | fails ended => omega
      | loads ended => omega

lemma Ordered.work?_request (hp : p.Ordered) (hstarted : p.agenda.started = m) (r : Request)
    (u : TaskId) : ((Event.request r).apply p).work? u =
      if u = m + 1 then some (.request r .unstarted) else p.work? u := by
  have hwork : ((Event.request r).apply p).work = p.work ++ [(m + 1, .request r .unstarted)] :=
    hstarted ▸ rfl
  rw [work?_append hwork]
  split
  · next hu =>
    rw [hu, hp.work?_eq_none (by rw [hstarted]; exact Nat.lt_succ_self m), Option.none_or]
  · exact Option.or_none

lemma started_resume (hp : p.Ordered) (t : TaskId) :
    (p.resume t).agenda.started = p.agenda.started := by
  rcases hw : p.work? t with _ | w
  · rw [resume_eq_self hw]
  · obtain ⟨_, hns, -⟩ := Work.moves_poll hp.good (stake_of_work? hw)
    rw [resume_eq hw]
    exact hns.frame.2.1

/-- One more rival gets a slot of its own. -/
lemma Filled.next (h : Filled m p) (hp : Contested as p) (hnew : (rival m).asset.id ∉ as)
    (hfew : p.underWay.card < p.size) :
    Filled (m + 1) (p.run [.backend slowLoads, .schedule { now := 0 }, .request (rival m),
      .resume (m + 1)]) := by
  obtain ⟨p', hp'⟩ : ∃ p', p.run [.backend slowLoads, .schedule { now := 0 }] = p' := ⟨_, rfl⟩
  have hcontested' : Contested as p' := by
    have hbackend := hp.event (e := .backend slowLoads) trivial (by simp [Event.asset?])
    have hschedule := hbackend.event (e := .schedule { now := 0 }) trivial (by simp [Event.asset?])
    rw [← hp']
    exact hschedule.mono (by simp [Event.asset?])
  have hstarted' : p'.agenda.started = m := by
    have hmax : p'.agenda.started = max p.agenda.started 0 := hp' ▸ rfl
    rw [hmax, h.started, Nat.max_zero]
  obtain ⟨q, hq⟩ : ∃ q, (Event.request (rival m)).apply p' = q := ⟨_, rfl⟩
  have hcontested : Contested (as ++ [(rival m).asset.id]) q :=
    hq ▸ hcontested'.event (e := .request (rival m)) rfl fun a ha => by
      cases ha
      exact hnew
  have hwork := hcontested'.ordered.work?_request hstarted' (rival m)
  rw [hq] at hwork
  have hw := (hwork (m + 1)).trans (if_pos rfl)
  have hslots : q.slots = p.slots := by
    rw [← hq, ← hp']
    rfl
  have hslot : ∀ l, q.slot l = p.slot l := fun l => by rw [slot, hslots, slot]
  obtain ⟨i, hlt, hfree⟩ := exists_free hp hfew
  have hbackend : q.backend = slowLoads := by
    rw [← hq, ← hp']
    rfl
  have hnow : q.now = 0 := by
    rw [← hq, ← hp']
    rfl
  obtain ⟨k, g, kfree, hload, hsource, hsources⟩ := hcontested.resume_loading hw
    (by rwa [size, hslots]) (by rwa [isFree, hslot]) hnow hbackend
  have hrun : p.run [.backend slowLoads, .schedule { now := 0 }, .request (rival m),
      .resume (m + 1)] = q.resume (m + 1) := by
    rw [← hq, ← hp']
    rfl
  rw [hrun]
  refine ⟨(started_resume hcontested.ordered _).trans ?_, fun j hj => ?_⟩
  · rw [← hq, ← hstarted']
    rfl
  rcases Nat.lt_succ_iff_lt_or_eq.mp hj with hlt | rfl
  · obtain ⟨l, g', hl, hlsource⟩ := h.loading j hlt
    have hne : j + 1 ≠ m + 1 := by omega
    have hlk : k ≠ l := by
      rw [isFree, hslot] at kfree
      exact hp.ordered.good.ne_of_isFree (congrArg Stake.held? (stake_of_work? hl)) kfree
    refine ⟨l, g', ?_, ?_⟩
    · rw [work?_resume_of_ne hw (work_poll hcontested.ordered hw) hne, hwork, if_neg hne, ← hl,
        ← hp']
      rfl
    · rw [hsources l hlk.symm, element, hslot]
      exact hlsource
  · exact ⟨k, g, hload, hsource⟩

lemma card_underWay_fill (config : PoolConfig) (backend : Backend) {m : Nat}
    (hm : m ≤ (Pool.new config backend).size) :
    ((Pool.new config backend).run (fill m)).underWay.card ≤ m := by
  have hlen : (asked (fill m)).length = m := by simp [asked_fill]
  have hroomy := (contest_fill m).roomy config backend (by omega)
  rw [hlen] at hroomy
  exact hroomy.count

lemma rival_not_asked {k : Nat} (hk : n ≤ k) : (rival k).asset.id ∉ asked (fill n) := by
  rw [asked_fill]
  intro hmem
  obtain ⟨l, hl, heq⟩ := List.mem_map.mp hmem
  have hlk := rival_injective heq
  have hl := List.mem_range.mp hl
  omega

/-- **The first rivals fill the pool.** -/
lemma filled (config : PoolConfig) (backend : Backend) (m : Nat)
    (hm : m ≤ (Pool.new config backend).size) :
    Filled m ((Pool.new config backend).run (fill m)) := by
  induction m with
  | zero => exact ⟨rfl, fun j hj => absurd hj (Nat.not_lt_zero j)⟩
  | succ m ih =>
    have hcount := card_underWay_fill config backend (Nat.le_of_succ_le hm)
    have hsize := (Ordered.new config backend).size_run (fill m)
    rw [fill, run_append]
    exact (ih (Nat.le_of_succ_le hm)).next ((contest_fill m).contested config backend)
      (rival_not_asked (Nat.le_refl m)) (by omega)

/-- A pool of which the first rivals have all slots. -/
lemma Filled.holder (h : Filled m p) (hp : Contested as p) (hm : m = p.size) (hi : i < p.size) :
    ∃ j g, j < m ∧ p.work? (j + 1) = some (.request (rival j) (.loading i g 20)) ∧
      (p.element i).source = some "clip.mp4" := by
  have hload := h.loading
  choose! slot gen hload using hload
  have hheld : ∀ j, j < m → (p.slot (slot j)).lock.holder = some (j + 1) :=
    fun j hj => hp.ordered.holder_of_work? (hload j hj).1 rfl
  have hinj : Set.InjOn slot (Finset.range m) := by
    intro j hj k hk hjk
    have hj := hheld j (Finset.mem_range.mp hj)
    rw [show slot j = slot k from hjk, hheld k (Finset.mem_range.mp hk)] at hj
    exact (Nat.succ.inj (Option.some.inj hj)).symm
  have hsub : (Finset.range m).image slot ⊆ Finset.range p.size := by
    intro l hl
    obtain ⟨j, hj, rfl⟩ := Finset.mem_image.mp hl
    have hholds := holds_iff.mpr (hheld j (Finset.mem_range.mp hj))
    exact Finset.mem_range.mpr (p.lt_size_of_holds hholds)
  have hall : (Finset.range m).image slot = Finset.range p.size := by
    refine Finset.eq_of_subset_of_card_le hsub ?_
    rw [Finset.card_image_of_injOn hinj, Finset.card_range, Finset.card_range, hm]
  have hmem : i ∈ (Finset.range m).image slot := hall ▸ Finset.mem_range.mpr hi
  obtain ⟨j, hj, rfl⟩ := Finset.mem_image.mp hmem
  have hj := Finset.mem_range.mp hj
  exact ⟨j, gen j, hj, hload j hj⟩

/-! ### Two more requests -/

/-- A request that is made while no slot is free queues for the slot used longest ago. -/
lemma Contested.resume_queued (h : Contested as p)
    (hw : p.work? t = some (.request (rival n) .unstarted))
    (hbusy : ∀ j, j < p.size → p.isFree j = false) :
    ∃ i, (p.byAge []).head? = some i ∧ p.resume t =
      (p.countUse.enqueue i t).setWork t (.request (rival n) (.queued i none 3)) := by
  have hresume : p.resume t = ((rival n).poll t p .unstarted).1.setWork t
      (.request (rival n) ((rival n).poll t p .unstarted).2) := resume_eq hw
  have hround := h.round hw nofun
  obtain ⟨out, hout⟩ : ∃ out, (rival n).poll t p .unstarted = out := ⟨_, rfl⟩
  rw [hout] at hround hresume
  cases hround with
  | refused empty => simp [rival, MediaAsset.video] at empty
  | starts competes =>
    cases competes with
    | binds free lt => simp [hbusy _ lt] at free
    | @waits i busy oldest eq =>
      subst eq
      exact ⟨i, oldest, hresume⟩

/-- A rival has come while no slot was free, and waits for the slot used longest ago. -/
structure Arrived (p q : Pool) (m i : Nat) : Prop where
  started : q.agenda.started = m + 1
  size : q.size = p.size
  others : ∀ u ≠ m + 1, q.work? u = p.work? u
  queued : q.work? (m + 1) = some (.request (rival m) (.queued i none 3))
  slot : ∀ l, q.slot l = if i = l ∧ i < p.size then
    { p.slot l with lock := (p.slot l).lock.enqueue (m + 1) } else p.slot l

lemma Arrived.isFree (h : Arrived p q m i) (l : Nat) : q.isFree l = p.isFree l := by
  rw [Pool.isFree, h.slot]
  split <;> rfl

lemma Arrived.byAge (h : Arrived p q m i) : q.byAge [] = p.byAge [] := by
  refine byAge_congr h.size (fun l => ?_) []
  rw [h.slot]
  split <;> rfl

lemma Arrived.element (h : Arrived p q m i) (l : Nat) : q.element l = p.element l := by
  rw [Pool.element, h.slot]
  split <;> rfl

/-- One more request, while no slot is free. -/
lemma Contested.arrive (h : Contested as p) (hstarted : p.agenda.started = m)
    (hnew : (rival m).asset.id ∉ as) (hbusy : ∀ j, j < p.size → p.isFree j = false) :
    let q := p.run [.request (rival m), .resume (m + 1)]
    Contested (as ++ [(rival m).asset.id]) q ∧
      ∃ i, (p.byAge []).head? = some i ∧ Arrived p q m i := by
  intro q
  obtain ⟨p', hp'⟩ : ∃ p', (Event.request (rival m)).apply p = p' := ⟨_, rfl⟩
  have hq : q = p'.resume (m + 1) := hp' ▸ rfl
  have hcontested : Contested (as ++ [(rival m).asset.id]) p' :=
    hp' ▸ h.event (e := .request (rival m)) rfl fun a ha => by
      cases ha
      exact hnew
  have hwork := h.ordered.work?_request hstarted (rival m)
  rw [hp'] at hwork
  have hw := (hwork (m + 1)).trans (if_pos rfl)
  have hslot : ∀ l, p'.slot l = p.slot l := fun l => hp' ▸ rfl
  have hsize : p'.size = p.size := hp' ▸ rfl
  obtain ⟨i, hi, hresume⟩ := hcontested.resume_queued hw fun j hj => by
    rw [isFree, hslot]
    exact hbusy j (hsize ▸ hj)
  have hage : p'.byAge [] = p.byAge [] := byAge_congr hsize (fun j => by rw [hslot]) []
  rw [hq]
  refine ⟨hcontested.resume _, i, hage ▸ hi, (started_resume hcontested.ordered _).trans ?_,
    (hcontested.ordered.size_run [.resume (m + 1)]).trans hsize, fun u hu => ?_, ?_, fun l => ?_⟩
  · rw [← hp', ← hstarted]
    rfl
  · rw [work?_resume_of_ne hw (work_poll hcontested.ordered hw) hu, hwork, if_neg hu]
  · rw [hresume, work?_setWork, if_pos rfl]
    exact congrArg (Option.map _) hw
  · have hsame : (p'.resume (m + 1)).slot l = (p'.countUse.enqueue i (m + 1)).slot l := by
      rw [hresume]
      rfl
    rw [hsame, slot_enqueue, slot_countUse, hslot, size_countUse, hsize]

lemma moveToTarget_done {g : Nat} (hseek : p.backend.seekMs = 0) (hhang : p.backend.hanging = false)
    (had : p.isLost i g = false) :
    ∃ q h, p.Tame q ∧ r.moveToTarget t p i g = (q.unlock i, .done (.ok h)) := by
  have hout : ∀ g' due deadline, (r.moveToTarget t p i g).2 ≠ .seeking i g' due deadline := by
    intro g' due deadline
    unfold Request.moveToTarget
    dsimp only
    split
    · nofun
    · unfold Request.pollSeek
      simp [now, hseek, hhang, Request.finishSeek, Request.finish]
  have hseeks : r.Seeks p i g (r.moveToTarget t p i g) := .moveToTarget had
  obtain ⟨out, heq⟩ : ∃ out, r.moveToTarget t p i g = out := ⟨_, rfl⟩
  rw [heq] at hseeks hout ⊢
  cases hseeks with
  | waits => exact absurd rfl (hout _ _ _)
  | ends tame => exact ⟨_, _, tame, rfl⟩
  | lost _ lost => simp [had] at lost

/-- A load that is over, with a seek that takes no time, hands on the lock and does not change when
slots were used. -/
lemma Contested.resume_done {g : Nat} (h : Contested as p)
    (hw : p.work? t = some (.request (rival n) (.loading i g 20))) (hnow : 20 ≤ p.now)
    (hback : p.backend = slowLoads) (hsource : (p.element i).source = some "clip.mp4") (l : Nat) :
    ((p.resume t).slot l).lock =
        (if i = l ∧ i < p.size then (p.slot l).lock.release else (p.slot l).lock) ∧
      ((p.resume t).slot l).lastUsed = (p.slot l).lastUsed := by
  have had := h.had (.inl (stake_of_work? hw))
  have hfinish : p.finishLoad i g (rival n).asset.id (rival n).asset.url =
      (p.modifySlot i Slot.finishLoad, .ok ()) := by
    have hresult : (p.element i).loadResult p.backend (rival n).asset.url = .ok () := by
      simp [Element.loadResult, hback, slowLoads, hsource, rival, MediaAsset.video]
    simp [finishLoad, had, hresult]
  obtain ⟨q, hd, tame, hmove⟩ := moveToTarget_done (p := p.modifySlot i Slot.finishLoad) (t := t)
    (r := rival n) (congrArg Backend.seekMs hback) (congrArg Backend.hanging hback)
    (Request.isLost_finishLoad had)
  have hpoll : (rival n).poll t p (.loading i g 20) = (q.unlock i, .done (.ok hd)) := by
    rw [Request.poll, Request.pollLoad, if_pos hnow, hfinish]
    exact hmove
  have hslot : (p.resume t).slot l = (q.unlock i).slot l := by
    rw [slot_resume hw, Work.poll, hpoll]
  have hload : ((p.modifySlot i Slot.finishLoad).slot l).lock = (p.slot l).lock ∧
      ((p.modifySlot i Slot.finishLoad).slot l).lastUsed = (p.slot l).lastUsed := by
    rw [slot_modifySlot]
    split <;> exact ⟨rfl, rfl⟩
  have hsize : q.size = p.size := tame.size.trans (p.size_modifySlot i _)
  have hlock := (tame.lock l).trans hload.1
  have hused := (Slot.record_eq_iff.mp (tame.record l)).2.2.2.1.trans hload.2
  rw [hslot, slot_unlock, hsize]
  split
  · exact ⟨congrArg Lock.release hlock, hused⟩
  · exact ⟨hlock, hused⟩

/-- The holder of the slot used longest ago is done, and of two requests that waited for it the
first has its lock. -/
structure Duel (p : Pool) (i : Nat) (t u : TaskId) (n m : Nat) : Prop where
  contested : ∃ as, Contested as p
  first : ∃ r, p.work? t = some (.request r (.queued i none n))
  second : ∃ r, p.work? u = some (.request r (.queued i none m))
  lock : (p.slot i).lock = ⟨some t, [u]⟩
  busy : ∀ j, j ≠ i → j < p.size → p.isFree j = false
  oldest : (p.byAge []).head? = some i

/-- The first lets go of the slot for the second, and waits behind it. -/
lemma Duel.resume (h : Duel p i t u (n + 1) m) : Duel (p.resume t) i u t m n := by
  obtain ⟨as, hp⟩ := h.contested
  obtain ⟨r, hw⟩ := h.first
  obtain ⟨r', hw'⟩ := h.second
  have holds : p.holds i t = true := by rw [holds_iff, h.lock]
  have hlt := p.lt_size_of_holds holds
  have hwork := work_poll hp.ordered hw
  obtain ⟨j, hj, hq⟩ := hp.resume_of_busy hw holds (by simp [h.lock]) h.busy
  obtain rfl : i = j := Option.some.inj (h.oldest.symm.trans hj)
  have hne : u ≠ t := by
    rintro rfl
    have hnodup := hp.ordered.good.fair.nodup i
    rw [show (p.account.pool.slot i).lock = _ from h.lock] at hnodup
    simp [Lock.tasks] at hnodup
  have hslot : ∀ l, (p.resume t).slot l = ((p.unlock i).countUse.enqueue i t).slot l := fun l => by
    rw [hq]
    rfl
  have hsize : (p.resume t).size = p.size := by
    obtain ⟨_, ⟨hcourse, -⟩, -⟩ := course_resume hp.ordered hw
    exact hcourse.size
  have hat : ((p.resume t).slot i).lock = ⟨some u, [t]⟩ := by
    rw [hslot, slot_enqueue, if_pos ⟨rfl, by simpa using hlt⟩, slot_countUse,
      slot_unlock, if_pos ⟨rfl, hlt⟩]
    simp [h.lock, Lock.release, Lock.enqueue]
  have hother : ∀ l, l ≠ i → (p.resume t).slot l = p.slot l := by
    intro l hl
    rw [hslot, slot_enqueue, if_neg (by simp [Ne.symm hl]), slot_countUse, slot_unlock,
      if_neg (by simp [Ne.symm hl])]
  refine ⟨⟨as, hp.resume t⟩, ⟨r', ?_⟩, ⟨r, ?_⟩, hat, fun l hl hlt => ?_, ?_⟩
  · rw [work?_resume_of_ne hw hwork hne]
    exact hw'
  · rw [hq, work?_setWork, if_pos rfl]
    have hsame : ((p.unlock i).countUse.enqueue i t).work = p.work := p.work_unlock i
    rw [work?, hsame]
    exact congrArg (Option.map _) hw
  · rw [isFree, hother l hl]
    exact h.busy l hl (hsize ▸ hlt)
  · rw [← h.oldest]
    refine congrArg List.head? (byAge_congr hsize (fun l => ?_) [])
    by_cases hl : l = i
    · subst hl
      rw [hslot, slot_enqueue, if_pos ⟨rfl, by simpa using hlt⟩, slot_countUse,
        slot_unlock, if_pos ⟨rfl, hlt⟩]
    · rw [hother l hl]

/-- **Neither lets the other have the slot**: the first is abandoned in the end. -/
lemma Duel.abandons (h : Duel p i t u 3 3) :
    ∃ a, (p.run [.resume t, .resume u, .resume t, .resume u, .resume t, .resume u,
      .resume t]).result? t = some (.error (.abandoned a)) := by
  have hlast := h.resume.resume.resume.resume.resume.resume
  obtain ⟨as, hp⟩ := hlast.contested
  obtain ⟨r, hw⟩ := hlast.first
  exact (hp.abandoned_iff hw nofun).mpr ⟨i, rfl, by rw [holds_iff, hlast.lock]⟩

/-- Every slot is loading for a rival of its own, and nobody waits. -/
structure Full (n : Nat) (p : Pool) : Prop where
  contested : Contested (asked (fill n)) p
  started : p.agenda.started = n
  loading : ∀ i, i < p.size → ∃ j g, j < n ∧
    p.work? (j + 1) = some (.request (rival j) (.loading i g 20)) ∧
      (p.element i).source = some "clip.mp4" ∧ (p.slot i).lock = ⟨some (j + 1), []⟩

lemma Full.busy (h : Full n p) (l : Nat) (hl : l < p.size) : p.isFree l = false := by
  obtain ⟨j, g, -, -, -, hlock⟩ := h.loading l hl
  simp [isFree, Lock.isFree, hlock]

lemma full (config : PoolConfig) (backend : Backend) {n : Nat}
    (hn : (Pool.new config backend).size = n) :
    Full n ((Pool.new config backend).run (fill n)) := by
  obtain ⟨p, hp⟩ : ∃ p, (Pool.new config backend).run (fill n) = p := ⟨_, rfl⟩
  rw [hp]
  have hfilled : Filled n p := hp ▸ filled config backend n (by omega)
  have hcontested : Contested (asked (fill n)) p := hp ▸ (contest_fill n).contested config backend
  have hsize : p.size = n := hp ▸ ((Ordered.new config backend).size_run (fill n)).trans hn
  have hcount : p.underWay.card ≤ n := hp ▸ card_underWay_fill config backend (by omega)
  have hholder : ∀ i, i < p.size → ∃ j g, j < n ∧
      p.work? (j + 1) = some (.request (rival j) (.loading i g 20)) ∧
        (p.element i).source = some "clip.mp4" ∧ (p.slot i).lock.holder = some (j + 1) := by
    intro i hi
    obtain ⟨j, g, hj, hw, hs⟩ := hfilled.holder hcontested hsize.symm hi
    exact ⟨j, g, hj, hw, hs, hcontested.ordered.holder_of_work? hw rfl⟩
  have hbusy : ∀ l, l < p.size → p.isFree l = false := by
    intro l hl
    obtain ⟨j, -, -, -, -, hj⟩ := hholder l hl
    simp [isFree, Lock.isFree, hj]
  refine ⟨hcontested, hfilled.started, fun i hi => ?_⟩
  obtain ⟨j, g, hj, hw, hs, hlock⟩ := hholder i hi
  have hwaiting : (p.slot i).lock.waiting = [] := by
    rcases hwait : (p.slot i).lock.waiting with _ | ⟨u, rest⟩
    · rfl
    · have hcrowded := hcontested.crowded hbusy (u := u) (i := i) (by simp [hwait])
      omega
  exact ⟨j, g, hj, hw, hs, by rw [← hlock, ← hwaiting]⟩

/-- Two more requests come, and both wait for the slot used longest ago. -/
def pair (n : Nat) : List Event :=
  [.request (rival n), .resume (n + 1), .request (rival (n + 1)), .resume (n + 2)]

/-- The slot used longest ago is loading, and two requests wait for it. -/
structure Pressed (n : Nat) (p : Pool) (i j g : Nat) : Prop where
  contested : ∃ as, Contested as p
  holder : p.work? (j + 1) = some (.request (rival j) (.loading i g 20))
  source : (p.element i).source = some "clip.mp4"
  first : p.work? (n + 1) = some (.request (rival n) (.queued i none 3))
  second : p.work? (n + 2) = some (.request (rival (n + 1)) (.queued i none 3))
  lock : (p.slot i).lock = ⟨some (j + 1), [n + 1, n + 2]⟩
  busy : ∀ l, l ≠ i → l < p.size → p.isFree l = false
  oldest : (p.byAge []).head? = some i

lemma Full.pressed (h : Full n p) : ∃ i j g, j < n ∧ Pressed n (p.run (pair n)) i j g := by
  obtain ⟨p₁, hp₁⟩ : ∃ p₁, p.run [.request (rival n), .resume (n + 1)] = p₁ := ⟨_, rfl⟩
  obtain ⟨hcontested₁, i, hi, harrived₁⟩ :=
    h.contested.arrive h.started (rival_not_asked (Nat.le_refl n)) h.busy
  rw [hp₁] at hcontested₁ harrived₁
  have hbusy₁ : ∀ l, l < p₁.size → p₁.isFree l = false := fun l hl =>
    (harrived₁.isFree l).trans (h.busy l (harrived₁.size ▸ hl))
  have hnew₁ : (rival (n + 1)).asset.id ∉ asked (fill n) ++ [(rival n).asset.id] := by
    have hnext := rival_not_asked (Nat.le_refl (n + 1))
    rwa [asked_fill, List.range_succ, List.map_append, ← asked_fill] at hnext
  obtain ⟨p₂, hp₂⟩ : ∃ p₂, p₁.run [.request (rival (n + 1)), .resume (n + 1 + 1)] = p₂ := ⟨_, rfl⟩
  obtain ⟨hcontested₂, i', hi', harrived₂⟩ :=
    hcontested₁.arrive harrived₁.started hnew₁ hbusy₁
  rw [hp₂] at hcontested₂ harrived₂
  obtain rfl : i = i' := Option.some.inj (hi.symm.trans (harrived₁.byAge ▸ hi'))
  have hlt : i < p.size := (mem_byAge.mp (List.mem_of_mem_head? hi)).1
  have hrun : p.run (pair n) = p₂ := by
    rw [← hp₂, ← hp₁]
    rfl
  rw [hrun]
  obtain ⟨j, g, hj, hw, hs, hlock⟩ := h.loading i hlt
  refine ⟨i, j, g, hj, ⟨_, hcontested₂⟩, ?_, ?_, ?_, harrived₂.queued, ?_, fun l _ hl => ?_, ?_⟩
  · rw [harrived₂.others (j + 1) (by omega), harrived₁.others (j + 1) (by omega)]
    exact hw
  · rw [harrived₂.element, harrived₁.element]
    exact hs
  · rw [harrived₂.others (n + 1) (by omega)]
    exact harrived₁.queued
  · rw [harrived₂.slot, if_pos ⟨rfl, harrived₁.size ▸ hlt⟩, harrived₁.slot, if_pos ⟨rfl, hlt⟩,
      hlock]
    rfl
  · exact (harrived₂.isFree l).trans (hbusy₁ l (harrived₂.size ▸ hl))
  · rw [harrived₂.byAge]
    exact hi'

/-- The holder is done, and hands the lock to the first of the two. -/
lemma Pressed.duel {j g : Nat} (h : Pressed n p i j g) (hj : j < n) :
    Duel (p.run [.backend slowLoads, .schedule { now := 20 }, .resume (j + 1)]) i (n + 1) (n + 2) 3
      3 := by
  obtain ⟨as, hp⟩ := h.contested
  obtain ⟨q, hq⟩ : ∃ q, p.run [.backend slowLoads, .schedule { now := 20 }] = q := ⟨_, rfl⟩
  have hrun : p.run [.backend slowLoads, .schedule { now := 20 }, .resume (j + 1)] =
      q.resume (j + 1) := by
    rw [← hq]
    rfl
  have hcontested : Contested as q := by
    rw [← hq]
    have hbackend := hp.event (e := .backend slowLoads) trivial nofun
    have hschedule := hbackend.event (e := .schedule { now := 20 }) trivial nofun
    exact hschedule.mono (by simp [Event.asset?])
  have hslot : ∀ l, q.slot l = p.slot l := fun l => hq ▸ rfl
  have hwork : ∀ u, q.work? u = p.work? u := fun u => hq ▸ rfl
  have hsize : q.size = p.size := hq ▸ rfl
  have hholder := (hwork (j + 1)).trans h.holder
  have hothers : ∀ u, u ≠ j + 1 → (q.resume (j + 1)).work? u = p.work? u := fun u hu =>
    (work?_resume_of_ne hholder (work_poll hcontested.ordered hholder) hu).trans (hwork u)
  have hdone := hcontested.resume_done hholder (hq ▸ Nat.le_refl 20) (hq ▸ rfl)
    (by rw [element, hslot]; exact h.source)
  have hlt : i < q.size := q.lt_size_of_slot fun e => by
    have hlock := h.lock
    rw [← hslot, e] at hlock
    cases hlock
  have hsize' : (q.resume (j + 1)).size = q.size :=
    hcontested.ordered.size_run [.resume (j + 1)]
  rw [hrun]
  refine ⟨⟨as, hcontested.resume _⟩, ⟨rival n, ?_⟩, ⟨rival (n + 1), ?_⟩, ?_, fun l hl hl' => ?_, ?_⟩
  · exact (hothers (n + 1) (by omega)).trans h.first
  · exact (hothers (n + 2) (by omega)).trans h.second
  · rw [(hdone i).1, if_pos ⟨rfl, hlt⟩, hslot, h.lock]
    rfl
  · rw [isFree, (hdone l).1, if_neg (by simp [Ne.symm hl]), hslot]
    exact h.busy l hl (by omega)
  · rw [← h.oldest]
    refine congrArg List.head? (byAge_congr (hsize'.trans hsize) (fun l => ?_) [])
    rw [(hdone l).2, hslot]

/-- The turn of the holder, and those that the two take. -/
def turns (n j : Nat) : List Event :=
  [.backend slowLoads, .schedule { now := 20 }, .resume (j + 1)] ++
    [.resume (n + 1), .resume (n + 2), .resume (n + 1), .resume (n + 2), .resume (n + 1),
      .resume (n + 2), .resume (n + 1)]

lemma plain_turns (n j : Nat) : ∀ e ∈ pair n ++ turns n j, e.Plain := by
  simp [pair, turns, Event.Plain, rival]

/-- **Two more requests than slots** can leave one of them without a slot. -/
lemma exists_abandoned (config : PoolConfig) (backend : Backend) : ∃ es, Contest es ∧
    (asked es).length = (Pool.new config backend).size + 2 ∧
      ∃ t a, ((Pool.new config backend).run es).result? t = some (.error (.abandoned a)) := by
  obtain ⟨n, hn⟩ : ∃ n, (Pool.new config backend).size = n := ⟨_, rfl⟩
  obtain ⟨i, j, g, hj, hpressed⟩ := (full config backend hn).pressed
  have hasked : asked (fill n ++ (pair n ++ turns n j)) =
      (List.range (n + 2)).map fun k => (rival k).asset.id := by
    rw [asked_append, asked_fill, List.range_succ, List.range_succ, List.map_append,
      List.map_append, List.append_assoc]
    rfl
  refine ⟨fill n ++ (pair n ++ turns n j), ⟨fun e he => ?_, hasked ▸ nodup_rivals (n + 2)⟩, ?_,
    n + 1, ?_⟩
  · rcases List.mem_append.mp he with he | he
    · exact plain_fill n e he
    · exact plain_turns n j e he
  · rw [hasked, hn]
    simp
  · obtain ⟨a, ha⟩ := (hpressed.duel hj).abandons
    refine ⟨a, ?_⟩
    rw [run_append, run_append, turns, run_append]
    exact ha

end Pool

end Montage

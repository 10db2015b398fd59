import Montage.Proofs.Pool.Polls

/-!
Courses: what happens to a pool and to the work it carries over many steps.

A course is made of moves, and between them the pool may change in all that is not about slots. To
resume a task is such a course, and so is loading in advance. Each says which notes it can leave.
-/

namespace Montage

/-- Moves, and changes of elements and of what is not about slots. -/
inductive Course (c : Account) : List Note → Account → Prop
  | refl : Course c [] c
  | move {ns ms : List Note} {d e : Account} (h : Course c ns d) (m : Move d ms e) :
      Course c (ns ++ ms) e
  | book {ns : List Note} {d : Account} {q : Pool} (h : Course c ns d) (hq : d.pool.Agrees q) :
      Course c ns ⟨q, d.stake⟩

namespace Course

variable {c d e : Account} {ns ms : List Note} {q : Pool}

lemma of_moves (h : Moves c ns d) : Course c ns d := by
  induction h with
  | refl => exact .refl
  | step _ m ih => exact .move ih m

lemma settle (h : Course c ns d) (hq : d.pool.Agrees q) (hs : q.stake = d.stake) :
    Course c ns q.account := by
  have hbook := h.book hq
  rw [← hs] at hbook
  exact hbook

lemma trans (h : Course c ns d) (k : Course d ms e) : Course c (ns ++ ms) e := by
  induction k with
  | refl => simpa using h
  | move _ m ih => simpa using Course.move ih m
  | book _ hq ih => exact .book ih hq

lemma good (h : Course c ns d) (hc : c.Good) : d.Good := by
  induction h with
  | refl => exact hc
  | move _ m ih => exact ih.move m
  | book _ hq ih => exact ih.agrees hq

lemma size (h : Course c ns d) : d.pool.size = c.pool.size := by
  induction h with
  | refl => rfl
  | move _ m ih => rw [m.frame.2.2.2, ih]
  | book _ hq ih => exact hq.size.trans ih

lemma generation (h : Course c ns d) (i : Nat) :
    (d.pool.slot i).generation = (c.pool.slot i).generation + ns.countP (Note.rebinds i) := by
  induction h with
  | refl => simp
  | move _ m ih =>
    rw [m.generation, ih, List.countP_append]
    omega
  | book _ hq ih => rw [(Slot.record_eq_iff.mp (hq.record i)).2.2.2.2, ih]

lemma asset (h : Course c ns d) {i : Nat} (hn : ∀ n ∈ ns, n.rebinds i = false) :
    (d.pool.slot i).asset = (c.pool.slot i).asset := by
  induction h with
  | refl => rfl
  | move _ m ih =>
    rw [m.asset fun n hm => hn n (List.mem_append_right _ hm)]
    exact ih fun n hm => hn n (List.mem_append_left _ hm)
  | book _ hq ih => exact (Slot.record_eq_iff.mp (hq.record i)).1.trans (ih hn)

lemma binding_of_prepared (h : Course c ns d) (hc : c.Good) {i : Nat}
    (hp : (c.pool.slot i).prepared = true) (hn : ∀ n ∈ ns, n.evicts i = false) :
    (d.pool.slot i).binding = (c.pool.slot i).binding := by
  induction h with
  | refl => rfl
  | move k m ih =>
    have hold := ih fun n hm => hn n (List.mem_append_left _ hm)
    have hprep := (Slot.binding_eq_iff.mp hold).2.2.1.trans hp
    have hmove := m.binding_of_prepared (k.good hc) hprep fun n hm =>
      hn n (List.mem_append_right _ hm)
    exact hmove.trans hold
  | book _ hq ih => exact (hq.binding i).trans (ih hn)

lemma recalled {ks : List Note} (h : Course c ns d) (hc : c.Good) (hr : c.Recalled ks) :
    d.Recalled (ks ++ ns) := by
  induction h with
  | refl => simpa using hr
  | move k m ih => simpa using ih.move (k.good hc) m
  | @book ns d q k hq ih =>
    have hgen : ∀ j, (d.pool.slot j).generation ≤ (q.slot j).generation := fun j =>
      Nat.le_of_eq (Slot.record_eq_iff.mp (hq.record j)).2.2.2.2.symm
    have hcongr : Account.Recalled ⟨q, d.stake⟩ (ks ++ ns ++ []) :=
      ih.congr (k.good hc).owned hgen (fun _ => rfl) fun _ => rfl
    simpa using hcongr

end Course

namespace Pool

variable {p q : Pool} {t u : TaskId} {w : Work}

lemma stake_of_work? (h : p.work? t = some w) : p.stake t = w.stake := by
  simp [stake, h]

lemma stake_of_none (h : p.work? t = none) : p.stake t = .none := by
  simp [stake, h]

lemma stake_congr (h : q.work? u = p.work? t) : q.stake u = p.stake t := by
  simp [stake, h]

lemma find?_fst_cons (e : TaskId × Work) (es : List (TaskId × Work)) (t : TaskId) :
    ((e :: es).find? (·.1 == t)).map (·.2) =
      if e.1 = t then some e.2 else (es.find? (·.1 == t)).map (·.2) := by
  by_cases he : e.1 = t <;> simp [he]

lemma work?_setWork (p : Pool) (t u : TaskId) (w : Work) : (p.setWork t w).work? u =
    if u = t then (p.work? t).map fun _ => w else p.work? u := by
  simp only [work?, setWork]
  induction p.work with
  | nil => simp
  | cons e es ih =>
    rw [List.map_cons, find?_fst_cons, find?_fst_cons, find?_fst_cons, ih]
    by_cases he : e.1 = t
    · by_cases hu : u = t
      · simp [he, hu]
      · simp [he, hu, Ne.symm hu]
    · by_cases hu : e.1 = u
      · have hut : u ≠ t := fun h => he (hu.trans h)
        simp [hu, hut]
      · simp [he, hu]

lemma stake_setWork (h : p.work? t = some w) (w' : Work) :
    (p.setWork t w').stake = Function.update p.stake t w'.stake := by
  funext u
  have hw := work?_setWork p t u w'
  rw [Function.update_apply]
  split
  · next hu =>
    rw [if_pos hu, h] at hw
    exact stake_of_work? hw
  · next hu =>
    rw [if_neg hu] at hw
    exact stake_congr hw

lemma work?_append (h : q.work = p.work ++ [(t, w)]) (u : TaskId) :
    q.work? u = (p.work? u).or (if u = t then some w else none) := by
  simp only [work?, h]
  induction p.work with
  | nil =>
    rw [List.nil_append, find?_fst_cons]
    simp [eq_comm (a := t)]
  | cons e es ih =>
    rw [List.cons_append, find?_fst_cons, find?_fst_cons, ih]
    split <;> rfl

lemma stake_append (h : q.work = p.work ++ [(t, w)]) (ht : p.work? t = none) :
    q.stake = Function.update p.stake t w.stake := by
  funext u
  have hw := work?_append h u
  rw [Function.update_apply]
  split
  · next hu =>
    rw [if_pos hu, hu, ht, Option.none_or] at hw
    exact stake_of_work? (hu ▸ hw)
  · next hu =>
    rw [if_neg hu, Option.or_none] at hw
    exact stake_congr hw

lemma stake_take (p : Pool) (t : TaskId) (r : Request) : (p.take t r).stake = p.stake := by
  funext u
  have hw := work?_append (p := p) (q := p.take t r) rfl u
  rcases hu : p.work? u with _ | w
  · rw [hu, Option.none_or] at hw
    rw [stake_of_none hu, stake, hw]
    split
    · rfl
    · next h =>
      split at h
      · cases h
        rfl
      · simp at h
  · rw [hu, Option.some_or, ← hu] at hw
    exact stake_congr hw

lemma work?_forget (p : Pool) (t u : TaskId) :
    (p.forget t).work? u = if u = t then none else p.work? u := by
  simp only [work?, forget]
  induction p.work with
  | nil => simp
  | cons e es ih =>
    rw [List.filter_cons, find?_fst_cons]
    by_cases he : e.1 = t
    · by_cases hu : u = t
      · simp [he, hu]
      · simpa [he, hu, Ne.symm hu] using ih
    · by_cases hu : e.1 = u
      · have hut : u ≠ t := fun h => he (hu.trans h)
        simp [hu, hut]
      · simpa [he, hu, find?_fst_cons] using ih

lemma stake_forget (h : p.stake t = .none) : (p.forget t).stake = p.stake := by
  funext u
  have hw := work?_forget p t u
  by_cases hu : u = t
  · rw [if_pos hu] at hw
    rw [stake_of_none hw, hu, h]
  · rw [if_neg hu] at hw
    exact stake_congr hw

end Pool

/-- A note that a step of some work may leave. -/
def Work.Leaves (t : TaskId) : Work → Note → Prop
  | request r _, n => n.Allowed t r.pinned
  | warmup w _, n => n = .failed t w.slot

lemma Work.moves_poll {c : Account} {t : TaskId} {w : Work} (hc : c.Good)
    (was : c.stake t = w.stake) :
    ∃ ns, Moves c ns (c.put (w.poll t c.pool).1 t (w.poll t c.pool).2.stake) ∧
      ∀ n ∈ ns, w.Leaves t n := by
  cases w with
  | request r stage =>
    by_cases hs : ∃ result, stage = .done result
    · obtain ⟨result, rfl⟩ := hs
      refine ⟨[], ?_, by simp⟩
      have he : c.put c.pool t .none = c := Account.put_self was c.pool
      simp only [poll, Request.poll, stake, Request.Stage.stake, he]
      exact .refl
    · obtain ⟨ns, hns, hallowed, -⟩ := Request.goes_poll hc was fun result h => hs ⟨result, h⟩
      exact ⟨ns, hns, hallowed⟩
  | warmup w stage => exact Warmup.goes_poll hc was

namespace Pool

/-- The pool and its work are in order, and tasks that are still to start have no work. -/
structure Ordered (p : Pool) : Prop where
  good : p.account.Good
  started : ∀ e ∈ p.work, e.1 ≤ p.agenda.started

variable {p q : Pool} {t : TaskId} {w : Work}

lemma Ordered.work?_eq_none (h : p.Ordered) (ht : p.agenda.started < t) : p.work? t = none := by
  simp only [work?, Option.map_eq_none_iff, List.find?_eq_none, beq_iff_eq]
  intro e he hte
  exact absurd (hte ▸ h.started e he) (Nat.not_le.mpr ht)

lemma Ordered.holder_of_work? (h : p.Ordered) (hw : p.work? t = some w) {i : Nat}
    (hi : w.stake.held? = some i) : (p.slot i).lock.holder = some t :=
  h.good.fair.held ((congrArg Stake.held? (stake_of_work? hw)).trans hi)

lemma resume_eq (h : p.work? t = some w) :
    p.resume t = (w.poll t p).1.setWork t (w.poll t p).2 := by
  simp [resume, h]

lemma resume_eq_self (h : p.work? t = none) : p.resume t = p := by
  simp [resume, h]

lemma work?_resume (h : p.work? t = some w) (hwork : (w.poll t p).1.work = p.work) :
    (p.resume t).work? t = some (w.poll t p).2 := by
  have hw : (w.poll t p).1.work? t = some w := by
    rw [work?, hwork]
    exact h
  rw [resume_eq h, work?_setWork, if_pos rfl, hw]
  rfl

lemma work?_resume_of_ne {u : TaskId} (h : p.work? t = some w)
    (hwork : (w.poll t p).1.work = p.work) (hu : u ≠ t) : (p.resume t).work? u = p.work? u := by
  rw [resume_eq h, work?_setWork, if_neg hu, work?, hwork]
  rfl

/-- The moves of a poll are a course to the pool after the step. -/
lemma course_of_poll {ns : List Note} (hp : p.Ordered) (h : p.work? t = some w)
    (hns : Moves p.account ns (p.account.put (w.poll t p).1 t (w.poll t p).2.stake)) :
    Course p.account ns (p.resume t).account ∧ (p.resume t).Ordered := by
  have hwork : (w.poll t p).1.work = p.work := hns.frame.1
  have hstarted : (w.poll t p).1.agenda.started = p.agenda.started := hns.frame.2.1
  have hw : ∀ u, (w.poll t p).1.work? u = p.work? u := fun u => by rw [work?, hwork]; rfl
  have hstake : (w.poll t p).1.stake = p.stake := funext fun u => stake_congr (hw u)
  have hcourse : Course p.account ns (p.resume t).account := by
    rw [resume_eq h]
    refine (Course.of_moves hns).settle ⟨rfl, rfl, rfl, fun _ => rfl⟩ ?_
    rw [stake_setWork ((hw t).trans h), hstake]
    rfl
  refine ⟨hcourse, hcourse.good hp.good, fun e he => ?_⟩
  rw [resume_eq h] at he ⊢
  simp only [setWork, hwork, List.mem_map] at he
  obtain ⟨e', he', rfl⟩ := he
  have hle := hp.started e' he'
  simp only [setWork, hstarted]
  split
  · next hk => exact beq_iff_eq.mp hk ▸ hle
  · exact hle

lemma course_resume (hp : p.Ordered) (h : p.work? t = some w) :
    ∃ ns, (Course p.account ns (p.resume t).account ∧ (p.resume t).Ordered) ∧
      ∀ n ∈ ns, w.Leaves t n := by
  obtain ⟨ns, hns, hleaves⟩ := Work.moves_poll hp.good (stake_of_work? h)
  exact ⟨ns, course_of_poll hp h hns, hleaves⟩

lemma slot_startWarmup (p : Pool) (i j : Nat) (a : AssetId) (url : String) :
    (p.startWarmup i a url).slot j = (p.rebind (p.agenda.started + 1) i a).slot j := by
  have h : (p.startWarmup i a url).slot j =
      ((p.countUse.bind i a).lock i (p.agenda.started + 1)).slot j := rfl
  rw [h, slot_rebind, slot_lock, slot_bind, size_bind, size_countUse]
  split <;> rfl

@[simp] lemma size_startWarmup (p : Pool) (i : Nat) (a : AssetId) (url : String) :
    (p.startWarmup i a url).size = p.size := by
  have h : (p.startWarmup i a url).size =
      ((p.countUse.bind i a).lock i (p.agenda.started + 1)).size := rfl
  rw [h, size_lock, size_bind, size_countUse]

lemma course_startWarmup {i : Nat} {a : AssetId} {url : String} (hp : p.Ordered)
    (alive : p.disposed = false) (hwants : p.slotOf? a = none) (hidle : p.idleSlot? = some i) :
    Course p.account [.bound (p.agenda.started + 1) i ((p.slot i).generation + 1)]
      (p.startWarmup i a url).account ∧ (p.startWarmup i a url).Ordered := by
  obtain ⟨hlt, -, hfree⟩ := idleSlot?_eq_some hidle
  have hnew : p.work? (p.agenda.started + 1) = none := hp.work?_eq_none (Nat.lt_succ_self _)
  have hgen : ((p.startWarmup i a url).slot i).generation = (p.slot i).generation + 1 := by
    rw [slot_startWarmup, slot_rebind, if_pos ⟨rfl, hlt⟩]
    rfl
  have hstake : (p.startWarmup i a url).stake = Function.update p.stake (p.agenda.started + 1)
      (.loading i ((p.slot i).generation + 1) a) := by
    rw [stake_append (p := p) (q := p.startWarmup i a url) rfl hnew, ← hgen]
    rfl
  have htake : Move p.account [.bound (p.agenda.started + 1) i ((p.slot i).generation + 1)]
      (p.account.put (p.rebind (p.agenda.started + 1) i a) (p.agenda.started + 1)
        (.loading i ((p.slot i).generation + 1) a)) :=
    .take (stake_of_none hnew) alive hwants hfree hlt
  have hagrees : (p.rebind (p.agenda.started + 1) i a).Agrees (p.startWarmup i a url) := by
    refine ⟨?_, rfl, rfl, fun j => ?_⟩
    · rw [size_startWarmup, size_rebind]
    · rw [slot_startWarmup]
  have hcourse := (Course.of_moves (.of_move htake)).settle hagrees hstake
  refine ⟨hcourse, hcourse.good hp.good, fun e he => ?_⟩
  rcases List.mem_append.mp he with he | he
  · exact Nat.le_succ_of_le (hp.started e he)
  · rw [List.mem_singleton.mp he]
    exact Nat.le_refl _

/-- Loading in advance binds slots that nothing is bound to. -/
lemma course_warmUp (lookup : AssetId → Option MediaAsset) (budget : Nat) (ids : List AssetId)
    (n : Nat) (hp : p.Ordered) (alive : p.disposed = false) :
    ∃ ns, Course p.account ns (warmUp lookup budget ids n p).2.account ∧
      (warmUp lookup budget ids n p).2.Ordered ∧
        ∀ n ∈ ns, ∃ t i g, n = .bound t i g ∧ (p.slot i).asset = none := by
  fun_induction warmUp lookup budget ids n p with
  | case1 => exact ⟨[], .refl, hp, by simp⟩
  | case2 => exact ⟨[], .refl, hp, by simp⟩
  | case3 _ _ _ _ _ _ ih => exact ih hp alive
  | case4 => exact ⟨[], .refl, hp, by simp⟩
  | case5 budget id rest n p a _ hwants i hidle ih =>
    have hunbound : p.slotOf? id = none := by
      simp only [wantsWarmup, Bool.and_eq_true, Option.isNone_iff_eq_none] at hwants
      exact hwants.1.1
    obtain ⟨hstart, hstarted⟩ := course_startWarmup hp alive hunbound hidle
    obtain ⟨ns, hns, hordered, hbound⟩ := ih hstarted alive
    refine ⟨_, hstart.trans hns, hordered, fun n hn => ?_⟩
    rcases List.mem_append.mp hn with hn | hn
    · exact ⟨_, _, _, List.mem_singleton.mp hn, (idleSlot?_eq_some hidle).2.1⟩
    · obtain ⟨u, j, g, rfl, hj⟩ := hbound n hn
      refine ⟨u, j, g, rfl, ?_⟩
      rw [slot_startWarmup, slot_rebind] at hj
      split at hj
      · simp [Slot.bind] at hj
      · exact hj
  | case6 _ _ _ _ _ _ _ _ ih => exact ih hp alive

lemma course_preload (hp : p.Ordered) (upcoming : List AssetId) (assets : AssetTable) :
    ∃ ns, Course p.account ns (p.preload upcoming assets).2.account ∧
      (p.preload upcoming assets).2.Ordered ∧
        ∀ n ∈ ns, ∃ t i g, n = .bound t i g ∧ (p.slot i).asset = none := by
  unfold preload preloadFrom
  split
  · exact ⟨[], .refl, hp, by simp⟩
  · next h =>
    have alive : p.disposed = false := by
      simp only [Bool.or_eq_true, not_or] at h
      simpa using h.2
    exact course_warmUp assets.find? _ upcoming 0 hp alive

end Pool

end Montage

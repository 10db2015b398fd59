import Montage.Proofs.Pool.Background
import Montage.Proofs.Pool.Elements
import Montage.Proofs.Pool.Pauses

/-!
Pools in which only the main task has a request.

Beside it there are loads in advance, and these only ever hold the slot that they load. So a slot
that is prepared is free for the main task, a load in advance that fails leaves its slot to whoever
waits for it, and nobody else binds anything.
-/

namespace Montage

namespace Pool

/-- No task but the main one has a request that is not over. -/
structure Alone (p : Pool) : Prop where
  ordered : p.Ordered
  vacant : p.account.Vacant
  main : ∀ w stage, p.work? .main ≠ some (.warmup w stage)
  others : ∀ t ≠ TaskId.main, ∀ r stage, p.work? t = some (.request r stage) →
    ∃ result, stage = .done result

/-- Something that may go on beside the request of the main task: loads in advance have their turns,
time passes, and loads and seeks come to take longer or less long. The same sources fail. -/
def Event.Beside (p : Pool) : Event → Prop
  | resume t => ∀ r stage, p.work? t ≠ some (.request r stage)
  | schedule _ => True
  | backend b => b.failing = p.backend.failing
  | _ => False

/-- The main task has the lock of a slot or may have it next. -/
def IsOpen (p : Pool) (i : Nat) : Prop := ∀ t ≠ TaskId.main, (p.slot i).lock.holder ≠ some t

variable {p q : Pool} {t : TaskId} {i j : Nat} {a : AssetId} {e : Event}

namespace Alone

lemma of_run {config : PoolConfig} {backend : Backend} {es : List Event}
    (hp : p = (Pool.new config backend).run es) (idle : p.work? .main = none)
    (others : ∀ t ≠ TaskId.main, ∀ r stage, p.work? t = some (.request r stage) →
      ∃ result, stage = .done result) : p.Alone where
  ordered := hp ▸ (Ordered.new config backend).run es
  vacant := hp ▸ (Ordered.new config backend).vacant (vacant_new config backend) es
  main w stage hw := by simp [idle] at hw
  others := others

lemma stake_of_ne (h : p.Alone) (ht : t ≠ .main) (hi : (p.stake t).lock? = some i) :
    ∃ g a, p.stake t = .loading i g a := by
  rcases hw : p.work? t with _ | (⟨r, stage⟩ | ⟨w, stage⟩)
  · rw [stake_of_none hw] at hi
    cases hi
  · obtain ⟨result, rfl⟩ := h.others t ht r stage hw
    rw [stake_of_work? hw] at hi
    cases hi
  · rw [stake_of_work? hw] at hi ⊢
    cases stage with
    | unstarted | loading =>
      cases hi
      exact ⟨_, _, rfl⟩
    | done => cases hi

lemma stake_of_holder (h : p.Alone) (ht : t ≠ .main) (hi : (p.slot i).lock.holder = some t) :
    ∃ g a, p.stake t = .loading i g a := by
  refine h.stake_of_ne ht (h.ordered.good.fair.mem.mp ?_)
  have hmem : t ∈ (p.slot i).lock.tasks := by simp [Lock.tasks, hi]
  exact hmem

lemma waiting (h : p.Alone) (ht : t ∈ (p.slot i).lock.waiting) : t = .main := by
  by_contra hne
  have hfair := h.ordered.good.fair
  have hmem : t ∈ (p.slot i).lock.tasks := List.mem_append_right _ ht
  obtain ⟨g, a, hs⟩ := h.stake_of_ne hne (hfair.mem.mp hmem)
  have hheld : (p.account.stake t).held? = some i := congrArg Stake.held? hs
  have hholder : (p.slot i).lock.holder = some t := hfair.held hheld
  have hnodup : (p.slot i).lock.tasks.Nodup := hfair.nodup i
  rw [Lock.tasks, hholder] at hnodup
  exact (List.nodup_cons.mp hnodup).1 ht

lemma waiting_eq_nil (h : p.Alone) (hi : (p.slot i).lock.holder = some .main) :
    (p.slot i).lock.waiting = [] := by
  rw [List.eq_nil_iff_forall_not_mem]
  intro t ht
  obtain rfl := h.waiting ht
  have hnodup : (p.slot i).lock.tasks.Nodup := h.ordered.good.fair.nodup i
  rw [Lock.tasks, hi] at hnodup
  exact (List.nodup_cons.mp hnodup).1 ht

lemma not_prepared (h : p.Alone) (ht : t ≠ .main) (hi : (p.slot i).lock.holder = some t) :
    (p.slot i).prepared = false := by
  obtain ⟨g, a, hs⟩ := h.stake_of_holder ht hi
  have hsound := h.ordered.good.tidy.sound i
  by_cases hg : (p.slot i).generation = g
  · exact hsound.not_prepared ((h.ordered.good.owned.loading hs).2 hg).1
  · exact (hsound.flags_of_unbound (h.vacant t i g a hs hg)).2

lemma isOpen_of_prepared (h : p.Alone) (hi : (p.slot i).prepared = true) : p.IsOpen i := by
  intro t ht hholder
  simp [h.not_prepared ht hholder] at hi

/-- A slot that is bound, and that neither a load in advance nor the main task loads, is
prepared. -/
lemma prepared_of_isOpen (h : p.Alone) (hi : p.IsOpen i)
    (hmain : ∀ g a, p.stake .main ≠ .loading i g a) (hbound : (p.slot i).asset ≠ none) :
    (p.slot i).prepared = true := by
  have hloading : (p.slot i).loading = false := by
    by_contra hnot
    have hl : (p.account.pool.slot i).loading = true := (Bool.not_eq_false _).mp hnot
    obtain ⟨t, a, hs⟩ := h.ordered.good.owned.loader hl
    have hheld : (p.account.stake t).held? = some i := congrArg Stake.held? hs
    have hholder : (p.slot i).lock.holder = some t := h.ordered.good.fair.held hheld
    by_cases ht : t = .main
    · subst ht
      exact hmain _ a hs
    · exact hi t ht hholder
  have hflags : (p.slot i).loading = !(p.slot i).prepared :=
    (h.ordered.good.tidy.sound i).flags_of_bound hbound
  simpa [hloading] using hflags.symm

lemma isOpen_of_isFree (free : p.isFree i = true) : p.IsOpen i := by
  intro t _ hholder
  simp [isFree_iff.mp free] at hholder

lemma isOpen_of_held (h : p.Alone) (hi : (p.stake .main).held? = some i) : p.IsOpen i := by
  have hheld : (p.account.stake .main).held? = some i := hi
  have hholder : (p.slot i).lock.holder = some .main := h.ordered.good.fair.held hheld
  intro t ht ht'
  exact ht (Option.some.inj (ht'.symm.trans hholder))

lemma prepared_of_isFree (h : p.Alone) (free : p.isFree i = true)
    (hbound : (p.slot i).asset ≠ none) : (p.slot i).prepared = true := by
  refine h.prepared_of_isOpen (isOpen_of_isFree free) (fun g a hs => ?_) hbound
  have hheld : (p.account.stake .main).held? = some i := congrArg Stake.held? hs
  have hholder : (p.slot i).lock.holder = some .main := h.ordered.good.fair.held hheld
  simp [isFree_iff.mp free] at hholder

/-- Without a request of the main task under way, a slot is free or a load in advance has it. -/
lemma isFree_of_isOpen (h : p.Alone) (idle : (p.stake .main).lock? = none) (hi : p.IsOpen i) :
    p.isFree i = true := by
  rw [isFree_iff]
  rcases hholder : (p.slot i).lock.holder with _ | t
  · rfl
  · obtain rfl : t = .main := by
      by_contra ht
      exact hi t ht hholder
    have hmem : TaskId.main ∈ (p.slot i).lock.tasks := by simp [Lock.tasks, hholder]
    have hstake : (p.stake .main).lock? = some i := h.ordered.good.fair.mem.mp hmem
    simp [hstake] at idle

lemma apply (h : p.Alone) (e : Event)
    (main : ∀ w stage, (e.apply p).work? .main ≠ some (.warmup w stage))
    (others : ∀ t ≠ TaskId.main, ∀ r stage, (e.apply p).work? t = some (.request r stage) →
      ∃ result, stage = .done result) : (e.apply p).Alone := by
  obtain ⟨_, ⟨-, hordered⟩, -⟩ := e.course h.ordered
  exact ⟨hordered, h.ordered.vacant h.vacant [e], main, others⟩

lemma take (h : p.Alone) (idle : p.work? .main = none) (r : Request) :
    (p.take .main r).Alone ∧ (p.take .main r).work? .main = some (.request r .unstarted) := by
  have hwork := fun t => work?_append (p := p) (q := p.take .main r) rfl t
  have hmain : (p.take .main r).work? .main = some (.request r .unstarted) := by
    rw [hwork, idle]
    rfl
  have hcall : (Event.call r).apply p = p.take .main r := by
    rw [Event.apply, idle, Option.isNone_none, if_pos rfl]
  refine ⟨hcall ▸ h.apply (.call r) ?_ ?_, hmain⟩
  all_goals rw [hcall]
  · simp [hmain]
  · intro t ht r' stage hw
    rw [hwork, if_neg ht, Option.or_none] at hw
    exact h.others t ht r' stage hw

lemma resume {r : Request} {stage : Request.Stage} (h : p.Alone)
    (hw : p.work? .main = some (.request r stage)) : (p.resume .main).Alone := by
  obtain ⟨_, hns, -⟩ := Work.moves_poll h.ordered.good (stake_of_work? hw)
  have hwork : ((Work.request r stage).poll .main p).1.work = p.work := hns.frame.1
  refine h.apply (.resume .main) (fun w stage' hwarm => ?_) fun t ht r' stage' hreq => ?_
  · cases (work?_resume hw hwork).symm.trans hwarm
  · exact h.others t ht r' stage' ((work?_resume_of_ne hw hwork ht).symm.trans hreq)

/-- The request of the main task is over, and what has come of it is handed out. -/
lemma forget (h : p.Alone) (ended : (p.result? .main).isSome = true) :
    (p.forget .main).Alone ∧ (p.forget .main).work? .main = none := by
  have hmain : (p.forget .main).work? .main = none := by simp [work?_forget]
  have hcollect : (Event.collect .main).apply p = p.forget .main := by
    have hover : p.isOver .main = true := ended
    rw [Event.apply, if_pos hover, collect]
  refine ⟨hcollect ▸ h.apply (.collect .main) ?_ ?_, hmain⟩
  all_goals rw [hcollect]
  · simp [hmain]
  · intro t ht r stage hw
    rw [work?_forget, if_neg ht] at hw
    exact h.others t ht r stage hw

lemma modifyElement (h : p.Alone) (i : Nat) (f : Element → Element) :
    (p.modifyElement i f).Alone :=
  h.apply (.element i f) h.main h.others

/-- No other task takes a slot that the main task has, or may have, while the main task goes on. -/
lemma isOpen_resume {r : Request} {stage : Request.Stage} (h : p.Alone)
    (hw : p.work? .main = some (.request r stage)) (hi : p.IsOpen i) :
    (p.resume .main).IsOpen i := by
  intro t ht hholder
  have hq := h.resume hw
  obtain ⟨_, hns, -⟩ := Work.moves_poll h.ordered.good (stake_of_work? hw)
  have hwork : ((Work.request r stage).poll .main p).1.work = p.work := hns.frame.1
  have hstake : (p.resume .main).stake t = p.stake t :=
    stake_congr (work?_resume_of_ne hw hwork ht)
  obtain ⟨g, a, hs⟩ := hq.stake_of_holder ht hholder
  have hmem : t ∈ ((p.resume .main).slot i).lock.tasks := by simp [Lock.tasks, hholder]
  have hlock : ((p.resume .main).stake t).lock? = some i := hq.ordered.good.fair.mem.mp hmem
  rw [hs] at hlock hstake
  have hheld : (p.account.stake t).held? = some i := by
    rw [show p.account.stake t = .loading _ g a from hstake.symm]
    exact hlock
  exact hi t ht (h.ordered.good.fair.held hheld)

end Alone

lemma Event.Background.alone (he : e.Background p) (h : p.Alone) : (e.apply p).Alone := by
  refine h.apply e (fun w stage => ?_) fun t ht r stage hw => ?_
  · rw [he.work?_main h.ordered h.main]
    exact h.main w stage
  · rcases he.follows h.ordered t with hsame | ⟨⟨w, stage', hwarm⟩, -⟩
    · exact h.others t ht r stage (hsame ▸ hw)
    · simp [hwarm] at hw

/-! ### What goes on beside the main task -/

/-- A turn of a load in advance has to do with no slot but its own. -/
lemma slot_warmup_of_ne {w : Warmup} (hi : w.slot ≠ i) (t : TaskId) (stage : Warmup.Stage) :
    (w.poll t p stage).1.slot i = p.slot i := by
  have hload : ∀ (q : Pool) due, (w.pollLoad q due).1.slot i = q.slot i := by
    intro q due
    unfold Warmup.pollLoad
    split
    · have hfinish : (q.finishLoad w.slot w.generation w.asset w.url).1.slot i = q.slot i := by
        have hf := q.finishes w.slot w.generation w.asset w.url
        obtain ⟨out, hout⟩ : ∃ out, q.finishLoad w.slot w.generation w.asset w.url = out := ⟨_, rfl⟩
        rw [hout] at hf ⊢
        cases hf with
        | lost => rfl
        | loaded => simp [hi]
        | failed => simp [hi]
      rw [slot_unlock, if_neg (by simp [hi]), hfinish]
    · rfl
  cases stage with
  | unstarted =>
    refine (hload (p.begun t w) _).trans ?_
    rw [slot_warmup, if_neg (by simp [hi])]
  | loading due => exact hload p due
  | done => rfl

/-- A turn of a load in advance leaves a slot bound as it was, or unbinds it. -/
lemma binding_warmup (w : Warmup) (t : TaskId) (stage : Warmup.Stage) (i : Nat) :
    ((w.poll t p stage).1.slot i).generation = (p.slot i).generation ∧
        ((w.poll t p stage).1.slot i).asset = (p.slot i).asset ∨
      ((w.poll t p stage).1.slot i).asset = none := by
  have hload : ∀ (q : Pool) due, ((w.pollLoad q due).1.slot i).generation = (q.slot i).generation ∧
        ((w.pollLoad q due).1.slot i).asset = (q.slot i).asset ∨
      ((w.pollLoad q due).1.slot i).asset = none := by
    intro q due
    have hunlock : ∀ q : Pool, ((q.unlock w.slot).slot i).generation = (q.slot i).generation ∧
        ((q.unlock w.slot).slot i).asset = (q.slot i).asset := by
      intro q
      rw [slot_unlock]
      split <;> exact ⟨rfl, rfl⟩
    unfold Warmup.pollLoad
    split
    · have hf := q.finishes w.slot w.generation w.asset w.url
      obtain ⟨out, hout⟩ : ∃ out, q.finishLoad w.slot w.generation w.asset w.url = out := ⟨_, rfl⟩
      rw [hout] at hf ⊢
      cases hf with
      | lost => exact .inl (hunlock q)
      | loaded =>
        rw [(hunlock _).1, (hunlock _).2, slot_modifySlot]
        split <;> exact .inl ⟨rfl, rfl⟩
      | failed =>
        rw [(hunlock _).1, (hunlock _).2, slot_unbind]
        split
        · exact .inr rfl
        · exact .inl ⟨rfl, rfl⟩
    · exact .inl ⟨rfl, rfl⟩
  cases stage with
  | unstarted =>
    have hbegun : ((p.begun t w).slot i).generation = (p.slot i).generation ∧
        ((p.begun t w).slot i).asset = (p.slot i).asset := by
      rw [slot_warmup]
      split <;> exact ⟨rfl, rfl⟩
    have hpoll := hload (p.begun t w) (p.now + p.backend.loadMs)
    rwa [hbegun.1, hbegun.2] at hpoll
  | loading due => exact hload p due
  | done => exact .inl ⟨rfl, rfl⟩

namespace Event.Beside

lemma background (he : e.Beside p) : e.Background p := by
  cases e with
  | resume => exact he
  | schedule | backend => trivial
  | _ => exact he.elim

lemma handsOff (he : e.Beside p) : e.HandsOff p := by
  cases e with
  | resume | schedule => trivial
  | backend => exact he
  | _ => exact he.elim

lemma work?_main (he : e.Beside p) (h : p.Alone) : (e.apply p).work? .main = p.work? .main :=
  he.background.work?_main h.ordered h.main

lemma alone (he : e.Beside p) (h : p.Alone) : (e.apply p).Alone := he.background.alone h

/-- A slot that the main task has, or may have next, is left as it is. -/
lemma slot_eq (he : e.Beside p) (h : p.Alone) (hi : p.IsOpen i) :
    (e.apply p).slot i = p.slot i := by
  cases e with
  | schedule | backend => rfl
  | resume t =>
    rcases hw : p.work? t with _ | (⟨r, stage⟩ | ⟨w, stage⟩)
    · rw [apply, resume_eq_self hw]
    · exact absurd hw (he r stage)
    · have hslot : (p.resume t).slot i = (w.poll t p stage).1.slot i := slot_resume hw i
      rw [apply, hslot]
      by_cases hdone : stage.stake w = .none
      · cases stage with
        | done => rfl
        | unstarted | loading => cases hdone
      · refine slot_warmup_of_ne ?_ t stage
        rintro rfl
        have hheld : (Work.warmup w stage).stake.held? = some w.slot := by
          cases stage with
          | done => exact absurd rfl hdone
          | unstarted | loading => rfl
        refine hi t ?_ (h.ordered.holder_of_work? hw hheld)
        rintro rfl
        exact h.main w stage hw
  | _ => exact he.elim

lemma isOpen (he : e.Beside p) (h : p.Alone) (hi : p.IsOpen i) : (e.apply p).IsOpen i := by
  intro t ht
  rw [he.slot_eq h hi]
  exact hi t ht

lemma binding (he : e.Beside p) (i : Nat) :
    ((e.apply p).slot i).generation = (p.slot i).generation ∧
        ((e.apply p).slot i).asset = (p.slot i).asset ∨
      ((e.apply p).slot i).asset = none := by
  cases e with
  | schedule | backend => exact .inl ⟨rfl, rfl⟩
  | resume t =>
    rcases hw : p.work? t with _ | (⟨r, stage⟩ | ⟨w, stage⟩)
    · rw [apply, resume_eq_self hw]
      exact .inl ⟨rfl, rfl⟩
    · exact absurd hw (he r stage)
    · have hslot : (p.resume t).slot i = (w.poll t p stage).1.slot i := slot_resume hw i
      rw [apply, hslot]
      exact binding_warmup w t stage i
  | _ => exact he.elim

end Event.Beside

end Pool

end Montage

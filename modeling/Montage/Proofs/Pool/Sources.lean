import Montage.Proofs.Pool.Unbound

/-!
Where the element of a slot has its source from.

The element of a slot that is prepared has the source that it was loaded from when the slot was
bound last. Assets are told apart by id, so whoever finds an asset bound is given an element that
may have been loaded from elsewhere.
-/

namespace Montage

namespace Pool

variable {p c : Pool} {es : List Event} {e : Event} {t : TaskId} {i : Nat}

/-- The slot is prepared, and was bound or unbound last at a generation. -/
def IsPreparedAt (p : Pool) (i g : Nat) : Prop :=
  (p.slot i).prepared = true ∧ (p.slot i).generation = g

/-- A step of some work for an asset, in which a slot was loaded from a url. -/
structure Event.Loads (i g : Nat) (a : AssetId) (url : String) (p : Pool) (e : Event) : Prop where
  turn : ∃ t w, e = .resume t ∧ p.work? t = some w ∧ w.asset = a ∧ w.url = url
  before : ¬p.IsPreparedAt i g
  after : (e.apply p).IsPreparedAt i g

lemma Ordered.asset_of_prepared (hp : p.Ordered) (h : (p.slot i).prepared = true) :
    (p.slot i).asset ≠ none := by
  intro hnone
  have hflags := ((hp.good.tidy.sound i).flags_of_unbound hnone).2
  rw [show (p.account.pool.slot i).prepared = true from h] at hflags
  cases hflags

/-- **A prepared slot** plays what it was loaded from. -/
lemma Ordered.source_of_prepared (hc : c.Ordered) (hv : c.account.Vacant)
    (hstart : ∀ i, (c.slot i).prepared = false) (es : List Event) (gentle : ∀ e ∈ es, e.Gentle)
    (hprep : ((c.run es).slot i).prepared = true) :
    ∃ a url, ((c.run es).slot i).asset = some a ∧ ((c.run es).element i).source = some url ∧
      c.Once es (Event.Loads i ((c.run es).slot i).generation a url) := by
  induction es using List.reverseRecOn with
  | nil => simp [hstart] at hprep
  | append_singleton es e ih =>
    have hturns := e.turns (hc.run es) (hc.vacant hv es)
      (gentle e (List.mem_append_right _ (List.mem_singleton_self e))) i
    have hrun := c.run_concat es e
    have hasset := (hc.run (es ++ [e])).asset_of_prepared hprep
    rw [← hrun] at hturns
    cases hturns with
    | keeps h =>
      obtain ⟨a, url, ha, hs, honce⟩ :=
        ih (fun e he => gentle e (List.mem_append_left _ he)) (h.prepared.symm.trans hprep)
      refine ⟨a, url, h.asset.trans ha, h.element.source.trans hs, once_concat.mpr (.inl ?_)⟩
      rw [h.generation]
      exact honce
    | clears h => exact absurd h.asset hasset
    | reserves h => simp [h.prepared] at hprep
    | @binds t r stage turn work live h =>
      refine ⟨_, _, h.asset, h.source,
        once_concat.mpr (.inr ⟨⟨t, _, turn, work, rfl, rfl⟩, ?_, ?_⟩)⟩
      · exact fun hbefore => absurd hbefore.2 (Nat.ne_of_lt h.later)
      · rw [← hrun]
        exact ⟨hprep, rfl⟩
    | @fills t w turn work stake asset empty h =>
      refine ⟨_, _, h.asset.trans asset, h.source,
        once_concat.mpr (.inr ⟨⟨t, _, turn, work, rfl, rfl⟩, ?_, ?_⟩)⟩
      · exact fun hbefore => by simp [hbefore.1] at empty
      · rw [← hrun]
        exact ⟨hprep, rfl⟩
    | late _ binding unbound _ =>
      exact absurd ((Slot.binding_eq_iff.mp binding).1.trans unbound) hasset

/-! ### Laws about sources -/

/-- The asset may be loaded from the url as the event has it. -/
def Event.Offers : Event → AssetId → String → Prop
  | request r, a, url | call r, a, url => r.asset.id = a ∧ r.asset.url = url
  | preload _ assets, a, url => ∃ m, assets.find? a = some m ∧ m.url = url
  | _, _, _ => False

/-- Slots are loaded as a law has it: it tells for each slot and generation which url an asset may
be loaded from. -/
structure Obeys (law : Nat → Nat → AssetId → String → Prop) (p : Pool) : Prop where
  slots : ∀ i, (p.slot i).prepared = true → ∃ a url, (p.slot i).asset = some a ∧
    (p.element i).source = some url ∧ law i (p.slot i).generation a url
  loads : ∀ t w i g, p.work? t = some w → w.stake = .loading i g w.asset → law i g w.asset w.url
  asks : ∀ t r stage, p.work? t = some (.request r stage) → (∀ result, stage ≠ .done result) →
    ∀ i g, (p.slot i).generation < g → law i g r.asset.id r.asset.url

variable {law : Nat → Nat → AssetId → String → Prop}

end Pool

namespace Request

variable {t : TaskId} {r : Request} {p : Pool} {stage : Stage} {out : Pool × Stage} {i g n : Nat}

lemma Seeks.ne_loading {j k due : Nat} (h : Seeks r p i g out) : out.2 ≠ .loading j k due := by
  cases h <;> nofun

lemma Loads.eq_of_loading {j k due due' : Nat} (h : Loads r p i g due out)
    (ho : out.2 = .loading j k due') : i = j ∧ g = k := by
  cases h with
  | waits =>
    cases ho
    exact ⟨rfl, rfl⟩
  | loads _ _ _ seeks => exact absurd ho seeks.ne_loading
  | lost | fails => cases ho

lemma Runs.later_of_loading {j k due : Nat} (h : Runs t r n p out) (ho : out.2 = .loading j k due) :
    (p.slot j).generation < k := by
  induction h with
  | binds _ _ _ _ _ _ loads =>
    obtain ⟨rfl, rfl⟩ := loads.eq_of_loading ho
    exact Nat.lt_succ_self _
  | serves _ _ _ seeks => exact absurd ho seeks.ne_loading
  | @again n i p out bound free runs other ih =>
    have hkeeps := ((p.keeps_touch i j).trans (Pool.keeps_lock _ i j t)).trans
      (Pool.keeps_unlock _ i j)
    exact hkeeps.generation ▸ ih ho
  | spent | refused | joins | waits | exhausted => cases ho

lemma Steps.later_of_loading {j k due : Nat} (h : Steps t r p stage out)
    (ho : out.2 = .loading j k due) :
    (∃ due, stage = .loading j k due) ∨ (p.slot j).generation < k := by
  cases h with
  | starts runs => exact .inr (runs.later_of_loading ho)
  | @again i _ _ _ _ runs =>
    exact .inr ((p.keeps_unlock i j).generation ▸ runs.later_of_loading ho)
  | uses _ _ seeks | seeks seeks => exact absurd ho seeks.ne_loading
  | loads loads =>
    obtain ⟨rfl, rfl⟩ := loads.eq_of_loading ho
    exact .inl ⟨_, rfl⟩
  | refused | stays => cases ho

end Request

lemma Warmup.stake_of_poll {w : Warmup} {t : TaskId} {p : Pool} {stage : Stage} {i g : Nat}
    {a : AssetId} (h : (w.poll t p stage).2.stake w = .loading i g a) :
    stage.stake w = .loading i g a := by
  have hload : ∀ (q : Pool) (due : Nat), (w.pollLoad q due).2.stake w = .loading i g a →
      Stake.loading w.slot w.generation w.asset = .loading i g a := by
    intro q due h
    unfold pollLoad at h
    split at h
    · cases h
    · exact h
  cases stage with
  | unstarted | loading => exact hload _ _ h
  | done => exact h

namespace Pool

variable {p q : Pool} {es : List Event} {e : Event} {t : TaskId} {i : Nat}
  {law : Nat → Nat → AssetId → String → Prop}

lemma Event.generation_le (hp : p.Ordered) (e : Event) (i : Nat) :
    (p.slot i).generation ≤ ((e.apply p).slot i).generation := hp.generation_le [e] i

lemma Obeys.slots_event (h : p.Obeys law) (hp : p.Ordered) (hv : p.account.Vacant)
    (he : e.Gentle) (i : Nat) (hprep : ((e.apply p).slot i).prepared = true) :
    ∃ a url, ((e.apply p).slot i).asset = some a ∧ ((e.apply p).element i).source = some url ∧
      law i ((e.apply p).slot i).generation a url := by
  have hordered : (e.apply p).Ordered := hp.run [e]
  have hasset := hordered.asset_of_prepared hprep
  cases e.turns hp hv he i with
  | keeps hk =>
    obtain ⟨a, url, ha, hs, hlaw⟩ := h.slots i (hk.prepared.symm.trans hprep)
    exact ⟨a, url, hk.asset.trans ha, hk.element.source.trans hs, hk.generation ▸ hlaw⟩
  | clears hk => exact absurd hk.asset hasset
  | reserves hk => simp [hk.prepared] at hprep
  | binds _ work live hk => exact ⟨_, _, hk.asset, hk.source, h.asks _ _ _ work live i _ hk.later⟩
  | fills _ work stake asset _ hk =>
    exact ⟨_, _, hk.asset.trans asset, hk.source, hk.same ▸ h.loads _ _ _ _ work stake⟩
  | late _ binding unbound _ =>
    exact absurd ((Slot.binding_eq_iff.mp binding).1.trans unbound) hasset

/-- Work that may be taken on under a law. -/
structure Admits (law : Nat → Nat → AssetId → String → Prop) (p : Pool) (w : Work) : Prop where
  loads : ∀ i g, w.stake = .loading i g w.asset → law i g w.asset w.url
  asks : ∀ r stage, w = .request r stage → (∀ result, stage ≠ .done result) →
    ∀ i g, (p.slot i).generation < g → law i g r.asset.id r.asset.url

lemma Admits.request {r : Request}
    (h : ∀ i g, (p.slot i).generation < g → law i g r.asset.id r.asset.url) :
    p.Admits law (.request r .unstarted) where
  loads i g hs := by cases hs
  asks r' stage heq _ := by
    cases heq
    exact h

lemma Obeys.of_work (h : p.Obeys law) (hgen : ∀ i, (p.slot i).generation ≤ (q.slot i).generation)
    (hslots : ∀ i, (q.slot i).prepared = true → ∃ a url, (q.slot i).asset = some a ∧
      (q.element i).source = some url ∧ law i (q.slot i).generation a url)
    (hwork : ∀ t w, q.work? t = some w → p.work? t = some w ∨ p.Admits law w) : q.Obeys law where
  slots := hslots
  loads t w i g hw hs := by
    rcases hwork t w hw with hold | hnew
    · exact h.loads t w i g hold hs
    · exact hnew.loads i g hs
  asks t r stage hw live i g hg := by
    rcases hwork t _ hw with hold | hnew
    · exact h.asks t r stage hold live i g (Nat.lt_of_le_of_lt (hgen i) hg)
    · exact hnew.asks r stage rfl live i g (Nat.lt_of_le_of_lt (hgen i) hg)

lemma Admits.of_append {u : TaskId} {v : Work} (h : p.Admits law v)
    (hq : q.work = p.work ++ [(u, v)]) (t : TaskId) (w : Work) (hw : q.work? t = some w) :
    p.work? t = some w ∨ p.Admits law w := by
  rw [work?_append hq, Option.or_eq_some_iff] at hw
  rcases hw with hw | ⟨-, hw⟩
  · exact .inl hw
  · split at hw
    · cases hw
      exact .inr h
    · cases hw

/-- A step of some work leaves it with what it may load. -/
lemma Obeys.resume (h : p.Obeys law) (hp : p.Ordered) (hv : p.account.Vacant) (t : TaskId) :
    (p.resume t).Obeys law := by
  rcases hw : p.work? t with _ | w
  · rw [resume_eq_self hw]
    exact h
  have hslots := h.slots_event (e := .resume t) hp hv trivial
  refine h.of_work (Event.generation_le hp (.resume t)) hslots fun u v hv' => ?_
  have hwork : (w.poll t p).1.work = p.work := by
    obtain ⟨ns, hns, -⟩ := Work.moves_poll hp.good (stake_of_work? hw)
    exact hns.frame.1
  by_cases hu : u = t
  · subst hu
    rw [work?_resume hw hwork, Option.some.injEq] at hv'
    subst hv'
    right
    cases w with
    | warmup w stage =>
      refine ⟨fun i g hs => ?_, fun r' stage' heq => ?_⟩
      · have hpolled : (w.poll u p stage).2.stake w = .loading i g w.asset := hs
        exact h.loads u (.warmup w stage) i g hw (Warmup.stake_of_poll hpolled)
      · have hwarm : Work.warmup w (w.poll u p stage).2 = .request r' stage' := heq
        cases hwarm
    | request r stage =>
      by_cases hdone : ∃ result, stage = .done result
      · obtain ⟨result, rfl⟩ := hdone
        refine ⟨fun i g hs => ?_, fun r' stage' heq live => ?_⟩
        · cases hs
        · cases heq
          exact absurd rfl (live result)
      have hs : ∀ result, stage ≠ .done result := fun result h => hdone ⟨result, h⟩
      refine ⟨fun i g hstake => ?_, fun r' stage' heq _ => ?_⟩
      · obtain ⟨due, hstage⟩ : ∃ due, (r.poll u p stage).2 = .loading i g due := by
          rcases hout : (r.poll u p stage).2 with _ | _ | ⟨j, k, due⟩ | _ | _
          all_goals
            have hstake : ((r.poll u p stage).2).stake r = .loading i g r.asset.id := hstake
            rw [hout] at hstake
            cases hstake
          exact ⟨due, rfl⟩
        have hsteps : Request.Steps u r p stage (r.poll u p stage) := .poll hp.good.tidy hs
        rcases hsteps.later_of_loading hstage with ⟨due', rfl⟩ | hlater
        · exact h.loads u (.request r (.loading i g due')) i g hw rfl
        · exact h.asks u r stage hw hs i g hlater
      · cases heq
        exact h.asks u r stage hw hs
  · rw [work?_resume_of_ne hw hwork hu] at hv'
    exact .inl hv'

/-- A slot is reserved, and whoever is to load it has its first turn later. -/
lemma Obeys.startWarmup {a : AssetId} {url : String} (h : p.Obeys law)
    (hidle : p.idleSlot? = some i) (hoffer : ∀ i g, (p.slot i).generation < g → law i g a url) :
    (p.startWarmup i a url).Obeys law := by
  have hlt := (idleSlot?_eq_some hidle).1
  have hslot : ∀ j, (p.startWarmup i a url).slot j =
      (p.rebind (p.agenda.started + 1) i a).slot j := fun j => p.slot_startWarmup i j a url
  have hgen : ((p.startWarmup i a url).slot i).generation = (p.slot i).generation + 1 := by
    rw [hslot, slot_rebind, if_pos ⟨rfl, hlt⟩]
    rfl
  refine h.of_work (fun j => ?_) (fun j hprep => ?_) fun u w hw => ?_
  · rw [hslot, slot_rebind]
    split
    · exact Nat.le_succ _
    · exact Nat.le_refl _
  · rw [element, hslot, slot_rebind] at *
    split at hprep
    · cases hprep
    · next hij =>
      rw [if_neg hij]
      exact h.slots j hprep
  · have hadmits : p.Admits law
        (.warmup ⟨a, url, i, ((p.startWarmup i a url).slot i).generation⟩ .unstarted) := by
      refine ⟨fun j g hs => ?_, fun r stage heq => ?_⟩
      · have hstake : Stake.loading i ((p.startWarmup i a url).slot i).generation a =
            .loading j g a := hs
        cases hstake
        exact hoffer i _ (hgen ▸ Nat.lt_succ_self _)
      · cases heq
    exact hadmits.of_append (q := p.startWarmup i a url) rfl u w hw

lemma Obeys.warmUp (lookup : AssetId → Option MediaAsset) (budget : Nat) (ids : List AssetId)
    (n : Nat) (h : p.Obeys law) (hoffer : ∀ a m, lookup a = some m →
      ∀ i g, (p.slot i).generation < g → law i g a m.url) :
    (warmUp lookup budget ids n p).2.Obeys law := by
  fun_induction Pool.warmUp lookup budget ids n p with
  | case1 | case2 | case4 => exact h
  | case3 _ _ _ _ _ _ ih | case6 _ _ _ _ _ _ _ _ ih => exact ih h hoffer
  | case5 budget id rest n p m hfind _ i hidle ih =>
    refine ih (h.startWarmup hidle (hoffer _ m hfind)) fun a m' hm' j g hg => hoffer a m' hm' j g ?_
    refine Nat.lt_of_le_of_lt ?_ hg
    rw [slot_startWarmup, slot_rebind]
    split
    · exact Nat.le_succ _
    · exact Nat.le_refl _

/-- **A law is kept** by events that offer nothing that it forbids. -/
lemma Obeys.event (h : p.Obeys law) (hp : p.Ordered) (hv : p.account.Vacant) (he : e.Gentle)
    (hoffer : ∀ a url, e.Offers a url → ∀ i g, (p.slot i).generation < g → law i g a url) :
    (e.apply p).Obeys law := by
  have hslots := h.slots_event hp hv he
  have hgen := Event.generation_le hp e
  cases e with
  | request r =>
    exact h.of_work hgen hslots ((Admits.request (hoffer _ _ ⟨rfl, rfl⟩)).of_append rfl)
  | call r =>
    simp only [Event.apply] at hgen hslots ⊢
    split
    · next hidle =>
      simp only [hidle, if_true] at hgen hslots
      exact h.of_work hgen hslots ((Admits.request (hoffer _ _ ⟨rfl, rfl⟩)).of_append rfl)
    · exact h
  | resume t => exact h.resume hp hv t
  | collect t =>
    simp only [Event.apply] at hgen hslots ⊢
    split
    · next hover =>
      simp only [hover, if_true] at hgen hslots
      refine h.of_work hgen hslots fun u w hw => .inl ?_
      have hw : (p.forget t).work? u = some w := hw
      rw [work?_forget] at hw
      split at hw
      · cases hw
      · exact hw
    · exact h
  | preload upcoming assets =>
    simp only [Event.apply, Pool.preload, Pool.preloadFrom]
    split
    · exact h
    · exact h.warmUp assets.find? _ upcoming 0 fun a m hm => hoffer a m.url ⟨m, hm, rfl⟩
  | release asset =>
    refine h.of_work hgen hslots fun t w hw => .inl ?_
    have hwork : (p.release asset).2.work = p.work := by
      unfold Pool.release
      split <;> rfl
    rw [← hw]
    exact congrArg (fun ws : List (TaskId × Work) => (ws.find? (·.1 == t)).map (·.2)) hwork.symm
  | reset | dispose | pauseExcept | element | attend | backend | schedule =>
    exact h.of_work hgen hslots fun t w hw => .inl hw

/-- **A law is kept by a run.** -/
lemma Obeys.run (h : p.Obeys law) (hp : p.Ordered) (hv : p.account.Vacant) (es : List Event)
    (gentle : ∀ e ∈ es, e.Gentle) (hoffer : ∀ e ∈ es, ∀ a url, e.Offers a url →
      ∀ i g, (p.slot i).generation < g → law i g a url) : (p.run es).Obeys law := by
  induction es using List.reverseRecOn with
  | nil => exact h
  | append_singleton es e ih =>
    have hlast := List.mem_append_right es (List.mem_singleton_self e)
    rw [run_concat]
    refine (ih (fun e he => gentle e (List.mem_append_left _ he))
      fun e he => hoffer e (List.mem_append_left _ he)).event (hp.run es) (hp.vacant hv es)
        (gentle e hlast) fun a url ho i g hg => ?_
    exact hoffer e hlast a url ho i g (Nat.lt_of_le_of_lt (hp.generation_le es i) hg)

lemma obeys_new (config : PoolConfig) (backend : Backend) :
    (Pool.new config backend).Obeys law where
  slots i h := by
    rw [slot_new] at h
    cases h
  loads t w i g h := by cases h
  asks t r stage h := by cases h

lemma not_prepared_new (config : PoolConfig) (backend : Backend) (i : Nat) :
    ((Pool.new config backend).slot i).prepared = false := by
  rw [slot_new]

/-- **What a handle plays** was loaded for its asset; whence, is up to whoever loaded it. -/
lemma source_of_handle (config : PoolConfig) (backend : Backend) {es : List Event}
    (gentle : ∀ e ∈ es, e.Gentle) {r : Request} {stage : Request.Stage} {h : Handle}
    (hw : ((Pool.new config backend).run es).work? t = some (.request r stage))
    (hresult : ((Pool.new config backend).run es).result? t = none)
    (hok : (((Pool.new config backend).run es).resume t).result? t = some (.ok h)) :
    ∃ url, ((((Pool.new config backend).run es).resume t).element h.slot).source = some url ∧
      (Pool.new config backend).Once (es ++ [.resume t]) (Event.Loads h.slot
        ((((Pool.new config backend).run es).resume t).slot h.slot).generation r.asset.id url) ∧
      ∃ e ∈ es, e.Offers r.asset.id url := by
  have hc := Ordered.new config backend
  have hv := vacant_new config backend
  have hgentle : ∀ e ∈ es ++ [.resume t], e.Gentle := by
    intro e he
    rcases List.mem_append.mp he with he | he
    · exact gentle e he
    · rw [List.mem_singleton.mp he]
      trivial
  have hrun : (Pool.new config backend).run (es ++ [.resume t]) =
      ((Pool.new config backend).run es).resume t := run_concat _ es _
  have hs : ∀ result, stage ≠ .done result := by
    rintro result rfl
    simp [result?, hw] at hresult
  obtain ⟨_, -, -, hhandle⟩ := serves_of_resume (hc.run es) hw hs
  obtain ⟨-, k, hserves, -⟩ := hhandle h hok
  obtain ⟨-, hprep, -, hasset⟩ := Slot.serves_eq_true.mp hserves
  rw [← hrun] at hprep hasset ⊢
  obtain ⟨a, url, ha, hsource, honce⟩ := hc.source_of_prepared hv
    (not_prepared_new config backend) _ hgentle hprep
  obtain rfl : r.asset.id = a := Option.some.inj (hasset.symm.trans ha)
  refine ⟨url, hsource, honce, ?_⟩
  have hobeys : Obeys (fun _ _ a url => ∃ e ∈ es ++ [.resume t], e.Offers a url) _ :=
    Obeys.run (obeys_new config backend) hc hv _ hgentle
      fun e he _ _ ho _ _ _ => ⟨e, he, ho⟩
  obtain ⟨b, url', hb, hsource', e, he, hoffers⟩ := hobeys.slots h.slot hprep
  obtain rfl : r.asset.id = b := Option.some.inj (hasset.symm.trans hb)
  obtain rfl : url = url' := Option.some.inj (hsource.symm.trans hsource')
  rcases List.mem_append.mp he with he | he
  · exact ⟨e, he, hoffers⟩
  · rw [List.mem_singleton.mp he] at hoffers
    exact hoffers.elim

end Pool

end Montage

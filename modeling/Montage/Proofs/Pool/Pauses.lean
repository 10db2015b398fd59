import Montage.Proofs.Pool.Runs

/-!
Work in the pool sets no element going.

Whoever binds or unbinds a slot pauses its element, a load begins on an element that stands still,
and a seek leaves an element as it was, going or not. An element only starts to play at the hands
of whoever was given it; so, as long as slots are given out prepared, what runs is prepared.
-/

namespace Montage

/-- What work may do to a slot: the element keeps its speed and is not set going, and it is paused
when the slot is bound anew. -/
structure Slot.Eases (s s' : Slot) : Prop where
  later : s.generation ≤ s'.generation
  rate : s'.element.rate = s.element.rate
  paused : s.element.isPaused = true → s'.element.isPaused = true
  anew : s'.generation ≠ s.generation → s'.element.isPaused = true
  prepared : s'.generation = s.generation → s.prepared = true → s'.prepared = true

namespace Slot.Eases

variable {s s' s'' : Slot}

lemma of_same (hg : s'.generation = s.generation) (he : s'.element = s.element)
    (hp : s'.prepared = s.prepared) : s.Eases s' :=
  ⟨Nat.le_of_eq hg.symm, by rw [he], by rw [he]; exact id, fun h => absurd hg h,
    fun _ h => hp.trans h⟩

lemma refl (s : Slot) : s.Eases s := .of_same rfl rfl rfl

lemma trans (h : s.Eases s') (h' : s'.Eases s'') : s.Eases s'' := by
  have hle := h.later
  have hle' := h'.later
  refine ⟨Nat.le_trans hle hle', h'.rate.trans h.rate, fun hp => h'.paused (h.paused hp),
    fun hg => ?_, fun hg hp => ?_⟩
  · by_cases hs : s'.generation = s.generation
    · exact h'.anew fun heq => hg (heq.trans hs)
    · exact h'.paused (h.anew hs)
  · exact h'.prepared (by omega) (h.prepared (by omega) hp)

lemma ran (h : s.Eases s') (runs : s'.element.isPaused = false) :
    s.element.isPaused = false ∧ s'.generation = s.generation := by
  constructor
  · by_contra hp
    simp [h.paused (by simpa using hp)] at runs
  · by_contra hg
    simp [h.anew hg] at runs

lemma of_element {f : Element → Element} (rate : (f s.element).rate = s.element.rate)
    (paused : s.element.isPaused = true → (f s.element).isPaused = true) :
    s.Eases { s with element := f s.element } :=
  ⟨Nat.le_refl _, rate, paused, fun h => absurd rfl h, fun _ => id⟩

lemma bind (s : Slot) (now : Nat) (a : AssetId) (use : Nat) : s.Eases (s.bind now a use) :=
  ⟨Nat.le_succ _, rfl, fun _ => rfl, fun _ => rfl, fun h => absurd h (Nat.succ_ne_self _)⟩

lemma unbind (s : Slot) (now : Nat) : s.Eases (s.unbind now) :=
  ⟨Nat.le_succ _, rfl, fun _ => rfl, fun _ => rfl, fun h => absurd h (Nat.succ_ne_self _)⟩

lemma finishLoad (s : Slot) : s.Eases s.finishLoad :=
  ⟨Nat.le_refl _, rfl, id, fun h => absurd rfl h, fun _ _ => rfl⟩

end Slot.Eases

namespace Element

variable {e : Element}

lemma isPaused_setPosition (now : Nat) (seconds : Float) :
    (e.setPosition now seconds).isPaused = e.isPaused := by
  simp [isPaused, setPosition]

end Element

namespace Pool

/-- All slots are treated as work may treat them, the settings stay, and the same sources fail. -/
structure Eases (p q : Pool) : Prop where
  slot : ∀ j, (p.slot j).Eases (q.slot j)
  config : q.config = p.config
  failing : q.backend.failing = p.backend.failing

variable {p q q' : Pool} {t : TaskId} {i g : Nat} {a : AssetId}

namespace Eases

lemma refl (p : Pool) : p.Eases p := ⟨fun _ => .refl _, rfl, rfl⟩

lemma trans (h : p.Eases q) (h' : q.Eases q') : p.Eases q' :=
  ⟨fun j => (h.slot j).trans (h'.slot j), h'.config.trans h.config, h'.failing.trans h.failing⟩

lemma of_slots (h : q.slots = p.slots) (hc : q.config = p.config)
    (hf : q.backend.failing = p.backend.failing) : p.Eases q := by
  refine ⟨fun j => ?_, hc, hf⟩
  have hslot : q.slot j = p.slot j := by
    rw [Pool.slot, h]
    rfl
  rw [hslot]
  exact .refl _

lemma modifySlot {f : Slot → Slot} (h : ∀ s : Slot, s.Eases (f s)) (i : Nat) :
    p.Eases (p.modifySlot i f) := by
  refine ⟨fun j => ?_, rfl, rfl⟩
  rw [slot_modifySlot]
  split
  · exact h _
  · exact .refl _

lemma lock (p : Pool) (i : Nat) (t : TaskId) : p.Eases (p.lock i t) :=
  modifySlot (f := fun s => { s with lock := s.lock.take t }) (fun _ => .of_same rfl rfl rfl) i

lemma enqueue (p : Pool) (i : Nat) (t : TaskId) : p.Eases (p.enqueue i t) :=
  modifySlot (f := fun s => { s with lock := s.lock.enqueue t }) (fun _ => .of_same rfl rfl rfl) i

lemma touch (p : Pool) (i : Nat) : p.Eases (p.touch i) := by
  refine ⟨fun j => ?_, rfl, rfl⟩
  rw [slot_touch]
  split
  · exact .of_same rfl rfl rfl
  · exact .refl _

lemma unlock (p : Pool) (i : Nat) : p.Eases (p.unlock i) := by
  refine ⟨fun j => ?_, by simp, by simp⟩
  rw [slot_unlock]
  split
  · exact .of_same rfl rfl rfl
  · exact .refl _

lemma bind (p : Pool) (i : Nat) (a : AssetId) : p.Eases (p.bind i a) :=
  modifySlot (fun _ => .bind _ _ _ _) i

lemma unbind (p : Pool) (i : Nat) : p.Eases (p.unbind i) := modifySlot (fun _ => .unbind _ _) i

lemma modifyElement {f : Element → Element} (rate : ∀ e : Element, (f e).rate = e.rate)
    (paused : ∀ e : Element, e.isPaused = true → (f e).isPaused = true) (i : Nat) :
    p.Eases (p.modifyElement i f) :=
  modifySlot (fun s => .of_element (rate s.element) (paused s.element)) i

lemma beginLoad (p : Pool) (i : Nat) (url : String) : p.Eases (p.beginLoad i url) :=
  (modifyElement (f := fun e => e.beginLoad url) (fun _ => rfl) (fun _ _ => rfl) i).trans
    (.of_slots rfl rfl rfl)

lemma seek (p : Pool) (i : Nat) (seconds : Float) :
    p.Eases (p.modifyElement i fun e => e.finishSeek p.now seconds) :=
  modifyElement (f := fun e => e.finishSeek p.now seconds) (fun _ => rfl)
    (fun _ h => (Element.isPaused_setPosition _ _).trans h) i

lemma finishLoad (p : Pool) (i g : Nat) (a : AssetId) (url : String) :
    p.Eases (p.finishLoad i g a url).1 := by
  unfold Pool.finishLoad
  split
  · exact .refl p
  · split
    · exact modifySlot Slot.Eases.finishLoad i
    · exact unbind p i

lemma pick (p : Pool) (t : TaskId) (a : AssetId) (pinned : List Nat) :
    p.Eases (p.pick t a pinned).1 := by
  have hpick := p.picks t a pinned
  obtain ⟨out, hout⟩ : ∃ out, p.pick t a pinned = out := ⟨_, rfl⟩
  rw [hout] at hpick ⊢
  cases hpick with
  | disposed | awaited | exhausted => exact .of_slots rfl rfl rfl
  | @kept i => exact touch p i
  | @taken i =>
    have hcount : p.Eases p.countUse := .of_slots rfl rfl rfl
    exact (hcount.trans (lock _ i t)).trans (bind _ i a)

end Eases

end Pool

namespace Request

open Pool (Eases)

variable (t : TaskId) (r : Request)

lemma eases_finish (p : Pool) (i : Nat) (result : Except MediaError Handle) :
    p.Eases (finish t p i result).1 := by
  refine Eases.trans ?_ (.unlock { p with agenda := p.agenda.stopTimers t } i)
  exact .of_slots rfl rfl rfl

lemma eases_pollSeek (p : Pool) (i g : Nat) (due : Option Nat) (deadline : Nat) :
    p.Eases (pollSeek t r p i g due deadline).1 := by
  unfold pollSeek
  dsimp only
  split
  · exact (Eases.seek p i _).trans (eases_finish t _ i _)
  · split
    · exact eases_finish t p i _
    · exact .refl p

lemma eases_moveToTarget (p : Pool) (i g : Nat) : p.Eases (moveToTarget t r p i g).1 := by
  unfold moveToTarget
  dsimp only
  split
  · exact eases_finish t p i _
  · refine Eases.trans ?_ (eases_pollSeek t r _ i g _ _)
    exact .of_slots rfl rfl rfl

lemma eases_pollLoad (p : Pool) (i g due : Nat) : p.Eases (pollLoad t r p i g due).1 := by
  have hload := Eases.finishLoad p i g r.asset.id r.asset.url
  unfold pollLoad
  split
  · rcases hout : p.finishLoad i g r.asset.id r.asset.url with ⟨q, _ | _⟩
    all_goals rw [hout] at hload
    · exact hload.trans (eases_finish t q i _)
    · exact hload.trans (eases_moveToTarget t r q i g)
  · exact .refl p

lemma eases_run (n : Nat) (p : Pool) : p.Eases (run t r n p).1 := by
  induction n generalizing p with
  | zero => exact .refl p
  | succ n ih =>
    have hpick := Eases.pick p t r.asset.id r.pinned
    unfold run
    rcases hout : p.pick t r.asset.id r.pinned with ⟨q, e | ⟨i, g⟩ | ⟨i, g⟩ | i⟩
    all_goals
      rw [hout] at hpick
      refine hpick.trans ?_
      dsimp only
    · exact .refl q
    · split
      · split
        · exact (Eases.lock q i t).trans (eases_moveToTarget t r _ i g)
        · exact ((Eases.lock q i t).trans (.unlock _ i)).trans (ih _)
      · exact .enqueue q i t
    · refine (Eases.beginLoad q i r.asset.url).trans (Eases.trans ?_ (eases_pollLoad t r _ i g _))
      exact .of_slots rfl rfl rfl
    · split
      · exact ih q
      · exact .enqueue q i t

lemma eases_poll (p : Pool) (stage : Stage) : p.Eases (poll t r p stage).1 := by
  cases stage with
  | unstarted =>
    dsimp only [poll]
    split
    · exact .refl p
    · exact eases_run t r _ p
  | queued i g picks =>
    dsimp only [poll, pollQueued]
    split
    · split
      · split
        · exact eases_moveToTarget t r p i _
        · exact (Eases.unlock p i).trans (eases_run t r _ _)
      · exact (Eases.unlock p i).trans (eases_run t r _ _)
    · exact .refl p
  | loading i g due => exact eases_pollLoad t r p i g due
  | seeking i g due deadline => exact eases_pollSeek t r p i g due deadline
  | done result => exact .refl p

end Request

namespace Pool

variable {p q : Pool} {i : Nat} {a : AssetId}

lemma eases_pollLoad (w : Warmup) (p : Pool) (due : Nat) : p.Eases (w.pollLoad p due).1 := by
  unfold Warmup.pollLoad
  split
  · exact (Eases.finishLoad p w.slot w.generation w.asset w.url).trans (.unlock _ w.slot)
  · exact .refl p

/-- **A turn of some work** eases the pool. -/
lemma eases_resume (p : Pool) (t : TaskId) : p.Eases (p.resume t) := by
  rcases hw : p.work? t with _ | w
  · rw [resume_eq_self hw]
    exact .refl p
  · have hpoll : p.Eases (w.poll t p).1 := by
      cases w with
      | request r stage => exact r.eases_poll t p stage
      | warmup w stage =>
        cases stage with
        | unstarted =>
          refine (Eases.beginLoad p w.slot w.url).trans (Eases.trans ?_ (eases_pollLoad w _ _))
          exact .of_slots rfl rfl rfl
        | loading due => exact eases_pollLoad w p due
        | done => exact .refl p
    rw [resume_eq hw]
    exact hpoll.trans (.of_slots rfl rfl rfl)

lemma eases_preload (p : Pool) (upcoming : List AssetId) (assets : AssetTable) :
    p.Eases (p.preload upcoming assets).2 := by
  have hwarm : ∀ budget n, p.Eases (warmUp assets.find? budget upcoming n p).2 := by
    intro budget n
    fun_induction warmUp assets.find? budget upcoming n p with
    | case1 | case2 | case4 => exact .refl _
    | case3 _ _ _ _ _ _ ih | case6 _ _ _ _ _ _ _ _ ih => exact ih
    | case5 budget id rest n p m _ _ i _ ih =>
      have hcount : p.Eases p.countUse := .of_slots rfl rfl rfl
      have hstart : p.Eases (p.startWarmup i id m.url) :=
        ((hcount.trans (.bind _ i id)).trans (.lock _ i (p.agenda.started + 1))).trans
          (.of_slots rfl rfl rfl)
      exact hstart.trans ih
  unfold preload preloadFrom
  split
  · exact .refl p
  · exact hwarm _ _

lemma eases_pauseExcept (p : Pool) (active : List AssetId) : p.Eases (p.pauseExcept active) := by
  refine ⟨fun i => ?_, rfl, rfl⟩
  simp only [slot, pauseExcept, List.getElem?_map]
  rcases p.slots[i]? with _ | s
  · exact .refl _
  · dsimp only [Option.map_some, Option.getD_some]
    split
    · exact .refl _
    · split
      · exact .refl _
      · exact .of_element (f := fun e => e.pause p.now) rfl fun _ => rfl

lemma slot_pauseExcept (p : Pool) (active : List AssetId) (ha : (p.slot i).asset = some a) :
    (p.pauseExcept active).slot i = if active.contains a || (p.element i).isPaused then p.slot i
      else { p.slot i with element := (p.element i).pause p.now } := by
  have hs := List.getElem?_eq_getElem (p.lt_size_of_asset ha)
  simp only [element, slot, pauseExcept, List.getElem?_map, hs, Option.map_some,
    Option.getD_some] at ha ⊢
  rw [ha]

lemma eases_reset (p : Pool) : p.Eases p.reset := by
  refine ⟨fun i => ?_, rfl, rfl⟩
  rw [slot_reset]
  split
  · exact .unbind _ _
  · exact .refl _

/-- Nothing is done to elements from outside, and no source comes to fail or to load again. -/
def Event.HandsOff (p : Pool) : Event → Prop
  | element .. => False
  | backend b => b.failing = p.backend.failing
  | _ => True

/-- **Events ease the pool**, but for what is done to elements from outside. -/
lemma Event.eases {e : Event} (he : e.HandsOff p) : p.Eases (e.apply p) := by
  cases e with
  | element => exact he.elim
  | backend b => exact .of_slots rfl rfl he
  | resume t => exact eases_resume p t
  | preload upcoming assets => exact eases_preload p upcoming assets
  | pauseExcept active => exact eases_pauseExcept p active
  | reset => exact eases_reset p
  | dispose => exact (eases_reset p).trans (.of_slots rfl rfl rfl)
  | release asset =>
    simp only [apply, Pool.release]
    split
    · exact .unbind p _
    · exact .refl p
  | call r | collect t =>
    simp only [apply]
    split <;> exact .of_slots rfl rfl rfl
  | request | attend | schedule => exact .of_slots rfl rfl rfl

/-- What runs is prepared. -/
def Parked (p : Pool) : Prop := ∀ i, (p.slot i).prepared = false → (p.element i).isPaused = true

lemma Parked.eases (h : p.Parked) (hq : p.Eases q) : q.Parked := by
  intro i hi
  have hslot := hq.slot i
  by_cases hg : (q.slot i).generation = (p.slot i).generation
  · refine hslot.paused (h i ?_)
    by_contra hp
    simp [hslot.prepared hg (by simpa using hp)] at hi
  · exact hslot.anew hg

lemma Parked.modifyElement (h : p.Parked) (f : Element → Element)
    (hi : (p.slot i).prepared = true) : (p.modifyElement i f).Parked := by
  intro j hj
  rw [slot_modifyElement] at hj
  rw [element, slot_modifyElement]
  split at hj
  · next hij => simp [← hij.1, hi] at hj
  · next hij =>
    rw [if_neg hij]
    exact h j hj

lemma parked_new (config : PoolConfig) (backend : Backend) : (Pool.new config backend).Parked := by
  intro i _
  rw [element, slot_new]
  rfl

end Pool

end Montage

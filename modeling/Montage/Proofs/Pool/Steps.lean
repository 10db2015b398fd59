import Montage.Proofs.Pool.Handles

/-!
All that a step of a request or of a load in advance can do, elements included.

A seek ends with the lock handed on and changes no source. A load that is over is lost, fails or
goes on to the seek. A pick binds a free slot, uses the slot that the asset is bound to, waits for
the lock of a slot, or comes to nothing; and a request may go through several picks at once.
-/

namespace Montage

/-- No load from the url can succeed. -/
def Backend.refuses (b : Backend) (url : String) : Bool := url.isEmpty || b.failing.contains url

/-- The element keeps its source, and without one it does not start to play. -/
structure Element.Tame (e e' : Element) : Prop where
  source : e'.source = e.source
  paused : e.source = none → e.isPaused = true → e'.isPaused = true

namespace Element.Tame

variable {e e' e'' : Element}

lemma refl (e : Element) : e.Tame e := ⟨rfl, fun _ h => h⟩

lemma trans (h : e.Tame e') (h' : e'.Tame e'') : e.Tame e'' :=
  ⟨h'.source.trans h.source, fun hs hp => h'.paused (h.source.trans hs) (h.paused hs hp)⟩

lemma pause (e : Element) (now : Nat) : e.Tame (e.pause now) := ⟨rfl, fun _ _ => rfl⟩

lemma setPosition (e : Element) (now : Nat) (seconds : Float) :
    e.Tame (e.setPosition now seconds) := by
  refine ⟨rfl, fun _ hp => ?_⟩
  rw [isPaused, Option.isNone_iff_eq_none] at hp
  simp [isPaused, Element.setPosition, hp]

end Element.Tame

namespace Pool

/-- The pools differ in the backend, timers and ready tasks, and in what elements do. -/
structure Tame (p q : Pool) : Prop extends p.Still q where
  now : q.now = p.now
  element : ∀ i, (p.element i).Tame (q.element i)

variable {p q q' : Pool} {i g : Nat}

@[simp] lemma now_sleepUntil (a : Agenda) (t : TaskId) (due : Nat) :
    (a.sleepUntil t due).now = a.now := by
  unfold Agenda.sleepUntil
  split <;> rfl

namespace Tame

lemma refl (p : Pool) : p.Tame p := ⟨⟨.refl p, rfl, rfl, rfl⟩, rfl, fun _ => .refl _⟩

lemma trans (h : p.Tame q) (h' : q.Tame q') : p.Tame q' where
  size := h'.size.trans h.size
  clock := h'.clock.trans h.clock
  disposed := h'.disposed.trans h.disposed
  slot i := (h'.slot i).trans (h.slot i)
  work := h'.work.trans h.work
  started := h'.started.trans h.started
  config := h'.config.trans h.config
  now := h'.now.trans h.now
  element i := (h.element i).trans (h'.element i)

lemma agenda (p : Pool) (b : Backend) {a : Agenda} (h : a.started = p.agenda.started)
    (hnow : a.now = p.now) : p.Tame { p with backend := b, agenda := a } :=
  ⟨p.still_agenda b a h, hnow, fun _ => .refl _⟩

lemma modifyElement {f : Element → Element} (h : ∀ e : Element, e.Tame (f e)) (i : Nat) :
    p.Tame (p.modifyElement i f) := by
  refine ⟨p.still_modifyElement i f, rfl, fun j => ?_⟩
  rw [Pool.element, Pool.element, slot_modifyElement]
  split
  · exact h _
  · exact .refl _

lemma isLost (h : p.Tame q) (i g : Nat) : q.isLost i g = p.isLost i g := by
  have hg := (Slot.binding_eq_iff.mp (h.binding i)).2.2.2
  rw [Pool.isLost, Pool.isLost, h.disposed, hg]

end Tame

lemma isLost_eq_false : p.isLost i g = false ↔ p.disposed = false ∧ (p.slot i).generation = g := by
  simp [isLost]

end Pool

namespace Pool

variable {p : Pool} {t : TaskId} {a : AssetId} {pinned : List Nat}

lemma element_modifyElement (p : Pool) (i j : Nat) (f : Element → Element) :
    (p.modifyElement i f).element j = if i = j ∧ i < p.size then f (p.element j)
      else p.element j := by
  rw [element, slot_modifyElement]
  split <;> rfl

/-- A pick that binds a slot takes, of those that are free and not pinned, the one used longest
ago. -/
lemma oldest_of_pick {i g : Nat} (h : (p.pick t a pinned).2 = .ok (.taken i g)) {k : Nat}
    (hk : k < p.size) (hpin : k ∉ pinned) (free : p.isFree k = true) :
    (p.slot i).lastUsed ≤ (p.slot k).lastUsed := by
  have hfind : (p.byAge pinned).find? p.isFree = some i := by
    have hof : p.countUse.slotOf? a = p.slotOf? a := rfl
    have hage : p.countUse.byAge pinned = p.byAge pinned := rfl
    have hfree : p.countUse.isFree = p.isFree := rfl
    unfold pick at h
    split at h
    · cases h
    · simp only [hof, hage, hfree] at h
      rcases ha : p.slotOf? a with _ | j
      · rcases hb : (p.byAge pinned).find? p.isFree with _ | j
        · rcases hc : p.byAge pinned with _ | ⟨j, rest⟩
          all_goals
            rw [ha, hc, ← hc, hb, hc] at h
            cases h
        · rw [ha, hb] at h
          injection h with h
          injection h with h
          rw [h]
      · rw [ha] at h
        cases h
  obtain ⟨younger, rest, hage, hbefore⟩ := (List.find?_eq_some_iff_append.mp hfind).2
  have hsorted : (p.byAge pinned).Pairwise fun i j =>
      (p.slot i).lastUsed ≤ (p.slot j).lastUsed := by
    have hle : (p.byAge pinned).Pairwise fun i j =>
        decide ((p.slot i).lastUsed ≤ (p.slot j).lastUsed) = true :=
      List.pairwise_mergeSort (fun a b c => by simpa using Nat.le_trans)
        (fun a b => by simpa using Nat.le_total _ _) _
    exact hle.imp of_decide_eq_true
  have hmem := mem_byAge.mpr ⟨hk, hpin⟩
  rw [hage] at hsorted hmem
  rcases List.mem_append.mp hmem with hmem | hmem
  · have hnot := hbefore k hmem
    simp [free] at hnot
  · rcases List.mem_cons.mp hmem with rfl | hmem
    · exact Nat.le_refl _
    · exact List.rel_of_pairwise_cons (List.pairwise_append.mp hsorted).2.1 hmem

/-- A pick that gets no slot: the asset is not bound, and nothing that may be bound is free. -/
lemma of_pick_busy {result : Except MediaError Pick} (h : (p.pick t a pinned).2 = result)
    (kept : ∀ i g, result ≠ .ok (.kept i g)) (taken : ∀ i g, result ≠ .ok (.taken i g))
    (alive : p.disposed = false) :
    p.slotOf? a = none ∧ (p.byAge pinned).find? p.isFree = none ∧
      result = match (p.byAge pinned).head? with
        | some i => .ok (.awaited i)
        | none => .error (.poolExhausted a) := by
  have hof : p.countUse.slotOf? a = p.slotOf? a := rfl
  have hage : p.countUse.byAge pinned = p.byAge pinned := rfl
  have hfree : p.countUse.isFree = p.isFree := rfl
  rw [pick, alive, if_neg Bool.false_ne_true] at h
  dsimp only at h
  rw [hof, hage, hfree] at h
  rcases ha : p.slotOf? a with _ | j
  · rcases hb : (p.byAge pinned).find? p.isFree with _ | j
    · rcases hc : p.byAge pinned with _ | ⟨j, rest⟩
      all_goals
        rw [ha, hc, ← hc, hb, hc] at h
        exact ⟨rfl, rfl, h.symm⟩
    · rw [ha, hb] at h
      exact absurd h.symm (taken _ _)
  · rw [ha] at h
    exact absurd h.symm (kept _ _)

/-- A pick that has to wait: all slots that may be bound are worked on, and it waits for the one
used longest ago. -/
lemma of_pick_awaited {i : Nat} (h : (p.pick t a pinned).2 = .ok (.awaited i))
    (alive : p.disposed = false) : p.slotOf? a = none ∧
      (∀ j, j < p.size → j ∉ pinned → p.isFree j = false) ∧ (p.byAge pinned).head? = some i := by
  obtain ⟨hof, hnone, hhead⟩ := of_pick_busy h (by simp) (by simp) alive
  refine ⟨hof, fun j hj hpin => ?_, ?_⟩
  · simpa using List.find?_eq_none.mp hnone j (mem_byAge.mpr ⟨hj, hpin⟩)
  · split at hhead
    · next hage =>
      cases hhead
      exact hage
    · cases hhead

/-- A pick that comes to nothing: all slots are pinned. -/
lemma of_pick_exhausted {b : AssetId} (h : (p.pick t a pinned).2 = .error (.poolExhausted b))
    (alive : p.disposed = false) : p.slotOf? a = none ∧ ∀ j, j < p.size → j ∈ pinned := by
  obtain ⟨hof, -, hhead⟩ := of_pick_busy h (by simp) (by simp) alive
  refine ⟨hof, fun j hj => ?_⟩
  by_contra hpin
  have hmem := mem_byAge.mpr ⟨hj, hpin⟩
  rcases hage : p.byAge pinned with _ | ⟨i, rest⟩
  · simp [hage] at hmem
  · rw [hage] at hhead
    cases hhead

lemma slot_begun (p : Pool) (t : TaskId) (i j : Nat) (a : AssetId) (url : String) :
    ((p.rebind t i a).modifyElement i fun e => e.beginLoad url).slot j = if i = j ∧ i < p.size then
      { (p.slot j).bind p.now a (p.clock + 1) with
        lock := (p.slot j).lock.take t
        element := ((p.slot j).bind p.now a (p.clock + 1)).element.beginLoad url }
    else p.slot j := by
  rw [slot_modifyElement, size_rebind, slot_rebind]
  split <;> rfl

end Pool

namespace Request

open Pool (Tame)

/-- How an element has come to be in position: it was close to it, or it has been moved there. A
seek that has taken too long leaves the element alone. -/
inductive Arrives (r : Request) (p : Pool) (i : Nat) (q : Pool) : Bool → Prop
  | near (still : ∀ j, q.element j = p.element j)
      (near : Scalar.abs ((p.element i).time p.now - r.seekTarget) ≤
        p.config.tolerance r.playing) : Arrives r p i q false
  | lands (moved : ∀ j, q.element j =
      (p.modifyElement i fun e => e.finishSeek p.now r.seekTarget).element j) :
      Arrives r p i q false
  | late (still : ∀ j, q.element j = p.element j) : Arrives r p i q true

/-- What becomes of a seek. -/
inductive Seeks (r : Request) (p : Pool) (i g : Nat) : Pool × Stage → Prop
  | waits {q : Pool} {due : Option Nat} {deadline : Nat} (tame : p.Tame q)
      (still : ∀ j, q.element j = p.element j) : Seeks r p i g (q, .seeking i g due deadline)
  | ends {q : Pool} {stale : Bool} (tame : p.Tame q) (had : p.isLost i g = false)
      (arrives : Arrives r p i q stale) :
      Seeks r p i g (q.unlock i, .done (.ok ⟨r.asset.id, i, stale⟩))
  | lost {q : Pool} (tame : p.Tame q) (lost : p.isLost i g = true) :
      Seeks r p i g (q.unlock i, .done (.error (.abandoned r.asset.id)))

/-- What becomes of a load. -/
inductive Loads (r : Request) (p : Pool) (i g due : Nat) : Pool × Stage → Prop
  | waits (early : p.now < due) : Loads r p i g due (p, .loading i g due)
  | lost {q : Pool} (tame : p.Tame q) (lost : p.isLost i g = true) :
      Loads r p i g due (q.unlock i, .done (.error (.abandoned r.asset.id)))
  | fails {q : Pool} {reason : String} (ended : due ≤ p.now) (tame : (p.unbind i).Tame q)
      (had : p.isLost i g = false) (still : ∀ j, q.element j = (p.unbind i).element j)
      (bad : (p.element i).source = some r.asset.url → p.backend.refuses r.asset.url = true) :
      Loads r p i g due (q.unlock i, .done (.error (.loadFailed r.asset.url reason)))
  | loads {out : Pool × Stage} (ended : due ≤ p.now) (had : p.isLost i g = false)
      (source : (p.element i).source = some r.asset.url)
      (seeks : Seeks r (p.modifySlot i Slot.finishLoad) i g out)
      (good : p.backend.refuses r.asset.url = false) : Loads r p i g due out

/-- What comes of some picks, at most as many as the number tells. -/
inductive Runs (t : TaskId) (r : Request) : Nat → Pool → Pool × Stage → Prop
  | spent {p : Pool} : Runs t r 0 p (p, .done (.error (.abandoned r.asset.id)))
  | refused {n : Nat} {p : Pool} (disposed : p.disposed = true) :
      Runs t r (n + 1) p (p, .done (.error .disposed))
  | binds {n i : Nat} {p q : Pool} {out : Pool × Stage} (alive : p.disposed = false)
      (unbound : p.slotOf? r.asset.id = none) (free : p.isFree i = true) (lt : i < p.size)
      (hi : i ∉ r.pinned)
      (tame : ((p.rebind t i r.asset.id).modifyElement i fun e => e.beginLoad r.asset.url).Tame q)
      (loads : Loads r q i ((p.slot i).generation + 1) (p.now + p.backend.loadMs) out)
      (still : ∀ j, q.element j =
        ((p.rebind t i r.asset.id).modifyElement i fun e => e.beginLoad r.asset.url).element j)
      (failing : q.backend.failing = p.backend.failing)
      (oldest : ∀ k, k < p.size → k ∉ r.pinned → p.isFree k = true →
        (p.slot i).lastUsed ≤ (p.slot k).lastUsed) :
      Runs t r (n + 1) p out
  | serves {n i : Nat} {p : Pool} {out : Pool × Stage} (bound : p.slotOf? r.asset.id = some i)
      (free : p.isFree i = true)
      (serves : (p.slot i).serves r.asset.id (p.slot i).generation = true)
      (seeks : Seeks r ((p.touch i).lock i t) i (p.slot i).generation out) : Runs t r (n + 1) p out
  | again {n i : Nat} {p : Pool} {out : Pool × Stage} (bound : p.slotOf? r.asset.id = some i)
      (free : p.isFree i = true) (runs : Runs t r n (((p.touch i).lock i t).unlock i) out)
      (other : (p.slot i).serves r.asset.id (p.slot i).generation = false) :
      Runs t r (n + 1) p out
  | joins {n i : Nat} {p : Pool} (bound : p.slotOf? r.asset.id = some i)
      (busy : p.isFree i = false) :
      Runs t r (n + 1) p ((p.touch i).enqueue i t, .queued i (some (p.slot i).generation) n)
  | waits {n i : Nat} {p : Pool} (alive : p.disposed = false)
      (unbound : p.slotOf? r.asset.id = none)
      (busy : ∀ j, j < p.size → j ∉ r.pinned → p.isFree j = false)
      (oldest : (p.byAge r.pinned).head? = some i) :
      Runs t r (n + 1) p (p.countUse.enqueue i t, .queued i none n)
  | exhausted {n : Nat} {p : Pool} (alive : p.disposed = false)
      (none : ∀ j, j < p.size → j ∈ r.pinned) (unbound : p.slotOf? r.asset.id = Option.none) :
      Runs t r (n + 1) p (p.countUse, .done (.error (.poolExhausted r.asset.id)))

/-- What comes of a step of a request, by the stage that it was at. -/
inductive Steps (t : TaskId) (r : Request) (p : Pool) : Stage → Pool × Stage → Prop
  | refused (empty : r.asset.url.isEmpty = true) :
      Steps t r p .unstarted (p, .done (.error (.missingSource r.asset.id)))
  | starts {out : Pool × Stage} (runs : Runs t r maxPicks p out)
      (named : r.asset.url.isEmpty = false) : Steps t r p .unstarted out
  | stays {i picks : Nat} {k : Option Nat} (holds : p.holds i t = false) :
      Steps t r p (.queued i k picks) (p, .queued i k picks)
  | uses {i g picks : Nat} {out : Pool × Stage} (holds : p.holds i t = true)
      (serves : (p.slot i).serves r.asset.id g = true) (seeks : Seeks r p i g out) :
      Steps t r p (.queued i (some g) picks) out
  | again {i picks : Nat} {k : Option Nat} {out : Pool × Stage} (holds : p.holds i t = true)
      (runs : Runs t r picks (p.unlock i) out)
      (other : ∀ g, k = some g → (p.slot i).serves r.asset.id g = false) :
      Steps t r p (.queued i k picks) out
  | loads {i g due : Nat} {out : Pool × Stage} (loads : Loads r p i g due out) :
      Steps t r p (.loading i g due) out
  | seeks {i g deadline : Nat} {due : Option Nat} {out : Pool × Stage} (seeks : Seeks r p i g out) :
      Steps t r p (.seeking i g due deadline) out

variable {t : TaskId} {r : Request} {p : Pool} {i g : Nat}

lemma Arrives.book {q : Pool} {stale : Bool} (h : Arrives r p i q stale) (b : Backend)
    (a : Agenda) : Arrives r p i { q with backend := b, agenda := a } stale := by
  cases h with
  | near still near => exact .near still near
  | lands moved => exact .lands moved
  | late still => exact .late still

lemma Seeks.finishSeek {q : Pool} {stale : Bool} (h : p.Tame q) (arrives : Arrives r p i q stale) :
    Seeks r p i g (finishSeek t r q i g stale) := by
  have htame := h.trans (.agenda q q.backend (a := q.agenda.stopTimers t) rfl rfl)
  rw [Request.finishSeek, h.isLost]
  split
  · next hl => exact .lost htame hl
  · next hl => exact .ends htame (by simpa using hl) (arrives.book _ _)

lemma Seeks.pollSeek {q : Pool} (h : p.Tame q) (still : ∀ j, q.element j = p.element j)
    (due : Option Nat) (deadline : Nat) : Seeks r p i g (pollSeek t r q i g due deadline) := by
  unfold Request.pollSeek
  dsimp only
  split
  · refine .finishSeek (h.trans (.modifyElement (fun e => .setPosition e _ _) i))
      (.lands fun j => ?_)
    rw [Pool.element_modifyElement, Pool.element_modifyElement, h.size, h.now, still]
  · split
    · exact .finishSeek h (.late still)
    · exact .waits h still

lemma Seeks.moveToTarget (had : p.isLost i g = false) :
    Seeks r p i g (moveToTarget t r p i g) := by
  unfold Request.moveToTarget
  dsimp only
  split
  · next near =>
    exact .ends (.agenda p p.backend (a := p.agenda.stopTimers t) rfl rfl) had
      (.near (fun _ => rfl) near)
  · have tame : p.Tame { p with
        backend := { p.backend with seeks := p.backend.seeks + 1 }
        agenda := (p.agenda.sleepUntil t (p.now + p.backend.seekMs)).sleepUntil t
          (p.now + p.config.seekTimeoutMs.toNat) } := by
      refine .agenda p _ ?_ ?_
      · simp
      · simp [Pool.now]
    exact .pollSeek tame (fun _ => rfl) _ _

lemma loadResult_cases (e : Element) (b : Backend) (url : String) :
    e.loadResult b url = .ok () ∧ e.source = some url ∧ b.refuses url = false ∨
      ∃ reason, e.loadResult b url = .error (.loadFailed url reason) ∧
        (e.source = some url → b.refuses url = true) := by
  unfold Element.loadResult
  split
  · next h => exact .inr ⟨_, rfl, fun _ => h⟩
  · next h =>
    split
    · next hs => exact .inl ⟨rfl, hs, (Bool.not_eq_true _).mp h⟩
    · next hs => exact .inr ⟨_, rfl, fun h => absurd h hs⟩

lemma Loads.pollLoad (due : Nat) : Loads r p i g due (pollLoad t r p i g due) := by
  unfold Request.pollLoad
  split
  · next ended =>
    rcases hl : p.isLost i g with _ | _
    · rcases loadResult_cases (p.element i) p.backend r.asset.url with
        ⟨hres, hs, good⟩ | ⟨reason, hres, bad⟩
      · have hfinish : p.finishLoad i g r.asset.id r.asset.url =
            (p.modifySlot i Slot.finishLoad, .ok ()) := by
          simp [Pool.finishLoad, hl, hres]
        rw [hfinish]
        refine .loads ended hl hs (.moveToTarget ?_) good
        rw [Pool.isLost_eq_false] at hl ⊢
        refine ⟨hl.1, ?_⟩
        rw [Pool.slot_modifySlot]
        split <;> exact hl.2
      · have hfinish : p.finishLoad i g r.asset.id r.asset.url =
            (p.unbind i, .error (.loadFailed r.asset.url reason)) := by
          simp [Pool.finishLoad, hl, hres]
        rw [hfinish]
        exact .fails ended (.agenda (p.unbind i) _ rfl rfl) hl (fun _ => rfl) bad
    · rw [Pool.finish_lost hl]
      exact .lost (.agenda p p.backend rfl rfl) hl
  · next early => exact .waits (Nat.lt_of_not_le early)

/-- A pick of the slot that the asset is bound to, which is used, waited for, or let go of again for
another pick. -/
lemma Runs.kept {n : Nat} (alive : p.disposed = false) (hi : p.slotOf? r.asset.id = some i)
    (hpick : p.pick t r.asset.id r.pinned = (p.touch i, .ok (.kept i (p.slot i).generation)))
    (ih : ∀ p, Runs t r n p (run t r n p)) : Runs t r (n + 1) p (run t r (n + 1) p) := by
  have hlt : i < (p.touch i).size := by
    simpa using p.lt_size_of_asset (Pool.slotOf?_eq_some hi)
  have hbinding : (((p.touch i).lock i t).slot i).binding = (p.slot i).binding := by
    rw [Pool.slot_lock, if_pos ⟨rfl, hlt⟩, Pool.slot_touch]
    split <;> rfl
  unfold Request.run
  rw [hpick]
  dsimp only
  rw [Pool.isFree_touch, Slot.serves_of_binding hbinding]
  split
  · next hf =>
    split
    · next hs =>
      refine .serves hi hf hs (.moveToTarget (Pool.isLost_eq_false.mpr ⟨alive, ?_⟩))
      exact (Slot.binding_eq_iff.mp hbinding).2.2.2
    · next hs => exact .again hi hf (ih _) (by simpa using hs)
  · next hb => exact .joins hi (by simpa using hb)

/-- **What comes of some picks.** -/
lemma Runs.run (n : Nat) (p : Pool) : Runs t r n p (run t r n p) := by
  induction n generalizing p with
  | zero => exact .spent
  | succ n ih =>
    have hpick := p.picks t r.asset.id r.pinned
    rcases hout : p.pick t r.asset.id r.pinned with ⟨q, result⟩
    have hresult : (p.pick t r.asset.id r.pinned).2 = result := by rw [hout]
    rw [hout] at hpick
    by_cases hd : p.disposed = true
    · rw [Request.run, Pool.pick, if_pos hd]
      exact .refused hd
    have alive : p.disposed = false := by simpa using hd
    cases hpick with
    | disposed hd' => exact absurd hd' hd
    | kept hi => exact .kept alive hi hout ih
    | @taken i _ hi free lt hpin =>
      rw [Request.run, hout]
      refine .binds alive hi free lt hpin ?_ (.pollLoad _) (fun _ => rfl) rfl
        fun k => Pool.oldest_of_pick hresult
      refine ⟨⟨⟨rfl, rfl, rfl, fun _ => rfl⟩, rfl, ?_, rfl⟩, ?_, fun _ => .refl _⟩
      · exact Agenda.started_sleepUntil _ _ _
      · exact Pool.now_sleepUntil _ _ _
    | @awaited i =>
      obtain ⟨hof, hbusy, holdest⟩ := Pool.of_pick_awaited hresult alive
      have hmem := Pool.mem_byAge.mp (List.mem_of_mem_head? holdest)
      have hi : p.countUse.isFree i = false := hbusy i hmem.1 hmem.2
      rw [Request.run, hout]
      dsimp only
      rw [hi]
      exact .waits alive hof hbusy holdest
    | exhausted =>
      obtain ⟨hof, hall⟩ := Pool.of_pick_exhausted hresult alive
      rw [Request.run, hout]
      exact .exhausted alive hall hof

/-- **What comes of a step of a request** that is not over. -/
theorem Steps.poll {stage : Stage} (hp : p.Tidy) (hs : ∀ result, stage ≠ .done result) :
    Steps t r p stage (poll t r p stage) := by
  cases stage with
  | unstarted =>
    dsimp only [Request.poll]
    split
    · next empty => exact .refused empty
    · next named => exact .starts (.run _ _) (by simpa using named)
  | queued i k picks =>
    dsimp only [Request.poll, pollQueued]
    split
    · next holds =>
      rcases k with _ | g
      · exact .again holds (.run _ _) nofun
      · dsimp only
        split
        · next serves =>
          obtain ⟨hg, -, -, hasset⟩ := Slot.serves_eq_true.mp serves
          have alive : p.disposed = false := by
            by_contra hd
            simp [hp.closed (by simpa using hd) i] at hasset
          exact .uses holds serves (.moveToTarget (Pool.isLost_eq_false.mpr ⟨alive, hg⟩))
        · next other =>
          refine .again holds (.run _ _) fun g' hg => ?_
          cases hg
          simpa using other
    · next holds => exact .stays (by simpa using holds)
  | loading i g due => exact .loads (.pollLoad due)
  | seeking i g due deadline => exact .seeks (.pollSeek (.refl p) (fun _ => rfl) due deadline)
  | done result => exact absurd rfl (hs result)

end Request

end Montage

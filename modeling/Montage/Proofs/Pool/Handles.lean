import Montage.Proofs.Pool.Runs

/-!
What a request may rely on when it is over.

A handle names a slot that serves the asset as the request has picked it. A load or a seek that is
over after its slot was taken away gives no handle, and it leaves all that the pool knows of its
slots alone.
-/

namespace Montage

namespace Pool

variable {p : Pool} {t : TaskId} {r : Request} {i g : Nat}

/-- A slot serves an asset, and the task has picked it at the generation that it is at. -/
def Vouches (p : Pool) (ns : List Note) (t : TaskId) (asset : AssetId) (i : Nat) : Prop :=
  (p.slot i).asset = some asset ∧ (p.slot i).prepared = true ∧ (p.slot i).loading = false ∧
    Note.picked ns t = some (i, (p.slot i).generation)

lemma slot_resume {w : Work} (hw : p.work? t = some w) (j : Nat) :
    (p.resume t).slot j = (w.poll t p).1.slot j := by
  rw [resume_eq hw]
  rfl

lemma serves_of_resume {stage : Request.Stage} (hp : p.Ordered)
    (hw : p.work? t = some (.request r stage)) (hs : ∀ result, stage ≠ .done result) :
    ∃ ms, (Course p.account ms (p.resume t).account ∧ ∀ n ∈ ms, n.Allowed t r.pinned) ∧
      ((∃ stage', (p.resume t).work? t = some (.request r stage')) ∧
        ∀ u ≠ t, (p.resume t).work? u = p.work? u) ∧
        ∀ h, (p.resume t).result? t = some (.ok h) → h.asset = r.asset.id ∧
          ∃ k, ((p.resume t).slot h.slot).serves r.asset.id k = true ∧
            (Note.picked ms t).or (p.stake t).pick? = some (h.slot, k) := by
  obtain ⟨ms, hms, hallowed, hdone⟩ := Request.goes_poll hp.good (stake_of_work? hw) hs
  have hnow := work?_resume hw hms.frame.1
  have hothers := fun u => work?_resume_of_ne (u := u) hw hms.frame.1
  refine ⟨ms, ⟨(course_of_poll hp hw hms).1, hallowed⟩, ⟨⟨_, hnow⟩, hothers⟩, fun h hafter => ?_⟩
  obtain ⟨r', hafter⟩ := work?_of_result? hafter
  rw [hnow, Option.some.injEq] at hafter
  have hout : (r.poll t p stage).2 = .done (.ok h) := by
    injection hafter
  rw [slot_resume hw]
  exact hdone h hout

lemma Vouches.of_serves {ns ms : List Note} {a : AssetId} {i k : Nat}
    (hns : p.account.Recalled ns) (hs : ((p.resume t).slot i).serves a k = true)
    (hpick : (Note.picked ms t).or (p.stake t).pick? = some (i, k)) :
    (p.resume t).Vouches (ns ++ ms) t a i := by
  obtain ⟨hg, hprepared, hloading, hbound⟩ := Slot.serves_eq_true.mp hs
  refine ⟨hbound, hprepared, hloading, ?_⟩
  rw [hg, Note.picked_append]
  rcases hpm : Note.picked ms t with _ | y
  · rw [hpm, Option.none_or] at hpick
    exact hns.picked hpick
  · rw [hpm] at hpick
    exact hpick

lemma finish_lost (h : p.isLost i g = true) (a : AssetId) (url : String) :
    p.finishLoad i g a url = (p, .error (.abandoned a)) := by
  simp [finishLoad, h]

lemma record_unlock (p : Pool) (i j : Nat) :
    ((p.unlock i).slot j).record = (p.slot j).record ∧ (p.unlock i).element j = p.element j := by
  rw [element, slot_unlock]
  split <;> exact ⟨rfl, rfl⟩

lemma resume_lost_load {due : Nat} (hw : p.work? t = some (.request r (.loading i g due)))
    (hdue : due ≤ p.now) (hl : p.isLost i g = true) :
    (p.resume t).result? t = some (.error (.abandoned r.asset.id)) ∧
      ∀ j, ((p.resume t).slot j).record = (p.slot j).record ∧
        (p.resume t).element j = p.element j := by
  have hpoll : (Work.request r (.loading i g due)).poll t p =
      (({ p with agenda := p.agenda.stopTimers t } : Pool).unlock i,
        .request r (.done (.error (.abandoned r.asset.id)))) := by
    simp [Work.poll, Request.poll, Request.pollLoad, hdue, finish_lost hl, Request.finish]
  refine ⟨?_, fun j => ?_⟩
  · rw [result?, work?_resume hw (by simp [hpoll]), hpoll]
  · have h := record_unlock { p with agenda := p.agenda.stopTimers t } i j
    rw [element, slot_resume hw, hpoll]
    exact h

lemma finishSeek_lost (h : p.isLost i g = true) (stale : Bool) :
    r.finishSeek t p i g stale = (({ p with agenda := p.agenda.stopTimers t } : Pool).unlock i,
      .done (.error (.abandoned r.asset.id))) := by
  simp [Request.finishSeek, h, Request.finish]

/-- A seek that is over touches nothing but the element. -/
lemma pollSeek_lost {due : Option Nat} {deadline : Nat}
    (hover : deadline ≤ p.now ∨ due.any (· ≤ p.now) = true ∧ p.backend.hanging = false)
    (hl : p.isLost i g = true) :
    ∃ q, (p.Still q ∧ ∀ j ≠ i, q.element j = p.element j) ∧ r.pollSeek t p i g due deadline =
      (({ q with agenda := q.agenda.stopTimers t } : Pool).unlock i,
        .done (.error (.abandoned r.asset.id))) := by
  unfold Request.pollSeek
  dsimp only
  split
  · have hlost :
        (p.modifyElement i fun e => e.finishSeek p.now r.seekTarget).isLost i g = true := by
      rw [← hl]
      simp only [isLost, modifyElement, disposed_modifySlot, slot_modifySlot]
      split <;> rfl
    refine ⟨_, ⟨p.still_modifyElement i _, fun j hj => ?_⟩, finishSeek_lost hlost false⟩
    simp [element, Ne.symm hj]
  · next hgoes =>
    have hdue : deadline ≤ p.now := by
      rcases hover with h | ⟨hd, hb⟩
      · exact h
      · simp [hd, hb] at hgoes
    rw [if_pos hdue]
    exact ⟨p, ⟨⟨.refl p, rfl, rfl, rfl⟩, fun _ _ => rfl⟩, finishSeek_lost hl true⟩

/-- A request comes back from a seek, or gives it up, and finds its slot taken away. -/
lemma resume_lost_seek {due : Option Nat} {deadline : Nat}
    (hw : p.work? t = some (.request r (.seeking i g due deadline)))
    (hover : deadline ≤ p.now ∨ due.any (· ≤ p.now) = true ∧ p.backend.hanging = false)
    (hl : p.isLost i g = true) :
    (p.resume t).result? t = some (.error (.abandoned r.asset.id)) ∧
      ∀ j, ((p.resume t).slot j).record = (p.slot j).record ∧
        (j ≠ i → (p.resume t).element j = p.element j) := by
  obtain ⟨q, ⟨hq, helements⟩, hseek⟩ := pollSeek_lost (t := t) (r := r) hover hl
  have hpoll : (Work.request r (.seeking i g due deadline)).poll t p =
      (({ q with agenda := q.agenda.stopTimers t } : Pool).unlock i,
        .request r (.done (.error (.abandoned r.asset.id)))) := by
    simp [Work.poll, Request.poll, hseek]
  refine ⟨?_, fun j => ?_⟩
  · rw [result?, work?_resume hw (by simp [hpoll, hq.work]), hpoll]
  · obtain ⟨hrecord, helement⟩ := record_unlock { q with agenda := q.agenda.stopTimers t } i j
    rw [element, slot_resume hw, hpoll]
    exact ⟨hrecord.trans (hq.record j), fun hj => helement.trans (helements j hj)⟩

lemma resume_lost_warmup {w : Warmup} {due : Nat} (hw : p.work? t = some (.warmup w (.loading due)))
    (hdue : due ≤ p.now) (hl : p.isLost w.slot w.generation = true) :
    (p.resume t).work? t = some (.warmup w .done) ∧
      ∀ j, ((p.resume t).slot j).record = (p.slot j).record ∧
        (p.resume t).element j = p.element j := by
  have hpoll : (Work.warmup w (.loading due)).poll t p = (p.unlock w.slot, .warmup w .done) := by
    simp [Work.poll, Warmup.poll, Warmup.pollLoad, hdue, finish_lost hl]
  refine ⟨?_, fun j => ?_⟩
  · rw [work?_resume hw (by simp [hpoll]), hpoll]
  · rw [element, slot_resume hw, hpoll]
    exact p.record_unlock w.slot j

/-- The notes of a run and of a step after it know what the task of that step has picked. -/
lemma traced_resume {c : Pool} (hc : c.Ordered) (hr : c.account.Recalled []) (es : List Event)
    (t : TaskId) : ∃ ns, c.Traced (es ++ [.resume t]) ns ∧
      ∀ r stage h, (c.run es).work? t = some (.request r stage) → (c.run es).result? t = none →
        ((c.run es).resume t).result? t = some (.ok h) →
          h.asset = r.asset.id ∧ ((c.run es).resume t).Vouches ns t r.asset.id h.slot := by
  have hp := hc.run es
  by_cases hgoes : ∃ r stage, (c.run es).work? t = some (.request r stage) ∧
      (c.run es).result? t = none
  · obtain ⟨r, stage, hw, hresult⟩ := hgoes
    have hs : ∀ result, stage ≠ .done result := by
      rintro result rfl
      simp [result?, hw] at hresult
    obtain ⟨ns, hns⟩ := Traced.exists_of hc es
    have hrecalled : (c.run es).account.Recalled ns := hns.course.recalled hc.good hr
    obtain ⟨ms, ⟨hcourse, hallowed⟩, -, hhandle⟩ := serves_of_resume hp hw hs
    refine ⟨ns ++ ms, .snoc hns hcourse fun n hn => ⟨_, hw, hallowed n hn⟩,
      fun r' stage' h hw' _ hq => ?_⟩
    rw [hw] at hw'
    cases hw'
    obtain ⟨hasset, k, hserves, hpick⟩ := hhandle h hq
    exact ⟨hasset, .of_serves hrecalled hserves hpick⟩
  · obtain ⟨ns, hns⟩ := Traced.exists_of hc (es ++ [.resume t])
    exact ⟨ns, hns, fun r stage h hw hresult _ => absurd ⟨r, stage, hw, hresult⟩ hgoes⟩

/-- **What comes of a step of a task**, after whatever has happened before. A handle is good when it
is given out; and work that was waiting for a slot it has lost ends with nothing done. -/
theorem resume_of_run (config : PoolConfig) (backend : Backend) (es : List Event) (t : TaskId) :
    let p := (Pool.new config backend).run es
    let q := p.resume t
    ∃ ns, (Pool.new config backend).Traced (es ++ [.resume t]) ns ∧
      (∀ r stage h, p.work? t = some (.request r stage) → p.result? t = none →
        q.result? t = some (.ok h) → h.asset = r.asset.id ∧ q.Vouches ns t r.asset.id h.slot) ∧
      (∀ r i g due, p.work? t = some (.request r (.loading i g due)) → due ≤ p.now →
        p.isLost i g = true → q.result? t = some (.error (.abandoned r.asset.id)) ∧
          ∀ j, (q.slot j).record = (p.slot j).record ∧ q.element j = p.element j) ∧
      (∀ r i g due deadline, p.work? t = some (.request r (.seeking i g due deadline)) →
        deadline ≤ p.now ∨ due.any (· ≤ p.now) = true ∧ p.backend.hanging = false →
        p.isLost i g = true → q.result? t = some (.error (.abandoned r.asset.id)) ∧
          ∀ j, (q.slot j).record = (p.slot j).record ∧ (j ≠ i → q.element j = p.element j)) ∧
      ∀ w due, p.work? t = some (.warmup w (.loading due)) → due ≤ p.now →
        p.isLost w.slot w.generation = true → q.work? t = some (.warmup w .done) ∧
          ∀ j, (q.slot j).record = (p.slot j).record ∧ q.element j = p.element j := by
  intro p q
  have hnew := Ordered.new config backend
  obtain ⟨ns, hns, hhandle⟩ := traced_resume hnew (recalled_new config backend) es t
  exact ⟨ns, hns, hhandle, fun r i g due hw => resume_lost_load hw,
    fun r i g due deadline hw => resume_lost_seek hw, fun w due hw => resume_lost_warmup hw⟩

/-- A pool of one slot whose loads take `loadMs`. -/
def single (loadMs : Nat) : Pool := .new { poolSize := 1 } { loadMs }

/-- A request for the one shot at some time. -/
def shot (target : Float) : Request := ⟨.video ⟨"shot"⟩ "shot.mp4" 10.0, target, false, []⟩

/-- A request that is served at once; and a load, a seek and a load in advance that come back after
a reset. -/
theorem resume_of_run_single :
    (∃ ns, ((single 0).run [.request (shot 0.0), .resume 1]).Vouches ns 1 ⟨"shot"⟩ 0) ∧
    (let p := (single 20).run [.request (shot 0.0), .resume 1, .reset, .schedule { now := 20 }]
     (p.resume 1).result? 1 = some (.error (.abandoned ⟨"shot"⟩)) ∧
       ∀ j, ((p.resume 1).slot j).record = (p.slot j).record) ∧
    (let p := (single 0).run [.request (shot 4.0), .resume 1, .reset, .schedule { now := 5 }]
     (p.resume 1).result? 1 = some (.error (.abandoned ⟨"shot"⟩)) ∧
       ∀ j, ((p.resume 1).slot j).record = (p.slot j).record) ∧
    let p := (single 20).run [.preload [⟨"shot"⟩] ⟨[(shot 0.0).asset]⟩, .resume 1, .reset,
      .schedule { now := 20 }]
    ∀ j, ((p.resume 1).slot j).record = (p.slot j).record := by
  refine ⟨?_, ?_, ?_, ?_⟩
  · obtain ⟨ns, -, hhandle, -⟩ := resume_of_run { poolSize := 1 } { loadMs := 0 }
      [.request (shot 0.0)] 1
    exact ⟨ns, (hhandle (shot 0.0) .unstarted ⟨⟨"shot"⟩, 0, false⟩ rfl rfl (by decide +kernel)).2⟩
  · obtain ⟨-, -, -, hload, -⟩ := resume_of_run { poolSize := 1 } { loadMs := 20 }
      [.request (shot 0.0), .resume 1, .reset, .schedule { now := 20 }] 1
    obtain ⟨hresult, hslots⟩ :=
      hload (shot 0.0) 0 1 20 (by with_unfolding_all rfl) (by decide) (by decide +kernel)
    exact ⟨hresult, fun j => (hslots j).1⟩
  · obtain ⟨-, -, -, -, hseek, -⟩ := resume_of_run { poolSize := 1 } { loadMs := 0 }
      [.request (shot 4.0), .resume 1, .reset, .schedule { now := 5 }] 1
    obtain ⟨hresult, hslots⟩ := hseek (shot 4.0) 0 1 (some 5) 1000 (by with_unfolding_all rfl)
      (.inr (by decide +kernel)) (by decide +kernel)
    exact ⟨hresult, fun j => (hslots j).1⟩
  · obtain ⟨-, -, -, -, -, hwarmup⟩ := resume_of_run { poolSize := 1 } { loadMs := 20 }
      [.preload [⟨"shot"⟩] ⟨[(shot 0.0).asset]⟩, .resume 1, .reset, .schedule { now := 20 }] 1
    exact fun j => ((hwarmup ⟨⟨"shot"⟩, "shot.mp4", 0, 1⟩ 20 rfl (by decide +kernel)
      (by decide +kernel)).2 j).1

end Pool

end Montage

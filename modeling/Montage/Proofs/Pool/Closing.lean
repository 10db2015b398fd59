import Montage.Proofs.Pool.Runs

/-!
A pool that is disposed of.

Whatever state a pool is in when it is disposed of, and whatever happens to it then, nothing is
bound any more. Work that was under way comes to an end without a handle, no load in advance is
started, and a new request is over at once, with an error.
-/

namespace Montage

namespace Machine

variable {σ : Type} (m : Machine σ) {stop : σ → Bool} {s : σ}

lemma runFor_of_stop (h : stop s = true) (fuel : Nat) : m.runFor stop fuel s = s := by
  cases fuel with
  | zero => rfl
  | succ fuel => simp [runFor, h]

lemma runUntil_of_stop (h : stop s = true) : m.runUntil stop s = s := m.runFor_of_stop h _

end Machine

namespace Pool

/-- The pool is disposed of, and no slot is bound. -/
structure Closed (p : Pool) : Prop where
  disposed : p.disposed = true
  unbound : ∀ i, (p.slot i).asset = none

/-- A handle that a request has got and that has not been fetched. -/
def HasHandle (p : Pool) (t : TaskId) (h : Handle) : Prop :=
  ∃ r, (t, Work.request r (.done (.ok h))) ∈ p.work

variable {p q : Pool} {i g : Nat}

lemma closed_dispose (p : Pool) : p.dispose.Closed := by
  refine ⟨rfl, fun i => ?_⟩
  change (p.reset.slot i).asset = none
  rw [slot_reset]
  split
  · rfl
  · next hi => rw [slot_of_size_le p (Nat.not_lt.mp hi)]

namespace Closed

lemma congr (h : p.Closed) (hd : q.disposed = p.disposed) (hs : q.slots = p.slots) : q.Closed :=
  ⟨hd.trans h.disposed, fun i => by rw [slot, hs]; exact h.unbound i⟩

lemma modifySlot (h : p.Closed) {f : Slot → Slot} (hf : ∀ s, s.asset = none → (f s).asset = none)
    (i : Nat) : (p.modifySlot i f).Closed := by
  refine ⟨h.disposed, fun j => ?_⟩
  rw [slot_modifySlot]
  split
  · exact hf _ (h.unbound j)
  · exact h.unbound j

lemma unlock (h : p.Closed) (i : Nat) : (p.unlock i).Closed := by
  have hreleased : (p.modifySlot i fun s => { s with lock := (p.slot i).lock.release }).Closed :=
    h.modifySlot (f := fun s => { s with lock := (p.slot i).lock.release }) (fun _ hs => hs) i
  unfold Pool.unlock
  dsimp only
  split
  · exact hreleased
  · exact hreleased.congr rfl rfl

lemma agrees (h : p.Closed) (k : p.Agrees q) : q.Closed :=
  ⟨k.disposed.trans h.disposed, fun i => (congrArg (·.asset) (k.slot i) :).trans (h.unbound i)⟩

lemma isLost (h : p.Closed) (i g : Nat) : p.isLost i g = true := by
  simp [Pool.isLost, h.disposed]

lemma serves_eq_false (h : p.Closed) (i : Nat) (a : AssetId) (g : Nat) :
    (p.slot i).serves a g = false := by
  simp [Slot.serves, h.unbound i]

end Closed

end Pool

namespace Request

variable {p : Pool} {t : TaskId} {r : Request} {i g : Nat}

/-- A step from a pool that is disposed of: it stays so, and no handle has come of it. -/
structure Fails (p : Pool) (out : Pool × Stage) : Prop where
  closed : out.1.Closed
  work : out.1.work = p.work
  without : ∀ h, out.2 ≠ .done (.ok h)

lemma Fails.congr {q : Pool} {out : Pool × Stage} (h : Fails q out) (hw : q.work = p.work) :
    Fails p out :=
  ⟨h.closed, h.work.trans hw, h.without⟩

lemma fails_finish (hp : p.Closed) {e : MediaError} : Fails p (finish t p i (.error e)) where
  closed := (hp.congr (q := { p with agenda := p.agenda.stopTimers t }) rfl rfl).unlock i
  work := Pool.work_unlock _ i
  without h := by simp [finish]

lemma fails_finishSeek (hp : p.Closed) (stale : Bool) :
    Fails p (finishSeek t r p i g stale) := by
  rw [finishSeek, if_pos (hp.isLost i g)]
  exact fails_finish hp

lemma fails_pollSeek (hp : p.Closed) (due : Option Nat) (deadline : Nat) :
    Fails p (pollSeek t r p i g due deadline) := by
  unfold pollSeek
  dsimp only
  split
  · exact (fails_finishSeek (hp.agrees (p.agrees_modifyElement i _)) _).congr rfl
  · split
    · exact fails_finishSeek hp _
    · exact ⟨hp, rfl, by simp⟩

lemma fails_pollLoad (hp : p.Closed) (due : Nat) : Fails p (pollLoad t r p i g due) := by
  unfold pollLoad
  split
  · rw [Pool.finishLoad, if_pos (hp.isLost i g)]
    exact fails_finish hp
  · exact ⟨hp, rfl, by simp⟩

lemma run_of_closed (hp : p.Closed) (picks : Nat) : run t r picks p =
    (p, .done (.error (if picks = 0 then .abandoned r.asset.id else .disposed))) := by
  cases picks with
  | zero => rfl
  | succ picks => simp [run, Pool.pick, hp.disposed]

lemma fails_run (hp : p.Closed) (picks : Nat) : Fails p (run t r picks p) := by
  rw [run_of_closed hp]
  exact ⟨hp, rfl, by simp⟩

lemma fails_pollQueued (hp : p.Closed) (generation : Option Nat) (picks : Nat) :
    Fails p (pollQueued t r p i generation picks) := by
  have hanew : Fails p (run t r picks (p.unlock i)) :=
    (fails_run (hp.unlock i) picks).congr (Pool.work_unlock p i)
  unfold pollQueued
  split
  · split
    · rw [hp.serves_eq_false, if_neg Bool.false_ne_true]
      exact hanew
    · exact hanew
  · exact ⟨hp, rfl, by simp⟩

lemma poll_unstarted_of_closed (hp : p.Closed) : poll t r p .unstarted =
    (p, .done (.error
      (if r.asset.url.isEmpty then .missingSource r.asset.id else .disposed))) := by
  dsimp only [poll]
  split
  · rfl
  · exact run_of_closed hp _

/-- **A request** gets no handle from a pool that is disposed of. -/
lemma fails_poll (hp : p.Closed) {stage : Stage} (hstage : ∀ result, stage ≠ .done result) :
    Fails p (poll t r p stage) := by
  cases stage with
  | unstarted =>
    rw [poll_unstarted_of_closed hp]
    exact ⟨hp, rfl, by simp⟩
  | queued i generation picks => exact fails_pollQueued hp generation picks
  | loading i generation due => exact fails_pollLoad hp due
  | seeking i generation due deadline => exact fails_pollSeek hp due deadline
  | done result => exact absurd rfl (hstage result)

end Request

namespace Warmup

variable {p : Pool} {t : TaskId} {w : Warmup}

lemma closed_pollLoad (hp : p.Closed) (due : Nat) :
    (w.pollLoad p due).1.Closed ∧ (w.pollLoad p due).1.work = p.work := by
  unfold pollLoad
  split
  · rw [Pool.finishLoad, if_pos (hp.isLost _ _)]
    exact ⟨hp.unlock _, Pool.work_unlock _ _⟩
  · exact ⟨hp, rfl⟩

lemma closed_poll (hp : p.Closed) (stage : Stage) :
    (w.poll t p stage).1.Closed ∧ (w.poll t p stage).1.work = p.work := by
  cases stage with
  | unstarted =>
    have hbegun : (p.beginLoad w.slot w.url).Closed :=
      (hp.agrees (p.agrees_modifyElement w.slot fun e => e.beginLoad w.url)).congr rfl rfl
    dsimp only [poll]
    obtain ⟨hclosed, hwork⟩ := closed_pollLoad (w := w) (p := { p.beginLoad w.slot w.url with
      agenda := (p.beginLoad w.slot w.url).agenda.sleepUntil t (p.now + p.backend.loadMs) })
      (hbegun.congr rfl rfl) (p.now + p.backend.loadMs)
    exact ⟨hclosed, hwork⟩
  | loading due => exact closed_pollLoad hp due
  | done => exact ⟨hp, rfl⟩

end Warmup

lemma Work.poll_of_closed {p : Pool} (t : TaskId) (hp : p.Closed) (w : Work) :
    (w.poll t p).1.Closed ∧ (w.poll t p).1.work = p.work ∧
      ∀ r h, (w.poll t p).2 = .request r (.done (.ok h)) → w = .request r (.done (.ok h)) := by
  cases w with
  | request r stage =>
    by_cases hstage : ∃ result, stage = .done result
    · obtain ⟨result, rfl⟩ := hstage
      exact ⟨hp, rfl, fun _ _ heq => heq⟩
    · have hfails := Request.fails_poll (t := t) (r := r) hp fun result heq =>
        hstage ⟨result, heq⟩
      refine ⟨hfails.closed, hfails.work, fun r' h heq => ?_⟩
      exact absurd (Work.request.inj heq).2 (hfails.without h)
  | warmup w stage =>
    obtain ⟨hclosed, hwork⟩ := Warmup.closed_poll (t := t) (w := w) hp stage
    exact ⟨hclosed, hwork, fun _ _ heq => by cases heq⟩

namespace Pool

variable {p q : Pool} {t : TaskId}

/-- The later pool is disposed of as well, and has no handles but old ones. -/
structure StaysClosed (p q : Pool) : Prop where
  closed : q.Closed
  handles : ∀ t h, q.HasHandle t h → p.HasHandle t h

namespace StaysClosed

lemma refl (h : p.Closed) : p.StaysClosed p := ⟨h, fun _ _ hh => hh⟩

lemma trans {q' : Pool} (h : p.StaysClosed q) (k : q.StaysClosed q') : p.StaysClosed q' :=
  ⟨k.closed, fun t hd hh => h.handles t hd (k.handles t hd hh)⟩

lemma of_work (h : q.Closed) (hw : ∀ t r hd, (t, Work.request r (.done (.ok hd))) ∈ q.work →
    (t, Work.request r (.done (.ok hd))) ∈ p.work) : p.StaysClosed q :=
  ⟨h, fun t hd ⟨r, hr⟩ => ⟨r, hw t r hd hr⟩⟩

end StaysClosed

lemma mem_work_of_work? {w : Work} (h : p.work? t = some w) : (t, w) ∈ p.work := by
  obtain ⟨⟨t', w'⟩, he, rfl⟩ := Option.map_eq_some_iff.mp h
  have ht : t' = t := by simpa using List.find?_some he
  exact ht ▸ List.mem_of_find?_eq_some he

lemma mem_setWork {w : Work} {e : TaskId × Work} (h : e ∈ (p.setWork t w).work) :
    e = (t, w) ∨ e ∈ p.work := by
  obtain ⟨e', he', rfl⟩ := List.mem_map.mp h
  split
  · exact .inl rfl
  · exact .inr he'

lemma Closed.resume (h : p.Closed) (t : TaskId) : p.StaysClosed (p.resume t) := by
  cases hw : p.work? t with
  | none =>
    rw [resume_eq_self hw]
    exact .refl h
  | some w =>
    obtain ⟨hclosed, hwork, hhandles⟩ := Work.poll_of_closed t h w
    rw [resume_eq hw]
    refine .of_work (hclosed.congr rfl rfl) fun u r hd hmem => ?_
    rcases mem_setWork hmem with heq | hold
    · obtain ⟨rfl, heq⟩ := Prod.mk.inj heq
      exact hhandles r hd heq.symm ▸ mem_work_of_work? hw
    · exact hwork ▸ hold

lemma Closed.take (h : p.Closed) (t : TaskId) (r : Request) : p.StaysClosed (p.take t r) := by
  refine .of_work (h.congr rfl rfl) fun u r' hd hmem => ?_
  rcases List.mem_append.mp hmem with hold | hnew
  · exact hold
  · simp at hnew

lemma Closed.forget (h : p.Closed) (t : TaskId) : p.StaysClosed (p.forget t) :=
  .of_work (h.congr rfl rfl) fun _ _ _ hmem => List.mem_of_mem_filter hmem

lemma Closed.reset (h : p.Closed) : p.StaysClosed p.reset :=
  .of_work ((p.closed_dispose).congr h.disposed rfl) fun _ _ _ hmem => hmem

lemma closes_dispose (p : Pool) : p.StaysClosed p.dispose :=
  .of_work p.closed_dispose fun _ _ _ hmem => hmem

lemma Closed.release_eq (h : p.Closed) (a : AssetId) : p.release a = (false, p) := by
  unfold Pool.release
  split
  · next i hi => exact absurd (slotOf?_eq_some hi) (by simp [h.unbound i])
  · rfl

lemma Closed.preload_eq (h : p.Closed) (upcoming : List AssetId) (assets : AssetTable) :
    p.preload upcoming assets = (0, p) := by
  simp [preload, preloadFrom, h.disposed]

lemma Closed.setAgenda (h : p.Closed) (a : Agenda) : p.StaysClosed { p with agenda := a } :=
  .of_work (h.congr rfl rfl) fun _ _ _ hmem => hmem

/-- **Whatever happens** to a pool that is disposed of, it stays so, and no handle comes of it. -/
lemma Closed.event (h : p.Closed) (e : Event) : p.StaysClosed (e.apply p) := by
  cases e with
  | request r => exact (h.setAgenda _).trans ((h.setAgenda _).closed.take _ r)
  | call r =>
    dsimp only [Event.apply]
    split
    · exact h.take _ r
    · exact .refl h
  | resume t => exact h.resume t
  | collect t =>
    dsimp only [Event.apply]
    split
    · exact h.forget t
    · exact .refl h
  | preload upcoming assets =>
    dsimp only [Event.apply]
    rw [h.preload_eq]
    exact .refl h
  | release a =>
    dsimp only [Event.apply]
    rw [h.release_eq]
    exact .refl h
  | reset => exact h.reset
  | dispose => exact p.closes_dispose
  | pauseExcept active =>
    exact .of_work (h.agrees (p.agrees_pauseExcept active)) fun _ _ _ hmem => hmem
  | element i f => exact .of_work (h.agrees (p.agrees_modifyElement i f)) fun _ _ _ hmem => hmem
  | attend | backend => exact .of_work (h.congr rfl rfl) fun _ _ _ hmem => hmem
  | schedule a => exact h.setAgenda _

lemma Closed.acquire_eq (h : p.Closed) (idle : p.work? .main = none) (r : Request) :
    (p.acquire r).2 = some (.error
      (if r.asset.url.isEmpty then .missingSource r.asset.id else .disposed)) := by
  have htaken : (p.take .main r).work? .main = some (.request r .unstarted) := by
    rw [work?_append (p := p) rfl, idle, if_pos rfl]
    rfl
  have hpoll := Request.poll_unstarted_of_closed (t := .main) (r := r) (h.take .main r).closed
  have hwork := work?_resume htaken (by simp only [Work.poll, hpoll])
  have hresult : ((p.take .main r).resume .main).result? .main = some (.error
      (if r.asset.url.isEmpty then .missingSource r.asset.id else .disposed)) := by
    rw [result?, hwork]
    simp only [Work.poll, hpoll]
  rw [acquire, machine.runUntil_of_stop (by rw [isOver, hresult]; rfl)]
  exact hresult

end Pool

end Montage

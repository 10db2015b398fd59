import Montage.Proofs.Pool.Asks

/-!
How often a request picks a slot.

The steps of a request are told once more, with its picks counted. The count changes nothing about
what a step does, and together with the picks that are left it is never more than a request may
have.
-/

namespace Montage

namespace Request

/-- The picks that a request has left. -/
def Stage.picksLeft : Stage → Nat
  | unstarted => maxPicks
  | queued _ _ picks => picks
  | loading .. | seeking .. | done _ => 0

variable (task : TaskId) (r : Request)

/-- One more pick has been made. -/
def countPick (x : (Pool × Stage) × Nat) : (Pool × Stage) × Nat := (x.1, x.2 + 1)

/-- Picks a slot and goes on from there, and counts the picks. -/
def runTallied : Nat → Pool → (Pool × Stage) × Nat
  | 0, p => ((p, .done (.error (.abandoned r.asset.id))), 0)
  | picks + 1, p => countPick <|
    match p.pick task r.asset.id r.pinned with
    | (p, .error e) => ((p, .done (.error e)), 0)
    | (p, .ok (.taken i generation)) =>
      let due := p.now + p.backend.loadMs
      let p := p.beginLoad i r.asset.url
      (pollLoad task r { p with agenda := p.agenda.sleepUntil task due } i generation due, 0)
    | (p, .ok (.kept i generation)) =>
      if p.isFree i then
        let p := p.lock i task
        if (p.slot i).serves r.asset.id generation then (moveToTarget task r p i generation, 0)
        else runTallied picks (p.unlock i)
      else ((p.enqueue i task, .queued i (some generation) picks), 0)
    | (p, .ok (.awaited i)) =>
      if p.isFree i then runTallied picks p
      else ((p.enqueue i task, .queued i none picks), 0)

/-- Goes on once a lock has been handed over, and counts the picks. -/
def pollQueuedTallied (p : Pool) (i : Nat) (generation : Option Nat) (picks : Nat) :
    (Pool × Stage) × Nat :=
  if p.holds i task then
    match generation with
    | some g =>
      if (p.slot i).serves r.asset.id g then (moveToTarget task r p i g, 0)
      else runTallied task r picks (p.unlock i)
    | none => runTallied task r picks (p.unlock i)
  else ((p, .queued i generation picks), 0)

/-- A step of a request, with its picks counted. -/
def pollTallied (p : Pool) : Stage → (Pool × Stage) × Nat
  | .unstarted =>
    if r.asset.url.isEmpty then ((p, .done (.error (.missingSource r.asset.id))), 0)
    else runTallied task r maxPicks p
  | .queued i generation picks => pollQueuedTallied task r p i generation picks
  | .loading i generation due => (pollLoad task r p i generation due, 0)
  | .seeking i generation due deadline => (pollSeek task r p i generation due deadline, 0)
  | .done result => ((p, .done result), 0)

variable {t : TaskId} {p : Pool} {r} {i g deadline : Nat} {due : Option Nat} {stage : Stage}

lemma fst_runTallied (n : Nat) (p : Pool) : (runTallied t r n p).1 = run t r n p := by
  induction n generalizing p with
  | zero => rfl
  | succ n ih =>
    unfold runTallied run
    dsimp only [countPick]
    rcases p.pick t r.asset.id r.pinned with ⟨q, e | ⟨i, g⟩ | ⟨i, g⟩ | i⟩
    · rfl
    · dsimp only
      split
      · split
        · rfl
        · exact ih _
      · rfl
    · rfl
    · dsimp only
      split
      · exact ih _
      · rfl

lemma fst_pollTallied (t : TaskId) (r : Request) (p : Pool) (stage : Stage) :
    (pollTallied t r p stage).1 = poll t r p stage := by
  cases stage with
  | unstarted =>
    dsimp only [pollTallied, poll]
    split
    · rfl
    · exact fst_runTallied _ _
  | queued i k n =>
    dsimp only [pollTallied, poll, pollQueuedTallied, pollQueued]
    split
    · rcases k with _ | g
      · exact fst_runTallied _ _
      · dsimp only
        split
        · rfl
        · exact fst_runTallied _ _
    · rfl
  | loading | seeking | done => rfl

/-! ### The picks that are left -/

lemma picksLeft_pollSeek (p : Pool) (due : Option Nat) :
    (pollSeek t r p i g due deadline).2.picksLeft = 0 := by
  unfold pollSeek
  dsimp only
  split
  · rfl
  · split <;> rfl

lemma picksLeft_moveToTarget (p : Pool) : (moveToTarget t r p i g).2.picksLeft = 0 := by
  unfold moveToTarget
  dsimp only
  split
  · rfl
  · exact picksLeft_pollSeek _ _

lemma picksLeft_pollLoad (p : Pool) (due : Nat) : (pollLoad t r p i g due).2.picksLeft = 0 := by
  unfold pollLoad
  split
  · split
    · exact picksLeft_moveToTarget _
    · rfl
  · rfl

/-- Whatever a request has picked, it has so many picks less. -/
lemma runTallied_le (n : Nat) (p : Pool) :
    (runTallied t r n p).2 + (runTallied t r n p).1.2.picksLeft ≤ n := by
  induction n generalizing p with
  | zero => exact Nat.le_refl _
  | succ n ih =>
    unfold runTallied
    dsimp only [countPick]
    rw [Nat.add_right_comm]
    refine Nat.succ_le_succ ?_
    rcases p.pick t r.asset.id r.pinned with ⟨q, e | ⟨i, g⟩ | ⟨i, g⟩ | i⟩
    · exact Nat.zero_le _
    · dsimp only
      split
      · split
        · simp [picksLeft_moveToTarget]
        · exact ih _
      · simp [Stage.picksLeft]
    · simp [picksLeft_pollLoad]
    · dsimp only
      split
      · exact ih _
      · simp [Stage.picksLeft]

lemma pollTallied_le (t : TaskId) (r : Request) (p : Pool) (stage : Stage) :
    (pollTallied t r p stage).2 + (pollTallied t r p stage).1.2.picksLeft ≤ stage.picksLeft := by
  cases stage with
  | unstarted =>
    dsimp only [pollTallied]
    split
    · exact Nat.zero_le _
    · exact runTallied_le _ _
  | queued i k n =>
    dsimp only [pollTallied, pollQueuedTallied]
    split
    · rcases k with _ | g
      · exact runTallied_le _ _
      · dsimp only
        split
        · simp [picksLeft_moveToTarget]
        · exact runTallied_le _ _
    · simp
  | loading => simp [pollTallied, picksLeft_pollLoad]
  | seeking => simp [pollTallied, picksLeft_pollSeek]
  | done => exact Nat.le_refl _

end Request

/-- A pool, and how often each task has picked a slot for its last request. -/
structure Tally where
  pool : Pool
  picks : TaskId → Nat

namespace Tally

open Pool (Event)

/-- An event, with the picks of requests counted; a new request has made none. -/
def apply (c : Tally) : Event → Tally
  | .request r => ⟨(c.pool.spawn r).2, Function.update c.picks (c.pool.spawn r).1 0⟩
  | .call r =>
    if (c.pool.work? .main).isNone then ⟨c.pool.take .main r, Function.update c.picks .main 0⟩
    else c
  | .resume t =>
    match c.pool.work? t with
    | some (.request r stage) =>
      let out := r.pollTallied t c.pool stage
      ⟨out.1.1.setWork t (.request r out.1.2), Function.update c.picks t (c.picks t + out.2)⟩
    | _ => { c with pool := c.pool.resume t }
  | e => { c with pool := e.apply c.pool }

def run (c : Tally) (es : List Event) : Tally := es.foldl apply c

/-- A new pool, for which nobody has picked a slot yet. -/
def new (config : PoolConfig) (backend : Backend) : Tally := ⟨.new config backend, fun _ => 0⟩

variable {c : Tally} {t : TaskId}

lemma pool_apply (c : Tally) (e : Event) : (c.apply e).pool = e.apply c.pool := by
  cases e with
  | call r =>
    dsimp only [apply, Event.apply]
    split <;> rfl
  | resume t =>
    dsimp only [apply, Event.apply]
    split
    · next r stage hw =>
      rw [Pool.resume_eq hw]
      dsimp only [Work.poll]
      rw [Request.fst_pollTallied]
    · rfl
  | _ => rfl

lemma pool_run (c : Tally) (es : List Event) : (c.run es).pool = c.pool.run es := by
  induction es generalizing c with
  | nil => rfl
  | cons e es ih => exact (ih (c.apply e)).trans (congrArg (·.run es) (c.pool_apply e))

/-- No task has picked too often, and none that has a request may go on to do so. -/
structure Within (c : Tally) : Prop where
  ordered : c.pool.Ordered
  picks : ∀ t, c.picks t ≤ Request.maxPicks
  left : ∀ t r stage, c.pool.work? t = some (.request r stage) →
    c.picks t + stage.picksLeft ≤ Request.maxPicks

/-- Whether a request is taken on or a task is carried on. -/
def engages : Event → Bool
  | .request _ | .call _ | .resume _ => true
  | _ => false

/-- An event that neither takes on a request nor carries one on leaves the requests as they are. -/
lemma work?_of_apply {p : Pool} {e : Event} {r : Request} {stage : Request.Stage}
    (he : engages e = false) (h : (e.apply p).work? t = some (.request r stage)) :
    p.work? t = some (.request r stage) := by
  cases e with
  | request | call | resume => cases he
  | collect u =>
    dsimp only [Event.apply] at h
    split at h
    · rw [Pool.collect, Pool.work?_forget] at h
      split at h
      · cases h
      · exact h
    · exact h
  | preload upcoming assets =>
    dsimp only [Event.apply, Pool.preload, Pool.preloadFrom] at h
    split at h
    · exact h
    · rcases Pool.follows_warmUp assets.find? p.config.preloadCount.toNat upcoming 0 p t with
        hsame | ⟨⟨w, stage', hw⟩, -⟩
      · exact hsame ▸ h
      · rw [hw] at h
        cases h
  | release asset =>
    dsimp only [Event.apply, Pool.release] at h
    split at h <;> exact h
  | reset | dispose | pauseExcept | element | attend | backend | schedule => exact h

namespace Within

lemma ordered_apply (h : c.Within) (e : Event) : (c.apply e).pool.Ordered := by
  obtain ⟨ns, ⟨-, hordered⟩, -⟩ := e.course h.ordered
  rwa [pool_apply]

/-- A task that has no work takes on a request. -/
lemma take (h : c.Within) {q : Pool} {t : TaskId} {r : Request}
    (hq : q.work = c.pool.work ++ [(t, .request r .unstarted)]) (ordered : q.Ordered)
    (idle : c.pool.work? t = none) : Within ⟨q, Function.update c.picks t 0⟩ where
  ordered := ordered
  picks u := by
    dsimp only
    rw [Function.update_apply]
    split
    · exact Nat.zero_le _
    · exact h.picks u
  left u r' stage hu := by
    dsimp only at hu ⊢
    rw [Pool.work?_append hq] at hu
    rw [Function.update_apply]
    split at hu
    · next hut =>
      rw [hut, idle, Option.none_or] at hu
      cases hu
      rw [if_pos hut]
      exact Nat.le_of_eq (Nat.zero_add _)
    · next hut =>
      rw [Option.or_none] at hu
      rw [if_neg hut]
      exact h.left u r' stage hu

lemma others (h : c.Within) {c' : Tally} (ordered : c'.pool.Ordered) (hpicks : c'.picks = c.picks)
    (hwork : ∀ t r stage, c'.pool.work? t = some (.request r stage) →
      c.pool.work? t = some (.request r stage)) : c'.Within where
  ordered := ordered
  picks t := by
    rw [hpicks]
    exact h.picks t
  left t r stage hw := by
    rw [hpicks]
    exact h.left t r stage (hwork t r stage hw)

lemma resume (h : c.Within) {t : TaskId} {r : Request} {stage : Request.Stage}
    (hw : c.pool.work? t = some (.request r stage)) : (c.apply (.resume t)).Within := by
  have hle := Request.pollTallied_le t r c.pool stage
  have hbound := h.left t r stage hw
  have hpicks : (c.apply (.resume t)).picks =
      Function.update c.picks t (c.picks t + (r.pollTallied t c.pool stage).2) := by
    simp [apply, hw]
  have hpool : (c.apply (.resume t)).pool = c.pool.resume t := c.pool_apply _
  have hnow := h.ordered.work?_resume_self hw
  refine ⟨h.ordered_apply _, fun u => ?_, fun u r' stage' hu => ?_⟩
  · rw [hpicks, Function.update_apply]
    split
    · omega
    · exact h.picks u
  · rw [hpicks, Function.update_apply]
    rw [hpool] at hu
    split
    · next hut =>
      have hstage : stage' = (r.pollTallied t c.pool stage).1.2 := by
        rw [hut, hnow] at hu
        cases hu
        rw [Request.fst_pollTallied]
        rfl
      rw [hstage]
      omega
    · next hut =>
      rw [h.ordered.work?_resume_other hut] at hu
      exact h.left u r' stage' hu

lemma apply (h : c.Within) (e : Event) : (c.apply e).Within := by
  have hordered := h.ordered_apply e
  cases e with
  | request r => exact h.take rfl hordered (h.ordered.work?_eq_none (Nat.lt_succ_self _))
  | call r =>
    dsimp only [Tally.apply] at hordered ⊢
    split
    · next hidle =>
      rw [if_pos hidle] at hordered
      exact h.take rfl hordered (Option.isNone_iff_eq_none.mp hidle)
    · exact h
  | resume t =>
    rcases hw : c.pool.work? t with _ | ⟨r, stage⟩ | ⟨w, stage⟩
    · have hsame : c.apply (.resume t) = c := by
        simp [Tally.apply, hw, Pool.resume_eq_self hw]
      rwa [hsame]
    · exact h.resume hw
    · have hpool : (c.apply (.resume t)).pool = c.pool.resume t := c.pool_apply _
      have hpicks : (c.apply (.resume t)).picks = c.picks := by simp [Tally.apply, hw]
      refine h.others hordered hpicks fun u r stage' hu => ?_
      rw [hpool] at hu
      by_cases hut : u = t
      · rw [hut, h.ordered.work?_resume_self hw, Work.poll] at hu
        cases hu
      · rwa [h.ordered.work?_resume_other hut] at hu
  | collect | preload | release | reset | dispose | pauseExcept | element | attend | backend
  | schedule => exact h.others hordered rfl fun u r stage => work?_of_apply rfl

lemma new (config : PoolConfig) (backend : Backend) : (Tally.new config backend).Within where
  ordered := .new config backend
  picks _ := Nat.zero_le _
  left t r stage hw := by simp [Tally.new, Pool.new, Pool.work?] at hw

/-- **No request picks a slot more often than it may.** -/
lemma run (h : c.Within) (es : List Event) : (c.run es).Within := by
  induction es generalizing c with
  | nil => exact h
  | cons e es ih => exact ih (h.apply e)

end Within

end Tally

end Montage

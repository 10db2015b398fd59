import Montage.Preview.Scene
import Montage.Proofs.Preview.Staging

/-!
Scenes on the clock.

Whatever runs in a scene runs in the background of the evaluation that is waited for: turns are
given out, time passes, tasks of the pool go on, and cues move the playhead. Cues that do something
to the pool are another matter, so here there are none.
-/

namespace Montage

namespace Agenda

variable {a b : Agenda} {t : TaskId}

lemma started_next? (h : a.next? = some (t, b)) : b.started = a.started := by
  simp only [next?] at h
  split at h
  · cases h
    rfl
  · split at h
    · cases h
      rfl
    · split at h
      · cases h
        rfl
      · simp at h

lemma started_advance? (h : a.advance? = some b) : b.started = a.started := by
  have hwake : ∀ (ts : List Timer) (a : Agenda),
      (ts.foldl (fun a t => a.wake t.task) a).started = a.started := by
    intro ts
    induction ts with
    | nil => exact fun _ => rfl
    | cons t ts ih => exact fun a => (ih _).trans (started_wake a t.task)
  simp only [advance?] at h
  split at h
  · simp at h
  · cases h
    exact hwake _ _

end Agenda

namespace Machine

variable {σ : Type} {m : Machine σ} {s s' : σ} {P : σ → Prop} {stop : σ → Bool}

/-- What a machine does at a time: it gives a turn to a task, or lets time pass. -/
inductive Goes (m : Machine σ) (s : σ) : σ → Prop
  | turn (t : TaskId) {a : Agenda} (h : a.started = (m.agenda s).started) :
      Goes m s (m.resume t (m.setAgenda s a))
  | pass {a : Agenda} (h : a.started = (m.agenda s).started) : Goes m s (m.setAgenda s a)

lemma goes_runNext? (h : m.runNext? s = some s') : m.Goes s s' := by
  obtain ⟨⟨t, a⟩, ha, rfl⟩ := Option.map_eq_some_iff.mp h
  exact .turn t (Agenda.started_next? ha)

lemma goes_step? (h : m.step? s = some s') : m.Goes s s' := by
  unfold step? at h
  split at h
  · next hnext =>
    cases h
    exact goes_runNext? hnext
  · obtain ⟨a, ha, rfl⟩ := Option.map_eq_some_iff.mp h
    exact .pass (Agenda.started_advance? ha)

lemma runUntil_of (hP : ∀ {s s'}, P s → stop s = false → m.Goes s s' → P s') (hs : P s) :
    P (m.runUntil stop s) := by
  have hfor : ∀ n s, P s → P (m.runFor stop n s) := by
    intro n
    induction n with
    | zero => exact fun _ hs => hs
    | succ n ih =>
      intro s hs
      unfold runFor
      split
      · exact hs
      · next hstop =>
        split
        · exact hs
        · next hstep => exact ih _ (hP hs (by simpa using hstop) (goes_step? hstep))
  exact hfor _ s hs

lemma settle_of (hP : ∀ {s s'}, P s → m.Goes s s' → P s') (hs : P s) : P (m.settle s) := by
  have hfor : ∀ n s, P s → P (m.settleFor n s) := by
    intro n
    induction n with
    | zero => exact fun _ hs => hs
    | succ n ih =>
      intro s hs
      unfold settleFor
      split
      · exact hs
      · next hnext => exact ih _ (hP hs (goes_runNext? hnext))
  exact hfor _ s hs

lemma sleepUntil_of {due : Nat} (hP : ∀ {s s'}, P s → m.Goes s s' → P s') (hs : P s) :
    P (m.sleepUntil due s) := by
  have hfirst : P (m.setAgenda s ((m.agenda s).sleepUntil TaskId.main due)) :=
    hP hs (.pass (Agenda.started_sleepUntil _ _ _))
  have hrun : P (m.runUntil (fun s => due ≤ (m.agenda s).now) _) :=
    runUntil_of (fun h _ => hP h) hfirst
  exact hP hrun (.pass rfl)

end Machine

lemma Rig.setAgenda_eq {r : Rig} {a : Agenda} (h : r.pool.agenda.started ≤ a.started) :
    r.setAgenda a = r.modifyPool fun pool => Pool.Event.apply pool (.schedule a) := by
  have hmax : max r.pool.agenda.started a.started = a.started := Nat.max_eq_right h
  simp only [Rig.pool] at hmax
  simp only [setAgenda, modifyPool, Compositor.modifyPool, Pool.Event.apply, hmax]

/-- The cue moves the playhead and does nothing to the pool. -/
def Cue.OnlyMoves (c : Cue) : Prop := c.pool = none ∧ c.release = none

namespace CueTask

/-- Cues that only move the playhead. -/
def AllMove (ts : List CueTask) : Prop := ∀ t ∈ ts, t.cue.OnlyMoves

variable {r : Rig} {P : Rig → Prop}

lemma act_of (hmove : ∀ {r : Rig} frame, P r → P (r.movePlayhead frame)) {c : Cue}
    (hc : c.OnlyMoves) (hr : P r) : P (c.act r) := by
  obtain ⟨hpool, hrelease⟩ := hc
  simp only [Cue.act, hpool, hrelease]
  split
  · exact hmove _ hr
  · exact hr

lemma poll_of (hmove : ∀ {r : Rig} frame, P r → P (r.movePlayhead frame))
    (hagenda : ∀ {r : Rig} {a : Agenda}, a.started = r.pool.agenda.started → P r →
      P (r.setAgenda a))
    {c : Cue} (hc : c.OnlyMoves) (task : TaskId) (stage : Cue.Stage) (hr : P r) :
    P (c.poll task r stage).1 := by
  have hwaiting : ∀ {r : Rig} due, P r → P (c.pollWaiting r due).1 := by
    intro r due hr
    unfold Cue.pollWaiting
    split
    · exact act_of hmove hc hr
    · exact hr
  cases stage with
  | unstarted => exact hwaiting _ (hagenda (Agenda.started_sleepUntil _ _ _) hr)
  | waiting due => exact hwaiting due hr
  | done => exact hr

/-- What moves of the playhead and the agenda keep is kept by a cue. -/
lemma resume_of (hmove : ∀ {r : Rig} frame, P r → P (r.movePlayhead frame))
    (hagenda : ∀ {r : Rig} {a : Agenda}, a.started = r.pool.agenda.started → P r →
      P (r.setAgenda a))
    (task : TaskId) {ts : List CueTask} (hts : AllMove ts) (hr : P r) :
    P (resume r task ts).1 ∧ AllMove (resume r task ts).2 := by
  induction ts with
  | nil => exact ⟨hr, hts⟩
  | cons t ts ih =>
    have ht : t.cue.OnlyMoves := hts t List.mem_cons_self
    have hrest : AllMove ts := fun u hu => hts u (List.mem_cons_of_mem _ hu)
    unfold resume
    split
    · refine ⟨poll_of hmove hagenda ht task t.stage hr, fun u hu => ?_⟩
      rcases List.mem_cons.mp hu with rfl | hu
      · exact ht
      · exact hrest u hu
    · obtain ⟨hP, hmoves⟩ := ih hrest
      refine ⟨hP, fun u hu => ?_⟩
      rcases List.mem_cons.mp hu with rfl | hu
      · exact ht
      · exact hmoves u hu

end CueTask

/-- The pool is in order, and nobody makes a request. -/
structure Pool.Calm (p : Pool) : Prop where
  ordered : p.Ordered
  idle : p.work? .main = none
  quiet : p.Quiet

namespace Rig

variable {c : Compositor} {r : Rig}

/-- The pool has gone on in the background, and nothing else has happened to the compositor. -/
structure Rests (c : Compositor) (r : Rig) : Prop where
  kept : r.Kept c
  idle : r.pool.work? .main = none
  shows : ∀ i a, c.pool.Shows i a → r.pool.Shows i a

lemma Rests.refl (hc : r.pool.Calm) : r.Rests r.compositor :=
  ⟨⟨rfl, hc.ordered, fun _ _ _ _ h => h⟩, hc.idle, fun _ _ h => h⟩

lemma Rests.background {e : Pool.Event} (h : r.Rests c) (he : e.Background r.pool) :
    (r.modifyPool fun pool => e.apply pool).Rests c where
  kept := h.kept.background he
  idle := (he.work?_main h.kept.ordered (by simp [h.idle])).trans h.idle
  shows i a hs := he.shows h.kept.ordered (h.shows i a hs)

lemma Rests.host (h : r.Rests c) (host : Host) : Rests c { r with host } :=
  ⟨h.kept.host host, h.idle, h.shows⟩

lemma Kept.background_resume (h : r.Kept c) (hc : c.pool.Quiet) {t : TaskId} (ht : t ≠ .main) :
    (Pool.Event.resume t).Background r.pool := fun q stage hw =>
  ht (hc t q stage (h.requests t ht q stage hw))

lemma Kept.quiet (h : r.Kept c) (hc : c.pool.Quiet) : r.pool.Quiet := by
  intro t q stage hw
  by_contra ht
  exact ht (hc t q stage (h.requests t ht q stage hw))

end Rig

lemma CueTask.startAll_rests {c : Compositor} {r : Rig} (h : r.Rests c) {cues : List Cue}
    (hcues : ∀ q ∈ cues, q.OnlyMoves) :
    (startAll r cues).1.Rests c ∧ AllMove (startAll r cues).2 := by
  induction cues generalizing r with
  | nil => exact ⟨h, by simp [startAll, AllMove]⟩
  | cons q cues ih =>
    have hstart : (start r q).1.Rests c := by
      dsimp only [start]
      rw [Rig.setAgenda_eq (Nat.le_succ _)]
      exact h.background trivial
    obtain ⟨hrests, hmoves⟩ := ih hstart fun p hp => hcues p (List.mem_cons_of_mem _ hp)
    refine ⟨hrests, fun t ht => ?_⟩
    rcases List.mem_cons.mp ht with rfl | ht
    · exact hcues q List.mem_cons_self
    · exact hmoves t ht

namespace Scene

variable {c : Compositor} {all : List ClipId} {s s' : Scene}

/-- An evaluation is waited for, or over. -/
structure Evaluates (c : Compositor) (all : List ClipId) (s : Scene) : Prop where
  step : ∃ step, s.step = some step ∧ step.Fine c all s.rig
  cues : CueTask.AllMove s.cues

/-- No evaluation is waited for. -/
structure Rests (c : Compositor) (s : Scene) : Prop where
  step : s.step = none
  rig : s.rig.Rests c
  cues : CueTask.AllMove s.cues

/-- What a scene does at a time, after a change of its agenda: nothing more, or the evaluation goes
on, or it is the turn of another task. -/
lemma goes_cases (hs : machine.Goes s s') :
    ∃ a : Agenda, a.started = s.rig.agenda.started ∧
      (s' = { s with rig := s.rig.setAgenda a } ∨
        (∃ step, s.step = some step ∧ s' = { s with
          rig := (Pass.resume (s.rig.setAgenda a) step).1
          step := some (Pass.resume (s.rig.setAgenda a) step).2 }) ∨
        ∃ t ≠ TaskId.main, s' = resume t { s with rig := s.rig.setAgenda a }) := by
  cases hs with
  | @pass a ha => exact ⟨a, ha, .inl rfl⟩
  | @turn t a ha =>
    refine ⟨a, ha, ?_⟩
    by_cases ht : t = .main
    · cases hstep : s.step with
      | none => exact .inl (by simp [machine, resume, ht, hstep])
      | some step => exact .inr (.inl ⟨step, rfl, by simp [machine, resume, ht, hstep]⟩)
    · exact .inr (.inr ⟨t, ht, rfl⟩)

/-- A turn of a task other than the main one goes with the background of whatever is kept by the
background. -/
lemma turn_of {P : Rig → Prop} (hmove : ∀ {r : Rig} frame, P r → P (r.movePlayhead frame))
    (hevent : ∀ {r : Rig} {e : Pool.Event}, P r → e.Background r.pool →
      P (r.modifyPool fun pool => e.apply pool))
    {t : TaskId} (hresume : ∀ {r}, P r → (Pool.Event.resume t).Background r.pool) (ht : t ≠ .main)
    (hcues : CueTask.AllMove s.cues) (hs : P s.rig) :
    P (resume t s).rig ∧ CueTask.AllMove (resume t s).cues ∧ (resume t s).step = s.step := by
  have hpool := hevent (e := .resume t) hs (hresume hs)
  have hagenda : ∀ {r : Rig} {a : Agenda}, a.started = r.pool.agenda.started → P r →
      P (r.setAgenda a) := by
    intro r a ha hr
    rw [Rig.setAgenda_eq (Nat.le_of_eq ha.symm)]
    exact hevent hr trivial
  obtain ⟨hP, hmoves⟩ := CueTask.resume_of hmove hagenda t hcues hpool
  unfold resume
  rw [if_neg ht]
  exact ⟨hP, hmoves, rfl⟩

lemma Evaluates.goes (hc : c.pool.Quiet) (h : s.Evaluates c all) (hstop : s.result?.isSome = false)
    (hs : machine.Goes s s') : s'.Evaluates c all := by
  obtain ⟨⟨step, hstep, hfine⟩, hcues⟩ := h
  cases step with
  | ended result => simp [result?, hstep] at hstop
  | waits p item asset rest =>
    obtain ⟨a, ha, hcases⟩ := goes_cases hs
    have hagenda : (Pass.Step.waits p item asset rest).Fine c all (s.rig.setAgenda a) := by
      rw [Rig.setAgenda_eq (Nat.le_of_eq ha.symm)]
      exact hfine.background trivial
    rcases hcases with rfl | ⟨step, hsome, rfl⟩ | ⟨t, ht, rfl⟩
    · exact ⟨⟨_, hstep, hagenda⟩, hcues⟩
    · obtain rfl : step = .waits p item asset rest := Option.some.inj (hsome.symm.trans hstep)
      exact ⟨⟨_, rfl, hagenda.resume⟩, hcues⟩
    · obtain ⟨hP, hmoves, hsame⟩ := turn_of (s := { s with rig := s.rig.setAgenda a })
        (P := fun r => (Pass.Step.waits p item asset rest).Fine c all r)
        (fun _ h => h.host _) (fun h he => h.background he)
        (fun h => h.kept.background_resume hc ht) ht hcues hagenda
      exact ⟨⟨_, hsame.trans hstep, hP⟩, hmoves⟩

lemma Rests.goes (hc : c.pool.Quiet) (h : s.Rests c) (hs : machine.Goes s s') : s'.Rests c := by
  obtain ⟨a, ha, hcases⟩ := goes_cases hs
  have hagenda : (s.rig.setAgenda a).Rests c := by
    rw [Rig.setAgenda_eq (Nat.le_of_eq ha.symm)]
    exact h.rig.background trivial
  rcases hcases with rfl | ⟨step, hsome, -⟩ | ⟨t, ht, rfl⟩
  · exact ⟨h.step, hagenda, h.cues⟩
  · rw [h.step] at hsome
    cases hsome
  · obtain ⟨hP, hmoves, hsame⟩ := turn_of (s := { s with rig := s.rig.setAgenda a })
      (P := fun r => r.Rests c) (fun _ h => h.host _) (fun h he => h.background he)
      (fun h => h.kept.background_resume hc ht) ht h.cues hagenda
    exact ⟨hsame.trans h.step, hP, hmoves⟩

/-- **An evaluation on the clock** stands where a pass may stand that others go on beside. -/
lemma evaluates_evaluate {snapshot : Snapshot} {assets : AssetTable} {playback : PlaybackState}
    (hc : s.rig.pool.Calm) (hcues : CueTask.AllMove s.cues) :
    (s.evaluate snapshot assets playback).Evaluates s.rig.compositor
      (snapshot.activeAt s.rig.host.playhead).ids := by
  have hfine : (s.rig.evaluate snapshot assets playback).2.Fine _ _ _ :=
    Pass.fine_evaluate hc.ordered hc.idle
  exact machine.runUntil_of (fun h hstop hs => h.goes hc.quiet hstop hs) ⟨⟨_, rfl, hfine⟩, hcues⟩

end Scene

end Montage

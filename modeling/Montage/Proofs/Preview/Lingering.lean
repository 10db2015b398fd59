import Montage.Proofs.Preview.Running
import Montage.Proofs.Preview.Sources

/-!
Elements of a preview that run on.

In a preview nothing runs but what is prepared: loads in advance set nothing going, and a pass only
what it hands out. So what runs after a refresh is what the pass has set going, and what it has
passed over.
-/

namespace Montage

variable {r : Rig}

lemma Rig.parked_setAgenda (h : r.pool.Parked) (a : Agenda) : (r.setAgenda a).pool.Parked :=
  h.eases (.of_slots rfl rfl rfl)

lemma CueTask.parked_startAll (h : r.pool.Parked) (cues : List Cue) :
    (startAll r cues).1.pool.Parked := by
  induction cues generalizing r with
  | nil => exact h
  | cons q cues ih => exact ih (Rig.parked_setAgenda h _)

namespace Scene

variable {s s' : Scene}

/-- No evaluation is waited for, and nothing runs that is not prepared. -/
structure Parks (s : Scene) : Prop where
  step : s.step = none
  cues : CueTask.AllMove s.cues
  parked : s.rig.pool.Parked

lemma Parks.goes (h : s.Parks) (hs : machine.Goes s s') : s'.Parks := by
  obtain ⟨a, -, hcases⟩ := goes_cases hs
  have hagenda := Rig.parked_setAgenda h.parked a
  rcases hcases with rfl | ⟨step, hsome, -⟩ | ⟨t, ht, rfl⟩
  · exact ⟨h.step, h.cues, hagenda⟩
  · cases h.step.symm.trans hsome
  · obtain ⟨hparked, hcues⟩ := CueTask.resume_of (P := fun r => r.pool.Parked) (fun _ h => h)
      (fun _ h => Rig.parked_setAgenda h _) t h.cues
      (r := (s.rig.setAgenda a).modifyPool fun pool => pool.resume t)
      (hagenda.eases (Pool.eases_resume _ t))
    unfold resume
    rw [if_neg ht]
    exact ⟨h.step, hcues, hparked⟩

end Scene

namespace Session

variable {s : Session} {log : List Refreshed}

lemma Reached.alone (h : Reached s log) : s.preview.pool.Alone where
  ordered := h.sound.settled.calm.ordered
  vacant := h.vacant
  main w stage hw := by
    have hidle : s.preview.pool.work? .main = none := h.sound.settled.calm.idle
    simp [hidle] at hw
  others t ht r stage hw := absurd (h.sound.settled.calm.quiet t r stage hw) ht

lemma Reached.proceeds {result : Except PreviewError Evaluation} (h : Reached s log)
    (hresult : s.evaluated.result? = some result) :
    Pass.Proceeds (s.preview.rig.evaluate s.preview.snapshot s.preview.assets
        s.preview.inputs.playback).1 (s.preview.rig.evaluate s.preview.snapshot s.preview.assets
        s.preview.inputs.playback).2 s.evaluated.rig (.ended result) := by
  have hcalm : s.scene.rig.pool.Calm := h.sound.settled.calm
  obtain ⟨step, hstep, hproceeds⟩ := Scene.proceeds_evaluate (s := s.scene) s.preview.snapshot
    s.preview.assets s.preview.inputs.playback hcalm h.sound.cues
  obtain rfl : step = .ended result := by
    unfold evaluated at hresult
    rw [Scene.result?, hstep] at hresult
    cases step with
    | waits => simp at hresult
    | ended => simpa using hresult
  exact hproceeds

/-- **What runs in a preview is prepared.** -/
lemma Reached.parked (h : Reached s log) : s.preview.pool.Parked := by
  induction h with
  | new config backend => exact Pool.parked_new _ _
  | transport _ _ ih => exact ih
  | timeline _ _ ok ih =>
    unfold Preview.setTimeline at ok
    split at ok
    · cases ok
      exact ih
    · cases ok
  | assets _ _ ih => exact ih
  | viewport _ _ ih => exact ih
  | @give s log _ moves ih => exact CueTask.parked_startAll (r := s.preview.rig) ih _
  | @finishCues s log h ih =>
    have hparks : s.scene.Parks := ⟨rfl, h.sound.cues, ih⟩
    have hrun : Scene.Parks (Scene.machine.runUntil (fun s => s.cues.all CueTask.isDone) s.scene) :=
      Machine.runUntil_of (fun h _ hs => h.goes hs) hparks
    exact hrun.parked
  | @settle s log h ih =>
    have hparks : s.scene.Parks := ⟨rfl, h.sound.cues, ih⟩
    exact (Machine.settle_of (fun h hs => h.goes hs) hparks).parked
  | @sleepUntil s log h due ih =>
    have hparks : s.scene.Parks := ⟨rfl, h.sound.cues, ih⟩
    exact (Machine.sleepUntil_of (fun h hs => h.goes hs) hparks).parked
  | @callback s log _ id ih =>
    show (s.preview.compositor.callback id).2.pool.Parked
    rw [Compositor.pool_callback]
    exact ih
  | @refresh s log h returns ih =>
    rcases returns.refresh_cases with ⟨-, hrefresh⟩ | ⟨-, result, hresult, hrefresh⟩
    · rw [hrefresh]
      exact ih
    · have hwalked := (h.proceeds hresult).walked (Pass.walked_evaluate s.preview.rig _ _ _)
      have hparked := hwalked.parked h.alone h.sound.settled.calm.idle ih
      rw [hrefresh]
      rcases result with e | (report | _) <;> exact hparked
  | @dispose s log _ ih =>
    show (s.preview.modifyTransport Transport.dispose).rig.dispose.pool.Parked
    rw [Compositor.pool_dispose]
    split
    · exact ih
    · exact ih.eases ((Pool.eases_reset _).trans (.of_slots rfl rfl rfl))

lemma Reached.walks {report : Report} (h : Reached s log) (returns : s.Returns)
    (applied : s.refresh.2 = .ok (some (.applied report))) :
    ∃ answers r p, Pass.Walks s.preview.rig
      (Pass.start s.preview.rig s.preview.snapshot s.preview.assets s.preview.inputs.playback).1
      (Pass.start s.preview.rig s.preview.snapshot s.preview.assets s.preview.inputs.playback).2
      answers r p s.refresh.1.preview.rig report := by
  rcases returns.refresh_cases with ⟨-, hrefresh⟩ | ⟨-, result, hresult, hrefresh⟩
  · rw [hrefresh] at applied
    simp at applied
  · obtain rfl : result = .ok (.applied report) := by
      rw [hrefresh] at applied
      rcases result with e | evaluation
      · cases applied
      · cases applied
        rfl
    rw [hrefresh]
    exact (h.proceeds hresult).walks

end Session

/-- **What runs after a refresh.** When a refresh of a preview is applied, whatever the preview has
gone through before, an element runs if and only if the transport plays and the slot of the element
was given to a clip of the frame, or the slot was given to no clip and the element lingers: it ran
before the refresh, its slot is bound as it was, and the asset of the slot is that of a clip of the
frame, but has come to need no element or to have no url. -/
theorem running_after_refresh {s : Session} {log : List Session.Refreshed}
    (reached : Session.Reached s log) (returns : s.Returns) {report : Report}
    (applied : s.refresh.2 = .ok (some (.applied report))) :
    let p := s.preview
    let q := s.refresh.1.preview
    let start := Pass.start p.rig p.snapshot p.assets p.inputs.playback
    ∃ answers, Pass.Trail p.rig (.clips start.1 start.2) answers q.rig
        (.step (.ended (.ok (.applied report)))) ∧
      ∀ i, (q.pool.element i).isPaused = false ↔
        p.inputs.playback.isPlaying = true ∧ Pass.IsGiven answers i ∨
          ¬Pass.IsGiven answers i ∧ Pass.Lingers p.assets start.2 p.pool q.pool i := by
  intro p q start
  obtain ⟨answers, r, pass, hwalks⟩ := reached.walks returns applied
  have hstart := Pass.tends_start (r := p.rig) p.snapshot p.assets p.inputs.playback
    fun _ => reached.exists_run
  exact ⟨answers, hwalks.trail, hwalks.running reached.alone reached.sound.settled.calm.idle
    reached.parked hstart⟩

/-- The shots, the first of them without a url. -/
def AssetTable.lostShots : AssetTable :=
  ⟨[.video ⟨"first"⟩ "" 20.0, .video ⟨"second"⟩ "second.mp4" 20.0]⟩

namespace Session

/-- The first shot is to play. -/
def shotsStarted : Session := shots.modify fun p => p.modifyTransport Transport.play

/-- The first shot plays, its url is lost, and the transport is paused. -/
def shotsLost : Session :=
  (shotsStarted.refresh.1.modify fun p => p.setAssets .lostShots).modify fun p =>
    p.modifyTransport Transport.pause

lemma reached_shotsLost : Reached shotsLost [shotsStarted.refresh.2] := by
  have hdistinct : Snapshot.shots.DistinctClips := Snapshot.distinctClips_ofClips _ _ _
  have hstarted : Reached shotsStarted [] := .transport (.new _ _ _ hdistinct) _
  have hreturns : shotsStarted.Returns := .inr (by decide +kernel)
  exact ((hstarted.refresh hreturns).assets _).transport _

end Session

/-- The element of the first shot lingers. -/
theorem running_after_refresh_shots :
    let p := Session.shotsLost.preview
    let items := (Pass.start p.rig p.snapshot p.assets p.inputs.playback).2
    Pass.Lingers p.assets items p.pool Session.shotsLost.refresh.1.preview.pool 0 := by
  obtain ⟨report, happlied⟩ :=
    Session.applied_of_isApplied (s := Session.shotsLost) (by decide +kernel)
  obtain ⟨answers, -, hrunning⟩ :=
    running_after_refresh Session.reached_shotsLost (.inr (by decide +kernel)) happlied
  have hpaused : Session.shotsLost.preview.inputs.playback.isPlaying = false := by decide +kernel
  rcases (hrunning 0).mp (by decide +kernel) with ⟨hplaying, -⟩ | ⟨-, hlingers⟩
  · exact absurd (hpaused.symm.trans hplaying) Bool.false_ne_true
  · exact hlingers

/-- **An element runs on** after a refresh that was applied while the transport was paused: its
asset has lost its url. -/
theorem running_while_paused :
    Session.Reached Session.shotsLost [Session.shotsStarted.refresh.2] ∧
    (∃ report, Session.shotsLost.refresh.2 = .ok (some (.applied report))) ∧
    Session.shotsLost.preview.inputs.playback.isPlaying = false ∧
    (Session.shotsLost.refresh.1.preview.pool.element 0).isPaused = false :=
  ⟨Session.reached_shotsLost, Session.applied_of_isApplied (by decide +kernel), by decide +kernel,
    by decide +kernel⟩

end Montage

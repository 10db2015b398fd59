import Montage.Proofs.Preview.Scenes
import Montage.Proofs.Preview.Turns

/-!
What goes on in a scene while an evaluation waits.

Whatever runs beside an evaluation leaves the compositor as it is, its pool apart, and asks nothing
of the display. That is so for loads in advance and for cues of all kinds, those that empty the pool
among them. So an evaluation on the clock lasts while the pool and the playhead drift, and without
an evaluation a scene does nothing but drift.
-/

namespace Montage

lemma Rig.drifts_setAgenda (r : Rig) (a : Agenda) : r.Drifts (r.setAgenda a) := ⟨rfl, rfl⟩

lemma Cue.drifts_act (c : Cue) (r : Rig) : r.Drifts (c.act r) := by
  obtain ⟨delay, playhead, pool, release⟩ := c
  -- A cue first moves the playhead, then sees to the whole pool, then to a single asset.
  have hmove : r.Drifts (act ⟨delay, playhead, none, none⟩ r) := by
    cases playhead with
    | none => exact .refl r
    | some frame => exact (Rig.Drifts.refl r).movePlayhead frame
  have hpool : r.Drifts (act ⟨delay, playhead, pool, none⟩ r) := by
    cases pool with
    | none => exact hmove
    | some cue =>
      cases cue with
      | reset => exact hmove.modifyPool Pool.reset
      | dispose => exact hmove.modifyPool Pool.dispose
  cases release with
  | none => exact hpool
  | some asset => exact hpool.modifyPool _

lemma Cue.drifts_poll (task : TaskId) (c : Cue) (r : Rig) (stage : Cue.Stage) :
    r.Drifts (c.poll task r stage).1 := by
  have hwaiting : ∀ (r : Rig) due, r.Drifts (c.pollWaiting r due).1 := by
    intro r due
    unfold pollWaiting
    split
    · exact c.drifts_act r
    · exact .refl r
  cases stage with
  | unstarted => exact (r.drifts_setAgenda _).trans (hwaiting _ _)
  | waiting due => exact hwaiting r due
  | done => exact .refl r

namespace CueTask

lemma drifts_resume (r : Rig) (task : TaskId) (ts : List CueTask) :
    r.Drifts (resume r task ts).1 := by
  induction ts with
  | nil => exact .refl r
  | cons t ts ih =>
    unfold resume
    split
    · exact t.cue.drifts_poll task r t.stage
    · exact ih

lemma drifts_startAll (r : Rig) (cues : List Cue) : r.Drifts (startAll r cues).1 := by
  induction cues generalizing r with
  | nil => exact .refl r
  | cons c cues ih => exact (r.drifts_setAgenda _).trans (ih _)

end CueTask

namespace Scene

variable {s s' : Scene} {r : Rig}

lemma drifts_turn {t : TaskId} (ht : t ≠ .main) (s : Scene) :
    s.rig.Drifts (resume t s).rig ∧ (resume t s).step = s.step := by
  unfold resume
  rw [if_neg ht]
  exact ⟨((Rig.Drifts.refl s.rig).modifyPool _).trans (CueTask.drifts_resume _ _ _), rfl⟩

/-- Without an evaluation. -/
structure Idles (r : Rig) (s : Scene) : Prop where
  step : s.step = none
  rig : r.Drifts s.rig

lemma Idles.goes (h : Idles r s) (hs : machine.Goes s s') : Idles r s' := by
  obtain ⟨a, -, hcases⟩ := goes_cases hs
  have hagenda : r.Drifts (s.rig.setAgenda a) := h.rig.trans (s.rig.drifts_setAgenda a)
  rcases hcases with rfl | ⟨step, hsome, -⟩ | ⟨t, ht, rfl⟩
  · exact ⟨h.step, hagenda⟩
  · rw [h.step] at hsome
    cases hsome
  · obtain ⟨hrig, hstep⟩ := drifts_turn ht { s with rig := s.rig.setAgenda a }
    exact ⟨hstep.trans h.step, hagenda.trans hrig⟩

lemma Idles.runUntil (h : Idles r s) (stop : Scene → Bool) : Idles r (machine.runUntil stop s) :=
  machine.runUntil_of (fun h _ hs => h.goes hs) h

lemma Idles.settle (h : Idles r s) : Idles r s.settle :=
  machine.settle_of (fun h hs => h.goes hs) h

lemma Idles.sleepUntil (h : Idles r s) (due : Nat) : Idles r (s.sleepUntil due) :=
  machine.sleepUntil_of (fun h hs => h.goes hs) h

/-- The evaluation that began with a step stands where it may stand by now. -/
def Lasts (r : Rig) (begun : Pass.Step) (s : Scene) : Prop :=
  ∃ step, s.step = some step ∧ Pass.Lasts r begun s.rig step

lemma Lasts.goes {begun : Pass.Step} (h : Lasts r begun s) (hstop : s.result?.isSome = false)
    (hs : machine.Goes s s') : Lasts r begun s' := by
  obtain ⟨step, hstep, hlasts⟩ := h
  cases step with
  | ended result => simp [result?, hstep] at hstop
  | waits p item asset rest =>
    obtain ⟨a, -, hcases⟩ := goes_cases hs
    have hagenda : Pass.Lasts r begun (s.rig.setAgenda a) (.waits p item asset rest) :=
      hlasts.drift (s.rig.drifts_setAgenda a)
    rcases hcases with rfl | ⟨step, hsome, rfl⟩ | ⟨t, ht, rfl⟩
    · exact ⟨_, hstep, hagenda⟩
    · obtain rfl : step = .waits p item asset rest := Option.some.inj (hsome.symm.trans hstep)
      exact ⟨_, rfl, hagenda.resume⟩
    · obtain ⟨hrig, hsame⟩ := drifts_turn ht { s with rig := s.rig.setAgenda a }
      exact ⟨_, hsame.trans hstep, hagenda.drift hrig⟩

/-- **An evaluation on the clock lasts,** and when it is over that is its result. -/
lemma lasts_evaluate {snapshot : Snapshot} {assets : AssetTable} {playback : PlaybackState}
    {result : Except PreviewError Evaluation}
    (h : (s.evaluate snapshot assets playback).result? = some result) :
    Pass.Lasts (s.rig.evaluate snapshot assets playback).1
      (s.rig.evaluate snapshot assets playback).2 (s.evaluate snapshot assets playback).rig
        (.ended result) := by
  obtain ⟨step, hstep, hlasts⟩ : Lasts (s.rig.evaluate snapshot assets playback).1
      (s.rig.evaluate snapshot assets playback).2 (s.evaluate snapshot assets playback) :=
    machine.runUntil_of (fun h hstop hs => h.goes hstop hs) ⟨_, rfl, .refl⟩
  have hended : step = .ended result := by
    simp only [result?, hstep] at h
    split at h
    · next heq =>
      cases heq
      cases h
      rfl
    · simp at h
  rw [← hended]
  exact hlasts

end Scene

end Montage

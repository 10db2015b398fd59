import Montage.Proofs.Preview.Uses

/-!
The playhead of a preview that is left alone.

Of all that goes on in a scene only cues move the playhead. An evaluation reads it, whether the
media are there or have to be waited for, and what the pool does in the meantime has nothing to do
with it. So without cues the playhead is after a refresh, or after a sleep, where it was before.
-/

namespace Montage

namespace Pass

lemma host_receive (r : Rig) (p : Pass) (item : PassItem) (asset : MediaAsset)
    (result : Except MediaError Handle) : (p.receive r item asset result).1.host = r.host := by
  by_cases hstill : r.host.playhead = p.frame
  · rcases result with e | h
    · by_cases he : e = .disposed
      · rw [he, receive_disposed hstill]
      · rw [receive_error hstill he]
    · rw [receive_ok hstill]
      rfl
  · rw [receive_moved hstill]

/-- After a wait, given that the clips that are left do not move the playhead. -/
lemma playhead_resume_waits {rest : List PassItem}
    (hrun : ∀ r p, (Pass.run r p rest).1.host.playhead = r.host.playhead) (r : Rig) (p : Pass)
    (item : PassItem) (asset : MediaAsset) :
    (Pass.resume r (.waits p item asset rest)).1.host.playhead = r.host.playhead := by
  dsimp only [Pass.resume]
  split
  · rfl
  · next result hresult =>
    have hreceive := host_receive ((r.modifyPool fun pool => pool.resume TaskId.main).modifyPool
      fun pool => pool.forget TaskId.main) p item asset result
    split
    · next heq =>
      rw [heq] at hreceive
      rw [hrun]
      exact congrArg Host.playhead hreceive
    · next heq =>
      rw [heq] at hreceive
      exact congrArg Host.playhead hreceive

lemma playhead_run (r : Rig) (p : Pass) (items : List PassItem) :
    (p.run r items).1.host.playhead = r.host.playhead := by
  induction items generalizing r p with
  | nil => exact Rig.playhead_stage _ _ _
  | cons item rest ih =>
    unfold Pass.run
    split
    · exact ih _ _
    · dsimp only
      split
      · split
        · rfl
        · next target _ =>
          exact playhead_resume_waits ih (r.modifyPool fun pool => pool.take TaskId.main
            ⟨_, target, p.playback.isPlaying, p.pinned⟩) _ item _
      · exact ih _ _

lemma playhead_resume (r : Rig) (s : Step) :
    (Pass.resume r s).1.host.playhead = r.host.playhead := by
  cases s with
  | ended result => rfl
  | waits p item asset rest =>
    exact playhead_resume_waits (fun r p => playhead_run r p rest) r p item asset

end Pass

lemma Rig.playhead_evaluate (r : Rig) (snapshot : Snapshot) (assets : AssetTable)
    (playback : PlaybackState) :
    (r.evaluate snapshot assets playback).1.host.playhead = r.host.playhead := by
  unfold evaluate
  split
  · rfl
  · split
    · rfl
    · exact Pass.playhead_run _ _ _

namespace Scene

variable {s s' : Scene} {frame : Frame}

/-- There are no cues, and the playhead is on the frame. -/
structure StaysAt (frame : Frame) (s : Scene) : Prop where
  cues : s.cues = []
  playhead : s.rig.host.playhead = frame

lemma StaysAt.goes (h : s.StaysAt frame) (hs : machine.Goes s s') : s'.StaysAt frame := by
  obtain ⟨a, -, hcases⟩ := goes_cases hs
  rcases hcases with rfl | ⟨step, -, rfl⟩ | ⟨t, ht, rfl⟩
  · exact ⟨h.cues, h.playhead⟩
  · exact ⟨h.cues, (Pass.playhead_resume _ step).trans h.playhead⟩
  · simp only [resume, if_neg ht, h.cues]
    exact ⟨rfl, h.playhead⟩

lemma StaysAt.sleepUntil (h : s.StaysAt frame) (due : Nat) : (s.sleepUntil due).StaysAt frame :=
  machine.sleepUntil_of (fun h hs => h.goes hs) h

lemma StaysAt.evaluate (h : s.StaysAt frame) (snapshot : Snapshot) (assets : AssetTable)
    (playback : PlaybackState) : (s.evaluate snapshot assets playback).StaysAt frame :=
  machine.runUntil_of (fun h _ hs => h.goes hs)
    ⟨h.cues, (s.rig.playhead_evaluate snapshot assets playback).trans h.playhead⟩

end Scene

namespace Session

variable {s s' : Session}

/-- There are no cues, and the transport is as before, on a display that has gone on. -/
structure Attends (s s' : Session) : Prop where
  cues : s'.cues = []
  transport : s'.preview.transport = { s.preview.transport with host := s'.preview.transport.host }
  playhead : s'.preview.playhead = s.preview.playhead

lemma Attends.ofScene {scene : Scene} (h : scene.StaysAt s.preview.playhead) :
    s.Attends (s.ofScene scene) :=
  ⟨h.cues, rfl, h.playhead⟩

lemma attends_sleepUntil (h : s.cues = []) (due : Nat) : s.Attends (s.sleepUntil due) := by
  have hstays : s.scene.StaysAt s.preview.playhead := ⟨h, rfl⟩
  exact .ofScene (hstays.sleepUntil due)

lemma attends_refresh (h : s.cues = []) : s.Attends s.refresh.1 := by
  have hstays : s.scene.StaysAt s.preview.playhead := ⟨h, rfl⟩
  have hevaluated : s.Attends (s.ofScene s.evaluated) := .ofScene (hstays.evaluate _ _ _)
  cases hcurrent : s.preview.isCurrent with
  | true =>
    rw [refresh_of_current hcurrent]
    exact ⟨h, rfl, rfl⟩
  | false =>
    cases hresult : s.evaluated.result? with
    | none =>
      rw [refresh_of_endless hcurrent hresult]
      exact hevaluated
    | some result =>
      rw [refresh_of_not_current hcurrent hresult]
      rcases result with e | (report | ⟨frame, current⟩) <;>
        exact ⟨hevaluated.cues, rfl, hevaluated.playhead⟩

end Session

end Montage

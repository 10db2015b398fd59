import Montage.Proofs.Playback.Pending
import Montage.Proofs.Pool.Runs
import Montage.Proofs.Preview.Rest

/-!
What a preview is used for.

The transport is told what to do; timelines, assets and sizes of the output come and go; the
playhead and the pool are used by others, at once or with a cue; the host takes requests for
callbacks and calls back; the preview is refreshed and disposed of. All that a refresh does to the
compositor and the display is to let the pool and the playhead go their way and to stage layers at
the end, whether it comes to an end or not.
-/

namespace Montage

/-- The pool and the playhead have drifted, and then layers may have been staged. -/
inductive Rig.Works (r : Rig) : Rig → Prop
  | drifts {r' : Rig} (h : r.Drifts r') : Works r r'
  | stages {r₁ : Rig} (h : r.Drifts r₁) (frame : Frame) (layers : List Layer) :
      Works r (r₁.stage frame layers)

namespace Pass

variable {r r' : Rig} {snapshot : Snapshot} {assets : AssetTable} {playback : PlaybackState}
  {s : Step}

lemma Lasts.works (h : Lasts (r.evaluate snapshot assets playback).1
    (r.evaluate snapshot assets playback).2 r' s) : r.Works r' := by
  rcases leads_evaluate r snapshot assets playback with ⟨e, he⟩ | hleads
  · rw [he] at h
    obtain ⟨rfl, -⟩ := h.of_ended
    exact .drifts (.refl _)
  · obtain ⟨as, htrail⟩ := h.leads hleads
    have hstands := htrail.stands_start
    rcases s with _ | (_ | (report | _))
    · exact .drifts hstands.1
    · exact .drifts hstands
    · obtain ⟨r₁, layers, rfl, hstages⟩ := hstands
      exact .stages hstages.drifts _ _
    · exact .drifts hstands

end Pass

namespace Session

/-- **A refresh** works on the rig, whether it comes to an end or not. Of the transport it sees the
host only. -/
lemma works_refresh (s : Session) : s.preview.rig.Works s.refresh.1.preview.rig ∧
    s.refresh.1.preview.transport =
      { s.preview.transport with host := s.refresh.1.preview.transport.host } := by
  have hevaluated : s.preview.rig.Works s.evaluated.rig := by
    obtain ⟨step, -, hlasts⟩ : Scene.Lasts (s.scene.rig.evaluate s.preview.snapshot
        s.preview.assets s.preview.inputs.playback).1 (s.scene.rig.evaluate s.preview.snapshot
        s.preview.assets s.preview.inputs.playback).2 s.evaluated :=
      Scene.machine.runUntil_of (fun h hstop hs => h.goes hstop hs) ⟨_, rfl, .refl⟩
    exact hlasts.works
  cases hcurrent : s.preview.isCurrent with
  | true =>
    rw [refresh_of_current hcurrent]
    exact ⟨.drifts (.refl _), rfl⟩
  | false =>
    cases hresult : s.evaluated.result? with
    | some result =>
      rw [refresh_of_not_current hcurrent hresult]
      rcases result with e | (report | ⟨frame, current⟩) <;> exact ⟨hevaluated, rfl⟩
    | none =>
      rw [refresh_of_endless hcurrent hresult]
      exact ⟨hevaluated, rfl⟩

end Session

/-- Something that a preview is used for. -/
inductive Session.Use where
  /-- The transport alone is told to do something. -/
  | command (c : Transport.Command)
  | setTimeline (snapshot : Snapshot)
  | setAssets (assets : AssetTable)
  | setViewport (v : Viewport)
  | movePlayhead (frame : Frame)
  | pool (e : Pool.Event)
  | give (cues : List Cue)
  | finishCues
  | settle
  | sleepUntil (due : Nat)
  /-- The host takes all requests that are pending. -/
  | take
  | callback (id : RequestId) (timestamp : Float)
  | refresh
  | dispose

namespace Session

/-- A timeline that is refused changes nothing. -/
def Use.apply (s : Session) : Use → Session
  | command c => s.modify fun p => p.modifyTransport fun t => t.after c
  | setTimeline snapshot => s.modify fun p => (p.setTimeline snapshot).toOption.getD p
  | setAssets assets => s.modify fun p => p.setAssets assets
  | setViewport v => s.modify fun p => p.setViewport v
  | movePlayhead frame => s.modify fun p => p.setRig (p.rig.movePlayhead frame)
  | pool e => s.modify fun p => p.modifyPool fun pool => e.apply pool
  | give cues => s.give cues
  | finishCues => s.finishCues
  | settle => s.settle
  | sleepUntil due => s.sleepUntil due
  | take => s.modify fun p => p.modifyTransport fun t => { t with host := t.host.take.2 }
  | callback id timestamp => (s.callback id timestamp).1
  | refresh => s.refresh.1
  | dispose => s.modify Preview.dispose

/-- The session after it has been used. -/
def uses (s : Session) (us : List Use) : Session := us.foldl Use.apply s

@[simp] lemma uses_nil (s : Session) : s.uses [] = s := rfl

lemma uses_concat (s : Session) (us : List Use) (u : Use) :
    s.uses (us ++ [u]) = u.apply (s.uses us) := by
  rw [uses, List.foldl_append]
  rfl

lemma setTimeline_cases (p : Preview) (snapshot : Snapshot) :
    (p.setTimeline snapshot).toOption.getD p = p ∨
      (p.setTimeline snapshot).toOption.getD p = { p with
        transport := p.transport.setTimeline snapshot.rate snapshot.duration
        snapshot
        applied := none } := by
  unfold Preview.setTimeline
  split
  · exact .inr rfl
  · exact .inl rfl

lemma callback_of_fault {s : Session} {id : RequestId} {timestamp : Float} {f : Fault}
    (h : (s.preview.transport.callback id timestamp).2 = .error f) :
    s.callback id timestamp =
      (s.modify fun p => { p with transport := (p.transport.callback id timestamp).1 },
        .error (.core (.fault f))) := by
  simp only [callback, h]
  rfl

end Session

end Montage

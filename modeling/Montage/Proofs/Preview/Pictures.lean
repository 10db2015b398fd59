import Montage.Preview.Basic
import Montage.Proofs.Preview.Drawing
import Montage.Proofs.Preview.Waits

/-!
What a picture is the work of.

An evaluation that is applied has staged the layers that one pass has collected, over the frame that
the playhead was on and with the timeline, the assets and the settings that the evaluation was given.
A preview is to show its present frame with the settings of its transport, and a picture is of that
when its pass was over just the same.
-/

namespace Montage

/-- All that a picture is made from. -/
structure Sources where
  frame : Frame
  snapshot : Snapshot
  assets : AssetTable
  viewport : Viewport
  playback : PlaybackState

/-- What a preview is to show, and how. -/
def Preview.sources (p : Preview) : Sources where
  frame := p.playhead
  snapshot := p.snapshot
  assets := p.assets
  viewport := p.compositor.config.viewport
  playback := {
    isPlaying := p.transport.state = .playing
    rate := p.transport.rate
    volume := p.transport.volume
    muted := p.transport.muted }

def Pass.sources (p : Pass) : Sources := ⟨p.frame, p.snapshot, p.assets, p.viewport, p.playback⟩

/-- Sources that a refresh takes for the same: the settings are equal, or compare equal field by
field. -/
structure Sources.Same (a b : Sources) : Prop where
  frame : a.frame = b.frame
  snapshot : a.snapshot = b.snapshot
  assets : a.assets = b.assets
  viewport : a.viewport = b.viewport
  playback : a.playback = b.playback ∨ (a.playback == b.playback) = true

lemma PreviewInputs.beq_iff (a b : PreviewInputs) : (a == b) = true ↔
    a.frame = b.frame ∧ a.revision = b.revision ∧ (a.playback == b.playback) = true := by
  have hbeq : (a == b) =
      (a.frame == b.frame && (a.revision == b.revision && a.playback == b.playback)) := rfl
  rw [hbeq]
  simp only [Bool.and_eq_true, beq_iff_eq]

lemma PlaybackState.beq_iff (a b : PlaybackState) : (a == b) = true ↔
    a.isPlaying = b.isPlaying ∧ (a.rate == b.rate) = true ∧ (a.volume == b.volume) = true ∧
      a.muted = b.muted := by
  have hbeq : (a == b) = (a.isPlaying == b.isPlaying &&
      (a.rate == b.rate && (a.volume == b.volume && a.muted == b.muted))) := rfl
  rw [hbeq]
  simp only [Bool.and_eq_true, beq_iff_eq]

/-- What is staged by an evaluation that is applied, with what was there before and after it. -/
structure Picture where
  before : Scene
  after : Rig
  report : Report
  layers : List Layer

/-- A picture is the work of a pass. The evaluation of the timeline and the assets of the pass, with
its settings of playback, goes from what was there before to what is there after. When the pass has
been over all its clips, it tells what is told of the picture, and its layers are those staged. -/
structure Pass.Makes (p : Pass) (picture : Picture) : Prop where
  result : (picture.before.evaluate p.snapshot p.assets p.playback).result? =
    some (.ok (.applied picture.report))
  rig : (picture.before.evaluate p.snapshot p.assets p.playback).rig = picture.after
  finishes : ∃ answers r, Trail picture.before.rig
    (.clips (start picture.before.rig p.snapshot p.assets p.playback).1
      (start picture.before.rig p.snapshot p.assets p.playback).2) answers r (.clips p []) ∧
    p.finish r = (picture.after, picture.report)
  layers : picture.layers = p.layers

/-- The pass was over the frame and the timeline that a preview is to show, with the settings of its
transport. Its layers are those of clips as they are seen there. -/
structure Pass.IsOf (p : Pass) (v : Preview) : Prop where
  frame : p.frame = v.playhead
  snapshot : p.snapshot = v.snapshot
  revision : p.report.revision = v.snapshot.revision
  assets : p.assets = v.assets
  viewport : p.viewport = v.compositor.config.viewport
  isPlaying : p.playback.isPlaying = true ↔ v.transport.state = .playing
  rate : p.playback.rate = v.transport.rate ∨ (p.playback.rate == v.transport.rate) = true
  volume : p.playback.volume = v.transport.volume ∨
    (p.playback.volume == v.transport.volume) = true
  muted : p.playback.muted = v.transport.muted
  layers : ∀ l ∈ p.layers, l.IsSeenAt v.snapshot v.playhead v.compositor.config.viewport

namespace Pass

variable {p : Pass} {picture : Picture}

lemma Makes.frame (h : p.Makes picture) : picture.report.frame = p.frame := by
  obtain ⟨-, r, -, hfinish⟩ := h.finishes
  exact (congrArg (·.2.frame) hfinish).symm

lemma Makes.reported (h : p.Makes picture) : picture.report.revision = p.report.revision := by
  obtain ⟨-, r, -, hfinish⟩ := h.finishes
  exact (congrArg (·.2.revision) hfinish).symm

lemma Makes.kin (h : p.Makes picture) :
    (start picture.before.rig p.snapshot p.assets p.playback).1.Kin p := by
  obtain ⟨_, r, htrail, -⟩ := h.finishes
  exact htrail.stands_start.2.2.kin

lemma Makes.isSeenAt (h : p.Makes picture) :
    ∀ l ∈ p.layers, l.IsSeenAt p.snapshot p.frame p.viewport := by
  obtain ⟨_, r, htrail, -⟩ := h.finishes
  obtain ⟨hdrifts, hstill, hcollects⟩ := htrail.stands_start
  obtain ⟨_, -, hstages⟩ := hcollects.stages hdrifts hstill
  rw [h.kin.viewport]
  exact hstages.isSeenAt

/-- A pass that was over the same as a preview is to show. -/
lemma Makes.isOf (h : p.Makes picture) {v : Preview} (hsame : p.sources.Same v.sources) :
    p.IsOf v := by
  have hplayback : p.playback.isPlaying = v.sources.playback.isPlaying ∧
      (p.playback.rate = v.transport.rate ∨ (p.playback.rate == v.transport.rate) = true) ∧
      (p.playback.volume = v.transport.volume ∨
        (p.playback.volume == v.transport.volume) = true) ∧
      p.playback.muted = v.transport.muted := by
    rcases hsame.playback with heq | hbeq
    · have heq' : p.playback = v.sources.playback := heq
      rw [heq']
      exact ⟨rfl, .inl rfl, .inl rfl, rfl⟩
    · obtain ⟨hplaying, hrate, hvolume, hmuted⟩ := (PlaybackState.beq_iff _ _).mp hbeq
      exact ⟨hplaying, .inr hrate, .inr hvolume, hmuted⟩
  obtain ⟨hplaying, hrate, hvolume, hmuted⟩ := hplayback
  have hframe : p.frame = v.playhead := hsame.frame
  have hsnapshot : p.snapshot = v.snapshot := hsame.snapshot
  have hviewport : p.viewport = v.compositor.config.viewport := hsame.viewport
  refine ⟨hframe, hsnapshot, ?_, hsame.assets, hviewport, ?_, hrate, hvolume, hmuted, ?_⟩
  · rw [← hsnapshot]
    exact h.kin.revision
  · rw [hplaying]
    exact decide_eq_true_iff
  · rw [← hframe, ← hsnapshot, ← hviewport]
    exact h.isSeenAt

lemma IsOf.rate_beq {v : Preview} {x : Float} (h : p.IsOf v) (hv : v.transport.rate = x)
    (hx : (x == x) = true) : (p.playback.rate == x) = true := by
  subst hv
  rcases h.rate with heq | hbeq
  · rwa [heq]
  · exact hbeq

variable {scene : Scene} {snapshot : Snapshot} {assets : AssetTable} {playback : PlaybackState}
  {report : Report}

/-- **An evaluation that is applied is the work of a pass,** which in the end stages its layers. -/
lemma exists_makes
    (h : (scene.evaluate snapshot assets playback).result? = some (.ok (.applied report))) :
    ∃ (p : Pass) (answers : List Answer) (r : Rig),
      (p.snapshot = snapshot ∧ p.assets = assets ∧ p.playback = playback ∧
        p.viewport = scene.rig.compositor.config.viewport) ∧
      p.Makes ⟨scene, (scene.evaluate snapshot assets playback).rig, report, p.layers⟩ ∧
      (scene.evaluate snapshot assets playback).rig = r.stage report.frame p.layers ∧
      Stages scene.rig (start scene.rig snapshot assets playback).1
        ((start scene.rig snapshot assets playback).2.filter (shows assets answers)) report r
          p.layers := by
  rcases (Scene.lasts_evaluate h).trail with ⟨-, e, he⟩ | ⟨answers, htrail⟩
  · cases he
  obtain ⟨r₁, p, htrail, hfinish⟩ := htrail.of_applied
  obtain ⟨hdrifts, hstill, hcollects⟩ := htrail.stands_start
  obtain ⟨r, hrig, hstages⟩ := hcollects.stages hdrifts hstill
  have hkin := hcollects.kin
  obtain rfl : p.snapshot = snapshot := hkin.snapshot
  obtain rfl : p.assets = assets := hkin.assets
  obtain rfl : p.playback = playback := hkin.playback
  have hreport : (p.finish r₁).2 = report := congrArg Prod.snd hfinish
  have hframe : p.frame = report.frame := congrArg (·.frame) hreport
  have hafter : (p.finish r₁).1 = (scene.evaluate p.snapshot p.assets p.playback).rig :=
    congrArg Prod.fst hfinish
  rw [hreport] at hstages
  rw [hframe, hafter] at hrig
  exact ⟨p, answers, r, ⟨rfl, rfl, rfl, hkin.viewport⟩, ⟨h, rfl, ⟨answers, r₁, htrail, hfinish⟩,
    rfl⟩, hrig, hstages⟩

end Pass

end Montage

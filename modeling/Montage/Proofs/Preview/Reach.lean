import Montage.Proofs.Preview.Drawing
import Montage.Proofs.Timeline.ActiveSets
import Montage.Proofs.Timeline.Seconds
import Montage.Proofs.Timeline.Versions

/-!
How far a timeline that is read from a file can be timed.

A clip that plays shows a frame of its source that is within its trim, so the time of that frame can
be told if that of the end of the trim can. Where that is so for all clips of a frame an evaluation
meets no fault. The reader of files refuses a rate that is of no use and no frame at all, so there
are files that are read and can neither be submitted nor evaluated.
-/

namespace Montage

/-- A clip plays only what its trim holds. -/
lemma ActiveSet.sourceFrame_le {tracks : List Track} {clips : List Clip} {frame : Frame}
    {a : ActiveClip} (h : a ∈ (resolve tracks clips frame).clips) :
    a.sourceFrame ≤ a.clip.outPoint := by
  obtain ⟨-, hstanding⟩ := mem_clips_iff_standing.mp h
  unfold Clip.standing at hstanding
  split at hstanding
  · split at hstanding
    · cases hstanding
    · dsimp only at hstanding
      split_ifs at hstanding with hhidden htrim hsource
      obtain ⟨-, hshown⟩ := Standing.active.inj hstanding
      exact hshown ▸ UInt64.not_lt.mp hsource
  · cases hstanding

namespace Pass

/-- The time of the frame that each of these clips shows can be worked out. -/
def IsTellable (p : Pass) (items : List PassItem) : Prop :=
  ∀ item ∈ items, ∃ x : Float, p.snapshot.rate.secondsOf item.active.sourceFrame = .ok x

lemma IsTellable.tail {p q : Pass} {item : PassItem} {rest : List PassItem}
    (h : p.IsTellable (item :: rest)) (hq : q.snapshot = p.snapshot) : q.IsTellable rest := by
  intro other hother
  rw [hq]
  exact h other (List.mem_cons_of_mem _ hother)

/-- No fault has been met, and none is to come. -/
def Point.Sound : Point → Prop
  | .clips p items => p.IsTellable items
  | .step (.waits p _ _ rest) => p.IsTellable rest
  | .step (.ended result) => ∀ f, result ≠ .error (.core (.fault f))

lemma snapshot_addLayer (p : Pass) (item : PassItem) (asset : MediaAsset) (slot : Option Nat) :
    (p.addLayer item asset slot).snapshot = p.snapshot := by
  unfold addLayer
  split <;> rfl

lemma snapshot_serve (p : Pass) (r : Rig) (item : PassItem) (asset : MediaAsset) (h : Handle) :
    (p.serve r item asset h).2.snapshot = p.snapshot := by
  unfold serve
  dsimp only
  rw [snapshot_addLayer]
  split
  · split <;> rfl
  · rfl

variable {r r' : Rig} {x x' : Point} {as : List Answer}

/-- **One turn.** -/
lemma Turn.sound (t : Turn r x as r' x') (h : x.Sound) : x'.Sound := by
  cases t with
  | finish | close | supersede => exact fun f hf => by cases hf
  | unknown rest => exact IsTellable.tail h rfl
  | plain rest => exact IsTellable.tail h (snapshot_addLayer _ _ _ _)
  | @fault p item _ _ rest _ _ time =>
    obtain ⟨x, hx⟩ := h item List.mem_cons_self
    cases time.symm.trans hx
  | ask rest => exact IsTellable.tail h rfl
  | drift => exact h
  | serve =>
    intro item hitem
    rw [snapshot_serve]
    exact h item hitem
  | refuse => exact h

lemma Trail.sound (t : Trail r x as r' x') (h : x.Sound) : x'.Sound := by
  induction t with
  | refl => exact h
  | snoc _ turn ih => exact turn.sound ih

/-- **An evaluation** meets no fault if all that it shows can be timed. -/
lemma Lasts.ne_fault {snapshot : Snapshot} {assets : AssetTable} {playback : PlaybackState}
    {result : Except PreviewError Evaluation}
    (h : Lasts (r.evaluate snapshot assets playback).1 (r.evaluate snapshot assets playback).2 r'
      (.ended result)) (valid : snapshot.rate.isValid = true)
    (timed : ∀ a ∈ (snapshot.activeAt r.host.playhead).clips,
      ∃ x : Float, snapshot.rate.secondsOf a.sourceFrame = .ok x) (f : Fault) :
    result ≠ .error (.core (.fault f)) := by
  by_cases hdisposed : r.compositor.disposed = true
  · have hevaluate : r.evaluate snapshot assets playback = (r, .ended (.error .disposed)) :=
      if_pos hdisposed
    rw [hevaluate] at h
    obtain ⟨-, hended⟩ := h.of_ended
    cases hended
    exact fun hf => by cases hf
  · have hevaluate : r.evaluate snapshot assets playback =
        (start r snapshot assets playback).1.run r (start r snapshot assets playback).2 := by
      simp [Rig.evaluate, hdisposed, valid]
    have hstart : Point.Sound (.clips (start r snapshot assets playback).1
        (start r snapshot assets playback).2) := by
      intro item hitem
      obtain ⟨z, hz, rfl⟩ := List.mem_mapIdx.mp hitem
      exact timed _ (List.getElem_mem hz)
    obtain ⟨as, htrail⟩ := h.leads (hevaluate ▸ leads_run r _ _)
    exact htrail.sound hstart f

end Pass

/-- **How far a timeline that is read can be timed.** Take any file that is read, any assets and any
frames. A time is exact, and not before the start, just when the product of the frame and the lower
term of the rate is below 2⁶³; beyond that, working it out is a fault, or the time is before the
start. If the duration, and the ends of the windows and trims of the clips on visible tracks, are
not beyond it, the timeline is submitted or refused without a fault; and the times of a submission
are all exact just when that is so. At each frame, the clips whose trims end before that have exact
times, and where all clips have, an evaluation meets no fault. -/
theorem times_of_file {bytes : ByteArray} {file : TimelineFile}
    (accepted : TimelineFile.parseBytes bytes = .ok file) (assets : AssetTable) :
    let s := file.document.snapshot
    (∀ f, (∃ t, s.rate.Tells f t) ↔ s.rate.Reaches f) ∧
    (∀ f, ¬s.rate.Reaches f → s.rate.timeOf f = .error .overflow ∨
      ∃ t, s.rate.timeOf f = .ok t ∧ t.numer < 0) ∧
    (s.Reaches → ∀ f, Submission.ofSnapshot s assets ≠ .error (.fault f)) ∧
    (∀ sub, Submission.ofSnapshot s assets = .ok sub → (sub.IsTimed s assets ↔ s.Reaches)) ∧
    (∀ frame, ∀ a ∈ (s.activeAt frame).clips, s.rate.Reaches a.clip.outPoint →
      ∃ t, s.rate.Tells a.sourceFrame t) ∧
    (∀ (r : Rig) playback r' result, Pass.Lasts (r.evaluate s assets playback).1
        (r.evaluate s assets playback).2 r' (.ended result) →
      (∀ a ∈ (s.activeAt r.host.playhead).clips, s.rate.Reaches a.clip.outPoint) →
        ∀ f, result ≠ .error (.core (.fault f))) := by
  intro s
  have hr : s.rate.isValid = true := TimelineFile.isValid_of_parseBytes accepted
  have hshown : ∀ {frame}, ∀ a ∈ (s.activeAt frame).clips, s.rate.Reaches a.clip.outPoint →
      s.rate.Reaches a.sourceFrame :=
    fun a ha hout => hout.mono (ActiveSet.sourceFrame_le ha)
  refine ⟨FrameRate.tells_iff hr, fun f hfar => ?_, Submission.sound_ofSnapshot,
    fun sub hsub => Submission.isTimed_iff hr hsub,
    fun frame a ha hout => (FrameRate.tells_iff hr _).mpr (hshown a ha hout),
    fun r playback r' result hlasts hout => hlasts.ne_fault hr fun a ha =>
      (hshown a ha (hout a ha)).secondsOf hr⟩
  rcases FrameRate.timeOf_cases hr f with ⟨hreach, -⟩ | ⟨-, hbeyond⟩
  · exact absurd hreach hfar
  · exact hbeyond

/-- A shot of thirty frames that is cut out of a source at some frame. -/
def Document.cut (inPoint : Frame) : Document where
  rate := .fps2997
  tracks := [{ id := ⟨⟨1⟩⟩, name := "V1", order := 0 }]
  clips := [{ Clip.place ⟨⟨1⟩⟩ ⟨⟨1⟩⟩ ⟨"first"⟩ 0 30 with inPoint, outPoint := inPoint + 30 }]
  assets := [{ MediaAsset.video ⟨"first"⟩ "first.mp4" 1.0 with duration := none }]

/-- Cut out at the start of the source, the shot is submitted with exact times. -/
theorem times_of_file_cut : TimelineFile.parseBytes (Document.cut 0).bytes = .ok ⟨1, .cut 0⟩ ∧
    ∃ sub, Submission.ofSnapshot (Document.cut 0).snapshot (Document.cut 0).assetTable = .ok sub ∧
      sub.IsTimed (Document.cut 0).snapshot (Document.cut 0).assetTable := by
  have haccepted : TimelineFile.parseBytes (Document.cut 0).bytes = .ok ⟨1, .cut 0⟩ :=
    Document.parseBytes_bytes (by decide) (by decide) (by decide +kernel)
  obtain ⟨sub, hsub⟩ : ∃ sub, Submission.ofSnapshot (Document.cut 0).snapshot
      (Document.cut 0).assetTable = .ok sub := exists_of_isOk (by decide +kernel)
  have hreaches : (Document.cut 0).snapshot.Reaches := by
    refine ⟨by decide, fun c hc _ => ?_⟩
    have hclips : (Document.cut 0).snapshot.clips.values = (Document.cut 0).clips := rfl
    rw [hclips] at hc
    obtain rfl := List.mem_singleton.mp hc
    exact ⟨by decide, by decide⟩
  obtain ⟨-, -, -, htimed, -⟩ := times_of_file haccepted (Document.cut 0).assetTable
  exact ⟨haccepted, sub, hsub, (htimed sub hsub).mpr hreaches⟩

/-- Cut out some ten million years later, it is still read, but it can neither be submitted nor
evaluated. -/
theorem overflow_of_cut :
    TimelineFile.parseBytes (Document.cut 10000000000000000).bytes =
        .ok ⟨1, .cut 10000000000000000⟩ ∧
      Submission.ofSnapshot (Document.cut 10000000000000000).snapshot
        (Document.cut 10000000000000000).assetTable = .error (.fault .overflow) ∧
      ((Document.cut 10000000000000000).snapshot.activeAt 0).clips.map (fun a =>
        ((Document.cut 10000000000000000).snapshot.rate.secondsOf a.sourceFrame :
          Except Fault Float).isOk) = [false] :=
  ⟨Document.parseBytes_bytes (by decide) (by decide) (by decide +kernel), rfl, by decide +kernel⟩

end Montage

import Mathlib.Data.List.Sort
import Montage.Proofs.Output.Histories
import Montage.Proofs.Preview.Drawing
import Montage.Proofs.Preview.Sync
import Montage.Proofs.Timeline.Orders

/-!
How the output stacks what an evaluation has staged.

The clips of a frame are in the order of their tracks, then of their layers, then of their ids. A
pass numbers them in that order, so the numbers of the layers that it stages have gaps, but they
rise. The output is sorted by these numbers, and no number on it is out of date once the layers are
written; so its stack is in the order of the clips, whatever it has shown before.
-/

namespace Montage

lemma Snapshot.DistinctClips.pairwise_below {s : Snapshot} (h : s.DistinctClips) (frame : Frame) :
    (s.activeAt frame).clips.Pairwise ActiveClip.Below :=
  ActiveSet.pairwise_below h s.tracks frame

namespace Target

instance : Std.TransCmp below := by
  have hlex : below = compareLex (compareOn (·.style.zIndex)) (compareOn (·.clip.rank)) := rfl
  rw [hlex]
  infer_instance

lemma zIndex_le_of_below {k l : Layer} (h : (below k l).isLE = true) :
    k.style.zIndex ≤ l.style.zIndex := by
  by_contra hlt
  have hgt : Ord.compare k.style.zIndex l.style.zIndex = .gt := Int.compare_eq_gt.mpr (by omega)
  simp [below, hgt] at h

/-- Where in the stack a clip is, by its number. -/
def height (g : Target) (c : ClipId) : Int := (g.layers.find? c).elim 0 (·.style.zIndex)

variable {g : Target} {layers : List Layer}

lemma Holds.clip_of_find? (h : g.Holds layers) {c : ClipId} {k : Layer}
    (hk : g.layers.find? c = some k) : k.clip = c := by
  obtain ⟨l, hl, rfl⟩ := List.mem_map.mp ((h.clips c).mp (ClipMap.mem_keys.mpr ⟨k, hk⟩))
  obtain ⟨k', hk', halike⟩ := h.alike l hl
  obtain rfl : k = k' := Option.some.inj (hk.symm.trans hk')
  exact halike.clip

/-- **The stack of an output.** Layers that are numbered from the bottom up are stacked in that
order. -/
lemma Holds.stack (h : g.Holds layers) (hn : (layers.map (·.clip)).Nodup)
    (hz : layers.Pairwise fun l k => l.style.zIndex < k.style.zIndex) :
    g.stack.map (·.clip) = layers.map (·.clip) := by
  have hperm : (g.stack.map (·.clip)).Perm (layers.map (·.clip)) := by
    have hkeys : g.layers.values.map (·.clip) = g.layers.keys :=
      ClipMap.map_values fun c k hk => h.clip_of_find? hk
    refine ((List.mergeSort_perm _ _).map _).trans ?_
    rw [hkeys, List.perm_ext_iff_of_nodup g.layers.nodup_keys hn]
    exact h.clips
  have hstack : (g.stack.map (·.clip)).Pairwise fun c d => g.height c ≤ g.height d := by
    rw [List.pairwise_map]
    refine (pairwise_mergeSort_isLE below _).imp_of_mem fun {k l} hk hl hkl => ?_
    have hheight : ∀ m ∈ g.stack, g.height m.clip = m.style.zIndex := by
      intro m hm
      obtain ⟨c, hc⟩ := ClipMap.mem_values.mp (List.mem_mergeSort.mp hm)
      rw [height, h.clip_of_find? hc, hc]
      rfl
    rw [hheight k hk, hheight l hl]
    exact zIndex_le_of_below hkl
  have hlayers : (layers.map (·.clip)).Pairwise fun c d => g.height c < g.height d := by
    rw [List.pairwise_map]
    refine hz.imp_of_mem fun {k l} hk hl hkl => ?_
    have hheight : ∀ m ∈ layers, g.height m.clip = m.style.zIndex := by
      intro m hm
      obtain ⟨k, hk, halike⟩ := h.alike m hm
      rw [height, hk]
      exact halike.style.zIndex.symm
    rw [hheight k hk, hheight l hl]
    exact hkl
  -- No two layers are of one height, so there is only one way to sort them.
  have hheights : ((layers.map (·.clip)).map g.height).Nodup :=
    List.pairwise_map.mpr (hlayers.imp Int.ne_of_lt)
  refine hperm.eq_of_pairwise (fun c d hc hd hcd hdc => ?_) hstack (hlayers.imp Int.le_of_lt)
  exact List.inj_on_of_nodup_map hheights (hperm.subset hc) hd (Int.le_antisymm hcd hdc)

end Target

lemma Outlet.commit_commit (o : Outlet) : (o.call .commit).call .commit = o.call .commit := by
  have hnone : (o.call .commit).tree.staged = none := by
    rcases hstaged : o.tree.staged with _ | ⟨frame, layers⟩
    · simp only [call, commit_of_none hstaged, hstaged]
    · simp only [call, commit_of_staged hstaged]
  generalize o.call .commit = o' at hnone ⊢
  simp only [call, commit_of_none hnone]
  rfl

/-- After layers have been staged and written, the output shows them and no others. -/
lemma Outlet.holds_stage_commit {calls : List LayerTree.Call} {layers : List Layer} (frame : Frame)
    (distinct : ∀ frame layers, .stage frame layers ∈ calls → (layers.map (·.clip)).Nodup)
    (hn : (layers.map (·.clip)).Nodup) :
    (((run calls).call (.stage frame layers)).call .commit).target.Holds layers := by
  have hcalls : run (calls ++ [.stage frame layers, .commit]) =
      ((run calls).call (.stage frame layers)).call .commit := by
    simp [run, List.foldl_append]
  have hshown : (Canvas.run (calls ++ [.stage frame layers, .commit])).shown = layers := by
    simp [Canvas.run, Canvas.call, List.foldl_append]
  have hdistinct : ∀ frame' layers',
      .stage frame' layers' ∈ calls ++ [.stage frame layers, .commit] →
        (layers'.map (·.clip)).Nodup := by
    intro frame' layers' hmem
    rcases List.mem_append.mp hmem with hmem | hmem
    · exact distinct frame' layers' hmem
    · simp only [List.mem_cons, LayerTree.Call.stage.injEq, reduceCtorEq, List.not_mem_nil,
        or_false] at hmem
      rw [hmem.2]
      exact hn
  obtain ⟨hsound, hfollows⟩ := sound_run hdistinct
  have hholds := hsound.holds hfollows
  rwa [hshown, hcalls] at hholds

namespace Compositor

/-- The layer tree of a compositor, and its output. -/
def outlet (c : Compositor) : Outlet := ⟨c.tree, c.target⟩

lemma outlet_write (c : Compositor) (b : Batch) :
    (c.write b).outlet = ⟨c.tree, c.target.receive b⟩ := by
  rw [write_eq]
  rfl

lemma outlet_flush (c : Compositor) : c.flush.2.outlet = c.outlet.call .commit := by
  unfold flush Outlet.call
  rcases hstaged : c.tree.staged with _ | ⟨frame, layers⟩
  · simp only [outlet, Outlet.commit_of_none hstaged]
    rfl
  · simp only [outlet, Outlet.commit_of_staged hstaged]
    exact outlet_write _ _

end Compositor

lemma Rig.outlet_requestFlush (r : Rig) :
    r.requestFlush.compositor.outlet = r.compositor.outlet := by
  unfold requestFlush
  split <;> rfl

/-- Whether layers are written at once or with a callback, they end up on the output. -/
lemma Rig.outlet_flush_stage (r : Rig) (frame : Frame) (layers : List Layer) :
    (r.stage frame layers).compositor.flush.2.outlet =
      (r.compositor.outlet.call (.stage frame layers)).call .commit := by
  rw [Compositor.outlet_flush]
  unfold stage
  dsimp only
  split
  · rw [outlet_requestFlush]
    rfl
  · rw [Compositor.outlet_flush, Outlet.commit_commit]
    rfl

lemma Rig.Drifts.outlet {r r' : Rig} (h : r.Drifts r') :
    r'.compositor.outlet = r.compositor.outlet := by
  rw [h.compositor]
  rfl

lemma stackIndex_of_lt {place : Nat} (h : place < 2147483648) : stackIndex place = place :=
  Int.bmod_eq_of_le_mul_two (by omega) (by omega)

namespace Pass

variable {frame : Frame} {viewport : Viewport} {layers : List Layer} {items : List PassItem}

lemma Stages.nodup_clips {r r₁ : Rig} {snapshot : Snapshot} {assets : AssetTable}
    {playback : PlaybackState} {shown : PassItem → Bool} {report : Report}
    (h : Stages r (start r snapshot assets playback).1
      ((start r snapshot assets playback).2.filter shown) report r₁ layers)
    (distinct : snapshot.DistinctClips) : (layers.map (·.clip)).Nodup := by
  rw [map_of_draws h.draws fun hd => hd.clip]
  refine List.Nodup.sublist (List.filter_sublist.map _) ?_
  rw [ids_start r snapshot assets playback]
  exact distinct.ids _

lemma pairwise_zIndex_of_draws {n : Nat} (h : List.Forall₂ (Draws frame viewport) layers items)
    (hplaces : (items.map (·.zIndex)).Sublist (List.range n)) (hn : n < 2147483648) :
    layers.Pairwise fun l k => l.style.zIndex < k.style.zIndex := by
  have hz : layers.map (·.style.zIndex) = items.map fun item => stackIndex item.zIndex :=
    map_of_draws h fun hd => by simp only [hd.style, LayerStyle.project]
  rw [← List.pairwise_map (f := fun l : Layer => l.style.zIndex) (R := (· < ·)), hz,
    List.pairwise_map]
  refine (List.pairwise_map.mp (List.pairwise_lt_range.sublist hplaces)).imp_of_mem
    fun {a b} ha hb hab => ?_
  have hlt : ∀ item ∈ items, item.zIndex < 2147483648 := by
    intro item hitem
    have hmem := hplaces.subset (List.mem_map_of_mem (f := (·.zIndex)) hitem)
    have hlt := List.mem_range.mp hmem
    omega
  rw [stackIndex_of_lt (hlt a ha), stackIndex_of_lt (hlt b hb)]
  exact Int.ofNat_lt.mpr hab

end Pass

/-- **The stack after an evaluation.** When an evaluation is applied and its layers are written,
then the stack of the output consists of the clips that are to be seen, from the bottom up: of the
clips that play at the frame, those whose asset is known and visual, and for which the pool has got
an element in this pass if they need one. That is so after any calls that the layer tree has had
before, provided that it was never given two layers of one clip. -/
theorem stack_of_applied (r r' : Rig) (snapshot : Snapshot) (assets : AssetTable)
    (playback : PlaybackState) (report : Report) (calls : List LayerTree.Call)
    (before : r.compositor.outlet = Outlet.run calls)
    (staged : ∀ frame layers, .stage frame layers ∈ calls → (layers.map (·.clip)).Nodup)
    (distinct : snapshot.DistinctClips)
    (few : (snapshot.activeAt r.host.playhead).clips.length < 2147483648)
    (lasts : Pass.Lasts (r.evaluate snapshot assets playback).1
      (r.evaluate snapshot assets playback).2 r' (.ended (.ok (.applied report)))) :
    (snapshot.activeAt report.frame).clips.Pairwise ActiveClip.Below ∧
    ∃ answers : List Pass.Answer,
      Pass.Trail r (.clips (Pass.start r snapshot assets playback).1
        (Pass.start r snapshot assets playback).2) answers r'
          (.step (.ended (.ok (.applied report)))) ∧
      r'.compositor.flush.2.target.stack.map (·.clip) =
        (((snapshot.activeAt report.frame).clips.mapIdx PassItem.mk).filter
          (Pass.shows assets answers)).map (·.active.clip.id) := by
  refine ⟨distinct.pairwise_below _, ?_⟩
  rcases lasts.trail with ⟨-, e, he⟩ | ⟨answers, htrail⟩
  · cases he
  refine ⟨answers, htrail, ?_⟩
  obtain ⟨r₁, layers, rfl, hstages⟩ := htrail.stands_start
  let items := (Pass.start r snapshot assets playback).2
  have hsublist : (items.filter (Pass.shows assets answers)).Sublist items := List.filter_sublist
  have hclips : layers.map (·.clip) =
      (items.filter (Pass.shows assets answers)).map (·.active.clip.id) :=
    Pass.map_of_draws hstages.draws fun hd => hd.clip
  have hn : (layers.map (·.clip)).Nodup := hstages.nodup_clips distinct
  have hz : layers.Pairwise fun l k => l.style.zIndex < k.style.zIndex := by
    refine Pass.pairwise_zIndex_of_draws hstages.draws ?_ few
    rw [← Pass.places_start r snapshot assets playback]
    exact hsublist.map _
  have hholds : (r₁.stage report.frame layers).compositor.flush.2.target.Holds layers := by
    have houtlet := r₁.outlet_flush_stage report.frame layers
    rw [hstages.drifts.outlet, before] at houtlet
    have hholds := Outlet.holds_stage_commit report.frame staged hn
    rwa [← houtlet] at hholds
  rw [hholds.stack hn hz, hclips, hstages.frame]
  rfl

/-- A picture above a shot. -/
def Snapshot.overlaid : Snapshot :=
  .ofClips .fps30
    [{ id := ⟨⟨1⟩⟩, name := "V2", order := 1 }, { id := ⟨⟨2⟩⟩, name := "V1", order := 0 }]
    [.place ⟨⟨1⟩⟩ ⟨⟨1⟩⟩ ⟨"still"⟩ 0 30, .place ⟨⟨2⟩⟩ ⟨⟨2⟩⟩ ⟨"first"⟩ 0 30]

def AssetTable.overlaid : AssetTable :=
  ⟨[.video ⟨"first"⟩ "first.mp4" 20.0, .image ⟨"still"⟩ "still.png"]⟩

def ActiveClip.overlaidUpper : ActiveClip where
  clip := .place ⟨⟨1⟩⟩ ⟨⟨1⟩⟩ ⟨"still"⟩ 0 30
  track := { id := ⟨⟨1⟩⟩, name := "V2", order := 1 }
  sourceFrame := 0

def ActiveClip.overlaidLower : ActiveClip where
  clip := .place ⟨⟨2⟩⟩ ⟨⟨2⟩⟩ ⟨"first"⟩ 0 30
  track := { id := ⟨⟨2⟩⟩, name := "V1", order := 0 }
  sourceFrame := 0

/-- The picture has the lesser id, but its track is above that of the shot. -/
lemma Snapshot.clips_overlaid :
    (Snapshot.overlaid.activeAt 0).clips = [.overlaidLower, .overlaidUpper] := by
  have hsorted : (Snapshot.overlaid.activeAt 0).clips =
      [ActiveClip.overlaidUpper, .overlaidLower].mergeSort fun a b => (a.compare b).isLE := rfl
  have hle : (ActiveClip.overlaidUpper.compare .overlaidLower).isLE = false := by decide
  rw [hsorted]
  simp [List.mergeSort, hle, List.MergeSort.Internal.splitInTwo]

/-- The single element, and an output on which the clip of the picture is the lowest. -/
def Rig.overlaid : Rig :=
  { Rig.single with compositor := { Rig.single.compositor with
      tree := (Outlet.run Outlet.stills).tree, target := (Outlet.run Outlet.stills).target } }

/-- The pass as it waits for the shot, and what comes of it. -/
def Rig.overlaidWaits : Rig × Pass.Step :=
  (Pass.start Rig.overlaid .overlaid .overlaid {}).1.run Rig.overlaid
    [⟨0, .overlaidLower⟩, ⟨1, .overlaidUpper⟩]

def Rig.overlaidEnds : Rig × Pass.Step :=
  Pass.resume
    (Rig.overlaidWaits.1.modifyPool fun pool => Pool.Event.apply pool (.schedule { now := 20 }))
    Rig.overlaidWaits.2

lemma Rig.evaluate_overlaid :
    Rig.overlaid.evaluate .overlaid .overlaid {} = Rig.overlaidWaits :=
  Rig.evaluate_of_start rfl (by decide) (Pass.start_of_clips rfl Snapshot.clips_overlaid _ _)

/-- The shot comes below the picture. -/
theorem stack_of_applied_overlaid :
    (Rig.overlaid.compositor.target.layers.find? ⟨⟨1⟩⟩).map (·.style.zIndex) = some 0 ∧
    Rig.overlaidEnds.1.compositor.flush.2.target.stack.map (·.clip) = [⟨⟨2⟩⟩, ⟨⟨1⟩⟩] := by
  have hends : Rig.overlaidEnds.2.report?.any (fun report => report.frame = 0) = true := by
    decide +kernel
  have hwaits : Rig.overlaidWaits.2.isWaiting = true := by decide +kernel
  obtain ⟨report, happlied, hframe⟩ := Option.any_eq_true _ _ |>.mp hends
  rw [decide_eq_true_eq] at hframe
  have hlasts : Pass.Lasts Rig.overlaidWaits.1 Rig.overlaidWaits.2 Rig.overlaidEnds.1
      Rig.overlaidEnds.2 := .resume_of_drifts hwaits ⟨rfl, rfl⟩
  rw [Pass.Step.eq_of_report? happlied, ← Rig.evaluate_overlaid] at hlasts
  have hfew : (Snapshot.overlaid.activeAt 0).clips.length < 2147483648 := by
    rw [Snapshot.clips_overlaid]
    decide
  obtain ⟨-, answers, -, hstack⟩ := stack_of_applied Rig.overlaid Rig.overlaidEnds.1 .overlaid
    .overlaid {} report Outlet.stills rfl Outlet.nodup_stills (Snapshot.distinctClips_ofClips _ _ _)
    hfew hlasts
  rw [hframe, Snapshot.clips_overlaid] at hstack
  have hboth : Rig.overlaidEnds.1.compositor.flush.2.target.layers.values.length = 2 := by
    decide +kernel
  have hlength : (([ActiveClip.overlaidLower, .overlaidUpper].mapIdx PassItem.mk).filter
      (Pass.shows .overlaid answers)).length = 2 := by
    have hsame := congrArg List.length hstack
    rwa [List.length_map, List.length_map, Target.stack, List.length_mergeSort, hboth,
      eq_comm] at hsame
  rw [List.filter_eq_self.mpr (List.length_filter_eq_length_iff.mp hlength)] at hstack
  exact ⟨by decide +kernel, hstack⟩

end Montage

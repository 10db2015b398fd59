import Mathlib.Data.List.Forall2
import Montage.Proofs.Preview.Staging
import Montage.Proofs.Preview.Turns

/-!
What a pass draws, and for which frame.

Turn by turn a pass collects one layer for each clip that is to be seen, in the order of the clips.
All of them are drawn for the frame that the playhead was on at the start. When they are staged the
playhead is on that frame, whatever it has done in the meantime, and up to then nothing happens to
the output.
-/

namespace Montage

namespace Pass

/-- The layer is that of a clip as it is seen at a frame. -/
structure Draws (frame : Frame) (viewport : Viewport) (l : Layer) (item : PassItem) : Prop where
  clip : l.clip = item.active.clip.id
  asset : l.asset = item.active.clip.asset
  style : l.style = .project (item.active.clip.visualAt frame) viewport (stackIndex item.zIndex)
    (item.active.clip.isAnimatingAt frame)

/-- Whether a clip is to be seen: its asset is known and visual, and there is an element for it if
it needs one. -/
def shows (assets : AssetTable) (answers : List Answer) (item : PassItem) : Bool :=
  match assets.find? item.active.clip.asset with
  | none => false
  | some asset => asset.isVisual && (!asset.needsElement ||
      answers.any fun a => a.place = item.zIndex && a.result.isOk)

variable {r₀ r r' : Rig} {assets : AssetTable} {all items rest : List PassItem}
  {as bs : List Answer} {p₀ p q : Pass} {item : PassItem} {asset : MediaAsset}

lemma shows_of_found (h : assets.find? item.active.clip.asset = some asset) :
    shows assets as item = (asset.isVisual && (!asset.needsElement ||
      as.any fun a => a.place = item.zIndex && a.result.isOk)) := by
  simp only [shows, h]

lemma shows_append (h : ∀ b ∈ bs, b.place ≠ item.zIndex) :
    shows assets (as ++ bs) item = shows assets as item := by
  have hbs : (bs.any fun a => a.place = item.zIndex && a.result.isOk) = false := by
    rw [List.any_eq_false]
    intro b hb
    simp [h b hb]
  simp only [shows, List.any_append, hbs, Bool.or_false]

lemma shows_answered (found : assets.find? item.active.clip.asset = some asset)
    (needed : asset.needsElement = true) (hfree : ∀ a ∈ as, a.place ≠ item.zIndex)
    (result : Except MediaError Handle) :
    shows assets (as ++ [⟨item.zIndex, result⟩]) item = (asset.isVisual && result.isOk) := by
  have has : (as.any fun a => a.place = item.zIndex && a.result.isOk) = false := by
    rw [List.any_eq_false]
    intro a ha
    simp [hfree a ha]
  rw [shows_of_found found, List.any_append, has, needed]
  simp

/-- The passes are over the same frame of the same timeline, with the same settings. -/
structure Kin (p q : Pass) : Prop where
  snapshot : q.snapshot = p.snapshot
  assets : q.assets = p.assets
  playback : q.playback = p.playback
  viewport : q.viewport = p.viewport
  frame : q.frame = p.frame
  revision : q.report.revision = p.report.revision

lemma Kin.refl (p : Pass) : p.Kin p := ⟨rfl, rfl, rfl, rfl, rfl, rfl⟩

lemma Kin.trans (h : p₀.Kin p) (k : p.Kin q) : p₀.Kin q where
  snapshot := k.snapshot.trans h.snapshot
  assets := k.assets.trans h.assets
  playback := k.playback.trans h.playback
  viewport := k.viewport.trans h.viewport
  frame := k.frame.trans h.frame
  revision := k.revision.trans h.revision

lemma kin_fail (p : Pass) (item : PassItem) (error : MediaError) : p.Kin (p.fail item error) :=
  ⟨rfl, rfl, rfl, rfl, rfl, rfl⟩

/-- The pass takes note that the asset is in use. -/
def use (p : Pass) (asset : MediaAsset) : Pass :=
  { p with activeAssets := asset.id :: p.activeAssets }

lemma kin_use (p : Pass) (asset : MediaAsset) : p.Kin (p.use asset) :=
  ⟨rfl, rfl, rfl, rfl, rfl, rfl⟩

lemma kin_addLayer (p : Pass) (item : PassItem) (asset : MediaAsset) (slot : Option Nat) :
    p.Kin (p.addLayer item asset slot) := by
  unfold addLayer
  split <;> exact ⟨rfl, rfl, rfl, rfl, rfl, rfl⟩

/-- A pass that began as `p₀` has collected the layers of the clips so far, with `items` to come. -/
structure Collects (p₀ : Pass) (all : List PassItem) (answers : List Answer) (p : Pass)
    (items : List PassItem) : Prop where
  kin : p₀.Kin p
  layers : ∃ done, all = done ++ items ∧ (∀ a ∈ answers, a.place ∈ done.map (·.zIndex)) ∧
    List.Forall₂ (Draws p₀.frame p₀.viewport) p.layers (done.filter (shows p₀.assets answers))

/-- On to the next clip, with a layer for this one if it is to be seen. -/
lemma Collects.next (h : Collects p₀ all as p (item :: rest)) (drawn : List Layer)
    (hn : (all.map (·.zIndex)).Nodup) (hbs : ∀ b ∈ bs, b.place = item.zIndex) (hq : p.Kin q)
    (hlayers : q.layers = p.layers ++ drawn)
    (hdrawn : (∀ a ∈ as, a.place ≠ item.zIndex) → List.Forall₂ (Draws p₀.frame p₀.viewport) drawn
      ([item].filter (shows p₀.assets (as ++ bs)))) :
    Collects p₀ all (as ++ bs) q rest := by
  obtain ⟨done, rfl, hplaces, hall⟩ := h.layers
  -- The new answers are for this place, so they say nothing new of the clips before.
  have hother : ∀ i ∈ done, i.zIndex ≠ item.zIndex := by
    intro i hi heq
    rw [List.map_append, List.map_cons] at hn
    exact List.disjoint_of_nodup_append hn (List.mem_map_of_mem hi) (heq ▸ List.mem_cons_self)
  have hfree : ∀ a ∈ as, a.place ≠ item.zIndex := by
    intro a ha
    obtain ⟨i, hi, hplace⟩ := List.mem_map.mp (hplaces a ha)
    exact hplace ▸ hother i hi
  have hsame : done.filter (shows p₀.assets (as ++ bs)) = done.filter (shows p₀.assets as) := by
    refine List.filter_congr fun i hi => shows_append fun b hb => ?_
    rw [hbs b hb]
    exact Ne.symm (hother i hi)
  refine ⟨h.kin.trans hq, done ++ [item], by simp, fun a ha => ?_, ?_⟩
  · rw [List.map_append, List.mem_append]
    rcases List.mem_append.mp ha with ha | ha
    · exact .inl (hplaces a ha)
    · exact .inr (by simp [hbs a ha])
  · rw [hlayers, List.filter_append, hsame]
    exact List.rel_append hall (hdrawn hfree)

lemma Collects.skip (h : Collects p₀ all as p (item :: rest))
    (hn : (all.map (·.zIndex)).Nodup) (hbs : ∀ b ∈ bs, b.place = item.zIndex)
    (hshows : (∀ a ∈ as, a.place ≠ item.zIndex) → shows p₀.assets (as ++ bs) item = false)
    (error : MediaError) : Collects p₀ all (as ++ bs) (p.fail item error) rest := by
  refine h.next [] hn hbs (p.kin_fail item error) (List.append_nil _).symm fun hfree => ?_
  rw [List.filter_cons_of_neg (by simp [hshows hfree]), List.filter_nil]
  exact .nil

lemma Collects.addLayer (h : Collects p₀ all as p (item :: rest)) (q : Pass)
    (hn : (all.map (·.zIndex)).Nodup) (hbs : ∀ b ∈ bs, b.place = item.zIndex) (hq : p.Kin q)
    (hlayers : q.layers = p.layers)
    (hshows : (∀ a ∈ as, a.place ≠ item.zIndex) →
      shows p₀.assets (as ++ bs) item = asset.isVisual)
    (slot : Option Nat) :
    Collects p₀ all (as ++ bs) (q.addLayer item asset slot) rest := by
  have hkin := hq.trans (q.kin_addLayer item asset slot)
  by_cases hvisual : asset.isVisual = true
  · refine h.next [⟨item.active.clip.id, item.active.clip.asset, slot,
        .project (item.active.clip.visualAt q.frame) q.viewport (stackIndex item.zIndex)
          (item.active.clip.isAnimatingAt q.frame)⟩] hn hbs hkin ?_ fun hfree => ?_
    · rw [Pass.addLayer, if_pos hvisual, hlayers]
    · rw [List.filter_cons_of_pos ((hshows hfree).trans hvisual), List.filter_nil,
        (h.kin.trans hq).frame, (h.kin.trans hq).viewport]
      exact .cons ⟨rfl, rfl, rfl⟩ .nil
  · refine h.next [] hn hbs hkin ?_ fun hfree => ?_
    · rw [Pass.addLayer, if_neg hvisual, hlayers, List.append_nil]
    · rw [List.filter_cons_of_neg (by rwa [hshows hfree]), List.filter_nil]
      exact .nil

lemma serve_eq (p : Pass) (r : Rig) (item : PassItem) (asset : MediaAsset) (h : Handle) :
    (∃ f, (p.serve r item asset h).1 = r.modifyPool f) ∧
      ∃ q : Pass, (p.serve r item asset h).2 = q.addLayer item asset (some h.slot) ∧
        p.Kin q ∧ q.layers = p.layers := by
  refine ⟨⟨_, rfl⟩, _, rfl, ?_⟩
  dsimp only
  split
  · split <;> exact ⟨⟨rfl, rfl, rfl, rfl, rfl, rfl⟩, rfl⟩
  · exact ⟨⟨rfl, rfl, rfl, rfl, rfl, rfl⟩, rfl⟩

lemma kin_serve (p : Pass) (r : Rig) (item : PassItem) (asset : MediaAsset) (h : Handle) :
    p.Kin (p.serve r item asset h).2 := by
  obtain ⟨-, q, hq, hkin, -⟩ := p.serve_eq r item asset h
  rw [hq]
  exact hkin.trans (q.kin_addLayer item asset _)

/-- Layers have been staged, and the playhead was on the frame that they are drawn for. -/
structure Stages (r₀ : Rig) (p₀ : Pass) (shown : List PassItem) (report : Report) (r₁ : Rig)
    (layers : List Layer) : Prop where
  drifts : r₀.Drifts r₁
  still : r₁.host.playhead = report.frame
  frame : report.frame = p₀.frame
  revision : report.revision = p₀.report.revision
  length : layers.length = report.layers
  draws : List.Forall₂ (Draws p₀.frame p₀.viewport) layers shown

lemma Collects.stages (h : Collects p₀ all as p []) (hdrifts : r₀.Drifts r)
    (hstill : r.host.playhead = p.frame) :
    ∃ r₁, (p.finish r).1 = r₁.stage p.frame p.layers ∧
      Stages r₀ p₀ (all.filter (shows p₀.assets as)) (p.finish r).2 r₁ p.layers := by
  obtain ⟨done, hall, -, hdrawn⟩ := h.layers
  rw [List.append_nil] at hall
  rw [← hall] at hdrawn
  exact ⟨_, rfl, (hdrifts.modifyPool _).modifyPool _, hstill, h.kin.frame, h.kin.revision, rfl,
    hdrawn⟩

/-- What holds of every point of an evaluation. -/
def Point.Stands (r₀ : Rig) (p₀ : Pass) (all : List PassItem) (answers : List Answer) (r : Rig) :
    Point → Prop
  | clips p items => r₀.Drifts r ∧ r.host.playhead = p.frame ∧ Collects p₀ all answers p items
  | step (.waits p item asset rest) => r₀.Drifts r ∧
      p₀.assets.find? item.active.clip.asset = some asset ∧ asset.needsElement = true ∧
        Collects p₀ all answers p (item :: rest)
  | step (.ended (.ok (.applied report))) => ∃ r₁ layers, r = r₁.stage report.frame layers ∧
      Stages r₀ p₀ (all.filter (shows p₀.assets answers)) report r₁ layers
  | step (.ended _) => r₀.Drifts r

/-- **One turn.** -/
lemma Turn.stands {x x' : Point} (t : Turn r x bs r' x') (hn : (all.map (·.zIndex)).Nodup)
    (h : x.Stands r₀ p₀ all as r) : x'.Stands r₀ p₀ all (as ++ bs) r' := by
  cases t with
  | finish p =>
    obtain ⟨hdrifts, hstill, hcollects⟩ := h
    obtain ⟨r₁, hrig, hstages⟩ := hcollects.stages hdrifts hstill
    rw [List.append_nil]
    exact ⟨r₁, p.layers, hrig, hstages⟩
  | @unknown p item rest hnone =>
    obtain ⟨hdrifts, hstill, hcollects⟩ := h
    refine ⟨hdrifts, hstill, hcollects.skip hn (by simp) (fun _ => ?_) _⟩
    rw [hcollects.kin.assets] at hnone
    simp only [shows, hnone]
  | @plain p item asset rest found needless =>
    obtain ⟨hdrifts, hstill, hcollects⟩ := h
    refine ⟨hdrifts, hstill.trans ((p.use asset).kin_addLayer item asset none).frame.symm,
      hcollects.addLayer (p.use asset) hn (by simp) (p.kin_use asset) rfl (fun _ => ?_) none⟩
    rw [hcollects.kin.assets] at found
    simp [shows_of_found found, needless]
  | fault rest found needed time => exact h.1
  | @ask p item asset target rest found needed time =>
    obtain ⟨hdrifts, -, hcollects⟩ := h
    rw [List.append_nil]
    exact ⟨hdrifts.modifyPool _, hcollects.kin.assets ▸ found, needed,
      hcollects.kin.trans (p.kin_use asset), hcollects.layers⟩
  | drift drifts =>
    obtain ⟨hdrifts, found, needed, hcollects⟩ := h
    rw [List.append_nil]
    exact ⟨hdrifts.trans drifts, found, needed, hcollects⟩
  -- Of the turns that follow a wait only these two go on with the clips, and both look at the
  -- playhead first.
  | @serve p item asset rest hd result still =>
    obtain ⟨hdrifts, found, needed, hcollects⟩ := h
    obtain ⟨⟨f, hr⟩, q, hq, hkin, hlayers⟩ :=
      p.serve_eq (r.modifyPool fun pool => pool.forget TaskId.main) item asset hd
    rw [hr, hq]
    refine ⟨(hdrifts.modifyPool _).modifyPool _, ?_,
      hcollects.addLayer q hn (by simp) hkin hlayers (fun hfree => ?_) _⟩
    · rw [(hkin.trans (q.kin_addLayer item asset _)).frame]
      exact still
    · rw [shows_answered found needed hfree]
      exact Bool.and_true _
  | @refuse p item asset rest e result other still =>
    obtain ⟨hdrifts, found, needed, hcollects⟩ := h
    refine ⟨hdrifts.modifyPool _, still, hcollects.skip hn (by simp) (fun hfree => ?_) _⟩
    rw [shows_answered found needed hfree]
    exact Bool.and_false _
  | close result still => exact h.1.modifyPool _
  | supersede result moved => exact h.1.modifyPool _

/-- **Any number of turns.** -/
lemma Trail.stands {x x' : Point} (t : Trail r x as r' x') (hn : (all.map (·.zIndex)).Nodup)
    (h : x.Stands r₀ p₀ all [] r) : x'.Stands r₀ p₀ all as r' := by
  induction t with
  | refl => exact h
  | snoc _ turn ih => exact turn.stands hn ih

lemma places_start (r : Rig) (snapshot : Snapshot) (assets : AssetTable)
    (playback : PlaybackState) : (start r snapshot assets playback).2.map (·.zIndex) =
      List.range (snapshot.activeAt r.host.playhead).clips.length := by
  refine List.ext_getElem (by simp [start]) fun i hi hj => ?_
  simp [start]

lemma ids_start (r : Rig) (snapshot : Snapshot) (assets : AssetTable) (playback : PlaybackState) :
    (start r snapshot assets playback).2.map (·.active.clip.id) =
      (snapshot.activeAt r.host.playhead).ids := by
  refine List.ext_getElem (by simp [start, ActiveSet.ids]) fun i hi hj => ?_
  simp [start, ActiveSet.ids]

lemma nodup_start (r : Rig) (snapshot : Snapshot) (assets : AssetTable) (playback : PlaybackState) :
    ((start r snapshot assets playback).2.map (·.zIndex)).Nodup := by
  rw [places_start]
  exact List.nodup_range

lemma Lasts.of_ended {s' : Step} {result : Except PreviewError Evaluation}
    (h : Lasts r (.ended result) r' s') : r' = r ∧ s' = .ended result := by
  induction h with
  | refl => exact ⟨rfl, rfl⟩
  | drift _ _ ih => simp at ih
  | resume _ ih =>
    obtain ⟨rfl, rfl⟩ := ih
    exact ⟨rfl, rfl⟩

variable {snapshot : Snapshot} {playback : PlaybackState} {result : Except PreviewError Evaluation}

lemma Lasts.trail (h : Lasts (r.evaluate snapshot assets playback).1
      (r.evaluate snapshot assets playback).2 r' (.ended result)) :
    (r' = r ∧ ∃ e, result = .error e) ∨ ∃ as, Trail r (.clips (start r snapshot assets playback).1
      (start r snapshot assets playback).2) as r' (.step (.ended result)) := by
  rcases leads_evaluate r snapshot assets playback with ⟨e, he⟩ | hleads
  · rw [he] at h
    obtain ⟨rfl, hresult⟩ := h.of_ended
    cases hresult
    exact .inl ⟨rfl, e, rfl⟩
  · exact .inr (h.leads hleads)

/-- **A whole evaluation,** up to any point. -/
lemma Trail.stands_start {x : Point} (h : Trail r (.clips (start r snapshot assets playback).1
      (start r snapshot assets playback).2) as r' x) :
    x.Stands r (start r snapshot assets playback).1 (start r snapshot assets playback).2 as r' := by
  have hcollects : Collects (start r snapshot assets playback).1
      (start r snapshot assets playback).2 [] (start r snapshot assets playback).1
        (start r snapshot assets playback).2 :=
    ⟨.refl _, [], rfl, by simp, .nil⟩
  exact h.stands (nodup_start r snapshot assets playback) ⟨.refl r, rfl, hcollects⟩

lemma Lasts.stands (h : Lasts (r.evaluate snapshot assets playback).1
      (r.evaluate snapshot assets playback).2 r' (.ended result)) :
    ∃ as, (Point.step (.ended result)).Stands r (start r snapshot assets playback).1
      (start r snapshot assets playback).2 as r' := by
  rcases h.trail with ⟨rfl, e, rfl⟩ | ⟨as, htrail⟩
  · exact ⟨[], .refl _⟩
  · exact ⟨as, htrail.stands_start⟩

/-- The last turn of an evaluation that is applied is that of a pass with no clip left. -/
lemma Trail.of_applied {report : Report}
    (h : Trail r (.clips p₀ all) as r' (.step (.ended (.ok (.applied report))))) :
    ∃ r₁ p, Trail r (.clips p₀ all) as r₁ (.clips p []) ∧ p.finish r₁ = (r', report) := by
  cases h with
  | snoc trail turn =>
    cases turn with
    | finish p =>
      rw [List.append_nil]
      exact ⟨_, p, trail, rfl⟩

end Pass

/-- The layer is of a clip that plays at a frame, drawn as the clip is seen there. -/
def Layer.IsSeenAt (l : Layer) (snapshot : Snapshot) (frame : Frame) (viewport : Viewport) : Prop :=
  ∃ place active, (snapshot.activeAt frame).clips[place]? = some active ∧
    Pass.Draws frame viewport l ⟨place, active⟩

namespace Pass

variable {frame : Frame} {viewport : Viewport} {layers : List Layer} {items : List PassItem}

lemma exists_of_draws (h : List.Forall₂ (Draws frame viewport) layers items) {l : Layer}
    (hl : l ∈ layers) : ∃ item ∈ items, Draws frame viewport l item := by
  induction h with
  | nil => simp at hl
  | cons hd _ ih =>
    rcases List.mem_cons.mp hl with rfl | hl
    · exact ⟨_, List.mem_cons_self, hd⟩
    · obtain ⟨item, hitem, hdraws⟩ := ih hl
      exact ⟨item, List.mem_cons_of_mem _ hitem, hdraws⟩

lemma map_of_draws {α : Type} {f : Layer → α} {g : PassItem → α}
    (h : List.Forall₂ (Draws frame viewport) layers items)
    (hfg : ∀ {l item}, Draws frame viewport l item → f l = g item) :
    layers.map f = items.map g := by
  rw [← List.forall₂_eq_eq_eq, List.forall₂_map_left_iff, List.forall₂_map_right_iff]
  exact h.imp fun _ _ => hfg

lemma Stages.isSeenAt {r r₁ : Rig} {snapshot : Snapshot} {assets : AssetTable}
    {playback : PlaybackState} {shown : PassItem → Bool} {report : Report}
    (h : Stages r (start r snapshot assets playback).1
      ((start r snapshot assets playback).2.filter shown) report r₁ layers) :
    ∀ l ∈ layers, l.IsSeenAt snapshot report.frame r.compositor.config.viewport := by
  intro l hl
  obtain ⟨item, hitem, hdraws⟩ := exists_of_draws h.draws hl
  obtain ⟨z, hz, rfl⟩ := List.mem_mapIdx.mp (List.mem_of_mem_filter hitem)
  rw [h.frame]
  exact ⟨z, _, List.getElem?_eq_getElem hz, hdraws⟩

end Pass

/-- **A pass stages on time or not at all.** Whatever the playhead and the pool do while an
evaluation waits: if it is applied then the playhead is on the frame of the evaluation when the
layers are staged, and each of them is drawn for that frame. Otherwise nothing has happened to what
is staged or shown, nor to any request for a callback. -/
theorem evaluate_stages_on_time (r r' : Rig) (snapshot : Snapshot) (assets : AssetTable)
    (playback : PlaybackState) (result : Except PreviewError Evaluation)
    (lasts : Pass.Lasts (r.evaluate snapshot assets playback).1
      (r.evaluate snapshot assets playback).2 r' (.ended result)) :
    match result with
    | .ok (.applied report) => ∃ (r₁ : Rig) (layers : List Layer), r.Drifts r₁ ∧
        r₁.host.playhead = report.frame ∧ r' = r₁.stage report.frame layers ∧
          r'.compositor.HasStaged report.frame layers ∧ layers.length = report.layers ∧
            ∀ l ∈ layers, l.IsSeenAt snapshot report.frame r.compositor.config.viewport
    | _ => r.Drifts r' := by
  obtain ⟨answers, hstands⟩ := lasts.stands
  rcases result with e | (report | ⟨frame, current⟩)
  · exact hstands
  · obtain ⟨r₁, layers, hrig, hstages⟩ := hstands
    have hstaged : r'.compositor.HasStaged report.frame layers := hrig ▸ r₁.hasStaged_stage _ _
    exact ⟨r₁, layers, hstages.drifts, hstages.still, hrig, hstaged, hstages.length,
      hstages.isSeenAt⟩
  · exact hstands

/-- The pass over the first shot as it waits for the load of the shot, and what comes of it. -/
def Rig.singleWaits : Rig × Pass.Step := Rig.single.evaluate .shots .shots {}

def Rig.singleEnds : Rig × Pass.Step :=
  Pass.resume
    (Rig.singleWaits.1.modifyPool fun pool => Pool.Event.apply pool (.schedule { now := 20 }))
    Rig.singleWaits.2

/-- The pass over the first shot when its load is over and the playhead has moved to the second. -/
def Rig.singleMoved : Rig × Pass.Step :=
  Pass.resume ((Rig.singleWaits.1.modifyPool fun pool =>
    Pool.Event.apply pool (.schedule { now := 20 })).movePlayhead 30) Rig.singleWaits.2

/-- From where to where the playhead went, if an evaluation is superseded. -/
def Pass.Step.moved? : Pass.Step → Option (Frame × Frame)
  | ended (.ok (.superseded frame current)) => some (frame, current)
  | _ => none

lemma Pass.Step.eq_of_moved? {s : Step} {frame current : Frame}
    (h : s.moved? = some (frame, current)) : s = .ended (.ok (.superseded frame current)) := by
  unfold moved? at h
  split at h
  · cases h
    rfl
  · simp at h

lemma Rig.lasts_single : Pass.Lasts Rig.singleWaits.1 Rig.singleWaits.2 Rig.singleEnds.1
      Rig.singleEnds.2 ∧
    Pass.Lasts Rig.singleWaits.1 Rig.singleWaits.2 Rig.singleMoved.1 Rig.singleMoved.2 := by
  have hwaits : Rig.singleWaits.2.isWaiting = true := by decide +kernel
  exact ⟨.resume_of_drifts hwaits ⟨rfl, rfl⟩, .resume_of_drifts hwaits ⟨rfl, rfl⟩⟩

/-- The first shot is staged while the playhead is on it, and it is not when the playhead has
moved. -/
theorem evaluate_stages_on_time_single :
    (∃ (r₁ : Rig) (layer : Layer), r₁.host.playhead = 0 ∧ Rig.singleEnds.1 = r₁.stage 0 [layer] ∧
      Rig.singleEnds.1.compositor.HasStaged 0 [layer] ∧ layer.IsSeenAt .shots 0 .standard) ∧
    Rig.singleMoved.2 = .ended (.ok (.superseded 0 30)) ∧ Rig.single.Drifts Rig.singleMoved.1 := by
  obtain ⟨hends, hmoved⟩ := Rig.lasts_single
  constructor
  · have hone : Rig.singleEnds.2.report?.any
        (fun report => report.layers = 1 && report.frame = 0) = true := by
      decide +kernel
    obtain ⟨report, happlied, hone⟩ := Option.any_eq_true _ _ |>.mp hone
    simp only [Bool.and_eq_true, decide_eq_true_eq] at hone
    rw [Pass.Step.eq_of_report? happlied] at hends
    obtain ⟨r₁, layers, -, hstill, hrig, hstaged, hlength, hseen⟩ :=
      evaluate_stages_on_time Rig.single Rig.singleEnds.1 .shots .shots {} _ hends
    rw [hone.2] at hstill hrig hstaged hseen
    obtain ⟨layer, rfl⟩ := List.length_eq_one_iff.mp (hlength.trans hone.1)
    exact ⟨r₁, layer, hstill, hrig, hstaged, hseen layer (List.mem_singleton.mpr rfl)⟩
  · have hframes : Rig.singleMoved.2.moved? = some (0, 30) := by decide +kernel
    have hsuperseded := Pass.Step.eq_of_moved? hframes
    rw [hsuperseded] at hmoved
    exact ⟨hsuperseded,
      evaluate_stages_on_time Rig.single Rig.singleMoved.1 .shots .shots {} _ hmoved⟩

end Montage

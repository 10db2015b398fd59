import Montage.Proofs.Preview.Passes

/-!
What a pass stages. The layers it stages are on elements of their own, and that is so also when the
frame has more clips than the pool has slots.
-/

namespace Montage

@[simp] lemma Compositor.pool_write (c : Compositor) (b : Batch) : (c.write b).pool = c.pool := by
  unfold write
  split <;> rfl

@[simp] lemma Compositor.tree_write (c : Compositor) (b : Batch) : (c.write b).tree = c.tree := by
  unfold write
  split <;> rfl

@[simp] lemma Compositor.config_write (c : Compositor) (b : Batch) :
    (c.write b).config = c.config := by
  unfold write
  split <;> rfl

@[simp] lemma Compositor.pool_flush (c : Compositor) : c.flush.2.pool = c.pool := by
  unfold flush
  split
  · rfl
  · exact Compositor.pool_write _ _

@[simp] lemma Rig.pool_requestFlush (r : Rig) : r.requestFlush.pool = r.pool := by
  unfold requestFlush
  split <;> rfl

@[simp] lemma Rig.pool_stage (r : Rig) (frame : Frame) (layers : List Layer) :
    (r.stage frame layers).pool = r.pool := by
  unfold stage
  dsimp only
  split
  · exact Rig.pool_requestFlush _
  · exact Compositor.pool_flush _

/-- The layers that a compositor has staged last: they are shown at once, or with the next
callback. -/
def Compositor.HasStaged (c : Compositor) (frame : Frame) (layers : List Layer) : Prop :=
  if c.config.batchWrites then c.tree.staged = some (frame, layers)
  else c.tree.staged = none ∧ c.tree.applied = LayerTree.shown layers

lemma Rig.hasStaged_stage (r : Rig) (frame : Frame) (layers : List Layer) :
    (r.stage frame layers).compositor.HasStaged frame layers := by
  unfold stage
  dsimp only
  split
  · next h =>
    unfold requestFlush
    split <;> simp [Compositor.HasStaged, h, LayerTree.stage]
  · next h => simp [Compositor.HasStaged, h, LayerTree.stage, Compositor.flush, LayerTree.commit]

/-- **Layers are staged on their own elements.** When a pass over whatever frame is applied, with
any work in the background, then the slot of each layer that it stages is prepared and bound to the
asset of the layer; so layers that share a slot share the asset. -/
theorem evaluate_stages_own (config : PoolConfig) (backend : Backend) (es : List Pool.Event)
    (r r' : Rig) (snapshot : Snapshot) (assets : AssetTable) (playback : PlaybackState)
    (report : Report) (pool : r.pool = (Pool.new config backend).run es)
    (idle : r.pool.work? .main = none)
    (reaches : Pass.Reaches (r.evaluate snapshot assets playback).1
      (r.evaluate snapshot assets playback).2 r' (.ended (.ok (.applied report)))) :
    ∃ layers, r'.compositor.HasStaged report.frame layers ∧ layers.length = report.layers ∧
      (∀ l ∈ layers, ∀ i, l.slot = some i →
        (r'.pool.slot i).prepared = true ∧ (r'.pool.slot i).asset = some l.asset) ∧
      ∀ l ∈ layers, ∀ k ∈ layers, ∀ i, l.slot = some i → k.slot = some i → l.asset = k.asset := by
  have hordered : r.pool.Ordered := pool ▸ (Pool.Ordered.new config backend).run es
  obtain ⟨r₁, layers, -, rfl, hlength, -, hown⟩ :=
    (Pass.fine_evaluate hordered idle).reaches reaches
  have hshows : ∀ l ∈ layers, ∀ i, l.slot = some i →
      (r₁.stage report.frame layers).pool.Shows i l.asset := by
    intro l hl i hi
    rw [Rig.pool_stage]
    exact hown l hl i hi
  refine ⟨layers, r₁.hasStaged_stage _ _, hlength, hshows, fun l hl k hk i hi hj => ?_⟩
  have hsame := (hshows l hl i hi).2.symm.trans (hshows k hk i hj).2
  exact Option.some.inj hsame

/-- Two shots, one after the other. -/
def Snapshot.shots : Snapshot :=
  .ofClips .fps30 [{ id := ⟨⟨1⟩⟩, name := "V1", order := 0 }]
    [.place ⟨⟨1⟩⟩ ⟨⟨1⟩⟩ ⟨"first"⟩ 0 30, .place ⟨⟨2⟩⟩ ⟨⟨1⟩⟩ ⟨"second"⟩ 30 30]

def AssetTable.shots : AssetTable :=
  ⟨[.video ⟨"first"⟩ "first.mp4" 20.0, .video ⟨"second"⟩ "second.mp4" 20.0]⟩

/-- A compositor with a single element. -/
def Rig.single : Rig := ⟨{ config := {}, pool := (Pool.new { poolSize := 1 } {}).run [] }, {}⟩

/-- What an applied evaluation tells. -/
def Pass.Step.report? : Pass.Step → Option Report
  | ended (.ok (.applied report)) => some report
  | _ => none

lemma Pass.Step.eq_of_report? {s : Step} {report : Report} (h : s.report? = some report) :
    s = .ended (.ok (.applied report)) := by
  unfold report? at h
  split at h
  · cases h
    rfl
  · simp at h

lemma Pass.start_of_clips {r : Rig} {snapshot : Snapshot} {actives : List ActiveClip}
    (h : r.host.playhead = 0) (hclips : (snapshot.activeAt 0).clips = actives) (assets : AssetTable)
    (playback : PlaybackState) :
    (Pass.start r snapshot assets playback).2 = actives.mapIdx fun z a => ⟨z, a⟩ := by
  rw [start, h, hclips]

lemma Rig.evaluate_of_start {r : Rig} {snapshot : Snapshot} {assets : AssetTable}
    {playback : PlaybackState} {items : List PassItem} (hopen : r.compositor.disposed = false)
    (hrate : snapshot.rate.isValid = true)
    (hitems : (Pass.start r snapshot assets playback).2 = items) :
    r.evaluate snapshot assets playback =
      (Pass.start r snapshot assets playback).1.run r items := by
  subst hitems
  simp [evaluate, hopen, hrate]

/-- A shot on a track of its own. -/
def ActiveClip.layered (n : Nat) (asset : String) : ActiveClip where
  clip := .place ⟨⟨n⟩⟩ ⟨⟨n⟩⟩ ⟨asset⟩ 0 30
  track := { id := ⟨⟨n⟩⟩, name := "V", order := n }
  sourceFrame := 0

/-- Four shots from the bottom up, the middle ones of one file. -/
def ActiveClip.crowd : List ActiveClip :=
  [.layered 1 "second", .layered 2 "first", .layered 3 "first", .layered 4 "third"]

def Snapshot.crowded : Snapshot :=
  .ofClips .fps30 (ActiveClip.crowd.map (·.track)) (ActiveClip.crowd.map (·.clip))

def AssetTable.crowded : AssetTable :=
  ⟨[.video ⟨"first"⟩ "first.mp4" 20.0, .video ⟨"second"⟩ "second.mp4" 20.0,
    .video ⟨"third"⟩ "third.mp4" 20.0]⟩

lemma Snapshot.clips_crowded : (Snapshot.crowded.activeAt 0).clips = ActiveClip.crowd := by
  have hsorted : (Snapshot.crowded.activeAt 0).clips =
      ActiveClip.crowd.mergeSort fun a b => (a.compare b).isLE := rfl
  rw [hsorted]
  exact List.mergeSort_of_pairwise (by decide)

/-- A compositor with two elements, which are being loaded in advance. -/
def Rig.crowded : Rig where
  compositor := {
    config := {}
    pool := (Pool.new { poolSize := 2 } {}).run
      [.preload [⟨"second"⟩, ⟨"first"⟩] .crowded, .resume 1, .resume 2] }
  host := {}

/-- The pass over the four shots, which waits for the first load. -/
def Rig.crowdedWaits : Rig × Pass.Step :=
  (Pass.start Rig.crowded .crowded .crowded {}).1.run Rig.crowded
    (ActiveClip.crowd.mapIdx fun z a => ⟨z, a⟩)

/-- In the meantime both loads come to an end. -/
def Rig.crowdedLoaded : Rig :=
  ((Rig.crowdedWaits.1.modifyPool fun pool =>
    Pool.Event.apply pool (.schedule { now := 20 })).modifyPool fun pool =>
      Pool.Event.apply pool (.resume 1)).modifyPool fun pool => Pool.Event.apply pool (.resume 2)

def Rig.crowdedEnds : Rig × Pass.Step := Pass.resume Rig.crowdedLoaded Rig.crowdedWaits.2

lemma Rig.evaluate_crowded : Rig.crowded.evaluate .crowded .crowded {} = Rig.crowdedWaits :=
  Rig.evaluate_of_start rfl (by decide) (Pass.start_of_clips rfl Snapshot.clips_crowded _ _)

lemma Pool.Event.background_resume {p : Pool} {t : TaskId}
    (h : (p.work? t).any (fun | .warmup .. => true | .request .. => false) = true) :
    (Event.resume t).Background p := by
  intro r stage hwork
  simp [hwork] at h

lemma Rig.reaches_crowded : Pass.Reaches Rig.crowdedWaits.1 Rig.crowdedWaits.2
    Rig.crowdedEnds.1 Rig.crowdedEnds.2 := by
  have hwaits : Rig.crowdedWaits.2.isWaiting = true := by decide +kernel
  unfold crowdedEnds
  cases hs : Rig.crowdedWaits.2 with
  | ended result => simp [hs, Pass.Step.isWaiting] at hwaits
  | waits p item asset rest =>
    exact .resume (.background (.background (.background .refl trivial)
      (Pool.Event.background_resume (by decide +kernel)))
        (Pool.Event.background_resume (by decide +kernel)))

/-- Three layers are staged. The two of one file share a slot, which is not that of the other, and
the fourth shot gets none. -/
theorem evaluate_stages_own_crowded : ∃ report layers,
    Rig.crowdedEnds.2 = .ended (.ok (.applied report)) ∧
    Rig.crowdedEnds.1.compositor.HasStaged report.frame layers ∧
    report.failures.map (·.clip) = [⟨⟨4⟩⟩] ∧
    layers.map (fun l => (l.asset, l.slot)) =
      [(⟨"second"⟩, some 0), (⟨"first"⟩, some 1), (⟨"first"⟩, some 1)] ∧
    (∀ l ∈ layers, ∀ i, l.slot = some i → (Rig.crowdedEnds.1.pool.slot i).prepared = true ∧
      (Rig.crowdedEnds.1.pool.slot i).asset = some l.asset) ∧
    ∀ l ∈ layers, ∀ k ∈ layers, ∀ i, l.slot = some i → k.slot = some i → l.asset = k.asset := by
  have hends : Rig.crowdedEnds.2.report?.any
      (fun report => report.failures.map (·.clip) = [⟨⟨4⟩⟩]) = true ∧
      Rig.crowdedEnds.1.compositor.config.batchWrites = true ∧
      Rig.crowdedEnds.1.compositor.tree.staged.all (fun s =>
        s.2.map (fun l => (l.asset, l.slot)) =
          [(⟨"second"⟩, some 0), (⟨"first"⟩, some 1), (⟨"first"⟩, some 1)]) = true := by
    decide +kernel
  have hreaches := Rig.reaches_crowded
  -- From here on nothing but these facts is needed of the end.
  generalize Rig.crowdedEnds = ends at hends hreaches ⊢
  obtain ⟨hreport, hbatch, hslots⟩ := hends
  obtain ⟨report, happlied, hfailures⟩ := Option.any_eq_true _ _ |>.mp hreport
  have hended := Pass.Step.eq_of_report? happlied
  rw [hended, ← Rig.evaluate_crowded] at hreaches
  obtain ⟨layers, hstaged, -, hshows, hshared⟩ := evaluate_stages_own { poolSize := 2 } {}
    [.preload [⟨"second"⟩, ⟨"first"⟩] .crowded, .resume 1, .resume 2] Rig.crowded _ .crowded .crowded
    {} report rfl (by decide +kernel) hreaches
  refine ⟨report, layers, hended, hstaged, by simpa using hfailures, ?_, hshows, hshared⟩
  simp only [Compositor.HasStaged, hbatch, if_true] at hstaged
  simpa [hstaged] using hslots

end Montage
